import P2PLending.Manager.Contracts
import P2PLending.Dlc.AdaptorPoints

/-! Enumerated and numerical contract infos. An enumerated info signs every
outcome under every combination of oracles, in that order. A numerical info
leaves this to a trie over the oracles' digits; the payout curve and the trie's
own functions are parameters. -/

namespace P2PLending.Manager.Infos
open Dlc Checked

inductive EventDescriptor
  | enumEvent (outcomes : List String)
  | digitDecompositionEvent (base : ℕ) (isSigned : Bool) (unit : String) (precision : ℤ)
      (nbDigits : ℕ)
  deriving DecidableEq, Repr

structure OracleEvent where
  oracleNonces : List Bytes32
  eventMaturityEpoch : ℕ
  eventDescriptor : EventDescriptor
  eventId : String
  deriving DecidableEq, Repr

structure OracleAnnouncement where
  announcementSignature : Bytes
  oraclePublicKey : Bytes32
  oracleEvent : OracleEvent
  deriving DecidableEq, Repr

def OracleAnnouncement.oracleInfo (a : OracleAnnouncement) : OracleInfo where
  publicKey := a.oraclePublicKey
  nonces := a.oracleEvent.oracleNonces

structure OracleAttestation where
  signatures : List OracleSignature
  outcomes : List String
  deriving DecidableEq, Repr

structure EnumerationPayout where
  outcome : String
  payout : Payout
  deriving DecidableEq, Repr

abbrev EnumDescriptor := List EnumerationPayout

structure RangePayout where
  start : ℕ
  count : ℕ
  payout : Payout
  deriving DecidableEq, Repr

structure TrieIterInfo where
  indexes : List ℕ
  paths : List (List ℕ)
  value : RangeInfo
  deriving DecidableEq, Repr

/-- Numerical descriptors with their payout curve, and the tries over digits. -/
structure Numerics where
  Descriptor : Type
  Trie : Type
  validate : Descriptor → Result Unit
  getRangePayouts : Descriptor → (totalCollateral : ℕ) → Result (List RangePayout)
  newTrie : Descriptor → (threshold : ℕ) → Dlc.Result Trie
  generate : Trie → (adaptorIndexStart : ℕ) → List RangePayout →
    Dlc.Result (Trie × List TrieIterInfo)
  iter : Trie → List TrieIterInfo
  lookUp : Trie → List (ℕ × List ℕ) → Option (RangeInfo × List (ℕ × List ℕ))

inductive ContractDescriptor (N : Numerics)
  | enum (d : EnumDescriptor)
  | numerical (d : N.Descriptor)

structure ContractInfo (N : Numerics) where
  contractDescriptor : ContractDescriptor N
  oracleAnnouncements : List OracleAnnouncement
  threshold : ℕ

/-- A trie with or without a difference between the oracles is one case here. -/
inductive AdaptorInfo (N : Numerics)
  | enum
  | numerical (trie : N.Trie)

def unreachable {α : Type} : Result α :=
  .error (.panic "internal error: entered unreachable code")

abbrev OracleIndexAndPrefixLength := List (ℕ × ℕ)

/-- The indexes of the attestations with one outcome list, kept by outcome list. -/
def countOutcome (groups : List (List String × List ℕ)) (outcome : ℕ × List String) :
    List (List String × List ℕ) :=
  if groups.any (·.1 = outcome.2) then
    groups.map fun g => if g.1 = outcome.2 then (g.1, g.2 ++ [outcome.1]) else g
  else groups ++ [(outcome.2, [outcome.1])]

/-- `get_majority_combination`: the last of the largest groups in the order in
which the hash map gives them. -/
def getMajorityCombination (order : List (List String × List ℕ) → List (List String × List ℕ))
    (outcomes : List (ℕ × List String)) : Option (List String × List ℕ) :=
  ((order (outcomes.foldl countOutcome [])).mergeSort fun x y =>
    x.2.length ≤ y.2.length).getLast?

section Source
variable (K : AdaptorCrypto) {N : Numerics}

section Enum
variable (e : EnumDescriptor) (oracleInfos : List OracleInfo) (threshold : ℕ)

def enumMessage (outcome : String) : Message := K.sha256 outcome.toUTF8.toList

def selectInfos (selector : List ℕ) : List OracleInfo :=
  (oracleInfos.zipIdx.filter fun x => selector.contains x.2).map Prod.fst

def enumAdaptorPoint (outcome : String) (selector : List ℕ) : Dlc.Result PublicKey :=
  getAdaptorPointFromOracleInfo K (selectInfos oracleInfos selector)
    (List.replicate threshold [enumMessage K outcome])

/-- `iter_outcomes`, with what the callback changes. -/
def iterOutcomes {σ : Type} (callback : σ → PublicKey → ℕ → Result σ) (init : σ) : Result σ := do
  let combinations ← ofDlc (combinations oracleInfos.length threshold)
  e.zipIdx.foldlM (fun s (x, i) => combinations.foldlM (fun s selector => do
    let adaptorPoint ← ofDlc (enumAdaptorPoint K oracleInfos threshold x.outcome selector)
    callback s adaptorPoint i) s) init

def enumGetAdaptorSignatures (cets : List Transaction) (fundPrivkey : SecretKey) (script : Bytes)
    (value : ℕ) : Result (List AdaptorSignature) :=
  iterOutcomes K e oracleInfos threshold (fun sigs adaptorPoint cetIndex => do
    let cet ← index cets cetIndex
    let sig ← ofDlc (createCetAdaptorSigFromPoint K cet adaptorPoint fundPrivkey script value)
    .ok (sigs ++ [sig])) []

def enumVerifyAdaptorInfo (fundPubkey : PublicKey) (script : Bytes) (value : ℕ)
    (cets : List Transaction) (adaptorSigs : List AdaptorSignature) (adaptorSigStart : ℕ) :
    Result ℕ :=
  iterOutcomes K e oracleInfos threshold (fun adaptorSigIndex adaptorPoint cetIndex => do
    let sig ← index adaptorSigs adaptorSigIndex
    let cet ← index cets cetIndex
    ofDlc (verifyCetAdaptorSigFromPoint K sig cet adaptorPoint fundPubkey script value)
    .ok (adaptorSigIndex + 1)) adaptorSigStart

/-- The index of the combination, zero if it is not found, and their number. -/
def combinationPosition (combinations : List (List ℕ)) (combination : List ℕ) : ℕ :=
  combinations.zipIdx.foldl (fun pos (c, i) => if c = combination then i else pos) 0

def enumGetRangeInfoForOutcome
    (order : List (List String × List ℕ) → List (List String × List ℕ)) (nbOracles : ℕ)
    (outcomes : List (ℕ × List String)) (adaptorSigStart : ℕ) :
    Result (Option (OracleIndexAndPrefixLength × RangeInfo)) :=
  if outcomes.length < threshold then .ok none
  else match getMajorityCombination order (outcomes.filter (·.2.length = 1)) with
    | some (outcome :: _, actualCombination) =>
        if actualCombination.length < threshold then .ok none
        else match e.findIdx? (·.outcome = outcome) with
          | some pos => do
              let combinations ← ofDlc (combinations nbOracles threshold)
              let actualCombination := actualCombination.take threshold
              .ok (some (actualCombination.map (·, 1),
                { cetIndex := pos
                  adaptorIndex := combinations.length * pos +
                    combinationPosition combinations actualCombination + adaptorSigStart }))
          | none => .ok none
    | _ => .ok none

end Enum

section Trie

/-- `sign_helper`: the signatures in the order of their indexes. -/
def signHelper (cets : List Transaction) (fundPrivkey : SecretKey) (script : Bytes) (value : ℕ)
    (precomputedPoints : List (List (List PublicKey))) (trieInfo : List TrieIterInfo) :
    Result (List AdaptorSignature) := do
  let unsorted ← trieInfo.mapM fun x => do
    let adaptorPoint ← ofDlc (getAdaptorPointForIndexedPaths K x.indexes x.paths precomputedPoints)
    let cet ← index cets x.value.cetIndex
    let sig ← ofDlc (createCetAdaptorSigFromPoint K cet adaptorPoint fundPrivkey script value)
    .ok (x.value.adaptorIndex, sig)
  .ok ((unsorted.mergeSort fun a b => a.1 ≤ b.1).map Prod.snd)

/-- `verify_helper`: the index after the largest. -/
def verifyHelper (fundPubkey : PublicKey) (script : Bytes) (value : ℕ) (cets : List Transaction)
    (adaptorSigs : List AdaptorSignature) (precomputedPoints : List (List (List PublicKey)))
    (trieInfo : List TrieIterInfo) : Result ℕ := do
  let maxAdaptorIndex ← unwrapSome (trieInfo.map (·.value.adaptorIndex)).max?
  trieInfo.forM fun x => do
    let adaptorPoint ← ofDlc (getAdaptorPointForIndexedPaths K x.indexes x.paths precomputedPoints)
    let sig ← index adaptorSigs x.value.adaptorIndex
    let cet ← index cets x.value.cetIndex
    ofDlc (verifyCetAdaptorSigFromPoint K sig cet adaptorPoint fundPubkey script value)
  .ok (maxAdaptorIndex + 1)

end Trie

/-- `str::parse::<usize>`: decimal digits, after at most one plus sign. -/
def parseUsize (s : String) : Option ℕ :=
  let digits := match s.toList with
    | '+' :: rest => rest
    | digits => digits
  if digits ≠ [] ∧ digits.all Char.isDigit then
    let n := digits.foldl (fun n c => 10 * n + (c.toNat - '0'.toNat)) 0
    if n < u64Limit then some n else none
  else none

/-- Attestations that are not made of numbers are passed over. -/
def outcomesToDigits (outcomes : List (ℕ × List String)) : List (ℕ × List ℕ) :=
  outcomes.filterMap fun x => (x.2.mapM parseUsize).map (x.1, ·)

namespace ContractInfo
variable (info : ContractInfo N)

def getPayouts (totalCollateral : ℕ) : Result (List Payout) :=
  match info.contractDescriptor with
  | .enum e => .ok (e.map (·.payout))
  | .numerical n => do
      let ranges ← N.getRangePayouts n totalCollateral
      .ok (ranges.map (·.payout))

def getOracleInfos : List OracleInfo := info.oracleAnnouncements.map OracleAnnouncement.oracleInfo

def precomputePoints : Result (List (List (List PublicKey))) :=
  info.oracleAnnouncements.mapM fun x =>
    match x.oracleEvent.eventDescriptor with
    | .digitDecompositionEvent base _ _ _ nbDigits => do
        ensure (nbDigits = x.oracleEvent.oracleNonces.length)
          (.err (.invalidParameters "Number of digits and nonces must be equal"))
        x.oracleEvent.oracleNonces.mapM fun nonce => (List.range base).mapM fun j =>
          ofDlc (ofOption (K.sigPoint x.oraclePublicKey nonce (enumMessage K (toString j))))
    | .enumEvent _ => .error (.err (.invalidParameters "Expected digit decomposition event."))

def getAdaptorSignatures (adaptorInfo : AdaptorInfo N) (signer : ContractSigner) (script : Bytes)
    (value : ℕ) (cets : List Transaction) : Result (List AdaptorSignature) := do
  let fundPrivkey ← signer.secretKey
  match adaptorInfo, info.contractDescriptor with
  | .enum, .enum e =>
      enumGetAdaptorSignatures K e info.getOracleInfos info.threshold cets fundPrivkey script value
  | .enum, .numerical _ => unreachable
  | .numerical trie, _ => do
      let points ← info.precomputePoints K
      signHelper K cets fundPrivkey script value points (N.iter trie)

def verifyAndGetAdaptorInfo (totalCollateral : ℕ) (fundPubkey : PublicKey) (script : Bytes)
    (value : ℕ) (cets : List Transaction) (adaptorSigs : List AdaptorSignature)
    (adaptorSigStart : ℕ) : Result (AdaptorInfo N × ℕ) :=
  match info.contractDescriptor with
  | .enum e => do
      let next ← enumVerifyAdaptorInfo K e info.getOracleInfos info.threshold fundPubkey script
        value cets adaptorSigs adaptorSigStart
      .ok (.enum, next)
  | .numerical n => do
      let points ← info.precomputePoints K
      let trie ← ofDlc (N.newTrie n info.threshold)
      let ranges ← N.getRangePayouts n totalCollateral
      let (trie, trieInfo) ← ofDlc (N.generate trie adaptorSigStart ranges)
      let next ← verifyHelper K fundPubkey script value cets adaptorSigs points trieInfo
      .ok (.numerical trie, next)

def verifyAdaptorInfo (fundPubkey : PublicKey) (script : Bytes) (value : ℕ)
    (cets : List Transaction) (adaptorSigs : List AdaptorSignature) (adaptorSigStart : ℕ)
    (adaptorInfo : AdaptorInfo N) : Result ℕ :=
  match info.contractDescriptor, adaptorInfo with
  | .enum e, _ => enumVerifyAdaptorInfo K e info.getOracleInfos info.threshold fundPubkey script
      value cets adaptorSigs adaptorSigStart
  | .numerical _, .enum => unreachable
  | .numerical _, .numerical trie => do
      let points ← info.precomputePoints K
      verifyHelper K fundPubkey script value cets adaptorSigs points (N.iter trie)

def getAdaptorInfo (totalCollateral : ℕ) (fundPrivkey : SecretKey) (script : Bytes) (value : ℕ)
    (cets : List Transaction) (adaptorIndexStart : ℕ) :
    Result (AdaptorInfo N × List AdaptorSignature) :=
  match info.contractDescriptor with
  | .enum e => do
      let sigs ← enumGetAdaptorSignatures K e info.getOracleInfos info.threshold cets fundPrivkey
        script value
      .ok (.enum, sigs)
  | .numerical n => do
      let points ← info.precomputePoints K
      let trie ← ofDlc (N.newTrie n info.threshold)
      let ranges ← N.getRangePayouts n totalCollateral
      let (trie, trieInfo) ← ofDlc (N.generate trie adaptorIndexStart ranges)
      let sigs ← signHelper K cets fundPrivkey script value points trieInfo
      .ok (.numerical trie, sigs)

variable (order : List (List String × List ℕ) → List (List String × List ℕ))

def getRangeInfoForOutcome (adaptorInfo : AdaptorInfo N) (outcomes : List (ℕ × List String))
    (adaptorSigStart : ℕ) : Result (Option (OracleIndexAndPrefixLength × RangeInfo)) :=
  match adaptorInfo, info.contractDescriptor with
  | .enum, .enum e =>
      enumGetRangeInfoForOutcome e info.threshold order info.oracleAnnouncements.length outcomes
        adaptorSigStart
  | .enum, .numerical _ => unreachable
  | .numerical trie, _ => .ok ((N.lookUp trie (outcomesToDigits outcomes)).map fun (value, paths) =>
      (paths.map fun (x, y) => (x, y.length), value))

/-- Every info is asked with the start zero. -/
def getRangeInfoAndOracleSigs (adaptorInfo : AdaptorInfo N)
    (attestations : List (ℕ × OracleAttestation)) :
    Result (RangeInfo × List (List OracleSignature)) := do
  let found ← info.getRangeInfoForOutcome order adaptorInfo
    (attestations.map fun (i, a) => (i, a.outcomes)) 0
  match found with
  | some (sigInfos, rangeInfo) =>
      .ok (rangeInfo, attestations.filterMap fun (i, a) =>
        (sigInfos.find? (·.1 = i)).map fun sigInfo => a.signatures.take sigInfo.2)
  | none => .error (.err (.invalidState "Could not find closing info for given outcomes"))

/-- The outcomes two lists name, as often as they name them. -/
def unorderedEqual (a b : List String) : Bool := a.isPerm b

def validateOracleEvents (outcomes : List String) : Result Unit :=
  info.oracleAnnouncements.forM fun announcement =>
    match announcement.oracleEvent.eventDescriptor with
    | .enumEvent other =>
        ensure (unorderedEqual outcomes other = true)
          (.err (.invalidParameters "Oracles don't have same enum outcomes."))
    | .digitDecompositionEvent .. =>
        .error (.err (.invalidParameters "Expected enum event descriptor."))

def validate : Result Unit :=
  match info.oracleAnnouncements with
  | [] => .error (.err (.invalidState "ContractInfo doesn't contain any announcement."))
  | first :: _ =>
      match first.oracleEvent.eventDescriptor, info.contractDescriptor with
      | .enumEvent outcomes, .enum e => do
          info.validateOracleEvents outcomes
          ensure (unorderedEqual outcomes (e.map (·.outcome)) = true)
            (.err (.invalidParameters
              "Oracle outcomes do not each have a single associated payout."))
      | .enumEvent outcomes, .numerical _ => do
          info.validateOracleEvents outcomes
          .error (.err (.invalidParameters "Event descriptor from contract and oracle differ."))
      | .digitDecompositionEvent .., .numerical n => N.validate n
      | .digitDecompositionEvent .., .enum _ =>
          .error (.err (.invalidParameters "Event descriptor from contract and oracle differ."))

end ContractInfo

/-- The manager's descriptors, at enumerated and numerical contract infos. -/
def contractDescriptors (N : Numerics)
    (order : List (List String × List ℕ) → List (List String × List ℕ)) : Descriptors where
  ContractInfo := ContractInfo N
  AdaptorInfo := AdaptorInfo N
  OracleAttestation := OracleAttestation
  validate := ContractInfo.validate
  getPayouts := ContractInfo.getPayouts
  verifyAndGetAdaptorInfo := fun info => info.verifyAndGetAdaptorInfo K
  getAdaptorInfo := fun info => info.getAdaptorInfo K
  getAdaptorSignatures := fun info => info.getAdaptorSignatures K
  getRangeInfoAndOracleSigs := fun info => info.getRangeInfoAndOracleSigs order

end Source

/-- No numerical contracts. -/
def sampleNumerics : Numerics where
  Descriptor := Empty
  Trie := Empty
  validate := nofun
  getRangePayouts := nofun
  newTrie := nofun
  generate := nofun
  iter := nofun
  lookUp := nofun

def sampleAnnouncement (nonce : Bytes32) : OracleAnnouncement where
  announcementSignature := []
  oraclePublicKey := 5
  oracleEvent := {
    oracleNonces := [nonce]
    eventMaturityEpoch := 10
    eventDescriptor := .enumEvent ["up", "down"]
    eventId := "price" }

/-- An enumerated info with one oracle. -/
def sampleEnumInfo (nonce : Bytes32) (up down : Payout) : ContractInfo sampleNumerics where
  contractDescriptor := .enum [⟨"up", up⟩, ⟨"down", down⟩]
  oracleAnnouncements := [sampleAnnouncement nonce]
  threshold := 1

end P2PLending.Manager.Infos
