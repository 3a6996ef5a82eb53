import P2PLending.Manager.SignedPlaces

/-! Contracts in messages: one event or several of them, each with its payouts and its
oracles' announcements, how they become the manager's contract infos and back, and the
checks of a channel offer. The curve of a numerical outcome is a parameter. -/

namespace P2PLending.Manager.Infos
open Dlc Checked

structure OracleParams where
  maxErrorExp : ℕ
  minFailExp : ℕ
  maximizeCoverage : Bool
  deriving DecidableEq, Repr

inductive SerOracleInfo
  | single (oracleAnnouncement : OracleAnnouncement)
  | multi (threshold : ℕ) (oracleAnnouncements : List OracleAnnouncement)
      (oracleParams : Option OracleParams)

structure ContractOutcome where
  outcome : String
  offerPayout : ℕ
  deriving DecidableEq, Repr

structure DifferenceParams where
  maxErrorExp : ℕ
  minSupportExp : ℕ
  maximizeCoverage : Bool
  deriving DecidableEq, Repr

structure OracleNumericInfo where
  base : ℕ
  nbDigits : List ℕ
  deriving DecidableEq, Repr

/-- The numerical descriptors of messages and the way to and from the manager's. -/
structure MessageNumerics (N : Numerics) where
  Descriptor : Type
  toNumerical : Descriptor → Option DifferenceParams → OracleNumericInfo → N.Descriptor
  ofNumerical : N.Descriptor → Descriptor
  differenceParams : N.Descriptor → Option DifferenceParams

/-- Schnorr signatures, and an event as the bytes that are signed. -/
structure OracleCrypto where
  write : OracleEvent → Bytes
  verifySchnorr : (signature : Bytes) → Message → (publicKey : Bytes32) → Bool

variable {N : Numerics}

inductive SerContractDescriptor (M : MessageNumerics N)
  | enumerated (payouts : List ContractOutcome)
  | numericOutcome (d : M.Descriptor)

structure ContractInfoInner (M : MessageNumerics N) where
  contractDescriptor : SerContractDescriptor M
  oracleInfo : SerOracleInfo

inductive SerContractInfo (M : MessageNumerics N)
  | single (totalCollateral : ℕ) (contractInfo : ContractInfoInner M)
  | disjoint (totalCollateral : ℕ) (contractInfos : List (ContractInfoInner M))

section Read
variable {M : MessageNumerics N}

namespace SerOracleInfo

def announcements : SerOracleInfo → List OracleAnnouncement
  | single a => [a]
  | multi _ as _ => as

def threshold : SerOracleInfo → ℕ
  | single _ => 1
  | multi threshold _ _ => threshold

def differenceParams : SerOracleInfo → Option DifferenceParams
  | single _ => none
  | multi _ _ params => params.map fun p => ⟨p.maxErrorExp, p.minFailExp, p.maximizeCoverage⟩

end SerOracleInfo

def readOutcome (totalCollateral : ℕ) (x : ContractOutcome) : Result EnumerationPayout := do
  let accept ← ofDlc (amountSub totalCollateral x.offerPayout)
  .ok ⟨x.outcome, ⟨x.offerPayout, accept⟩⟩

def OracleAnnouncement.isEnum (a : OracleAnnouncement) : Bool :=
  match a.oracleEvent.eventDescriptor with
  | .enumEvent _ => true
  | .digitDecompositionEvent .. => false

def OracleAnnouncement.base (a : OracleAnnouncement) : Result ℕ :=
  match a.oracleEvent.eventDescriptor with
  | .digitDecompositionEvent base .. => .ok base
  | .enumEvent _ => .error (.err .conversion)

def OracleAnnouncement.nbDigits (expectedBase : ℕ) (a : OracleAnnouncement) : Result ℕ :=
  match a.oracleEvent.eventDescriptor with
  | .digitDecompositionEvent base _ _ _ nbDigits => do
      ensure (base = expectedBase) (.err .conversion)
      .ok nbDigits
  | .enumEvent _ => .error (.err .conversion)

/-- The digits of every oracle, all in the base of the first. -/
def oracleNumericInfo (announcements : List OracleAnnouncement) : Result OracleNumericInfo := do
  let expectedBase ← match announcements with
    | [] => .error (.err .conversion)
    | first :: _ => first.base
  let nbDigits ← announcements.mapM (·.nbDigits expectedBase)
  .ok ⟨expectedBase, nbDigits⟩

def readDescriptor (totalCollateral : ℕ) (c : ContractInfoInner M) :
    Result (ContractDescriptor N) :=
  match c.contractDescriptor with
  | .enumerated payouts => do
      let outcomePayouts ← payouts.mapM (readOutcome totalCollateral)
      ensure (c.oracleInfo.announcements.all OracleAnnouncement.isEnum = true) (.err .conversion)
      .ok (.enum outcomePayouts)
  | .numericOutcome numeric => do
      let numbers ← oracleNumericInfo c.oracleInfo.announcements
      .ok (.numerical (M.toNumerical numeric c.oracleInfo.differenceParams numbers))

def readContractInfo (totalCollateral : ℕ) (c : ContractInfoInner M) : Result (ContractInfo N) := do
  let descriptor ← readDescriptor totalCollateral c
  .ok ⟨descriptor, c.oracleInfo.announcements, c.oracleInfo.threshold⟩

namespace SerContractInfo

def totalCollateral : SerContractInfo M → ℕ
  | single total _ => total
  | disjoint total _ => total

def contractInfos : SerContractInfo M → List (ContractInfoInner M)
  | single _ c => [c]
  | disjoint _ cs => cs

/-- `get_contract_info_and_announcements` -/
def getContractInfoAndAnnouncements (info : SerContractInfo M) : Result (List (ContractInfo N)) :=
  info.contractInfos.mapM (readContractInfo info.totalCollateral)

end SerContractInfo

end Read

section Write
variable (M : MessageNumerics N)

def writeOracleInfo (info : ContractInfo N) : SerOracleInfo :=
  match info.oracleAnnouncements with
  | [a] => .single a
  | announcements =>
      let params := match info.contractDescriptor with
        | .numerical n => M.differenceParams n
        | .enum _ => none
      .multi (info.threshold % 2 ^ 16) announcements
        (params.map fun p => ⟨p.maxErrorExp % 2 ^ 16, p.minSupportExp % 2 ^ 16, p.maximizeCoverage⟩)

def writeContractInfo (info : ContractInfo N) : ContractInfoInner M where
  contractDescriptor := match info.contractDescriptor with
    | .enum e => .enumerated (e.map fun x => ⟨x.outcome, x.payout.offer⟩)
    | .numerical n => .numericOutcome (M.ofNumerical n)
  oracleInfo := writeOracleInfo M info

def writeContract (totalCollateral : ℕ) (infos : List (ContractInfo N)) : SerContractInfo M :=
  match infos.map (writeContractInfo M) with
  | [c] => .single totalCollateral c
  | cs => .disjoint totalCollateral cs

end Write

/-! The checks of a channel offer. -/

section Offer
variable (K : Crypto) (O : OracleCrypto) {M : MessageNumerics N}

def OracleEvent.expectedNbNonces (event : OracleEvent) : ℕ :=
  match event.eventDescriptor with
  | .enumEvent _ => 1
  | .digitDecompositionEvent _ isSigned _ _ nbDigits => if isSigned then nbDigits + 1 else nbDigits

def OracleEvent.validate (event : OracleEvent) : Dlc.Result Unit :=
  ensure (event.expectedNbNonces = event.oracleNonces.length) (.err .invalidArgument)

def OracleAnnouncement.validate (a : OracleAnnouncement) : Dlc.Result Unit := do
  let msg := K.sha256 (O.write a.oracleEvent)
  ensure (O.verifySchnorr a.announcementSignature msg a.oraclePublicKey = true) (.err .secp256k1)
  a.oracleEvent.validate

/-- The least of the dates, there being one. -/
def closestDate (message : String) (dates : List ℕ) : Dlc.Result ℕ :=
  match dates.min? with
  | some date => .ok date
  | none => .error (.panic message)

def SerOracleInfo.getClosestMaturityDate (info : SerOracleInfo) : Dlc.Result ℕ :=
  closestDate "to have at least one event"
    (info.announcements.map fun a => a.oracleEvent.eventMaturityEpoch)

def SerContractInfo.getClosestMaturityDate : SerContractInfo M → Dlc.Result ℕ
  | single _ c => c.oracleInfo.getClosestMaturityDate
  | disjoint _ cs => do
      let dates ← cs.mapM fun c => c.oracleInfo.getClosestMaturityDate
      closestDate "to have at least one element" dates

/-- A date in seconds and a delay. -/
def dateAdd (date delay : ℕ) : Dlc.Result ℕ :=
  Checked.add (2 ^ 32) (.panic "attempt to add with overflow") date delay

/-- What the validation of a channel offer reads. -/
structure OfferChannel (M : MessageNumerics N) where
  contractInfo : SerContractInfo M
  cetLocktime : ℕ
  refundLocktime : ℕ
  cetNsequence : ℕ

namespace OfferChannel
variable (offer : OfferChannel M) (minTimeoutInterval maxTimeoutInterval minCetNsequence
  maxCetNsequence : ℕ)

/-- A sum is only made when the checks before it hold. -/
def validDates (closestMaturityDate : ℕ) : Dlc.Result Bool :=
  if offer.cetLocktime ≤ closestMaturityDate then do
    let earliest ← dateAdd closestMaturityDate minTimeoutInterval
    if earliest ≤ offer.refundLocktime then do
      let latest ← dateAdd closestMaturityDate maxTimeoutInterval
      .ok (offer.refundLocktime ≤ latest && minCetNsequence ≤ offer.cetNsequence &&
        offer.cetNsequence ≤ maxCetNsequence)
    else .ok false
  else .ok false

def validate : Dlc.Result Unit := do
  let closestMaturityDate ← offer.contractInfo.getClosestMaturityDate
  let valid ← offer.validDates minTimeoutInterval maxTimeoutInterval minCetNsequence
    maxCetNsequence closestMaturityDate
  ensure (valid = true) (.err .invalidArgument)
  offer.contractInfo.contractInfos.forM fun c =>
    c.oracleInfo.announcements.forM fun a => a.validate K O

end OfferChannel

end Offer

/-! What the checks come to. -/

section Validated
variable {K : Crypto} {O : OracleCrypto} {M : MessageNumerics N}

/-- The oracle's signature, and a nonce for each part of the outcome. -/
def OracleAnnouncement.Valid (K : Crypto) (O : OracleCrypto) (a : OracleAnnouncement) : Prop :=
  O.verifySchnorr a.announcementSignature (K.sha256 (O.write a.oracleEvent)) a.oraclePublicKey ∧
    a.oracleEvent.expectedNbNonces = a.oracleEvent.oracleNonces.length

instance {a : OracleAnnouncement} : Decidable (a.Valid K O) := inferInstanceAs (Decidable (_ ∧ _))

theorem OracleAnnouncement.validate_ok {a : OracleAnnouncement} :
    a.validate K O = .ok () ↔ a.Valid K O := by
  simp [OracleAnnouncement.validate, OracleEvent.validate, bind_eq_ok, OracleAnnouncement.Valid]

theorem validDates_ok {offer : OfferChannel M} {minT maxT minN maxN closest : ℕ}
    (ordered : minT ≤ maxT) :
    offer.validDates minT maxT minN maxN closest = .ok true ↔
      (offer.cetLocktime ≤ closest ∧ closest + minT ≤ offer.refundLocktime ∧
        offer.refundLocktime ≤ closest + maxT ∧ closest + maxT < 2 ^ 32) ∧
      minN ≤ offer.cetNsequence ∧ offer.cetNsequence ≤ maxN := by
  unfold OfferChannel.validDates dateAdd
  split
  next early =>
    rw [bind_eq_ok]
    constructor
    · rintro ⟨earliest, added, h⟩
      obtain ⟨-, rfl⟩ := add_eq_ok.mp added
      split at h
      next after =>
        obtain ⟨latest, added, h⟩ := bind_eq_ok.mp h
        obtain ⟨fits, rfl⟩ := add_eq_ok.mp added
        simp only [Except.ok.injEq, Bool.and_eq_true, decide_eq_true_eq] at h
        exact ⟨⟨early, after, h.1.1, fits⟩, h.1.2, h.2⟩
      next => cases h
    · rintro ⟨⟨-, after, before, fits⟩, low, high⟩
      have room : closest + minT < 2 ^ 32 := (Nat.add_le_add_left ordered closest).trans_lt fits
      refine ⟨_, add_eq_ok.mpr ⟨room, rfl⟩, ?_⟩
      rw [if_pos after]
      exact bind_eq_ok.mpr ⟨_, add_eq_ok.mpr ⟨fits, rfl⟩, by simp [before, low, high]⟩
  next late => simp [late]

theorem OfferChannel.validate_ok {offer : OfferChannel M} {minT maxT minN maxN : ℕ}
    (ordered : minT ≤ maxT) :
    offer.validate K O minT maxT minN maxN = .ok () ↔
      (∃ closest, offer.contractInfo.getClosestMaturityDate = .ok closest ∧
        (offer.cetLocktime ≤ closest ∧ closest + minT ≤ offer.refundLocktime ∧
          offer.refundLocktime ≤ closest + maxT ∧ closest + maxT < 2 ^ 32) ∧
        minN ≤ offer.cetNsequence ∧ offer.cetNsequence ≤ maxN) ∧
      ∀ c ∈ offer.contractInfo.contractInfos, ∀ a ∈ c.oracleInfo.announcements, a.Valid K O := by
  simp only [OfferChannel.validate, bind_eq_ok, ensure_eq_ok, forM_eq_ok,
    OracleAnnouncement.validate_ok]
  constructor
  · rintro ⟨closest, dated, valid, dates, _, rfl, oracles⟩
    exact ⟨⟨closest, dated, (validDates_ok ordered).mp dates⟩, oracles⟩
  · rintro ⟨⟨closest, dated, dates⟩, oracles⟩
    exact ⟨closest, dated, true, (validDates_ok ordered).mpr dates, (), rfl, oracles⟩

theorem payoutsSumTo_covers {total : ℕ} {payouts : List Payout}
    (sums : payoutsSumTo total payouts = .ok true) : ∀ p ∈ payouts, p.accept + p.offer = total := by
  induction payouts with
  | nil => simp
  | cons p payouts ih =>
      rw [payoutsSumTo, bind_eq_ok] at sums
      obtain ⟨sum, added, rest⟩ := sums
      obtain ⟨-, rfl⟩ := add_eq_ok.mp (ofDlc_eq_ok.mp added)
      rw [List.forall_mem_cons]
      split at rest
      next same => exact ⟨same, ih rest⟩
      next => cases rest

/-- Payouts that a total covers exactly. -/
theorem payoutsSumTo_ok {total : ℕ} (limit : total < u64Limit) {payouts : List Payout} :
    payoutsSumTo total payouts = .ok true ↔ ∀ p ∈ payouts, p.accept + p.offer = total := by
  refine ⟨payoutsSumTo_covers, fun covers => ?_⟩
  induction payouts with
  | nil => rfl
  | cons p payouts ih =>
      rw [List.forall_mem_cons] at covers
      obtain ⟨same, rest⟩ := covers
      rw [payoutsSumTo, bind_eq_ok]
      refine ⟨total, ofDlc_eq_ok.mpr (add_eq_ok.mpr ⟨same ▸ limit, same.symm⟩), ?_⟩
      rw [if_pos rfl]
      exact ih rest

theorem readOutcomes_ok {total : ℕ} {outcomes : List ContractOutcome} {e : EnumDescriptor}
    (read : outcomes.mapM (readOutcome total) = .ok e) :
    e.map (·.outcome) = outcomes.map (·.outcome) ∧
      ∀ p ∈ e.map (·.payout), p.accept + p.offer = total := by
  have each := mapM_eq_ok.mp read
  clear read
  induction each with
  | nil => simp
  | cons head _ ih =>
      simp only [readOutcome, bind_eq_ok, ofDlc_eq_ok, amountSub, sub_eq_ok, Except.ok.injEq] at head
      obtain ⟨_, ⟨covered, rfl⟩, rfl⟩ := head
      refine ⟨by simp [ih.1], ?_⟩
      rw [List.map_cons, List.forall_mem_cons]
      exact ⟨Nat.sub_add_cancel covered, ih.2⟩

/-- An event that fits a channel's total: the outcomes of an enumerated one are those
that every oracle announces, and its payouts share the total that its message names. -/
def ContractInfoInner.Fits (messageTotal total : ℕ) (c : ContractInfoInner M) : Prop :=
  match c.contractDescriptor with
  | .enumerated payouts =>
      c.oracleInfo.announcements ≠ [] ∧
        (∀ a ∈ c.oracleInfo.announcements, ∃ outcomes,
          a.oracleEvent.eventDescriptor = .enumEvent outcomes ∧
            outcomes.Perm (payouts.map (·.outcome))) ∧
        (payouts ≠ [] → messageTotal = total)
  | .numericOutcome numeric =>
      ∀ numbers, oracleNumericInfo c.oracleInfo.announcements = .ok numbers →
        let n := M.toNumerical numeric c.oracleInfo.differenceParams numbers
        N.validate n = .ok () ∧ ∃ ranges, N.getRangePayouts n total = .ok ranges ∧
          ∀ r ∈ ranges, r.payout.accept + r.payout.offer = total

theorem validateOracleEvents_ok {info : ContractInfo N} {outcomes : List String} {u : Unit} :
    info.validateOracleEvents outcomes = .ok u ↔ ∀ a ∈ info.oracleAnnouncements, ∃ other,
      a.oracleEvent.eventDescriptor = .enumEvent other ∧ outcomes.Perm other := by
  rw [ContractInfo.validateOracleEvents, forM_eq_ok]
  refine forall₂_congr fun a _ => ?_
  cases a.oracleEvent.eventDescriptor with
  | enumEvent other =>
      refine ensure_eq_ok.trans ?_
      simp [ContractInfo.unorderedEqual, List.isPerm_iff]
  | digitDecompositionEvent => simp

theorem validate_enum_ok {announcements : List OracleAnnouncement} {threshold : ℕ}
    {e : EnumDescriptor} :
    (⟨.enum e, announcements, threshold⟩ : ContractInfo N).validate = .ok () ↔
      announcements ≠ [] ∧ ∀ a ∈ announcements, ∃ outcomes,
        a.oracleEvent.eventDescriptor = .enumEvent outcomes ∧
          outcomes.Perm (e.map (·.outcome)) := by
  cases announcements with
  | nil => simp [ContractInfo.validate]
  | cons first rest =>
      cases event : first.oracleEvent.eventDescriptor with
      | digitDecompositionEvent => simp [ContractInfo.validate, event]
      | enumEvent outcomes =>
          simp only [ContractInfo.validate, event, bind_eq_ok, validateOracleEvents_ok,
            ensure_eq_ok, ContractInfo.unorderedEqual, List.isPerm_iff]
          constructor
          · rintro ⟨_, same, payouts⟩
            refine ⟨List.cons_ne_nil _ _, fun a listed => ?_⟩
            obtain ⟨other, described, perm⟩ := same a listed
            exact ⟨other, described, perm.symm.trans payouts⟩
          · rintro ⟨-, each⟩
            obtain ⟨_, described, payouts⟩ := each first List.mem_cons_self
            obtain rfl := EventDescriptor.enumEvent.inj (event.symm.trans described)
            refine ⟨(), fun a listed => ?_, payouts⟩
            obtain ⟨other, described, perm⟩ := each a listed
            exact ⟨other, described, payouts.trans perm.symm⟩

theorem oracleNumericInfo_ok {announcements : List OracleAnnouncement}
    {numbers : OracleNumericInfo} (read : oracleNumericInfo announcements = .ok numbers) :
    ∃ first rest, announcements = first :: rest ∧
      ∃ base isSigned unit precision nbDigits, first.oracleEvent.eventDescriptor =
        .digitDecompositionEvent base isSigned unit precision nbDigits := by
  cases announcements with
  | nil => simp [oracleNumericInfo] at read
  | cons first rest =>
      simp only [oracleNumericInfo, bind_eq_ok] at read
      obtain ⟨base, based, -⟩ := read
      unfold OracleAnnouncement.base at based
      split at based
      next described => exact ⟨first, rest, rfl, _, _, _, _, _, described⟩
      next => cases based

/-- Reading checks none of it: what passes the manager's checks is what fits. -/
theorem readContractInfo_fits {messageTotal total : ℕ} (limit : total < u64Limit)
    {c : ContractInfoInner M} {info : ContractInfo N}
    (read : readContractInfo messageTotal c = .ok info) :
    (info.validate = .ok () ∧ ∃ payouts, info.getPayouts total = .ok payouts ∧
      payoutsSumTo total payouts = .ok true) ↔ c.Fits messageTotal total := by
  simp only [payoutsSumTo_ok limit]
  cases kind : c.contractDescriptor with
  | enumerated payouts =>
      simp only [readContractInfo, readDescriptor, kind, bind_eq_ok, ensure_eq_ok,
        Except.ok.injEq] at read
      obtain ⟨_, ⟨e, outcomes, _, _, rfl⟩, rfl⟩ := read
      simp only [ContractInfoInner.Fits, kind]
      obtain ⟨names, shares⟩ := readOutcomes_ok outcomes
      rw [validate_enum_ok, names, and_assoc]
      refine and_congr_right fun _ => and_congr_right fun _ => ?_
      simp only [ContractInfo.getPayouts, Except.ok.injEq, exists_eq_left']
      constructor
      · intro sums some
        obtain ⟨p, listed⟩ := List.exists_mem_of_ne_nil (e.map (·.payout)) (by
          rintro empty
          rw [List.map_eq_nil_iff] at empty
          rw [empty, List.map_nil, eq_comm, List.map_eq_nil_iff] at names
          exact some names)
        exact (shares p listed).symm.trans (sums p listed)
      · intro same p listed
        refine (shares p listed).trans (same ?_)
        rintro rfl
        rw [List.map_nil, List.map_eq_nil_iff] at names
        rw [names] at listed
        cases listed
  | numericOutcome numeric =>
      simp only [readContractInfo, readDescriptor, kind, bind_eq_ok, Except.ok.injEq] at read
      obtain ⟨_, ⟨numbers, digits, rfl⟩, rfl⟩ := read
      obtain ⟨first, rest, announced, _, _, _, _, _, event⟩ := oracleNumericInfo_ok digits
      rw [announced] at digits
      simp only [ContractInfoInner.Fits, kind, digits, ContractInfo.validate,
        ContractInfo.getPayouts, announced, event, bind_eq_ok, Except.ok.injEq, forall_eq']
      refine and_congr_right fun _ => ⟨?_, ?_⟩
      · rintro ⟨_, ⟨ranges, ranged, rfl⟩, sums⟩
        exact ⟨ranges, ranged, List.forall_mem_map.mp sums⟩
      · rintro ⟨ranges, ranged, sums⟩
        exact ⟨_, ⟨ranges, ranged, rfl⟩, List.forall_mem_map.mpr sums⟩

end Validated

end P2PLending.Manager.Infos
