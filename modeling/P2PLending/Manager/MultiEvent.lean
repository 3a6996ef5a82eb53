import P2PLending.Manager.AttestedOutcomes
import P2PLending.Manager.HonestSignatures

/-! The CET of an attested outcome in a contract with several infos. The CETs and
the signatures of all infos stand one behind the other, while the range info of an
outcome counts from the start of its own info: always for the CET, and in an
enumerated info for the signature too. -/

namespace P2PLending.Manager
open Dlc Checked

namespace Infos
variable {K : AdaptorCrypto} {N : Numerics}

/-- An outcome of the info that its oracles attest: its place within the info, the
index of its CET there, its payout and its adaptor point. -/
inductive AttestedOutcome (K : AdaptorCrypto) (info : ContractInfo N)
    (adaptorInfo : AdaptorInfo N) (total start : ℕ) (attestations : List (ℕ × OracleAttestation)) :
    (place cetIndex : ℕ) → Payout → PublicKey → Prop
  | enum {e : EnumDescriptor} {outcome : String} {all : List (List ℕ)} {pos : ℕ}
      {x : EnumerationPayout} {point : PublicKey} :
      info.contractDescriptor = .enum e →
      EnumAttests info.threshold attestations outcome →
      combinations info.oracleAnnouncements.length info.threshold = .ok all →
      e.findIdx? (·.outcome = outcome) = some pos → e[pos]? = some x →
      enumAdaptorPoint K info.getOracleInfos info.threshold outcome
        (attestingCombination info.threshold attestations outcome) = .ok point →
      AttestedOutcome K info adaptorInfo total start attestations
        (all.length * pos +
          combinationPosition all (attestingCombination info.threshold attestations outcome))
        pos x.payout point
  | numerical {n : N.Descriptor} {trie : N.Trie} {value : RangeInfo}
      {paths : List (ℕ × List ℕ)} {ranges : List RangePayout} {range : RangePayout}
      {points : List (List (List PublicKey))} {point : PublicKey} {place : ℕ} :
      info.contractDescriptor = .numerical n → adaptorInfo = .numerical trie →
      N.lookUp trie (outcomesToDigits (outcomesOf attestations)) = some (value, paths) →
      N.getRangePayouts n total = .ok ranges → ranges[value.cetIndex]? = some range →
      info.precomputePoints K = .ok points →
      getAdaptorPointForIndexedPaths K (paths.map Prod.fst) (paths.map Prod.snd) points =
        .ok point →
      value.adaptorIndex = start + place →
      AttestedOutcome K info adaptorInfo total start attestations place value.cetIndex
        range.payout point

/-- Where the manager looks for the signature of a place whose info starts at
`start`: an enumerated info forgets the start. -/
def ContractInfo.signatureIndex (info : ContractInfo N) (start place : ℕ) : ℕ :=
  match info.contractDescriptor with
  | .enum _ => place
  | .numerical _ => start + place

section Attested
variable {info : ContractInfo N} {adaptorInfo : AdaptorInfo N} {total start place cetIndex : ℕ}
  {attestations : List (ℕ × OracleAttestation)} {payout : Payout} {point : PublicKey}
  {order : List (List String × List ℕ) → List (List String × List ℕ)}

theorem getRangeInfo_attested (permutes : ∀ l, (order l).Perm l) {places : List Place}
    (placed : info.places K total start = .ok (adaptorInfo, places))
    (attested : AttestedOutcome K info adaptorInfo total start attestations place cetIndex payout
      point) :
    ∃ sigs, info.getRangeInfoAndOracleSigs order adaptorInfo attestations =
      .ok (⟨cetIndex, info.signatureIndex start place⟩, sigs) := by
  cases attested with
  | enum described attests listed found _ _ =>
      obtain ⟨rfl, _⟩ := (places_enum described).mp placed
      have chosen := enumGetRangeInfo_ok permutes attests listed found
      simp only [ContractInfo.getRangeInfoAndOracleSigs, ContractInfo.getRangeInfoForOutcome,
        described, ContractInfo.signatureIndex]
      rw [outcomesOf] at chosen
      rw [chosen]
      exact ⟨_, rfl⟩
  | @numerical _ _ value _ _ _ _ _ _ described trieIs looked _ _ _ _ at_ =>
      subst trieIs
      rw [outcomesOf] at looked
      have valueIs : value = ⟨value.cetIndex, value.adaptorIndex⟩ := rfl
      simp only [ContractInfo.getRangeInfoAndOracleSigs, ContractInfo.getRangeInfoForOutcome,
        described, ContractInfo.signatureIndex, looked, Option.map_some, ok_bind, ← at_]
      exact ⟨_, rfl⟩

/-- Where the combination of oracles is searched for, the attestations are in order. -/
def ContractInfo.Ordered (info : ContractInfo N) (attestations : List (ℕ × OracleAttestation)) :
    Prop :=
  ∀ e, info.contractDescriptor = .enum e → InOrder info.oracleAnnouncements.length attestations

theorem attested_place (lawful : N.Lawful) (ordered : info.Ordered attestations)
    {places : List Place}
    (placed : info.places K total start = .ok (adaptorInfo, places))
    (attested : AttestedOutcome K info adaptorInfo total start attestations place cetIndex payout
      point) :
    places[place]? = some (cetIndex, point) ∧
      ∃ payouts, info.getPayouts total = .ok payouts ∧ payouts[cetIndex]? = some payout := by
  cases attested with
  | @enum e outcome all pos x _ described attests listed found outcomeAt computed =>
      obtain ⟨rfl, laid⟩ := (places_enum described).mp placed
      have selected := attestingCombination_position attests (ordered e described) listed
      have number : info.getOracleInfos.length = info.oracleAnnouncements.length :=
        List.length_map _
      rw [← number] at listed
      obtain ⟨point', placeAt, computed'⟩ := enumPlaces_get laid listed outcomeAt selected
      have named : x.outcome = outcome := by
        obtain ⟨bound, matches_, _⟩ := List.findIdx?_eq_some_iff_getElem.mp found
        rw [List.getElem?_eq_getElem bound, Option.some.injEq] at outcomeAt
        rw [← outcomeAt]
        exact of_decide_eq_true matches_
      rw [named] at computed'
      cases computed.symm.trans computed'
      refine ⟨placeAt, e.map (·.payout), ?_, ?_⟩
      · rw [ContractInfo.getPayouts, described]
      · rw [List.getElem?_map, outcomeAt]
        rfl
  | @numerical n trie value paths ranges range points _ _ described trieIs looked curve rangeAt
      computed combined at_ =>
      subst trieIs
      obtain ⟨points', trie', ranges', trie'', trieInfo, computed', _, _, generated, listed,
        same⟩ := (places_numerical described).mp placed
      cases same
      cases computed.symm.trans computed'
      obtain ⟨x, member, rfl, indexes, paths'⟩ := lawful.found generated looked
      have consecutive := lawful.consecutive generated
      obtain ⟨i, bound, at'⟩ := List.getElem_of_mem member
      have entry : trieInfo[i]? = some x := by rw [← at']; exact List.getElem?_eq_getElem bound
      have number : x.value.adaptorIndex = start + i := by
        have counted : (trieInfo.map (·.value.adaptorIndex))[i]? = some x.value.adaptorIndex := by
          rw [List.getElem?_map, entry]
          rfl
        rw [consecutive, List.getElem?_range' bound, Nat.one_mul] at counted
        exact (Option.some.inj counted).symm
      have placeIs : i = place := by omega
      subst placeIs
      obtain ⟨found, foundAt, made⟩ := forall₂_getElem? (mapM_eq_ok.mp listed) entry
      simp only [bind_eq_ok, ofDlc_eq_ok, Except.ok.injEq] at made
      obtain ⟨point', computed', rfl⟩ := made
      rw [indexes, paths'] at computed'
      cases combined.symm.trans computed'
      refine ⟨foundAt, ranges.map (·.payout), ?_, ?_⟩
      · rw [ContractInfo.getPayouts, described]
        simp only [curve, ok_bind]
      · rw [List.getElem?_map, rangeAt]
        rfl

end Attested

end Infos

/-- What an info adds to a contract: its payouts and the places that are signed. -/
structure InfoRow where
  payouts : List Payout
  places : List Place
  deriving DecidableEq, Repr

section Rows
variable {E : SigningDescriptors}
  (places : E.ContractInfo → (total start : ℕ) → Result (E.AdaptorInfo × List Place))

def infoRow (total : ℕ) (info : E.ContractInfo) : Result InfoRow := do
  let payouts ← E.getPayouts info total
  let (_, places) ← places info total 0
  .ok ⟨payouts, places⟩

def contractRows (total : ℕ) (infos : List E.ContractInfo) : Result (List InfoRow) :=
  infos.mapM (infoRow places total)

variable (offered : OfferedContract E.toDescriptors) (acceptParams : PartyParams) (cetInput : TxIn)

def rowCets (lockTime : ℕ) (row : InfoRow) : List Transaction :=
  createCets cetInput offered.offerParams.payoutScriptPubkey offered.offerParams.payoutSerialId
    acceptParams.payoutScriptPubkey acceptParams.payoutSerialId row.payouts lockTime

/-- The CETs of a contract: only those of its first info have a lock time. -/
def contractCets (lockTime : ℕ) : List InfoRow → List Transaction
  | [] => []
  | first :: later => rowCets offered acceptParams cetInput lockTime first ++
      later.flatMap (rowCets offered acceptParams cetInput 0)

/-- A place with the CET that is signed there. -/
abbrev Slot := Option Transaction × PublicKey

def slotsOf (cets : List Transaction) (places : List Place) : List Slot :=
  places.map fun (c, point) => (cets[c]?, point)

/-- What the accepting party signs: each info over its own CETs. -/
def acceptSlots (lockTime : ℕ) : List InfoRow → List Slot
  | [] => []
  | first :: later => slotsOf (rowCets offered acceptParams cetInput lockTime first) first.places ++
      later.flatMap fun row => slotsOf (rowCets offered acceptParams cetInput 0 row) row.places

/-- What the offering party signs: every info over the CETs of the whole contract. -/
def offerSlots (lockTime : ℕ) (rows : List InfoRow) : List Slot :=
  rows.flatMap fun row =>
    slotsOf (contractCets offered acceptParams cetInput lockTime rows) row.places

def SlotSigned (K : AdaptorCrypto) (sk : SecretKey) (script : Bytes) (value : ℕ) (slot : Slot)
    (sig : AdaptorSignature) : Prop :=
  ∃ tx, slot.1 = some tx ∧ createCetAdaptorSigFromPoint K tx slot.2 sk script value = .ok sig

end Rows

section Signed
variable {K : AdaptorCrypto} {E : SigningDescriptors}
  {places : E.ContractInfo → (total start : ℕ) → Result (E.AdaptorInfo × List Place)}
  (placed : E.PlacedBy K places) {offered : OfferedContract E.toDescriptors}
  {acceptParams : PartyParams} {sk : SecretKey} {script : Bytes} {value start : ℕ} {cetInput : TxIn}
  {infos : List E.ContractInfo} {cets : List Transaction} {adaptorInfos : List E.AdaptorInfo}
  {sigs : List AdaptorSignature} {rows : List InfoRow}

theorem slots_signed {ps : List Place} (signed : signPlaces K cets sk script value ps = .ok sigs) :
    List.Forall₂ (SlotSigned K sk script value) (slotsOf cets ps) sigs := by
  rw [slotsOf, List.forall₂_map_left_iff]
  refine (mapM_eq_ok.mp signed).imp fun place sig made => ?_
  simp only [bind_eq_ok, index_eq_ok, ofDlc_eq_ok] at made
  obtain ⟨tx, at_, created⟩ := made
  exact ⟨tx, at_, created⟩

theorem contractRows_cons {total : ℕ} {info : E.ContractInfo} :
    contractRows places total (info :: infos) = .ok rows ↔ ∃ payouts adaptorInfo ps later,
      E.getPayouts info total = .ok payouts ∧ places info total 0 = .ok (adaptorInfo, ps) ∧
      contractRows places total infos = .ok later ∧ rows = ⟨payouts, ps⟩ :: later := by
  simp only [contractRows, mapM_eq_ok, List.forall₂_cons_left_iff, infoRow, bind_eq_ok,
    Prod.exists, Except.ok.injEq]
  constructor
  · rintro ⟨row, later, ⟨payouts, paid, adaptorInfo, ps, laid, rfl⟩, rest, rfl⟩
    exact ⟨payouts, adaptorInfo, ps, later, paid, laid, rest, rfl⟩
  · rintro ⟨payouts, adaptorInfo, ps, later, paid, laid, rest, rfl⟩
    exact ⟨_, later, ⟨payouts, paid, adaptorInfo, ps, laid, rfl⟩, rest, rfl⟩

include placed in
/-- The later infos of an acceptance, row by row. -/
theorem acceptRemaining_rows
    (accepts : acceptRemaining offered acceptParams sk script value cetInput infos start =
      .ok (cets, adaptorInfos, sigs))
    (rowsAre : contractRows places offered.totalCollateral infos = .ok rows) :
    cets = rows.flatMap (rowCets offered acceptParams cetInput 0) ∧
      List.Forall₂ (SlotSigned K sk script value)
        (rows.flatMap fun row => slotsOf (rowCets offered acceptParams cetInput 0 row) row.places)
        sigs ∧
      Laid places offered.totalCollateral start infos adaptorInfos (rows.map InfoRow.places) := by
  induction infos generalizing start cets adaptorInfos sigs rows with
  | nil =>
      simp only [acceptRemaining, Except.ok.injEq, Prod.mk.injEq] at accepts
      obtain ⟨rfl, rfl, rfl⟩ := accepts
      cases mapM_eq_ok.mp rowsAre
      exact ⟨rfl, .nil, .nil⟩
  | cons info infos ih =>
      obtain ⟨payouts, adaptorInfo, ps, sigs₁, cets₂, adaptorInfos₂, sigs₂, paid, laid, signed,
        rest, rfl, rfl, rfl⟩ := (acceptRemaining_cons placed).mp accepts
      obtain ⟨payouts', adaptorInfo', ps', later, paid', laid', rowsAre', rfl⟩ :=
        contractRows_cons.mp rowsAre
      obtain ⟨rfl, slots, laidRest⟩ := ih rest rowsAre'
      cases paid.symm.trans paid'
      obtain ⟨adaptorInfo₀, laid₀⟩ := placed.anywhere laid 0
      cases laid₀.symm.trans laid'
      refine ⟨rfl, ?_, .cons laid laidRest⟩
      rw [List.flatMap_cons]
      exact List.rel_append (slots_signed signed) slots

include placed in
/-- The accepting party signs every info over its own CETs. -/
theorem accepted_rows {fundingInputs : List FundingInput} {inputScriptPubkey : Option Bytes}
    {txs : DlcTransactions} {accepted : AcceptedContract E.toDescriptors} {lockTime : ℕ}
    (accepts : Internal.acceptContract K.toCrypto offered acceptParams fundingInputs sk value
      inputScriptPubkey txs = .ok (accepted, sigs))
    (rowsAre : contractRows places offered.totalCollateral offered.contractInfo = .ok rows)
    (built : ∀ first later, rows = first :: later →
      txs.cets = rowCets offered acceptParams cetInput lockTime first) :
    accepted.dlcTransactions.cets = contractCets offered acceptParams cetInput lockTime rows ∧
      List.Forall₂ (SlotSigned K sk (inputScriptPubkey.getD txs.fundingScriptPubkey) value)
        (acceptSlots offered acceptParams cetInput lockTime rows) sigs ∧
      Laid places offered.totalCollateral 0 offered.contractInfo accepted.adaptorInfos
        (rows.map InfoRow.places) := by
  obtain ⟨cet, cetInput', inputs, info, infos, adaptorInfo, ps, sigs₁, cets₂, adaptorInfos₂, sigs₂,
    cetAt, inputAt, split, laid, signed, rest, _, _, infosAre, txsAre, rfl⟩ :=
    acceptContract_ok placed accepts
  rw [split] at rowsAre
  obtain ⟨payouts, adaptorInfo', ps', later, _, laid', rowsAre', rfl⟩ := contractRows_cons.mp rowsAre
  cases laid.symm.trans laid'
  have own := built _ later rfl
  have sameInput : cetInput' = cetInput := by
    have listed := List.mem_of_getElem? cetAt
    rw [own] at listed
    have inputIs := createCets_input listed
    rw [inputAt] at inputIs
    exact (List.cons.inj inputIs).1
  subst sameInput
  obtain ⟨rfl, slots, laidRest⟩ := acceptRemaining_rows placed rest rowsAre'
  rw [own] at signed
  rw [signPlaces_length signed] at laidRest
  refine ⟨?_, List.rel_append (slots_signed signed) slots, ?_⟩
  · rw [txsAre, own, contractCets]
  · rw [split, infosAre]
    exact .cons laid (by rwa [Nat.zero_add])

include placed in
/-- The offering party signs every info over the CETs of the whole contract. -/
theorem own_slots {signer : ContractSigner} {total : ℕ} {pss : List (List Place)}
    {sigss : List (List AdaptorSignature)}
    (laid : Laid places total start infos adaptorInfos pss) (signs : signer.secretKey = .ok sk)
    (made : (infos.zip adaptorInfos).mapM (fun (info, adaptorInfo) =>
      E.getAdaptorSignatures info adaptorInfo signer script value cets) = .ok sigss) :
    List.Forall₂ (SlotSigned K sk script value) (pss.flatMap (slotsOf cets)) sigss.flatten := by
  induction laid generalizing sigss with
  | nil =>
      cases mapM_eq_ok.mp made
      exact .nil
  | cons laid _ ih =>
      cases mapM_eq_ok.mp made with
      | cons first later =>
          obtain ⟨sk', signs', signed⟩ := (placed.getAdaptorSignatures laid).mp first
          cases signs.symm.trans signs'
          rw [List.flatMap_cons, List.flatten_cons]
          exact List.rel_append (slots_signed signed) (ih (mapM_eq_ok.mpr later))

/-- The info behind some others begins after their places. -/
theorem laid_at {total : ℕ} {front back : List E.ContractInfo} {info : E.ContractInfo}
    {adaptorInfo : E.AdaptorInfo} {pss : List (List Place)}
    (laid : Laid places total start (front ++ info :: back) adaptorInfos pss)
    (found : adaptorInfos[front.length]? = some adaptorInfo) :
    ∃ ps, places info total (start + (pss.take front.length).flatten.length) =
      .ok (adaptorInfo, ps) ∧ pss[front.length]? = some ps := by
  induction front generalizing start adaptorInfos pss with
  | nil =>
      cases laid with
      | cons laid _ =>
          cases found
          exact ⟨_, by simpa using laid, rfl⟩
  | cons _ front ih =>
      cases laid with
      | cons _ rest =>
          obtain ⟨ps, laid, listed⟩ := ih rest found
          refine ⟨ps, ?_, listed⟩
          rw [List.length_cons, List.take_succ_cons, List.flatten_cons, List.length_append,
            ← Nat.add_assoc]
          exact laid

end Signed

end P2PLending.Manager
