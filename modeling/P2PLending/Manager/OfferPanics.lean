import P2PLending.Manager.CurveGuards
import P2PLending.Manager.OwnOffers
import P2PLending.Manager.OfferReplay

/-! A peer's offer as it is validated, converted and stored, and the offers at which one of
these steps panics. -/

namespace P2PLending.Manager.Infos
open Dlc Checked

variable {F : Floats} {T : Tries F} {K : AdaptorCrypto}
  {order : List (List String × List ℕ) → List (List String × List ℕ)}

def OfferLoanDlc.validate {N : Numerics} {M : MessageNumerics N} (K : Crypto) (O : OracleCrypto)
    (offer : OfferLoanDlc M) (minTimeoutInterval maxTimeoutInterval : ℕ) : Dlc.Result Unit :=
  offer.offerDlc.validate K O minTimeoutInterval maxTimeoutInterval

section Received
variable (C : Crypto) (O : OracleCrypto) (decodeTransaction : Bytes → Option Transaction)
  (counterParty : PublicKey) (keysId : KeysId)

/-- The contract that `on_offer_message` stores. -/
def receivedOffer (offer : OfferDlc (curveMessages T)) : Result (Offered K T order) := do
  ofDlc (offer.validate C O refundDelay (refundDelay * 2))
  let contract ← tryFromOfferDlc C decodeTransaction offer counterParty keysId
  contract.validate
  .ok contract

/-- The contract that `on_offer_loan_message` stores. -/
def receivedLoanOffer (offer : OfferLoanDlc (curveMessages T)) :
    Result (OfferedLoan K T order) := do
  ofDlc (offer.validate C O refundDelay (refundDelay * 2))
  let contract ← tryFromOfferLoanDlc C decodeTransaction offer counterParty keysId
  contract.validate
  .ok contract

end Received

/-! The infos of an offer. -/

namespace ContractInfoInner
variable {N : Numerics} {M : MessageNumerics N}

/-- Enumerated payouts within the total. -/
def PaysWithin (total : ℕ) (c : ContractInfoInner M) : Prop :=
  ∀ payouts, c.contractDescriptor = .enumerated payouts → ∀ x ∈ payouts, x.offerPayout ≤ total

/-- Oracles that announce an event of the descriptor's kind, and numbers in one base. -/
def Announced (c : ContractInfoInner M) : Prop :=
  match c.contractDescriptor with
  | .enumerated _ => ∀ a ∈ c.oracleInfo.announcements, a.isEnum = true
  | .numericOutcome _ => c.oracleInfo.announcements ≠ [] ∧
      ∃ numbers : OracleNumericInfo, numbers.AnnouncedBy c.oracleInfo.announcements

end ContractInfoInner

theorem avoids_readOutcomes {total : ℕ} {payouts : List ContractOutcome} :
    Avoids IsPanic (payouts.mapM (readOutcome total)) ↔ ∀ x ∈ payouts, x.offerPayout ≤ total := by
  rw [avoids_mapM, ← upTo_self]
  refine upTo_congr (fun x => ?_) fun x _ => ?_
  · simp [readOutcome, avoids_bind, amountSub]
  · simp [readOutcome, bind_eq_ok, amountSub]

theorem avoids_oracleNumericInfo {announcements : List OracleAnnouncement} :
    Avoids IsPanic (oracleNumericInfo announcements) := by
  have digits : ∀ base, ∀ a : OracleAnnouncement, Avoids IsPanic (a.nbDigits base) := by
    intro base a
    unfold OracleAnnouncement.nbDigits
    split <;> simp [avoids_bind]
  have based : ∀ a : OracleAnnouncement, Avoids IsPanic a.base := by
    intro a
    unfold OracleAnnouncement.base
    split <;> simp
  cases announcements with
  | nil => exact (avoids_error).mpr not_isPanic_err
  | cons first rest =>
      simp only [oracleNumericInfo, avoids_bind, avoids_mapM, avoids_ok, implies_true, and_true]
      exact ⟨based first, fun base _ => upTo_of_forall fun a _ => digits base a⟩

section Read
variable {N : Numerics} {M : MessageNumerics N} {total : ℕ} {c : ContractInfoInner M}

theorem avoids_readContractInfo :
    Avoids IsPanic (readContractInfo total c) ↔ c.PaysWithin total := by
  rw [readContractInfo, avoids_bind, and_iff_left fun _ _ => avoids_ok _]
  unfold readDescriptor ContractInfoInner.PaysWithin
  cases kind : c.contractDescriptor with
  | enumerated payouts =>
      simp only [avoids_bind, avoids_readOutcomes, avoids_ensure, not_isPanic_err, false_implies,
        avoids_ok, implies_true, and_true, SerContractDescriptor.enumerated.injEq, forall_eq']
  | numericOutcome numeric =>
      simp [avoids_bind, avoids_oracleNumericInfo]

theorem readContractInfo_exists :
    (∃ info, readContractInfo total c = .ok info) ↔ c.PaysWithin total ∧ c.Announced := by
  unfold readContractInfo readDescriptor ContractInfoInner.PaysWithin ContractInfoInner.Announced
  cases kind : c.contractDescriptor with
  | enumerated payouts =>
      have read := readOutcomes_exists total payouts
      simp only [bind_eq_ok, ensure_eq_ok, List.all_eq_true, Except.ok.injEq,
        SerContractDescriptor.enumerated.injEq, forall_eq', ← read]
      constructor
      · rintro ⟨_, _, ⟨e, outcomes, _, enums, _⟩, _⟩
        exact ⟨⟨e, outcomes⟩, enums⟩
      · rintro ⟨⟨e, outcomes⟩, enums⟩
        exact ⟨_, _, ⟨e, outcomes, (), enums, rfl⟩, rfl⟩
  | numericOutcome numeric =>
      simp only [bind_eq_ok, oracleNumericInfo_iff, Except.ok.injEq, reduceCtorEq, false_implies,
        implies_true, true_and]
      constructor
      · rintro ⟨_, _, ⟨numbers, ⟨some, announced⟩, _⟩, _⟩
        exact ⟨some, numbers, announced⟩
      · rintro ⟨some, numbers, announced⟩
        exact ⟨_, _, ⟨numbers, ⟨some, announced⟩, rfl⟩, rfl⟩

/-- An info is read after those before it. -/
theorem avoids_readContractInfos {cs : List (ContractInfoInner M)} :
    Avoids IsPanic (cs.mapM (readContractInfo total)) ↔
      UpTo ContractInfoInner.Announced (ContractInfoInner.PaysWithin total) cs := by
  rw [avoids_mapM]
  refine upTo_congr (fun c => avoids_readContractInfo) fun c avoids => ?_
  exact readContractInfo_exists.trans (and_iff_right (avoids_readContractInfo.mp avoids))

end Read

/-! The inputs. -/

section Inputs
variable {C : Crypto} {decodeTransaction : Bytes → Option Transaction}

theorem avoids_addInput {acc : List TxInputInfo × ℕ} {input : FundingInput} :
    Avoids IsPanic (addInput C decodeTransaction acc input) ↔
      ∀ info value, spentOutput C decodeTransaction input = some (info, value) →
        acc.2 + value < u64Limit := by
  unfold addInput spentOutput
  cases decodeTransaction input.prevTx with
  | none => simp
  | some tx =>
      cases found : tx.output[input.prevTxVout]? with
      | none => simp [found]
      | some txOut => simp [found, avoids_bind, amountAdd]

/-- The loop from any amount so far. -/
theorem avoids_addInputs {fundingInputs : List FundingInput} {acc : List TxInputInfo × ℕ}
    (fits : acc.2 < u64Limit) :
    Avoids IsPanic (fundingInputs.foldlM (addInput C decodeTransaction) acc) ↔
      ∀ spent : List (TxInputInfo × ℕ),
        spent.map some <+: fundingInputs.map (spentOutput C decodeTransaction) →
          acc.2 + (spent.map Prod.snd).sum < u64Limit := by
  induction fundingInputs generalizing acc with
  | nil =>
      refine iff_of_true (avoids_ok _) fun spent before => ?_
      rw [List.map_nil, List.prefix_nil, List.map_eq_nil_iff] at before
      rw [before]
      exact fits
  | cons input rest ih =>
      rw [List.foldlM_cons, avoids_bind, avoids_addInput]
      simp only [addInput_ok, forall_exists_index, and_imp]
      constructor
      · rintro ⟨adds, later⟩ spent before
        cases spent with
        | nil => exact fits
        | cons first spent =>
            obtain ⟨info, value⟩ := first
            rw [List.map_cons, List.map_cons, List.cons_prefix_cons] at before
            have room := adds info value before.1.symm
            have others := (ih room).mp (later _ info value before.1.symm room rfl) spent before.2
            simp only [List.map_cons, List.sum_cons] at others ⊢
            omega
      · intro prefixes
        have adds : ∀ info value, spentOutput C decodeTransaction input = some (info, value) →
            acc.2 + value < u64Limit := by
          intro info value spends
          have alone := prefixes [(info, value)] (by simp [spends])
          simpa using alone
        refine ⟨adds, ?_⟩
        rintro _ info value spends room rfl
        rw [ih room]
        intro spent before
        have all := prefixes ((info, value) :: spent) (by
          rw [List.map_cons, List.map_cons, List.cons_prefix_cons]
          exact ⟨spends.symm, before⟩)
        simp only [List.map_cons, List.sum_cons] at all ⊢
        omega

theorem avoids_getTxInputInfos {fundingInputs : List FundingInput} :
    Avoids IsPanic (getTxInputInfos C decodeTransaction fundingInputs) ↔
      ∀ spent : List (TxInputInfo × ℕ),
        spent.map some <+: fundingInputs.map (spentOutput C decodeTransaction) →
          (spent.map Prod.snd).sum < u64Limit := by
  rw [getTxInputInfos_eq, avoids_addInputs (by decide)]
  simp only [Nat.zero_add]

end Inputs

/-! The oracles and the dates. -/

section Validate
variable {C : Crypto} {O : OracleCrypto} {N : Numerics} {M : MessageNumerics N}

theorem OracleAnnouncement.avoids_validate {a : OracleAnnouncement} :
    Avoids IsPanic (a.validate C O) := by
  simp [OracleAnnouncement.validate, OracleEvent.validate, avoids_bind]

theorem SerOracleInfo.avoids_validate {info : SerOracleInfo} :
    Avoids IsPanic (info.validate C O) := by
  rw [SerOracleInfo.validate, avoids_forM]
  exact upTo_of_forall fun a _ => OracleAnnouncement.avoids_validate

theorem SerContractInfo.avoids_validateOracles {info : SerContractInfo M} :
    Avoids IsPanic (info.validateOracles C O) := by
  cases info with
  | single total c => exact SerOracleInfo.avoids_validate
  | disjoint total cs =>
      rw [validateOracles, avoids_bind, avoids_ensure, avoids_forM]
      exact ⟨fun panic => absurd panic not_isPanic_err, fun _ _ =>
        upTo_of_forall fun c _ => SerOracleInfo.avoids_validate⟩

theorem avoids_closestDate {message : String} {dates : List ℕ} :
    Avoids IsPanic (closestDate message dates) ↔ dates ≠ [] := by
  unfold closestDate
  cases dates with
  | nil => simp
  | cons date rest => simp [List.min?_cons]

theorem SerOracleInfo.avoids_getClosestMaturityDate {info : SerOracleInfo} :
    Avoids IsPanic info.getClosestMaturityDate ↔ info.announcements ≠ [] := by
  rw [SerOracleInfo.getClosestMaturityDate, avoids_closestDate, Ne, List.map_eq_nil_iff]

/-- The closest date is taken of the announcements of every event. -/
theorem SerContractInfo.avoids_getClosestMaturityDate {info : SerContractInfo M}
    (several : ∀ total cs, info = .disjoint total cs → 2 ≤ cs.length) :
    Avoids IsPanic info.getClosestMaturityDate ↔
      ∀ c ∈ info.contractInfos, c.oracleInfo.announcements ≠ [] := by
  cases info with
  | single total c =>
      rw [contractInfos, List.forall_mem_singleton]
      exact SerOracleInfo.avoids_getClosestMaturityDate
  | disjoint total cs =>
      have each : Avoids IsPanic (cs.mapM fun c => c.oracleInfo.getClosestMaturityDate) ↔
          ∀ c ∈ cs, c.oracleInfo.announcements ≠ [] := by
        rw [avoids_mapM, ← upTo_self]
        exact upTo_congr (fun c => SerOracleInfo.avoids_getClosestMaturityDate)
          fun c _ => SerOracleInfo.getClosestMaturityDate_exists
      rw [getClosestMaturityDate, avoids_bind, each, contractInfos]
      refine and_iff_left fun dates computed => ?_
      rw [avoids_closestDate]
      rintro rfl
      have length := (mapM_eq_ok.mp computed).length_eq
      have two := several total cs rfl
      rw [length, List.length_nil] at two
      omega

namespace OfferDlc
variable {offer : OfferDlc M} {minT maxT : ℕ}

/-- Sums of the closest date that are made before the comparison with them. -/
def DatesFit (offer : OfferDlc M) (minT maxT closest : ℕ) : Prop :=
  offer.cetLocktime ≤ closest → closest + minT < 2 ^ 32 ∧
    (closest + minT ≤ offer.refundLocktime → closest + maxT < 2 ^ 32)

theorem avoids_validDates {closest : ℕ} :
    Avoids IsPanic (offer.validDates minT maxT closest) ↔ offer.DatesFit minT maxT closest := by
  unfold validDates DatesFit dateAdd
  by_cases early : offer.cetLocktime ≤ closest
  · rw [if_pos early, avoids_bind, avoids_add]
    simp only [isPanic_panic, forall_const, early, add_eq_ok, and_imp]
    refine and_congr_right fun room => ?_
    by_cases after : closest + minT ≤ offer.refundLocktime
    · rw [forall_comm]
      simp only [forall_eq, room, forall_const, after, if_true, avoids_bind, avoids_add,
        isPanic_panic, avoids_ok, implies_true, and_true]
    · simp [after]
  · simp [early]

theorem avoids_validate :
    Avoids IsPanic (offer.validate C O minT maxT) ↔
      (offer.contractInfo.validateOracles C O = .ok () →
        (∀ c ∈ offer.contractInfo.contractInfos, c.oracleInfo.announcements ≠ []) ∧
        ∀ closest, offer.contractInfo.getClosestMaturityDate = .ok closest →
          offer.DatesFit minT maxT closest) := by
  rw [OfferDlc.validate, avoids_bind, and_iff_right SerContractInfo.avoids_validateOracles]
  refine ⟨fun each valid => ?_, fun each _ valid => ?_⟩
  · have several := (SerContractInfo.validateOracles_ok.mp valid).1
    have dates := each () valid
    rw [avoids_bind, SerContractInfo.avoids_getClosestMaturityDate several] at dates
    refine ⟨dates.1, fun closest least => ?_⟩
    exact avoids_validDates.mp (avoids_bind.mp (dates.2 closest least)).1
  · have several := (SerContractInfo.validateOracles_ok.mp valid).1
    obtain ⟨announced, dates⟩ := each valid
    rw [avoids_bind, SerContractInfo.avoids_getClosestMaturityDate several]
    refine ⟨announced, fun closest least => ?_⟩
    rw [avoids_bind, avoids_validDates]
    refine ⟨dates closest least, fun _ _ => ?_⟩
    rw [avoids_ensure]
    exact fun panic => absurd panic not_isPanic_err

end OfferDlc

end Validate

/-! The contract that is read. -/

section Checks

/-- A curve that is read has two points or more to a polynomial. -/
theorem read_writable {pieces : List (SerPayoutFunctionPiece F)} {ends : List PayoutPoint} :
    ∀ piece ∈ List.zipWith fromSerPayoutFunctionPiece pieces ends, piece.Writable := by
  intro piece listed
  obtain ⟨i, inside, rfl⟩ := List.mem_iff_getElem.mp listed
  rw [List.getElem_zipWith]
  unfold fromSerPayoutFunctionPiece
  split
  next points => simp [PayoutFunctionPiece.Writable]
  next h => trivial

/-- The numbers of a numerical event are announced, and its curve is computed. -/
def ContractInfoInner.CurveGuarded (total : ℕ) (c : ContractInfoInner (curveMessages T)) : Prop :=
  ∀ (numeric : NumericOutcomeContractDescriptor F) (numbers : OracleNumericInfo),
    c.contractDescriptor = .numericOutcome numeric →
    numbers.AnnouncedBy c.oracleInfo.announcements →
    (⟨numeric.payoutFunction.toPayoutFunction, numeric.roundingIntervals,
      c.oracleInfo.differenceParams, numbers⟩ : NumericalDescriptor F).Guarded total

theorem avoids_validateOracleEvents {N : Numerics} {info : ContractInfo N}
    {outcomes : List String} : Avoids IsPanic (info.validateOracleEvents outcomes) := by
  rw [ContractInfo.validateOracleEvents, avoids_forM]
  refine upTo_of_forall fun a _ => ?_
  split <;> simp

theorem avoids_validate_enum {N : Numerics} {e : EnumDescriptor}
    {announcements : List OracleAnnouncement} {threshold : ℕ} :
    Avoids IsPanic (⟨.enum e, announcements, threshold⟩ : ContractInfo N).validate := by
  cases announcements with
  | nil => simp [ContractInfo.validate]
  | cons first rest =>
      cases event : first.oracleEvent.eventDescriptor with
      | enumEvent outcomes =>
          simp [ContractInfo.validate, event, avoids_bind, avoids_validateOracleEvents]
      | digitDecompositionEvent => simp [ContractInfo.validate, event]

theorem avoids_payoutsSumTo {total : ℕ} (limit : total < u64Limit) {payouts : List Payout}
    (covers : ∀ p ∈ payouts, p.accept + p.offer = total) :
    Avoids IsPanic (payoutsSumTo total payouts) :=
  avoids_of_ok ⟨true, (payoutsSumTo_ok limit).mpr covers⟩

/-- The checks of one info. -/
def checkInfo (total : ℕ) (info : ContractInfo (curves T)) : Result Unit := do
  info.validate
  let payouts ← info.getPayouts total
  let valid ← payoutsSumTo total payouts
  ensure (valid = true) (.err (.invalidParameters "Sum of payout doesn't equal total collateral"))

theorem checkInfo_ok {total : ℕ} {info : ContractInfo (curves T)} :
    checkInfo total info = .ok () ↔ info.Valid total := by
  simp only [checkInfo, bind_eq_ok, ensure_eq_ok]
  constructor
  · rintro ⟨_, validated, payouts, paid, valid, summed, rfl⟩
    exact ⟨validated, payouts, paid, summed⟩
  · rintro ⟨validated, payouts, paid, summed⟩
    exact ⟨(), validated, payouts, paid, true, summed, rfl⟩

theorem avoids_ensureSum {valid : Bool} : Avoids IsPanic (ensure (valid = true)
    (.err (.invalidParameters "Sum of payout doesn't equal total collateral") : Fault Error)) :=
  avoids_ensure.mpr fun panic => absurd panic not_isPanic_err

/-- The ranges of a numerical event are computed after its checks. -/
theorem avoids_checkInfo_numerical {total threshold : ℕ} (limit : total < u64Limit)
    {n : NumericalDescriptor F} {announcements : List OracleAnnouncement}
    (validates : ContractInfo.validate (N := curves T) ⟨.numerical n, announcements, threshold⟩ =
      (curves T).validate n) :
    Avoids IsPanic (checkInfo (T := T) total ⟨.numerical n, announcements, threshold⟩) ↔
      Avoids IsPanic ((curves T).validate n) ∧ ((curves T).validate n = .ok () →
        Avoids IsPanic ((curves T).getRangePayouts n total)) := by
  rw [checkInfo, validates, avoids_bind]
  refine and_congr_right fun _ => ?_
  have ranged : Avoids IsPanic (ContractInfo.getPayouts (N := curves T)
      ⟨.numerical n, announcements, threshold⟩ total) ↔
        Avoids IsPanic ((curves T).getRangePayouts n total) := by
    rw [ContractInfo.getPayouts, avoids_bind]
    exact and_iff_left fun _ _ => avoids_ok _
  constructor
  · intro each valid
    exact ranged.mp (avoids_bind.mp (each () valid)).1
  · intro each _ valid
    rw [avoids_bind, ranged]
    refine ⟨each valid, fun payouts paid => ?_⟩
    obtain ⟨ranges, computed, same⟩ := bind_eq_ok.mp paid
    obtain rfl := Except.ok.inj same
    have shares := PayoutFunction.toRangePayouts_shares computed
    rw [avoids_bind]
    exact ⟨avoids_payoutsSumTo limit (List.forall_mem_map.mpr shares), fun _ _ => avoids_ensureSum⟩

theorem avoids_checkInfo {total : ℕ} (limit : total < u64Limit)
    {c : ContractInfoInner (curveMessages T)} {info : ContractInfo (curves T)}
    (read : readContractInfo total c = .ok info) :
    Avoids IsPanic (checkInfo total info) ↔ c.CurveGuarded total := by
  unfold ContractInfoInner.CurveGuarded
  cases kind : c.contractDescriptor with
  | enumerated payouts =>
      refine iff_of_true ?_ nofun
      simp only [readContractInfo, readDescriptor, kind, bind_eq_ok, ensure_eq_ok,
        Except.ok.injEq] at read
      obtain ⟨_, ⟨e, outcomes, _, _, rfl⟩, rfl⟩ := read
      have shares := (readOutcomes_ok outcomes).2
      rw [checkInfo, avoids_bind, and_iff_right avoids_validate_enum]
      intro _ _
      rw [ContractInfo.getPayouts, ok_bind, avoids_bind]
      exact ⟨avoids_payoutsSumTo limit shares, fun _ _ => avoids_ensureSum⟩
  | numericOutcome numeric =>
      simp only [readContractInfo, readDescriptor, kind, bind_eq_ok, Except.ok.injEq] at read
      obtain ⟨_, ⟨numbers, digits, rfl⟩, rfl⟩ := read
      obtain ⟨first, rest, announced, _, _, _, _, _, event⟩ := oracleNumericInfo_ok digits
      obtain ⟨some, announcedBy⟩ := oracleNumericInfo_iff.mp digits
      have validates : ∀ n : NumericalDescriptor F, ContractInfo.validate (N := curves T)
          ⟨.numerical n, c.oracleInfo.announcements, c.oracleInfo.threshold⟩ =
            (curves T).validate n := by
        intro n
        simp only [ContractInfo.validate, announced, event]
      have counted : numbers.nbDigits ≠ [] := by
        intro none
        rw [OracleNumericInfo.AnnouncedBy, none, List.map_nil, List.map_eq_nil_iff] at announcedBy
        exact some announcedBy
      let n : NumericalDescriptor F := ⟨numeric.payoutFunction.toPayoutFunction,
        numeric.roundingIntervals, c.oracleInfo.differenceParams, numbers⟩
      have writable : ∀ piece ∈ n.payoutFunction, piece.Writable := read_writable
      have checks := (avoids_checkInfo_numerical limit (validates n)).trans
        (n.avoids_checks counted writable)
      refine checks.trans ⟨?_, fun guarded => guarded numeric numbers rfl announcedBy⟩
      rintro guarded _ numbers' ⟨⟩ announcedBy'
      have same := digits.symm.trans (oracleNumericInfo_iff.mpr ⟨some, announcedBy'⟩)
      exact Except.ok.inj same ▸ guarded

end Checks

/-! The whole offer. -/

section Offers
variable (C : Crypto) (O : OracleCrypto) (decodeTransaction : Bytes → Option Transaction)

/-- What an offer must satisfy where the steps that take it as given are reached. -/
structure OfferDlc.Guarded (offer : OfferDlc (curveMessages T)) : Prop where
  announced : offer.contractInfo.validateOracles C O = .ok () →
    ∀ c ∈ offer.contractInfo.contractInfos, c.oracleInfo.announcements ≠ []
  dates : offer.contractInfo.validateOracles C O = .ok () →
    ∀ closest, offer.contractInfo.getClosestMaturityDate = .ok closest →
      offer.DatesFit refundDelay (refundDelay * 2) closest
  payouts : offer.validate C O refundDelay (refundDelay * 2) = .ok () →
    UpTo ContractInfoInner.Announced
      (ContractInfoInner.PaysWithin offer.contractInfo.totalCollateral)
      offer.contractInfo.contractInfos
  inputs : offer.validate C O refundDelay (refundDelay * 2) = .ok () →
    (∀ c ∈ offer.contractInfo.contractInfos,
      c.PaysWithin offer.contractInfo.totalCollateral ∧ c.Announced) →
    ∀ spent : List (TxInputInfo × ℕ),
      spent.map some <+: offer.fundingInputs.map (spentOutput C decodeTransaction) →
        (spent.map Prod.snd).sum < u64Limit
  curves : offer.validate C O refundDelay (refundDelay * 2) = .ok () →
    (∀ c ∈ offer.contractInfo.contractInfos,
      c.PaysWithin offer.contractInfo.totalCollateral ∧ c.Announced) →
    (∃ funded, getTxInputInfos C decodeTransaction offer.fundingInputs = .ok funded) →
    offer.feeRatePerVb ≤ 25 * 250 →
    UpTo (ContractInfoInner.Fits offer.contractInfo.totalCollateral
        offer.contractInfo.totalCollateral)
      (ContractInfoInner.CurveGuarded offer.contractInfo.totalCollateral)
      offer.contractInfo.contractInfos

variable {C O decodeTransaction} {counterParty : PublicKey} {keysId : KeysId}

theorem avoids_checkInfos {total : ℕ} {infos : List (ContractInfo (curves T))} :
    Avoids IsPanic (infos.forM (checkInfo total)) ↔ UpTo (fun info => info.Valid total)
      (fun info => Avoids IsPanic (checkInfo total info)) infos := by
  rw [avoids_forM]
  exact upTo_congr (fun _ => Iff.rfl) fun _ _ => checkInfo_ok

theorem OfferedContract.avoids_validate {contract : Offered K T order} :
    Avoids IsPanic contract.validate ↔ (contract.feeRatePerVb ≤ 25 * 250 →
      UpTo (fun info => info.Valid contract.totalCollateral)
        (fun info => Avoids IsPanic (checkInfo contract.totalCollateral info))
        (contract.contractInfo : List (ContractInfo (curves T)))) := by
  have checks : contract.validate = (validateFeeRate contract.feeRatePerVb "Fee rate is too high"
    >>= fun _ => (contract.contractInfo : List (ContractInfo (curves T))).forM
      (checkInfo contract.totalCollateral)) := rfl
  have rate : Avoids IsPanic (validateFeeRate contract.feeRatePerVb "Fee rate is too high") :=
    avoids_ensure.mpr fun panic => absurd panic not_isPanic_err
  rw [checks, avoids_bind, and_iff_right rate]
  simp only [validateFeeRate, ensure_eq_ok, forall_const]
  exact imp_congr_right fun _ => avoids_checkInfos

theorem OfferDlc.avoids_validate_read {offer : OfferDlc (curveMessages T)}
    (limit : offer.contractInfo.totalCollateral < u64Limit) {contract : Offered K T order}
    (read : tryFromOfferDlc C decodeTransaction offer counterParty keysId = .ok contract) :
    Avoids IsPanic contract.validate ↔ (offer.feeRatePerVb ≤ 25 * 250 →
      UpTo (ContractInfoInner.Fits offer.contractInfo.totalCollateral
          offer.contractInfo.totalCollateral)
        (ContractInfoInner.CurveGuarded offer.contractInfo.totalCollateral)
        offer.contractInfo.contractInfos) := by
  simp only [tryFromOfferDlc, bind_eq_ok, Prod.exists, Except.ok.injEq] at read
  obtain ⟨infos, converted, _, _, _, rfl⟩ := read
  rw [OfferedContract.avoids_validate]
  refine imp_congr_right fun _ => ?_
  have related := mapM_eq_ok.mp converted
  exact (upTo_forall₂ related (fun read => (avoids_checkInfo limit read).symm)
    fun read _ => (valid_iff_fits limit read).symm).symm

theorem SerContractInfo.readable_iff {info : SerContractInfo (curveMessages T)} :
    (∃ infos, info.getContractInfoAndAnnouncements = .ok infos) ↔
      ∀ c ∈ info.contractInfos, c.PaysWithin info.totalCollateral ∧ c.Announced := by
  rw [getContractInfoAndAnnouncements, exists_mapM_ok]
  exact forall₂_congr fun c _ => readContractInfo_exists

theorem OfferDlc.avoids_tryFrom {offer : OfferDlc (curveMessages T)} :
    Avoids IsPanic (tryFromOfferDlc C decodeTransaction offer counterParty keysId :
      Result (Offered K T order)) ↔
      UpTo ContractInfoInner.Announced
        (ContractInfoInner.PaysWithin offer.contractInfo.totalCollateral)
        offer.contractInfo.contractInfos ∧
      ((∀ c ∈ offer.contractInfo.contractInfos,
          c.PaysWithin offer.contractInfo.totalCollateral ∧ c.Announced) →
        ∀ spent : List (TxInputInfo × ℕ),
          spent.map some <+: offer.fundingInputs.map (spentOutput C decodeTransaction) →
            (spent.map Prod.snd).sum < u64Limit) := by
  rw [tryFromOfferDlc, avoids_bind, SerContractInfo.getContractInfoAndAnnouncements,
    avoids_readContractInfos]
  refine and_congr_right fun _ => ?_
  rw [← SerContractInfo.readable_iff, ← avoids_getTxInputInfos]
  simp only [avoids_bind, avoids_ok, implies_true, and_true]
  exact exists_imp.symm

theorem OfferDlc.tryFrom_exists {offer : OfferDlc (curveMessages T)} :
    (∃ contract : Offered K T order,
      tryFromOfferDlc C decodeTransaction offer counterParty keysId = .ok contract) ↔
      (∀ c ∈ offer.contractInfo.contractInfos,
        c.PaysWithin offer.contractInfo.totalCollateral ∧ c.Announced) ∧
      ∃ funded, getTxInputInfos C decodeTransaction offer.fundingInputs = .ok funded := by
  rw [← SerContractInfo.readable_iff]
  simp only [tryFromOfferDlc, bind_eq_ok, Prod.exists, Except.ok.injEq]
  constructor
  · rintro ⟨_, infos, read, inputs, amount, funded, _⟩
    exact ⟨⟨infos, read⟩, inputs, amount, funded⟩
  · rintro ⟨⟨infos, read⟩, inputs, amount, funded⟩
    exact ⟨_, infos, read, inputs, amount, funded, rfl⟩

/-- An offer is received without a panic when it is guarded, whatever its contract goes on to
as long as its own checks decide on a panic. -/
theorem OfferDlc.avoids_received {offer : OfferDlc (curveMessages T)}
    (limit : offer.contractInfo.totalCollateral < u64Limit) {α : Type}
    {store : Offered K T order → Result α}
    (checks : ∀ contract, Avoids IsPanic (store contract) ↔ Avoids IsPanic contract.validate) :
    Avoids IsPanic (ofDlc (offer.validate C O refundDelay (refundDelay * 2)) >>= fun _ =>
      tryFromOfferDlc C decodeTransaction offer counterParty keysId >>= store) ↔
      offer.Guarded C O decodeTransaction := by
  have stored : Avoids IsPanic
      (tryFromOfferDlc C decodeTransaction offer counterParty keysId >>= store) ↔
      Avoids IsPanic (tryFromOfferDlc C decodeTransaction offer counterParty keysId :
        Result (Offered K T order)) ∧
      ((∃ contract : Offered K T order,
        tryFromOfferDlc C decodeTransaction offer counterParty keysId = .ok contract) →
        offer.feeRatePerVb ≤ 25 * 250 →
        UpTo (ContractInfoInner.Fits offer.contractInfo.totalCollateral
            offer.contractInfo.totalCollateral)
          (ContractInfoInner.CurveGuarded offer.contractInfo.totalCollateral)
          offer.contractInfo.contractInfos) := by
    rw [avoids_bind, forall_exists_index]
    refine and_congr_right fun _ => forall₂_congr fun contract read => ?_
    exact (checks contract).trans (OfferDlc.avoids_validate_read limit read)
  rw [avoids_bind, avoids_ofDlc, OfferDlc.avoids_validate, stored, OfferDlc.avoids_tryFrom,
    OfferDlc.tryFrom_exists]
  simp only [ofDlc_eq_ok]
  constructor
  · intro avoids
    obtain ⟨validates, converts⟩ := avoids
    exact
      { announced := fun valid => (validates valid).1
        dates := fun valid => (validates valid).2
        payouts := fun valid => (converts () valid).1.1
        inputs := fun valid => (converts () valid).1.2
        curves := fun valid readable funded => (converts () valid).2 ⟨readable, funded⟩ }
  · intro guarded
    constructor
    · exact fun valid => ⟨guarded.announced valid, guarded.dates valid⟩
    · intro _ valid
      refine ⟨⟨guarded.payouts valid, guarded.inputs valid⟩, ?_⟩
      intro answers
      exact guarded.curves valid answers.1 answers.2

theorem avoids_receivedOffer {offer : OfferDlc (curveMessages T)}
    (limit : offer.contractInfo.totalCollateral < u64Limit) :
    Avoids IsPanic (receivedOffer C O decodeTransaction counterParty keysId offer :
      Result (Offered K T order)) ↔ offer.Guarded C O decodeTransaction := by
  apply OfferDlc.avoids_received limit
  intro contract
  rw [avoids_bind]
  exact and_iff_left fun _ _ => avoids_ok _

/-- The terms of a loan are compared after everything else. -/
theorem avoids_receivedLoanOffer {offer : OfferLoanDlc (curveMessages T)}
    (limit : offer.offerDlc.contractInfo.totalCollateral < u64Limit) :
    Avoids IsPanic (receivedLoanOffer C O decodeTransaction counterParty keysId offer :
      Result (OfferedLoan K T order)) ↔ offer.offerDlc.Guarded C O decodeTransaction := by
  have steps : (receivedLoanOffer C O decodeTransaction counterParty keysId offer :
      Result (OfferedLoan K T order)) =
      (ofDlc (offer.offerDlc.validate C O refundDelay (refundDelay * 2)) >>= fun _ =>
        tryFromOfferDlc C decodeTransaction offer.offerDlc counterParty keysId >>= fun contract => do
          let loan : OfferedLoan K T order :=
            { offeredContract := contract
              collateralRatio := offer.collateralRatio
              liquidationRatio := offer.liquidationRatio
              interestRate := offer.interestRate
              duration := offer.duration
              lenderHash := offer.lenderHash }
          loan.validate
          .ok loan) := by
    simp only [receivedLoanOffer, OfferLoanDlc.validate, tryFromOfferLoanDlc]
    cases tryFromOfferDlc C decodeTransaction offer.offerDlc counterParty keysId <;> rfl
  rw [steps]
  apply OfferDlc.avoids_received limit
  intro contract
  simp only [OfferedLoanContract.validate, avoids_bind, avoids_ensure, not_isPanic_err,
    false_implies, avoids_ok, implies_true, and_true]

/-! The handlers. -/

section Handled
variable {D : Descriptors}

/-- A call that does not panic, and leaves the node as it was where it fails. -/
def Handled (handle : Handling D Unit) (node : Node D) : Prop :=
  Avoids IsPanic (handle node).1 ∧ ∀ e, (handle node).1 = .error e → (handle node).2 = node

theorem avoids_answered {α : Type} {r : Except Error α} : Avoids IsPanic (answered r) := by
  cases r <;> simp [answered]

theorem avoids_createFresh {env : Environment} {id : ContractId} {contract : Contract D}
    {node : Node D} : Avoids IsPanic (createFresh env id contract node).1 := by
  have reads : Avoids IsPanic (do
      answered env.readStore
      ensure ((node.store id).isNone = true)
        (.err (.invalidParameters "Contract with identical id already exists"))) := by
    rw [avoids_bind, avoids_ensure]
    exact ⟨avoids_answered, fun _ _ panic => absurd panic not_isPanic_err⟩
  rw [createFresh, Handler.read_bind]
  split
  next =>
    rw [Handler.lift_bind]
    split
    next => exact avoids_ok _
    next e failed => exact avoids_error.mpr (avoids_answered e failed)
  next e failed => exact avoids_error.mpr (reads e failed)

/-- The store has a part in a panic no more than in what is stored. -/
theorem handled_iff (env : Environment) {α : Type} (converted : Result α)
    (idOf : α → ContractId) (contract : α → Contract D) (node : Node D) :
    Handled (Handler.lift converted >>= fun a => createFresh env (idOf a) (contract a)) node ↔
      Avoids IsPanic converted := by
  have unchanged : ∀ e, ((Handler.lift converted >>= fun a =>
      createFresh env (idOf a) (contract a)) node).1 = .error e →
      ((Handler.lift converted >>= fun a =>
        createFresh env (idOf a) (contract a)) node).2 = node := by
    intro e failed
    obtain ⟨_, _, _, _, ran, _⟩ | ⟨_, ran⟩ := OfferHistory.offer_outcome env converted idOf contract node
    · rw [ran] at failed
      cases failed
    · rw [ran]
  rw [Handled, and_iff_left unchanged, Handler.lift_bind]
  cases converted with
  | ok a => exact iff_of_true avoids_createFresh (avoids_ok a)
  | error e => exact avoids_error.trans avoids_error.symm

end Handled

/-- A peer's offer, of a loan or not, is handled without a panic, and without a trace where it
fails, exactly when it is guarded. -/
theorem offers_handled_iff (env : Environment)
    (node : Node (contractDescriptors K (curves T) order)) (counterParty : PublicKey)
    (keysId : KeysId) :
    (∀ offer : OfferDlc (curveMessages T), offer.contractInfo.totalCollateral < u64Limit →
      (Handled (onOfferMessage env
          (receivedOffer C O decodeTransaction counterParty keysId offer)) node ↔
        offer.Guarded C O decodeTransaction)) ∧
    ∀ offer : OfferLoanDlc (curveMessages T),
      offer.offerDlc.contractInfo.totalCollateral < u64Limit →
      (Handled (onOfferLoanMessage env
          (receivedLoanOffer C O decodeTransaction counterParty keysId offer)) node ↔
        offer.offerDlc.Guarded C O decodeTransaction) := by
  constructor
  · intro offer limit
    exact (handled_iff env _ OfferedContract.id Contract.offered node).trans
      (avoids_receivedOffer limit)
  · intro offer limit
    rw [onOfferLoanMessage_eq]
    exact (handled_iff env _ (fun loan => loan.offeredContract.id) Contract.offeredLoan node).trans
      (avoids_receivedLoanOffer limit)

end Offers

/-! An offer of one event. -/

def sampleOfferDlc (announcements : List OracleAnnouncement) (offerPayout : ℕ) :
    OfferDlc (curveMessages (sampleTries sampleFloats)) where
  protocolVersion
  contractFlags := 0
  chainHash := bitcoinChainhash
  temporaryContractId := 3
  contractInfo := .single 100
    ⟨.enumerated [⟨"up", offerPayout⟩, ⟨"down", 0⟩], .multi 1 announcements none⟩
  fundingPubkey := ⟨4⟩
  payoutSpk := []
  payoutSerialId := 1
  offerCollateral := 60
  fundingInputs := []
  changeSpk := []
  changeSerialId := 2
  fundOutputSerialId := 3
  feeRatePerVb := 2
  cetLocktime := 5
  refundLocktime := 604810

def sampleOfferLoanDlc (announcements : List OracleAnnouncement) (offerPayout : ℕ) :
    OfferLoanDlc (curveMessages (sampleTries sampleFloats)) where
  collateralRatio := 150
  liquidationRatio := 120
  interestRate := 5
  duration := 1000
  lenderHash := 7
  offerDlc := sampleOfferDlc announcements offerPayout

/-- A node that has stored nothing. -/
def sampleNode : Node (contractDescriptors sampleAdaptorCrypto
    (curves (sampleTries sampleFloats)) id) := ⟨fun _ => none, [], []⟩

theorem sample_offers_guarded :
    (sampleOfferDlc [sampleMaturing 10] 100).Guarded sampleCrypto sampleOracleCrypto
      (fun _ => none) ∧
    (sampleOfferLoanDlc [sampleMaturing 10] 100).offerDlc.Guarded sampleCrypto sampleOracleCrypto
      (fun _ => none) := by
  have handled := @offers_handled_iff sampleFloats (sampleTries sampleFloats) sampleAdaptorCrypto
    id sampleCrypto sampleOracleCrypto (fun _ => none) sampleEnvironment sampleNode ⟨2⟩ 9
  constructor
  · exact (handled.1 (sampleOfferDlc [sampleMaturing 10] 100) (by decide)).mp
      ⟨avoids_ok (), nofun⟩
  · exact (handled.2 (sampleOfferLoanDlc [sampleMaturing 10] 100) (by decide)).mp
      ⟨avoids_ok (), nofun⟩

/-- An event that no oracle announces, and a payout of more than the total. -/
theorem unguarded_offers_panic :
    (onOfferMessage sampleEnvironment (receivedOffer sampleCrypto sampleOracleCrypto
      (fun _ => none) ⟨2⟩ 9 (sampleOfferDlc [] 100)) sampleNode).1 =
      .error (.panic "to have at least one event") ∧
    (onOfferMessage sampleEnvironment (receivedOffer sampleCrypto sampleOracleCrypto
      (fun _ => none) ⟨2⟩ 9 (sampleOfferDlc [sampleMaturing 10] 101)) sampleNode).1 =
      .error (.panic "Amount subtraction error") ∧
    (onOfferLoanMessage sampleEnvironment (receivedLoanOffer sampleCrypto sampleOracleCrypto
      (fun _ => none) ⟨2⟩ 9 (sampleOfferLoanDlc [] 100)) sampleNode).1 =
      .error (.panic "to have at least one event") :=
  ⟨rfl, rfl, rfl⟩

end P2PLending.Manager.Infos
