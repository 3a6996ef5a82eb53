import P2PLending.Manager.OfferChecks
import P2PLending.Manager.LoanSecrets
import P2PLending.Manager.StageAgreement

/-! The offers that a party makes, against the checks of the party that receives them. The
locktimes come from the last maturity of the oracles' events and are checked against the
first. -/

namespace P2PLending.Manager.Infos
open Dlc Checked

variable {F : Floats} {T : Tries F} {K : AdaptorCrypto}
  {order : List (List String × List ℕ) → List (List String × List ℕ)}

/-! What a party is given for an offer. -/

/-- An announcement as the offer's dates are computed from it. -/
def OracleAnnouncement.dated (a : OracleAnnouncement) : Manager.OracleAnnouncement OracleAnnouncement where
  eventMaturityEpoch := a.oracleEvent.eventMaturityEpoch
  event := a

structure ContractInputInfo (T : Tries F) where
  contractDescriptor : ContractDescriptor (curves T)
  oracles : OracleInput

/-- The contract info that the input makes of its announcements. -/
def ContractInputInfo.info (x : ContractInputInfo T) :
    Manager.ContractInputInfo (contractDescriptors K (curves T) order) OracleAnnouncement where
  contractDescriptor announcements threshold :=
    (⟨x.contractDescriptor, announcements.map (·.event), threshold⟩ : ContractInfo (curves T))
  oracles := x.oracles

structure ContractInput (T : Tries F) where
  offerCollateral : ℕ
  acceptCollateral : ℕ
  feeRate : ℕ
  contractInfos : List (ContractInputInfo T)

def ContractInput.validate (input : ContractInput T) : Result Unit := do
  ensure (input.contractInfos.isEmpty = false)
    (.err (.invalidParameters "Need at least one contract info"))
  input.contractInfos.forM fun info => info.oracles.validate
  validateFeeRate input.feeRate "Fee rate too high."

structure LoanContractInput (T : Tries F) where
  collateralRatio : ℕ
  liquidationRatio : ℕ
  interestRate : ℕ
  duration : ℕ
  collateral : ℕ
  feeRate : ℕ
  contractInfos : List (ContractInputInfo T)

section Offer
variable (K) (order)

def ContractInput.input (input : ContractInput T) :
    Manager.ContractInput (contractDescriptors K (curves T) order) OracleAnnouncement where
  offerCollateral := input.offerCollateral
  acceptCollateral := input.acceptCollateral
  feeRate := input.feeRate
  contractInfos := input.contractInfos.map ContractInputInfo.info

def LoanContractInput.input (input : LoanContractInput T) :
    Manager.LoanContractInput (contractDescriptors K (curves T) order) OracleAnnouncement where
  collateralRatio := input.collateralRatio
  liquidationRatio := input.liquidationRatio
  interestRate := input.interestRate
  duration := input.duration
  collateral := input.collateral
  feeRate := input.feeRate
  contractInfos := input.contractInfos.map ContractInputInfo.info

/-- The answers of one call of `offer_contract`, with the temporary id that it draws. -/
structure ContractEnvironment extends AcceptEnvironment where
  newTemporaryId : ContractId
  deriveSignerKeyId : (isOfferParty : Bool) → ContractId → KeysId
  unixTimeNow : ℕ

variable (C : Crypto) (counterParty : PublicKey)
  (oracleAnnouncements : List (List OracleAnnouncement))

def offerContract (env : ContractEnvironment) (input : ContractInput T) :
    Result (Offered K T order × OfferDlc (curveMessages T)) := do
  input.validate
  let keysId := env.deriveSignerKeyId true env.newTemporaryId
  let signer ← answered (env.deriveContractSigner keysId)
  let (partyParams, fundingInputs) ← getPartyParams env.toAcceptEnvironment C
    input.offerCollateral input.feeRate signer
  let offered ← OfferedContract.new env.newTemporaryId (input.input K order)
    (oracleAnnouncements.map fun l => l.map OracleAnnouncement.dated) partyParams fundingInputs
    counterParty refundDelay (env.unixTimeNow % 2 ^ 32) keysId
    (env.getNewSerialId (2 + fundingInputs.length))
  let msg ← toOfferDlc offered
  .ok (offered, msg)

/-- `offer_loan_contract` -/
def offerLoan (env : OfferEnvironment) (input : LoanContractInput T) :
    Result (OfferedLoan K T order × OfferLoanDlc (curveMessages T)) := do
  let offered ← offerLoanContract env C (input.input K order) counterParty
    (oracleAnnouncements.map fun l => l.map OracleAnnouncement.dated)
  let msg ← toOfferLoanDlc offered
  .ok (offered, msg)

end Offer

/-! What is checked of one info. -/

/-- A descriptor that its receiver takes, with the announcements that go with it. An
enumerated one pays at most the total for the outcomes that all its oracles announce. The
curve of a numerical one is joined at the beginning of its pieces, and its digits are the
announced ones. -/
def Sound (totalCollateral : ℕ) (descriptor : ContractDescriptor (curves T))
    (announcements : List OracleAnnouncement) : Prop :=
  announcements ≠ [] ∧ match descriptor with
    | .enum e => (∀ x ∈ e, x.payout.offer ≤ totalCollateral) ∧
        ∀ a ∈ announcements, ∃ outcomes, a.oracleEvent.eventDescriptor = .enumEvent outcomes ∧
          outcomes.Perm (e.map (·.outcome))
    | .numerical n => ∃ numbers : OracleNumericInfo, numbers.AnnouncedBy announcements ∧
        ∃ curve, PayoutFunction.toSer (NumericalDescriptor.payoutFunction n) = .ok curve ∧
          (curves T).validate (⟨curve.toPayoutFunction,
            NumericalDescriptor.roundingIntervals n, none, numbers⟩ : NumericalDescriptor F) =
            .ok () ∧
          ∃ ranges, curve.toPayoutFunction.toRangePayouts totalCollateral
            (NumericalDescriptor.roundingIntervals n) = .ok ranges

theorem valid_iff_fits {messageTotal total : ℕ} (limit : total < u64Limit)
    {c : ContractInfoInner (curveMessages T)} {info : ContractInfo (curves T)}
    (read : readContractInfo messageTotal c = .ok info) :
    info.Valid total ↔ c.Fits messageTotal total := by
  rw [← readContractInfo_fits limit read]
  exact ⟨fun valid => ⟨valid.validated, valid.sums⟩, fun ⟨validated, sums⟩ => ⟨validated, sums⟩⟩

theorem readOutcomes_exists (total : ℕ) (outcomes : List ContractOutcome) :
    (∃ e, outcomes.mapM (readOutcome total) = .ok e) ↔ ∀ x ∈ outcomes, x.offerPayout ≤ total := by
  rw [exists_mapM_ok]
  refine forall₂_congr fun x _ => ?_
  simp [readOutcome, bind_eq_ok, amountSub]

theorem written_enum_taken {total threshold : ℕ} (limit : total < u64Limit) {e : EnumDescriptor}
    {announcements : List OracleAnnouncement} {ser : ContractInfoInner (curveMessages T)}
    (written : ContractInfo.toSer (T := T) ⟨.enum e, announcements, threshold⟩ = .ok ser) :
    (∃ back, readContractInfo total ser = .ok back ∧ back.Valid total) ↔
      Sound (T := T) total (.enum e) announcements := by
  have listed := @writeOracleInfo_announcements F T ⟨.enum e, announcements, threshold⟩
  obtain rfl := Except.ok.inj written
  have outcomes := readOutcomes_exists total (e.map fun x => ⟨x.outcome, x.payout.offer⟩)
  rw [List.forall_mem_map] at outcomes
  constructor
  · rintro ⟨back, reads, valid⟩
    have fits := (valid_iff_fits limit reads).mp valid
    simp only [ContractInfoInner.Fits, listed, List.map_map, Function.comp_def, implies_true,
      and_true] at fits
    simp only [readContractInfo, readDescriptor, bind_eq_ok] at reads
    obtain ⟨_, ⟨paid, computed, _⟩, _⟩ := reads
    exact ⟨fits.1, outcomes.mp ⟨paid, computed⟩, fits.2⟩
  · rintro ⟨some, covered, enums⟩
    obtain ⟨paid, computed⟩ := outcomes.mpr covered
    have reads : readContractInfo total (⟨.enumerated (e.map fun x => ⟨x.outcome, x.payout.offer⟩),
        writeOracleInfo (curveMessages T) ⟨.enum e, announcements, threshold⟩⟩ :
          ContractInfoInner (curveMessages T)) = .ok ⟨.enum paid, announcements,
        (writeOracleInfo (curveMessages T) ⟨.enum e, announcements, threshold⟩).threshold⟩ := by
      simp only [readContractInfo, readDescriptor, computed, listed, all_isEnum enums, ensure,
        if_true, ok_bind]
    refine ⟨_, reads, (valid_iff_fits limit reads).mpr ?_⟩
    simp only [ContractInfoInner.Fits, listed, List.map_map, Function.comp_def, implies_true,
      and_true]
    exact ⟨some, enums⟩

theorem written_numerical_taken {total threshold : ℕ} (limit : total < u64Limit)
    {n : NumericalDescriptor F} {announcements : List OracleAnnouncement}
    {ser : ContractInfoInner (curveMessages T)}
    (written : ContractInfo.toSer (T := T) ⟨.numerical n, announcements, threshold⟩ = .ok ser) :
    (∃ back, readContractInfo total ser = .ok back ∧ back.Valid total) ↔
      Sound (T := T) total (.numerical n) announcements := by
  have listed := @writeOracleInfo_announcements F T ⟨.numerical n, announcements, threshold⟩
  simp only [ContractInfo.toSer, ContractDescriptor.toSer, NumericalDescriptor.toSer, bind_eq_ok,
    Except.ok.injEq] at written
  obtain ⟨_, ⟨_, ⟨numDigits, _, curve, wrote, rfl⟩, rfl⟩, rfl⟩ := written
  -- what the receiver checks of the curve that it reads
  have checks : ∀ numbers : OracleNumericInfo, oracleNumericInfo announcements = .ok numbers →
      (ContractInfoInner.Fits total total (⟨.numericOutcome ⟨numDigits % 2 ^ 16, curve,
          n.roundingIntervals⟩, writeOracleInfo (curveMessages T)
            ⟨.numerical n, announcements, threshold⟩⟩ : ContractInfoInner (curveMessages T)) ↔
        (curves T).validate (⟨curve.toPayoutFunction, n.roundingIntervals, none, numbers⟩ :
          NumericalDescriptor F) = .ok () ∧
        ∃ ranges, curve.toPayoutFunction.toRangePayouts total n.roundingIntervals = .ok ranges) := by
    intro numbers announced
    simp only [ContractInfoInner.Fits, listed, announced, Except.ok.injEq, forall_eq',
      curveMessages_toNumerical]
    refine and_congr Iff.rfl (exists_congr fun ranges => ?_)
    exact and_iff_left_of_imp PayoutFunction.toRangePayouts_shares
  constructor
  · rintro ⟨back, reads, valid⟩
    have fits := (valid_iff_fits limit reads).mp valid
    simp only [readContractInfo, readDescriptor, listed, bind_eq_ok] at reads
    obtain ⟨_, ⟨numbers, announced, _⟩, _⟩ := reads
    obtain ⟨some, digits⟩ := oracleNumericInfo_iff.mp announced
    obtain ⟨validated, ranges⟩ := (checks numbers announced).mp fits
    exact ⟨some, numbers, digits, curve, wrote, validated, ranges⟩
  · rintro ⟨some, numbers, digits, curve', wrote', validated, ranges⟩
    obtain rfl := Except.ok.inj (wrote.symm.trans wrote')
    have announced := oracleNumericInfo_iff.mpr ⟨some, digits⟩
    have reads : ∃ back, readContractInfo total (⟨.numericOutcome ⟨numDigits % 2 ^ 16, curve,
          n.roundingIntervals⟩, writeOracleInfo (curveMessages T)
            ⟨.numerical n, announcements, threshold⟩⟩ : ContractInfoInner (curveMessages T)) =
          .ok back := by
      simp only [readContractInfo, readDescriptor, listed, announced, ok_bind]
      exact ⟨_, rfl⟩
    obtain ⟨back, reads⟩ := reads
    exact ⟨back, reads, (valid_iff_fits limit reads).mpr
      ((checks numbers announced).mpr ⟨validated, ranges⟩)⟩

/-- An info is taken from its message when the sender's input is sound. -/
theorem written_info_taken {total : ℕ} (limit : total < u64Limit) {info : ContractInfo (curves T)}
    {ser : ContractInfoInner (curveMessages T)} (written : info.toSer = .ok ser) :
    (∃ back, readContractInfo total ser = .ok back ∧ back.Valid total) ↔
      Sound total info.contractDescriptor info.oracleAnnouncements := by
  obtain ⟨descriptor, announcements, threshold⟩ := info
  cases descriptor with
  | enum e => exact written_enum_taken limit written
  | numerical n => exact written_numerical_taken limit written

/-! The whole offer. -/

section Sent
variable {C : Crypto} {decodeTransaction : Bytes → Option Transaction}

theorem validate_iff {c : Offered K T order} :
    c.validate = .ok () ↔ c.feeRatePerVb ≤ 25 * 250 ∧
      ∀ info ∈ c.contractInfo, ContractInfo.Valid (T := T) info c.totalCollateral := by
  constructor
  · intro valid
    refine ⟨?_, validate_infos valid⟩
    simp only [OfferedContract.validate, validateFeeRate, bind_eq_ok, ensure_eq_ok] at valid
    obtain ⟨_, low, -⟩ := valid
    exact low
  · rintro ⟨low, each⟩
    simp only [OfferedContract.validate, validateFeeRate, bind_eq_ok, ensure_eq_ok, forM_eq_ok]
    refine ⟨(), low, fun info listed => ?_⟩
    obtain ⟨validated, payouts, paid, summed⟩ := each info listed
    exact ⟨(), validated, payouts, paid, true, summed, rfl⟩

theorem written_infos_taken {total : ℕ} (limit : total < u64Limit)
    {infos : List (ContractInfo (curves T))} {sers : List (ContractInfoInner (curveMessages T))}
    (written : infos.mapM ContractInfo.toSer = .ok sers) :
    (∃ back, sers.mapM (readContractInfo total) = .ok back ∧ ∀ info ∈ back, info.Valid total) ↔
      ∀ info ∈ infos, Sound total info.contractDescriptor info.oracleAnnouncements := by
  rw [exists_mapM_forall]
  exact forall_mapM_iff written fun wrote => written_info_taken limit wrote

theorem sent_offer_taken {c : Offered K T order} {offer : OfferDlc (curveMessages T)}
    (limit : c.totalCollateral < u64Limit) (written : toOfferDlc c = .ok offer)
    (counterParty : PublicKey) (keysId : KeysId) :
    (∃ back : Offered K T order, tryFromOfferDlc C decodeTransaction offer counterParty keysId =
      .ok back ∧ back.validate = .ok ()) ↔
      (∃ funded, getTxInputInfos C decodeTransaction c.fundingInputs = .ok funded) ∧
        c.feeRatePerVb ≤ 25 * 250 ∧ ∀ info ∈ (c.contractInfo : List (ContractInfo (curves T))),
          Sound c.totalCollateral info.contractDescriptor info.oracleAnnouncements := by
  simp only [toOfferDlc, bind_eq_ok, Except.ok.injEq] at written
  obtain ⟨sers, wrote, rfl⟩ := written
  have taken := written_infos_taken limit wrote
  simp only [tryFromOfferDlc, bind_eq_ok, Except.ok.injEq, Prod.exists,
    SerContractInfo.getContractInfoAndAnnouncements, SerContractInfo.ofInfos_total,
    SerContractInfo.ofInfos_infos]
  constructor
  · rintro ⟨_, ⟨back, reads, inputs, amount, funded, rfl⟩, valid⟩
    obtain ⟨low, each⟩ := validate_iff.mp valid
    exact ⟨⟨inputs, amount, funded⟩, low, taken.mp ⟨back, reads, each⟩⟩
  · rintro ⟨⟨inputs, amount, funded⟩, low, sound⟩
    obtain ⟨back, reads, each⟩ := taken.mpr sound
    exact ⟨_, ⟨back, reads, inputs, amount, funded, rfl⟩, validate_iff.mpr ⟨low, each⟩⟩

/-- The announcements of a message are those of the contract. -/
theorem written_announcements {infos : List (ContractInfo (curves T))}
    {sers : List (ContractInfoInner (curveMessages T))}
    (written : infos.mapM ContractInfo.toSer = .ok sers) :
    sers.map (fun c => c.oracleInfo.announcements) =
      infos.map ContractInfo.oracleAnnouncements := by
  have pairs := mapM_eq_ok.mp written
  rw [← List.forall₂_eq_eq_eq, List.forall₂_map_left_iff, List.forall₂_map_right_iff]
  refine List.Forall₂.flip (pairs.imp fun info ser wrote => ?_)
  simp only [ContractInfo.toSer, bind_eq_ok, Except.ok.injEq] at wrote
  obtain ⟨_, _, rfl⟩ := wrote
  exact writeOracleInfo_announcements

/-- The checks of the dates, when the locktime of the CETs is not late and the refund is a
delay after the last maturity. -/
theorem sent_offer_validated {offer : OfferDlc (curveMessages T)} {O : OracleCrypto} {latest : ℕ}
    {oracleAnnouncements : List (List OracleAnnouncement)}
    {sers : List (ContractInfoInner (curveMessages T))} {total : ℕ}
    (info : offer.contractInfo = .ofInfos total sers)
    (announced : sers.map (fun c => c.oracleInfo.announcements) = oracleAnnouncements)
    (some : sers ≠ [])
    (last : ∃ a ∈ oracleAnnouncements.flatten, a.oracleEvent.eventMaturityEpoch = latest)
    (late : ∀ a ∈ oracleAnnouncements.flatten, a.oracleEvent.eventMaturityEpoch ≤ latest)
    (early : ∀ a ∈ oracleAnnouncements.flatten,
      offer.cetLocktime ≤ a.oracleEvent.eventMaturityEpoch)
    (refund : offer.refundLocktime = latest + refundDelay) :
    offer.validate C O refundDelay (refundDelay * 2) = .ok () ↔
      (∀ a ∈ oracleAnnouncements.flatten, a.Valid C O) ∧ (∀ l ∈ oracleAnnouncements, l ≠ []) ∧
        (∀ a ∈ oracleAnnouncements.flatten,
          latest ≤ a.oracleEvent.eventMaturityEpoch + refundDelay) ∧
        ∃ a ∈ oracleAnnouncements.flatten,
          a.oracleEvent.eventMaturityEpoch + refundDelay * 2 < 2 ^ 32 := by
  have several : ∀ total' cs, offer.contractInfo = .disjoint total' cs → 2 ≤ cs.length := by
    intro total' cs same
    rw [info] at same
    match sers with
    | [] => exact absurd rfl some
    | [_] => cases same
    | _ :: _ :: rest =>
        cases same
        exact Nat.le_add_left 2 rest.length
  have signed : (∀ c ∈ offer.contractInfo.contractInfos, ∀ a ∈ c.oracleInfo.announcements,
      a.Valid C O) ↔ ∀ a ∈ oracleAnnouncements.flatten, a.Valid C O := by
    rw [info, SerContractInfo.ofInfos_infos, List.forall_mem_flatten, ← announced,
      List.forall_mem_map]
  have present : (∀ c ∈ offer.contractInfo.contractInfos, c.oracleInfo.announcements ≠ []) ↔
      ∀ l ∈ oracleAnnouncements, l ≠ [] := by
    rw [info, SerContractInfo.ofInfos_infos, ← announced, List.forall_mem_map]
  have dates : offer.contractInfo.maturities =
      oracleAnnouncements.flatten.map fun a => a.oracleEvent.eventMaturityEpoch := by
    rw [SerContractInfo.maturities, info, SerContractInfo.ofInfos_infos, ← announced,
      List.map_flatten, List.map_map, List.flatMap_def]
    rfl
  rw [OfferDlc.validate_ok (by decide), SerContractInfo.validateOracles_ok, signed]
  simp only [SerContractInfo.getClosestMaturityDate_ok, present, dates, List.mem_map,
    forall_exists_index, and_imp, forall_apply_eq_imp_iff₂, refund]
  constructor
  · rintro ⟨⟨-, valid⟩, _, ⟨nonempty, ⟨a, listed, rfl⟩, first⟩, -, -, within, fits⟩
    refine ⟨valid, nonempty, fun b other => ?_, a, listed, fits⟩
    have before := first b other
    omega
  · rintro ⟨valid, nonempty, spread, b, other, fits⟩
    obtain ⟨closest, least⟩ : ∃ closest, (oracleAnnouncements.flatten.map fun a =>
        a.oracleEvent.eventMaturityEpoch).min? = Option.some closest := by
      rw [← Option.isSome_iff_exists, List.isSome_min?_iff]
      exact List.ne_nil_of_mem (List.mem_map_of_mem other)
    obtain ⟨mature, first⟩ := List.min?_eq_some_iff.mp least
    rw [List.forall_mem_map] at first
    obtain ⟨a, listed, rfl⟩ := List.mem_map.mp mature
    have before := first b other
    have within := spread a listed
    have notLate := late a listed
    exact ⟨⟨several, valid⟩, _, ⟨nonempty, ⟨a, listed, rfl⟩, first⟩, early a listed, by omega,
      by omega, by omega⟩

/-- The funding inputs that a wallet's coins give are read back. -/
theorem selectInputs_read {env : AcceptEnvironment}
    (decodes : ∀ txid tx, env.getTransaction txid = .ok tx →
      decodeTransaction (env.encodeTransaction tx) = some tx) {utxos : List Utxo}
    {k total amount : ℕ} {inputs : List (FundingInput × TxInputInfo)}
    (selected : selectInputs env C k total utxos = .ok (inputs, amount))
    (infos : List TxInputInfo) :
    (inputs.map Prod.fst).foldlM (addInput C decodeTransaction) (infos, total) =
      .ok (infos ++ inputs.map Prod.snd, amount) := by
  induction utxos generalizing k total infos inputs with
  | nil =>
      obtain ⟨rfl, rfl⟩ := Prod.mk.inj (Except.ok.inj selected)
      simp
  | cons utxo utxos ih =>
      simp only [selectInputs, bind_eq_ok, index_eq_ok, ofDlc_eq_ok, Prod.exists,
        Except.ok.injEq, Prod.mk.injEq] at selected
      obtain ⟨tx, known, txOut, output, sum, added, rest, amount', later, rfl, rfl⟩ := selected
      obtain ⟨fits, rfl⟩ := add_eq_ok.mp added
      rw [List.map_cons, List.foldlM_cons, List.map_cons]
      refine bind_eq_ok.mpr ⟨_, addInput_ok.mpr ⟨_, _, spentOutput_of
        (decodes _ tx (answered_eq_ok.mp known)) output, fits, rfl⟩, (ih later _).trans ?_⟩
      rw [List.append_assoc, List.singleton_append]

end Sent

/-! The two ways to an offer. -/

section Own
variable {C : Crypto} {decodeTransaction : Bytes → Option Transaction} {O : OracleCrypto}

/-- What the input and the announcements must satisfy for the peer's checks. -/
structure Passes (C : Crypto) (O : OracleCrypto) (totalCollateral : ℕ)
    (infos : List (ContractInputInfo T)) (oracleAnnouncements : List (List OracleAnnouncement)) :
    Prop where
  signed : ∀ a ∈ oracleAnnouncements.flatten, a.Valid C O
  spread : ∀ a ∈ oracleAnnouncements.flatten, ∀ b ∈ oracleAnnouncements.flatten,
    a.oracleEvent.eventMaturityEpoch ≤ b.oracleEvent.eventMaturityEpoch + refundDelay
  dated : ∃ a ∈ oracleAnnouncements.flatten,
    a.oracleEvent.eventMaturityEpoch + refundDelay * 2 < 2 ^ 32
  sound : List.Forall₂ (fun x l => Sound totalCollateral x.contractDescriptor l) infos
    oracleAnnouncements

/-- What `OfferedContract::new` makes of the input. -/
theorem new_ok {id : ContractId}
    {contract : Manager.ContractInput (contractDescriptors K (curves T) order) OracleAnnouncement}
    {infos : List (ContractInputInfo T)}
    (described : contract.contractInfos = infos.map ContractInputInfo.info)
    {oracleAnnouncements : List (List OracleAnnouncement)} {offerParams : PartyParams}
    {fundingInputs : List FundingInput} {counterParty : PublicKey} {delay cetLocktime : ℕ}
    {keysId : KeysId} {serialId : ℕ} {offered : Offered K T order}
    (made : OfferedContract.new id contract
      (oracleAnnouncements.map fun l => l.map OracleAnnouncement.dated) offerParams fundingInputs
      counterParty delay cetLocktime keysId serialId = .ok offered) :
    offered.totalCollateral = contract.offerCollateral + contract.acceptCollateral ∧
      offered.totalCollateral < u64Limit ∧ infos.length = oracleAnnouncements.length ∧
      (∃ latest, (∃ a ∈ oracleAnnouncements.flatten, a.oracleEvent.eventMaturityEpoch = latest) ∧
        (∀ a ∈ oracleAnnouncements.flatten, a.oracleEvent.eventMaturityEpoch ≤ latest) ∧
        latest + delay < 2 ^ 32 ∧ offered.refundLocktime = latest + delay) ∧
      offered.cetLocktime = cetLocktime ∧ offered.feeRatePerVb = contract.feeRate ∧
      offered.fundingInputs = fundingInputs ∧
      offered.contractInfo = List.zipWith (fun x l =>
        (⟨x.contractDescriptor, l, x.oracles.threshold⟩ : ContractInfo (curves T))) infos
        oracleAnnouncements := by
  simp only [OfferedContract.new, bind_eq_ok, ofDlc_eq_ok, amountAdd, add_eq_ok, ensure_eq_ok,
    Except.ok.injEq] at made
  obtain ⟨_, ⟨fits, rfl⟩, _, lengths, latest, found, _, ⟨dated, rfl⟩, rfl⟩ := made
  have last : (oracleAnnouncements.flatten.map fun a =>
      a.oracleEvent.eventMaturityEpoch).max? = some latest := by
    have dates : (oracleAnnouncements.map fun l => l.map OracleAnnouncement.dated).flatten.map
        Manager.OracleAnnouncement.eventMaturityEpoch = oracleAnnouncements.flatten.map fun a =>
          a.oracleEvent.eventMaturityEpoch := by
      rw [List.map_flatten, List.map_map, List.map_flatten]
      simp only [Function.comp_def, List.map_map]
      rfl
    unfold getLatestMaturityDate at found
    rw [dates] at found
    split at found
    next latest' least =>
      obtain rfl := Except.ok.inj found
      exact least
    next none => cases found
  obtain ⟨listed, late⟩ := List.max?_eq_some_iff.mp last
  rw [List.forall_mem_map] at late
  refine ⟨rfl, fits, ?_, ⟨latest, List.mem_map.mp listed, late, dated, rfl⟩, rfl, rfl, rfl, ?_⟩
  · simpa only [described, List.length_map] using lengths
  · rw [described, List.zipWith_map]
    have undated : ∀ l : List OracleAnnouncement, (l.map OracleAnnouncement.dated).map
        Manager.OracleAnnouncement.event = l := by
      intro l
      rw [List.map_map]
      exact List.map_id l
    simp only [ContractInputInfo.info, undated]
    rfl

theorem sound_infos {total : ℕ} {infos : List (ContractInputInfo T)}
    {oracleAnnouncements : List (List OracleAnnouncement)}
    (lengths : infos.length = oracleAnnouncements.length) :
    (∀ info ∈ List.zipWith (fun x l =>
        (⟨x.contractDescriptor, l, x.oracles.threshold⟩ : ContractInfo (curves T))) infos
        oracleAnnouncements, Sound total info.contractDescriptor info.oracleAnnouncements) ↔
      List.Forall₂ (fun x l => Sound total x.contractDescriptor l) infos oracleAnnouncements := by
  rw [← List.map_uncurry_zip_eq_zipWith, List.forall_mem_map, List.forall₂_iff_zip]
  constructor
  · intro each
    exact ⟨lengths, fun paired => each _ paired⟩
  · rintro ⟨-, each⟩ pair paired
    exact each paired

/-- What both ways to an offer come to. -/
theorem own_offer_iff {id : ContractId}
    {contract : Manager.ContractInput (contractDescriptors K (curves T) order) OracleAnnouncement}
    {infos : List (ContractInputInfo T)}
    (described : contract.contractInfos = infos.map ContractInputInfo.info)
    (some : infos ≠ []) (low : contract.feeRate ≤ 25 * 250)
    {oracleAnnouncements : List (List OracleAnnouncement)} {offerParams : PartyParams}
    {fundingInputs : List FundingInput} {counterParty : PublicKey} {cetLocktime : ℕ}
    {keysId : KeysId} {serialId : ℕ} {offered : Offered K T order}
    {offer : OfferDlc (curveMessages T)}
    (made : OfferedContract.new id contract
      (oracleAnnouncements.map fun l => l.map OracleAnnouncement.dated) offerParams fundingInputs
      counterParty refundDelay cetLocktime keysId serialId = .ok offered)
    (written : toOfferDlc offered = .ok offer)
    (funded : ∃ read, getTxInputInfos C decodeTransaction fundingInputs = .ok read)
    (early : ∀ a ∈ oracleAnnouncements.flatten, cetLocktime ≤ a.oracleEvent.eventMaturityEpoch)
    (peer : PublicKey) (peerKeysId : KeysId) :
    (offer.validate C O refundDelay (refundDelay * 2) = .ok () ∧
      ∃ back : Offered K T order, tryFromOfferDlc C decodeTransaction offer peer peerKeysId =
        .ok back ∧ back.validate = .ok ()) ↔
      Passes C O (contract.offerCollateral + contract.acceptCollateral) infos
        oracleAnnouncements := by
  obtain ⟨total, limit, lengths, ⟨latest, last, late, -, refund⟩, cet, fee, inputs, infosAre⟩ :=
    new_ok described made
  have taken := @sent_offer_taken F T K order C decodeTransaction offered offer limit written peer
    peerKeysId
  have funds : ∃ read, getTxInputInfos C decodeTransaction offered.fundingInputs = .ok read :=
    inputs.symm ▸ funded
  have rate : offered.feeRatePerVb ≤ 25 * 250 := fee.symm ▸ low
  have sound : (∀ info ∈ (offered.contractInfo : List (ContractInfo (curves T))),
      Sound offered.totalCollateral info.contractDescriptor info.oracleAnnouncements) ↔
      List.Forall₂ (fun x l => Sound (contract.offerCollateral + contract.acceptCollateral)
        x.contractDescriptor l) infos oracleAnnouncements := by
    rw [infosAre, total]
    exact sound_infos lengths
  simp only [toOfferDlc, bind_eq_ok, Except.ok.injEq] at written
  obtain ⟨sers, wrote, same⟩ := written
  have info : offer.contractInfo = .ofInfos offered.totalCollateral sers := by rw [← same]
  have offerCet : offer.cetLocktime = cetLocktime := by rw [← same, cet]
  have offerRefund : offer.refundLocktime = latest + refundDelay := by rw [← same, refund]
  have announced : sers.map (fun c => c.oracleInfo.announcements) = oracleAnnouncements := by
    rw [written_announcements wrote, infosAre, List.map_zipWith, ← List.map_uncurry_zip_eq_zipWith]
    exact List.map_snd_zip lengths.ge
  have nonempty : sers ≠ [] := by
    rintro rfl
    rw [← announced] at lengths
    exact some (List.length_eq_zero_iff.mp lengths)
  have validated := sent_offer_validated (C := C) (O := O) info announced nonempty last late
    (fun a listed => offerCet.symm ▸ early a listed) offerRefund
  rw [validated, taken, sound]
  constructor
  · rintro ⟨⟨signed, _, spread, dated⟩, _, _, each⟩
    refine ⟨signed, fun a listed b other => ?_, dated, each⟩
    exact (late a listed).trans (spread b other)
  · intro passes
    have present : ∀ l ∈ oracleAnnouncements, l ≠ [] := by
      have each := passes.sound
      clear * - each
      induction each with
      | nil => simp
      | cons head _ ih => exact List.forall_mem_cons.mpr ⟨head.1, ih⟩
    obtain ⟨a, listed, rfl⟩ := last
    exact ⟨⟨passes.signed, present, fun b other => passes.spread a listed b other, passes.dated⟩,
      funds, rate, passes.sound⟩

/-- The peer reads the inputs that a party takes from its wallet. -/
theorem getPartyParams_read {env : AcceptEnvironment}
    (decodes : ∀ txid tx, env.getTransaction txid = .ok tx →
      decodeTransaction (env.encodeTransaction tx) = some tx)
    {ownCollateral feeRate : ℕ} {signer : ContractSigner} {params : PartyParams}
    {fundingInputs : List FundingInput}
    (taken : getPartyParams env C ownCollateral feeRate signer = .ok (params, fundingInputs)) :
    ∃ read, getTxInputInfos C decodeTransaction fundingInputs = .ok read := by
  simp only [getPartyParams, bind_eq_ok, Prod.exists, Except.ok.injEq, Prod.mk.injEq] at taken
  obtain ⟨_, _, _, _, _, _, _, _, utxos, _, inputs, amount, selected, _, rfl⟩ := taken
  exact ⟨_, selectInputs_read decodes selected []⟩

/-- An offer that is made before any of its oracles' events has matured passes the checks of
the peer exactly when no maturity is more than a refund delay before another, twice the delay
after the first still is a date, and the announcements and descriptors are sound. -/
theorem own_offers_pass_iff :
    (∀ (env : ContractEnvironment) (input : ContractInput T) (counterParty : PublicKey)
        (oracleAnnouncements : List (List OracleAnnouncement)) (offered : Offered K T order)
        (offer : OfferDlc (curveMessages T)),
      (∀ txid tx, env.getTransaction txid = .ok tx →
        decodeTransaction (env.encodeTransaction tx) = some tx) →
      (∀ a ∈ oracleAnnouncements.flatten, env.unixTimeNow ≤ a.oracleEvent.eventMaturityEpoch) →
      offerContract K order C counterParty oracleAnnouncements env input = .ok (offered, offer) →
      ∀ peer keysId,
        ((offer.validate C O refundDelay (refundDelay * 2) = .ok () ∧
          ∃ back : Offered K T order, tryFromOfferDlc C decodeTransaction offer peer keysId =
            .ok back ∧ back.validate = .ok ()) ↔
          Passes C O (input.offerCollateral + input.acceptCollateral) input.contractInfos
            oracleAnnouncements)) ∧
    ∀ (env : OfferEnvironment) (input : LoanContractInput T) (counterParty : PublicKey)
        (oracleAnnouncements : List (List OracleAnnouncement)) (offered : OfferedLoan K T order)
        (offer : OfferLoanDlc (curveMessages T)),
      (∀ a ∈ oracleAnnouncements.flatten, env.unixTimeNow ≤ a.oracleEvent.eventMaturityEpoch) →
      offerLoan K order C counterParty oracleAnnouncements env input = .ok (offered, offer) →
      ∀ peer keysId,
        ((offer.offerDlc.validate C O refundDelay (refundDelay * 2) = .ok () ∧
          ∃ back : Offered K T order, tryFromOfferDlc C decodeTransaction offer.offerDlc peer
            keysId = .ok back ∧ back.validate = .ok ()) ↔
          Passes C O input.collateral input.contractInfos oracleAnnouncements) := by
  constructor
  · intro env input counterParty oracleAnnouncements offered offer decodes early ran peer keysId
    simp only [offerContract, ContractInput.validate, validateFeeRate, bind_eq_ok, ensure_eq_ok,
      Prod.exists, Except.ok.injEq, Prod.mk.injEq] at ran
    obtain ⟨_, ⟨_, some, _, _, low⟩, signer, _, params, fundingInputs, taken, _, made, _, written,
      rfl, rfl⟩ := ran
    have notLate : ∀ a ∈ oracleAnnouncements.flatten,
        env.unixTimeNow % 2 ^ 32 ≤ a.oracleEvent.eventMaturityEpoch := fun a listed =>
      (Nat.mod_le _ _).trans (early a listed)
    exact own_offer_iff rfl (List.isEmpty_eq_false_iff.mp some) low made written
      (getPartyParams_read decodes taken) notLate peer keysId
  · intro env input counterParty oracleAnnouncements offered offer early ran peer keysId
    simp only [offerLoan, offerLoanContract, Manager.LoanContractInput.validate, validateFeeRate,
      toOfferLoanDlc, bind_eq_ok, ensure_eq_ok, Except.ok.injEq, Prod.mk.injEq] at ran
    obtain ⟨_, ⟨_, ⟨_, _, _, _, _, some, _, _, low⟩, signer, _, params, _, _, made, rfl⟩, _,
      ⟨_, written, rfl⟩, rfl, rfl⟩ := ran
    have nonempty : input.contractInfos ≠ [] := by
      rintro none
      simp [LoanContractInput.input, none] at some
    have notLate : ∀ a ∈ oracleAnnouncements.flatten,
        env.unixTimeNow % 2 ^ 32 ≤ a.oracleEvent.eventMaturityEpoch := fun a listed =>
      (Nat.mod_le _ _).trans (early a listed)
    rw [← Nat.zero_add input.collateral]
    exact own_offer_iff rfl nonempty low made written ⟨_, rfl⟩ notLate peer keysId

end Own

/-! Two oracles of one event. -/

def sampleMaturing (date : ℕ) : OracleAnnouncement :=
  { sampleAnnouncement 6 with
    oracleEvent := { (sampleAnnouncement 6).oracleEvent with eventMaturityEpoch := date } }

def sampleInputInfo : ContractInputInfo (sampleTries sampleFloats) where
  contractDescriptor := .enum [⟨"up", ⟨100, 0⟩⟩, ⟨"down", ⟨0, 100⟩⟩]
  oracles := ⟨[5, 7], 2⟩

def sampleContractInput : ContractInput (sampleTries sampleFloats) where
  offerCollateral := 60
  acceptCollateral := 40
  feeRate := 2
  contractInfos := [sampleInputInfo]

def sampleLoanContractInput : LoanContractInput (sampleTries sampleFloats) where
  collateralRatio := 150
  liquidationRatio := 120
  interestRate := 5
  duration := 1000
  collateral := 100
  feeRate := 2
  contractInfos := [sampleInputInfo]

def sampleContractEnvironment : ContractEnvironment :=
  { sampleAcceptEnvironment sampleCoin 0 500000000 with
    newTemporaryId := 3
    deriveSignerKeyId := fun _ _ => 8
    unixTimeNow := 5 }

/-- Signatures that all verify. -/
def sampleOracleCrypto : OracleCrypto where
  write _ := []
  verifySchnorr _ _ _ := true

theorem sample_passes : Passes sampleCrypto sampleOracleCrypto 100 [sampleInputInfo]
    [[sampleMaturing 10, sampleMaturing 20]] where
  signed := by decide
  spread := by decide
  dated := by decide
  sound := .cons ⟨List.cons_ne_nil _ _, by decide, by
    intro a listed
    refine ⟨["up", "down"], ?_, List.Perm.refl _⟩
    rcases List.mem_pair.mp listed with rfl | rfl <;> rfl⟩ .nil

theorem sample_offers_pass :
    (∃ offered offer, offerContract sampleAdaptorCrypto id sampleCrypto ⟨2⟩
        [[sampleMaturing 10, sampleMaturing 20]] sampleContractEnvironment sampleContractInput =
          .ok (offered, offer) ∧
      offer.validate sampleCrypto sampleOracleCrypto refundDelay (refundDelay * 2) = .ok ()) ∧
    ∃ offered offer, offerLoan sampleAdaptorCrypto id sampleCrypto ⟨2⟩
        [[sampleMaturing 10, sampleMaturing 20]] (sampleOfferEnvironment (.ok ()))
        sampleLoanContractInput = .ok (offered, offer) ∧
      offer.offerDlc.validate sampleCrypto sampleOracleCrypto refundDelay (refundDelay * 2) =
        .ok () := by
  constructor
  · obtain ⟨⟨offered, offer⟩, ran⟩ : ∃ made, offerContract sampleAdaptorCrypto id sampleCrypto ⟨2⟩
        [[sampleMaturing 10, sampleMaturing 20]] sampleContractEnvironment sampleContractInput =
          .ok made := ⟨_, rfl⟩
    have passes := (@own_offers_pass_iff sampleFloats (sampleTries sampleFloats)
      sampleAdaptorCrypto id sampleCrypto (fun _ => some sampleCoin) sampleOracleCrypto).1
      sampleContractEnvironment sampleContractInput ⟨2⟩ [[sampleMaturing 10, sampleMaturing 20]]
      offered offer (fun _ _ known => congrArg some (Except.ok.inj known)) (by decide) ran ⟨2⟩ 9
    exact ⟨offered, offer, ran, (passes.mpr sample_passes).1⟩
  · obtain ⟨⟨offered, offer⟩, ran⟩ : ∃ made, offerLoan sampleAdaptorCrypto id sampleCrypto ⟨2⟩
        [[sampleMaturing 10, sampleMaturing 20]] (sampleOfferEnvironment (.ok ()))
        sampleLoanContractInput = .ok made := ⟨_, rfl⟩
    have passes := (@own_offers_pass_iff sampleFloats (sampleTries sampleFloats)
      sampleAdaptorCrypto id sampleCrypto (fun _ => some sampleCoin) sampleOracleCrypto).2
      (sampleOfferEnvironment (.ok ())) sampleLoanContractInput ⟨2⟩
      [[sampleMaturing 10, sampleMaturing 20]] offered offer (by decide) ran ⟨2⟩ 9
    exact ⟨offered, offer, ran, (passes.mpr sample_passes).1⟩

/-- Two oracles whose events mature more than a week apart. -/
theorem spread_maturities_refused :
    (∀ a ∈ [sampleMaturing 10, sampleMaturing 604811],
      sampleContractEnvironment.unixTimeNow ≤ a.oracleEvent.eventMaturityEpoch ∧
        a.Valid sampleCrypto sampleOracleCrypto) ∧
    ∃ offered offer, offerContract sampleAdaptorCrypto id sampleCrypto ⟨2⟩
        [[sampleMaturing 10, sampleMaturing 604811]] sampleContractEnvironment
        sampleContractInput = .ok (offered, offer) ∧
      offer.validate sampleCrypto sampleOracleCrypto refundDelay (refundDelay * 2) =
        .error (.err .invalidArgument) :=
  ⟨by decide, _, _, rfl, by decide +kernel⟩

end P2PLending.Manager.Infos
