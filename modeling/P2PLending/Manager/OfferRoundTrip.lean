import P2PLending.Manager.OfferConversion

/-! The way of an offered contract to a message and back. A valid contract comes back as it
was when its numbers fit the message, its descriptors say of the oracles what these announce,
and its party's inputs are those that its funding inputs spend. -/

namespace P2PLending.Manager.Infos
open Dlc Checked

variable {F : Floats} {T : Tries F}

/-! The oracles of a contract info. -/

/-- The base and the number of digits of a numerical event. -/
def OracleAnnouncement.digits (a : OracleAnnouncement) : Option (ℕ × ℕ) :=
  match a.oracleEvent.eventDescriptor with
  | .digitDecompositionEvent base _ _ _ nbDigits => some (base, nbDigits)
  | .enumEvent _ => none

theorem base_eq_ok {a : OracleAnnouncement} {base : ℕ} :
    a.base = .ok base ↔ ∃ nbDigits, a.digits = some (base, nbDigits) := by
  unfold OracleAnnouncement.base OracleAnnouncement.digits
  cases a.oracleEvent.eventDescriptor <;> simp

theorem nbDigits_eq_ok {a : OracleAnnouncement} {base nbDigits : ℕ} :
    a.nbDigits base = .ok nbDigits ↔ a.digits = some (base, nbDigits) := by
  unfold OracleAnnouncement.nbDigits OracleAnnouncement.digits
  cases a.oracleEvent.eventDescriptor with
  | enumEvent outcomes => simp
  | digitDecompositionEvent base' isSigned unit precision digits => simp [bind_eq_ok]

/-- The digits of a numerical descriptor as its oracles announce them. -/
def OracleNumericInfo.AnnouncedBy (numbers : OracleNumericInfo)
    (announcements : List OracleAnnouncement) : Prop :=
  announcements.map OracleAnnouncement.digits =
    numbers.nbDigits.map fun digits => some (numbers.base, digits)

theorem oracleNumericInfo_iff {announcements : List OracleAnnouncement}
    {numbers : OracleNumericInfo} :
    oracleNumericInfo announcements = .ok numbers ↔
      announcements ≠ [] ∧ numbers.AnnouncedBy announcements := by
  have each : ∀ {base : ℕ} {digits : List ℕ},
      announcements.mapM (·.nbDigits base) = .ok digits ↔
        announcements.map OracleAnnouncement.digits = digits.map fun d => some (base, d) := by
    intro base digits
    rw [mapM_eq_ok, ← List.forall₂_eq_eq_eq, List.forall₂_map_left_iff, List.forall₂_map_right_iff]
    simp only [nbDigits_eq_ok]
  cases announcements with
  | nil => simp [oracleNumericInfo]
  | cons first rest =>
      simp only [oracleNumericInfo, bind_eq_ok, base_eq_ok, each, Except.ok.injEq,
        OracleNumericInfo.AnnouncedBy]
      constructor
      · intro read
        obtain ⟨base, _, digits, announced, rfl⟩ := read
        exact ⟨List.cons_ne_nil _ _, announced⟩
      · rintro ⟨-, announced⟩
        obtain ⟨base, nbDigits⟩ := numbers
        cases nbDigits with
        | nil => cases announced
        | cons d ds =>
            have head := (List.cons.inj announced).1
            exact ⟨base, ⟨d, head⟩, d :: ds, announced, rfl⟩

/-- `get_oracle_params` -/
def ContractDescriptor.getOracleParams : ContractDescriptor (curves T) → Option DifferenceParams
  | .enum _ => none
  | .numerical n => NumericalDescriptor.differenceParams n

/-- Exponents of 16 bits. -/
def DifferenceParams.Fits (p : DifferenceParams) : Prop :=
  p.maxErrorExp < 2 ^ 16 ∧ p.minSupportExp < 2 ^ 16

/-- One oracle has the threshold 1 and no difference to another; a threshold and the
differences of several are cut to 16 bits. -/
def ContractInfo.OraclesFit (info : ContractInfo (curves T)) : Prop :=
  match info.oracleAnnouncements with
  | [_] => info.threshold = 1 ∧ info.contractDescriptor.getOracleParams = none
  | _ => info.threshold < 2 ^ 16 ∧
      ∀ p, info.contractDescriptor.getOracleParams = some p → p.Fits

theorem writeOracleInfo_announcements {info : ContractInfo (curves T)} :
    (writeOracleInfo (curveMessages T) info).announcements = info.oracleAnnouncements := by
  obtain ⟨descriptor, announcements, threshold⟩ := info
  match announcements with
  | [] => rfl
  | [_] => rfl
  | _ :: _ :: _ => rfl

theorem writeOracleInfo_multi {info : ContractInfo (curves T)}
    (several : info.oracleAnnouncements.length ≠ 1) :
    writeOracleInfo (curveMessages T) info =
      .multi (info.threshold % 2 ^ 16) info.oracleAnnouncements
        (info.contractDescriptor.getOracleParams.map fun p =>
          ⟨p.maxErrorExp % 2 ^ 16, p.minSupportExp % 2 ^ 16, p.maximizeCoverage⟩) := by
  obtain ⟨descriptor, announcements, threshold⟩ := info
  match announcements with
  | [] => cases descriptor <;> rfl
  | [_] => exact absurd rfl several
  | _ :: _ :: _ => cases descriptor <;> rfl

theorem mod_eq_self {n limit : ℕ} (positive : 0 < limit) : n % limit = n ↔ n < limit := by
  constructor
  · intro same
    have below := Nat.mod_lt n positive
    omega
  · exact Nat.mod_eq_of_lt

theorem paramsCut_iff {params : Option DifferenceParams} :
    (params.map fun p => (⟨p.maxErrorExp % 2 ^ 16, p.minSupportExp % 2 ^ 16,
        p.maximizeCoverage⟩ : OracleParams)).map
      (fun p => (⟨p.maxErrorExp, p.minFailExp, p.maximizeCoverage⟩ : DifferenceParams)) = params ↔
      ∀ p, params = some p → p.Fits := by
  cases params with
  | none => simp
  | some p =>
      obtain ⟨maxError, minSupport, maximize⟩ := p
      simp [DifferenceParams.Fits]

theorem writeOracleInfo_kept {info : ContractInfo (curves T)} :
    ((writeOracleInfo (curveMessages T) info).threshold = info.threshold ∧
      (writeOracleInfo (curveMessages T) info).differenceParams =
        info.contractDescriptor.getOracleParams) ↔ info.OraclesFit := by
  by_cases single : info.oracleAnnouncements.length = 1
  · obtain ⟨descriptor, announcements, threshold⟩ := info
    obtain ⟨a, rfl⟩ := List.length_eq_one_iff.mp single
    exact and_congr eq_comm eq_comm
  · have fits : info.OraclesFit ↔ info.threshold < 2 ^ 16 ∧
        ∀ p, info.contractDescriptor.getOracleParams = some p → p.Fits := by
      obtain ⟨descriptor, announcements, threshold⟩ := info
      match announcements with
      | [] => exact Iff.rfl
      | [_] => exact absurd rfl single
      | _ :: _ :: _ => exact Iff.rfl
    rw [writeOracleInfo_multi single, fits]
    exact and_congr (mod_eq_self (by decide)) paramsCut_iff

/-! One contract info. -/

/-- A contract info that a message says in full. -/
def ContractInfo.Representable (info : ContractInfo (curves T)) : Prop :=
  info.OraclesFit ∧ match info.contractDescriptor with
    | .enum _ => True
    | .numerical n => (∀ piece ∈ NumericalDescriptor.payoutFunction n, piece.Writable) ∧
        (NumericalDescriptor.oracleNumericInfos n).AnnouncedBy info.oracleAnnouncements

/-- What the manager's checks establish of one info. -/
structure ContractInfo.Valid (info : ContractInfo (curves T)) (totalCollateral : ℕ) : Prop where
  validated : info.validate = .ok ()
  sums : ∃ payouts, info.getPayouts totalCollateral = .ok payouts ∧
    payoutsSumTo totalCollateral payouts = .ok true

theorem outcomes_read {total : ℕ} {e : EnumDescriptor}
    (sums : ∀ x ∈ e, x.payout.accept + x.payout.offer = total) :
    (e.map fun x => (⟨x.outcome, x.payout.offer⟩ : ContractOutcome)).mapM (readOutcome total) =
      .ok e := by
  rw [mapM_eq_ok, List.forall₂_map_left_iff, List.forall₂_same]
  intro x listed
  have covers : x.payout.offer ≤ total := (sums x listed).subst (Nat.le_add_left _ _)
  have rest : total - x.payout.offer = x.payout.accept := Nat.sub_eq_of_eq_add (sums x listed).symm
  simp [readOutcome, amountSub, sub_of_le _ covers, rest, ofDlc]

theorem all_isEnum {announcements : List OracleAnnouncement} {names : List String}
    (each : ∀ a ∈ announcements, ∃ outcomes,
      a.oracleEvent.eventDescriptor = .enumEvent outcomes ∧ outcomes.Perm names) :
    announcements.all OracleAnnouncement.isEnum = true := by
  rw [List.all_eq_true]
  intro a listed
  obtain ⟨_, described, -⟩ := each a listed
  simp [OracleAnnouncement.isEnum, described]

/-- The outcomes that pay out, with the payouts that the total leaves to the other party. -/
theorem enum_round_trip {total threshold : ℕ} {e : EnumDescriptor}
    {announcements : List OracleAnnouncement}
    (valid : ContractInfo.Valid (T := T) ⟨.enum e, announcements, threshold⟩ total) :
    (∃ ser, ContractInfo.toSer (T := T) ⟨.enum e, announcements, threshold⟩ = .ok ser ∧
      readContractInfo total ser = .ok ⟨.enum e, announcements, threshold⟩) ↔
      ContractInfo.OraclesFit (T := T) ⟨.enum e, announcements, threshold⟩ := by
  obtain ⟨_, same, sums⟩ := valid.sums
  obtain rfl := Except.ok.inj same
  have shares := List.forall_mem_map.mp (payoutsSumTo_covers sums)
  have enums := all_isEnum (validate_enum_ok.mp valid.validated).2
  have kept := @writeOracleInfo_kept F T ⟨.enum e, announcements, threshold⟩
  have listed := @writeOracleInfo_announcements F T ⟨.enum e, announcements, threshold⟩
  rw [← kept]
  have params : (writeOracleInfo (curveMessages T)
      ⟨.enum e, announcements, threshold⟩).differenceParams = none := by
    match announcements with
    | [] => rfl
    | [_] => rfl
    | _ :: _ :: _ => rfl
  constructor
  · intro kept
    obtain ⟨_, written, read⟩ := kept
    obtain rfl := Except.ok.inj written
    simp only [readContractInfo, readDescriptor, bind_eq_ok, Except.ok.injEq,
      ContractInfo.mk.injEq] at read
    obtain ⟨_, _, _, _, same⟩ := read
    exact ⟨same, params⟩
  · intro fits
    refine ⟨_, rfl, ?_⟩
    simp only [readContractInfo, readDescriptor, outcomes_read shares, listed, enums, fits.1,
      ensure, if_true, ok_bind]

theorem PayoutFunction.validate_continuous {f : PayoutFunction F} {maxValue : ℕ}
    (valid : f.validate maxValue = .ok ()) : isContinuous f = .ok true ∧ f ≠ [] := by
  simp only [PayoutFunction.validate, bind_eq_ok, ensure_eq_ok, expectSome_eq_ok] at valid
  obtain ⟨continuous, computed, _, holds, first, head, _⟩ := valid
  subst holds
  refine ⟨computed, ?_⟩
  rintro rfl
  cases head

theorem validate_numerical {n : NumericalDescriptor F} {announcements : List OracleAnnouncement}
    {threshold : ℕ}
    (valid : ContractInfo.validate (N := curves T) ⟨.numerical n, announcements, threshold⟩ =
      .ok ()) :
    announcements ≠ [] ∧ (curves T).validate n = .ok () := by
  cases announcements with
  | nil => simp [ContractInfo.validate] at valid
  | cons first rest =>
      refine ⟨List.cons_ne_nil _ _, ?_⟩
      cases event : first.oracleEvent.eventDescriptor with
      | digitDecompositionEvent => simpa only [ContractInfo.validate, event] using valid
      | enumEvent outcomes => simp [ContractInfo.validate, event, bind_eq_ok] at valid

theorem curves_validate {n : NumericalDescriptor F} (valid : (curves T).validate n = .ok ()) :
    isContinuous n.payoutFunction = .ok true ∧ n.payoutFunction ≠ [] ∧
      ∃ numDigits, n.oracleNumericInfos.nbDigits.min? = some numDigits := by
  simp only [curves, OracleNumericInfo.maxValue, OracleNumericInfo.getMinNbDigits,
    NumericalDescriptor.validate, bind_eq_ok, unwrapSome_eq_ok] at valid
  obtain ⟨maxValue, ⟨numDigits, least, -⟩, _, -, covers⟩ := valid
  obtain ⟨continuous, nonempty⟩ := PayoutFunction.validate_continuous covers
  exact ⟨continuous, nonempty, numDigits, least⟩

/-- The curve is read as it was written; the digits are read from the announcements. -/
theorem numerical_round_trip {total threshold : ℕ} {n : NumericalDescriptor F}
    {announcements : List OracleAnnouncement}
    (valid : ContractInfo.Valid (T := T) ⟨.numerical n, announcements, threshold⟩ total) :
    (∃ ser, ContractInfo.toSer (T := T) ⟨.numerical n, announcements, threshold⟩ = .ok ser ∧
      readContractInfo total ser = .ok ⟨.numerical n, announcements, threshold⟩) ↔
      ContractInfo.Representable (T := T) ⟨.numerical n, announcements, threshold⟩ := by
  obtain ⟨nonempty, checked⟩ := validate_numerical valid.validated
  obtain ⟨continuous, some, numDigits, least⟩ := curves_validate checked
  have kept := @writeOracleInfo_kept F T ⟨.numerical n, announcements, threshold⟩
  have listed := @writeOracleInfo_announcements F T ⟨.numerical n, announcements, threshold⟩
  obtain ⟨f, rounding, params, numbers⟩ := n
  have writes := PayoutFunction.toSer_iff (f := f) some
  simp only [ContractInfo.Representable, ← kept, ← writes]
  have digits := @oracleNumericInfo_iff announcements numbers
  simp only [nonempty, ne_eq, not_false_eq_true, true_and] at digits
  simp only [← digits]
  constructor
  · intro kept
    obtain ⟨ser, written, read⟩ := kept
    simp only [ContractInfo.toSer, ContractDescriptor.toSer, NumericalDescriptor.toSer, bind_eq_ok,
      expectSome_eq_ok, Except.ok.injEq] at written
    obtain ⟨_, ⟨_, ⟨_, _, curve, wrote, rfl⟩, rfl⟩, rfl⟩ := written
    simp only [readContractInfo, readDescriptor, listed, bind_eq_ok, Except.ok.injEq,
      ContractInfo.mk.injEq] at read
    obtain ⟨_, ⟨numbers', announced, rfl⟩, same, _, sameThreshold⟩ := read
    have descriptors := ContractDescriptor.numerical.inj same
    obtain ⟨_, _, differences, numbers⟩ := NumericalDescriptor.mk.inj descriptors
    exact ⟨⟨sameThreshold, differences⟩, ⟨curve, wrote⟩, numbers ▸ announced⟩
  · rintro ⟨⟨sameThreshold, differences⟩, ⟨curve, wrote⟩, announced⟩
    have back := PayoutFunction.toSer_read continuous wrote
    refine ⟨⟨.numericOutcome ⟨numDigits % 2 ^ 16, curve, rounding⟩,
      writeOracleInfo (curveMessages T) ⟨.numerical ⟨f, rounding, params, numbers⟩,
        announcements, threshold⟩⟩, ?_, ?_⟩
    · simp only [ContractInfo.toSer, ContractDescriptor.toSer, NumericalDescriptor.toSer, least,
        expectSome, wrote, ok_bind]
    · simp only [readContractInfo, readDescriptor, listed, announced, sameThreshold, differences,
        ok_bind, curveMessages_toNumerical, back, ContractDescriptor.getOracleParams]

theorem info_round_trip {total : ℕ} {info : ContractInfo (curves T)} (valid : info.Valid total) :
    (∃ ser, info.toSer = .ok ser ∧ readContractInfo total ser = .ok info) ↔ info.Representable := by
  obtain ⟨descriptor, announcements, threshold⟩ := info
  cases descriptor with
  | enum e => exact (enum_round_trip valid).trans (iff_of_eq (and_true _)).symm
  | numerical n => exact numerical_round_trip valid

theorem infos_round_trip {total : ℕ} {infos : List (ContractInfo (curves T))}
    (valid : ∀ info ∈ infos, info.Valid total) :
    (∃ sers, infos.mapM ContractInfo.toSer = .ok sers ∧
      sers.mapM (readContractInfo total) = .ok infos) ↔ ∀ info ∈ infos, info.Representable := by
  rw [mapM_mapM_same]
  exact forall₂_congr fun info listed => info_round_trip (valid info listed)

/-! The inputs of a party. -/

section Inputs
variable (C : Crypto) (decodeTransaction : Bytes → Option Transaction)

/-- The output that a funding input spends, as the input of a party, and its value. -/
def spentOutput (input : FundingInput) : Option (TxInputInfo × ℕ) := do
  let tx ← decodeTransaction input.prevTx
  let txOut ← tx.output[input.prevTxVout]?
  some (
    { outpoint := ⟨tx.computeTxid C, input.prevTxVout⟩
      maxWitnessLen := 107
      redeemScript := input.redeemScript
      serialId := input.inputSerialId }, txOut.value)

variable {C decodeTransaction} in
theorem spentOutput_of {input : FundingInput} {tx : Transaction} {txOut : TxOut}
    (decoded : decodeTransaction input.prevTx = some tx)
    (found : tx.output[input.prevTxVout]? = some txOut) :
    spentOutput C decodeTransaction input = some (
      { outpoint := ⟨tx.computeTxid C, input.prevTxVout⟩
        maxWitnessLen := 107
        redeemScript := input.redeemScript
        serialId := input.inputSerialId }, txOut.value) := by
  simp [spentOutput, decoded, found]

/-- Inputs that are the outputs which the funding inputs spend, worth the amount. -/
def Funds (fundingInputs : List FundingInput) (inputs : List TxInputInfo) (inputAmount : ℕ) :
    Prop :=
  ∃ spent : List (TxInputInfo × ℕ),
    fundingInputs.map (spentOutput C decodeTransaction) = spent.map some ∧
    inputs = spent.map Prod.fst ∧ inputAmount = (spent.map Prod.snd).sum ∧ inputAmount < u64Limit

variable {C decodeTransaction}

/-- One turn of the loop of `get_tx_input_infos`. -/
def addInput (C : Crypto) (decodeTransaction : Bytes → Option Transaction)
    (acc : List TxInputInfo × ℕ) (input : FundingInput) : Result (List TxInputInfo × ℕ) := do
  let tx ← (decodeTransaction input.prevTx).elim (.error (.err .conversion)) .ok
  let txOut ← (tx.output[input.prevTxVout]?).elim (.error (.err .conversion)) .ok
  let inputAmount ← ofDlc (amountAdd acc.2 txOut.value)
  .ok (acc.1 ++ [
    { outpoint := ⟨tx.computeTxid C, input.prevTxVout⟩
      maxWitnessLen := 107
      redeemScript := input.redeemScript
      serialId := input.inputSerialId }], inputAmount)

theorem getTxInputInfos_eq (fundingInputs : List FundingInput) :
    getTxInputInfos C decodeTransaction fundingInputs =
      fundingInputs.foldlM (addInput C decodeTransaction) ([], 0) := rfl

theorem addInput_ok {input : FundingInput} {acc next : List TxInputInfo × ℕ} :
    addInput C decodeTransaction acc input = .ok next ↔
      ∃ info value, spentOutput C decodeTransaction input = some (info, value) ∧
        acc.2 + value < u64Limit ∧ next = (acc.1 ++ [info], acc.2 + value) := by
  unfold addInput spentOutput
  cases decodeTransaction input.prevTx with
  | none => simp
  | some tx =>
      cases found : tx.output[input.prevTxVout]? with
      | none => simp [found]
      | some txOut =>
          simp only [Option.elim_some, ok_bind, found, bind_eq_ok, ofDlc_eq_ok, amountAdd,
            add_eq_ok, Except.ok.injEq, Option.bind_eq_bind, Option.bind_some, Option.some.injEq,
            Prod.mk.injEq]
          constructor
          · rintro ⟨_, ⟨fits, rfl⟩, rfl⟩
            exact ⟨_, _, ⟨rfl, rfl⟩, fits, rfl⟩
          · rintro ⟨_, _, ⟨rfl, rfl⟩, fits, rfl⟩
            exact ⟨_, ⟨fits, rfl⟩, rfl⟩

/-- The loop from any inputs and amount so far. -/
theorem addInputs_ok {fundingInputs : List FundingInput} {acc : List TxInputInfo × ℕ}
    {inputs : List TxInputInfo} {inputAmount : ℕ} (fits : acc.2 < u64Limit) :
    fundingInputs.foldlM (addInput C decodeTransaction) acc = .ok (inputs, inputAmount) ↔
      ∃ spent : List (TxInputInfo × ℕ),
        fundingInputs.map (spentOutput C decodeTransaction) = spent.map some ∧
        inputs = acc.1 ++ spent.map Prod.fst ∧
        inputAmount = acc.2 + (spent.map Prod.snd).sum ∧ inputAmount < u64Limit := by
  induction fundingInputs generalizing acc with
  | nil =>
      simp only [List.foldlM_nil, pure_eq_ok, Except.ok.injEq, List.map_nil]
      constructor
      · rintro rfl
        exact ⟨[], rfl, by simp, by simp, fits⟩
      · rintro ⟨spent, none, rfl, rfl, -⟩
        obtain rfl := List.map_eq_nil_iff.mp none.symm
        simp
  | cons input rest ih =>
      rw [List.foldlM_cons, bind_eq_ok]
      constructor
      · rintro ⟨next, step, later⟩
        obtain ⟨info, value, spends, below, rfl⟩ := addInput_ok.mp step
        obtain ⟨spent, others, rfl, rfl, limit⟩ := (ih below).mp later
        refine ⟨(info, value) :: spent, ?_, ?_, ?_, limit⟩
        · rw [List.map_cons, List.map_cons, spends, others]
        · simp
        · simp only [List.map_cons, List.sum_cons]
          omega
      · rintro ⟨spent, all, rfl, rfl, limit⟩
        cases spent with
        | nil => cases all
        | cons first spent =>
            obtain ⟨spends, others⟩ := List.cons.inj all
            have total : ((first :: spent).map Prod.snd).sum =
                first.2 + (spent.map Prod.snd).sum := by
              rw [List.map_cons, List.sum_cons]
            have below : acc.2 + first.2 < u64Limit := by omega
            refine ⟨_, addInput_ok.mpr ⟨first.1, first.2, spends, below, rfl⟩, ?_⟩
            refine (ih below).mpr ⟨spent, others, ?_, ?_, limit⟩
            · simp
            · omega

theorem getTxInputInfos_ok {fundingInputs : List FundingInput} {inputs : List TxInputInfo}
    {inputAmount : ℕ} :
    getTxInputInfos C decodeTransaction fundingInputs = .ok (inputs, inputAmount) ↔
      Funds C decodeTransaction fundingInputs inputs inputAmount := by
  rw [getTxInputInfos_eq, addInputs_ok (by decide)]
  simp only [Funds, List.nil_append, Nat.zero_add]

end Inputs

/-! Offered contracts. -/

section Offers
variable {K : AdaptorCrypto}
  {order : List (List String × List ℕ) → List (List String × List ℕ)}

/-- A contract that its message says in full. -/
structure Representable (C : Crypto) (decodeTransaction : Bytes → Option Transaction)
    (c : Offered K T order) : Prop where
  infos : ∀ info ∈ c.contractInfo, ContractInfo.Representable (T := T) info
  funded : Funds C decodeTransaction c.fundingInputs c.offerParams.inputs
    c.offerParams.inputAmount

/-- The contract as its receiver would keep it. -/
def asReceived (c : Offered K T order) (counterParty : PublicKey) (keysId : KeysId) :
    Offered K T order :=
  { c with isOfferParty := false, counterParty, keysId }

theorem SerContractInfo.ofInfos_total {N : Numerics} {M : MessageNumerics N} {total : ℕ}
    {cs : List (ContractInfoInner M)} : (ofInfos total cs).totalCollateral = total := by
  unfold ofInfos
  split <;> rfl

theorem SerContractInfo.ofInfos_infos {N : Numerics} {M : MessageNumerics N} {total : ℕ}
    {cs : List (ContractInfoInner M)} : (ofInfos total cs).contractInfos = cs := by
  unfold ofInfos
  split <;> rfl

theorem validate_infos {c : Offered K T order} (valid : c.validate = .ok ()) :
    ∀ info ∈ c.contractInfo, ContractInfo.Valid (T := T) info c.totalCollateral := by
  simp only [OfferedContract.validate, bind_eq_ok, forM_eq_ok] at valid
  obtain ⟨_, -, each⟩ := valid
  intro info listed
  obtain ⟨_, validated, payouts, paid, _, summed, holds⟩ := each info listed
  rw [ensure_eq_ok] at holds
  subst holds
  exact ⟨validated, payouts, paid, summed⟩

variable {C : Crypto} {decodeTransaction : Bytes → Option Transaction}

theorem offer_round_trip {c : Offered K T order} (valid : c.validate = .ok ())
    (counterParty : PublicKey) (keysId : KeysId) :
    (∃ offer, toOfferDlc c = .ok offer ∧
      tryFromOfferDlc C decodeTransaction offer counterParty keysId =
        .ok (asReceived c counterParty keysId)) ↔ Representable C decodeTransaction c := by
  have infos := infos_round_trip (validate_infos valid)
  constructor
  · intro kept
    obtain ⟨offer, written, read⟩ := kept
    simp only [toOfferDlc, bind_eq_ok, Except.ok.injEq] at written
    obtain ⟨sers, wrote, rfl⟩ := written
    simp only [tryFromOfferDlc, bind_eq_ok, Except.ok.injEq, Prod.exists,
      SerContractInfo.getContractInfoAndAnnouncements, SerContractInfo.ofInfos_total,
      SerContractInfo.ofInfos_infos, getTxInputInfos_ok] at read
    obtain ⟨back, reads, inputs, amount, funded, same⟩ := read
    have sameInfos : back = c.contractInfo := congrArg OfferedContract.contractInfo same
    have sameInputs : inputs = c.offerParams.inputs :=
      congrArg (fun c => c.offerParams.inputs) same
    have sameAmount : amount = c.offerParams.inputAmount :=
      congrArg (fun c => c.offerParams.inputAmount) same
    subst sameInfos sameInputs sameAmount
    exact ⟨infos.mp ⟨sers, wrote, reads⟩, funded⟩
  · intro representable
    obtain ⟨sers, wrote, reads⟩ := infos.mpr representable.infos
    refine ⟨_, bind_eq_ok.mpr ⟨sers, wrote, rfl⟩, ?_⟩
    simp only [tryFromOfferDlc, SerContractInfo.getContractInfoAndAnnouncements,
      SerContractInfo.ofInfos_total, SerContractInfo.ofInfos_infos, reads,
      getTxInputInfos_ok.mpr representable.funded, ok_bind]
    rfl

/-- A valid offered contract, of a loan or not, comes back from its message exactly when it is
representable. -/
theorem offers_round_trip_iff :
    (∀ c : Offered K T order, c.validate = .ok () → ∀ counterParty keysId,
      ((∃ offer, toOfferDlc c = .ok offer ∧
        tryFromOfferDlc C decodeTransaction offer counterParty keysId =
          .ok (asReceived c counterParty keysId)) ↔ Representable C decodeTransaction c)) ∧
    ∀ l : OfferedLoan K T order, l.validate = .ok () → ∀ counterParty keysId,
      ((∃ offer, toOfferLoanDlc l = .ok offer ∧
        tryFromOfferLoanDlc C decodeTransaction offer counterParty keysId =
          .ok { l with offeredContract := asReceived l.offeredContract counterParty keysId }) ↔
        Representable C decodeTransaction l.offeredContract) := by
  refine ⟨fun c valid counterParty keysId => offer_round_trip valid counterParty keysId, ?_⟩
  intro l valid counterParty keysId
  simp only [OfferedLoanContract.validate, bind_eq_ok] at valid
  obtain ⟨_, contract, -⟩ := valid
  rw [← offer_round_trip contract counterParty keysId]
  simp only [toOfferLoanDlc, tryFromOfferLoanDlc, bind_eq_ok, Except.ok.injEq]
  constructor
  · intro kept
    obtain ⟨_, ⟨offer, written, rfl⟩, back, read, same⟩ := kept
    have sameContract := congrArg OfferedLoanContract.offeredContract same
    exact ⟨offer, written, read.trans (congrArg Except.ok sameContract)⟩
  · intro kept
    obtain ⟨offer, written, read⟩ := kept
    exact ⟨_, ⟨offer, written, rfl⟩, _, read, rfl⟩

end Offers

/-! One oracle of a number with one binary digit. -/

/-- Doubles on which nothing is rounded. -/
def sampleFloats : Floats where
  F64 := Rat
  ofU64 n := n
  toU64 x := x.floor.toNat
  add x y := x + y
  sub x y := x - y
  mul x y := x * y
  div x y := x / y
  rem x y := x - y * ((x / y).floor : Rat)
  neg x := -x
  sqrt x := (Nat.sqrt x.floor.toNat : Rat)
  powi x n := x ^ n
  round x := ((x + 1 / 2).floor : Rat)
  isSignNegative x := x < 0
  isNormal x := x ≠ 0
  eq x y := x = y
  lt x y := x < y
  ge x y := y ≤ x
  display _ := ""

/-- No tries. -/
def sampleTries (F : Floats) : Tries F where
  Trie := Empty
  newTrie _ _ := .error (.err .invalidArgument)
  generate := nofun
  iter := nofun
  lookUp := nofun

def sampleDigitAnnouncement : OracleAnnouncement where
  announcementSignature := []
  oraclePublicKey := 5
  oracleEvent := {
    oracleNonces := [6]
    eventMaturityEpoch := 10
    eventDescriptor := .digitDecompositionEvent 2 false "" 0 1
    eventId := "price" }

def sampleNumericalInfo (params : Option DifferenceParams) :
    ContractInfo (curves (sampleTries sampleFloats)) where
  contractDescriptor := .numerical
    { payoutFunction := [.polynomialPayoutCurvePiece [⟨0, 50, 0⟩, ⟨1, 50, 0⟩]]
      roundingIntervals := [⟨0, 1⟩]
      differenceParams := params
      oracleNumericInfos := ⟨2, [1]⟩ }
  oracleAnnouncements := [sampleDigitAnnouncement]
  threshold := 1

def sampleOffered (K : AdaptorCrypto) (params : Option DifferenceParams) :
    Offered K (sampleTries sampleFloats) id where
  id := 3
  isOfferParty := true
  contractInfo := [sampleNumericalInfo params]
  counterParty := ⟨2⟩
  offerParams := ⟨⟨1⟩, [], 0, [], 0, [], 0, 50⟩
  totalCollateral := 100
  fundingInputs := []
  fundOutputSerialId := 4
  feeRatePerVb := 2
  cetLocktime := 5
  refundLocktime := 604810
  keysId := 8

def sampleOfferedLoan (K : AdaptorCrypto) (params : Option DifferenceParams) :
    OfferedLoan K (sampleTries sampleFloats) id where
  offeredContract := sampleOffered K params
  collateralRatio := 150
  liquidationRatio := 120
  interestRate := 5
  duration := 1000
  lenderHash := 11

theorem sampleOffered_representable :
    Representable sampleCrypto (fun _ => none) (sampleOffered sampleAdaptorCrypto none) where
  infos := by
    intro info listed
    obtain rfl := List.mem_singleton.mp listed
    refine ⟨⟨rfl, rfl⟩, ?_, rfl⟩
    intro piece only
    obtain rfl := List.mem_singleton.mp only
    exact Nat.le_refl 2
  funded := ⟨[], rfl, rfl, rfl, by decide⟩

theorem sample_offers_come_back :
    (∃ offer, toOfferDlc (sampleOffered sampleAdaptorCrypto none) = .ok offer ∧
      tryFromOfferDlc sampleCrypto (fun _ => none) offer ⟨7⟩ 9 =
        .ok (asReceived (sampleOffered sampleAdaptorCrypto none) ⟨7⟩ 9)) ∧
    ∃ offer, toOfferLoanDlc (sampleOfferedLoan sampleAdaptorCrypto none) = .ok offer ∧
      tryFromOfferLoanDlc sampleCrypto (fun _ => none) offer ⟨7⟩ 9 =
        .ok { sampleOfferedLoan sampleAdaptorCrypto none with
          offeredContract := asReceived (sampleOffered sampleAdaptorCrypto none) ⟨7⟩ 9 } :=
  ⟨(offers_round_trip_iff.1 (sampleOffered sampleAdaptorCrypto none) (by decide +kernel) ⟨7⟩ 9).mpr
      sampleOffered_representable,
    (offers_round_trip_iff.2 (sampleOfferedLoan sampleAdaptorCrypto none) (by decide +kernel) ⟨7⟩
      9).mpr sampleOffered_representable⟩

/-- One oracle has no place in its message for the difference to another. -/
theorem lone_oracle_loses_difference :
    (sampleOffered sampleAdaptorCrypto (some ⟨1, 1, true⟩)).validate = .ok () ∧
      ¬ ∃ offer, toOfferDlc (sampleOffered sampleAdaptorCrypto (some ⟨1, 1, true⟩)) = .ok offer ∧
        tryFromOfferDlc sampleCrypto (fun _ => none) offer ⟨7⟩ 9 =
          .ok (asReceived (sampleOffered sampleAdaptorCrypto (some ⟨1, 1, true⟩)) ⟨7⟩ 9) := by
  have valid : (sampleOffered sampleAdaptorCrypto (some ⟨1, 1, true⟩)).validate = .ok () := by
    decide +kernel
  refine ⟨valid, fun kept => ?_⟩
  have representable := (offer_round_trip valid ⟨7⟩ 9).mp kept
  have oracles := (representable.infos _ (List.mem_singleton.mpr rfl)).1
  exact Option.some_ne_none _ oracles.2

end P2PLending.Manager.Infos
