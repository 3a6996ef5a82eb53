import P2PLending.Dlc.LoanValue

/-! What a party's inputs have to cover. The check compares them with five items;
the change is what is left of them after the items and 100 satoshi more. -/

namespace P2PLending.Dlc
open Checked

/-- The fee of a weight, before its bound is checked. -/
def feeOf (weight feeRatePerVb : ℕ) : ℕ := (f64OfUsize weight + 3) / 4 * feeRatePerVb

theorem weightToFee_eq_ok {weight feeRatePerVb fee : ℕ} :
    weightToFee weight feeRatePerVb = .ok fee ↔
      feeOf weight feeRatePerVb < u64Limit ∧ fee = feeOf weight feeRatePerVb := by
  rw [weightToFee, checkedMul, mul_eq_ok, feeOf]

theorem weightToFee_of_lt {weight feeRatePerVb : ℕ} (fits : feeOf weight feeRatePerVb < u64Limit) :
    weightToFee weight feeRatePerVb = .ok (feeOf weight feeRatePerVb) :=
  weightToFee_eq_ok.mpr ⟨fits, rfl⟩

theorem feeOf_mono {lighter heavier : ℕ} (le : lighter ≤ heavier) (feeRatePerVb : ℕ) :
    feeOf lighter feeRatePerVb ≤ feeOf heavier feeRatePerVb := by
  have rounded := f64OfUsize_mono le
  exact Nat.mul_le_mul_right _ (Nat.div_le_div_right (Nat.add_le_add_right rounded 3))

/-- The scripts that are a witness program, or none. -/
def ValidRedeem (redeem : Bytes) : Prop :=
  redeem.length = 0 ∨ redeem.length = 20 ∨ redeem.length = 32

instance (redeem : Bytes) : Decidable (ValidRedeem redeem) :=
  inferInstanceAs (Decidable (_ ∨ _ ∨ _))

/-- The length of the script signature of a valid redeem script. -/
def sigLength (redeem : Bytes) : ℕ := if redeem.length = 0 then 0 else redeem.length + 2

theorem redeemScriptToScriptSig_valid {redeem : Bytes} (valid : ValidRedeem redeem) :
    ∃ scriptSig, redeemScriptToScriptSig redeem = .ok scriptSig ∧
      scriptSig.length = sigLength redeem := by
  unfold redeemScriptToScriptSig sigLength
  by_cases none : redeem.length = 0
  · simp [none]
  · have program := valid.resolve_left none
    simp [none, program]

theorem redeemScriptToScriptSig_invalid {redeem : Bytes} (invalid : ¬ ValidRedeem redeem) :
    redeemScriptToScriptSig redeem = .error (.panic unwrapPanic) := by
  unfold ValidRedeem at invalid
  push Not at invalid
  simp [redeemScriptToScriptSig, invalid]

namespace PartyParams
variable (p : PartyParams) (feeRatePerVb extraFee : ℕ)

def weightOf (w : TxInputInfo) : ℕ :=
  txInputBaseWeight + sigLength w.redeemScript * 4 + w.maxWitnessLen

def inputsWeight : ℕ := (p.inputs.map weightOf).sum

def totalFundWeight : ℕ :=
  fundTxBaseWeight / 2 + p.inputsWeight + p.changeScriptPubkey.length * 4 + 36

def totalCetWeight : ℕ := cetBaseWeight / 2 + p.payoutScriptPubkey.length * 4

/-- The five items that the inputs are compared with. -/
def requiredFunds : ℕ :=
  p.collateral + feeOf p.totalFundWeight feeRatePerVb + feeOf totalCollateralWeight feeRatePerVb +
    feeOf p.totalCetWeight feeRatePerVb + extraFee

/-- Everything that is taken off the inputs: the five items and 100 satoshi more. -/
def deducted : ℕ := p.requiredFunds feeRatePerVb extraFee + 100

/-- The sums of the computation stay below 64 bits. A fee is one of the items
that add up to the requirement. -/
structure Fits : Prop where
  fundWeight : p.totalFundWeight < u64Limit
  cetWeight : p.totalCetWeight < u64Limit
  required : p.requiredFunds feeRatePerVb extraFee < u64Limit

def ValidScripts : Prop := ∀ input ∈ p.inputs, ValidRedeem input.redeemScript

instance : Decidable p.ValidScripts := inferInstanceAs (Decidable (∀ _ ∈ _, _))

/-! The weights of the inputs. -/

theorem inputWeight_valid {total : ℕ} {w : TxInputInfo} (valid : ValidRedeem w.redeemScript)
    (fits : total + weightOf w < u64Limit) : inputWeight total w = .ok (total + weightOf w) := by
  obtain ⟨scriptSig, signed, length⟩ := redeemScriptToScriptSig_valid valid
  unfold weightOf at fits ⊢
  simp (disch := omega) only [inputWeight, signed, ok_bind, checkedMul, checkedAdd, Checked.mul,
    Checked.add, length, fit_of_lt, ← Nat.add_assoc]

theorem inputWeight_invalid {total : ℕ} {w : TxInputInfo} (invalid : ¬ ValidRedeem w.redeemScript) :
    inputWeight total w = .error (.panic unwrapPanic) := by
  rw [inputWeight, redeemScriptToScriptSig_invalid invalid, error_bind]

theorem inputWeight_ok {total weight : ℕ} {w : TxInputInfo}
    (h : inputWeight total w = .ok weight) :
    ValidRedeem w.redeemScript ∧ weight = total + weightOf w := by
  by_cases valid : ValidRedeem w.redeemScript
  · obtain ⟨scriptSig, signed, length⟩ := redeemScriptToScriptSig_valid valid
    simp only [inputWeight, signed, ok_bind, checkedMul, checkedAdd, bind_eq_ok, mul_eq_ok,
      add_eq_ok, length] at h
    obtain ⟨_, ⟨_, scaled⟩, _, ⟨_, based⟩, _, ⟨_, scripted⟩, _, weightIs⟩ := h
    refine ⟨valid, ?_⟩
    rw [weightIs, scripted, based, scaled, weightOf]
    omega
  · rw [inputWeight_invalid valid] at h
    cases h

theorem inputsWeight_valid {inputs : List TxInputInfo} {total : ℕ}
    (valid : ∀ input ∈ inputs, ValidRedeem input.redeemScript)
    (fits : total + (inputs.map weightOf).sum < u64Limit) :
    inputs.foldlM inputWeight total = .ok (total + (inputs.map weightOf).sum) := by
  induction inputs generalizing total with
  | nil => rfl
  | cons input inputs ih =>
      rw [List.map_cons, List.sum_cons, ← Nat.add_assoc] at fits ⊢
      have first : inputWeight total input = .ok (total + weightOf input) :=
        inputWeight_valid (valid input List.mem_cons_self) (by omega)
      rw [List.foldlM_cons, first, ok_bind]
      exact ih (fun i listed => valid i (List.mem_cons_of_mem input listed)) fits

theorem inputsWeight_invalid {inputs : List TxInputInfo} {total : ℕ}
    (invalid : ¬ ∀ input ∈ inputs, ValidRedeem input.redeemScript)
    (fits : total + (inputs.map weightOf).sum < u64Limit) :
    inputs.foldlM inputWeight total = .error (.panic unwrapPanic) := by
  induction inputs generalizing total with
  | nil => exact absurd (List.forall_mem_nil _) invalid
  | cons input inputs ih =>
      rw [List.map_cons, List.sum_cons, ← Nat.add_assoc] at fits
      rw [List.foldlM_cons]
      by_cases valid : ValidRedeem input.redeemScript
      · rw [inputWeight_valid valid (by omega), ok_bind]
        refine ih (fun rest => invalid ?_) fits
        exact List.forall_mem_cons.mpr ⟨valid, rest⟩
      · rw [inputWeight_invalid valid, error_bind]

theorem inputsWeight_ok {inputs : List TxInputInfo} {total weight : ℕ}
    (h : inputs.foldlM inputWeight total = .ok weight) :
    (∀ input ∈ inputs, ValidRedeem input.redeemScript) ∧
      weight = total + (inputs.map weightOf).sum := by
  induction inputs generalizing total with
  | nil =>
      cases h
      simp
  | cons input inputs ih =>
      rw [List.foldlM_cons] at h
      obtain ⟨weighed, first, rest⟩ := bind_eq_ok.mp h
      obtain ⟨valid, weighedIs⟩ := inputWeight_ok first
      obtain ⟨others, weightIs⟩ := ih rest
      refine ⟨List.forall_mem_cons.mpr ⟨valid, others⟩, ?_⟩
      rw [weightIs, weighedIs, List.map_cons, List.sum_cons, Nat.add_assoc]

variable {p feeRatePerVb extraFee}

/-- The computation after the weights of the inputs: its sums fit, so only the
comparison with the inputs and the last subtraction can fail. -/
theorem getChangeOutputAndFees_weighed (fits : p.Fits feeRatePerVb extraFee) :
    p.getChangeOutputAndFees feeRatePerVb extraFee = (do
      let _ ← p.inputs.foldlM inputWeight 0
      ensure (p.requiredFunds feeRatePerVb extraFee ≤ p.inputAmount) (.err .invalidArgument)
      let change ← amountSub p.inputAmount (p.requiredFunds feeRatePerVb extraFee)
      let value ← amountSub change 100
      pure ({ value, scriptPubkey := p.changeScriptPubkey },
        feeOf p.totalFundWeight feeRatePerVb, feeOf p.totalCetWeight feeRatePerVb)) := by
  obtain ⟨fundWeight, cetWeight, required⟩ := fits
  unfold getChangeOutputAndFees
  cases weighed : p.inputs.foldlM inputWeight 0 with
  | error fault => rfl
  | ok weight =>
      have weightIs : weight = p.inputsWeight := by
        rw [(inputsWeight_ok weighed).2, Nat.zero_add, inputsWeight]
      unfold requiredFunds at required ⊢
      unfold totalFundWeight at fundWeight required ⊢
      unfold totalCetWeight at cetWeight required ⊢
      rw [weightIs]
      simp (disch := omega) only [ok_bind, checkedMul, checkedAdd, Checked.mul, Checked.add,
        fit_of_lt, weightToFee_of_lt]

/-- Where the sums fit and the scripts are valid, the inputs alone decide: below
the requirement an error, less than 100 satoshi above it a panic. -/
theorem getChangeOutputAndFees_eq (fits : p.Fits feeRatePerVb extraFee) (valid : p.ValidScripts) :
    p.getChangeOutputAndFees feeRatePerVb extraFee =
      if p.inputAmount < p.requiredFunds feeRatePerVb extraFee then .error (.err .invalidArgument)
      else if p.inputAmount < p.deducted feeRatePerVb extraFee then
        .error (.panic "Amount subtraction error")
      else .ok (⟨p.inputAmount - p.deducted feeRatePerVb extraFee, p.changeScriptPubkey⟩,
        feeOf p.totalFundWeight feeRatePerVb, feeOf p.totalCetWeight feeRatePerVb) := by
  have weighed : p.inputs.foldlM inputWeight 0 = .ok p.inputsWeight := by
    have small := fits.fundWeight
    unfold totalFundWeight inputsWeight at small
    rw [inputsWeight_valid valid (by omega), Nat.zero_add, inputsWeight]
  rw [getChangeOutputAndFees_weighed fits, weighed, ok_bind]
  unfold deducted
  generalize p.requiredFunds feeRatePerVb extraFee = required
  by_cases covered : required ≤ p.inputAmount
  · rw [ensure, if_pos covered, if_neg (Nat.not_lt.mpr covered), ok_bind, amountSub,
      sub_of_le _ covered, ok_bind, amountSub, Checked.sub]
    by_cases spare : required + 100 ≤ p.inputAmount
    · rw [if_pos (by omega), if_neg (Nat.not_lt.mpr spare), ok_bind, Nat.sub_sub]
      rfl
    · rw [if_neg (by omega), if_pos (Nat.not_le.mp spare), error_bind]
  · rw [ensure, if_neg covered, if_pos (Nat.not_le.mp covered), error_bind]

/-- A redeem script that is no witness program panics. -/
theorem getChangeOutputAndFees_invalid (fits : p.Fits feeRatePerVb extraFee)
    (invalid : ¬ p.ValidScripts) :
    p.getChangeOutputAndFees feeRatePerVb extraFee = .error (.panic unwrapPanic) := by
  have small := fits.fundWeight
  unfold totalFundWeight inputsWeight at small
  rw [getChangeOutputAndFees_weighed fits, inputsWeight_invalid invalid (by omega), error_bind]

/-- A change exists exactly when the sums fit, the scripts are valid and the
inputs cover everything that is deducted. -/
theorem getChangeOutputAndFees_eq_ok {reserved : TxOut × ℕ × ℕ} :
    p.getChangeOutputAndFees feeRatePerVb extraFee = .ok reserved ↔
      p.Fits feeRatePerVb extraFee ∧ p.ValidScripts ∧
        p.deducted feeRatePerVb extraFee ≤ p.inputAmount ∧
        reserved = (⟨p.inputAmount - p.deducted feeRatePerVb extraFee, p.changeScriptPubkey⟩,
          feeOf p.totalFundWeight feeRatePerVb, feeOf p.totalCetWeight feeRatePerVb) := by
  constructor
  · intro h
    have fits : p.Fits feeRatePerVb extraFee := by
      simp only [getChangeOutputAndFees, bind_eq_ok, weightToFee_eq_ok, checkedAdd, add_eq_ok,
        checkedMul, mul_eq_ok] at h
      obtain ⟨weight, weighed, _, ⟨_, changeIs⟩, _, ⟨_, baseIs⟩, _, ⟨_, sumIs⟩, total,
        ⟨totalFits, totalIs⟩, fund, ⟨_, fundIs⟩, collateral, ⟨_, collateralIs⟩, h⟩ := h
      obtain ⟨_, ⟨_, spkIs⟩, cetTotal, ⟨cetFits, cetTotalIs⟩, cet, ⟨_, cetIs⟩, _, ⟨_, r₁⟩, _,
        ⟨_, r₂⟩, _, ⟨_, r₃⟩, _, ⟨requiredFits, r₄⟩, _⟩ := h
      have weightIs : weight = p.inputsWeight := by
        rw [(inputsWeight_ok weighed).2, Nat.zero_add, inputsWeight]
      have fundWeight : total = p.totalFundWeight := by
        rw [totalIs, sumIs, baseIs, weightIs, changeIs, totalFundWeight]
      have cetWeight : cetTotal = p.totalCetWeight := by rw [cetTotalIs, spkIs, totalCetWeight]
      rw [totalIs.symm, fundWeight] at totalFits
      rw [cetTotalIs.symm, cetWeight] at cetFits
      refine ⟨totalFits, cetFits, ?_⟩
      rw [r₃, r₂, r₁, fundIs, collateralIs, cetIs, fundWeight, cetWeight] at requiredFits
      exact requiredFits
    have valid : p.ValidScripts := by
      by_contra invalid
      rw [getChangeOutputAndFees_invalid fits invalid] at h
      cases h
    rw [getChangeOutputAndFees_eq fits valid] at h
    split_ifs at h with short nearly
    exact ⟨fits, valid, Nat.not_lt.mp nearly, (Except.ok.inj h).symm⟩
  · rintro ⟨fits, valid, covered, rfl⟩
    rw [getChangeOutputAndFees_eq fits valid, if_neg, if_neg (Nat.not_lt.mpr covered)]
    unfold deducted at covered
    omega

variable (p feeRatePerVb extraFee)

/-- The computation is total and exact: it never panics, fails exactly when the
inputs do not cover what is deducted, and otherwise the change and the deducted
items are the inputs. -/
structure ExactFees : Prop where
  total : ∀ message, p.getChangeOutputAndFees feeRatePerVb extraFee ≠ .error (.panic message)
  short : (∃ e, p.getChangeOutputAndFees feeRatePerVb extraFee = .error (.err e)) ↔
    p.inputAmount < p.deducted feeRatePerVb extraFee
  balanced : ∀ change fundFee cetFee,
    p.getChangeOutputAndFees feeRatePerVb extraFee = .ok (change, fundFee, cetFee) →
      fundFee = feeOf p.totalFundWeight feeRatePerVb ∧
      cetFee = feeOf p.totalCetWeight feeRatePerVb ∧
      change.value + p.deducted feeRatePerVb extraFee = p.inputAmount

/-- The fees are exact for valid scripts unless the inputs exceed the requirement
by less than the 100 satoshi that the check leaves out. -/
theorem exactFees_iff (fits : p.Fits feeRatePerVb extraFee) :
    p.ExactFees feeRatePerVb extraFee ↔
      p.ValidScripts ∧ ¬ (p.requiredFunds feeRatePerVb extraFee ≤ p.inputAmount ∧
        p.inputAmount < p.requiredFunds feeRatePerVb extraFee + 100) := by
  constructor
  · intro exact
    have valid : p.ValidScripts := by
      by_contra invalid
      exact exact.total _ (getChangeOutputAndFees_invalid fits invalid)
    refine ⟨valid, ?_⟩
    intro band
    apply exact.total "Amount subtraction error"
    have uncovered : p.inputAmount < p.deducted feeRatePerVb extraFee := band.2
    rw [getChangeOutputAndFees_eq fits valid, if_neg (Nat.not_lt.mpr band.1), if_pos uncovered]
  · rintro ⟨valid, outside⟩
    have computed := getChangeOutputAndFees_eq fits valid
    by_cases short : p.inputAmount < p.requiredFunds feeRatePerVb extraFee
    · rw [if_pos short] at computed
      have uncovered : p.inputAmount < p.deducted feeRatePerVb extraFee :=
        short.trans (Nat.lt_add_of_pos_right (Nat.succ_pos 99))
      constructor
      · simp [computed]
      · simp [computed, uncovered]
      · simp [computed]
    · have covered : p.deducted feeRatePerVb extraFee ≤ p.inputAmount := by
        unfold deducted
        omega
      rw [if_neg short, if_neg (Nat.not_lt.mpr covered)] at computed
      constructor
      · simp [computed]
      · simp [computed, covered]
      · intro change fundFee cetFee answer
        rw [computed, Except.ok.injEq, Prod.mk.injEq, Prod.mk.injEq] at answer
        obtain ⟨rfl, rfl, rfl⟩ := answer
        exact ⟨rfl, rfl, Nat.sub_add_cancel covered⟩

/-! A lack of funds. -/

/-- The fees cannot be reserved from the inputs, and could be from larger ones. -/
def LacksFunds : Prop :=
  (∀ reserved, p.getChangeOutputAndFees feeRatePerVb extraFee ≠ .ok reserved) ∧
    ∃ inputAmount < u64Limit, ∃ reserved,
      { p with inputAmount }.getChangeOutputAndFees feeRatePerVb extraFee = .ok reserved

/-- Some amount covers the party: the sums fit and its scripts are valid. -/
structure Payable : Prop where
  fundWeight : p.totalFundWeight < u64Limit
  cetWeight : p.totalCetWeight < u64Limit
  deducted : p.deducted feeRatePerVb extraFee < u64Limit
  scripts : p.ValidScripts

variable {p feeRatePerVb extraFee}

theorem Payable.fits (payable : p.Payable feeRatePerVb extraFee) : p.Fits feeRatePerVb extraFee where
  fundWeight := payable.fundWeight
  cetWeight := payable.cetWeight
  required := (Nat.lt_add_of_pos_right (Nat.succ_pos 99)).trans payable.deducted

theorem lacksFunds_iff :
    p.LacksFunds feeRatePerVb extraFee ↔
      p.Payable feeRatePerVb extraFee ∧ p.inputAmount < p.deducted feeRatePerVb extraFee := by
  constructor
  · rintro ⟨refused, inputAmount, small, reserved, h⟩
    obtain ⟨fits, valid, covered, _⟩ := getChangeOutputAndFees_eq_ok.mp h
    have limit : p.deducted feeRatePerVb extraFee < u64Limit := covered.trans_lt small
    refine ⟨⟨fits.fundWeight, fits.cetWeight, limit, valid⟩, ?_⟩
    by_contra enough
    exact refused _ (getChangeOutputAndFees_eq_ok.mpr
      ⟨⟨fits.fundWeight, fits.cetWeight, fits.required⟩, valid, Nat.not_lt.mp enough, rfl⟩)
  · rintro ⟨payable, short⟩
    constructor
    · intro reserved h
      obtain ⟨_, _, covered, _⟩ := getChangeOutputAndFees_eq_ok.mp h
      omega
    · have fits := payable.fits
      exact ⟨p.deducted feeRatePerVb extraFee, payable.deducted, _,
        getChangeOutputAndFees_eq_ok.mpr ⟨⟨fits.fundWeight, fits.cetWeight, fits.required⟩,
          payable.scripts, le_rfl, rfl⟩⟩

end PartyParams

/-- The sample party with inputs that exceed the requirement at a rate of 4 by 99
satoshi. -/
def tightParty : PartyParams := { sampleOffer with inputAmount := 100001491 }

theorem exactFees_iff_sample :
    sampleOffer.Fits 4 0 ∧ (sampleOffer.ExactFees 4 0 ↔
      sampleOffer.ValidScripts ∧ ¬ (sampleOffer.requiredFunds 4 0 ≤ sampleOffer.inputAmount ∧
        sampleOffer.inputAmount < sampleOffer.requiredFunds 4 0 + 100)) := by
  have fits : sampleOffer.Fits 4 0 := by
    constructor <;> decide +kernel
  exact ⟨fits, PartyParams.exactFees_iff sampleOffer 4 0 fits⟩

theorem tight_inputs_panic :
    tightParty.Fits 4 0 ∧ tightParty.ValidScripts ∧
      tightParty.requiredFunds 4 0 + 99 = tightParty.inputAmount ∧
      tightParty.getChangeOutputAndFees 4 0 = .error (.panic "Amount subtraction error") ∧
      ¬ tightParty.ExactFees 4 0 := by
  have panics : tightParty.getChangeOutputAndFees 4 0 =
      .error (.panic "Amount subtraction error") := by decide +kernel
  refine ⟨?_, by decide +kernel, by decide +kernel, panics, fun exact => exact.total _ panics⟩
  constructor <;> decide +kernel

end P2PLending.Dlc
