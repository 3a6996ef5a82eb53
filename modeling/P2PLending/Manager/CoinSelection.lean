import P2PLending.Manager.StageAgreement
import P2PLending.Dlc.PartyFees

/-! What a party asks its wallet for against what its inputs have to cover. The
request leaves out the collateral transaction, the change output and the extra
fees, so coins that cover the request and their own spending fee can fall short. -/

namespace P2PLending.Manager
open Dlc Checked

/-- What the request leaves out beyond the fee of spending the inputs: the own half
of the fund transaction and the change, the collateral transaction, the own part
of the CET, the extra fee and 100 satoshi, less the fees that are asked for. -/
def shortfall (p : PartyParams) (feeRate extraFee : ℕ) : ℕ :=
  (feeOf p.totalFundWeight feeRate - feeOf p.inputsWeight feeRate) +
    feeOf PartyParams.totalCollateralWeight feeRate + feeOf p.totalCetWeight feeRate +
    extraFee + 100 -
    ((f64OfUsize (feeOf (fundTxBaseWeight + cetBaseWeight) feeRate) + 1) / 2 + feeOf 124 feeRate)

theorem requiredAmount_ok {ownCollateral feeRate asked : ℕ}
    (h : requiredAmount ownCollateral feeRate = .ok asked) :
    asked = ownCollateral +
      (f64OfUsize (feeOf (fundTxBaseWeight + cetBaseWeight) feeRate) + 1) / 2 +
      feeOf 124 feeRate := by
  simp only [requiredAmount, getHalfCommonFee, bind_eq_ok, ofDlc_eq_ok, weightToFee_eq_ok,
    amountAdd, add_eq_ok, Except.ok.injEq] at h
  obtain ⟨half, ⟨common, ⟨_, commonIs⟩, halfIs⟩, sum, ⟨_, sumIs⟩, fee, ⟨_, feeIs⟩, _, askedIs⟩ := h
  rw [askedIs, sumIs, feeIs, ← halfIs, commonIs]

theorem feeOf_fixed (feeRate : ℕ) :
    feeOf (fundTxBaseWeight + cetBaseWeight) feeRate = 225 * feeRate ∧
      feeOf 124 feeRate = 31 * feeRate ∧
      feeOf PartyParams.totalCollateralWeight feeRate = 114 * feeRate ∧
      feeOf (cetBaseWeight / 2) feeRate = 63 * feeRate := by
  refine ⟨?_, ?_, ?_, ?_⟩ <;> exact congrArg (· * feeRate) (by decide)

/-- The fees that are asked for are less than the collateral fee and the own part
of the CET together. -/
theorem asked_lt_fixed (feeRate : ℕ) :
    (f64OfUsize (feeOf (fundTxBaseWeight + cetBaseWeight) feeRate) + 1) / 2 + feeOf 124 feeRate +
        33 * feeRate ≤
      feeOf PartyParams.totalCollateralWeight feeRate + feeOf (cetBaseWeight / 2) feeRate := by
  obtain ⟨common, output, collateral, cet⟩ := feeOf_fixed feeRate
  rw [common, output, collateral, cet]
  have rounded := f64OfUsize_le (225 * feeRate)
  omega

/-- The deducted amount is what is asked for, the fee of spending the inputs and
the shortfall, which is at least 33 times the fee rate and the fixed fees. -/
theorem deducted_eq (p : PartyParams) (feeRate extraFee : ℕ) {asked : ℕ}
    (h : requiredAmount p.collateral feeRate = .ok asked) :
    p.deducted feeRate extraFee =
        asked + feeOf p.inputsWeight feeRate + shortfall p feeRate extraFee ∧
      33 * feeRate + extraFee + 100 ≤ shortfall p feeRate extraFee := by
  have askedIs := requiredAmount_ok h
  have fixed := asked_lt_fixed feeRate
  have inputs : feeOf p.inputsWeight feeRate ≤ feeOf p.totalFundWeight feeRate := by
    apply feeOf_mono
    unfold PartyParams.totalFundWeight
    omega
  have cet : feeOf (cetBaseWeight / 2) feeRate ≤ feeOf p.totalCetWeight feeRate :=
    feeOf_mono (Nat.le_add_right _ _) feeRate
  unfold PartyParams.deducted PartyParams.requiredFunds shortfall
  omega

/-- The coins reach for an operation that needs `extraFee` more. -/
def Reaches (p : PartyParams) (feeRate extraFee asked : ℕ) : Prop :=
  p.Payable feeRate extraFee →
    asked + feeOf p.inputsWeight feeRate + shortfall p feeRate extraFee ≤ p.inputAmount

theorem not_lacksFunds_iff {p : PartyParams} {feeRate extraFee asked : ℕ}
    (h : requiredAmount p.collateral feeRate = .ok asked) :
    ¬ p.LacksFunds feeRate extraFee ↔ Reaches p feeRate extraFee asked := by
  rw [PartyParams.lacksFunds_iff, Reaches, (deducted_eq p feeRate extraFee h).1, not_and, Nat.not_lt]

/-- Coins that cover the request and their spending fee suffice for the escrow
(with 300 satoshi more) and the fund transaction exactly when they cover the
shortfall too, which is never nothing. -/
theorem coin_selection_sufficient_iff {env : AcceptEnvironment} {C : Crypto}
    {ownCollateral feeRate : ℕ} {signer : ContractSigner} {p : PartyParams}
    {fundingInputs : List FundingInput}
    (h : getPartyParams env C ownCollateral feeRate signer = .ok (p, fundingInputs)) :
    ∃ asked utxos, requiredAmount ownCollateral feeRate = .ok asked ∧
      env.getUtxosForAmount asked feeRate = .ok utxos ∧
      selectInputs env C 2 0 utxos =
        .ok (fundingInputs.zip p.inputs, p.inputAmount) ∧
      ((asked + feeOf p.inputsWeight feeRate ≤ p.inputAmount →
          ¬ p.LacksFunds feeRate 300 ∧ ¬ p.LacksFunds feeRate 0) ↔
        p.inputAmount < asked + feeOf p.inputsWeight feeRate ∨
          (Reaches p feeRate 300 asked ∧ Reaches p feeRate 0 asked)) ∧
      ∀ extraFee, 33 * feeRate + extraFee + 100 ≤ shortfall p feeRate extraFee := by
  simp only [getPartyParams, bind_eq_ok, answered_eq_ok, Except.ok.injEq, Prod.exists,
    Prod.mk.injEq] at h
  obtain ⟨_, _, _, _, _, _, asked, required, utxos, chosen, inputs, total, selected, rfl, rfl⟩ := h
  refine ⟨asked, utxos, required, chosen, ?_, ?_, fun extraFee => (deducted_eq _ _ _ required).2⟩
  · rw [selected, List.zip_map', List.map_id'']
    intro pair
    rfl
  · rw [not_lacksFunds_iff required, not_lacksFunds_iff required, imp_iff_not_or, Nat.not_le]

/-! A coin of what is asked for at a rate of 1 and the 68 satoshi that spending it costs. -/

def exactCoin : Transaction := { sampleCoin with output := [⟨100000212, sampleSpk₂⟩] }

def exactInput : FundingInput where
  inputSerialId := 2
  prevTx := []
  prevTxVout := 0
  sequence := 0xffffffff
  maxWitnessLen := 107
  redeemScript := []

def exactParty : PartyParams where
  fundPubkey := sampleKey₂
  changeScriptPubkey := sampleSpk₂
  changeSerialId := 1
  payoutScriptPubkey := sampleSpk₂
  payoutSerialId := 0
  inputs := [⟨⟨exactCoin.computeTxid sampleCrypto, 0⟩, 107, [], 2⟩]
  inputAmount := 100000212
  collateral := 100000000

theorem exactParty_params :
    getPartyParams (sampleAcceptEnvironment exactCoin 0 500000000) sampleCrypto 100000000 1
      ⟨.ok sampleKey₂, .ok 2⟩ = .ok (exactParty, [exactInput]) := by decide +kernel

theorem coin_selection_sufficient_exactParty :
    ∃ asked utxos, requiredAmount 100000000 1 = .ok asked ∧
      (sampleAcceptEnvironment exactCoin 0 500000000).getUtxosForAmount asked 1 = .ok utxos ∧
      selectInputs (sampleAcceptEnvironment exactCoin 0 500000000) sampleCrypto 2 0 utxos =
        .ok ([exactInput].zip exactParty.inputs, exactParty.inputAmount) ∧
      ((asked + feeOf exactParty.inputsWeight 1 ≤ exactParty.inputAmount →
          ¬ exactParty.LacksFunds 1 300 ∧ ¬ exactParty.LacksFunds 1 0) ↔
        exactParty.inputAmount < asked + feeOf exactParty.inputsWeight 1 ∨
          (Reaches exactParty 1 300 asked ∧ Reaches exactParty 1 0 asked)) ∧
      ∀ extraFee, 33 * 1 + extraFee + 100 ≤ shortfall exactParty 1 extraFee :=
  coin_selection_sufficient_iff exactParty_params

/-- The wallet returns a coin of all that is asked for and its spending fee, and the
escrow transaction and the fund transaction both lack funds. -/
theorem exact_coins_fall_short :
    getPartyParams (sampleAcceptEnvironment exactCoin 0 500000000) sampleCrypto 100000000 1
        ⟨.ok sampleKey₂, .ok 2⟩ = .ok (exactParty, [exactInput]) ∧
      requiredAmount 100000000 1 = .ok 100000144 ∧
      100000144 + feeOf exactParty.inputsWeight 1 = exactParty.inputAmount ∧
      exactParty.LacksFunds 1 300 ∧ exactParty.LacksFunds 1 0 ∧
      escrowTransaction (sampleAcceptEnvironment exactCoin 0 500000000) sampleCrypto
        sampleLoanOffer.offeredContract 0 = .error (.err (.dlcError .invalidArgument)) ∧
      createDlcTransactions sampleCrypto sampleOffer exactParty []
        100 1 10 10 0 = .error (.err .invalidArgument) := by
  refine ⟨exactParty_params, by decide +kernel, by decide +kernel, ?_, ?_, by decide +kernel,
    by decide +kernel⟩
  · refine PartyParams.lacksFunds_iff.mpr ⟨?_, by decide +kernel⟩
    constructor <;> decide +kernel
  · refine PartyParams.lacksFunds_iff.mpr ⟨?_, by decide +kernel⟩
    constructor <;> decide +kernel

end P2PLending.Manager
