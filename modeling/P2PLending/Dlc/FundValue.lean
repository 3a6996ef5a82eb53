import P2PLending.Dlc.Funding
import P2PLending.Dlc.Signing

/-! The value of the fund output. Each party's change is reduced by a collateral
fee and by 100 satoshi that the asserted fund value leaves out, so the assertion
fails for every pair of parties that could pay. -/

namespace P2PLending.Dlc
open Checked

variable (C : Crypto)

/-- What a party pays beyond its collateral and the fees the asserted value counts. -/
def withheld (feeRatePerVb : ℕ) : ℕ :=
  (f64OfUsize PartyParams.totalCollateralWeight + 3) / 4 * feeRatePerVb + 100

/-- The inputs of a party are its change, its collateral, its fees and what is withheld. -/
theorem getChangeOutputAndFees_ok {p : PartyParams} {feeRatePerVb extraFee fundFee cetFee : ℕ}
    {change : TxOut}
    (h : p.getChangeOutputAndFees feeRatePerVb extraFee = .ok (change, fundFee, cetFee)) :
    p.inputAmount = change.value + p.collateral + fundFee + cetFee + extraFee +
      withheld feeRatePerVb := by
  simp only [PartyParams.getChangeOutputAndFees, checkedAdd, checkedMul, amountSub, weightToFee,
    bind_eq_ok, add_eq_ok, mul_eq_ok, sub_eq_ok, ensure_eq_ok, pure_eq_ok, Except.ok.injEq,
    Prod.mk.injEq] at h
  obtain ⟨_, _, _, _, _, _, _, _, _, _, fund, ⟨_, fundIs⟩, collateral, ⟨_, collateralIs⟩, h⟩ := h
  obtain ⟨_, _, _, _, cet, ⟨_, cetIs⟩, r₁, ⟨_, r₁Is⟩, r₂, ⟨_, r₂Is⟩, r₃, ⟨_, r₃Is⟩, h⟩ := h
  obtain ⟨required, ⟨_, requiredIs⟩, _, covered, rest, ⟨_, restIs⟩, v, ⟨enough, vIs⟩, h⟩ := h
  obtain ⟨changeIs, sameFund, sameCet⟩ := h
  have paid : change.value = v := by rw [← changeIs]
  have fee : withheld feeRatePerVb = collateral + 100 := by rw [withheld, collateralIs]
  omega

theorem withheld_pos (feeRatePerVb : ℕ) : 0 < withheld feeRatePerVb := by
  simp [withheld]

/-- The builder fails on every pair of parties whose changes could be computed. -/
theorem createFundTransactionWithFees_fails {offerParams acceptParams : PartyParams}
    {feeRatePerVb fundLockTime fundOutputSerialId extraFee : ℕ}
    {offerChange acceptChange : TxOut} {offerFund acceptFund offerCet acceptCet : ℕ}
    (offered : offerParams.getChangeOutputAndFees feeRatePerVb extraFee =
      .ok (offerChange, offerFund, offerCet))
    (accepted : acceptParams.getChangeOutputAndFees feeRatePerVb extraFee =
      .ok (acceptChange, acceptFund, acceptCet)) :
    createFundTransactionWithFees C offerParams acceptParams feeRatePerVb fundLockTime
        fundOutputSerialId extraFee =
      .error (if offerParams.inputAmount + acceptParams.inputAmount < u64Limit then
        .panic "assertion `left == right` failed" else .err .invalidArgument) := by
  have offerInput := getChangeOutputAndFees_ok offered
  have acceptInput := getChangeOutputAndFees_ok accepted
  have short := withheld_pos feeRatePerVb
  by_cases fits : offerParams.inputAmount + acceptParams.inputAmount < u64Limit
  · simp (disch := omega) only [createFundTransactionWithFees, checkedAdd, amountAdd, amountSub,
      Checked.add, fit_of_lt, sub_of_le, offered, accepted, ok_bind]
    have differ : ¬ offerParams.collateral + acceptParams.collateral + offerCet + acceptCet +
        extraFee = offerParams.inputAmount + acceptParams.inputAmount - offerChange.value -
          acceptChange.value - offerFund - acceptFund - extraFee := by omega
    simp only [assertEq, ensure, differ, if_false, error_bind, fits, if_true]
  · rw [if_neg fits]
    simp only [createFundTransactionWithFees, checkedAdd, Checked.add, fit, fits, offered, accepted,
      ok_bind, error_bind, if_false]
    split
    · rfl
    · rfl

theorem createFundTransactionWithFees_ne_ok (offerParams acceptParams : PartyParams)
    (feeRatePerVb fundLockTime fundOutputSerialId extraFee : ℕ) (built : Transaction × Bytes) :
    createFundTransactionWithFees C offerParams acceptParams feeRatePerVb fundLockTime
      fundOutputSerialId extraFee ≠ .ok built := by
  intro h
  have stages := h
  simp only [createFundTransactionWithFees, bind_eq_ok] at stages
  obtain ⟨_, _, ⟨_, _, _⟩, offered, ⟨_, _, _⟩, accepted, _⟩ := stages
  rw [createFundTransactionWithFees_fails C offered accepted] at h
  cases h

theorem createDlcTransactions_ne_ok (offerParams acceptParams : PartyParams)
    (payouts : List Payout)
    (refundLockTime feeRatePerVb fundLockTime cetLockTime fundOutputSerialId : ℕ)
    (txs : DlcTransactions) :
    createDlcTransactions C offerParams acceptParams payouts refundLockTime feeRatePerVb
      fundLockTime cetLockTime fundOutputSerialId ≠ .ok txs := by
  intro h
  obtain ⟨built, funded, _⟩ := bind_eq_ok.mp h
  exact createFundTransactionWithFees_ne_ok C _ _ _ _ _ _ built funded

theorem createChannelTransactions_ne_ok (B : BufferDescriptor)
    (offerParams acceptParams : PartyParams) (offerRevokeParams acceptRevokeParams : RevokeParams)
    (payouts : List Payout) (refundLockTime feeRatePerVb fundLockTime cetLockTime
      fundOutputSerialId cetNsequence : ℕ) (txs : DlcChannelTransactions) :
    createChannelTransactions C B offerParams acceptParams offerRevokeParams acceptRevokeParams
      payouts refundLockTime feeRatePerVb fundLockTime cetLockTime fundOutputSerialId
      cetNsequence ≠ .ok txs := by
  intro h
  obtain ⟨_, _, h⟩ := bind_eq_ok.mp h
  obtain ⟨built, funded, _⟩ := bind_eq_ok.mp h
  exact createFundTransactionWithFees_ne_ok C _ _ _ _ _ _ built funded

/-- No fund transaction is ever built: where both changes can be computed, the
builder trips its assertion (or fails when the inputs overflow), and the
builders above it never return. -/
theorem fund_transaction_never_built (B : BufferDescriptor)
    (offerParams acceptParams : PartyParams) (offerRevokeParams acceptRevokeParams : RevokeParams)
    (payouts : List Payout) (refundLockTime feeRatePerVb fundLockTime cetLockTime
      fundOutputSerialId extraFee cetNsequence : ℕ)
    {offerChange acceptChange : TxOut} {offerFund acceptFund offerCet acceptCet : ℕ}
    (offered : offerParams.getChangeOutputAndFees feeRatePerVb extraFee =
      .ok (offerChange, offerFund, offerCet))
    (accepted : acceptParams.getChangeOutputAndFees feeRatePerVb extraFee =
      .ok (acceptChange, acceptFund, acceptCet)) :
    createFundTransactionWithFees C offerParams acceptParams feeRatePerVb fundLockTime
        fundOutputSerialId extraFee =
      .error (if offerParams.inputAmount + acceptParams.inputAmount < u64Limit then
        .panic "assertion `left == right` failed" else .err .invalidArgument) ∧
    (∀ txs, createDlcTransactions C offerParams acceptParams payouts refundLockTime feeRatePerVb
      fundLockTime cetLockTime fundOutputSerialId ≠ .ok txs) ∧
    ∀ txs, createChannelTransactions C B offerParams acceptParams offerRevokeParams
      acceptRevokeParams payouts refundLockTime feeRatePerVb fundLockTime cetLockTime
      fundOutputSerialId cetNsequence ≠ .ok txs := by
  refine ⟨createFundTransactionWithFees_fails C offered accepted, ?_, ?_⟩
  · exact createDlcTransactions_ne_ok C offerParams acceptParams payouts _ _ _ _ _
  · exact createChannelTransactions_ne_ok C B offerParams acceptParams _ _ payouts _ _ _ _ _ _

/-- A party with one input of 1000000000 satoshi and a collateral of 100000000. -/
def sampleParty (fundPubkey : PublicKey) (scriptPubkey : Bytes) : PartyParams where
  fundPubkey := fundPubkey
  changeScriptPubkey := scriptPubkey
  changeSerialId := 1
  payoutScriptPubkey := scriptPubkey
  payoutSerialId := 1
  inputs := [{
    outpoint := ⟨0x5df6e0e2761359d30a8275058e299fcc0381534545f55cf43e41983f5d4c9456, 1⟩
    maxWitnessLen := 108
    redeemScript := []
    serialId := 1 }]
  inputAmount := 1000000000
  collateral := 100000000

def sampleOffer : PartyParams := sampleParty sampleKey₁ sampleSpk₁

def sampleAccept : PartyParams := sampleParty sampleKey₂ sampleSpk₂

theorem fund_transaction_never_built_equal_parties :
    createFundTransactionWithFees sampleCrypto sampleOffer sampleAccept 4 10 0 0 =
      .error (.panic "assertion `left == right` failed") := by
  have offered : sampleOffer.getChangeOutputAndFees 4 0 =
      .ok (⟨899998508, sampleSpk₁⟩, 596, 340) := by decide +kernel
  have accepted : sampleAccept.getChangeOutputAndFees 4 0 =
      .ok (⟨899998508, sampleSpk₂⟩, 596, 340) := by decide +kernel
  have failed := fund_transaction_never_built sampleCrypto ⟨fun _ _ => [], fun _ _ => .ok []⟩
    sampleOffer sampleAccept ⟨sampleKey₁, sampleKey₁, sampleKey₁⟩
    ⟨sampleKey₂, sampleKey₂, sampleKey₂⟩ [] 100 4 10 10 0 0 0 offered accepted
  exact failed.1.trans (by decide)

/-- Two parties with ample inputs: both changes exist and the builder panics. -/
theorem equal_parties_trip_assertion :
    sampleOffer.getChangeOutputAndFees 4 0 = .ok (⟨899998508, sampleSpk₁⟩, 596, 340) ∧
    sampleAccept.getChangeOutputAndFees 4 0 = .ok (⟨899998508, sampleSpk₂⟩, 596, 340) ∧
    createDlcTransactions sampleCrypto sampleOffer sampleAccept
        [⟨200000000, 0⟩, ⟨0, 200000000⟩] 100 4 10 10 0 =
      .error (.panic "assertion `left == right` failed") := by
  decide +kernel

end P2PLending.Dlc
