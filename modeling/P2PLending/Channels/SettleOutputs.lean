import P2PLending.Channels.ChannelRuns
import P2PLending.Dlc.LoanOutputs

/-! The outputs of a settle transaction. The extra fee that is put aside when a channel is opened
covers its fee for any number of outputs. What is left of the fund output is divided by the number
of outputs, which may be none. -/

namespace P2PLending.Manager.Channels
open Dlc Checked

variable (X : ChannelCrypto)

/-! What the fund output is worth. -/

/-- The fund output as it is asserted to be, and as it is computed. The two differ, so the builder
stops there. -/
def fundOutputValues (offerParams acceptParams : PartyParams) (feeRatePerVb : ℕ) :
    Dlc.Result (ℕ × ℕ) := do
  let extraFee ← weightToFee (bufferTxWeight + cetExtraWeight) feeRatePerVb
  let totalCollateral ← checkedAdd offerParams.collateral acceptParams.collateral
  let (offerChange, offerFundFee, offerCetFee) ←
    offerParams.getChangeOutputAndFees feeRatePerVb extraFee
  let (acceptChange, acceptFundFee, acceptCetFee) ←
    acceptParams.getChangeOutputAndFees feeRatePerVb extraFee
  let value ← checkedAdd offerParams.inputAmount acceptParams.inputAmount
  let value ← amountSub value offerChange.value
  let value ← amountSub value acceptChange.value
  let value ← amountSub value offerFundFee
  let value ← amountSub value acceptFundFee
  let fundOutputValue ← amountSub value extraFee
  let expected ← amountAdd totalCollateral offerCetFee
  let expected ← amountAdd expected acceptCetFee
  let expected ← amountAdd expected extraFee
  .ok (expected, fundOutputValue)

section FundValues
variable {offerParams acceptParams : PartyParams} {feeRatePerVb expected computed : ℕ}

/-- Both values hold the collateral and the extra fee. -/
theorem fundOutputValues_covered
    (values : fundOutputValues offerParams acceptParams feeRatePerVb = .ok (expected, computed)) :
    ∃ extraFee, weightToFee (bufferTxWeight + cetExtraWeight) feeRatePerVb = .ok extraFee ∧
      offerParams.collateral + acceptParams.collateral + extraFee ≤ expected ∧
      computed = expected + 2 * withheld feeRatePerVb := by
  simp only [fundOutputValues, checkedAdd, amountAdd, amountSub, bind_eq_ok, add_eq_ok, sub_eq_ok,
    Except.ok.injEq, Prod.mk.injEq] at values
  obtain ⟨extraFee, extra, total, ⟨_, totalIs⟩, ⟨offerChange, offerFund, offerCet⟩, offered,
    ⟨acceptChange, acceptFund, acceptCet⟩, accepted, values⟩ := values
  obtain ⟨inputs, ⟨_, inputsIs⟩, v₁, ⟨c₁, v₁Is⟩, v₂, ⟨c₂, v₂Is⟩, v₃, ⟨c₃, v₃Is⟩, v₄, ⟨c₄, v₄Is⟩,
    v₅, ⟨c₅, v₅Is⟩, values⟩ := values
  obtain ⟨e₁, ⟨_, e₁Is⟩, e₂, ⟨_, e₂Is⟩, e₃, ⟨_, e₃Is⟩, rfl, rfl⟩ := values
  have offerInput := getChangeOutputAndFees_ok offered
  have acceptInput := getChangeOutputAndFees_ok accepted
  dsimp only at c₁ v₁Is c₂ v₂Is c₃ v₃Is c₄ v₄Is e₁Is e₂Is
  exact ⟨extraFee, extra, by omega, by omega⟩

/-- Where the two values exist, the builder trips its assertion on them. -/
theorem fundOutputValues_rejected (C : Crypto) (B : BufferDescriptor)
    (offerRevokeParams acceptRevokeParams : RevokeParams) (payouts : List Payout)
    (refundLockTime fundLockTime cetLockTime fundOutputSerialId cetNsequence : ℕ)
    (values : fundOutputValues offerParams acceptParams feeRatePerVb = .ok (expected, computed)) :
    createChannelTransactions C B offerParams acceptParams offerRevokeParams acceptRevokeParams
        payouts refundLockTime feeRatePerVb fundLockTime cetLockTime fundOutputSerialId
        cetNsequence = .error (.panic "assertion `left == right` failed") := by
  simp only [fundOutputValues, bind_eq_ok] at values
  obtain ⟨extraFee, extra, _, _, ⟨_, _, _⟩, offered, ⟨_, _, _⟩, accepted, _, inputs, _⟩ := values
  have fits := (add_eq_ok.mp inputs).1
  rw [createChannelTransactions, extra, ok_bind,
    createFundTransactionWithFees_fails C offered accepted, if_pos fits, error_bind]

end FundValues

/-! The outputs. -/

section Settle
variable (fundTxIn : TxIn) (offerRevokeParams acceptRevokeParams : RevokeParams)
  (offerPayout acceptPayout csvTimelock lockTime fundOutputValue feeRatePerVb : ℕ)

/-- The payouts of both parties, each to the party's own script. -/
def settlePayouts : List TxOut :=
  [⟨offerPayout, X.settleDescriptor.scriptPubkey
      ⟨offerRevokeParams, acceptRevokeParams.ownPk, csvTimelock⟩⟩,
    ⟨acceptPayout, X.settleDescriptor.scriptPubkey
      ⟨acceptRevokeParams, offerRevokeParams.ownPk, csvTimelock⟩⟩]

/-- A settle transaction is built. It drops a payout only if it is dust, pays the others with an
equal share of the remaining fee each, and keeps the fee at the rate. -/
def PaysTheSettlement : Prop :=
  ∃ tx kept fee,
    createSettleTransaction X fundTxIn offerRevokeParams acceptRevokeParams offerPayout
      acceptPayout csvTimelock lockTime fundOutputValue feeRatePerVb = .ok tx ∧
    kept = (settlePayouts X offerRevokeParams acceptRevokeParams offerPayout acceptPayout
      csvTimelock).filter (fun o => dustLimit ≤ o.value) ∧
    weightToFee (settleInputWeight + kept.length * settleOutputWeight) feeRatePerVb = .ok fee ∧
    tx.output = kept.map (fun o => { o with value := o.value +
      (fundOutputValue - offerPayout - acceptPayout - fee) / kept.length }) ∧
    tx.outputValue + fee ≤ fundOutputValue

end Settle

section Outputs
variable {X}

theorem raised_value (outputs : List TxOut) (share : ℕ) :
    ((outputs.map fun o => { o with value := o.value + share }).map TxOut.value).sum =
      (outputs.map TxOut.value).sum + outputs.length * share := by
  induction outputs with
  | nil => simp
  | cons output outputs ih =>
      simp only [List.map_cons, List.sum_cons, List.length_cons, ih, Nat.add_mul, Nat.one_mul]
      omega

/-- The extra fee covers the settle transaction with up to two outputs. -/
theorem settleFee_covered {feeRatePerVb extraFee outputs : ℕ}
    (extra : weightToFee (bufferTxWeight + cetExtraWeight) feeRatePerVb = .ok extraFee)
    (few : outputs ≤ 2) :
    ∃ fee, weightToFee (settleInputWeight + outputs * settleOutputWeight) feeRatePerVb = .ok fee ∧
      fee ≤ extraFee := by
  obtain ⟨fits, rfl⟩ := weightToFee_eq_ok.mp extra
  have lighter : settleInputWeight + outputs * settleOutputWeight ≤
      bufferTxWeight + cetExtraWeight := by
    simp only [settleInputWeight, settleOutputWeight, bufferTxWeight, cetExtraWeight]
    omega
  have cheaper := feeOf_mono lighter feeRatePerVb
  exact ⟨_, weightToFee_of_lt (cheaper.trans_lt fits), cheaper⟩

variable {fundTxIn : TxIn} {offerRevokeParams acceptRevokeParams : RevokeParams}
  {offerPayout acceptPayout csvTimelock lockTime fundOutputValue feeRatePerVb fee : ℕ}
  {kept : List TxOut}

/-- With the payouts and the fee covered, all that is left to fail is the division. -/
theorem createSettleTransaction_eq
    (keptIs : kept = (settlePayouts X offerRevokeParams acceptRevokeParams offerPayout acceptPayout
      csvTimelock).filter (fun o => dustLimit ≤ o.value))
    (feeIs : weightToFee (settleInputWeight + kept.length * settleOutputWeight) feeRatePerVb =
      .ok fee)
    (covered : offerPayout + acceptPayout + fee ≤ fundOutputValue) :
    createSettleTransaction X fundTxIn offerRevokeParams acceptRevokeParams offerPayout
        acceptPayout csvTimelock lockTime fundOutputValue feeRatePerVb =
      if kept = [] then .error (.panic "attempt to divide by zero")
      else .ok
        { lockTime
          input := [fundTxIn]
          output := kept.map fun o => { o with value := o.value +
            (fundOutputValue - offerPayout - acceptPayout - fee) / kept.length } } := by
  rw [settlePayouts] at keptIs
  rw [createSettleTransaction, discardDust]
  dsimp only
  rw [← keptIs, amountSub, sub_of_le _ (by omega), ok_bind, amountSub, sub_of_le _ (by omega),
    ok_bind, feeIs, ok_bind, amountSub, sub_of_le _ (by omega), ok_bind, ensure]
  by_cases none : kept = []
  · rw [if_pos none, if_neg (by simp [none]), error_bind]
  · rw [if_neg none, if_pos (by simp [none]), ok_bind]
    rfl

/-- The outputs and the fee are within the fund output. -/
theorem raised_within
    (keptIs : kept = (settlePayouts X offerRevokeParams acceptRevokeParams offerPayout acceptPayout
      csvTimelock).filter (fun o => dustLimit ≤ o.value))
    (covered : offerPayout + acceptPayout + fee ≤ fundOutputValue) :
    ((kept.map fun o => { o with value := o.value +
      (fundOutputValue - offerPayout - acceptPayout - fee) / kept.length }).map TxOut.value).sum +
        fee ≤ fundOutputValue := by
  have paid : (kept.map TxOut.value).sum ≤ offerPayout + acceptPayout := by
    rw [keptIs]
    exact (discardDust_value_le _ dustLimit).trans (by simp [settlePayouts])
  have shared : kept.length *
      ((fundOutputValue - offerPayout - acceptPayout - fee) / kept.length) ≤
        fundOutputValue - offerPayout - acceptPayout - fee := Nat.mul_div_le _ _
  rw [raised_value]
  omega

theorem settlePayouts_dust : (settlePayouts X offerRevokeParams acceptRevokeParams offerPayout
      acceptPayout csvTimelock).filter (fun o => dustLimit ≤ o.value) = [] ↔
    ¬ (dustLimit ≤ offerPayout ∨ dustLimit ≤ acceptPayout) := by
  simp [settlePayouts, List.filter_eq_nil_iff]

end Outputs

/-- A settle transaction is built, and pays as it should, unless both payouts are dust. The fund
output is worth what the builder of the channel asserts it to be, or what it computes. -/
theorem paysTheSettlement_iff (fundTxIn : TxIn) (offerRevokeParams acceptRevokeParams : RevokeParams)
    (offerParams acceptParams : PartyParams)
    (offerPayout acceptPayout csvTimelock lockTime fundOutputValue feeRatePerVb : ℕ)
    {expected computed : ℕ}
    (values : fundOutputValues offerParams acceptParams feeRatePerVb = .ok (expected, computed))
    (funded : fundOutputValue = expected ∨ fundOutputValue = computed)
    (split : offerPayout + acceptPayout = offerParams.collateral + acceptParams.collateral) :
    PaysTheSettlement X fundTxIn offerRevokeParams acceptRevokeParams offerPayout acceptPayout
        csvTimelock lockTime fundOutputValue feeRatePerVb ↔
      dustLimit ≤ offerPayout ∨ dustLimit ≤ acceptPayout := by
  obtain ⟨extraFee, extra, holds, more⟩ := fundOutputValues_covered values
  obtain ⟨kept, keptIs⟩ : ∃ kept, kept = (settlePayouts X offerRevokeParams acceptRevokeParams
      offerPayout acceptPayout csvTimelock).filter (fun o => dustLimit ≤ o.value) := ⟨_, rfl⟩
  have few : kept.length ≤ 2 := by
    rw [keptIs]
    exact List.length_filter_le _ _
  obtain ⟨fee, feeIs, cheap⟩ := settleFee_covered extra few
  have covered : offerPayout + acceptPayout + fee ≤ fundOutputValue := by omega
  have dust : kept = [] ↔ ¬ (dustLimit ≤ offerPayout ∨ dustLimit ≤ acceptPayout) := by
    rw [keptIs]
    exact settlePayouts_dust
  constructor
  · rintro ⟨tx, _, _, built, _⟩
    by_contra both
    rw [createSettleTransaction_eq keptIs feeIs covered, if_pos (dust.mpr both)] at built
    cases built
  · intro pays
    have some' : kept ≠ [] := fun none => dust.mp none pays
    exact ⟨_, kept, fee, (createSettleTransaction_eq keptIs feeIs covered).trans (if_neg some'),
      keptIs, feeIs, rfl, raised_within keptIs covered⟩

/-- A party that puts a collateral of so much into the channel. -/
def sampleFunder (party collateral : ℕ) : PartyParams :=
  { samplePartyParams party with collateral }

theorem settles_lopsided : PaysTheSettlement sampleChannelCrypto
    ⟨⟨0, 0⟩, [], disableLocktime, []⟩ (sampleRevokeParams 1 2 0) (sampleRevokeParams 2 1 0)
    200000000 0 10 0 200001612 4 := by
  have values : fundOutputValues (sampleFunder 1 100000000) (sampleFunder 2 100000000) 4 =
      .ok (200001612, 200002724) := by decide +kernel
  exact (paysTheSettlement_iff sampleChannelCrypto _ _ _ _ _ 200000000 0 10 0 200001612 4 values
    (Or.inl rfl) rfl).mpr (Or.inl (by decide))

/-- Two parties with 500 satoshi each get them back: there is no output to share by. -/
theorem both_dust_panics :
    fundOutputValues (sampleFunder 1 500) (sampleFunder 2 500) 4 = .ok (2612, 3724) ∧
    createSettleTransaction sampleChannelCrypto ⟨⟨0, 0⟩, [], disableLocktime, []⟩
        (sampleRevokeParams 1 2 0) (sampleRevokeParams 2 1 0) 500 500 10 0 2612 4 =
      .error (.panic "attempt to divide by zero") := by
  decide +kernel

end P2PLending.Manager.Channels
