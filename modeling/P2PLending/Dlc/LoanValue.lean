import P2PLending.Dlc.EscrowScript
import P2PLending.Dlc.FundValue

/-! Values along a loan: the escrow, the collateral transaction, the CETs and the
refund. Each transaction hands the next an output that covers it, as long as the
escrow's fees cover the 100 satoshi that its output is raised by. -/

namespace P2PLending.Dlc
open Checked

/-! A double keeps the order of the integers, and rounds up by at most one part
in `2 ^ 52`. -/

theorem f64OfUsize_small {n : ℕ} (small : Nat.log2 n ≤ 52) : f64OfUsize n = n := by
  have unscaled : Nat.log2 n - 52 = 0 := Nat.sub_eq_zero_of_le small
  simp [f64OfUsize, unscaled, Nat.mod_one]

theorem f64OfUsize_floor (n : ℕ) :
    n / 2 ^ (Nat.log2 n - 52) * 2 ^ (Nat.log2 n - 52) ≤ f64OfUsize n := by
  unfold f64OfUsize
  dsimp only
  split
  · exact Nat.mul_le_mul_right _ (Nat.le_succ _)
  · exact le_rfl

theorem f64OfUsize_ceil (n : ℕ) :
    f64OfUsize n ≤ (n / 2 ^ (Nat.log2 n - 52) + 1) * 2 ^ (Nat.log2 n - 52) := by
  unfold f64OfUsize
  dsimp only
  split
  · exact le_rfl
  · exact Nat.mul_le_mul_right _ (Nat.le_succ _)

/-- The binary exponent is kept, or the value is rounded to the next power. -/
theorem pow_log2_le_f64OfUsize {n : ℕ} (pos : n ≠ 0) : 2 ^ Nat.log2 n ≤ f64OfUsize n := by
  have low : 2 ^ Nat.log2 n ≤ n := Nat.log2_self_le pos
  rcases Nat.le_total (Nat.log2 n) 52 with small | large
  · rw [f64OfUsize_small small]
    exact low
  · have split : 2 ^ Nat.log2 n = 2 ^ 52 * 2 ^ (Nat.log2 n - 52) := by
      rw [← pow_add, Nat.add_sub_cancel' large]
    have quotient : 2 ^ 52 ≤ n / 2 ^ (Nat.log2 n - 52) := by
      rw [Nat.le_div_iff_mul_le (Nat.two_pow_pos _), ← split]
      exact low
    calc 2 ^ Nat.log2 n = 2 ^ 52 * 2 ^ (Nat.log2 n - 52) := split
      _ ≤ n / 2 ^ (Nat.log2 n - 52) * 2 ^ (Nat.log2 n - 52) := Nat.mul_le_mul_right _ quotient
      _ ≤ f64OfUsize n := f64OfUsize_floor n

theorem f64OfUsize_le_pow_log2 (n : ℕ) : f64OfUsize n ≤ 2 ^ (Nat.log2 n + 1) := by
  have high : n < 2 ^ (Nat.log2 n + 1) := Nat.lt_log2_self
  rcases Nat.le_total (Nat.log2 n) 52 with small | large
  · rw [f64OfUsize_small small]
    exact high.le
  · have split : 2 ^ (Nat.log2 n + 1) = 2 ^ 53 * 2 ^ (Nat.log2 n - 52) := by
      rw [← pow_add]
      congr 1
      omega
    have quotient : n / 2 ^ (Nat.log2 n - 52) < 2 ^ 53 := by
      rw [Nat.div_lt_iff_lt_mul (Nat.two_pow_pos _), ← split]
      exact high
    calc f64OfUsize n ≤ (n / 2 ^ (Nat.log2 n - 52) + 1) * 2 ^ (Nat.log2 n - 52) :=
          f64OfUsize_ceil n
      _ ≤ 2 ^ 53 * 2 ^ (Nat.log2 n - 52) := Nat.mul_le_mul_right _ quotient
      _ = 2 ^ (Nat.log2 n + 1) := split.symm

theorem f64OfUsize_mono {m n : ℕ} (le : m ≤ n) : f64OfUsize m ≤ f64OfUsize n := by
  rcases Nat.eq_zero_or_pos m with rfl | pos
  · exact Nat.zero_le _
  have logs : Nat.log2 m ≤ Nat.log2 n := by
    rw [Nat.le_log2 (by omega)]
    exact (Nat.log2_self_le (by omega)).trans le
  rcases Nat.lt_or_eq_of_le logs with below | same
  · calc f64OfUsize m ≤ 2 ^ (Nat.log2 m + 1) := f64OfUsize_le_pow_log2 m
      _ ≤ 2 ^ Nat.log2 n := Nat.pow_le_pow_right Nat.two_pos below
      _ ≤ f64OfUsize n := pow_log2_le_f64OfUsize (by omega)
  · rcases Nat.lt_or_eq_of_le (Nat.div_le_div_right (c := 2 ^ (Nat.log2 n - 52)) le)
      with smaller | equal
    · calc f64OfUsize m ≤ (m / 2 ^ (Nat.log2 m - 52) + 1) * 2 ^ (Nat.log2 m - 52) :=
            f64OfUsize_ceil m
        _ ≤ n / 2 ^ (Nat.log2 n - 52) * 2 ^ (Nat.log2 n - 52) := by
            rw [same]
            exact Nat.mul_le_mul_right _ smaller
        _ ≤ f64OfUsize n := f64OfUsize_floor n
    · -- The quotients agree, so the larger remainder rounds up when the smaller does.
      have remainders : m % 2 ^ (Nat.log2 n - 52) ≤ n % 2 ^ (Nat.log2 n - 52) := by
        have first := Nat.div_add_mod m (2 ^ (Nat.log2 n - 52))
        have second := Nat.div_add_mod n (2 ^ (Nat.log2 n - 52))
        rw [equal] at first
        omega
      unfold f64OfUsize
      dsimp only
      rw [same, equal]
      apply Nat.mul_le_mul_right
      split_ifs with up _ _
      · exact le_rfl
      · omega
      · exact Nat.le_succ _
      · exact le_rfl

theorem f64OfUsize_le (n : ℕ) : f64OfUsize n ≤ n + n / 2 ^ 52 := by
  rcases Nat.le_total (Nat.log2 n) 52 with small | large
  · rw [f64OfUsize_small small]
    exact Nat.le_add_right _ _
  · have pos : n ≠ 0 := by
      rintro rfl
      simp at large
    have unit : 2 ^ (Nat.log2 n - 52) ≤ n / 2 ^ 52 := by
      rw [Nat.le_div_iff_mul_le (Nat.two_pow_pos _), ← pow_add, Nat.sub_add_cancel large]
      exact Nat.log2_self_le pos
    have floor := Nat.div_mul_le_self n (2 ^ (Nat.log2 n - 52))
    have bound := f64OfUsize_ceil n
    rw [Nat.add_mul, Nat.one_mul] at bound
    omega

/-! Fees are at least a quarter of the weight at every positive rate. -/

theorem le_f64OfUsize {m n : ℕ} (le : m ≤ n) (small : m ≤ 2 ^ 52) : m ≤ f64OfUsize n := by
  have exact : f64OfUsize m = m := by
    apply f64OfUsize_small
    rcases Nat.eq_zero_or_pos m with rfl | pos
    · exact Nat.zero_le _
    · rw [← Nat.log2_two_pow (n := 52)]
      exact (Nat.le_log2 (by omega)).mpr ((Nat.log2_self_le (by omega)).trans small)
  calc m = f64OfUsize m := exact.symm
    _ ≤ f64OfUsize n := f64OfUsize_mono le

theorem weightToFee_ge {weight least feeRate fee : ℕ} (h : weightToFee weight feeRate = .ok fee)
    (heavy : 4 * least ≤ weight) (small : 4 * least ≤ 2 ^ 52) : least * feeRate ≤ fee := by
  simp only [weightToFee, checkedMul, mul_eq_ok] at h
  have bound := le_f64OfUsize heavy small
  rw [h.2]
  exact Nat.mul_le_mul_right _ (by omega)

/-- The fund fee and the CET fee of a party. -/
theorem getChangeOutputAndFees_fees {p : PartyParams} {feeRatePerVb extraFee fundFee cetFee : ℕ}
    {change : TxOut}
    (h : p.getChangeOutputAndFees feeRatePerVb extraFee = .ok (change, fundFee, cetFee)) :
    59 * feeRatePerVb ≤ fundFee ∧ 62 * feeRatePerVb ≤ cetFee := by
  simp only [PartyParams.getChangeOutputAndFees, bind_eq_ok, pure_eq_ok, Except.ok.injEq,
    Prod.mk.injEq] at h
  obtain ⟨_, _, _, _, _, base, _, added, weight, total, fund, fundIs, _, _, h⟩ := h
  obtain ⟨_, _, cetWeight, cetTotal, cet, cetIs, h⟩ := h
  obtain ⟨_, _, _, _, _, _, _, _, _, _, _, _, _, _, _, rfl, rfl⟩ := h
  simp only [checkedAdd, add_eq_ok, fundTxBaseWeight, cetBaseWeight] at base added total cetTotal
  refine ⟨weightToFee_ge fundIs (by omega) (by omega), weightToFee_ge cetIs (by omega) (by omega)⟩

/-! The escrow transaction. -/

theorem redeemScripts_of_weight {inputs : List TxInputInfo} {total weight : ℕ}
    (h : inputs.foldlM PartyParams.inputWeight total = .ok weight) :
    ∀ i ∈ inputs, ∃ scriptSig, redeemScriptToScriptSig i.redeemScript = .ok scriptSig := by
  induction inputs generalizing total with
  | nil =>
      intro i listed
      cases listed
  | cons input inputs ih =>
      rw [List.foldlM_cons] at h
      obtain ⟨weighed, this, rest⟩ := bind_eq_ok.mp h
      obtain ⟨scriptSig, signed, _⟩ := bind_eq_ok.mp this
      intro i listed
      cases List.mem_cons.mp listed with
      | inl same => exact ⟨scriptSig, same ▸ signed⟩
      | inr later => exact ih rest i later

theorem mapM_ok_of_forall {ε α β : Type} {f : α → Except ε β} {l : List α}
    (each : ∀ a ∈ l, ∃ b, f a = .ok b) : ∃ bs, l.mapM f = .ok bs := by
  induction l with
  | nil => exact ⟨[], rfl⟩
  | cons a l ih =>
      obtain ⟨b, first⟩ := each a List.mem_cons_self
      obtain ⟨bs, rest⟩ := ih fun c listed => each c (List.mem_cons_of_mem a listed)
      exact ⟨b :: bs, by rw [List.mapM_cons, first, rest]; rfl⟩

variable {C : Crypto}

/-- A party whose fees could be reserved can list its inputs. -/
theorem getUnsignedTxInputs_of_reserved {p : PartyParams} {feeRatePerVb extraFee : ℕ}
    {reserved : TxOut × ℕ × ℕ} (h : p.getChangeOutputAndFees feeRatePerVb extraFee = .ok reserved)
    (sequence : ℕ) : ∃ txIns, p.getUnsignedTxInputsAndSerialIds sequence = .ok txIns := by
  obtain ⟨_, weighed, _⟩ := bind_eq_ok.mp h
  have scripts := redeemScripts_of_weight weighed
  obtain ⟨txIns, listed⟩ : ∃ txIns, (p.inputs.mapM fun input => do
      let scriptSig ← redeemScriptToScriptSig input.redeemScript
      pure { previousOutput := input.outpoint, scriptSig, sequence, witness := [] : TxIn }) =
        .ok txIns := by
    apply mapM_ok_of_forall
    intro input member
    obtain ⟨scriptSig, signed⟩ := scripts input member
    exact ⟨_, by rw [signed]; rfl⟩
  exact ⟨(txIns, p.inputs.map TxInputInfo.serialId), by
    rw [PartyParams.getUnsignedTxInputsAndSerialIds, listed]; rfl⟩

/-- A transaction of the escrow: its two outputs and its inputs' total. -/
theorem createEscrowTransaction_ok {offerParams acceptParams : PartyParams}
    {feeRatePerVb fundLockTime serialId extraFee : ℕ} {borrowerPreimage : Uint128}
    {tx : Transaction} {script : Bytes}
    (h : createEscrowTransaction C offerParams acceptParams feeRatePerVb fundLockTime serialId
      extraFee borrowerPreimage = .ok (tx, script)) :
    script = Script.toBytes (escrowScript acceptParams.fundPubkey offerParams.fundPubkey
        (C.sha256 borrowerPreimage.toBeBytes)) ∧
      ∃ change fundFee cetFee value,
        acceptParams.getChangeOutputAndFees feeRatePerVb extraFee =
          .ok (change, fundFee, cetFee) ∧
        tx.output = [⟨value, toP2wsh C script⟩, change] ∧
        value + change.value + fundFee + cetFee + extraFee =
          offerParams.inputAmount + acceptParams.inputAmount + 100 := by
  simp only [createEscrowTransaction, checkedAdd, amountAdd, amountSub, bind_eq_ok, add_eq_ok,
    sub_eq_ok, pure_eq_ok, Except.ok.injEq, Prod.exists, Prod.mk.injEq] at h
  obtain ⟨change, fundFee, cetFee, reserved, v₀, ⟨_, v₀Is⟩, v₁, ⟨le₁, v₁Is⟩, v₂, ⟨le₂, v₂Is⟩, v₃,
    ⟨le₃, v₃Is⟩, v₄, ⟨le₄, v₄Is⟩, v₅, ⟨_, v₅Is⟩, txIns, ids, _, txIs, scriptIs⟩ := h
  refine ⟨scriptIs.symm, change, fundFee, cetFee, v₅, reserved, ?_, by omega⟩
  rw [← txIs, ← scriptIs]
  rfl

/-- The escrow transaction is built when the fees are reserved and cover what its
output is raised by. -/
theorem createEscrowTransaction_exists {offerParams acceptParams : PartyParams}
    {feeRatePerVb fundLockTime serialId extraFee fundFee cetFee : ℕ} {borrowerPreimage : Uint128}
    {change : TxOut}
    (reserved : acceptParams.getChangeOutputAndFees feeRatePerVb extraFee =
      .ok (change, fundFee, cetFee))
    (fits : offerParams.inputAmount + acceptParams.inputAmount < u64Limit)
    (covers : 100 ≤ fundFee + cetFee + extraFee) :
    ∃ built, createEscrowTransaction C offerParams acceptParams feeRatePerVb fundLockTime serialId
      extraFee borrowerPreimage = .ok built := by
  have spent := getChangeOutputAndFees_ok reserved
  obtain ⟨txIns, listed⟩ := getUnsignedTxInputs_of_reserved reserved (getSequence fundLockTime)
  simp (disch := omega) only [createEscrowTransaction, reserved, ok_bind, checkedAdd, amountAdd,
    amountSub, Checked.add, fit_of_lt, sub_of_le, listed]
  exact ⟨_, rfl⟩

/-! The transactions that spend the collateral output. -/

/-- What a transaction pays out. -/
def Transaction.outputValue (tx : Transaction) : ℕ := (tx.output.map TxOut.value).sum

/-- The CET pays both parties their payouts, less an output under the dust limit. -/
def PaysOut (offerParams acceptParams : PartyParams) (cet : Transaction) (payout : Payout) : Prop :=
  cet.output.Perm (discardDust
    [⟨payout.offer, offerParams.payoutScriptPubkey⟩,
      ⟨payout.accept, acceptParams.payoutScriptPubkey⟩] dustLimit)

theorem discardDust_value_le (outputs : List TxOut) (limit : ℕ) :
    ((discardDust outputs limit).map TxOut.value).sum ≤ (outputs.map TxOut.value).sum := by
  induction outputs with
  | nil => exact le_rfl
  | cons output outputs ih =>
      rw [discardDust, List.filter_cons]
      split
      · simp only [List.map_cons, List.sum_cons]
        exact Nat.add_le_add_left ih _
      · rw [List.map_cons, List.sum_cons]
        exact ih.trans (Nat.le_add_left _ _)

theorem PaysOut.outputValue_le {offerParams acceptParams : PartyParams} {cet : Transaction}
    {payout : Payout} (pays : PaysOut offerParams acceptParams cet payout) :
    cet.outputValue ≤ payout.offer + payout.accept := by
  rw [Transaction.outputValue, (pays.map TxOut.value).sum_nat]
  exact (discardDust_value_le _ _).trans (by simp)

theorem createCet_pays (offerParams acceptParams : PartyParams) (fundTxIn : TxIn)
    (lockTime : ℕ) (payout : Payout) :
    PaysOut offerParams acceptParams
      (createCet ⟨payout.offer, offerParams.payoutScriptPubkey⟩ offerParams.payoutSerialId
        ⟨payout.accept, acceptParams.payoutScriptPubkey⟩ acceptParams.payoutSerialId fundTxIn
        lockTime) payout := by
  unfold PaysOut createCet
  dsimp only
  split
  · exact List.Perm.refl _
  · exact (List.Perm.swap _ _ _).filter _

theorem createCollateralTransaction_eq_ok {borrower lender : PublicKey} {amount : ℕ}
    {escrowInput : TxIn} {lenderHash : Bytes32} {tx : Transaction} {script : Bytes} :
    createCollateralTransaction C borrower lender amount escrowInput lenderHash =
        .ok (tx, script) ↔
      166 ≤ amount ∧
        script = Script.toBytes (makeCollateralRedeemscript borrower lender lenderHash) ∧
        tx = { lockTime := 0, input := [escrowInput],
               output := [⟨amount - 166, toP2wsh C script⟩] } := by
  simp only [createCollateralTransaction, amountSub, bind_eq_ok, sub_eq_ok, pure_eq_ok,
    Except.ok.injEq, Prod.mk.injEq]
  constructor
  · intro ⟨paid, ⟨enough, paidIs⟩, txIs, scriptIs⟩
    refine ⟨enough, scriptIs.symm, ?_⟩
    rw [← txIs, ← scriptIs, paidIs]
  · intro ⟨enough, scriptIs, txIs⟩
    refine ⟨amount - 166, ⟨enough, rfl⟩, ?_, scriptIs.symm⟩
    rw [txIs, scriptIs]

/-- The transactions over a collateral output exist exactly when every payout is
the parties' total and the collateral transaction has an input. -/
theorem createLoanExpirationDlcTransactions_eq_ok {offerParams acceptParams : PartyParams}
    {payouts : List Payout} {refundLockTime cetLockTime : ℕ} {collateralTx : Transaction}
    {script : Bytes} {txs : DlcTransactions} :
    createLoanExpirationDlcTransactions C offerParams acceptParams payouts refundLockTime
        cetLockTime collateralTx script = .ok txs ↔
      offerParams.collateral + acceptParams.collateral < u64Limit ∧
        (∀ o ∈ payouts, o.offer + o.accept = offerParams.collateral + acceptParams.collateral) ∧
        0 < collateralTx.input.length ∧
        txs = {
          fund := { collateralTx with version := 2, lockTime := 0 }.setWitness 0 []
          cets := createCets
            { previousOutput := ⟨collateralTx.computeTxid C, 0⟩, scriptSig := []
              sequence := getSequence cetLockTime, witness := [] }
            offerParams.payoutScriptPubkey offerParams.payoutSerialId
            acceptParams.payoutScriptPubkey acceptParams.payoutSerialId payouts cetLockTime
          refund := createRefundTransaction
            ⟨offerParams.collateral, offerParams.payoutScriptPubkey⟩
            ⟨acceptParams.collateral, acceptParams.payoutScriptPubkey⟩
            { previousOutput := ⟨collateralTx.computeTxid C, 0⟩, scriptSig := []
              sequence := enableLocktime, witness := [] } refundLockTime
          fundingScriptPubkey := script } := by
  simp only [createLoanExpirationDlcTransactions, createCetsAndRefundTx, bind_eq_ok, checkedAdd,
    add_eq_ok, ensure_eq_ok, pure_eq_ok, Except.ok.injEq]
  constructor
  · intro ⟨_, ⟨_, ⟨limit, rfl⟩, _, balanced, rfl⟩, _, inputs, txsIs⟩
    exact ⟨limit, fun o listed => (balanced o listed).2.symm, inputs, txsIs.symm⟩
  · intro ⟨limit, balanced, inputs, txsIs⟩
    refine ⟨_, ⟨_, ⟨limit, rfl⟩, (), ?_, rfl⟩, (), inputs, txsIs.symm⟩
    intro o listed
    have total := balanced o listed
    exact ⟨by omega, total.symm⟩

/-- An escrow output that exceeds the parties' collateral by the fee of the
collateral transaction covers everything built on it. -/
theorem collateral_chain {offerParams acceptParams : PartyParams} {payouts : List Payout}
    {value : ℕ} (refundLockTime cetLockTime : ℕ) (lenderHash : Bytes32) (escrowInput : TxIn)
    (limit : offerParams.collateral + acceptParams.collateral < u64Limit)
    (balanced : ∀ o ∈ payouts,
      o.offer + o.accept = offerParams.collateral + acceptParams.collateral)
    (covers : offerParams.collateral + acceptParams.collateral + 166 ≤ value) :
    ∃ collateralTx collateralScript txs,
      createCollateralTransaction C acceptParams.fundPubkey offerParams.fundPubkey value
        escrowInput lenderHash = .ok (collateralTx, collateralScript) ∧
      collateralTx.outputValue ≤ value ∧
      createLoanExpirationDlcTransactions C offerParams acceptParams payouts refundLockTime
        cetLockTime collateralTx collateralScript = .ok txs ∧
      txs.refund.outputValue ≤ collateralTx.outputValue ∧
      (∀ cet ∈ txs.cets, cet.outputValue ≤ collateralTx.outputValue) ∧
      List.Forall₂ (PaysOut offerParams acceptParams) txs.cets payouts := by
  refine ⟨_, _, _, createCollateralTransaction_eq_ok.mpr ⟨by omega, rfl, rfl⟩, ?_, createLoanExpirationDlcTransactions_eq_ok.mpr
    ⟨limit, balanced, Nat.one_pos, rfl⟩, ?_, ?_, ?_⟩
  · simp [Transaction.outputValue]
  · refine (discardDust_value_le _ _).trans ?_
    simp only [Transaction.outputValue, List.map_cons, List.map_nil, List.sum_cons, List.sum_nil]
    omega
  · intro cet listed
    obtain ⟨payout, paid, rfl⟩ := List.mem_map.mp listed
    have total := balanced payout paid
    apply (createCet_pays offerParams acceptParams _ _ payout).outputValue_le.trans
    simp only [Transaction.outputValue, List.map_cons, List.map_nil, List.sum_cons, List.sum_nil]
    omega
  · rw [createCets, List.forall₂_map_left_iff]
    exact List.forall₂_same.mpr fun payout _ => createCet_pays offerParams acceptParams _ _ payout

/-- A lender as `get_lender_party_params` builds it. -/
def sampleLenderParams : PartyParams :=
  { sampleOffer with inputs := [], inputAmount := 0, collateral := 0 }

end P2PLending.Dlc
