import P2PLending.Dlc.PartyFees

/-! What the transactions of a loan pay. The collateral transaction leaves 166 satoshi at
every rate, and the escrow and the collateral transaction keep outputs that the other
builders discard. -/

namespace P2PLending.Dlc
open Checked

variable {C : Crypto}

/-! The values that the builders work out. -/

/-- The escrow's output: the collateral, its fee and 200 satoshi, over what the lender puts in.
The borrower's CET fee is not part of it. -/
def escrowValue (offerParams acceptParams : PartyParams) (feeRatePerVb : ℕ) : ℕ :=
  offerParams.inputAmount + acceptParams.collateral +
    feeOf PartyParams.totalCollateralWeight feeRatePerVb + 200

theorem escrow_outputs {offerParams acceptParams : PartyParams}
    {feeRatePerVb fundLockTime serialId extraFee : ℕ} {borrowerPreimage : Uint128}
    {tx : Transaction} {script : Bytes}
    (built : createEscrowTransaction C offerParams acceptParams feeRatePerVb fundLockTime serialId
      extraFee borrowerPreimage = .ok (tx, script)) :
    acceptParams.deducted feeRatePerVb extraFee ≤ acceptParams.inputAmount ∧
      tx.output =
        [⟨escrowValue offerParams acceptParams feeRatePerVb, toP2wsh C script⟩,
          ⟨acceptParams.inputAmount - acceptParams.deducted feeRatePerVb extraFee,
            acceptParams.changeScriptPubkey⟩] := by
  obtain ⟨_, change, fundFee, cetFee, value, reserved, outputs, balance⟩ :=
    createEscrowTransaction_ok built
  obtain ⟨_, _, covered, amounts⟩ := PartyParams.getChangeOutputAndFees_eq_ok.mp reserved
  simp only [Prod.mk.injEq] at amounts
  obtain ⟨rfl, rfl, rfl⟩ := amounts
  refine ⟨covered, ?_⟩
  have valueIs : value = escrowValue offerParams acceptParams feeRatePerVb := by
    dsimp only at balance
    have deducted := covered
    simp only [PartyParams.deducted, PartyParams.requiredFunds] at balance deducted
    unfold escrowValue
    omega
  rw [outputs, valueIs]

theorem collateralWeight_fee (feeRatePerVb : ℕ) :
    feeOf PartyParams.totalCollateralWeight feeRatePerVb = 114 * feeRatePerVb := by
  have weight : f64OfUsize PartyParams.totalCollateralWeight = 456 := by decide +kernel
  rw [feeOf, weight]

/-- What a payout loses when its outputs below the dust limit are discarded. -/
def dropped (payout : Payout) : ℕ :=
  (if payout.offer < dustLimit then payout.offer else 0) +
    if payout.accept < dustLimit then payout.accept else 0

theorem discardDust_value (offer accept : TxOut) :
    ((discardDust [offer, accept] dustLimit).map TxOut.value).sum +
      dropped ⟨offer.value, accept.value⟩ = offer.value + accept.value := by
  have kept : ∀ o : TxOut, ((discardDust [o] dustLimit).map TxOut.value).sum +
      (if o.value < dustLimit then o.value else 0) = o.value := by
    intro o
    by_cases dust : o.value < dustLimit
    · simp [discardDust, dust]
    · simp [discardDust, dust, Nat.not_lt.mp dust]
  have first := kept offer
  have second := kept accept
  have apart : discardDust [offer, accept] dustLimit =
      discardDust [offer] dustLimit ++ discardDust [accept] dustLimit := by
    simp [discardDust, List.filter_cons]
    split <;> rfl
  rw [apart, List.map_append, List.sum_append, dropped]
  dsimp only
  omega

theorem PaysOut.outputValue {offerParams acceptParams : PartyParams} {cet : Transaction}
    {payout : Payout} (pays : PaysOut offerParams acceptParams cet payout) :
    cet.outputValue + dropped payout = payout.offer + payout.accept := by
  rw [Transaction.outputValue, (pays.map TxOut.value).sum_nat]
  exact discardDust_value _ _

/-! The fees that are reserved, and those that are paid. -/

section Fees
variable {offerParams acceptParams : PartyParams} {feeRatePerVb extraFee : ℕ}

/-- A transaction leaves a fee of what it spends. -/
def Leaves (tx : Transaction) (spent fee : ℕ) : Prop := tx.outputValue + fee ≤ spent

/-- The collateral transaction, the CETs and the refund leave the fees that the borrower
reserved for them. -/
structure PaysReserved (acceptParams : PartyParams) (feeRatePerVb extraFee : ℕ) (spent : TxOut)
    (collateralTx : Transaction) (txs : DlcTransactions) : Prop where
  collateral : ∀ fee, weightToFee PartyParams.totalCollateralWeight feeRatePerVb = .ok fee →
    Leaves collateralTx spent.value fee
  cets : ∀ change fundFee cetFee,
    acceptParams.getChangeOutputAndFees feeRatePerVb extraFee = .ok (change, fundFee, cetFee) →
      ∀ cet ∈ txs.cets, Leaves cet collateralTx.outputValue cetFee
  refund : ∀ change fundFee cetFee,
    acceptParams.getChangeOutputAndFees feeRatePerVb extraFee = .ok (change, fundFee, cetFee) →
      Leaves txs.refund collateralTx.outputValue cetFee

/-- The collateral output covers a payout and the fee for it. -/
def Covers (offerParams acceptParams : PartyParams) (feeRatePerVb : ℕ) (payout : Payout) : Prop :=
  offerParams.collateral + feeOf acceptParams.totalCetWeight feeRatePerVb ≤
    offerParams.inputAmount + 114 * feeRatePerVb + 34 + dropped payout

instance (offerParams acceptParams : PartyParams) (feeRatePerVb : ℕ) (payout : Payout) :
    Decidable (Covers offerParams acceptParams feeRatePerVb payout) :=
  inferInstanceAs (Decidable (_ ≤ _))

/-- What the refund pays. -/
def refundPayout (offerParams acceptParams : PartyParams) : Payout :=
  ⟨offerParams.collateral, acceptParams.collateral⟩

theorem leaves_iff_covers {tx collateralTx : Transaction} {payout : Payout}
    (paid : tx.outputValue + dropped payout = offerParams.collateral + acceptParams.collateral)
    (spent : collateralTx.outputValue =
      escrowValue offerParams acceptParams feeRatePerVb - 166) :
    Leaves tx collateralTx.outputValue (feeOf acceptParams.totalCetWeight feeRatePerVb) ↔
      Covers offerParams acceptParams feeRatePerVb payout := by
  rw [Leaves, spent, Covers, escrowValue, collateralWeight_fee]
  omega

/-- The collateral transaction leaves 166 satoshi, which is its reserved fee up to a rate of 1. -/
theorem leaves_collateral_iff {borrower lender : PublicKey} {amount : ℕ} {escrowInput : TxIn}
    {lenderHash : Bytes32} {collateralTx : Transaction} {script : Bytes}
    (moved : createCollateralTransaction C borrower lender amount escrowInput lenderHash =
      .ok (collateralTx, script)) :
    Leaves collateralTx amount (feeOf PartyParams.totalCollateralWeight feeRatePerVb) ↔
      feeRatePerVb ≤ 1 := by
  obtain ⟨enough, _, rfl⟩ := createCollateralTransaction_eq_ok.mp moved
  rw [collateralWeight_fee]
  simp only [Leaves, Transaction.outputValue, List.map_cons, List.map_nil, List.sum_cons,
    List.sum_nil]
  omega

/-- The reserved fees are paid up to a rate of 1, if the collateral output covers the CETs and
the refund. -/
theorem paysReserved_iff {fundLockTime serialId refundLockTime cetLockTime : ℕ}
    {borrowerPreimage : Uint128} {payouts : List Payout} {borrower lender : PublicKey}
    {escrowInput : TxIn} {lenderHash : Bytes32} {escrow collateralTx : Transaction}
    {escrowScript collateralScript : Bytes} {spent : TxOut} {txs : DlcTransactions}
    (funded : createEscrowTransaction C offerParams acceptParams feeRatePerVb fundLockTime serialId
      extraFee borrowerPreimage = .ok (escrow, escrowScript))
    (first : escrow.output[0]? = some spent)
    (moved : createCollateralTransaction C borrower lender spent.value escrowInput lenderHash =
      .ok (collateralTx, collateralScript))
    (built : createLoanExpirationDlcTransactions C offerParams acceptParams payouts refundLockTime
      cetLockTime collateralTx collateralScript = .ok txs) :
    PaysReserved acceptParams feeRatePerVb extraFee spent collateralTx txs ↔
      feeRatePerVb ≤ 1 ∧
        ∀ payout ∈ refundPayout offerParams acceptParams :: payouts,
          Covers offerParams acceptParams feeRatePerVb payout := by
  obtain ⟨_, _, _, _, _, reserved, _⟩ := createEscrowTransaction_ok funded
  obtain ⟨fits, valid, covered, amounts⟩ := PartyParams.getChangeOutputAndFees_eq_ok.mp reserved
  rw [amounts] at reserved
  have spentIs : spent.value = escrowValue offerParams acceptParams feeRatePerVb := by
    rw [(escrow_outputs funded).2] at first
    rw [← Option.some.inj first]
  have rate : Leaves collateralTx spent.value
      (feeOf PartyParams.totalCollateralWeight feeRatePerVb) ↔ feeRatePerVb ≤ 1 :=
    leaves_collateral_iff moved
  obtain ⟨_, rfl, rfl⟩ := createCollateralTransaction_eq_ok.mp moved
  obtain ⟨_, balanced, _, rfl⟩ := createLoanExpirationDlcTransactions_eq_ok.mp built
  have output : Transaction.outputValue { lockTime := 0, input := [escrowInput], output :=
      [⟨spent.value - 166, toP2wsh C (Script.toBytes
        (makeCollateralRedeemscript borrower lender lenderHash))⟩] } =
      escrowValue offerParams acceptParams feeRatePerVb - 166 := by
    simp [Transaction.outputValue, spentIs]
  have collateralFee : feeOf PartyParams.totalCollateralWeight feeRatePerVb < u64Limit := by
    have required := fits.required
    unfold PartyParams.requiredFunds at required
    omega
  have refunded : ∀ input lockTime, (createRefundTransaction
      ⟨offerParams.collateral, offerParams.payoutScriptPubkey⟩
      ⟨acceptParams.collateral, acceptParams.payoutScriptPubkey⟩ input lockTime).outputValue +
        dropped (refundPayout offerParams acceptParams) =
      offerParams.collateral + acceptParams.collateral :=
    fun _ _ => discardDust_value _ _
  have paid : ∀ payout ∈ payouts, ∀ input lockTime, (createCet
      ⟨payout.offer, offerParams.payoutScriptPubkey⟩ offerParams.payoutSerialId
      ⟨payout.accept, acceptParams.payoutScriptPubkey⟩ acceptParams.payoutSerialId input
      lockTime).outputValue + dropped payout =
      offerParams.collateral + acceptParams.collateral := by
    intro payout listed input lockTime
    rw [← balanced payout listed]
    exact (createCet_pays offerParams acceptParams input lockTime payout).outputValue
  rw [List.forall_mem_cons]
  constructor
  · intro pays
    refine ⟨rate.mp (pays.collateral _ (weightToFee_of_lt collateralFee)), ?_,
      fun payout listed => ?_⟩
    · exact (leaves_iff_covers (refunded _ _) output).mp (pays.refund _ _ _ reserved)
    · exact (leaves_iff_covers (paid payout listed _ _) output).mp
        (pays.cets _ _ _ reserved _ (List.mem_map_of_mem listed))
  · rintro ⟨low, refund, each⟩
    constructor
    · intro fee answer
      rw [(weightToFee_eq_ok.mp answer).2]
      exact rate.mpr low
    · intro change fundFee cetFee answer cet listed
      cases reserved.symm.trans answer
      obtain ⟨payout, listed', rfl⟩ := List.mem_map.mp listed
      exact (leaves_iff_covers (paid payout listed' _ _) output).mpr (each payout listed')
    · intro change fundFee cetFee answer
      cases reserved.symm.trans answer
      exact (leaves_iff_covers (refunded _ _) output).mpr refund

theorem dropped_le (payout : Payout) : dropped payout ≤ 2 * dustLimit := by
  unfold dropped
  split_ifs <;> omega

/-- With a lender that puts nothing in, a CET and its fee are covered at a rate of 1 as long as
the borrower's payout script is short. -/
theorem covers_noFunds {payout : Payout}
    (noFunds : offerParams.inputAmount = 0 ∧ offerParams.collateral = 0) :
    Covers offerParams acceptParams 1 payout ↔
      acceptParams.payoutScriptPubkey.length ≤ 85 + dropped payout := by
  have dust := dropped_le payout
  have limit : dustLimit = 1000 := rfl
  have weight : acceptParams.totalCetWeight = 250 + acceptParams.payoutScriptPubkey.length * 4 := rfl
  rw [Covers, feeOf, Nat.mul_one, noFunds.1, noFunds.2, weight]
  by_cases short : acceptParams.payoutScriptPubkey.length ≤ 4000
  · have exact : f64OfUsize (250 + acceptParams.payoutScriptPubkey.length * 4) =
        250 + acceptParams.payoutScriptPubkey.length * 4 := by
      apply f64OfUsize_small
      have bound : Nat.log2 (250 + acceptParams.payoutScriptPubkey.length * 4) < 53 := by
        rw [Nat.log2_lt (by omega)]
        omega
      omega
    rw [exact]
    omega
  · have heavy := le_f64OfUsize (m := 16250)
      (n := 250 + acceptParams.payoutScriptPubkey.length * 4) (by omega) (by decide)
    omega

/-- What holds of the transactions of the sample loan at a rate. -/
def SampleLoan (feeRatePerVb : ℕ) (P : TxOut → Transaction → DlcTransactions → Prop) : Prop :=
  ∃ escrow escrowScript spent collateralTx collateralScript txs,
    createEscrowTransaction sampleCrypto sampleLenderParams sampleAccept feeRatePerVb 100 0 300
        samplePreimage = .ok (escrow, escrowScript) ∧
      escrow.output[0]? = some spent ∧
      createCollateralTransaction sampleCrypto sampleAccept.fundPubkey sampleLenderParams.fundPubkey
        spent.value ⟨⟨0, 0⟩, [], 0xffffffff, []⟩ 5 = .ok (collateralTx, collateralScript) ∧
      createLoanExpirationDlcTransactions sampleCrypto sampleLenderParams sampleAccept
        [⟨100000000, 0⟩, ⟨0, 100000000⟩] 100 10 collateralTx collateralScript = .ok txs ∧
      P spent collateralTx txs

theorem sampleLoan_of {feeRatePerVb fundFee cetFee : ℕ} {change : TxOut}
    {P : TxOut → Transaction → DlcTransactions → Prop}
    (reserved : sampleAccept.getChangeOutputAndFees feeRatePerVb 300 =
      .ok (change, fundFee, cetFee))
    (holds : ∀ {escrow escrowScript spent collateralTx collateralScript txs},
      createEscrowTransaction sampleCrypto sampleLenderParams sampleAccept feeRatePerVb 100 0 300
        samplePreimage = .ok (escrow, escrowScript) →
      escrow.output[0]? = some spent →
      createCollateralTransaction sampleCrypto sampleAccept.fundPubkey
        sampleLenderParams.fundPubkey spent.value ⟨⟨0, 0⟩, [], 0xffffffff, []⟩ 5 =
          .ok (collateralTx, collateralScript) →
      createLoanExpirationDlcTransactions sampleCrypto sampleLenderParams sampleAccept
        [⟨100000000, 0⟩, ⟨0, 100000000⟩] 100 10 collateralTx collateralScript = .ok txs →
      P spent collateralTx txs) : SampleLoan feeRatePerVb P := by
  have balanced : ∀ o ∈ [(⟨100000000, 0⟩ : Payout), ⟨0, 100000000⟩],
      o.offer + o.accept = sampleLenderParams.collateral + sampleAccept.collateral := by decide
  have covers : 100 ≤ fundFee + cetFee + 300 := by omega
  obtain ⟨⟨escrow, escrowScript⟩, funded⟩ : ∃ built, createEscrowTransaction sampleCrypto
      sampleLenderParams sampleAccept feeRatePerVb 100 0 300 samplePreimage = .ok built :=
    createEscrowTransaction_exists reserved (by decide) covers
  have outputs := (escrow_outputs funded).2
  have enough : sampleLenderParams.collateral + sampleAccept.collateral + 166 ≤
      escrowValue sampleLenderParams sampleAccept feeRatePerVb := by
    have amounts : sampleLenderParams.collateral = 0 ∧ sampleLenderParams.inputAmount = 0 := by
      decide
    rw [escrowValue, amounts.1, amounts.2]
    omega
  obtain ⟨collateralTx, collateralScript, txs, moved, _, built, _⟩ :=
    collateral_chain (C := sampleCrypto) 100 10 5 ⟨⟨0, 0⟩, [], 0xffffffff, []⟩ (by decide) balanced
      enough
  have first : escrow.output[0]? =
      some ⟨escrowValue sampleLenderParams sampleAccept feeRatePerVb,
        toP2wsh sampleCrypto escrowScript⟩ := by
    rw [outputs]
    rfl
  exact ⟨escrow, escrowScript, _, collateralTx, collateralScript, txs, funded, first, moved,
    built, holds funded first moved built⟩

end Fees

theorem paysReserved_iff_sample : SampleLoan 1 (PaysReserved sampleAccept 1 300) := by
  have reserved : sampleAccept.getChangeOutputAndFees 1 300 =
      .ok (⟨899999252, sampleSpk₂⟩, 149, 85) := by decide +kernel
  refine sampleLoan_of reserved fun funded first moved built =>
    (paysReserved_iff funded first moved built).mpr ⟨le_rfl, ?_⟩
  decide +kernel

/-- At a rate of 4 the collateral transaction has 456 satoshi reserved and leaves 166. -/
theorem collateral_fee_fixed :
    SampleLoan 4 fun spent collateralTx txs =>
      weightToFee PartyParams.totalCollateralWeight 4 = .ok 456 ∧
        collateralTx.outputValue + 166 = spent.value ∧
        ¬ PaysReserved sampleAccept 4 300 spent collateralTx txs := by
  have reserved : sampleAccept.getChangeOutputAndFees 4 300 =
      .ok (⟨899998208, sampleSpk₂⟩, 596, 340) := by decide +kernel
  have fee : weightToFee PartyParams.totalCollateralWeight 4 = .ok 456 := by decide +kernel
  refine sampleLoan_of reserved fun _ _ moved _ => ⟨fee, ?_, fun pays => ?_⟩
  · obtain ⟨enough, _, rfl⟩ := createCollateralTransaction_eq_ok.mp moved
    simp only [Transaction.outputValue, List.map_cons, List.map_nil, List.sum_cons, List.sum_nil]
    omega
  · have left := pays.collateral _ fee
    rw [(weightToFee_eq_ok.mp fee).2] at left
    exact absurd ((leaves_collateral_iff moved).mp left) (by decide)

/-! Dust. The fund transaction, the CETs and the refund pass through `discardDust`; the escrow
and the collateral transaction keep whatever they are given. -/

section Dust

/-- A transaction pays the outputs it was given, except for those below the dust limit. -/
def PaysAboveDust (tx : Transaction) (given : List TxOut) : Prop :=
  tx.output.Perm (given.filter fun o => dustLimit ≤ o.value)

theorem paysAboveDust_of_perm {tx : Transaction} {given outputs : List TxOut}
    (same : outputs.Perm given) (filtered : tx.output = discardDust outputs dustLimit) :
    PaysAboveDust tx given := by
  rw [PaysAboveDust, filtered]
  exact same.filter _

theorem paysAboveDust_unfiltered {tx : Transaction} {given : List TxOut} (all : tx.output = given) :
    PaysAboveDust tx given ↔ ∀ o ∈ given, dustLimit ≤ o.value := by
  rw [PaysAboveDust, all]
  constructor
  · intro same o listed
    have kept := List.of_mem_filter (same.mem_iff.mp listed)
    exact of_decide_eq_true kept
  · intro each
    rw [List.filter_eq_self.mpr fun o listed => decide_eq_true (each o listed)]

theorem orderBySerialIds_perm {α : Type} {inputs : List α} {ids : List ℕ}
    (same : inputs.length = ids.length) : (orderBySerialIds inputs ids).Perm inputs := by
  have sorted : (orderBySerialIds inputs ids).Perm ((ids.zip inputs).map Prod.snd) :=
    (List.mergeSort_perm _ _).map Prod.snd
  rwa [List.map_snd_zip same.le] at sorted

theorem createCets_paysAboveDust {fundTxInput : TxIn} {offerSpk acceptSpk : Bytes}
    {offerSerialId acceptSerialId lockTime : ℕ} {payouts : List Payout} :
    List.Forall₂ (fun cet payout =>
        PaysAboveDust cet [⟨payout.offer, offerSpk⟩, ⟨payout.accept, acceptSpk⟩])
      (createCets fundTxInput offerSpk offerSerialId acceptSpk acceptSerialId payouts lockTime)
      payouts := by
  rw [createCets, List.forall₂_map_left_iff, List.forall₂_same]
  intro payout _
  by_cases before : offerSerialId < acceptSerialId
  · exact paysAboveDust_of_perm (List.Perm.refl _) (by rw [createCet, if_pos before])
  · exact paysAboveDust_of_perm (List.Perm.swap _ _ _) (by rw [createCet, if_neg before])

/-- No transaction of those that are built pays dust, exactly when the escrow and the collateral
transaction are given none. -/
theorem paysAboveDust_iff {offerParams acceptParams : PartyParams}
    {feeRatePerVb fundLockTime serialId extraFee : ℕ} {borrowerPreimage : Uint128}
    {escrow collateralTx refund : Transaction} {escrowScript collateralScript : Bytes}
    {borrower lender : PublicKey} {collateralAmount : ℕ} {escrowInput : TxIn}
    {lenderHash : Bytes32} {prevOutpoint : OutPoint} {payouts : List Payout}
    {refundLockTime cetLockTime : ℕ} {cetNsequence : Option ℕ} {cets : List Transaction}
    (fundingScript : Bytes) (outputAmount : ℕ) (offerInputs acceptInputs : List TxIn)
    (offerIds acceptIds : List ℕ) (offerChange acceptChange : TxOut)
    (offerChangeId acceptChangeId fundOutputId lockTime : ℕ)
    (escrowBuilt : createEscrowTransaction C offerParams acceptParams feeRatePerVb fundLockTime
      serialId extraFee borrowerPreimage = .ok (escrow, escrowScript))
    (collateralBuilt : createCollateralTransaction C borrower lender collateralAmount escrowInput
      lenderHash = .ok (collateralTx, collateralScript))
    (cetsBuilt : createCetsAndRefundTx offerParams acceptParams prevOutpoint payouts refundLockTime
      cetLockTime cetNsequence = .ok (cets, refund)) :
    (PaysAboveDust
          (createFundingTransaction C fundingScript outputAmount offerInputs offerIds acceptInputs
            acceptIds offerChange offerChangeId acceptChange acceptChangeId fundOutputId lockTime)
          [⟨outputAmount, toP2wsh C fundingScript⟩, offerChange, acceptChange] ∧
        PaysAboveDust escrow
          [⟨escrowValue offerParams acceptParams feeRatePerVb, toP2wsh C escrowScript⟩,
            ⟨acceptParams.inputAmount - acceptParams.deducted feeRatePerVb extraFee,
              acceptParams.changeScriptPubkey⟩] ∧
        PaysAboveDust collateralTx [⟨collateralAmount - 166, toP2wsh C collateralScript⟩] ∧
        List.Forall₂ (fun cet payout => PaysAboveDust cet
          [⟨payout.offer, offerParams.payoutScriptPubkey⟩,
            ⟨payout.accept, acceptParams.payoutScriptPubkey⟩]) cets payouts ∧
        PaysAboveDust refund
          [⟨offerParams.collateral, offerParams.payoutScriptPubkey⟩,
            ⟨acceptParams.collateral, acceptParams.payoutScriptPubkey⟩]) ↔
      dustLimit ≤ escrowValue offerParams acceptParams feeRatePerVb ∧
        acceptParams.deducted feeRatePerVb extraFee + dustLimit ≤ acceptParams.inputAmount ∧
        dustLimit + 166 ≤ collateralAmount := by
  obtain ⟨covered, escrowOutputs⟩ := escrow_outputs escrowBuilt
  obtain ⟨enough, _, collateralIs⟩ := createCollateralTransaction_eq_ok.mp collateralBuilt
  have collateralOutputs : collateralTx.output =
      [⟨collateralAmount - 166, toP2wsh C collateralScript⟩] := by rw [collateralIs]
  have fundPays : PaysAboveDust
      (createFundingTransaction C fundingScript outputAmount offerInputs offerIds acceptInputs
        acceptIds offerChange offerChangeId acceptChange acceptChangeId fundOutputId lockTime)
      [⟨outputAmount, toP2wsh C fundingScript⟩, offerChange, acceptChange] :=
    paysAboveDust_of_perm (orderBySerialIds_perm rfl) rfl
  simp only [createCetsAndRefundTx, bind_eq_ok, ensure_eq_ok, pure_eq_ok, Except.ok.injEq,
    Prod.mk.injEq] at cetsBuilt
  obtain ⟨_, _, _, _, rfl, rfl⟩ := cetsBuilt
  have refundPays : PaysAboveDust
      (createRefundTransaction ⟨offerParams.collateral, offerParams.payoutScriptPubkey⟩
        ⟨acceptParams.collateral, acceptParams.payoutScriptPubkey⟩
        ⟨prevOutpoint, [], enableLocktime, []⟩ refundLockTime)
      [⟨offerParams.collateral, offerParams.payoutScriptPubkey⟩,
        ⟨acceptParams.collateral, acceptParams.payoutScriptPubkey⟩] :=
    paysAboveDust_of_perm (List.Perm.refl _) rfl
  have kept : dustLimit ≤ acceptParams.inputAmount - acceptParams.deducted feeRatePerVb extraFee ↔
      acceptParams.deducted feeRatePerVb extraFee + dustLimit ≤ acceptParams.inputAmount := by
    omega
  have moved : dustLimit ≤ collateralAmount - 166 ↔ dustLimit + 166 ≤ collateralAmount := by omega
  rw [paysAboveDust_unfiltered escrowOutputs, paysAboveDust_unfiltered collateralOutputs]
  simp only [fundPays, refundPays, createCets_paysAboveDust, List.forall_mem_cons,
    List.not_mem_nil, false_implies, implies_true, and_true, true_and, kept, moved, and_assoc]

end Dust

theorem paysAboveDust_iff_sample :
    ∃ escrow escrowScript collateralTx collateralScript cets refund,
      createEscrowTransaction sampleCrypto sampleLenderParams sampleAccept 4 100 0 300
          samplePreimage = .ok (escrow, escrowScript) ∧
        createCollateralTransaction sampleCrypto sampleKey₂ sampleKey₁ 100000656
          ⟨⟨0, 0⟩, [], 0xffffffff, []⟩ 5 = .ok (collateralTx, collateralScript) ∧
        createCetsAndRefundTx sampleLenderParams sampleAccept ⟨0, 0⟩
          [⟨100000000, 0⟩, ⟨0, 100000000⟩] 100 10 none = .ok (cets, refund) ∧
        PaysAboveDust escrow [⟨100000656, toP2wsh sampleCrypto escrowScript⟩,
          ⟨899998208, sampleSpk₂⟩] ∧
        PaysAboveDust collateralTx [⟨100000490, toP2wsh sampleCrypto collateralScript⟩] := by
  have reserved : sampleAccept.getChangeOutputAndFees 4 300 =
      .ok (⟨899998208, sampleSpk₂⟩, 596, 340) := by decide +kernel
  obtain ⟨⟨escrow, escrowScript⟩, escrowBuilt⟩ : ∃ built, createEscrowTransaction sampleCrypto
      sampleLenderParams sampleAccept 4 100 0 300 samplePreimage = .ok built :=
    createEscrowTransaction_exists reserved (by decide) (by decide)
  obtain ⟨collateralTx, collateralScript, collateralBuilt⟩ : ∃ tx script,
      createCollateralTransaction sampleCrypto sampleKey₂ sampleKey₁ 100000656
        ⟨⟨0, 0⟩, [], 0xffffffff, []⟩ 5 = .ok (tx, script) :=
    ⟨_, _, createCollateralTransaction_eq_ok.mpr ⟨by decide, rfl, rfl⟩⟩
  obtain ⟨cets, refund, cetsBuilt⟩ : ∃ cets refund, createCetsAndRefundTx sampleLenderParams
      sampleAccept ⟨0, 0⟩ [⟨100000000, 0⟩, ⟨0, 100000000⟩] 100 10 none = .ok (cets, refund) :=
    ⟨_, _, rfl⟩
  have standard := (paysAboveDust_iff [] 5000 [] [] [] [] ⟨0, []⟩ ⟨0, []⟩ 0 0 0 0 escrowBuilt
    collateralBuilt cetsBuilt).mpr ⟨by decide +kernel, by decide +kernel, by decide⟩
  have amounts : escrowValue sampleLenderParams sampleAccept 4 = 100000656 ∧
      sampleAccept.inputAmount - sampleAccept.deducted 4 300 = 899998208 := by decide +kernel
  rw [amounts.1, amounts.2] at standard
  exact ⟨escrow, escrowScript, collateralTx, collateralScript, cets, refund, escrowBuilt,
    collateralBuilt, cetsBuilt, standard.2.1, standard.2.2.1⟩

/-- A borrower whose coins exceed what is deducted by one satoshi. -/
def oneSatoshiChange : PartyParams := { sampleAccept with inputAmount := 100001793 }

theorem escrow_change_dust :
    ∃ escrow escrowScript,
      createEscrowTransaction sampleCrypto sampleLenderParams oneSatoshiChange 4 100 0 300
          samplePreimage = .ok (escrow, escrowScript) ∧
        ⟨1, sampleSpk₂⟩ ∈ escrow.output ∧ ∀ given, ¬ PaysAboveDust escrow given := by
  have reserved : oneSatoshiChange.getChangeOutputAndFees 4 300 =
      .ok (⟨1, sampleSpk₂⟩, 596, 340) := by decide +kernel
  obtain ⟨⟨escrow, escrowScript⟩, built⟩ : ∃ built, createEscrowTransaction sampleCrypto
      sampleLenderParams oneSatoshiChange 4 100 0 300 samplePreimage = .ok built :=
    createEscrowTransaction_exists reserved (by decide) (by decide)
  obtain ⟨_, change, _, _, _, reserved', outputs, _⟩ := createEscrowTransaction_ok built
  cases reserved.symm.trans reserved'
  have dust : ⟨1, sampleSpk₂⟩ ∈ escrow.output := by
    rw [outputs]
    simp
  refine ⟨escrow, escrowScript, built, dust, fun given pays => ?_⟩
  have kept := List.of_mem_filter (pays.mem_iff.mp dust)
  exact absurd kept (by decide)

end P2PLending.Dlc
