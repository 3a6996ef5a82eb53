import P2PLending.Manager.Acceptance
import P2PLending.Dlc.LoanValue

/-! The two acceptance stages against each other. The first leaves out what the
offer puts on the offering party's side, the second does not, so their payout sums
agree only when that is nothing; and the second asks the wallet once more for the
coins that the escrow has already spent. -/

namespace P2PLending.Manager
open Dlc Checked

variable {D : Descriptors} {C : Crypto}

/-! What a validated offer promises. -/

theorem payoutsSumTo_true {total : ℕ} {payouts : List Payout}
    (h : payoutsSumTo total payouts = .ok true) : ∀ p ∈ payouts, p.offer + p.accept = total := by
  induction payouts with
  | nil => exact List.forall_mem_nil _
  | cons p payouts ih =>
      simp only [payoutsSumTo, bind_eq_ok, ofDlc_eq_ok, amountAdd, add_eq_ok] at h
      obtain ⟨sum, ⟨_, rfl⟩, rest⟩ := h
      split at rest
      · rename_i agrees
        exact List.forall_mem_cons.mpr ⟨by omega, ih rest⟩
      · cases rest

theorem forM_ok {ε α : Type} {f : α → Except ε Unit} {l : List α} (h : l.forM f = .ok ()) :
    ∀ a ∈ l, f a = .ok () := by
  induction l with
  | nil => exact List.forall_mem_nil _
  | cons a l ih =>
      have passed : (f a >>= fun _ => l.forM f) = .ok () := h
      obtain ⟨_, first, rest⟩ := bind_eq_ok.mp passed
      exact List.forall_mem_cons.mpr ⟨first, ih rest⟩

/-- The payouts of every contract info sum to the total collateral. -/
theorem validate_payouts {offered : OfferedLoanContract D} (validated : offered.validate = .ok ())
    {info : D.ContractInfo} (listed : info ∈ offered.offeredContract.contractInfo) :
    ∃ payouts, D.getPayouts info offered.offeredContract.totalCollateral = .ok payouts ∧
      ∀ p ∈ payouts, p.offer + p.accept = offered.offeredContract.totalCollateral := by
  simp only [OfferedLoanContract.validate, OfferedContract.validate, bind_eq_ok, ensure_eq_ok]
    at validated
  obtain ⟨_, ⟨_, _, checked⟩, _⟩ := validated
  have passed := forM_ok checked info listed
  simp only [bind_eq_ok, ensure_eq_ok] at passed
  obtain ⟨_, _, payouts, paid, valid, sums, rfl⟩ := passed
  exact ⟨payouts, paid, payoutsSumTo_true sums⟩

/-! What the first stage leaves. -/

theorem getPartyParams_ok {env : AcceptEnvironment} {ownCollateral feeRate : ℕ}
    {signer : ContractSigner} {params : PartyParams} {inputs : List FundingInput}
    (h : getPartyParams env C ownCollateral feeRate signer = .ok (params, inputs)) :
    params.collateral = ownCollateral ∧ signer.publicKey = .ok params.fundPubkey ∧
      ∃ required, requiredAmount ownCollateral feeRate = .ok required := by
  simp only [getPartyParams, bind_eq_ok, Except.ok.injEq, Prod.exists, Prod.mk.injEq] at h
  obtain ⟨key, keyIs, _, _, _, _, required, asked, _, _, _, _, _, rfl, _⟩ := h
  exact ⟨rfl, keyIs, required, asked⟩

/-- The escrow's output: the offering party's inputs and the own share of the
collateral, with more than the fee of the collateral transaction. -/
theorem escrowTransaction_ok {env : AcceptEnvironment} {offered : OfferedContract D}
    {borrowerPreimage : Uint128} {tx : Transaction}
    (h : escrowTransaction env C offered borrowerPreimage = .ok tx) :
    offered.offerParams.collateral ≤ offered.totalCollateral ∧
      (∃ required, requiredAmount (offered.totalCollateral - offered.offerParams.collateral)
        offered.feeRatePerVb = .ok required) ∧
      ∃ output, tx.output[0]? = some output ∧
        offered.totalCollateral + 200 ≤ output.value + offered.offerParams.collateral := by
  simp only [escrowTransaction, bind_eq_ok, ofDlc_eq_ok, amountSub, sub_eq_ok, Except.ok.injEq,
    Prod.exists] at h
  obtain ⟨signer, _, _, ⟨share, rfl⟩, params, _, partyParams, escrow, script, built, rfl⟩ := h
  obtain ⟨collateral, _, asked⟩ := getPartyParams_ok partyParams
  obtain ⟨_, change, fundFee, cetFee, value, reserved, outputs, balance⟩ :=
    createEscrowTransaction_ok built
  have spent := getChangeOutputAndFees_ok reserved
  refine ⟨share, asked, ⟨value, toP2wsh C script⟩, by rw [outputs]; rfl, ?_⟩
  show offered.totalCollateral + 200 ≤ value + offered.offerParams.collateral
  rw [withheld, collateral] at spent
  omega

/-! The second stage. -/

/-- Everything but the wallet's choice of coins answers in the second stage. -/
structure Answers (env : AcceptEnvironment) (C : Crypto) (signer : ContractSigner)
    (feeRate : ℕ) : Prop where
  publicKey : ∃ key, signer.publicKey = .ok key
  secretKey : ∃ sk, signer.secretKey = .ok sk
  address : ∃ spk, env.getNewAddress = .ok spk
  changeAddress : ∃ spk, env.getNewChangeAddress = .ok spk
  coins : ∀ amount utxos, env.getUtxosForAmount amount feeRate = .ok utxos →
    ∃ selected, selectInputs env C 2 0 utxos = .ok selected

/-- The wallet has coins for a party's collateral and its fees. -/
def HasCoins (env : AcceptEnvironment) (ownCollateral feeRate : ℕ) : Prop :=
  ∃ required utxos, requiredAmount ownCollateral feeRate = .ok required ∧
    env.getUtxosForAmount required feeRate = .ok utxos

theorem getPartyParams_iff {env : AcceptEnvironment} {ownCollateral feeRate : ℕ}
    {signer : ContractSigner} (answers : Answers env C signer feeRate) :
    (∃ params, getPartyParams env C ownCollateral feeRate signer = .ok params) ↔
      HasCoins env ownCollateral feeRate := by
  constructor
  · rintro ⟨params, h⟩
    simp only [getPartyParams, bind_eq_ok, answered_eq_ok] at h
    obtain ⟨_, _, _, _, _, _, required, asked, utxos, chosen, _⟩ := h
    exact ⟨required, utxos, asked, chosen⟩
  · rintro ⟨required, utxos, asked, chosen⟩
    obtain ⟨key, keyIs⟩ := answers.publicKey
    obtain ⟨spk, spkIs⟩ := answers.address
    obtain ⟨changeSpk, changeSpkIs⟩ := answers.changeAddress
    obtain ⟨⟨inputs, total⟩, selected⟩ := answers.coins required utxos chosen
    simp only [getPartyParams, keyIs, spkIs, changeSpkIs, asked, chosen, selected, answered,
      ok_bind]
    exact ⟨_, rfl⟩

section Second
variable {env : AcceptEnvironment} {offered : OfferedLoanContract D} {escrowTxid : Bytes32}
  {borrowerHash : Bytes32} {borrowerPreimageBytes : Bytes} {signer : ContractSigner}

variable (borrowerHash borrowerPreimageBytes) in
/-- The collateral transaction exists whenever the escrow is known and pays its fee. -/
theorem borrowerCollateral_exists {escrowTx : Transaction} {output : TxOut}
    (answers : Answers env C signer offered.offeredContract.feeRatePerVb)
    (known : env.getTransaction escrowTxid = .ok escrowTx)
    (first : escrowTx.output[0]? = some output) (enough : 166 ≤ output.value) :
    ∃ collateralTx script, borrowerCollateral env C offered escrowTxid borrowerHash
        borrowerPreimageBytes signer = .ok (collateralTx, script, output.value) ∧
      0 < collateralTx.input.length := by
  obtain ⟨key, keyIs⟩ := answers.publicKey
  obtain ⟨sk, skIs⟩ := answers.secretKey
  obtain ⟨⟨collateralTx, script⟩, built⟩ : ∃ built, createCollateralTransaction C key
      offered.offeredContract.offerParams.fundPubkey output.value
      { previousOutput := ⟨escrowTxid, 0⟩, scriptSig := [], sequence := 0xffffffff, witness := [] }
      offered.lenderHash = .ok built :=
    ⟨_, createCollateralTransaction_eq_ok.mpr ⟨enough, rfl, rfl⟩⟩
  obtain ⟨_, _, txIs⟩ := createCollateralTransaction_eq_ok.mp built
  have input : 0 < collateralTx.input.length := by
    rw [txIs]
    exact Nat.one_pos
  obtain ⟨sig, signed⟩ := getSigForTxInput_exists C collateralTx
    (Script.toBytes (makeLoanEscrowAfterCodesepScript
      offered.offeredContract.offerParams.fundPubkey borrowerHash)) output.value sk input
  have opened : index escrowTx.output 0 = .ok output := index_eq_ok.mpr first
  have witnessed : ∀ witness, 0 < (collateralTx.setWitness 0 witness).input.length := by
    intro witness
    rw [Transaction.setWitness_length]
    exact input
  refine ⟨_, script, ?_, witnessed [[], borrowerPreimageBytes, sig, Script.toBytes
    (makeLoanFundingRedeemscript key offered.offeredContract.offerParams.fundPubkey escrowLocktime
      borrowerHash)]⟩
  simp only [borrowerCollateral, keyIs, known, answered, unwrap, opened, built, ofDlc, skIs, signed,
    ok_bind]

/-- The CETs over a collateral transaction exist exactly when the two collaterals
sum to the total, or there is no CET. -/
theorem loanTransactions_iff {info : D.ContractInfo} {payouts : List Payout}
    {params : PartyParams} {collateralTx : Transaction} {script : Bytes}
    (head : offered.offeredContract.contractInfo[0]? = some info)
    (paid : D.getPayouts info offered.offeredContract.totalCollateral = .ok payouts)
    (sums : ∀ p ∈ payouts, p.offer + p.accept = offered.offeredContract.totalCollateral)
    (input : 0 < collateralTx.input.length)
    (whole : params.collateral = offered.offeredContract.totalCollateral) :
    (∃ txs, loanTransactions C offered.offeredContract params collateralTx script = .ok txs) ↔
      offered.offeredContract.offerParams.collateral +
          offered.offeredContract.totalCollateral < u64Limit ∧
        (offered.offeredContract.offerParams.collateral = 0 ∨ payouts = []) := by
  simp only [loanTransactions, bind_eq_ok, index_eq_ok, ofDlc_eq_ok, head, Option.some.injEq,
    exists_eq_left', paid, Except.ok.injEq, createLoanExpirationDlcTransactions_eq_ok, whole, input,
    true_and, exists_and_left, exists_eq, and_true, and_congr_right_iff]
  intro _
  constructor
  · intro balanced
    cases payouts with
    | nil => exact .inr rfl
    | cons p rest =>
        have own := balanced p List.mem_cons_self
        have total := sums p List.mem_cons_self
        exact .inl (by omega)
  · intro agree p listed
    cases agree with
    | inl nothing =>
        rw [sums p listed, nothing, Nat.zero_add]
    | inr none =>
        rw [none] at listed
        cases listed

/-- A CET pays at most what one of the payouts gives both parties. -/
theorem loanTransactions_cets_le {info : D.ContractInfo} {payouts : List Payout}
    {params : PartyParams} {collateralTx : Transaction} {script : Bytes} {txs : DlcTransactions}
    (head : offered.offeredContract.contractInfo[0]? = some info)
    (paid : D.getPayouts info offered.offeredContract.totalCollateral = .ok payouts)
    (built : loanTransactions C offered.offeredContract params collateralTx script = .ok txs) :
    ∀ cet ∈ txs.cets, ∃ p ∈ payouts, cet.outputValue ≤ p.offer + p.accept := by
  simp only [loanTransactions, bind_eq_ok, index_eq_ok, ofDlc_eq_ok, head, Option.some.injEq,
    exists_eq_left', paid, Except.ok.injEq, createLoanExpirationDlcTransactions_eq_ok] at built
  obtain ⟨_, _, _, txsIs⟩ := built
  intro cet listed
  rw [txsIs] at listed
  obtain ⟨payout, member, rfl⟩ := List.mem_map.mp listed
  refine ⟨payout, member, ?_⟩
  exact (createCet_pays offered.offeredContract.offerParams params _ _ payout).outputValue_le

end Second

theorem requiredAmount_lt {ownCollateral feeRate required : ℕ}
    (h : requiredAmount ownCollateral feeRate = .ok required) : ownCollateral < u64Limit := by
  simp only [requiredAmount, bind_eq_ok, ofDlc_eq_ok, amountAdd, add_eq_ok] at h
  obtain ⟨half, _, _, ⟨bound, _⟩, _⟩ := h
  omega

/-- The wallet has coins for the whole collateral, and the offering party has no
share in it (or no CET would pay one). -/
def ServesAgain (env : AcceptEnvironment) (offered : OfferedContract D) (payouts : List Payout) :
    Prop :=
  HasCoins env offered.totalCollateral offered.feeRatePerVb ∧
    (offered.offerParams.collateral = 0 ∨
      payouts = [] ∧ offered.offerParams.collateral + offered.totalCollateral < u64Limit)

section Stages
variable {env : AcceptEnvironment} {offered : OfferedLoanContract D} {escrowTxid : Bytes32}
  {borrowerHash : Bytes32} {borrowerPreimageBytes : Bytes} {signer : ContractSigner}
  {info : D.ContractInfo} {payouts : List Payout} {escrowTx : Transaction} {output : TxOut}

theorem acceptLoanTransactions_iff
    (head : offered.offeredContract.contractInfo[0]? = some info)
    (paid : D.getPayouts info offered.offeredContract.totalCollateral = .ok payouts)
    (sums : ∀ p ∈ payouts, p.offer + p.accept = offered.offeredContract.totalCollateral)
    (answers : Answers env C signer offered.offeredContract.feeRatePerVb)
    (known : env.getTransaction escrowTxid = .ok escrowTx)
    (first : escrowTx.output[0]? = some output) (enough : 166 ≤ output.value) :
    (∃ built, acceptLoanTransactions env C offered escrowTxid borrowerHash borrowerPreimageBytes
        signer = .ok built) ↔ ServesAgain env offered.offeredContract payouts := by
  obtain ⟨collateralTx, script, collateral, input⟩ := borrowerCollateral_exists borrowerHash
    borrowerPreimageBytes answers known first enough
  constructor
  · intro ⟨built, h⟩
    simp only [acceptLoanTransactions, collateral, ok_bind, bind_eq_ok, Prod.exists] at h
    obtain ⟨params, inputs, party, txs, loan, _⟩ := h
    have coins := (getPartyParams_iff answers).mp ⟨_, party⟩
    have share := (loanTransactions_iff head paid sums input (getPartyParams_ok party).1).mp
      ⟨txs, loan⟩
    exact ⟨coins, share.2.imp_right fun none => ⟨none, share.1⟩⟩
  · intro ⟨coins, share⟩
    obtain ⟨⟨params, inputs⟩, party⟩ := (getPartyParams_iff answers).mpr coins
    obtain ⟨required, _, asked, _⟩ := coins
    have total := requiredAmount_lt asked
    have agree : offered.offeredContract.offerParams.collateral +
          offered.offeredContract.totalCollateral < u64Limit ∧
        (offered.offeredContract.offerParams.collateral = 0 ∨ payouts = []) := by
      cases share with
      | inl nothing => exact ⟨by omega, .inl nothing⟩
      | inr none => exact ⟨none.2, .inr none.1⟩
    obtain ⟨txs, loan⟩ : ∃ txs, loanTransactions C offered.offeredContract params collateralTx
        script = .ok txs :=
      (loanTransactions_iff head paid sums input (getPartyParams_ok party).1).mpr agree
    refine ⟨(params, inputs, collateralTx, script, output.value, txs), ?_⟩
    simp only [acceptLoanTransactions, collateral, ok_bind, party, loan]

/-- The transactions are over the escrow's output, and the CETs pay the payouts. -/
theorem acceptLoanTransactions_ok {params : PartyParams} {inputs : List FundingInput}
    {collateralTx : Transaction} {script : Bytes} {escrowAmount : ℕ} {txs : DlcTransactions}
    (head : offered.offeredContract.contractInfo[0]? = some info)
    (paid : D.getPayouts info offered.offeredContract.totalCollateral = .ok payouts)
    (known : env.getTransaction escrowTxid = .ok escrowTx)
    (first : escrowTx.output[0]? = some output)
    (built : acceptLoanTransactions env C offered escrowTxid borrowerHash borrowerPreimageBytes
      signer = .ok (params, inputs, collateralTx, script, escrowAmount, txs)) :
    escrowAmount = output.value ∧
      ∀ cet ∈ txs.cets, ∃ p ∈ payouts, cet.outputValue ≤ p.offer + p.accept := by
  simp only [acceptLoanTransactions, bind_eq_ok, Prod.exists, Except.ok.injEq, Prod.mk.injEq] at built
  obtain ⟨_, _, _, collateral, _, _, _, _, loan, _, _, _, _, rfl, rfl⟩ := built
  refine ⟨?_, loanTransactions_cets_le head paid loan⟩
  simp only [borrowerCollateral, bind_eq_ok, unwrap_eq_ok, answered_eq_ok, index_eq_ok, known, first,
    Except.ok.injEq, Option.some.injEq, exists_eq_left', Prod.mk.injEq, Prod.exists] at collateral
  obtain ⟨_, _, _, _, _, _, _, _, _, _, _, amount⟩ := collateral
  exact amount.symm

theorem acceptLoanContract_error
    (signs : env.deriveContractSigner offered.offeredContract.keysId = .ok signer)
    {fault : Fault Error} (failed : acceptLoanTransactions env C offered escrowTxid borrowerHash
      borrowerPreimageBytes signer = .error fault) :
    acceptLoanContract env C offered escrowTxid borrowerHash borrowerPreimageBytes =
      .error fault := by
  simp only [acceptLoanContract, signs, answered, failed, ok_bind, error_bind]

theorem sentEscrow_ok {offered : OfferedContract D} {borrowerPreimage : Uint128}
    {tx signed : Transaction} (h : sentEscrow env C offered borrowerPreimage = .ok (tx, signed)) :
    escrowTransaction env C offered borrowerPreimage = .ok tx ∧ signed.unsigned = tx.unsigned ∧
      env.sendTransaction signed = .ok () := by
  simp only [sentEscrow, bind_eq_ok, answered_eq_ok, Except.ok.injEq, Prod.mk.injEq] at h
  obtain ⟨_, escrow, s, _, _, sent, rfl, rfl⟩ := h
  exact ⟨escrow, s.property, sent⟩

end Stages

/-- The second stage builds its transactions on the escrow of the first, and the
escrow covers the CETs. -/
def Follows (env : AcceptEnvironment) (C : Crypto) (offered : OfferedLoanContract D)
    (borrowerPreimage : Uint128) (escrow : Transaction) (signer : ContractSigner) : Prop :=
  ∃ output params inputs collateralTx script txs, escrow.output[0]? = some output ∧
    acceptLoanTransactions env C offered (escrow.computeTxid C)
      (C.sha256 borrowerPreimage.toBeBytes) borrowerPreimage.toBeBytes signer =
        .ok (params, inputs, collateralTx, script, output.value, txs) ∧
    ∀ cet ∈ txs.cets, cet.outputValue ≤ output.value

/-- After a first stage, where everything but the wallet's coins answers, the second
stage follows exactly when the wallet has coins for the whole collateral once more
and the offering party has no share in it; otherwise it fails. -/
theorem stages_agree_iff {env₁ env₂ : AcceptEnvironment} {offered : OfferedLoanContract D}
    {borrowerPreimage : Uint128} {escrowTx signed : Transaction} {signer : ContractSigner}
    {info : D.ContractInfo} {payouts : List Payout}
    (validated : offered.validate = .ok ())
    (head : offered.offeredContract.contractInfo[0]? = some info)
    (paid : D.getPayouts info offered.offeredContract.totalCollateral = .ok payouts)
    (first : sentEscrow env₁ C offered.offeredContract borrowerPreimage = .ok (escrowTx, signed))
    (known : env₂.getTransaction (signed.computeTxid C) = .ok signed)
    (signs : env₂.deriveContractSigner offered.offeredContract.keysId = .ok signer)
    (answers : Answers env₂ C signer offered.offeredContract.feeRatePerVb) :
    (Follows env₂ C offered borrowerPreimage signed signer ↔
        ServesAgain env₂ offered.offeredContract payouts) ∧
      (¬ ServesAgain env₂ offered.offeredContract payouts →
        ∃ fault, acceptLoanContract env₂ C offered (signed.computeTxid C)
          (C.sha256 borrowerPreimage.toBeBytes) borrowerPreimage.toBeBytes = .error fault) := by
  have sums : ∀ p ∈ payouts, p.offer + p.accept = offered.offeredContract.totalCollateral := by
    obtain ⟨payouts', paid', sums⟩ := validate_payouts validated (List.mem_of_getElem? head)
    cases paid.symm.trans paid'
    exact sums
  obtain ⟨escrow, same, _⟩ := sentEscrow_ok first
  obtain ⟨share, _, output, opened, value⟩ := escrowTransaction_ok escrow
  have outputs : signed.output[0]? = some output := by
    rw [Transaction.output_eq_of_unsigned same]
    exact opened
  have enough : 166 ≤ output.value := by omega
  have built_iff : (∃ built, acceptLoanTransactions env₂ C offered (signed.computeTxid C)
      (C.sha256 borrowerPreimage.toBeBytes) borrowerPreimage.toBeBytes signer = .ok built) ↔
        ServesAgain env₂ offered.offeredContract payouts :=
    acceptLoanTransactions_iff head paid sums answers known outputs enough
  constructor
  · constructor
    · intro ⟨_, _, _, _, _, _, _, built, _⟩
      exact built_iff.mp ⟨_, built⟩
    · intro serves
      obtain ⟨⟨params, inputs, collateralTx, script, escrowAmount, txs⟩, built⟩ :=
        built_iff.mpr serves
      obtain ⟨rfl, cets⟩ := acceptLoanTransactions_ok head paid known outputs built
      refine ⟨output, params, inputs, collateralTx, script, txs, outputs, built, ?_⟩
      intro cet listed
      obtain ⟨p, member, pays⟩ := cets cet listed
      have total := sums p member
      cases serves.2 with
      | inl nothing => omega
      | inr none =>
          rw [none.1] at member
          cases member
  · intro unserved
    match built : acceptLoanTransactions env₂ C offered (signed.computeTxid C)
        (C.sha256 borrowerPreimage.toBeBytes) borrowerPreimage.toBeBytes signer with
    | .ok result => exact absurd (built_iff.mp ⟨result, built⟩) unserved
    | .error fault => exact ⟨fault, acceptLoanContract_error signs built⟩

/-! A borrower with one coin, whose escrow's change is the coin of the second stage. -/

def sampleCoin : Transaction where
  lockTime := 0
  input := []
  output := [⟨1000000000, sampleSpk₂⟩]

/-- The escrow that the coin funds, for an own share of the collateral. -/
def sampleEscrow (share : ℕ) : Transaction where
  lockTime := 0
  input := [⟨⟨sampleFundTxid, 0⟩, [], enableLocktime, []⟩]
  output := [⟨share + 314, toP2wsh sampleCrypto []⟩, ⟨999999252 - share, sampleSpk₂⟩]

/-- A wallet with the coin at output `coin` of a transaction, whose amount suffices
for everything below `limit`. -/
def sampleAcceptEnvironment (known : Transaction) (coin limit : ℕ) : AcceptEnvironment where
  deriveContractSigner _ := .ok ⟨.ok sampleKey₂, .ok 2⟩
  getNewAddress := .ok sampleSpk₂
  getNewChangeAddress := .ok sampleSpk₂
  getNewSerialId k := k
  getUtxosForAmount amount _ :=
    if amount < limit then .ok [⟨⟨sampleFundTxid, coin⟩, []⟩] else .error .walletError
  getTransaction _ := .ok known
  encodeTransaction _ := []
  signRawTransaction tx := .ok ⟨tx, rfl⟩
  sendTransaction _ := .ok ()

/-- The sample offer with a share of the offering party. -/
def sharedLoanOffer (share : ℕ) : OfferedLoanContract sampleDescriptors :=
  { sampleLoanOffer with
    offeredContract := { sampleLoanOffer.offeredContract with
      offerParams := { sampleLender with collateral := share } } }

theorem sampleEscrow_sent (share : ℕ) (listed : share = 0 ∨ share = 1000) :
    sentEscrow (sampleAcceptEnvironment sampleCoin 0 500000000) sampleCrypto
        (sharedLoanOffer share).offeredContract 0 =
      .ok (sampleEscrow (100000000 - share), sampleEscrow (100000000 - share)) := by
  cases listed with
  | inl none => subst none; decide +kernel
  | inr some => subst some; decide +kernel

theorem sampleAcceptEnvironment_answers (known : Transaction) (coin limit feeRate : ℕ)
    (present : ∃ output, known.output[coin]? = some output ∧ output.value < u64Limit) :
    Answers (sampleAcceptEnvironment known coin limit) sampleCrypto ⟨.ok sampleKey₂, .ok 2⟩
      feeRate where
  publicKey := ⟨_, rfl⟩
  secretKey := ⟨_, rfl⟩
  address := ⟨_, rfl⟩
  changeAddress := ⟨_, rfl⟩
  coins amount utxos chosen := by
    obtain ⟨output, found, small⟩ := present
    simp only [sampleAcceptEnvironment] at chosen
    split at chosen
    · cases chosen
      have opened : index known.output coin = .ok output := index_eq_ok.mpr found
      have total : ofDlc (amountAdd 0 output.value) = .ok output.value := by
        simp [amountAdd, small]
      simp only [selectInputs, sampleAcceptEnvironment, answered, opened, total, ok_bind,
        Except.ok.injEq, exists_eq']
    · cases chosen

theorem stages_agree_iff_whole_collateral :
    Follows (sampleAcceptEnvironment (sampleEscrow 100000000) 1 500000000) sampleCrypto
      sampleLoanOffer 0 (sampleEscrow 100000000) ⟨.ok sampleKey₂, .ok 2⟩ := by
  have validated : (sharedLoanOffer 0).validate = .ok () := by decide
  have answers := sampleAcceptEnvironment_answers (sampleEscrow 100000000) 1 500000000
    (sharedLoanOffer 0).offeredContract.feeRatePerVb ⟨_, rfl, by decide⟩
  have head : (sharedLoanOffer 0).offeredContract.contractInfo[0]? =
      some [⟨100000000, 0⟩, ⟨0, 100000000⟩] := rfl
  have agree := (stages_agree_iff validated head rfl (sampleEscrow_sent 0 (.inl rfl)) rfl rfl
    answers).1
  exact agree.mpr ⟨⟨_, _, rfl, rfl⟩, .inl rfl⟩

/-- With a share of 1000 satoshi on the offering party's side the escrow is sent and
the second stage fails; so it does without a share when the change does not reach. -/
theorem second_stage_fails :
    (sharedLoanOffer 1000).validate = .ok () ∧
    sentEscrow (sampleAcceptEnvironment sampleCoin 0 500000000) sampleCrypto
        (sharedLoanOffer 1000).offeredContract 0 =
      .ok (sampleEscrow 99999000, sampleEscrow 99999000) ∧
    acceptLoanContract (sampleAcceptEnvironment (sampleEscrow 99999000) 1 500000000) sampleCrypto
        (sharedLoanOffer 1000) ((sampleEscrow 99999000).computeTxid sampleCrypto)
        (sampleCrypto.sha256 (0 : Uint128).toBeBytes) (0 : Uint128).toBeBytes =
      .error (.err (.dlcError .invalidArgument)) ∧
    sentEscrow (sampleAcceptEnvironment sampleCoin 0 500000000) sampleCrypto
        sampleLoanOffer.offeredContract 0 =
      .ok (sampleEscrow 100000000, sampleEscrow 100000000) ∧
    acceptLoanContract (sampleAcceptEnvironment (sampleEscrow 100000000) 1 100000000) sampleCrypto
        sampleLoanOffer ((sampleEscrow 100000000).computeTxid sampleCrypto)
        (sampleCrypto.sha256 (0 : Uint128).toBeBytes) (0 : Uint128).toBeBytes =
      .error (.err .walletError) := by
  refine ⟨by decide, sampleEscrow_sent 1000 (.inr rfl), ?_, sampleEscrow_sent 0 (.inl rfl), ?_⟩
  · exact acceptLoanContract_error rfl (by rfl)
  · exact acceptLoanContract_error rfl (by rfl)

end P2PLending.Manager
