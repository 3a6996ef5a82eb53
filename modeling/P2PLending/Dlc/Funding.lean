import P2PLending.Dlc.RedeemScripts

/-! The transaction builders of the `dlc` crate for regular contracts, loans and
channels. Every party reserves fees in `getChangeOutputAndFees`; the fund
transaction asserts that the reserved amounts add up, and they never do. -/

namespace P2PLending.Dlc
open Checked

structure Payout where
  offer : ℕ
  accept : ℕ
  deriving DecidableEq, Repr

structure TxInputInfo where
  outpoint : OutPoint
  maxWitnessLen : ℕ
  redeemScript : Bytes
  serialId : ℕ
  deriving DecidableEq, Repr

structure PartyParams where
  fundPubkey : PublicKey
  changeScriptPubkey : Bytes
  changeSerialId : ℕ
  payoutScriptPubkey : Bytes
  payoutSerialId : ℕ
  inputs : List TxInputInfo
  inputAmount : ℕ
  collateral : ℕ
  deriving DecidableEq, Repr

structure DlcTransactions where
  fund : Transaction
  cets : List Transaction
  refund : Transaction
  fundingScriptPubkey : Bytes
  deriving DecidableEq, Repr

/-- `get_fund_output`, which unwraps the search. -/
def DlcTransactions.getFundOutput (C : Crypto) (txs : DlcTransactions) : Result TxOut :=
  match getOutputForScriptPubkey txs.fund (toP2wsh C txs.fundingScriptPubkey) with
  | some (_, output) => pure output
  | none => .error (.panic "called `Option::unwrap()` on a `None` value")

namespace PartyParams
variable (p : PartyParams)

def inputWeight (total : ℕ) (w : TxInputInfo) : Result ℕ := do
  let scriptSig ← redeemScriptToScriptSig w.redeemScript
  let scriptWeight ← checkedMul scriptSig.length 4
  let total ← checkedAdd total txInputBaseWeight
  let total ← checkedAdd total scriptWeight
  checkedAdd total w.maxWitnessLen

/-- The weight of the collateral transaction that every party reserves. -/
def totalCollateralWeight : ℕ :=
  (8 + 4 + 4) + (txInputBaseWeight + 32 * 4) + (8 + 4 + (32 + 2) * 4)

/-- The change output, the fund fee and the CET or refund fee of one party. The
collateral fee is reserved but not returned, and 100 satoshi more are withheld. -/
def getChangeOutputAndFees (feeRatePerVb extraFee : ℕ) : Result (TxOut × ℕ × ℕ) := do
  let inputsWeight ← p.inputs.foldlM inputWeight 0
  let changeWeight ← checkedMul p.changeScriptPubkey.length 4
  let weight ← checkedAdd (fundTxBaseWeight / 2) inputsWeight
  let weight ← checkedAdd weight changeWeight
  let totalFundWeight ← checkedAdd weight 36
  let fundFee ← weightToFee totalFundWeight feeRatePerVb
  let collateralFee ← weightToFee totalCollateralWeight feeRatePerVb
  let outputSpkWeight ← checkedMul p.payoutScriptPubkey.length 4
  let totalCetWeight ← checkedAdd (cetBaseWeight / 2) outputSpkWeight
  let cetOrRefundFee ← weightToFee totalCetWeight feeRatePerVb
  let required ← checkedAdd p.collateral fundFee
  let required ← checkedAdd required collateralFee
  let required ← checkedAdd required cetOrRefundFee
  let requiredInputFunds ← checkedAdd required extraFee
  ensure (requiredInputFunds ≤ p.inputAmount) (.err .invalidArgument)
  let change ← amountSub p.inputAmount requiredInputFunds
  let value ← amountSub change 100
  pure ({ value, scriptPubkey := p.changeScriptPubkey }, fundFee, cetOrRefundFee)

def getUnsignedTxInputsAndSerialIds (sequence : ℕ) : Result (List TxIn × List ℕ) := do
  let txIns ← p.inputs.mapM fun input => do
    let scriptSig ← redeemScriptToScriptSig input.redeemScript
    pure { previousOutput := input.outpoint, scriptSig, sequence, witness := [] : TxIn }
  pure (txIns, p.inputs.map TxInputInfo.serialId)

end PartyParams

variable (C : Crypto)

def createFundingTransaction (fundingScript : Bytes) (outputAmount : ℕ)
    (offerInputs : List TxIn) (offerIds : List ℕ) (acceptInputs : List TxIn)
    (acceptIds : List ℕ) (offerChange : TxOut) (offerChangeSerialId : ℕ)
    (acceptChange : TxOut) (acceptChangeSerialId fundOutputSerialId lockTime : ℕ) :
    Transaction where
  lockTime := lockTime
  input := orderBySerialIds (offerInputs ++ acceptInputs) (offerIds ++ acceptIds)
  output := discardDust
    (orderBySerialIds
      [{ value := outputAmount, scriptPubkey := toP2wsh C fundingScript }, offerChange,
        acceptChange]
      [fundOutputSerialId, offerChangeSerialId, acceptChangeSerialId]) dustLimit

def createFundTransactionWithFees (offerParams acceptParams : PartyParams)
    (feeRatePerVb fundLockTime fundOutputSerialId extraFee : ℕ) :
    Result (Transaction × Bytes) := do
  let totalCollateral ← checkedAdd offerParams.collateral acceptParams.collateral
  let (offerChange, offerFundFee, offerCetFee) ←
    offerParams.getChangeOutputAndFees feeRatePerVb extraFee
  let (acceptChange, acceptFundFee, acceptCetFee) ←
    acceptParams.getChangeOutputAndFees feeRatePerVb extraFee
  let value ← checkedAdd offerParams.inputAmount acceptParams.inputAmount
  let value ← amountSub value offerChange.value
  let value ← amountSub value acceptChange.value
  let value ← amountSub value offerFundFee
  let value ← amountSub value acceptFundFee
  let fundOutputValue ← amountSub value extraFee
  let expected ← amountAdd totalCollateral offerCetFee
  let expected ← amountAdd expected acceptCetFee
  let expected ← amountAdd expected extraFee
  assertEq expected fundOutputValue
  let inputs ← amountAdd offerParams.inputAmount acceptParams.inputAmount
  let spent ← amountAdd fundOutputValue offerChange.value
  let spent ← amountAdd spent acceptChange.value
  let spent ← amountAdd spent offerFundFee
  let spent ← amountAdd spent acceptFundFee
  let spent ← amountAdd spent extraFee
  assertEq inputs spent
  let fundSequence := getSequence fundLockTime
  let (offerTxIns, offerIds) ← offerParams.getUnsignedTxInputsAndSerialIds fundSequence
  let (acceptTxIns, acceptIds) ← acceptParams.getUnsignedTxInputsAndSerialIds fundSequence
  let fundingScript := Script.toBytes
    (makeFundingRedeemscript offerParams.fundPubkey acceptParams.fundPubkey)
  pure (createFundingTransaction C fundingScript fundOutputValue offerTxIns offerIds acceptTxIns
    acceptIds offerChange offerParams.changeSerialId acceptChange acceptParams.changeSerialId
    fundOutputSerialId fundLockTime, fundingScript)

def createCet (offerOutput : TxOut) (offerSerialId : ℕ) (acceptOutput : TxOut)
    (acceptSerialId : ℕ) (fundTxIn : TxIn) (lockTime : ℕ) : Transaction where
  lockTime := lockTime
  input := [fundTxIn]
  output := discardDust
    (if offerSerialId < acceptSerialId then [offerOutput, acceptOutput]
      else [acceptOutput, offerOutput]) dustLimit

def createCets (fundTxInput : TxIn) (offerSpk : Bytes) (offerSerialId : ℕ) (acceptSpk : Bytes)
    (acceptSerialId : ℕ) (payouts : List Payout) (lockTime : ℕ) : List Transaction :=
  payouts.map fun payout =>
    createCet { value := payout.offer, scriptPubkey := offerSpk } offerSerialId
      { value := payout.accept, scriptPubkey := acceptSpk } acceptSerialId fundTxInput lockTime

theorem createCets_input {fundTxInput : TxIn} {offerSpk acceptSpk : Bytes}
    {offerSerialId acceptSerialId lockTime : ℕ} {payouts : List Payout} {cet : Transaction}
    (listed : cet ∈ createCets fundTxInput offerSpk offerSerialId acceptSpk acceptSerialId payouts
      lockTime) : cet.input = [fundTxInput] := by
  obtain ⟨payout, _, rfl⟩ := List.mem_map.mp listed
  rfl

def createRefundTransaction (offerOutput acceptOutput : TxOut) (fundingInput : TxIn)
    (lockTime : ℕ) : Transaction where
  lockTime := lockTime
  input := [fundingInput]
  output := discardDust [offerOutput, acceptOutput] dustLimit

def createCetsAndRefundTx (offerParams acceptParams : PartyParams) (prevOutpoint : OutPoint)
    (payouts : List Payout) (refundLockTime cetLockTime : ℕ) (cetNsequence : Option ℕ) :
    Result (List Transaction × Transaction) := do
  let totalCollateral ← checkedAdd offerParams.collateral acceptParams.collateral
  ensure (∀ o ∈ payouts, checkedAdd o.offer o.accept = .ok totalCollateral)
    (.err .invalidArgument)
  let cetInput : TxIn :=
    { previousOutput := prevOutpoint, scriptSig := [],
      sequence := cetNsequence.getD (getSequence cetLockTime), witness := [] }
  let cets := createCets cetInput offerParams.payoutScriptPubkey offerParams.payoutSerialId
    acceptParams.payoutScriptPubkey acceptParams.payoutSerialId payouts cetLockTime
  let refundInput : TxIn :=
    { previousOutput := prevOutpoint, scriptSig := [], sequence := enableLocktime, witness := [] }
  let refund := createRefundTransaction
    { value := offerParams.collateral, scriptPubkey := offerParams.payoutScriptPubkey }
    { value := acceptParams.collateral, scriptPubkey := acceptParams.payoutScriptPubkey }
    refundInput refundLockTime
  pure (cets, refund)

def createDlcTransactions (offerParams acceptParams : PartyParams) (payouts : List Payout)
    (refundLockTime feeRatePerVb fundLockTime cetLockTime fundOutputSerialId : ℕ) :
    Result DlcTransactions := do
  let (fund, fundingScriptPubkey) ← createFundTransactionWithFees C offerParams acceptParams
    feeRatePerVb fundLockTime fundOutputSerialId 0
  match getOutputForScriptPubkey fund (toP2wsh C fundingScriptPubkey) with
  | none => .error (.panic "to find the funding script pubkey")
  | some (vout, _) => do
      let (cets, refund) ← createCetsAndRefundTx offerParams acceptParams
        ⟨fund.computeTxid C, vout⟩ payouts refundLockTime cetLockTime none
      pure { fund, cets, refund, fundingScriptPubkey }

/-- The keys that make a channel transaction revocable. -/
structure RevokeParams where
  ownPk : PublicKey
  publishPk : PublicKey
  revokePk : PublicKey
  deriving DecidableEq, Repr

structure DlcChannelTransactions where
  dlcTransactions : DlcTransactions
  bufferTransaction : Transaction
  bufferScriptPubkey : Bytes
  deriving DecidableEq, Repr

/-- The `miniscript` descriptor of a buffer output: its script public key and its
script code. -/
structure BufferDescriptor where
  scriptPubkey : RevokeParams → RevokeParams → Bytes
  scriptCode : RevokeParams → RevokeParams → Result Bytes

def bufferTxWeight : ℕ := 599
def cetExtraWeight : ℕ := 330

def createBufferTransaction (fundTxIn : TxIn) (scriptPubkey : Bytes) (totalCollateral : ℕ)
    (lockTime : ℕ) : Transaction where
  lockTime := lockTime
  input := [fundTxIn]
  output := [{ value := totalCollateral, scriptPubkey }]

def createRenewalChannelTransactions (B : BufferDescriptor) (offerParams acceptParams : PartyParams)
    (offerRevokeParams acceptRevokeParams : RevokeParams) (fundTx : Transaction)
    (fundingScriptPubkey : Bytes) (payouts : List Payout)
    (refundLockTime feeRatePerVb cetLockTime cetNsequence : ℕ) :
    Result DlcChannelTransactions := do
  let extraFee ← weightToFee (bufferTxWeight + cetExtraWeight) feeRatePerVb
  match getOutputForScriptPubkey fundTx (toP2wsh C fundingScriptPubkey) with
  | none => .error (.panic "to find the funding script pubkey")
  | some (fundVout, fundOutput) => do
      let txIn : TxIn :=
        { previousOutput := ⟨fundTx.computeTxid C, fundVout⟩, scriptSig := [],
          sequence := getSequence cetLockTime, witness := [] }
      let bufferValue ← amountSub fundOutput.value extraFee
      let bufferTransaction := createBufferTransaction txIn
        (B.scriptPubkey offerRevokeParams acceptRevokeParams) bufferValue cetLockTime
      let (cets, refund) ← createCetsAndRefundTx offerParams acceptParams
        ⟨bufferTransaction.computeTxid C, 0⟩ payouts refundLockTime cetLockTime cetNsequence
      let bufferScriptPubkey ← B.scriptCode offerRevokeParams acceptRevokeParams
      pure
        { dlcTransactions := { fund := fundTx, cets, refund, fundingScriptPubkey }
          bufferTransaction, bufferScriptPubkey }

def createChannelTransactions (B : BufferDescriptor) (offerParams acceptParams : PartyParams)
    (offerRevokeParams acceptRevokeParams : RevokeParams) (payouts : List Payout)
    (refundLockTime feeRatePerVb fundLockTime cetLockTime fundOutputSerialId cetNsequence : ℕ) :
    Result DlcChannelTransactions := do
  let extraFee ← weightToFee (bufferTxWeight + cetExtraWeight) feeRatePerVb
  let (fund, fundingScriptPubkey) ← createFundTransactionWithFees C offerParams acceptParams
    feeRatePerVb fundLockTime fundOutputSerialId extraFee
  createRenewalChannelTransactions C B offerParams acceptParams offerRevokeParams
    acceptRevokeParams fund fundingScriptPubkey payouts refundLockTime feeRatePerVb cetLockTime
    cetNsequence

end P2PLending.Dlc
