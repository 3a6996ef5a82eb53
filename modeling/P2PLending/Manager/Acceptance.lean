import P2PLending.Manager.Handlers

/-! The accepting party of a loan, in two stages: the escrow transaction that its
wallet funds, and after the escrow is confirmed the collateral transaction, the
CETs and the refund built on it. Each stage computes the party's collateral and
asks the wallet for coins on its own. -/

namespace P2PLending.Manager
open Dlc Checked

structure Utxo where
  outpoint : OutPoint
  redeemScript : Bytes
  deriving DecidableEq, Repr

/-- Answers of the signer, the wallet and the node to one acceptance stage. A
signed transaction differs from the given one in its witnesses only. -/
structure AcceptEnvironment where
  deriveContractSigner : KeysId → Except Error ContractSigner
  getNewAddress : Except Error Bytes
  getNewChangeAddress : Except Error Bytes
  getNewSerialId : ℕ → ℕ
  getUtxosForAmount : (amount feeRate : ℕ) → Except Error (List Utxo)
  getTransaction : (txid : Bytes32) → Except Error Transaction
  encodeTransaction : Transaction → Bytes
  signRawTransaction : (tx : Transaction) →
    Except Error { signed : Transaction // signed.unsigned = tx.unsigned }
  sendTransaction : Transaction → Except Error Unit

variable {D : Descriptors}

section Params
variable (env : AcceptEnvironment) (C : Crypto)

/-- Half of the common fee, halved as a double and rounded up. -/
def getHalfCommonFee (feeRate : ℕ) : Result ℕ := do
  let commonFee ← ofDlc (weightToFee (fundTxBaseWeight + cetBaseWeight) feeRate)
  .ok ((f64OfUsize commonFee + 1) / 2)

/-- What a party asks its wallet for. -/
def requiredAmount (ownCollateral feeRate : ℕ) : Result ℕ := do
  let half ← getHalfCommonFee feeRate
  let required ← ofDlc (amountAdd ownCollateral half)
  let fee ← ofDlc (weightToFee 124 feeRate)
  ofDlc (amountAdd required fee)

/-- The funding inputs of the coins, with their total added to `totalInput`; `k`
counts the serial ids that are used up. -/
def selectInputs : (k : ℕ) → (totalInput : ℕ) → List Utxo →
    Result (List (FundingInput × TxInputInfo) × ℕ)
  | _, totalInput, [] => .ok ([], totalInput)
  | k, totalInput, utxo :: utxos => do
      let prevTx ← answered (env.getTransaction utxo.outpoint.txid)
      let fundingInput : FundingInput :=
        { inputSerialId := env.getNewSerialId k
          prevTx := env.encodeTransaction prevTx
          prevTxVout := utxo.outpoint.vout
          sequence := 0xffffffff
          maxWitnessLen := 107
          redeemScript := utxo.redeemScript }
      let prevOutput ← index prevTx.output utxo.outpoint.vout
      let totalInput ← ofDlc (amountAdd totalInput prevOutput.value)
      let info : TxInputInfo :=
        { outpoint := ⟨prevTx.computeTxid C, utxo.outpoint.vout⟩
          maxWitnessLen := 107
          redeemScript := utxo.redeemScript
          serialId := env.getNewSerialId k }
      let (inputs, totalInput) ← selectInputs (k + 1) totalInput utxos
      .ok ((fundingInput, info) :: inputs, totalInput)

def getPartyParams (ownCollateral feeRate : ℕ) (signer : ContractSigner) :
    Result (PartyParams × List FundingInput) := do
  let fundPubkey ← signer.publicKey
  let payoutScriptPubkey ← answered env.getNewAddress
  let changeScriptPubkey ← answered env.getNewChangeAddress
  let required ← requiredAmount ownCollateral feeRate
  let utxos ← answered (env.getUtxosForAmount required feeRate)
  let (inputs, inputAmount) ← selectInputs env C 2 0 utxos
  .ok
    ({ fundPubkey, changeScriptPubkey
       changeSerialId := env.getNewSerialId 1
       payoutScriptPubkey
       payoutSerialId := env.getNewSerialId 0
       inputs := inputs.map Prod.snd
       inputAmount
       collateral := ownCollateral }, inputs.map Prod.fst)

end Params

/-! The first stage. -/

section Escrow
variable (env : AcceptEnvironment) (C : Crypto) (offered : OfferedContract D)
  (borrowerPreimage : Uint128)

/-- The escrow transaction, over the own share of the collateral. -/
def escrowTransaction : Result Transaction := do
  let signer ← answered (env.deriveContractSigner offered.keysId)
  let ownCollateral ← ofDlc (amountSub offered.totalCollateral offered.offerParams.collateral)
  let (acceptParams, _) ← getPartyParams env C ownCollateral offered.feeRatePerVb signer
  let (escrowTx, _) ← ofDlc (createEscrowTransaction C offered.offerParams acceptParams
    offered.feeRatePerVb offered.refundLocktime offered.fundOutputSerialId 300 borrowerPreimage)
  .ok escrowTx

/-- `send_escrow_transaction` up to the broadcast: the transaction and its signed
form, which the node takes. -/
def sentEscrow : Result (Transaction × Transaction) := do
  let escrowTx ← escrowTransaction env C offered borrowerPreimage
  let signed ← answered (env.signRawTransaction escrowTx)
  answered (env.sendTransaction signed.val)
  .ok (escrowTx, signed.val)

end Escrow

/-! The second stage. -/

structure AcceptedLoanContract (D : Descriptors) where
  offeredLoanContract : OfferedLoanContract D
  acceptParams : PartyParams
  fundingInputs : List FundingInput
  adaptorInfos : List D.AdaptorInfo
  adaptorSignatures : Option (List AdaptorSignature)
  acceptRefundSignature : Signature
  dlcTransactions : DlcTransactions
  escrowTxid : Bytes32
  borrowerHash : Bytes32
  signedEscrowSpendTx : Transaction

section Accept
variable (env : AcceptEnvironment) (C : Crypto) (offered : OfferedLoanContract D)
  (escrowTxid borrowerHash : Bytes32) (borrowerPreimageBytes : Bytes)

/-- The collateral transaction with the borrower's half of its witness, its script
and the value of the escrow it spends. -/
def borrowerCollateral (signer : ContractSigner) : Result (Transaction × Bytes × ℕ) := do
  let borrowerPubkey ← signer.publicKey
  let lenderPubkey := offered.offeredContract.offerParams.fundPubkey
  let fundingScript := Script.toBytes
    (makeLoanFundingRedeemscript borrowerPubkey lenderPubkey escrowLocktime borrowerHash)
  let fundingScriptToSign := Script.toBytes (makeLoanEscrowAfterCodesepScript lenderPubkey borrowerHash)
  let escrowInput : TxIn :=
    { previousOutput := ⟨escrowTxid, 0⟩, scriptSig := [], sequence := 0xffffffff, witness := [] }
  let escrowTx ← unwrap (answered (env.getTransaction escrowTxid))
  let escrowOutput ← index escrowTx.output 0
  let (collateralTx, collateralScript) ← unwrap (ofDlc (createCollateralTransaction C
    borrowerPubkey lenderPubkey escrowOutput.value escrowInput offered.lenderHash))
  let sk ← unwrap signer.secretKey
  let borrowerSignature ← unwrap (ofDlc (getSigForTxInput C collateralTx 0 fundingScriptToSign
    escrowOutput.value sk))
  .ok (collateralTx.setWitness 0 [[], borrowerPreimageBytes, borrowerSignature, fundingScript],
    collateralScript, escrowOutput.value)

/-- The second stage up to its transactions. The wallet is asked for the whole
collateral. -/
def acceptLoanTransactions (signer : ContractSigner) :
    Result (PartyParams × List FundingInput × Transaction × Bytes × ℕ × DlcTransactions) := do
  let (collateralTx, collateralScript, escrowAmount) ← borrowerCollateral env C offered escrowTxid
    borrowerHash borrowerPreimageBytes signer
  let (acceptParams, fundingInputs) ← getPartyParams env C offered.offeredContract.totalCollateral
    offered.offeredContract.feeRatePerVb signer
  let txs ← loanTransactions C offered.offeredContract acceptParams collateralTx collateralScript
  .ok (acceptParams, fundingInputs, collateralTx, collateralScript, escrowAmount, txs)

/-- The adaptor infos and signatures of the contract infos after the first, with
their CETs. -/
def acceptRemaining (offered : OfferedContract D) (acceptParams : PartyParams)
    (adaptorSecretKey : SecretKey) (script : Bytes) (inputValue : ℕ) (cetInput : TxIn) :
    List D.ContractInfo → (adaptorIndex : ℕ) →
      Result (List Transaction × List D.AdaptorInfo × List AdaptorSignature)
  | [], _ => .ok ([], [], [])
  | info :: infos, adaptorIndex => do
      let payouts ← D.getPayouts info offered.totalCollateral
      let tmpCets := createCets cetInput offered.offerParams.payoutScriptPubkey
        offered.offerParams.payoutSerialId acceptParams.payoutScriptPubkey
        acceptParams.payoutSerialId payouts 0
      let (adaptorInfo, adaptorSig) ← D.getAdaptorInfo info offered.totalCollateral
        adaptorSecretKey script inputValue tmpCets adaptorIndex
      let (cets, adaptorInfos, adaptorSigs) ← acceptRemaining offered acceptParams adaptorSecretKey
        script inputValue cetInput infos (adaptorIndex + adaptorSig.length)
      .ok (tmpCets ++ cets, adaptorInfo :: adaptorInfos, adaptorSig ++ adaptorSigs)

def acceptLoanContractInternal (acceptParams : PartyParams) (fundingInputs : List FundingInput)
    (adaptorSecretKey : SecretKey) (inputValue : ℕ) (txs : DlcTransactions)
    (signedEscrowSpendTx : Transaction) :
    Result (AcceptedLoanContract D × List AdaptorSignature) := do
  let script := txs.fundingScriptPubkey
  let cet ← index txs.cets 0
  let cetInput ← index cet.input 0
  let info ← index offered.offeredContract.contractInfo 0
  let (adaptorInfo, adaptorSig) ← D.getAdaptorInfo info offered.offeredContract.totalCollateral
    adaptorSecretKey script inputValue txs.cets 0
  let (cets, adaptorInfos, adaptorSigs) ← acceptRemaining offered.offeredContract acceptParams
    adaptorSecretKey script inputValue cetInput offered.offeredContract.contractInfo.tail
    adaptorSig.length
  let refundSignature ← ofDlc (getRawSigForTxInput C txs.refund 0 script inputValue adaptorSecretKey)
  .ok
    ({ offeredLoanContract := offered
       acceptParams, fundingInputs
       adaptorInfos := adaptorInfo :: adaptorInfos
       adaptorSignatures := none
       acceptRefundSignature := refundSignature
       dlcTransactions := { txs with cets := txs.cets ++ cets }
       escrowTxid, borrowerHash, signedEscrowSpendTx }, adaptorSig ++ adaptorSigs)

def AcceptedLoanContract.getAcceptContractMsg (c : AcceptedLoanContract D)
    (adaptorSignatures : List AdaptorSignature) (escrowAmount : ℕ) (escrowSpk collateralSpk : Bytes) :
    AcceptLoanDlc where
  temporaryContractId := c.offeredLoanContract.offeredContract.id
  acceptCollateral := c.acceptParams.collateral
  fundingPubkey := c.acceptParams.fundPubkey
  payoutSpk := c.acceptParams.payoutScriptPubkey
  payoutSerialId := c.acceptParams.payoutSerialId
  fundingInputs := c.fundingInputs
  changeSpk := c.acceptParams.changeScriptPubkey
  changeSerialId := c.acceptParams.changeSerialId
  cetAdaptorSignatures := adaptorSignatures
  refundSignature := c.acceptRefundSignature
  escrowTxid := c.escrowTxid
  borrowerHash := c.borrowerHash
  signedEscrowSpendTx := c.signedEscrowSpendTx
  escrowAmount := escrowAmount
  escrowSpk := escrowSpk
  collateralSpk := collateralSpk

def acceptLoanContract : Result (AcceptedLoanContract D × AcceptLoanDlc) := do
  let signer ← answered (env.deriveContractSigner offered.offeredContract.keysId)
  let (acceptParams, fundingInputs, collateralTx, collateralScript, escrowAmount, txs) ←
    acceptLoanTransactions env C offered escrowTxid borrowerHash borrowerPreimageBytes signer
  let collateralOutput ← ofDlc (txs.getFundOutput C)
  let sk ← signer.secretKey
  let (accepted, adaptorSigs) ← acceptLoanContractInternal C offered escrowTxid borrowerHash
    acceptParams fundingInputs sk collateralOutput.value txs collateralTx
  .ok (accepted, accepted.getAcceptContractMsg adaptorSigs escrowAmount
    (Script.toBytes (makeLoanEscrowAfterCodesepScript
      offered.offeredContract.offerParams.fundPubkey borrowerHash)) collateralScript)

end Accept

end P2PLending.Manager
