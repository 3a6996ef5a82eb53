import P2PLending.Manager.Contracts
import P2PLending.Dlc.Loans

/-! Verification of an acceptance and the offering party's signatures. The
counterparty's signatures are checked first, over the transactions rebuilt from
its message; then the own signatures are made. -/

namespace P2PLending.Manager
open Dlc Checked

variable (C : Crypto)

/-- The inputs of a message and their total. -/
def getTxInputInfos (decodeTransaction : Bytes → Option Transaction)
    (fundingInputs : List FundingInput) : Result (List TxInputInfo × ℕ) :=
  fundingInputs.foldlM (fun (inputs, inputAmount) fundInput => do
    let tx ← (decodeTransaction fundInput.prevTx).elim (.error (.err .conversion)) .ok
    let txOut ← (tx.output[fundInput.prevTxVout]?).elim (.error (.err .conversion)) .ok
    let inputAmount ← ofDlc (amountAdd inputAmount txOut.value)
    .ok (inputs ++ [{
      outpoint := ⟨tx.computeTxid C, fundInput.prevTxVout⟩
      maxWitnessLen := 107
      redeemScript := fundInput.redeemScript
      serialId := fundInput.inputSerialId }], inputAmount)) ([], 0)

def acceptParamsOf (decodeTransaction : Bytes → Option Transaction) (acceptMsg : AcceptDlc) :
    Result PartyParams := do
  let (inputs, inputAmount) ← getTxInputInfos C decodeTransaction acceptMsg.fundingInputs
  .ok
    { fundPubkey := acceptMsg.fundingPubkey
      changeScriptPubkey := acceptMsg.changeSpk
      changeSerialId := acceptMsg.changeSerialId
      payoutScriptPubkey := acceptMsg.payoutSpk
      payoutSerialId := acceptMsg.payoutSerialId
      inputs, inputAmount
      collateral := acceptMsg.acceptCollateral }

variable {D : Descriptors}

/-- The adaptor infos of the contract infos after the first, with their CETs. -/
def verifyRemaining (offered : OfferedContract D) (acceptParams : PartyParams)
    (adaptorSigs : List AdaptorSignature) (script : Bytes) (inputValue totalCollateral : ℕ)
    (cetInput : TxIn) :
    List D.ContractInfo → (adaptorIndex : ℕ) → Result (List Transaction × List D.AdaptorInfo)
  | [], _ => .ok ([], [])
  | info :: infos, adaptorIndex => do
      let payouts ← D.getPayouts info totalCollateral
      let tmpCets := createCets cetInput offered.offerParams.payoutScriptPubkey
        offered.offerParams.payoutSerialId acceptParams.payoutScriptPubkey
        acceptParams.payoutSerialId payouts 0
      let (adaptorInfo, adaptorIndex) ← D.verifyAndGetAdaptorInfo info offered.totalCollateral
        acceptParams.fundPubkey script inputValue tmpCets adaptorSigs adaptorIndex
      let (cets, adaptorInfos) ← verifyRemaining offered acceptParams adaptorSigs script inputValue
        totalCollateral cetInput infos adaptorIndex
      .ok (tmpCets ++ cets, adaptorInfo :: adaptorInfos)

/-- The checks of the counterparty's refund and adaptor signatures, with the CETs
of all contract infos and their adaptor infos. -/
def verifySignatures (offered : OfferedContract D) (acceptParams : PartyParams)
    (refundSignature : Signature) (adaptorSigs : List AdaptorSignature) (inputValue : ℕ)
    (txs : DlcTransactions) : Result (List Transaction × List D.AdaptorInfo) := do
  let script := txs.fundingScriptPubkey
  ofDlc (verifyTxInputSig C refundSignature txs.refund 0 script inputValue
    acceptParams.fundPubkey)
  let info ← index offered.contractInfo 0
  let (adaptorInfo, adaptorIndex) ← D.verifyAndGetAdaptorInfo info offered.totalCollateral
    acceptParams.fundPubkey script inputValue txs.cets adaptorSigs 0
  let cet ← index txs.cets 0
  let cetInput ← index cet.input 0
  let totalCollateral ← ofDlc (amountAdd offered.offerParams.collateral acceptParams.collateral)
  let (cets, adaptorInfos) ← verifyRemaining offered acceptParams adaptorSigs script inputValue
    totalCollateral cetInput offered.contractInfo.tail adaptorIndex
  .ok (txs.cets ++ cets, adaptorInfo :: adaptorInfos)

def verifyAcceptedAndSignContractInternal (offered : OfferedContract D)
    (acceptParams : PartyParams) (fundingInputs : List FundingInput) (refundSignature : Signature)
    (adaptorSigs : List AdaptorSignature) (inputValue : ℕ) (signer : ContractSigner)
    (txs : DlcTransactions) : Result (SignedContract D × List AdaptorSignature) := do
  let (cets, adaptorInfos) ← verifySignatures C offered acceptParams refundSignature adaptorSigs
    inputValue txs
  let ownSignatures ← (offered.contractInfo.zip adaptorInfos).mapM fun (info, adaptorInfo) =>
    D.getAdaptorSignatures info adaptorInfo signer txs.fundingScriptPubkey inputValue cets
  let sk ← signer.secretKey
  let offerRefundSignature ← ofDlc (getRawSigForTxInput C txs.refund 0 txs.fundingScriptPubkey
    inputValue sk)
  .ok
    ({ acceptedContract := {
        offeredContract := offered
        acceptParams, fundingInputs, adaptorInfos
        adaptorSignatures := some adaptorSigs
        acceptRefundSignature := refundSignature
        dlcTransactions := { txs with cets } }
       adaptorSignatures := none
       offerRefundSignature
       -- a placeholder for the funding signature
       fundingSignatures := [[[]]]
       channelId := none }, ownSignatures.flatten)

/-- The CETs and the refund of an accepted loan over a collateral transaction. -/
def loanTransactions (offered : OfferedContract D) (acceptParams : PartyParams)
    (collateralTx : Transaction) (collateralScriptPubkey : Bytes) : Result DlcTransactions := do
  let info ← index offered.contractInfo 0
  let payouts ← D.getPayouts info offered.totalCollateral
  ofDlc (createLoanExpirationDlcTransactions C offered.offerParams acceptParams payouts
    offered.refundLocktime offered.cetLocktime collateralTx collateralScriptPubkey)

def verifyAcceptedAndSignLoanContract (decodeTransaction : Bytes → Option Transaction)
    (deriveContractSigner : KeysId → Result ContractSigner) (offered : OfferedContract D)
    (acceptMsg : AcceptDlc) (collateralTx : Transaction) (collateralScriptPubkey : Bytes) :
    Result (SignedContract D × SignDlc) := do
  let acceptParams ← acceptParamsOf C decodeTransaction acceptMsg
  let txs ← loanTransactions C offered acceptParams collateralTx collateralScriptPubkey
  let fundOutput ← ofDlc (txs.getFundOutput C)
  let signer ← deriveContractSigner offered.keysId
  let (signedContract, adaptorSigs) ← verifyAcceptedAndSignContractInternal C offered acceptParams
    acceptMsg.fundingInputs acceptMsg.refundSignature acceptMsg.cetAdaptorSignatures
    fundOutput.value signer txs
  let contractId ← signedContract.acceptedContract.getContractId C
  .ok (signedContract,
    { contractId
      cetAdaptorSignatures := adaptorSigs
      refundSignature := signedContract.offerRefundSignature
      fundingSignatures := signedContract.fundingSignatures })

end P2PLending.Manager
