import P2PLending.Manager.Acceptance
import P2PLending.Manager.SignedPlaces

/-! Acceptance, verification and signing of a contract with the overrides that
channels pass: the script and key of the buffer output in place of the contract's
own. Without overrides they are the functions of a plain contract. -/

namespace P2PLending.Manager.Internal
open Dlc Checked

variable (C : Crypto)

section Offered
variable {D : Descriptors} (offered : OfferedContract D)

def acceptContract (acceptParams : PartyParams) (fundingInputs : List FundingInput)
    (adaptorSecretKey : SecretKey) (inputValue : ℕ) (inputScriptPubkey : Option Bytes)
    (txs : DlcTransactions) : Result (AcceptedContract D × List AdaptorSignature) := do
  let script := inputScriptPubkey.getD txs.fundingScriptPubkey
  let cet ← index txs.cets 0
  let cetInput ← index cet.input 0
  let info ← index offered.contractInfo 0
  let (adaptorInfo, adaptorSig) ← D.getAdaptorInfo info offered.totalCollateral adaptorSecretKey
    script inputValue txs.cets 0
  let (cets, adaptorInfos, adaptorSigs) ← acceptRemaining offered acceptParams adaptorSecretKey
    script inputValue cetInput offered.contractInfo.tail adaptorSig.length
  let refundSignature ← ofDlc (getRawSigForTxInput C txs.refund 0 script inputValue adaptorSecretKey)
  .ok
    ({ offeredContract := offered
       acceptParams, fundingInputs
       adaptorInfos := adaptorInfo :: adaptorInfos
       adaptorSignatures := none
       acceptRefundSignature := refundSignature
       dlcTransactions := { txs with cets := txs.cets ++ cets } }, adaptorSig ++ adaptorSigs)

/-- The first info is verified under the overrides, the later ones are not. -/
def verifyAcceptedContract (acceptParams : PartyParams) (refundSignature : Signature)
    (adaptorSigs : List AdaptorSignature) (inputValue : ℕ) (inputScriptPubkey : Option Bytes)
    (counterAdaptorPk : Option PublicKey) (txs : DlcTransactions) :
    Result (List Transaction × List D.AdaptorInfo) := do
  let script := inputScriptPubkey.getD txs.fundingScriptPubkey
  let counterPk := counterAdaptorPk.getD acceptParams.fundPubkey
  ofDlc (verifyTxInputSig C refundSignature txs.refund 0 script inputValue counterPk)
  let info ← index offered.contractInfo 0
  let (adaptorInfo, adaptorIndex) ← D.verifyAndGetAdaptorInfo info offered.totalCollateral
    counterPk script inputValue txs.cets adaptorSigs 0
  let cet ← index txs.cets 0
  let cetInput ← index cet.input 0
  let totalCollateral ← ofDlc (amountAdd offered.offerParams.collateral acceptParams.collateral)
  let (cets, adaptorInfos) ← verifyRemaining offered acceptParams adaptorSigs
    txs.fundingScriptPubkey inputValue totalCollateral cetInput offered.contractInfo.tail
    adaptorIndex
  .ok (txs.cets ++ cets, adaptorInfo :: adaptorInfos)

def verifyAcceptedAndSignContract (acceptParams : PartyParams) (fundingInputs : List FundingInput)
    (refundSignature : Signature) (adaptorSigs : List AdaptorSignature) (inputValue : ℕ)
    (signer : ContractSigner) (inputScriptPubkey : Option Bytes)
    (counterAdaptorPk : Option PublicKey) (txs : DlcTransactions) (channelId : Option Bytes32) :
    Result (SignedContract D × List AdaptorSignature) := do
  let script := inputScriptPubkey.getD txs.fundingScriptPubkey
  let (cets, adaptorInfos) ← verifyAcceptedContract C offered acceptParams refundSignature
    adaptorSigs inputValue inputScriptPubkey counterAdaptorPk txs
  let ownSignatures ← (offered.contractInfo.zip adaptorInfos).mapM fun (info, adaptorInfo) =>
    D.getAdaptorSignatures info adaptorInfo signer script inputValue cets
  let sk ← signer.secretKey
  let offerRefundSignature ← ofDlc (getRawSigForTxInput C txs.refund 0 script inputValue sk)
  .ok
    ({ acceptedContract := {
        offeredContract := offered
        acceptParams, fundingInputs, adaptorInfos
        adaptorSignatures := some adaptorSigs
        acceptRefundSignature := refundSignature
        dlcTransactions := { txs with cets } }
       adaptorSignatures := none
       offerRefundSignature
       fundingSignatures := [[[]]]
       channelId }, ownSignatures.flatten)

theorem verifyAcceptedAndSignContract_plain (acceptParams : PartyParams)
    (fundingInputs : List FundingInput) (refundSignature : Signature)
    (adaptorSigs : List AdaptorSignature) (inputValue : ℕ) (signer : ContractSigner)
    (txs : DlcTransactions) :
    verifyAcceptedAndSignContract C offered acceptParams fundingInputs refundSignature adaptorSigs
        inputValue signer none none txs none =
      verifyAcceptedAndSignContractInternal C offered acceptParams fundingInputs refundSignature
        adaptorSigs inputValue signer txs := rfl

end Offered

/-- The acceptance of a loan is this one, without overrides. -/
theorem acceptContract_loan {D : Descriptors} (offered : OfferedLoanContract D)
    (escrowTxid borrowerHash : Bytes32) (acceptParams : PartyParams)
    (fundingInputs : List FundingInput) (sk : SecretKey) (inputValue : ℕ) (txs : DlcTransactions)
    (signedEscrowSpendTx : Transaction) :
    acceptLoanContractInternal C offered escrowTxid borrowerHash acceptParams fundingInputs sk
        inputValue txs signedEscrowSpendTx = (do
      let (accepted, sigs) ← acceptContract C offered.offeredContract acceptParams fundingInputs sk
        inputValue none txs
      .ok ({ accepted with
        offeredLoanContract := offered
        escrowTxid, borrowerHash, signedEscrowSpendTx }, sigs)) := by
  simp only [acceptLoanContractInternal, acceptContract, bind_assoc, ok_bind, Option.getD_none]

variable {E : SigningDescriptors}

/-- The signatures of the infos, one info after the other. -/
def verifyAdaptorInfos (pubkey : PublicKey) (script : Bytes) (value : ℕ) (cets : List Transaction)
    (sigs : List AdaptorSignature) (infos : List (E.AdaptorInfo × E.ContractInfo))
    (adaptorSigStart : ℕ) : Result ℕ :=
  infos.foldlM (fun start (adaptorInfo, info) =>
    E.verifyAdaptorInfo info pubkey script value cets sigs start adaptorInfo) adaptorSigStart

def verifySignedContract (accepted : AcceptedContract E.toDescriptors)
    (refundSignature : Signature) (adaptorSigs : List AdaptorSignature)
    (fundingSignatures : FundingSignatures) (inputValue : ℕ) (inputScriptPubkey : Option Bytes)
    (counterAdaptorPk : Option PublicKey) (channelId : Option Bytes32) :
    Result (SignedContract E.toDescriptors × Transaction) := do
  let offered := accepted.offeredContract
  let script := inputScriptPubkey.getD accepted.dlcTransactions.fundingScriptPubkey
  let counterPk := counterAdaptorPk.getD offered.offerParams.fundPubkey
  ofDlc (verifyTxInputSig C refundSignature accepted.dlcTransactions.refund 0 script inputValue
    counterPk)
  let _ ← verifyAdaptorInfos counterPk script inputValue accepted.dlcTransactions.cets adaptorSigs
    (accepted.adaptorInfos.zip offered.contractInfo) 0
  .ok
    ({ acceptedContract := accepted
       adaptorSignatures := some adaptorSigs
       offerRefundSignature := refundSignature
       fundingSignatures, channelId }, accepted.dlcTransactions.fund)

end P2PLending.Manager.Internal
