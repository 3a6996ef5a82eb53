import P2PLending.Channels.ChannelRuns
import P2PLending.Manager.Closing

/-! The periodic check of the contracts: signed ones until their fund transaction is final,
confirmed ones until their oracles attest or their refund is due, closed ones until the
closing transaction is final. An error is logged and the loop goes on. -/

namespace P2PLending.Manager.Channels
open Dlc Checked

/-- The answers of one check; a write to the store is answered by contract. -/
structure CheckAnswers (D : Descriptors) extends Environment D where
  writeStore : Contract D → Except Error Unit

/-- The stored contracts and the transactions that were sent for them. -/
structure Desk (D : Descriptors) where
  contracts : Store D
  sent : List Transaction

abbrev DeskHandler (D : Descriptors) := Handler (Desk D) (Fault Error)

/-- A logged error; a panic is none. -/
def logErrors {σ : Type} (h : Handler σ (Fault Error) Unit) : Handler σ (Fault Error) Unit :=
  fun s => match h s with
    | (.error (.err _), s') => (.ok (), s')
    | result => result

namespace Desk
variable (C : Crypto) (signer : Signer) {E : SigningDescriptors} (env : CheckAnswers E.toDescriptors)

section Source

def updateContract (contract : Contract E.toDescriptors) : DeskHandler E.toDescriptors Unit := do
  let contracts ← Handler.read fun d => d.contracts.updateContract C contract
  Handler.lift (answered (env.writeStore contract))
  Handler.modify fun d => { d with contracts }

def sendTransaction (tx : Transaction) : DeskHandler E.toDescriptors Unit := do
  Handler.modify fun d => { d with sent := d.sent ++ [tx] }
  Handler.lift (env.sendTransaction tx)

/-- The contract that a final closing transaction leaves. -/
def closedContract (contract : SignedContract E.toDescriptors) (signedCet : Transaction) :
    Result (Contract E.toDescriptors) := do
  let contractId ← contract.acceptedContract.getContractId C
  let offered := contract.acceptedContract.offeredContract
  let _pnl ← Node.computePnl contract.acceptedContract signedCet
  .ok (.closed
    { signedCet := some signedCet
      contractId
      temporaryContractId := offered.id
      counterPartyId := offered.counterParty })

def closeContract (contract : SignedContract E.toDescriptors) (signedCet : Transaction) :
    DeskHandler E.toDescriptors (Contract E.toDescriptors) := do
  let confirmations ← Handler.lift (env.getTransactionConfirmations (signedCet.computeTxid C))
  if confirmations < 1 then do
    sendTransaction env signedCet
    pure (.preClosed { signedContract := contract, signedCet })
  else if confirmations < nbConfirmations then
    pure (.preClosed { signedContract := contract, signedCet })
  else Handler.lift (closedContract C contract signedCet)

def checkSignedContract (contract : SignedContract E.toDescriptors) :
    DeskHandler E.toDescriptors Unit := do
  let confirmations ← Handler.lift (env.getTransactionConfirmations
    (contract.acceptedContract.dlcTransactions.fund.computeTxid C))
  if nbConfirmations ≤ confirmations then updateContract C env (.confirmed contract) else pure ()

/-- The own signer's refund is sent while none is known. -/
def sendRefund (contract : SignedContract E.toDescriptors) : DeskHandler E.toDescriptors Unit := do
  let contractSigner ← Handler.lift
    (signer.deriveContractSigner contract.acceptedContract.offeredContract.keysId)
  let refund ← Handler.lift (getSignedRefund C contract contractSigner)
  sendTransaction env refund

def checkRefund (contract : SignedContract E.toDescriptors) : DeskHandler E.toDescriptors Unit :=
  let refund := contract.acceptedContract.dlcTransactions.refund
  if refund.lockTime ≤ env.unixTimeNow then do
    let confirmations ← Handler.lift (env.getTransactionConfirmations (refund.computeTxid C))
    if confirmations = 0 then sendRefund C signer env contract else pure ()
    updateContract C env (.refunded contract)
  else pure ()

def checkConfirmedContract (contract : SignedContract E.toDescriptors) :
    DeskHandler E.toDescriptors Unit :=
  match env.getClosableContractInfo contract with
  | some (contractInfo, adaptorInfo, attestations) => do
      let contractSigner ← Handler.lift
        (signer.deriveContractSigner contract.acceptedContract.offeredContract.keysId)
      let cet ← Handler.lift
        (getSignedCet C contract contractInfo adaptorInfo attestations contractSigner)
      let closed ← closeContract C env contract cet
      updateContract C env closed
  | none => checkRefund C signer env contract

def checkPreclosedContract (contract : PreClosedContract E.toDescriptors) :
    DeskHandler E.toDescriptors Unit := do
  let confirmations ← Handler.lift
    (env.getTransactionConfirmations (contract.signedCet.computeTxid C))
  if nbConfirmations ≤ confirmations then do
    let closed ← Handler.lift (closedContract C contract.signedContract contract.signedCet)
    updateContract C env closed
  else pure ()

/-- A contract of a channel is left to the checks of the channels. -/
def checkConfirmed (contract : SignedContract E.toDescriptors) :
    DeskHandler E.toDescriptors Unit :=
  if contract.channelId.isSome then pure ()
  else logErrors (checkConfirmedContract C signer env contract)

end Source

/-! The refund of a confirmed contract whose oracles are silent. -/

/-- What is sent for a contract, whatever is stored. -/
def sentFor (contract : SignedContract E.toDescriptors) (contracts : Store E.toDescriptors) :
    List Transaction :=
  (checkConfirmed C signer env contract ⟨contracts, []⟩).2.sent

/-- The contract's refund is among the transactions, with a witness that the output takes. -/
def Refunds (contract : SignedContract E.toDescriptors) (script : ClosingScript) (output : TxOut)
    (sent : List Transaction) : Prop :=
  ∃ tx ∈ sent, tx.unsigned = contract.acceptedContract.dlcTransactions.refund.unsigned ∧
    spends C tx 0 output script.ops = true

/-- The oracles are silent and the refund is due: it spends an output between the own key
and the counterparty's, whose signature has verified. -/
structure Due (contract : SignedContract E.toDescriptors) (script : ClosingScript)
    (other : PublicKey) (sk : SecretKey) (output : TxOut) : Prop where
  silent : env.getClosableContractInfo contract = none
  locktime : contract.acceptedContract.dlcTransactions.refund.lockTime ≤ env.unixTimeNow
  unknown : env.getTransactionConfirmations
    (contract.acceptedContract.dlcTransactions.refund.computeTxid C) = .ok 0
  taken : ∀ tx, env.sendTransaction tx = .ok ()
  signs : ∃ contractSigner,
    signer.deriveContractSigner contract.acceptedContract.offeredContract.keysId =
      .ok contractSigner ∧ contractSigner.secretKey = .ok sk
  counter : contract.otherFundPubkey = other
  funded : contract.FundedBy C script output
  input : 0 < contract.acceptedContract.dlcTransactions.refund.input.length
  verified : signatureValid C contract.acceptedContract.dlcTransactions.refund 0 output.value
    script.ops contract.otherRefundSignature other = true

variable {C signer env} {contract : SignedContract E.toDescriptors}

theorem getSignedRefund_exists {script : ClosingScript} {output : TxOut} {sk : SecretKey}
    {contractSigner : ContractSigner} (funded : contract.FundedBy C script output)
    (signs : contractSigner.secretKey = .ok sk)
    (input : 0 < contract.acceptedContract.dlcTransactions.refund.input.length) :
    ∃ refund, getSignedRefund C contract contractSigner = .ok refund := by
  obtain ⟨sig, signed⟩ := getSigForTxInput_exists (C := C)
    contract.acceptedContract.dlcTransactions.refund
    contract.acceptedContract.dlcTransactions.fundingScriptPubkey output.value sk input
  refine ⟨contract.acceptedContract.dlcTransactions.refund.setWitness 0
    [[], sig, finalizeSig C contract.otherRefundSignature,
      contract.acceptedContract.dlcTransactions.fundingScriptPubkey], ?_⟩
  simp only [getSignedRefund, bind_eq_ok, ofDlc_eq_ok]
  refine ⟨output, funded.found, sk, signs, ?_⟩
  rw [signMultiSigInput, signed, SignedContract.otherRefundSignature]
  split
  · rfl
  · rfl

/-- The signed refund is the refund with a witness. -/
theorem getSignedRefund_unsigned {contractSigner : ContractSigner} {refund : Transaction}
    (built : getSignedRefund C contract contractSigner = .ok refund) :
    refund.unsigned = contract.acceptedContract.dlcTransactions.refund.unsigned := by
  obtain ⟨_, _, _, _, signed⟩ := getSignedRefund_ok built
  rw [(signMultiSigInput_ok signed).2, Transaction.setWitness_unsigned]

/-- A write after the broadcast sends nothing. -/
theorem updateContract_sent (c : Contract E.toDescriptors) (d : Desk E.toDescriptors) :
    (updateContract C env c d).2.sent = d.sent := by
  rw [updateContract, Handler.read_bind]
  split
  · rw [Handler.lift_bind]
    split
    · rfl
    · rfl
  · rfl

theorem logErrors_state {σ : Type} (h : Handler σ (Fault Error) Unit) (s : σ) :
    (logErrors h s).2 = (h s).2 := by
  unfold logErrors
  split
  · next ran => rw [ran]
  · rfl

/-- Exactly the signed refund is sent for a contract that is due. -/
theorem Due.sentFor {script : ClosingScript} {other : PublicKey} {sk : SecretKey} {output : TxOut}
    (due : Due C signer env contract script other sk output) (plain : contract.channelId = none)
    (contracts : Store E.toDescriptors) :
    ∃ contractSigner refund, contractSigner.secretKey = .ok sk ∧
      getSignedRefund C contract contractSigner = .ok refund ∧
      Desk.sentFor C signer env contract contracts = [refund] := by
  obtain ⟨contractSigner, derived, secret⟩ := due.signs
  obtain ⟨refund, built⟩ := getSignedRefund_exists due.funded secret due.input
  refine ⟨contractSigner, refund, secret, built, ?_⟩
  have sends : sendRefund C signer env contract ⟨contracts, []⟩ =
      (.ok (), ⟨contracts, [refund]⟩) := by
    simp only [sendRefund, derived, built, Handler.lift_bind, sendTransaction, Handler.modify_bind,
      Handler.lift, due.taken, List.nil_append]
  rw [Desk.sentFor, checkConfirmed, plain, if_neg (by simp), logErrors_state,
    checkConfirmedContract, due.silent]
  simp only [checkRefund, due.locktime, if_true, due.unknown, Handler.lift_bind]
  rw [Handler.bind_apply, sends]
  exact updateContract_sent _ _

end Desk

def refundCrypto : ChannelCrypto :=
  { sampleChannelCrypto with toAdaptorCrypto := sampleAdaptorCrypto }

def refundSigning : SigningDescriptors :=
  { sampleDescriptors with
    verifyAdaptorInfo := fun _ _ _ _ _ _ adaptorSigStart _ => .ok adaptorSigStart }

def refundSigner (key : PublicKey) (sk : SecretKey) : Signer where
  getSecretKeyForPubkey _ := .ok sk
  deriveContractSigner _ := .ok ⟨.ok key, .ok sk⟩

def silentAnswers : CheckAnswers refundSigning.toDescriptors where
  unixTimeNow := 1000
  sendTransaction _ := .ok ()
  getTransactionConfirmations _ := .ok 0
  getClosableContractInfo _ := none
  confirmedTxs _ := []
  getNewAddress := .ok sampleSpk₁
  getNewSerialId := 9
  getEstSatPer1000Weight := 250
  writeStore _ := .ok ()

def noContracts : Store refundSigning.toDescriptors := fun _ => none

end P2PLending.Manager.Channels
