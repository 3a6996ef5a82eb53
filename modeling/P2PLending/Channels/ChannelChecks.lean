import P2PLending.Channels.ChannelHandlers

/-! The periodic checks of a channel: the CET of a closing channel, the time-outs, and
what a confirmed watched transaction does. Errors of the first two are logged. -/

namespace P2PLending.Manager.Channels.Node
open Dlc Checked

variable (X : ChannelCrypto) (signer : Signer) {E : SigningDescriptors}
  (env : Environment E.toDescriptors)

section Closing

/-- The own profit or loss, which has to fit. -/
def computePnl (contract : AcceptedContract E.toDescriptors) (cet : Transaction) : Result ℤ := do
  let offered := contract.offeredContract
  let params := if offered.isOfferParty then offered.offerParams else contract.acceptParams
  let paid := cet.output.find? fun output => output.scriptPubkey = params.payoutScriptPubkey
  let finalPayout := (paid.map TxOut.value).getD 0
  ensure (finalPayout < 2 ^ 63) (.err .outOfRange)
  ensure (params.collateral < 2 ^ 63) (.err .outOfRange)
  .ok (finalPayout - params.collateral)

def closeContract (contract : SignedContract E.toDescriptors) (signedCet : Transaction) :
    NodeHandler X E.toDescriptors (Contract E.toDescriptors) := do
  let confirmations ← Handler.lift
    (env.getTransactionConfirmations (signedCet.computeTxid X.toCrypto))
  if confirmations < 1 then do
    broadcast env (.cet signedCet)
    pure (.preClosed { signedContract := contract, signedCet })
  else if confirmations < nbConfirmations then
    pure (.preClosed { signedContract := contract, signedCet })
  else do
    let _pnl ← Handler.lift (computePnl contract.acceptedContract signedCet)
    let contractId ← Handler.lift (contract.acceptedContract.getContractId X.toCrypto)
    let offered := contract.acceptedContract.offeredContract
    pure (.closed
      { signedCet := some signedCet
        contractId
        temporaryContractId := offered.id
        counterPartyId := offered.counterParty })

def closableContractInfo (contract : SignedContract E.toDescriptors) :
    Result (E.ContractInfo × E.AdaptorInfo × List (ℕ × E.OracleAttestation)) :=
  match env.getClosableContractInfo contract with
  | some info => .ok info
  | none => .error (.err (.invalidState "Could not get information to close contract"))

def tryFinalizeClosingEstablishedChannel (ch : SignedChannel X) :
    NodeHandler X E.toDescriptors Unit := do
  let closing ← Handler.lift (match ch.state with
    | .closing s => .ok s
    | _ => expectedState "Closing")
  let confirmations ← Handler.lift
    (env.getTransactionConfirmations (closing.bufferTransaction.computeTxid X.toCrypto))
  if cetNsequence ≤ confirmations then do
    let contract ← Handler.read fun n => n.contracts.getConfirmed closing.contractId none
    let (contractInfo, adaptorInfo, attestations) ← Handler.lift (closableContractInfo env contract)
    let (signedCet, closedChannel) ← Handler.lift (finalizeUnilateralCloseSettledChannel X signer
      ch contract contractInfo attestations adaptorInfo closing.isInitiator)
    let closedContract ← closeContract X env contract signedCet
    cleanupChannel ch.channelId
    upsertChannel closedChannel (some closedContract)
  else pure ()

end Closing

section TimeOuts

/-- A logged error; a panic is none. -/
def logged (h : NodeHandler X E.toDescriptors Unit) : NodeHandler X E.toDescriptors Unit := fun n =>
  match h n with
  | (.error (.err _), n') => (.ok (), n')
  | result => result

/-- `check_for_timed_out_channels!` for the states with the given time-out. -/
def checkTimedOut (timeout : SignedChannelState → Option ℕ) :
    NodeHandler X E.toDescriptors Unit := fun n =>
  match n.channel with
  | .signed ch =>
      if (timeout ch.state).any (· < env.unixTimeNow) then
        logged X (forceCloseChannelInternal X signer env ch true) n
      else (.ok (), n)
  | _ => (.ok (), n)

def checkForTimedOutChannels : NodeHandler X E.toDescriptors Unit := do
  checkTimedOut X signer env fun | .renewOffered s => some s.timeout | _ => none
  checkTimedOut X signer env fun | .renewAccepted s => some s.timeout | _ => none
  checkTimedOut X signer env fun | .renewConfirmed s => some s.timeout | _ => none
  checkTimedOut X signer env fun | .settledOffered s => some s.timeout | _ => none
  checkTimedOut X signer env fun | .settledAccepted s => some s.timeout | _ => none
  checkTimedOut X signer env fun | .settledConfirmed s => some s.timeout | _ => none

end TimeOuts

section Watched

/-- The own signature in the witness of a published transaction, without its last byte. -/
def publishedSignature (ch : SignedChannel X) (tx : Transaction) : Result Signature := do
  let input ← index tx.input 0
  let position := if ch.ownParams.fundPubkey < ch.counterParams.fundPubkey then 1 else 2
  let witness ← index input.witness position
  ensure (witness ≠ []) (.panic "attempt to subtract with overflow")
  match X.parseDer witness.dropLast with
  | some signature => .ok signature
  | none => .error (.err .secpError)

/-- The transaction that takes the counterparty's output of a revoked transaction. -/
def punish (ch : SignedChannel X) (tx : Transaction) (updateIdx : ℕ)
    (ownAdaptorSignature : AdaptorSignature) (isOffer : Bool) (revokedTxType : RevokedTxType) :
    Result Transaction := do
  let counterPerUpdateSecret ← match X.getSecret ch.counterPartyCommitmentSecrets updateIdx with
    | some secret => Except.ok secret
    | none => .error (.panic "to be able to retrieve the per update secret")
  let seed ← ch.seed signer
  let perUpdateSecret ← commitmentSecret X validSecret seed updateIdx
  let perUpdatePoint := X.publicKey perUpdateSecret
  let ownRevocationParams := ch.ownRevokeParams perUpdatePoint
  let counterPerUpdatePoint := X.publicKey counterPerUpdateSecret
  let baseOwnSk ← signer.getSecretKeyForPubkey ch.ownPoints.ownBasepoint
  let ownSk := X.derivePrivateKey perUpdatePoint baseOwnSk
  let counterRevocationParams := ch.counterRevokeParams counterPerUpdatePoint
  let ownSig ← publishedSignature X ch tx
  let counterSk ← match X.recover ownAdaptorSignature ownSig counterRevocationParams.publishPk with
    | some sk => Except.ok sk
    | none => .error (.err .secpError)
  let ownRevocationBaseSecret ← signer.getSecretKeyForPubkey ch.ownPoints.revocationBasepoint
  let counterRevocationSk :=
    X.derivePrivateRevocationKey counterPerUpdateSecret ownRevocationBaseSecret
  let (offerParams, acceptParams) :=
    if isOffer then (ownRevocationParams, counterRevocationParams)
    else (counterRevocationParams, ownRevocationParams)
  let feeRatePerVb := env.getEstSatPer1000Weight / 250
  let destSpk ← env.getNewAddress
  match revokedTxType with
  | .buffer => ofDlc (createAndSignPunishBufferTransaction X ownSk counterSk counterRevocationSk tx
      destSpk 0 feeRatePerVb offerParams acceptParams)
  | .settle => ofDlc (createAndSignPunishSettleTransaction X ownSk counterSk counterRevocationSk tx
      destSpk 0 feeRatePerVb offerParams acceptParams cetNsequence isOffer)

section Seen
variable (ch : SignedChannel X) (tx : Transaction)

/-- The counterparty closes: the contract is the one the state names. -/
def onBufferTx : NodeHandler X E.toDescriptors Unit := do
  let contractId ← Handler.lift (match ch.state.contractId with
    | some contractId => .ok contractId
    | none => .error (.panic "to have a contract id"))
  let state := .closing
    { bufferTransaction := tx, contractId, isInitiator := false, keysId := ch.state.keysId }
  upsertChannel (.signed (ch.enter state)) none

/-- The channel is finished once the punishment has been sent. -/
def onRevoked (updateIdx : ℕ) (ownAdaptorSignature : AdaptorSignature) (isOffer : Bool)
    (revokedTxType : RevokedTxType) : NodeHandler X E.toDescriptors Unit := do
  let signedTx ← Handler.lift
    (punish X signer env ch tx updateIdx ownAdaptorSignature isOffer revokedTxType)
  broadcast env (.punishment signedTx)
  cleanupChannel ch.channelId
  upsertChannel (.closedPunished ch.closedChannel (signedTx.computeTxid X.toCrypto)) none
  persistChainMonitor

def onCollaborativeClose : NodeHandler X E.toDescriptors Unit := do
  let closedContract ← collaborativelyClosed X ch false
  updateClosed X closedContract
  cleanupChannel ch.channelId
  upsertChannel (.collaborativelyClosed ch.closedChannel) none
  persistChainMonitor

def onSettleTx : NodeHandler X E.toDescriptors Unit := do
  cleanupChannel ch.channelId
  upsertChannel (.counterClosed ch.closedChannel) none
  persistChainMonitor

def onCet : NodeHandler X E.toDescriptors Unit := do
  let isInitiator := match ch.state with
    | .closing s => s.isInitiator
    | _ => true
  let closedChannel := if isInitiator then .closed ch.closedChannel
    else .counterClosed ch.closedChannel
  cleanupChannel ch.channelId
  let contract ← Handler.read fun n => .ok (ch.state.contractId.bind n.contracts)
  let preClosedContract := (contract.bind Contract.confirmed?).map fun signedContract =>
    .preClosed { signedContract, signedCet := tx }
  upsertChannel closedChannel preClosedContract
  persistChainMonitor

/-- The channel after a watched transaction of it has confirmed. -/
def processSigned : TxType → NodeHandler X E.toDescriptors Unit
  | .bufferTx => onBufferTx X ch tx
  | .revoked updateIdx ownAdaptorSignature isOffer revokedTxType =>
      onRevoked X signer env ch tx updateIdx ownAdaptorSignature isOffer revokedTxType
  | .collaborativeClose => onCollaborativeClose X ch
  | .settleTx => onSettleTx X ch
  | .cet => onCet X ch tx

end Seen

/-- A transaction of a channel that is no longer signed is skipped. -/
def processWatchedTx (watched : Transaction × ChannelInfo) : NodeHandler X E.toDescriptors Unit :=
  fun n =>
    match n.getSigned watched.2.channelId none with
    | .ok ch => processSigned X signer env ch watched.1 watched.2.txType n
    | .error _ => (.ok (), n)

def processWatchedTxs : List (Transaction × ChannelInfo) → NodeHandler X E.toDescriptors Unit
  | [] => pure ()
  | watched :: watchedTxs => do
      processWatchedTx X signer env watched
      processWatchedTxs watchedTxs

def checkForWatchedTx : NodeHandler X E.toDescriptors Unit := do
  let confirmedTxs ← Handler.read fun n => .ok (env.confirmedTxs n.chainMonitor)
  processWatchedTxs X signer env confirmedTxs
  persistChainMonitor

end Watched

/-- The CETs of closing channels, `get_signed_channels` having read the store. -/
def checkClosingChannels : NodeHandler X E.toDescriptors Unit := fun n =>
  match n.channel with
  | .signed ch =>
      match ch.state with
      | .closing _ => logged X (tryFinalizeClosingEstablishedChannel X signer env ch) n
      | _ => (.ok (), n)
  | _ => (.ok (), n)

def channelChecks : NodeHandler X E.toDescriptors Unit := do
  checkClosingChannels X signer env
  checkForTimedOutChannels X signer env
  checkForWatchedTx X signer env

/-- The blocks since the last check, from the one after the last height on. -/
def periodicChainMonitor : List (List Transaction) → NodeHandler X E.toDescriptors Unit
  | [] => pure ()
  | txdata :: blocks => do
      let chainMonitor ← Handler.read fun n =>
        n.chainMonitor.processBlock X.toCrypto txdata (n.chainMonitor.lastHeight + 1)
      Handler.modify fun n => { n with chainMonitor }
      periodicChainMonitor blocks

/-- The process stops and starts again from what is on disk. -/
def restart : NodeHandler X E.toDescriptors Unit :=
  Handler.modify fun n => { n with chainMonitor := n.persistedChainMonitor }

end P2PLending.Manager.Channels.Node
