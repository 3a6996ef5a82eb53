import P2PLending.Channels.Node

/-! The manager's handlers of channel messages and the local user's calls. The
updater's function computes the next channel and the answer; the handler reads the
contracts, registers transactions and stores. -/

namespace P2PLending.Manager.Channels
open Dlc Checked

namespace SignedChannelState

def offersSettlement : SignedChannelState → Bool
  | settledOffered _ => true
  | _ => false

/-- An own renewal offer that has not been answered. -/
def offersRenewal : SignedChannelState → Bool
  | renewOffered s => s.isOffer
  | _ => false

end SignedChannelState

namespace Node

section Source
variable (X : ChannelCrypto) (signer : Signer) {E : SigningDescriptors}
  (env : Environment E.toDescriptors)

section Messages

def onSettleOffer (settleOffer : SettleOffer) (peer : PublicKey) :
    NodeHandler X E.toDescriptors (Option Reject) := do
  let ch ← getSignedChannel settleOffer.channelId (some peer)
  if ch.state.offersSettlement then pure (some { channelId := settleOffer.channelId })
  else do
    let ch' ← Handler.lift (Channels.onSettleOffer X ch settleOffer)
    upsertChannel (.signed ch') none
    pure none

def onSettleAccept (settleAccept : SettleAccept) (peer : PublicKey) :
    NodeHandler X E.toDescriptors SettleConfirm := do
  let ch ← getSignedChannel settleAccept.channelId (some peer)
  let (ch', msg) ← onChainMonitor (settleChannelConfirm X signer env.unixTimeNow ch settleAccept
    cetNsequence 0 peerTimeout)
  upsertChannel (.signed ch') none
  pure msg

/-- `get_signed_channel_rollback_state!` for the state `Established`. -/
def establishedBefore (ch : SignedChannel X) : Result SignedChannelState.Established :=
  match ch.rollBackState with
  | some (.established s) => .ok s
  | _ => .error (.err (.invalidState "Expected rollback state Established"))

/-- The buffer transaction of the state before is revoked, and its contract closed. -/
def finishSettlement (ch : SignedChannel X) (before : SignedChannelState.Established)
    (ownPayout : ℕ) : NodeHandler X E.toDescriptors Unit := do
  onChainMonitor (addTx (before.bufferTransaction.computeTxid X.toCrypto) ch.channelId
    (.revoked (ch.updateIdx + 1) before.ownBufferAdaptorSignature before.isOffer .buffer))
  let closedContract ← getCollaborativelyClosedContract before.signedContractId ownPayout true
  upsertChannel (.signed ch) (some closedContract)
  persistChainMonitor

def onSettleConfirm (settleConfirm : SettleConfirm) (peer : PublicKey) :
    NodeHandler X E.toDescriptors SettleFinalize := do
  let ch ← getSignedChannel settleConfirm.channelId (some peer)
  let ownPayout ← Handler.lift (match ch.state with
    | .settledAccepted s => .ok s.ownPayout
    | _ => expectedState "SettledAccepted")
  let before ← Handler.lift (establishedBefore X ch)
  let (ch', msg) ← Handler.lift (settleChannelFinalize X signer ch settleConfirm)
  finishSettlement X ch' before ownPayout
  pure msg

def onSettleFinalize (settleFinalize : SettleFinalize) (peer : PublicKey) :
    NodeHandler X E.toDescriptors Unit := do
  let ch ← getSignedChannel settleFinalize.channelId (some peer)
  let ownPayout ← Handler.lift (match ch.state with
    | .settledConfirmed s => .ok s.ownPayout
    | _ => expectedState "SettledConfirmed")
  let before ← Handler.lift (establishedBefore X ch)
  let ch' ← Handler.lift (settleChannelOnFinalize X ch settleFinalize)
  finishSettlement X ch' before ownPayout

section Renewal
variable (W : Wire E.toDescriptors)

/-- The offered contract is stored whatever the store has under its id. -/
def onRenewOffer (renewOffer : RenewOffer W.ContractInfo) (peer : PublicKey) :
    NodeHandler X E.toDescriptors (Option Reject) := do
  let ch ← getSignedChannel renewOffer.channelId (some peer)
  if ch.state.offersRenewal then pure (some { channelId := renewOffer.channelId })
  else do
    let (ch', offered) ← Handler.lift (Channels.onRenewOffer X env.unixTimeNow W ch renewOffer
      peerTimeout)
    createContract offered
    upsertChannel (.signed ch') none
    pure none

end Renewal

def associatedContractId (ch : SignedChannel X) (message : String) : Result ContractId :=
  match ch.state.contractId with
  | some contractId => .ok contractId
  | none => .error (.err (.invalidState message))

def expectedContractId : String :=
  "Expected to be in a state with an associated contract id but was not."

def onRenewAccept (renewAccept : RenewAccept) (peer : PublicKey) :
    NodeHandler X E.toDescriptors RenewConfirm := do
  let ch ← getSignedChannel renewAccept.channelId (some peer)
  let contractId ← Handler.lift (associatedContractId X ch expectedContractId)
  let offered ← Handler.read fun n => n.contracts.getOffered contractId (some peer)
  let (ch', signed, msg) ← Handler.lift (verifyRenewAcceptAndConfirm X signer env.unixTimeNow
    renewAccept ch offered cetNsequence peerTimeout)
  upsertChannel (.signed ch') (some (.confirmed signed))
  pure msg

/-- The revoked transaction of the state before a renewal, and its closed contract. The
party is marked as not offering. -/
def renewedFrom (ch : SignedChannel X) (ownPayout : ℕ) (unexpected : String) :
    NodeHandler X E.toDescriptors (TxType × Bytes32 × Option (Contract E.toDescriptors)) :=
  match ch.rollBackState with
  | none => Handler.lift noRollBackState
  | some (.established s) => do
      let closedContract ← getCollaborativelyClosedContract s.signedContractId ownPayout true
      pure (.revoked ch.updateIdx s.ownBufferAdaptorSignature false .buffer,
        s.bufferTransaction.computeTxid X.toCrypto, some closedContract)
  | some (.settled s) => pure
      (.revoked ch.updateIdx s.ownSettleAdaptorSignature false .settle,
        s.settleTx.computeTxid X.toCrypto, none)
  | some _ => Handler.lift (.error (.err (.invalidState unexpected)))

def updateClosed (closedContract : Option (Contract E.toDescriptors)) :
    NodeHandler X E.toDescriptors Unit :=
  match closedContract with
  | some contract => updateContract contract
  | none => pure ()

def onRenewConfirm (renewConfirm : RenewConfirm) (peer : PublicKey) :
    NodeHandler X E.toDescriptors RenewFinalize := do
  let ch ← getSignedChannel renewConfirm.channelId (some peer)
  let ownPayout ← Handler.lift (match ch.state with
    | .renewAccepted s => .ok s.ownPayout
    | _ => expectedState "RenewAccepted")
  let contractId ← Handler.lift (associatedContractId X ch expectedContractId)
  let (txType, prevTxid, closedContract) ← renewedFrom X ch ownPayout
    "Expected rollback state Established or Revoked"
  let accepted ← Handler.read fun n => n.contracts.getAccepted contractId (some peer)
  let (ch', signed, msg) ← onChainMonitor (verifyRenewConfirmAndFinalize X signer env.unixTimeNow
    ch accepted renewConfirm peerTimeout)
  onChainMonitor (addTx prevTxid ch'.channelId txType)
  upsertChannel (.signed ch') (some (.confirmed signed))
  persistChainMonitor
  updateClosed X closedContract
  pure msg

def onRenewFinalize (renewFinalize : RenewFinalize) (peer : PublicKey) :
    NodeHandler X E.toDescriptors RenewRevoke := do
  let ch ← getSignedChannel renewFinalize.channelId (some peer)
  let ownPayout ← Handler.lift (match ch.state with
    | .renewConfirmed s => .ok s.ownPayout
    | _ => expectedState "RenewConfirmed")
  let (txType, prevTxid, closedContract) ← renewedFrom X ch ownPayout
    "Expected rollback state of Established or Settled"
  let (ch', msg) ← Handler.lift (renewChannelOnFinalize X signer ch renewFinalize)
  onChainMonitor (addTx prevTxid ch'.channelId txType)
  let bufferTx ← Handler.lift (match ch'.state with
    | .established s => .ok s.bufferTransaction
    | _ => expectedState "Established")
  onChainMonitor (addTx (bufferTx.computeTxid X.toCrypto) ch'.channelId .bufferTx)
  upsertChannel (.signed ch') none
  persistChainMonitor
  updateClosed X closedContract
  pure msg

def onRenewRevoke (renewRevoke : RenewRevoke) (peer : PublicKey) :
    NodeHandler X E.toDescriptors Unit := do
  let ch ← getSignedChannel renewRevoke.channelId (some peer)
  let ch' ← Handler.lift (renewChannelOnRevoke X ch renewRevoke)
  upsertChannel (.signed ch') none

def onCollaborativeCloseOffer (closeOffer : CollaborativeCloseOffer) (peer : PublicKey) :
    NodeHandler X E.toDescriptors Unit := do
  let ch ← getSignedChannel closeOffer.channelId (some peer)
  let ch' ← Handler.lift (Channels.onCollaborativeCloseOffer X env.unixTimeNow ch closeOffer
    peerTimeout)
  upsertChannel (.signed ch') none

/-- The own renewal offer that a reject takes back. -/
def rejectedContract (ch : SignedChannel X) :
    NodeHandler X E.toDescriptors (Option (Contract E.toDescriptors)) :=
  match ch.state with
  | .renewOffered s => do
      let offered ← Handler.read fun n => n.contracts.getOffered s.offeredContractId none
      pure (some (.rejected offered))
  | _ => pure none

def onReject (reject : Reject) (peer : PublicKey) : NodeHandler X E.toDescriptors Unit := do
  let stored ← Handler.read fun n =>
    .ok (if n.channel.getId = reject.channelId then some n.channel else none)
  match stored with
  | none => pure ()
  | some channel => do
      Handler.lift (ensure (channel.getCounterPartyId = peer)
        (.err (.invalidParameters "Peer is not involved with Channel.")))
      match channel with
      | .signed ch => do
          let contract ← rejectedContract X ch
          let ch' ← Handler.lift (Channels.onReject X ch)
          upsertChannel (.signed ch') contract
      | _ => Handler.lift (.error (.err (.invalidState
          "Not in a state adequate to receive a reject message.")))

end Messages

section Calls

def settleOffer (channelId : ChannelId) (counterPayout : ℕ) :
    NodeHandler X E.toDescriptors SettleOffer := do
  let ch ← getSignedChannel channelId none
  let (ch', msg) ← Handler.lift (settleChannelOffer X signer env.unixTimeNow ch counterPayout
    peerTimeout)
  upsertChannel (.signed ch') none
  pure msg

def acceptSettleOffer (channelId : ChannelId) : NodeHandler X E.toDescriptors SettleAccept := do
  let ch ← getSignedChannel channelId none
  let (ch', msg) ← onChainMonitor (settleChannelAccept X signer env.unixTimeNow ch cetNsequence 0
    peerTimeout)
  upsertChannel (.signed ch') none
  pure msg

def renewOffer {A : Type} (W : Wire E.toDescriptors) (channelId : ChannelId) (counterPayout : ℕ)
    (contractInput : ContractInput E.toDescriptors A)
    (oracleAnnouncements : Result (List (List (OracleAnnouncement A)))) :
    NodeHandler X E.toDescriptors (RenewOffer W.ContractInfo) := do
  let ch ← getSignedChannel channelId none
  let oracleAnnouncements ← Handler.lift oracleAnnouncements
  let (ch', msg, offered) ← Handler.lift (Channels.renewOffer X signer env.unixTimeNow W ch
    contractInput oracleAnnouncements counterPayout refundDelay peerTimeout cetNsequence
    env.getNewSerialId)
  upsertChannel (.signed ch') (some (.offered offered))
  pure msg

def acceptRenewOffer (channelId : ChannelId) : NodeHandler X E.toDescriptors RenewAccept := do
  let ch ← getSignedChannel channelId none
  let contractId ← Handler.lift (associatedContractId X ch
    "Expected to have a contract id but did not.")
  let offered ← Handler.read fun n => n.contracts.getOffered contractId none
  let (ch', accepted, msg) ← Handler.lift (acceptChannelRenewal X signer env.unixTimeNow ch offered
    cetNsequence peerTimeout)
  upsertChannel (.signed ch') (some (.accepted accepted))
  pure msg

def rejectRenewOffer (channelId : ChannelId) : NodeHandler X E.toDescriptors Reject := do
  let ch ← getSignedChannel channelId none
  let contractId ← Handler.lift (associatedContractId X ch expectedContractId)
  let offered ← Handler.read fun n => n.contracts.getOffered contractId none
  let (ch', msg) ← Handler.lift (Channels.rejectRenewOffer X ch)
  upsertChannel (.signed ch') (some (.rejected offered))
  pure msg

def rejectSettleOffer (channelId : ChannelId) : NodeHandler X E.toDescriptors Reject := do
  let ch ← getSignedChannel channelId none
  let (ch', msg) ← Handler.lift (Channels.rejectSettleOffer X ch)
  upsertChannel (.signed ch') none
  pure msg

def offerCollaborativeClose (channelId : ChannelId) (counterPayout : ℕ) :
    NodeHandler X E.toDescriptors CollaborativeCloseOffer := do
  let ch ← getSignedChannel channelId none
  let (ch', msg, closeTx) ← Handler.lift (Channels.offerCollaborativeClose X signer
    env.unixTimeNow ch counterPayout)
  onChainMonitor (addTx (closeTx.computeTxid X.toCrypto) channelId .collaborativeClose)
  upsertChannel (.signed ch') none
  persistChainMonitor
  pure msg

/-- The contract that a collaborative close ends, when one was established before. -/
def collaborativelyClosed (ch : SignedChannel X) (isOwnPayout : Bool) :
    NodeHandler X E.toDescriptors (Option (Contract E.toDescriptors)) :=
  match ch.rollBackState with
  | some (.established s) => do
      let counterPayout ← Handler.lift (match ch.state with
        | .collaborativeCloseOffered c => .ok c.counterPayout
        | _ => expectedState "CollaborativeCloseOffered")
      let closedContract ← getCollaborativelyClosedContract s.signedContractId counterPayout
        isOwnPayout
      pure (some closedContract)
  | _ => pure none

def acceptCollaborativeClose (channelId : ChannelId) : NodeHandler X E.toDescriptors Unit := do
  let ch ← getSignedChannel channelId none
  let closedContract ← collaborativelyClosed X ch true
  let (closeTx, closedChannel) ← Handler.lift (acceptCollaborativeCloseOffer X signer ch)
  broadcast env (.close closeTx)
  upsertChannel closedChannel none
  updateClosed X closedContract

end Calls

section ForceClose

def initiateUnilateralCloseEstablishedChannel (ch : SignedChannel X) (isInitiator : Bool)
    (bufferAdaptorSignature : AdaptorSignature) (bufferTransaction : Transaction) :
    NodeHandler X E.toDescriptors Unit := do
  let (ch', bufferTx) ← Handler.lift (Channels.initiateUnilateralCloseEstablishedChannel X signer
    ch bufferAdaptorSignature ch.state.keysId bufferTransaction isInitiator)
  broadcast env (.buffer bufferTx ch.ownPerUpdatePoint)
  onChainMonitor (Handler.modify fun m => m.removeTx (bufferTx.computeTxid X.toCrypto))
  upsertChannel (.signed ch') none
  persistChainMonitor

def closeSettledChannel (ch : SignedChannel X) (isInitiator : Bool) :
    NodeHandler X E.toDescriptors Unit := do
  let (settleTx, closedChannel) ← Handler.lift (Channels.closeSettledChannel X signer ch isInitiator)
  let confirmations :=
    (env.getTransactionConfirmations (settleTx.computeTxid X.toCrypto)).toOption.getD 0
  if confirmations = 0 then broadcast env (.settle settleTx ch.ownPerUpdatePoint) else pure ()
  cleanupChannel ch.channelId
  upsertChannel closedChannel none

/-- Closing from a state to stay in; `otherwise` is for the states of an update. -/
def forceCloseFrom (ch : SignedChannel X) (isInitiator : Bool)
    (otherwise : NodeHandler X E.toDescriptors Unit) : NodeHandler X E.toDescriptors Unit :=
  match ch.state with
  | .established s => initiateUnilateralCloseEstablishedChannel X signer env ch isInitiator
      s.counterBufferAdaptorSignature s.bufferTransaction
  | .renewFinalized s => initiateUnilateralCloseEstablishedChannel X signer env ch isInitiator
      s.offerBufferAdaptorSignature s.bufferTransaction
  | .settled _ => closeSettledChannel X signer env ch isInitiator
  | .closing _ => Handler.lift (.error (.err (.invalidState "Channel is already closing.")))
  | .settledOffered _ | .settledReceived _ | .settledAccepted _ | .settledConfirmed _
  | .renewOffered _ | .renewAccepted _ | .renewConfirmed _ | .collaborativeCloseOffered _ =>
      otherwise

/-- A channel that has been rolled back has no state left to go back to. -/
def forceCloseChannelInternal (ch : SignedChannel X) (isInitiator : Bool) :
    NodeHandler X E.toDescriptors Unit :=
  forceCloseFrom X signer env ch isInitiator do
    let before ← Handler.lift ch.rollBack
    forceCloseFrom X signer env before isInitiator (Handler.lift noRollBackState)

def forceCloseChannel (channelId : ChannelId) : NodeHandler X E.toDescriptors Unit := do
  let ch ← getSignedChannel channelId none
  forceCloseChannelInternal X signer env ch true

end ForceClose

end Source

end Node

end P2PLending.Manager.Channels
