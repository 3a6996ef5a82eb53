import P2PLending.Dlc.ChannelTransactions
import P2PLending.Manager.Contracts

/-! A signed channel in its twelve states, and the messages of its settle, renew and
close protocols. -/

namespace P2PLending.Manager.Channels
open Dlc Checked

abbrev ChannelId := Bytes32

/-- Base points a party derives its revocation keys from. -/
structure PartyBasePoints where
  ownBasepoint : PublicKey
  revocationBasepoint : PublicKey
  publishBasepoint : PublicKey
  deriving DecidableEq, Repr

section Points
variable (X : ChannelCrypto) (points : PartyBasePoints) (perUpdatePoint : PublicKey)

namespace PartyBasePoints

def getRevokableParams (countersignatoryRevocationBasepoint : PublicKey) : RevokeParams where
  ownPk := X.derivePublicKey perUpdatePoint points.ownBasepoint
  publishPk := X.derivePublicKey perUpdatePoint points.publishBasepoint
  revokePk := X.derivePublicRevocationKey perUpdatePoint countersignatoryRevocationBasepoint

def getOwnPk : PublicKey := X.derivePublicKey perUpdatePoint points.ownBasepoint

def getPublishPk : PublicKey := X.derivePublicKey perUpdatePoint points.publishBasepoint

end PartyBasePoints
end Points

namespace SignedChannelState

structure Established where
  signedContractId : ContractId
  counterBufferAdaptorSignature : AdaptorSignature
  ownBufferAdaptorSignature : AdaptorSignature
  bufferTransaction : Transaction
  isOffer : Bool
  totalCollateral : ℕ
  keysId : KeysId
  deriving DecidableEq, Repr

structure SettledOffered where
  counterPayout : ℕ
  nextPerUpdatePoint : PublicKey
  timeout : ℕ
  keysId : KeysId
  deriving DecidableEq, Repr

structure SettledReceived where
  ownPayout : ℕ
  counterPayout : ℕ
  counterNextPerUpdatePoint : PublicKey
  keysId : KeysId
  deriving DecidableEq, Repr

structure SettledAccepted where
  counterNextPerUpdatePoint : PublicKey
  ownNextPerUpdatePoint : PublicKey
  ownSettleAdaptorSignature : AdaptorSignature
  settleTx : Transaction
  timeout : ℕ
  ownPayout : ℕ
  counterPayout : ℕ
  keysId : KeysId
  deriving DecidableEq, Repr

structure SettledConfirmed where
  settleTx : Transaction
  counterSettleAdaptorSignature : AdaptorSignature
  counterNextPerUpdatePoint : PublicKey
  ownNextPerUpdatePoint : PublicKey
  ownSettleAdaptorSignature : AdaptorSignature
  timeout : ℕ
  ownPayout : ℕ
  counterPayout : ℕ
  keysId : KeysId
  deriving DecidableEq, Repr

structure Settled where
  settleTx : Transaction
  counterSettleAdaptorSignature : AdaptorSignature
  ownSettleAdaptorSignature : AdaptorSignature
  ownPayout : ℕ
  counterPayout : ℕ
  keysId : KeysId
  deriving DecidableEq, Repr

structure RenewOffered where
  offeredContractId : ContractId
  counterPayout : ℕ
  offerNextPerUpdatePoint : PublicKey
  isOffer : Bool
  timeout : ℕ
  keysId : KeysId
  deriving DecidableEq, Repr

structure RenewAccepted where
  contractId : ContractId
  offerPerUpdatePoint : PublicKey
  acceptPerUpdatePoint : PublicKey
  bufferTransaction : Transaction
  bufferScriptPubkey : Bytes
  timeout : ℕ
  ownPayout : ℕ
  keysId : KeysId
  deriving DecidableEq, Repr

structure RenewConfirmed where
  contractId : ContractId
  offerPerUpdatePoint : PublicKey
  acceptPerUpdatePoint : PublicKey
  bufferTransaction : Transaction
  bufferScriptPubkey : Bytes
  offerBufferAdaptorSignature : AdaptorSignature
  timeout : ℕ
  ownPayout : ℕ
  totalCollateral : ℕ
  keysId : KeysId
  deriving DecidableEq, Repr

structure RenewFinalized where
  contractId : ContractId
  prevOfferPerUpdatePoint : PublicKey
  bufferTransaction : Transaction
  bufferScriptPubkey : Bytes
  offerBufferAdaptorSignature : AdaptorSignature
  acceptBufferAdaptorSignature : AdaptorSignature
  timeout : ℕ
  ownPayout : ℕ
  totalCollateral : ℕ
  keysId : KeysId
  deriving DecidableEq, Repr

structure Closing where
  bufferTransaction : Transaction
  contractId : ContractId
  isInitiator : Bool
  keysId : KeysId
  deriving DecidableEq, Repr

structure CollaborativeCloseOffered where
  counterPayout : ℕ
  offerSignature : Signature
  closeTx : Transaction
  timeout : ℕ
  keysId : KeysId
  deriving DecidableEq, Repr

end SignedChannelState

inductive SignedChannelState
  | established (s : SignedChannelState.Established)
  | settledOffered (s : SignedChannelState.SettledOffered)
  | settledReceived (s : SignedChannelState.SettledReceived)
  | settledAccepted (s : SignedChannelState.SettledAccepted)
  | settledConfirmed (s : SignedChannelState.SettledConfirmed)
  | settled (s : SignedChannelState.Settled)
  | renewOffered (s : SignedChannelState.RenewOffered)
  | renewAccepted (s : SignedChannelState.RenewAccepted)
  | renewConfirmed (s : SignedChannelState.RenewConfirmed)
  | renewFinalized (s : SignedChannelState.RenewFinalized)
  | closing (s : SignedChannelState.Closing)
  | collaborativeCloseOffered (s : SignedChannelState.CollaborativeCloseOffered)
  deriving DecidableEq, Repr

def SignedChannelState.keysId : SignedChannelState → KeysId
  | .established s => s.keysId
  | .settledOffered s => s.keysId
  | .settledReceived s => s.keysId
  | .settledAccepted s => s.keysId
  | .settledConfirmed s => s.keysId
  | .settled s => s.keysId
  | .renewOffered s => s.keysId
  | .renewAccepted s => s.keysId
  | .renewConfirmed s => s.keysId
  | .renewFinalized s => s.keysId
  | .closing s => s.keysId
  | .collaborativeCloseOffered s => s.keysId

def SignedChannelState.contractId : SignedChannelState → Option ContractId
  | .established s => some s.signedContractId
  | .renewOffered s => some s.offeredContractId
  | .renewAccepted s => some s.contractId
  | .renewConfirmed s => some s.contractId
  | .renewFinalized s => some s.contractId
  | .closing s => some s.contractId
  | _ => none

structure SignedChannel (X : ChannelCrypto) where
  channelId : ChannelId
  counterParty : PublicKey
  temporaryChannelId : ChannelId
  ownParams : PartyParams
  ownPoints : PartyBasePoints
  ownPerUpdatePoint : PublicKey
  ownPerUpdateSeed : PublicKey
  counterPoints : PartyBasePoints
  counterPerUpdatePoint : PublicKey
  counterParams : PartyParams
  state : SignedChannelState
  updateIdx : ℕ
  fundTx : Transaction
  fundScriptPubkey : Bytes
  fundOutputIndex : ℕ
  rollBackState : Option SignedChannelState
  counterPartyCommitmentSecrets : X.Secrets
  feeRatePerVb : ℕ

structure ClosedChannel where
  counterParty : PublicKey
  temporaryChannelId : ChannelId
  channelId : ChannelId
  deriving DecidableEq, Repr

/-- The records of a channel that has been signed. -/
inductive ChannelRecord (X : ChannelCrypto)
  | signed (ch : SignedChannel X)
  | closed (c : ClosedChannel)
  | counterClosed (c : ClosedChannel)
  | collaborativelyClosed (c : ClosedChannel)
  | closedPunished (c : ClosedChannel) (punishTxid : Bytes32)

namespace ChannelRecord
variable {X : ChannelCrypto}

def getId : ChannelRecord X → ChannelId
  | .signed ch => ch.channelId
  | .closed c | .counterClosed c | .collaborativelyClosed c | .closedPunished c _ => c.channelId

def getCounterPartyId : ChannelRecord X → PublicKey
  | .signed ch => ch.counterParty
  | .closed c | .counterClosed c | .collaborativelyClosed c | .closedPunished c _ => c.counterParty

end ChannelRecord

/-! The messages. What a contract looks like on the wire is a parameter. -/

structure SettleOffer where
  channelId : ChannelId
  counterPayout : ℕ
  nextPerUpdatePoint : PublicKey
  deriving DecidableEq, Repr

structure SettleAccept where
  channelId : ChannelId
  nextPerUpdatePoint : PublicKey
  settleAdaptorSignature : AdaptorSignature
  deriving DecidableEq, Repr

structure SettleConfirm where
  channelId : ChannelId
  prevPerUpdateSecret : SecretKey
  settleAdaptorSignature : AdaptorSignature
  deriving DecidableEq, Repr

structure SettleFinalize where
  channelId : ChannelId
  prevPerUpdateSecret : SecretKey
  deriving DecidableEq, Repr

structure RenewOffer (W : Type) where
  channelId : ChannelId
  temporaryContractId : ContractId
  counterPayout : ℕ
  nextPerUpdatePoint : PublicKey
  contractInfo : W
  cetLocktime : ℕ
  refundLocktime : ℕ
  cetNsequence : ℕ

structure RenewAccept where
  channelId : ChannelId
  nextPerUpdatePoint : PublicKey
  cetAdaptorSignatures : List AdaptorSignature
  refundSignature : Signature
  deriving DecidableEq, Repr

structure RenewConfirm where
  channelId : ChannelId
  bufferAdaptorSignature : AdaptorSignature
  cetAdaptorSignatures : List AdaptorSignature
  refundSignature : Signature
  deriving DecidableEq, Repr

structure RenewFinalize where
  channelId : ChannelId
  perUpdateSecret : SecretKey
  bufferAdaptorSignature : AdaptorSignature
  deriving DecidableEq, Repr

structure RenewRevoke where
  channelId : ChannelId
  perUpdateSecret : SecretKey
  deriving DecidableEq, Repr

structure CollaborativeCloseOffer where
  channelId : ChannelId
  counterPayout : ℕ
  closeSignature : Signature
  deriving DecidableEq, Repr

structure Reject where
  channelId : ChannelId
  deriving DecidableEq, Repr

inductive DlcMessage (W : Type)
  | settleOffer (m : SettleOffer)
  | settleAccept (m : SettleAccept)
  | settleConfirm (m : SettleConfirm)
  | settleFinalize (m : SettleFinalize)
  | renewOffer (m : RenewOffer W)
  | renewAccept (m : RenewAccept)
  | renewConfirm (m : RenewConfirm)
  | renewFinalize (m : RenewFinalize)
  | renewRevoke (m : RenewRevoke)
  | collaborativeCloseOffer (m : CollaborativeCloseOffer)
  | reject (m : Reject)

end P2PLending.Manager.Channels
