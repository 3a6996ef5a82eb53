import P2PLending.Channels.State

/-! The chain monitor: transaction ids and outputs of interest, with what each of
them means for its channel. -/

namespace P2PLending.Manager.Channels
open Dlc

inductive RevokedTxType
  | buffer
  | settle
  deriving DecidableEq, Repr

inductive TxType
  | revoked (updateIdx : ℕ) (ownAdaptorSignature : AdaptorSignature) (isOffer : Bool)
      (revokedTxType : RevokedTxType)
  | bufferTx
  | collaborativeClose
  | settleTx
  | cet
  deriving DecidableEq, Repr

structure ChannelInfo where
  channelId : ChannelId
  txType : TxType
  deriving DecidableEq, Repr

inductive WatchState
  | registered (channelInfo : ChannelInfo)
  | confirmed (channelInfo : ChannelInfo) (transaction : Transaction)
  deriving DecidableEq, Repr

namespace WatchState

def channelInfo : WatchState → ChannelInfo
  | registered info | confirmed info _ => info

/-- The first confirmation counts. -/
def confirm (transaction : Transaction) : WatchState → WatchState
  | registered info => .confirmed info transaction
  | confirmed info tx => .confirmed info tx

end WatchState

structure ChainMonitor where
  watchedTx : Bytes32 → Option WatchState
  watchedTxo : OutPoint → Option WatchState
  lastHeight : ℕ

namespace ChainMonitor
variable (m : ChainMonitor)

def addTxo (outpoint : OutPoint) (info : ChannelInfo) : ChainMonitor :=
  { m with watchedTxo := Function.update m.watchedTxo outpoint (some (.registered info)) }

/-- The output of a buffer transaction is watched with it. -/
def addTx (txid : Bytes32) (info : ChannelInfo) : ChainMonitor :=
  let added :=
    { m with watchedTx := Function.update m.watchedTx txid (some (.registered info)) }
  if info.txType = .bufferTx then added.addTxo ⟨txid, 0⟩ ⟨info.channelId, .cet⟩ else added

def removeTx (txid : Bytes32) : ChainMonitor :=
  { m with watchedTx := Function.update m.watchedTx txid none }

/-- What is left of a map of watched things without a channel. -/
def retain {κ : Type} (channelId : ChannelId) (watched : κ → Option WatchState) :
    κ → Option WatchState :=
  fun k => (watched k).filter fun state => state.channelInfo.channelId ≠ channelId

def cleanupChannel (channelId : ChannelId) : ChainMonitor :=
  { m with watchedTx := retain channelId m.watchedTx
           watchedTxo := retain channelId m.watchedTxo }

section Block
variable (C : Crypto)

def confirmAt {κ : Type} [DecidableEq κ] (watched : κ → Option WatchState) (k : κ)
    (tx : Transaction) : κ → Option WatchState :=
  Function.update watched k ((watched k).map (WatchState.confirm tx))

def processTx (tx : Transaction) : ChainMonitor :=
  { m with watchedTx := confirmAt m.watchedTx (tx.computeTxid C) tx
           watchedTxo := tx.input.foldl (fun watched txin =>
             confirmAt watched txin.previousOutput tx) m.watchedTxo }

def processBlock (txdata : List Transaction) (height : ℕ) : Result ChainMonitor :=
  if m.lastHeight + 1 = height then
    .ok { txdata.foldl (fun m tx => m.processTx C tx) m with lastHeight := m.lastHeight + 1 }
  else .error (.panic "assertion `left == right` failed")

end Block

/-- The watched transactions that have confirmed. -/
def ConfirmedTx (watched : Transaction × ChannelInfo) : Prop :=
  (∃ txid, m.watchedTx txid = some (.confirmed watched.2 watched.1)) ∨
    ∃ outpoint, m.watchedTxo outpoint = some (.confirmed watched.2 watched.1)

variable {m}

theorem addTx_watchedTx {txid txid' : Bytes32} {info : ChannelInfo} :
    (m.addTx txid info).watchedTx txid' =
      if txid' = txid then some (.registered info) else m.watchedTx txid' := by
  unfold addTx
  split <;> simp only [addTxo, Function.update_apply]

@[simp] theorem addTx_self {txid : Bytes32} {info : ChannelInfo} :
    (m.addTx txid info).watchedTx txid = some (.registered info) := by
  rw [addTx_watchedTx, if_pos rfl]

@[simp] theorem removeTx_self {txid : Bytes32} : (m.removeTx txid).watchedTx txid = none :=
  Function.update_self ..

end ChainMonitor

end P2PLending.Manager.Channels
