import P2PLending.Channels.Monitor
import P2PLending.Messages.Encoding

/-! The stored form of the chain monitor. Its maps are written in the order in which
they happen to be iterated; what is read back is the monitor again. -/

namespace P2PLending.Manager.Channels
open Dlc Messages

section HashMap
variable {κ ν : Type} [DecidableEq κ] (key : Messages.Wire κ) (value : Messages.Wire ν)

/-- A `u64` that is kept as a natural number. -/
def word64 : Messages.Wire ℕ := Codec.word .shortRead 8

theorem word64_roundTrips {n : ℕ} (fits : n < 256 ^ 8) : word64.RoundTrips n :=
  Codec.word_roundTrips .shortRead 8 fits

def writeHashMap (entries : List (κ × ν)) : Bytes :=
  word64.write entries.length ++ entries.flatMap fun e => key.write e.1 ++ value.write e.2

/-- The insertions of `read_hash_map`, into a map that is already there. -/
def readEntries : ℕ → (κ → Option ν) → Reading (κ → Option ν)
  | 0, map => pure map
  | n + 1, map => do
      let k ← key.read
      let v ← value.read
      readEntries n (Function.update map k (some v))

def readHashMap : Reading (κ → Option ν) := do
  let len ← word64.read
  readEntries key value len fun _ => none

/-- An iteration over a map: every entry once. -/
structure Iterates (map : κ → Option ν) (entries : List (κ × ν)) : Prop where
  distinct : (entries.map Prod.fst).Nodup
  entry : ∀ k v, map k = some v ↔ (k, v) ∈ entries
  counted : entries.length < 256 ^ 8

variable {key value}

theorem readEntries_reads {entries : List (κ × ν)} {before after : κ → Option ν}
    (distinct : (entries.map Prod.fst).Nodup)
    (fits : ∀ e ∈ entries, key.RoundTrips e.1 ∧ value.RoundTrips e.2)
    (listed : ∀ e ∈ entries, after e.1 = some e.2)
    (kept : ∀ k, k ∉ entries.map Prod.fst → after k = before k) :
    Reads (readEntries key value entries.length before)
      (entries.flatMap fun e => key.write e.1 ++ value.write e.2) after := by
  induction entries generalizing before with
  | nil =>
      have same : after = before := funext fun k => kept k List.not_mem_nil
      rw [same]
      exact .pure before
  | cons e entries ih =>
      rw [List.map_cons, List.nodup_cons] at distinct
      rw [List.forall_mem_cons] at fits listed
      rw [List.flatMap_cons, List.append_assoc]
      refine Reads.bind fits.1.1 (Reads.bind fits.1.2 (ih distinct.2 fits.2 listed.2 ?_))
      intro k absent
      by_cases same : k = e.1
      · rw [same, Function.update_self]
        exact listed.1
      · rw [Function.update_of_ne same]
        apply kept
        rw [List.map_cons, List.mem_cons, not_or]
        exact ⟨same, absent⟩

/-- In whatever order a map was written, it is read back. -/
theorem readHashMap_reads {map : κ → Option ν} {entries : List (κ × ν)}
    (iterates : Iterates map entries)
    (fits : ∀ k v, map k = some v → key.RoundTrips k ∧ value.RoundTrips v) :
    Reads (readHashMap key value) (writeHashMap key value entries) map := by
  refine Reads.bind (word64_roundTrips iterates.counted) (readEntries_reads iterates.distinct ?_ ?_ ?_)
  · intro e listed
    exact fits e.1 e.2 ((iterates.entry e.1 e.2).mpr listed)
  · intro e listed
    exact (iterates.entry e.1 e.2).mpr listed
  · intro k absent
    cases found : map k with
    | none => rfl
    | some v => exact absurd (List.mem_map_of_mem ((iterates.entry k v).mp found)) absent

end HashMap

/-- What the stored form takes from `bitcoin` and `secp256k1-zkp`: the transactions that
can be written are read back, and which bytes are an adaptor signature. -/
structure MonitorPrimitives where
  transaction : Messages.Wire Transaction
  TransactionFits : Transaction → Prop
  transaction_roundTrips : ∀ {tx}, TransactionFits tx → transaction.RoundTrips tx
  isAdaptorSignature : Bytes → Bool

variable (P : MonitorPrimitives)

/-- `write_ecdsa_adaptor_signature`, `read_ecdsa_adaptor_signature` -/
def adaptorSignatureWire : Messages.Wire AdaptorSignature where
  write sig := sig
  read := do
    let buf ← readBytes .shortRead 162
    if P.isAdaptorSignature buf then return buf else throw .invalidValue

def outPointWire : Messages.Wire OutPoint where
  write o := List.flatten [bytes32.write o.txid, (Codec.word DecodeError.shortRead 4).write o.vout]
  read := do
    let txid ← bytes32.read
    let vout ← (Codec.word .shortRead 4).read
    return { txid, vout }

theorem outPointWire_roundTrips {o : OutPoint} (fits : o.vout < 256 ^ 4) :
    outPointWire.RoundTrips o := by
  apply Reads.field (bytes32_roundTrips _)
  apply Reads.field (Codec.word_roundTrips _ 4 fits)
  exact .done _

namespace RevokedTxType

def wire : Messages.Wire RevokedTxType where
  write
    | buffer => u8.write 0
    | settle => u8.write 1
  read := do
    let id ← u8.read
    if id = 0 then return buffer
    else if id = 1 then return settle
    else throw .unknownRequiredFeature

theorem roundTrips (t : RevokedTxType) : wire.RoundTrips t := by
  cases t with
  | buffer => exact (u8_roundTrips 0).bind_pure (.pure _)
  | settle => exact (u8_roundTrips 1).bind_pure (.pure _)

end RevokedTxType

namespace TxType

def wire : Messages.Wire TxType where
  write
    | revoked updateIdx ownAdaptorSignature isOffer revokedTxType =>
        List.flatten [u8.write 0, word64.write updateIdx,
          (adaptorSignatureWire P).write ownAdaptorSignature, bool.write isOffer,
          RevokedTxType.wire.write revokedTxType]
    | bufferTx => u8.write 1
    | collaborativeClose => u8.write 2
    | settleTx => u8.write 3
    | cet => u8.write 4
  read := do
    let id ← u8.read
    if id = 0 then
      let updateIdx ← word64.read
      let ownAdaptorSignature ← (adaptorSignatureWire P).read
      let isOffer ← bool.read
      let revokedTxType ← RevokedTxType.wire.read
      return revoked updateIdx ownAdaptorSignature isOffer revokedTxType
    else if id = 1 then return bufferTx
    else if id = 2 then return collaborativeClose
    else if id = 3 then return settleTx
    else if id = 4 then return cet
    else throw .unknownRequiredFeature

/-- An index of 64 bits and the bytes of a signature. -/
def Typed : TxType → Prop
  | revoked updateIdx ownAdaptorSignature _ _ =>
      updateIdx < 256 ^ 8 ∧ ownAdaptorSignature.length = 162 ∧
        P.isAdaptorSignature ownAdaptorSignature = true
  | bufferTx | collaborativeClose | settleTx | cet => True

variable {P}

theorem roundTrips {t : TxType} (typed : t.Typed P) : (wire P).RoundTrips t := by
  cases t with
  | revoked updateIdx sig isOffer revokedTxType =>
      obtain ⟨index, length, valid⟩ := typed
      have signature : (adaptorSignatureWire P).RoundTrips sig := by
        have bytes := readBytes_reads DecodeError.shortRead sig
        rw [length] at bytes
        exact bytes.bind_pure (.ite_pos valid (.pure sig))
      apply Reads.field (u8_roundTrips 0)
      apply Reads.field (word64_roundTrips index)
      apply Reads.field signature
      apply Reads.field (bool_roundTrips isOffer)
      apply Reads.field (RevokedTxType.roundTrips revokedTxType)
      exact .done _
  | bufferTx => exact (u8_roundTrips 1).bind_pure (.pure _)
  | collaborativeClose => exact (u8_roundTrips 2).bind_pure (.pure _)
  | settleTx => exact (u8_roundTrips 3).bind_pure (.pure _)
  | cet => exact (u8_roundTrips 4).bind_pure (.pure _)

end TxType

namespace ChannelInfo

def wire : Messages.Wire ChannelInfo where
  write info := List.flatten [bytes32.write info.channelId, (TxType.wire P).write info.txType]
  read := do
    let channelId ← bytes32.read
    let txType ← (TxType.wire P).read
    return { channelId, txType }

variable {P}

theorem roundTrips {info : ChannelInfo} (typed : info.txType.Typed P) :
    (wire P).RoundTrips info := by
  apply Reads.field (bytes32_roundTrips _)
  apply Reads.field (TxType.roundTrips typed)
  exact .done _

end ChannelInfo

namespace WatchState

def wire : Messages.Wire WatchState where
  write
    | registered info => List.flatten [u8.write 0, (ChannelInfo.wire P).write info]
    | confirmed info tx =>
        List.flatten [u8.write 1, (ChannelInfo.wire P).write info, P.transaction.write tx]
  read := do
    let id ← u8.read
    if id = 0 then
      let info ← (ChannelInfo.wire P).read
      return registered info
    else if id = 1 then
      let info ← (ChannelInfo.wire P).read
      let tx ← P.transaction.read
      return confirmed info tx
    else throw .unknownRequiredFeature

def Typed : WatchState → Prop
  | registered info => info.txType.Typed P
  | confirmed info tx => info.txType.Typed P ∧ P.TransactionFits tx

variable {P}

theorem roundTrips {s : WatchState} (typed : s.Typed P) : (wire P).RoundTrips s := by
  cases s with
  | registered info =>
      apply Reads.field (u8_roundTrips 0)
      apply Reads.field (ChannelInfo.roundTrips typed)
      exact .done _
  | confirmed info tx =>
      apply Reads.field (u8_roundTrips 1)
      apply Reads.field (ChannelInfo.roundTrips typed.1)
      apply Reads.field (P.transaction_roundTrips typed.2)
      exact .done _

end WatchState

namespace ChainMonitor

/-- The values of a monitor are of the types that are stored. -/
structure Typed (m : ChainMonitor) : Prop where
  watchedTx : ∀ txid s, m.watchedTx txid = some s → s.Typed P
  watchedTxo : ∀ o s, m.watchedTxo o = some s → o.vout < 256 ^ 4 ∧ s.Typed P
  lastHeight : m.lastHeight < 256 ^ 8

/-- The bytes of a monitor whose maps are iterated in the orders of the entries. -/
def serialize (tx : List (Bytes32 × WatchState)) (txo : List (OutPoint × WatchState))
    (lastHeight : ℕ) : Bytes :=
  List.flatten [writeHashMap bytes32 (WatchState.wire P) tx,
    writeHashMap outPointWire (WatchState.wire P) txo, word64.write lastHeight]

def deserialize : Reading ChainMonitor := do
  let watchedTx ← readHashMap bytes32 (WatchState.wire P)
  let watchedTxo ← readHashMap outPointWire (WatchState.wire P)
  let lastHeight ← word64.read
  return { watchedTx, watchedTxo, lastHeight }

variable {P} {m : ChainMonitor}

theorem deserialize_serialize (typed : m.Typed P) {tx : List (Bytes32 × WatchState)}
    {txo : List (OutPoint × WatchState)} (iteratesTx : Iterates m.watchedTx tx)
    (iteratesTxo : Iterates m.watchedTxo txo) :
    Reads (deserialize P) (serialize P tx txo m.lastHeight) m := by
  apply Reads.field (readHashMap_reads iteratesTx ?_)
  · apply Reads.field (readHashMap_reads iteratesTxo ?_)
    · apply Reads.field (word64_roundTrips typed.lastHeight)
      exact .done _
    · intro o s found
      obtain ⟨vout, state⟩ := typed.watchedTxo o s found
      exact ⟨outPointWire_roundTrips vout, WatchState.roundTrips state⟩
  · intro txid s found
    exact ⟨bytes32_roundTrips txid, WatchState.roundTrips (typed.watchedTx txid s found)⟩

end ChainMonitor

end P2PLending.Manager.Channels
