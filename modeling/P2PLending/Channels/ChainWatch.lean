import P2PLending.Channels.MonitorStorage
import P2PLending.Foundation.Runs

/-! What the chain monitor reports against the history of its calls. A registration
under a key lasts from the first call that adds it to the call that removes it; the
monitor keeps one state for it, which every further call that adds it starts anew. -/

namespace P2PLending.Manager.Channels
open Dlc Messages

inductive MonitorCall
  | addTx (txid : Bytes32) (info : ChannelInfo)
  | processBlock (txdata : List Transaction) (height : ℕ)
  | removeTx (txid : Bytes32)
  | cleanupChannel (channelId : ChannelId)
  | reload

/-- A registration: the info that was registered last, and the transactions under the
key in the blocks since it was registered first. -/
structure Registration where
  info : ChannelInfo
  seen : List Transaction
  deriving DecidableEq

namespace Registration

/-- Another registration under the key keeps what has been seen. -/
def register (info : ChannelInfo) (r : Option Registration) : Option Registration :=
  some { info, seen := (r.map seen).getD [] }

def block (txs : List Transaction) (r : Registration) : Registration :=
  { r with seen := r.seen ++ txs }

def cleanup (channelId : ChannelId) (r : Option Registration) : Option Registration :=
  r.filter fun r => r.info.channelId ≠ channelId

/-- The state that a monitor should have for a registration. -/
def state (r : Registration) : WatchState :=
  match r.seen with
  | [] => .registered r.info
  | tx :: _ => .confirmed r.info tx

end Registration

section History
variable (C : Crypto)

/-- What a call does to the registration of a transaction. -/
def txRegistration (txid : Bytes32) (r : Option Registration) : MonitorCall → Option Registration
  | .addTx added info => if added = txid then Registration.register info r else r
  | .processBlock txdata _ => r.map (.block (txdata.filter fun tx => tx.computeTxid C = txid))
  | .removeTx removed => if removed = txid then none else r
  | .cleanupChannel channelId => Registration.cleanup channelId r
  | .reload => r

/-- The transaction spends the output. -/
def Spends (outpoint : OutPoint) (tx : Transaction) : Prop :=
  ∃ txin ∈ tx.input, txin.previousOutput = outpoint

instance (outpoint : OutPoint) (tx : Transaction) : Decidable (Spends outpoint tx) :=
  inferInstanceAs (Decidable (∃ _ ∈ _, _))

/-- What a call does to the registration of an output, which comes with its buffer
transaction. -/
def txoRegistration (outpoint : OutPoint) (r : Option Registration) :
    MonitorCall → Option Registration
  | .addTx added info =>
      if info.txType = .bufferTx ∧ ⟨added, 0⟩ = outpoint then
        Registration.register ⟨info.channelId, .cet⟩ r
      else r
  | .processBlock txdata _ => r.map (.block (txdata.filter fun tx => Spends outpoint tx))
  | .removeTx _ => r
  | .cleanupChannel channelId => Registration.cleanup channelId r
  | .reload => r

/-- The registrations after the calls. -/
def registeredTx (calls : List MonitorCall) (txid : Bytes32) : Option Registration :=
  calls.foldl (txRegistration C txid) none

def registeredTxo (calls : List MonitorCall) (outpoint : OutPoint) : Option Registration :=
  calls.foldl (txoRegistration outpoint) none

/-- What should be reported: each transaction that a block has had under a registered
key, with the info registered last. -/
def Reported (calls : List MonitorCall) (watched : Transaction × ChannelInfo) : Prop :=
  (∃ txid r, registeredTx C calls txid = some r ∧ r.info = watched.2 ∧ watched.1 ∈ r.seen) ∨
    ∃ outpoint r, registeredTxo calls outpoint = some r ∧ r.info = watched.2 ∧ watched.1 ∈ r.seen

end History

namespace ChainMonitor

def new (initHeight : UInt64) : ChainMonitor where
  watchedTx _ := none
  watchedTxo _ := none
  lastHeight := initHeight.toNat

variable (C : Crypto) (P : MonitorPrimitives)

/-- A call with values of the stored types. A reload reads back what was written for
some iteration of the maps. -/
def step (m : ChainMonitor) : MonitorCall → ChainMonitor → Prop
  | .addTx txid info, t => info.txType.Typed P ∧ m.addTx txid info = t
  | .processBlock txdata height, t =>
      height < 256 ^ 8 ∧ (∀ tx ∈ txdata, P.TransactionFits tx) ∧
        m.processBlock C txdata height = .ok t
  | .removeTx txid, t => m.removeTx txid = t
  | .cleanupChannel channelId, t => m.cleanupChannel channelId = t
  | .reload, t => ∃ tx txo, Iterates m.watchedTx tx ∧ Iterates m.watchedTxo txo ∧
      (deserialize P).run (serialize P tx txo m.lastHeight) = .ok (t, [])

/-- A watch that has not confirmed, or none. -/
def Unconfirmed (s : Option WatchState) : Prop := ∀ info tx, s ≠ some (.confirmed info tx)

/-- The transactions under a watched key, in the block and before, are one. -/
def OneUnder (s : Option WatchState) (txs : List Transaction) : Prop :=
  s.isSome → (∀ tx ∈ txs, ∀ tx' ∈ txs, tx = tx') ∧
    ∀ info tx, s = some (.confirmed info tx) → ∀ tx' ∈ txs, tx' = tx

/-- Nothing that has confirmed is registered again, and blocks have no second
transaction under a key. -/
def Admits (m : ChainMonitor) : MonitorCall → Prop
  | .addTx txid info => Unconfirmed (m.watchedTx txid) ∧
      (info.txType = .bufferTx → Unconfirmed (m.watchedTxo ⟨txid, 0⟩))
  | .processBlock txdata _ =>
      (∀ txid, OneUnder (m.watchedTx txid) (txdata.filter fun tx => tx.computeTxid C = txid)) ∧
        ∀ outpoint, OneUnder (m.watchedTxo outpoint) (txdata.filter fun tx => Spends outpoint tx)
  | .removeTx _ | .cleanupChannel _ | .reload => True

end ChainMonitor

/-! The states of registrations. -/

namespace Registration

/-- The transactions that have been seen are one. -/
def One (r : Registration) : Prop := ∀ tx ∈ r.seen, ∀ tx' ∈ r.seen, tx = tx'

theorem state_confirmed {r : Registration} {info : ChannelInfo} {tx : Transaction}
    (confirmed : r.state = .confirmed info tx) : r.info = info ∧ ∃ later, r.seen = tx :: later := by
  unfold state at confirmed
  split at confirmed
  · cases confirmed
  next later seen =>
    cases confirmed
    exact ⟨rfl, later, seen⟩

/-- With one transaction at most, the state is confirmed with what has been seen. -/
theorem state_confirmed_iff {r : Registration} (one : r.One) {info : ChannelInfo}
    {tx : Transaction} : r.state = .confirmed info tx ↔ r.info = info ∧ tx ∈ r.seen := by
  constructor
  · intro confirmed
    obtain ⟨infoIs, later, seen⟩ := state_confirmed confirmed
    exact ⟨infoIs, by rw [seen]; exact List.mem_cons_self⟩
  · rintro ⟨rfl, listed⟩
    unfold state
    cases seen : r.seen with
    | nil =>
        rw [seen] at listed
        cases listed
    | cons first later =>
        have first_listed : first ∈ r.seen := by
          rw [seen]
          exact List.mem_cons_self
        rw [one first first_listed tx listed]

theorem seen_of_unconfirmed {r : Registration}
    (unconfirmed : ChainMonitor.Unconfirmed (some r.state)) : r.seen = [] := by
  cases seen : r.seen with
  | nil => rfl
  | cons tx later =>
      have confirmed : r.state = .confirmed r.info tx := by
        unfold state
        rw [seen]
      exact absurd (congrArg some confirmed) (unconfirmed r.info tx)

theorem block_state (txs : List Transaction) (r : Registration) :
    (r.block txs).state = txs.foldl (fun s tx => s.confirm tx) r.state := by
  induction txs generalizing r with
  | nil => rw [block, List.append_nil, List.foldl_nil]
  | cons tx txs ih =>
      have first : r.state.confirm tx = (r.block [tx]).state := by
        unfold state block
        cases r.seen with
        | nil => rfl
        | cons _ _ => rfl
      rw [List.foldl_cons, first, ← ih (r.block [tx]), block, block, block, List.append_assoc]
      rfl

/-- A registration that was not confirmed starts anew as it was. -/
theorem register_state {r : Option Registration} (info : ChannelInfo)
    (unconfirmed : ChainMonitor.Unconfirmed (r.map state)) :
    register info r = some ⟨info, []⟩ := by
  cases r with
  | none => rfl
  | some r =>
      have seen := seen_of_unconfirmed unconfirmed
      rw [register, Option.map_some, Option.getD_some, seen]

theorem cleanup_state (channelId : ChannelId) (r : Option Registration) :
    (cleanup channelId r).map state =
      (r.map state).filter fun s => s.channelInfo.channelId ≠ channelId := by
  have same : ∀ r : Registration, r.state.channelInfo = r.info := by
    intro r
    unfold state
    cases r.seen with
    | nil => rfl
    | cons _ _ => rfl
  cases r with
  | none => rfl
  | some r =>
      rw [cleanup, Option.map_some, Option.filter_some, Option.filter_some, same r]
      split <;> rfl

end Registration

/-! A block, key by key. -/

namespace ChainMonitor
variable {C : Crypto} {P : MonitorPrimitives} {m : ChainMonitor}

theorem confirm_confirm (tx : Transaction) (s : WatchState) :
    (s.confirm tx).confirm tx = s.confirm tx := by
  cases s <;> rfl

theorem confirmAt_apply {κ : Type} [DecidableEq κ] (watched : κ → Option WatchState) (k k' : κ)
    (tx : Transaction) : confirmAt watched k tx k' =
      if k = k' then (watched k').map (WatchState.confirm tx) else watched k' := by
  unfold confirmAt
  rw [Function.update_apply]
  split_ifs with same other other
  · rw [same]
  · exact absurd same.symm other
  · exact absurd other.symm same
  · rfl

/-- The inputs of a transaction confirm the outputs that they spend. -/
theorem confirmInputs_apply (inputs : List TxIn) (tx : Transaction)
    (watched : OutPoint → Option WatchState) (outpoint : OutPoint) :
    inputs.foldl (fun watched txin => confirmAt watched txin.previousOutput tx) watched outpoint =
      if ∃ txin ∈ inputs, txin.previousOutput = outpoint then
        (watched outpoint).map (WatchState.confirm tx)
      else watched outpoint := by
  induction inputs generalizing watched with
  | nil => simp
  | cons txin inputs ih =>
      rw [List.foldl_cons, ih, confirmAt_apply]
      by_cases first : txin.previousOutput = outpoint
      · have spent : ∃ txin' ∈ txin :: inputs, txin'.previousOutput = outpoint :=
          ⟨txin, List.mem_cons_self, first⟩
        rw [if_pos first, if_pos spent, Option.map_map]
        split_ifs
        · congr 1
          funext s
          exact confirm_confirm tx s
        · rfl
      · rw [if_neg first]
        have rest : (∃ txin' ∈ txin :: inputs, txin'.previousOutput = outpoint) ↔
            ∃ txin' ∈ inputs, txin'.previousOutput = outpoint := by
          simp [first]
        simp only [rest]

theorem processTxs_watchedTx (txdata : List Transaction) (m : ChainMonitor) (txid : Bytes32) :
    (txdata.foldl (fun m tx => m.processTx C tx) m).watchedTx txid =
      (m.watchedTx txid).map fun s =>
        (txdata.filter fun tx => tx.computeTxid C = txid).foldl (fun s tx => s.confirm tx) s := by
  induction txdata generalizing m with
  | nil => simp
  | cons tx txdata ih =>
      rw [List.foldl_cons, ih, processTx, List.filter_cons]
      dsimp only
      rw [confirmAt_apply]
      by_cases same : tx.computeTxid C = txid
      · simp [same, Option.map_map, Function.comp_def]
      · simp [same]

theorem processTxs_watchedTxo (txdata : List Transaction) (m : ChainMonitor)
    (outpoint : OutPoint) :
    (txdata.foldl (fun m tx => m.processTx C tx) m).watchedTxo outpoint =
      (m.watchedTxo outpoint).map fun s =>
        (txdata.filter fun tx => Spends outpoint tx).foldl (fun s tx => s.confirm tx) s := by
  induction txdata generalizing m with
  | nil => simp
  | cons tx txdata ih =>
      rw [List.foldl_cons, ih, processTx, List.filter_cons]
      dsimp only
      rw [confirmInputs_apply]
      by_cases spent : Spends outpoint tx
      · have listed : ∃ txin ∈ tx.input, txin.previousOutput = outpoint := spent
        rw [if_pos listed, if_pos (decide_eq_true spent), Option.map_map]
        rfl
      · have unlisted : ¬ ∃ txin ∈ tx.input, txin.previousOutput = outpoint := spent
        rw [if_neg unlisted, if_neg (by simpa using spent)]

/-! The monitor follows the registrations. -/

/-- Each key has the state of its registration, with at most one transaction. -/
structure Tracks (C : Crypto) (P : MonitorPrimitives) (m : ChainMonitor)
    (calls : List MonitorCall) : Prop where
  watchedTx : ∀ txid, m.watchedTx txid = (registeredTx C calls txid).map Registration.state
  watchedTxo : ∀ outpoint,
    m.watchedTxo outpoint = (registeredTxo calls outpoint).map Registration.state
  oneTx : ∀ txid r, registeredTx C calls txid = some r → r.One
  oneTxo : ∀ outpoint r, registeredTxo calls outpoint = some r → r.One
  typed : m.Typed P

theorem registeredTx_snoc (calls : List MonitorCall) (call : MonitorCall) (txid : Bytes32) :
    registeredTx C (calls ++ [call]) txid =
      txRegistration C txid (registeredTx C calls txid) call := by
  rw [registeredTx, List.foldl_append]
  rfl

theorem registeredTxo_snoc (calls : List MonitorCall) (call : MonitorCall) (outpoint : OutPoint) :
    registeredTxo (calls ++ [call]) outpoint =
      txoRegistration outpoint (registeredTxo calls outpoint) call := by
  rw [registeredTxo, List.foldl_append]
  rfl

/-- What a monitor that follows the registrations reports is what should be reported. -/
theorem Tracks.reported {calls : List MonitorCall} (tracks : Tracks C P m calls)
    (watched : Transaction × ChannelInfo) :
    m.ConfirmedTx watched ↔ Reported C calls watched := by
  have tx : (∃ txid, m.watchedTx txid = some (.confirmed watched.2 watched.1)) ↔
      ∃ txid r, registeredTx C calls txid = some r ∧ r.info = watched.2 ∧ watched.1 ∈ r.seen := by
    apply exists_congr
    intro txid
    rw [tracks.watchedTx, Option.map_eq_some_iff]
    apply exists_congr
    intro r
    apply and_congr_right
    intro registered
    exact Registration.state_confirmed_iff (tracks.oneTx txid r registered)
  have txo : (∃ outpoint, m.watchedTxo outpoint = some (.confirmed watched.2 watched.1)) ↔
      ∃ outpoint r, registeredTxo calls outpoint = some r ∧ r.info = watched.2 ∧
        watched.1 ∈ r.seen := by
    apply exists_congr
    intro outpoint
    rw [tracks.watchedTxo, Option.map_eq_some_iff]
    apply exists_congr
    intro r
    apply and_congr_right
    intro registered
    exact Registration.state_confirmed_iff (tracks.oneTxo outpoint r registered)
  exact or_congr tx txo

/-- A block adds nothing but the transaction that is already there. -/
theorem OneUnder.block {r : Registration} {txs : List Transaction} (one : r.One)
    (under : OneUnder (some r.state) txs) : (r.block txs).One := by
  obtain ⟨among, before⟩ := under rfl
  have seen_eq : ∀ tx ∈ r.seen, ∀ tx' ∈ txs, tx' = tx := by
    intro tx listed
    exact before r.info tx
      (congrArg some ((Registration.state_confirmed_iff one).mpr ⟨rfl, listed⟩))
  intro tx listed tx' listed'
  rcases List.mem_append.mp listed with first | first
  · rcases List.mem_append.mp listed' with second | second
    · exact one tx first tx' second
    · exact (seen_eq tx first tx' second).symm
  · rcases List.mem_append.mp listed' with second | second
    · exact seen_eq tx' second tx first
    · exact among tx first tx' second

theorem new_tracks (initHeight : UInt64) : Tracks C P (new initHeight) [] where
  watchedTx _ := rfl
  watchedTxo _ := rfl
  oneTx _ _ registered := by cases registered
  oneTxo _ _ registered := by cases registered
  typed :=
    { watchedTx := fun _ _ found => by cases found
      watchedTxo := fun _ _ found => by cases found
      lastHeight := initHeight.toNat_lt }

theorem register_one {info : ChannelInfo} {r : Option Registration} {r' : Registration}
    (unconfirmed : Unconfirmed (r.map Registration.state))
    (registered : Registration.register info r = some r') : r'.One := by
  rw [Registration.register_state info unconfirmed] at registered
  cases registered
  intro tx listed
  cases listed

theorem addTx_watchedTxo (m : ChainMonitor) (txid : Bytes32) (info : ChannelInfo)
    (outpoint : OutPoint) : (m.addTx txid info).watchedTxo outpoint =
      if info.txType = .bufferTx ∧ ⟨txid, 0⟩ = outpoint then
        some (.registered ⟨info.channelId, .cet⟩)
      else m.watchedTxo outpoint := by
  unfold addTx
  by_cases buffer : info.txType = .bufferTx
  · rw [if_pos buffer, addTxo]
    dsimp only
    rw [Function.update_apply]
    simp only [buffer, true_and, eq_comm]
  · rw [if_neg buffer, if_neg fun both => buffer both.1]

theorem Tracks.addTx {calls : List MonitorCall} {txid : Bytes32} {info : ChannelInfo}
    (tracks : Tracks C P m calls) (typed : info.txType.Typed P)
    (admitted : Admits C m (.addTx txid info)) :
    Tracks C P (m.addTx txid info) (calls ++ [.addTx txid info]) := by
  obtain ⟨txFree, txoFree⟩ := admitted
  have unconfirmed : Unconfirmed ((registeredTx C calls txid).map Registration.state) := by
    rw [← tracks.watchedTx]
    exact txFree
  have unspent : info.txType = .bufferTx →
      Unconfirmed ((registeredTxo calls ⟨txid, 0⟩).map Registration.state) := by
    intro buffer
    rw [← tracks.watchedTxo]
    exact txoFree buffer
  constructor
  · intro other
    rw [addTx_watchedTx, registeredTx_snoc, txRegistration]
    by_cases same : txid = other
    · rw [if_pos same.symm, if_pos same, ← same, Registration.register_state info unconfirmed]
      rfl
    · rw [if_neg (Ne.symm same), if_neg same, tracks.watchedTx]
  · intro outpoint
    rw [addTx_watchedTxo, registeredTxo_snoc, txoRegistration]
    by_cases same : info.txType = .bufferTx ∧ ⟨txid, 0⟩ = outpoint
    · rw [if_pos same, if_pos same, ← same.2,
        Registration.register_state _ (unspent same.1)]
      rfl
    · rw [if_neg same, if_neg same, tracks.watchedTxo]
  · intro other r registered
    rw [registeredTx_snoc, txRegistration] at registered
    split_ifs at registered with same
    · rw [← same] at registered
      exact register_one unconfirmed registered
    · exact tracks.oneTx other r registered
  · intro outpoint r registered
    rw [registeredTxo_snoc, txoRegistration] at registered
    split_ifs at registered with same
    · rw [← same.2] at registered
      exact register_one (unspent same.1) registered
    · exact tracks.oneTxo outpoint r registered
  · constructor
    · intro other s found
      rw [addTx_watchedTx] at found
      split_ifs at found
      · cases found
        exact typed
      · exact tracks.typed.watchedTx other s found
    · intro outpoint s found
      rw [addTx_watchedTxo] at found
      split_ifs at found with same
      · cases found
        rw [← same.2]
        exact ⟨Nat.two_pow_pos 32, trivial⟩
      · exact tracks.typed.watchedTxo outpoint s found
    · have height : (m.addTx txid info).lastHeight = m.lastHeight := by
        unfold ChainMonitor.addTx
        split <;> rfl
      rw [height]
      exact tracks.typed.lastHeight

theorem confirm_typed {txs : List Transaction} {s : WatchState} (typed : s.Typed P)
    (fits : ∀ tx ∈ txs, P.TransactionFits tx) :
    (txs.foldl (fun s tx => s.confirm tx) s).Typed P := by
  induction txs generalizing s with
  | nil => exact typed
  | cons tx txs ih =>
      rw [List.forall_mem_cons] at fits
      refine ih ?_ fits.2
      cases s with
      | registered info => exact ⟨typed, fits.1⟩
      | confirmed info first => exact typed

theorem processBlock_ok {txdata : List Transaction} {height : ℕ} {t : ChainMonitor}
    (processed : m.processBlock C txdata height = .ok t) :
    m.lastHeight + 1 = height ∧
      t = { txdata.foldl (fun m tx => m.processTx C tx) m with lastHeight := m.lastHeight + 1 } := by
  unfold processBlock at processed
  split_ifs at processed with next
  exact ⟨next, (Except.ok.inj processed).symm⟩

theorem Tracks.processBlock {calls : List MonitorCall} {txdata : List Transaction} {height : ℕ}
    {t : ChainMonitor} (tracks : Tracks C P m calls) (small : height < 256 ^ 8)
    (fits : ∀ tx ∈ txdata, P.TransactionFits tx)
    (processed : m.processBlock C txdata height = .ok t)
    (admitted : Admits C m (.processBlock txdata height)) :
    Tracks C P t (calls ++ [.processBlock txdata height]) := by
  obtain ⟨next, rfl⟩ := processBlock_ok processed
  obtain ⟨oneTx, oneTxo⟩ := admitted
  constructor
  · intro txid
    rw [registeredTx_snoc, txRegistration, Option.map_map]
    refine (processTxs_watchedTx txdata m txid).trans ?_
    rw [tracks.watchedTx, Option.map_map]
    congr 1
    funext r
    exact (Registration.block_state _ r).symm
  · intro outpoint
    rw [registeredTxo_snoc, txoRegistration, Option.map_map]
    refine (processTxs_watchedTxo txdata m outpoint).trans ?_
    rw [tracks.watchedTxo, Option.map_map]
    congr 1
    funext r
    exact (Registration.block_state _ r).symm
  · intro txid r registered
    rw [registeredTx_snoc, txRegistration] at registered
    obtain ⟨before, found, rfl⟩ := Option.map_eq_some_iff.mp registered
    have under := oneTx txid
    rw [tracks.watchedTx, found] at under
    exact under.block (tracks.oneTx txid before found)
  · intro outpoint r registered
    rw [registeredTxo_snoc, txoRegistration] at registered
    obtain ⟨before, found, rfl⟩ := Option.map_eq_some_iff.mp registered
    have under := oneTxo outpoint
    rw [tracks.watchedTxo, found] at under
    exact under.block (tracks.oneTxo outpoint before found)
  · constructor
    · intro txid s found
      have folded := (processTxs_watchedTx txdata m txid).symm.trans found
      obtain ⟨before, was, rfl⟩ := Option.map_eq_some_iff.mp folded
      exact confirm_typed (tracks.typed.watchedTx txid before was)
        fun tx listed => fits tx (List.mem_of_mem_filter listed)
    · intro outpoint s found
      have folded := (processTxs_watchedTxo txdata m outpoint).symm.trans found
      obtain ⟨before, was, rfl⟩ := Option.map_eq_some_iff.mp folded
      obtain ⟨vout, typed⟩ := tracks.typed.watchedTxo outpoint before was
      exact ⟨vout, confirm_typed typed fun tx listed => fits tx (List.mem_of_mem_filter listed)⟩
    · show m.lastHeight + 1 < 256 ^ 8
      rw [next]
      exact small

theorem removeTx_watchedTx (m : ChainMonitor) (txid other : Bytes32) :
    (m.removeTx txid).watchedTx other = if txid = other then none else m.watchedTx other := by
  simp only [removeTx, Function.update_apply, eq_comm]

theorem Tracks.removeTx {calls : List MonitorCall} {txid : Bytes32}
    (tracks : Tracks C P m calls) :
    Tracks C P (m.removeTx txid) (calls ++ [.removeTx txid]) := by
  constructor
  · intro other
    rw [registeredTx_snoc, txRegistration, removeTx_watchedTx]
    by_cases same : txid = other
    · rw [if_pos same, if_pos same]
      rfl
    · rw [if_neg same, if_neg same, tracks.watchedTx]
  · intro outpoint
    rw [registeredTxo_snoc]
    exact tracks.watchedTxo outpoint
  · intro other r registered
    rw [registeredTx_snoc, txRegistration] at registered
    split_ifs at registered
    exact tracks.oneTx other r registered
  · intro outpoint r registered
    rw [registeredTxo_snoc] at registered
    exact tracks.oneTxo outpoint r registered
  · refine ⟨?_, tracks.typed.watchedTxo, tracks.typed.lastHeight⟩
    intro other s found
    rw [removeTx_watchedTx] at found
    split_ifs at found
    exact tracks.typed.watchedTx other s found

theorem Tracks.cleanupChannel {calls : List MonitorCall} {channelId : ChannelId}
    (tracks : Tracks C P m calls) :
    Tracks C P (m.cleanupChannel channelId) (calls ++ [.cleanupChannel channelId]) := by
  constructor
  · intro txid
    rw [registeredTx_snoc, txRegistration, Registration.cleanup_state, ← tracks.watchedTx]
    rfl
  · intro outpoint
    rw [registeredTxo_snoc, txoRegistration, Registration.cleanup_state, ← tracks.watchedTxo]
    rfl
  · intro txid r registered
    rw [registeredTx_snoc, txRegistration] at registered
    exact tracks.oneTx txid r (Option.eq_some_of_filter_eq_some registered)
  · intro outpoint r registered
    rw [registeredTxo_snoc, txoRegistration] at registered
    exact tracks.oneTxo outpoint r (Option.eq_some_of_filter_eq_some registered)
  · refine ⟨?_, ?_, tracks.typed.lastHeight⟩
    · intro txid s found
      exact tracks.typed.watchedTx txid s (Option.eq_some_of_filter_eq_some found)
    · intro outpoint s found
      exact tracks.typed.watchedTxo outpoint s (Option.eq_some_of_filter_eq_some found)

/-- Whatever the order the maps were written in, the monitor itself is read back. -/
theorem Tracks.reload {calls : List MonitorCall} (tracks : Tracks C P m calls)
    {tx : List (Bytes32 × WatchState)} {txo : List (OutPoint × WatchState)}
    (iteratesTx : Iterates m.watchedTx tx) (iteratesTxo : Iterates m.watchedTxo txo) :
    (deserialize P).run (serialize P tx txo m.lastHeight) = .ok (m, []) := by
  have read := deserialize_serialize tracks.typed iteratesTx iteratesTxo []
  rw [List.append_nil] at read
  exact read

theorem Tracks.step {calls : List MonitorCall} {call : MonitorCall} {t : ChainMonitor}
    (tracks : Tracks C P m calls) (stepped : step C P m call t) (admitted : Admits C m call) :
    Tracks C P t (calls ++ [call]) := by
  cases call with
  | addTx txid info =>
      obtain ⟨typed, rfl⟩ := stepped
      exact tracks.addTx typed admitted
  | processBlock txdata height =>
      obtain ⟨small, fits, processed⟩ := stepped
      exact tracks.processBlock small fits processed admitted
  | removeTx txid =>
      obtain rfl := stepped
      exact tracks.removeTx
  | cleanupChannel channelId =>
      obtain rfl := stepped
      exact tracks.cleanupChannel
  | reload =>
      obtain ⟨tx, txo, iteratesTx, iteratesTxo, read⟩ := stepped
      rw [tracks.reload iteratesTx iteratesTxo] at read
      cases read
      refine ⟨?_, ?_, ?_, ?_, tracks.typed⟩
      · intro txid
        rw [registeredTx_snoc]
        exact tracks.watchedTx txid
      · intro outpoint
        rw [registeredTxo_snoc]
        exact tracks.watchedTxo outpoint
      · intro txid r registered
        rw [registeredTx_snoc] at registered
        exact tracks.oneTx txid r registered
      · intro outpoint r registered
        rw [registeredTxo_snoc] at registered
        exact tracks.oneTxo outpoint r registered

theorem tracks_of_run {initHeight : UInt64} {calls : List MonitorCall}
    (run : Run (guarded (ChainMonitor.step C P) (Admits C)) (new initHeight) calls m) :
    Tracks C P m calls := by
  induction run with
  | nil => exact new_tracks initHeight
  | snoc _ stepped ih => exact ih.step stepped.2 stepped.1

/-- As long as nothing that has confirmed is registered again, and no second transaction
comes under a key, the monitor reports exactly what its blocks have had under the
registered keys. It is read back as it was, in whatever order its maps were written. -/
theorem watching_lossless {initHeight : UInt64} {calls : List MonitorCall}
    (run : Run (guarded (ChainMonitor.step C P) (Admits C)) (new initHeight) calls m) :
    (∀ watched, m.ConfirmedTx watched ↔ Reported C calls watched) ∧
      ∀ tx txo, Iterates m.watchedTx tx → Iterates m.watchedTxo txo →
        (deserialize P).run (serialize P tx txo m.lastHeight) = .ok (m, []) := by
  have tracks := tracks_of_run run
  constructor
  · exact tracks.reported
  · intro tx txo iteratesTx iteratesTxo
    exact tracks.reload iteratesTx iteratesTxo

/-! A buffer transaction that confirms before its state is revoked. -/

def sampleBufferTx : Transaction where
  lockTime := 0
  input := [⟨⟨9, 0⟩, [], 0xffffffff, []⟩]
  output := [⟨1000, sampleSpk₁⟩]

/-- The version, the input, the output and the lock time of the buffer transaction. -/
def sampleBufferBytes : Bytes :=
  [2, 0, 0, 0] ++ ([1] ++ (9 : Bytes32).toBytes ++ [0, 0, 0, 0] ++ [0] ++ [255, 255, 255, 255]) ++
    ([1] ++ [232, 3, 0, 0, 0, 0, 0, 0] ++ [22] ++ sampleSpk₁) ++ [0, 0, 0, 0]

def sampleAdaptorBytes : Bytes :=
  beBytes 162 0x0200216b459e328f37c625f178cb928e01db240d774627277d380ac7c6cf11ce150268e37e84af134838c213fe3f88ccfd4ef1a884303e6cb7aae6285ccb22835a66e930a5b26d6bd865c299788f3d25900a68ed28d9f8dac6863a1ae957243e3f1afdcc9e9ec0faa8dae0ba5e639883b99952e2857489a64dce4cd9ae0f9d7fa98c0bc07c8ff4f2f741295c8f5a08148b0e934b64a16972f83482d899938bda85ce

/-- The encodings at the buffer transaction and at one adaptor signature. -/
def bufferPrimitives : MonitorPrimitives where
  transaction :=
    { write := fun _ => sampleBufferBytes
      read := do
        let bytes ← readBytes .shortRead sampleBufferBytes.length
        if bytes = sampleBufferBytes then return sampleBufferTx else throw .invalidValue }
  TransactionFits tx := tx = sampleBufferTx
  transaction_roundTrips fits := by
    rw [fits]
    exact (readBytes_reads _ _).bind_pure (.ite_pos rfl (.pure _))
  isAdaptorSignature b := b = sampleAdaptorBytes

def bufferInfo : ChannelInfo := ⟨7, .bufferTx⟩

def revokedInfo : ChannelInfo := ⟨7, .revoked 0 sampleAdaptorBytes true .buffer⟩

def watching : ChainMonitor := (new 0).addTx sampleFundTxid bufferInfo

def buffered : ChainMonitor :=
  { [sampleBufferTx].foldl (fun m tx => m.processTx sampleCrypto tx) watching with lastHeight := 1 }

def bufferCalls : List MonitorCall :=
  [.addTx sampleFundTxid bufferInfo, .processBlock [sampleBufferTx] 1]

theorem watching_step : ChainMonitor.step sampleCrypto bufferPrimitives (new 0)
    (.addTx sampleFundTxid bufferInfo) watching := ⟨trivial, rfl⟩

theorem buffered_step : ChainMonitor.step sampleCrypto bufferPrimitives watching
    (.processBlock [sampleBufferTx] 1) buffered := by
  refine ⟨by decide, List.forall_mem_singleton.mpr rfl, ?_⟩
  unfold ChainMonitor.processBlock
  rw [if_pos (by rfl)]
  rfl

theorem buffered_run : Run (ChainMonitor.step sampleCrypto bufferPrimitives) (new 0) bufferCalls
    buffered :=
  (Run.nil.snoc watching_step).snoc buffered_step

theorem watching_registered {s : Option WatchState} {info : ChannelInfo}
    (watched : s = none ∨ s = some (.registered info)) : Unconfirmed s := by
  intro info' tx found
  rcases watched with rfl | rfl
  · cases found
  · cases found

theorem oneUnder_single {s : Option WatchState} {txs : List Transaction} {only : Transaction}
    (unconfirmed : Unconfirmed s) (single : ∀ tx ∈ txs, tx = only) : OneUnder s txs := by
  intro _
  constructor
  · intro tx listed tx' listed'
    rw [single tx listed, single tx' listed']
  · intro info tx found
    exact absurd found (unconfirmed info tx)

theorem watching_lossless_buffered :
    (∀ watched, buffered.ConfirmedTx watched ↔ Reported sampleCrypto bufferCalls watched) ∧
      ∀ tx txo, Iterates buffered.watchedTx tx → Iterates buffered.watchedTxo txo →
        (deserialize bufferPrimitives).run
            (serialize bufferPrimitives tx txo buffered.lastHeight) = .ok (buffered, []) := by
  have free : Admits sampleCrypto (new 0) (.addTx sampleFundTxid bufferInfo) := by
    refine ⟨?_, fun _ => ?_⟩
    · exact @watching_registered _ bufferInfo (.inl rfl)
    · exact @watching_registered _ bufferInfo (.inl rfl)
  have only : ∀ (keep : Transaction → Bool), ∀ tx ∈ [sampleBufferTx].filter keep,
      tx = sampleBufferTx := by
    intro keep tx listed
    exact List.mem_singleton.mp (List.mem_of_mem_filter listed)
  have single : Admits sampleCrypto watching (.processBlock [sampleBufferTx] 1) := by
    constructor
    · intro txid
      refine oneUnder_single (@watching_registered _ bufferInfo ?_) (only _)
      rw [watching, addTx_watchedTx]
      split_ifs
      · exact .inr rfl
      · exact .inl rfl
    · intro outpoint
      refine oneUnder_single (@watching_registered _ ⟨7, .cet⟩ ?_) (only _)
      rw [watching, addTx_watchedTxo]
      split_ifs
      · exact .inr rfl
      · exact .inl rfl
  exact watching_lossless ((Run.nil.snoc ⟨free, watching_step⟩).snoc ⟨single, buffered_step⟩)

/-- The confirmation that the monitor has seen is lost when the transaction is
registered again as revoked. -/
theorem revocation_loses_confirmation :
    Run (ChainMonitor.step sampleCrypto bufferPrimitives) (new 0)
        (bufferCalls ++ [.addTx sampleFundTxid revokedInfo])
        (buffered.addTx sampleFundTxid revokedInfo) ∧
      buffered.ConfirmedTx (sampleBufferTx, bufferInfo) ∧
      Reported sampleCrypto (bufferCalls ++ [.addTx sampleFundTxid revokedInfo])
        (sampleBufferTx, revokedInfo) ∧
      ¬ (buffered.addTx sampleFundTxid revokedInfo).ConfirmedTx (sampleBufferTx, revokedInfo) := by
  refine ⟨buffered_run.snoc ⟨⟨by decide, by decide +kernel, by decide +kernel⟩, rfl⟩, ?_, ?_, ?_⟩
  · exact .inl ⟨sampleFundTxid, by decide +kernel⟩
  · exact .inl ⟨sampleFundTxid, ⟨revokedInfo, [sampleBufferTx]⟩, by decide +kernel, rfl,
      List.mem_singleton_self _⟩
  · rintro (⟨txid, found⟩ | ⟨outpoint, found⟩)
    · have before : ∀ other, other ≠ sampleFundTxid → buffered.watchedTx other = none := by
        intro other differs
        have processed := processTxs_watchedTx (C := sampleCrypto) [sampleBufferTx] watching other
        rw [watching, addTx_watchedTx, if_neg differs] at processed
        exact processed
      rw [addTx_watchedTx] at found
      split_ifs at found with same
      · cases found
      · rw [before txid same] at found
        cases found
    · by_cases same : outpoint = ⟨sampleFundTxid, 0⟩
      · rw [same] at found
        exact absurd found (by decide +kernel)
      · have processed :=
          processTxs_watchedTxo (C := sampleCrypto) [sampleBufferTx] watching outpoint
        rw [watching, addTx_watchedTxo, if_neg fun both => same both.2.symm] at processed
        have unwatched : buffered.watchedTxo outpoint = none := processed
        rw [addTx_watchedTxo, if_neg fun both => same both.2.symm, unwatched] at found
        cases found

end ChainMonitor

end P2PLending.Manager.Channels
