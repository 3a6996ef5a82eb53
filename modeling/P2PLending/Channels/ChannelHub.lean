import P2PLending.Channels.ClosingKept

/-! The checks of all stored channels. Each loop reads the stored channels once and then
handles one after the other, as the checks of a single channel do; an error of the first
two kinds of loops is logged, an error at a watched transaction ends the check. -/

namespace P2PLending.Manager.Channels
open Dlc Checked

/-- What is stored and sent, with one record for each channel id. -/
structure Hub (X : ChannelCrypto) (D : Descriptors) where
  channels : List (ChannelRecord X)
  keyed : (channels.map ChannelRecord.getId).Nodup
  contracts : Store D
  chainMonitor : ChainMonitor
  persistedChainMonitor : ChainMonitor
  sent : List Sent

abbrev HubHandler (X : ChannelCrypto) (D : Descriptors) := Handler (Hub X D) (Fault Error)

namespace Hub
variable {X : ChannelCrypto} {D : Descriptors}

/-- The manager as far as it concerns the channel with the record. -/
def nodeOf (h : Hub X D) (c : ChannelRecord X) : Node X D where
  channel := c
  contracts := h.contracts
  chainMonitor := h.chainMonitor
  persistedChainMonitor := h.persistedChainMonitor
  sent := h.sent

/-- The record takes the place of the one with its id. -/
def upsert (record c : ChannelRecord X) : ChannelRecord X :=
  if c.getId = record.getId then record else c

theorem upsert_getId (record c : ChannelRecord X) : (upsert record c).getId = c.getId := by
  unfold upsert
  split
  · next same => exact same.symm
  · rfl

/-- The channel's record and what all channels share are written back. -/
def put (h : Hub X D) (n : Node X D) : Hub X D where
  channels := h.channels.map (upsert n.channel)
  keyed := by
    have ids : (h.channels.map (upsert n.channel)).map ChannelRecord.getId =
        h.channels.map ChannelRecord.getId := by
      simp only [List.map_map, Function.comp_def, upsert_getId]
    rw [ids]
    exact h.keyed
  contracts := n.contracts
  chainMonitor := n.chainMonitor
  persistedChainMonitor := n.persistedChainMonitor
  sent := n.sent

def atRecord (handler : NodeHandler X D Unit) (c : ChannelRecord X) : HubHandler X D Unit :=
  fun h => ((handler (h.nodeOf c)).1, h.put (handler (h.nodeOf c)).2)

/-- A loop over the channels that are stored at its start. -/
def eachChannel (handler : NodeHandler X D Unit) : HubHandler X D Unit :=
  fun h => Handler.forEach (atRecord handler) h.channels h

/-- The stored channel with the id, if there is one. -/
def atId (id : ChannelId) (handler : NodeHandler X D Unit) : HubHandler X D Unit := fun h =>
  match h.channels.find? fun c => c.getId = id with
  | some c => atRecord handler c h
  | none => (.ok (), h)

section Source
variable (X) (signer : Signer) {E : SigningDescriptors} (env : Environment E.toDescriptors)

def checkClosingChannels : HubHandler X E.toDescriptors Unit :=
  eachChannel (Node.checkClosingChannels X signer env)

/-- `check_for_timed_out_channels!`, once for each of the listed states. -/
def checkTimedOut (timeout : SignedChannelState → Option ℕ) : HubHandler X E.toDescriptors Unit :=
  eachChannel (Node.checkTimedOut X signer env timeout)

def checkForTimedOutChannels : HubHandler X E.toDescriptors Unit := do
  checkTimedOut X signer env fun | .renewOffered s => some s.timeout | _ => none
  checkTimedOut X signer env fun | .renewAccepted s => some s.timeout | _ => none
  checkTimedOut X signer env fun | .renewConfirmed s => some s.timeout | _ => none
  checkTimedOut X signer env fun | .settledOffered s => some s.timeout | _ => none
  checkTimedOut X signer env fun | .settledAccepted s => some s.timeout | _ => none
  checkTimedOut X signer env fun | .settledConfirmed s => some s.timeout | _ => none

def processWatchedTx (watched : Transaction × ChannelInfo) : HubHandler X E.toDescriptors Unit :=
  atId watched.2.channelId (Node.processWatchedTx X signer env watched)

def checkForWatchedTx : HubHandler X E.toDescriptors Unit := do
  let confirmedTxs ← Handler.read fun h => .ok (env.confirmedTxs h.chainMonitor)
  Handler.forEach (processWatchedTx X signer env) confirmedTxs
  Handler.modify fun h => { h with persistedChainMonitor := h.chainMonitor }

def channelChecks : HubHandler X E.toDescriptors Unit := do
  checkClosingChannels X signer env
  checkForTimedOutChannels X signer env
  checkForWatchedTx X signer env

end Source

/-! One record at a time. -/

section Records
variable {h : Hub X D} {handler : NodeHandler X D Unit}

theorem map_upsert_of_ne {record : ChannelRecord X} {l : List (ChannelRecord X)}
    (others : ∀ c ∈ l, c.getId ≠ record.getId) : l.map (upsert record) = l := by
  have same : ∀ c ∈ l, upsert record c = id c := fun c listed => if_neg (others c listed)
  rw [List.map_congr_left same, List.map_id]

/-- The record of a channel takes its place among the others. -/
theorem put_channels {before after : List (ChannelRecord X)} {c : ChannelRecord X} {n : Node X D}
    (listed : h.channels = before ++ c :: after) (same : n.channel.getId = c.getId) :
    (h.put n).channels = before ++ n.channel :: after := by
  have keyed := h.keyed
  rw [listed, List.map_append, List.map_cons, List.nodup_middle, List.nodup_cons,
    ← List.map_append] at keyed
  have others : ∀ c' ∈ before ++ after, c'.getId ≠ n.channel.getId := by
    intro c' member equal
    exact keyed.1 (List.mem_map.mpr ⟨c', member, equal.trans same⟩)
  have replaced : upsert n.channel c = n.channel := if_pos same.symm
  show h.channels.map (upsert n.channel) = _
  rw [listed, List.map_append, List.map_cons, replaced,
    map_upsert_of_ne fun c' member => others c' (List.mem_append_left _ member),
    map_upsert_of_ne fun c' member => others c' (List.mem_append_right _ member)]

/-- When the handler of a channel takes what holds of its record to what shall hold, the
loop does so for all channels. -/
theorem forEach_records {I J : ChannelRecord X → Prop}
    (each : ∀ n, I n.channel → (handler n).1 = .ok () ∧ J (handler n).2.channel ∧
      (handler n).2.channel.getId = n.channel.getId)
    {todo : List (ChannelRecord X)} (done : List (ChannelRecord X)) (h : Hub X D) (listed : h.channels = done ++ todo)
    (already : ∀ c ∈ done, J c) (open_ : ∀ c ∈ todo, I c) :
    (Handler.forEach (atRecord handler) todo h).1 = .ok () ∧
      ∀ c ∈ (Handler.forEach (atRecord handler) todo h).2.channels, J c := by
  induction todo generalizing done h with
  | nil =>
      rw [List.append_nil] at listed
      exact ⟨rfl, by rw [← listed] at already; exact already⟩
  | cons c rest ih =>
      obtain ⟨returned, reached, same⟩ := each (h.nodeOf c) (open_ c List.mem_cons_self)
      have placed := put_channels (n := (handler (h.nodeOf c)).2) listed same
      have next := ih (done ++ [(handler (h.nodeOf c)).2.channel])
        (h.put (handler (h.nodeOf c)).2) (by rw [placed, List.append_assoc]; rfl)
        (List.forall_mem_append.mpr ⟨already, List.forall_mem_singleton.mpr reached⟩)
        fun c' member => open_ c' (List.mem_cons_of_mem c member)
      have first : atRecord handler c h = (.ok (), h.put (handler (h.nodeOf c)).2) :=
        Prod.ext returned rfl
      rw [Handler.forEach, Handler.bind_apply, first]
      exact next

theorem eachChannel_records {I J : ChannelRecord X → Prop}
    (each : ∀ n, I n.channel → (handler n).1 = .ok () ∧ J (handler n).2.channel ∧
      (handler n).2.channel.getId = n.channel.getId) (h : Hub X D)
    (open_ : ∀ c ∈ h.channels, I c) :
    (eachChannel handler h).1 = .ok () ∧ ∀ c ∈ (eachChannel handler h).2.channels, J c :=
  forEach_records each [] h rfl (List.forall_mem_nil _) open_

/-- What a check preserves of each record, it preserves of all, whatever its outcome. -/
def KeepsAll (I : ChannelRecord X → Prop) (h h' : Hub X D) : Prop :=
  (∀ c ∈ h.channels, I c) → ∀ c ∈ h'.channels, I c

instance {I : ChannelRecord X → Prop} : Std.Refl (KeepsAll (D := D) I) where
  refl _ all := all

instance {I : ChannelRecord X → Prop} : IsTrans (Hub X D) (KeepsAll I) where
  trans _ _ _ first next all := next (first all)

theorem keepsAll_atRecord {I : ChannelRecord X → Prop}
    (each : ∀ n, I n.channel → I (handler n).2.channel) {c : ChannelRecord X} (holds : I c) :
    Handler.Keeps (KeepsAll I) (atRecord handler c) := by
  intro h all c' listed
  obtain ⟨old, member, rfl⟩ := List.mem_map.mp listed
  unfold upsert
  split
  · exact each (h.nodeOf c) holds
  · exact all old member

theorem eachChannel_keepsAll {I : ChannelRecord X → Prop}
    (each : ∀ n, I n.channel → I (handler n).2.channel) :
    Handler.Keeps (KeepsAll I) (eachChannel handler) := fun h all =>
  Handler.keeps_forEach (fun c listed => keepsAll_atRecord each (all c listed)) h all

theorem atId_keepsAll {I : ChannelRecord X → Prop} {id : ChannelId}
    (each : ∀ n, I n.channel → I (handler n).2.channel) :
    Handler.Keeps (KeepsAll I) (atId id handler) := by
  intro h all
  unfold atId
  split
  next c found =>
    exact keepsAll_atRecord each (all c (List.mem_of_find?_eq_some found)) h all
  next => exact all

/-- A record that is stored stays stored. -/
def KeepsRecord (c : ChannelRecord X) (h h' : Hub X D) : Prop :=
  c ∈ h.channels → c ∈ h'.channels

instance {c : ChannelRecord X} : Std.Refl (KeepsRecord (D := D) c) where
  refl _ stored := stored

instance {c : ChannelRecord X} : IsTrans (Hub X D) (KeepsRecord c) where
  trans _ _ _ first next stored := next (first stored)

theorem keepsRecord_own {c : ChannelRecord X}
    (stays : ∀ n, n.channel = c → (handler n).2.channel = c) :
    Handler.Keeps (KeepsRecord c) (atRecord handler c) := by
  intro h stored
  refine List.mem_map.mpr ⟨c, stored, ?_⟩
  show upsert (handler (h.nodeOf c)).2.channel c = c
  rw [stays (h.nodeOf c) rfl]
  exact if_pos rfl

theorem keepsRecord_other {c₀ c : ChannelRecord X}
    (ids : ∀ n, (handler n).2.channel.getId = n.channel.getId) (other : c₀.getId ≠ c.getId) :
    Handler.Keeps (KeepsRecord c₀) (atRecord handler c) := by
  intro h stored
  refine List.mem_map.mpr ⟨c₀, stored, if_neg fun equal => other ?_⟩
  exact equal.trans (ids (h.nodeOf c))

theorem eachChannel_keepsRecord {c₀ : ChannelRecord X}
    (stays : ∀ n, n.channel = c₀ → (handler n).2.channel = c₀)
    (ids : ∀ n, (handler n).2.channel.getId = n.channel.getId) :
    Handler.Keeps (KeepsRecord c₀) (eachChannel handler) := by
  intro h stored
  have each : ∀ c ∈ h.channels, Handler.Keeps (KeepsRecord c₀) (atRecord handler c) := by
    intro c listed
    by_cases same : c₀.getId = c.getId
    · obtain rfl := List.inj_on_of_nodup_map h.keyed listed stored same.symm
      exact keepsRecord_own stays
    · exact keepsRecord_other ids same
  exact Handler.keeps_forEach each h stored

theorem atId_keepsRecord {c₀ : ChannelRecord X} {id : ChannelId} (other : c₀.getId ≠ id)
    (ids : ∀ n, (handler n).2.channel.getId = n.channel.getId) :
    Handler.Keeps (KeepsRecord c₀) (atId id handler) := by
  intro h stored
  unfold atId
  split
  next c found =>
    have asked : c.getId = id := by simpa using List.find?_some found
    exact keepsRecord_other ids (asked ▸ other) h stored
  next => exact stored

end Records

end Hub

end P2PLending.Manager.Channels
