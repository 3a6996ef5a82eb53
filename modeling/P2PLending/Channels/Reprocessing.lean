import P2PLending.Channels.FaultIsolation

/-! The watched transactions, processed again. A transaction that finishes its channel is watched no
longer. A buffer transaction stays watched, and the state to go back to is taken anew each time it
is seen. -/

namespace P2PLending.Manager.Channels
open Dlc Checked

/-! One transaction of a signed channel. -/

namespace Node
section Seen
variable {X : ChannelCrypto} {signer : Signer} {E : SigningDescriptors}
  {env : Environment E.toDescriptors} {n n' : Node X E.toDescriptors} {ch : SignedChannel X}
  {tx : Transaction} {txType : TxType} {u : Unit}

/-- The records and the monitor are the same. -/
structure Same {D : Descriptors} (n n' : Node X D) : Prop where
  channel : n'.channel = n.channel
  contracts : n'.contracts = n.contracts
  chainMonitor : n'.chainMonitor = n.chainMonitor

instance {D : Descriptors} : Std.Refl (Same (X := X) (D := D)) where
  refl _ := ⟨rfl, rfl, rfl⟩

instance {D : Descriptors} : IsTrans (Node X D) Same where
  trans _ _ _ ab bc := ⟨bc.channel.trans ab.channel, bc.contracts.trans ab.contracts,
    bc.chainMonitor.trans ab.chainMonitor⟩

theorem broadcast_same (sent : Sent) : Handler.Keeps Same (broadcast (X := X) env sent) := by
  intro n
  rw [broadcast, Handler.modify_bind]
  exact ⟨rfl, rfl, rfl⟩

variable (ch) in
theorem collaborativelyClosed_same (own : Bool) :
    Handler.Keeps Same (collaborativelyClosed X (E := E) ch own) := by
  have looks : ∀ id payout, Handler.Keeps Same
      (getCollaborativelyClosedContract (X := X) (D := E.toDescriptors) id payout own) :=
    fun _ _ => Handler.keeps_bind (Handler.keeps_read _) fun _ =>
      Handler.keeps_bind (Handler.keeps_lift _) fun _ => Handler.keeps_pure _
  unfold collaborativelyClosed
  split
  next => exact Handler.keeps_bind (Handler.keeps_lift _) fun _ =>
      Handler.keeps_bind (looks _ _) fun _ => Handler.keeps_pure _
  next => exact Handler.keeps_pure _

/-- Nothing is stored and nothing is forgotten before a fault, but for a CET. -/
theorem processSigned_fails (other : txType ≠ .cet) :
    Handler.FailsIn Same (processSigned X signer env ch tx txType) := by
  cases txType with
  | bufferTx =>
      exact Handler.failsIn_bind (Handler.keeps_lift _) fun _ _ _ _ =>
        Handler.failsIn_of_never fun _ => rfl
  | revoked =>
      exact Handler.failsIn_bind (Handler.keeps_lift _) fun _ _ _ _ =>
        Handler.failsIn_bind (broadcast_same _) fun _ _ _ _ => Handler.failsIn_of_never fun _ => rfl
  | collaborativeClose =>
      refine Handler.failsIn_bind (collaborativelyClosed_same ch _) fun _ closed _ _ => ?_
      refine Handler.failsIn_then_never ?_ fun _ _ => rfl
      cases closed with
      | none => exact Handler.failsIn_of_never fun _ => rfl
      | some contract => exact Handler.failsIn_bind (Handler.keeps_read _) fun _ _ _ _ =>
          Handler.failsIn_of_never fun _ => rfl
  | settleTx => exact Handler.failsIn_of_never fun _ => rfl
  | cet => exact absurd rfl other

abbrev OnContracts {D : Descriptors} {α : Type} (h : NodeHandler X D α) : Prop :=
  Handler.Confined (fun n : Node X D => n.contracts) (fun _ => ()) h

theorem updateContract_onContracts {D : Descriptors} (contract : Contract D) :
    OnContracts (updateContract (X := X) contract) := by
  refine Handler.confined_bind (Handler.confined_read fun n m same => ?_) fun _ _ _ _ =>
    Handler.confined_modify (fun _ _ _ => rfl) fun _ => rfl
  have same : n.contracts = m.contracts := same
  rw [same]

theorem upsertChannel_onContracts {D : Descriptors} (channel : ChannelRecord X)
    (contract : Option (Contract D)) : OnContracts (upsertChannel channel contract) := by
  refine Handler.confined_bind (Handler.confined_read fun n m same => ?_) fun _ _ _ _ =>
    Handler.confined_modify (fun _ _ _ => rfl) fun _ => rfl
  have same : n.contracts = m.contracts := same
  rw [same]

theorem cleanupChannel_onContracts {D : Descriptors} (id : ChannelId) :
    OnContracts (X := X) (D := D) (cleanupChannel id) :=
  ⟨fun _ _ _ => rfl, fun _ _ same => same, fun _ => rfl⟩

theorem persistChainMonitor_onContracts {D : Descriptors} :
    OnContracts (X := X) (D := D) persistChainMonitor :=
  Handler.confined_modify (fun _ _ same => same) fun _ => rfl

theorem broadcast_onContracts {D : Descriptors} {env : Environment D} (sent : Sent) :
    OnContracts (X := X) (broadcast env sent) :=
  Handler.confined_bind (Handler.confined_modify (fun _ _ same => same) fun _ => rfl)
    fun _ _ _ _ => Handler.confined_lift _

theorem collaborativelyClosed_onContracts (own : Bool) :
    OnContracts (collaborativelyClosed X (E := E) ch own) := by
  have looks : ∀ id payout, OnContracts
      (getCollaborativelyClosedContract (X := X) (D := E.toDescriptors) id payout own) := by
    refine fun id payout => Handler.confined_bind (Handler.confined_read fun n m same => ?_)
      fun _ _ _ _ => Handler.confined_bind (Handler.confined_lift _) fun _ _ _ _ =>
        Handler.confined_pure _
    have same : n.contracts = m.contracts := same
    rw [same]
  unfold collaborativelyClosed
  split
  next => exact Handler.confined_bind (Handler.confined_lift _) fun _ _ _ _ =>
      Handler.confined_bind (looks _ _) fun _ _ _ _ => Handler.confined_pure _
  next => exact Handler.confined_pure _

/-- What is returned depends on the stored contracts alone. -/
theorem processSigned_onContracts :
    OnContracts (processSigned X signer env ch tx txType) := by
  have finish : ∀ record, OnContracts
      (cleanupChannel (X := X) (D := E.toDescriptors) ch.channelId >>= fun _ =>
        upsertChannel record none >>= fun _ => persistChainMonitor) := fun record =>
    Handler.confined_bind (cleanupChannel_onContracts _) fun _ _ _ _ =>
      Handler.confined_bind (upsertChannel_onContracts _ _) fun _ _ _ _ =>
        persistChainMonitor_onContracts
  cases txType with
  | bufferTx =>
      exact Handler.confined_bind (Handler.confined_lift _) fun _ _ _ _ =>
        upsertChannel_onContracts _ _
  | revoked =>
      exact Handler.confined_bind (Handler.confined_lift _) fun _ _ _ _ =>
        Handler.confined_bind (broadcast_onContracts _) fun _ _ _ _ => finish _
  | collaborativeClose =>
      refine Handler.confined_bind (collaborativelyClosed_onContracts _) fun _ closed _ _ => ?_
      refine Handler.confined_bind ?_ fun _ _ _ _ => finish _
      cases closed with
      | none => exact Handler.confined_pure _
      | some contract => exact updateContract_onContracts contract
  | settleTx => exact finish _
  | cet =>
      refine Handler.confined_bind (cleanupChannel_onContracts _) fun _ _ _ _ => ?_
      refine Handler.confined_bind (Handler.confined_read fun n m same => ?_) fun _ _ _ _ =>
        Handler.confined_bind (upsertChannel_onContracts _ _) fun _ _ _ _ =>
          persistChainMonitor_onContracts
      have same : n.contracts = m.contracts := same
      rw [same]

theorem updateContract_panics {D : Descriptors} {C : Crypto} {store : Store D}
    {c : PreClosedContract D} {e : Error} :
    store.updateContract C (.preClosed c) ≠ .error (.err e) := by
  rw [Store.updateContract, Contract.getId, AcceptedContract.getContractId]
  split <;> simp

/-- A fault that is not a panic comes from a punishment or a collaborative close. -/
theorem processSigned_stops {e : Error} {n' : Node X E.toDescriptors}
    (stopped : processSigned X signer env ch tx txType n = (.error (.err e), n')) :
    txType ≠ .bufferTx ∧ txType ≠ .cet := by
  constructor
  · rintro rfl
    rw [processSigned, onBufferTx, Handler.lift_bind] at stopped
    split at stopped
    next => cases stopped
    next e found =>
      split at found
      next => cases found
      next =>
        cases found
        cases stopped
  · rintro rfl
    obtain ⟨record, contract, ran⟩ : ∃ record, ∃ contract : Option (PreClosedContract _),
        processSigned X signer env ch tx .cet n =
          (upsertChannel record (contract.map .preClosed) >>= fun _ => persistChainMonitor)
            { n with chainMonitor := n.chainMonitor.cleanupChannel ch.channelId } :=
      ⟨_, ((ch.state.contractId.bind n.contracts).bind Contract.confirmed?).map
        fun signedContract => { signedContract, signedCet := tx }, by rw [Option.map_map]; rfl⟩
    rw [ran, Handler.bind_apply] at stopped
    cases contract with
    | none => cases stopped
    | some contract =>
        rw [Option.map_some, upsertChannel_some] at stopped
        dsimp only at stopped
        cases stored : n.contracts.updateContract X.toCrypto (.preClosed contract) with
        | ok contracts =>
            rw [stored] at stopped
            cases stopped
        | error refused =>
            rw [stored] at stopped
            cases stopped
            exact updateContract_panics stored

theorem upsertChannel_chainMonitor {D : Descriptors} {n n' : Node X D} {channel : ChannelRecord X}
    {contract : Option (Contract D)} (stored : upsertChannel channel contract n = (.ok u, n')) :
    n'.chainMonitor = n.chainMonitor := by
  cases contract with
  | none => rw [← upsertChannel_none_ok.mp stored]
  | some contract =>
      obtain ⟨_, -, rfl⟩ := upsertChannel_some_ok.mp stored
      rfl

/-- A buffer transaction changes the record alone. -/
theorem processSigned_buffer (done : processSigned X signer env ch tx .bufferTx n = (.ok u, n')) :
    n'.contracts = n.contracts ∧ n'.chainMonitor = n.chainMonitor ∧
      ∃ contractId, ch.state.contractId = some contractId := by
  simp only [processSigned, onBufferTx, Handler.bind_ok, Handler.lift_ok,
    upsertChannel_none_ok] at done
  obtain ⟨contractId, _, ⟨named, rfl⟩, rfl⟩ := done
  refine ⟨rfl, rfl, ?_⟩
  cases found : ch.state.contractId with
  | some id => exact ⟨id, rfl⟩
  | none =>
      rw [found] at named
      cases named

/-- Any other transaction finishes the channel, which is then no longer watched. -/
theorem processSigned_finishes (other : txType ≠ .bufferTx)
    (done : processSigned X signer env ch tx txType n = (.ok u, n')) :
    n'.chainMonitor = n.chainMonitor.cleanupChannel ch.channelId ∧
      ∀ ch', n'.channel ≠ .signed ch' := by
  cases txType with
  | bufferTx => exact absurd rfl other
  | revoked =>
      simp only [processSigned, onRevoked, Handler.bind_ok, Handler.lift_ok, broadcast_ok,
        cleanupChannel_ok, upsertChannel_none_ok, persistChainMonitor_ok] at done
      obtain ⟨signedTx, _, ⟨-, rfl⟩, _, _, ⟨-, rfl⟩, _, _, rfl, _, _, rfl, rfl⟩ := done
      exact ⟨rfl, fun ch' => by simp⟩
  | collaborativeClose =>
      simp only [processSigned, onCollaborativeClose, Handler.bind_ok, cleanupChannel_ok,
        upsertChannel_none_ok, persistChainMonitor_ok] at done
      obtain ⟨closed, n₁, looked, _, n₂, stored, _, _, rfl, _, _, rfl, rfl⟩ := done
      have same := collaborativelyClosed_same ch false n
      rw [looked] at same
      have kept : n₂.chainMonitor = n₁.chainMonitor := by
        cases closed with
        | none =>
            cases stored
            rfl
        | some contract =>
            obtain ⟨_, -, rfl⟩ := updateContract_ok.mp stored
            rfl
      refine ⟨?_, fun ch' => by simp⟩
      dsimp only
      rw [kept, same.chainMonitor]
  | settleTx =>
      simp only [processSigned, onSettleTx, Handler.bind_ok, cleanupChannel_ok,
        upsertChannel_none_ok, persistChainMonitor_ok] at done
      obtain ⟨_, _, rfl, _, _, rfl, rfl⟩ := done
      exact ⟨rfl, fun ch' => by simp⟩
  | cet =>
      have record := processSigned_record done
      simp only [processSigned, onCet, Handler.bind_ok, cleanupChannel_ok, Handler.read_ok,
        persistChainMonitor_ok] at done
      obtain ⟨_, _, rfl, _, _, ⟨-, rfl⟩, _, _, upserted, rfl⟩ := done
      refine ⟨upsertChannel_chainMonitor upserted, fun ch' signed => ?_⟩
      exact closedRecord_unsigned ch' (record.symm.trans signed)

end Seen
end Node

/-! One transaction among all channels. -/

namespace Hub
variable {X : ChannelCrypto} {signer : Signer} {E : SigningDescriptors}
  {env : Environment E.toDescriptors} {h h' : Hub X E.toDescriptors} {ch : SignedChannel X}
  {w v : Transaction × ChannelInfo}

/-- The stored records and the monitor are the same. -/
structure Alike {D : Descriptors} (h h' : Hub X D) : Prop where
  channels : h'.channels = h.channels
  contracts : h'.contracts = h.contracts
  chainMonitor : h'.chainMonitor = h.chainMonitor

/-- The signed channel of a transaction, if it has one, is at its buffer transaction. -/
def Mild {D : Descriptors} (h : Hub X D) (w : Transaction × ChannelInfo) : Prop :=
  ∀ ch, .signed ch ∈ h.channels → ch.channelId = w.2.channelId →
    w.2.txType = .bufferTx ∧ ∃ contractId, ch.state.contractId = some contractId

def SignedAt {D : Descriptors} (h : Hub X D) (id : ChannelId) : Prop :=
  ∃ ch, .signed ch ∈ h.channels ∧ ch.channelId = id

theorem put_channels_same {D : Descriptors} {h : Hub X D} {n : Node X D}
    (stored : n.channel ∈ h.channels) : (h.put n).channels = h.channels := by
  have each : ∀ c ∈ h.channels, upsert n.channel c = id c := by
    intro c listed
    unfold upsert
    split
    · next same => exact (List.inj_on_of_nodup_map h.keyed listed stored same).symm
    · rfl
  show h.channels.map (upsert n.channel) = _
  rw [List.map_congr_left each, List.map_id]

theorem find_signed {D : Descriptors} {h : Hub X D} (stored : .signed ch ∈ h.channels) :
    (h.channels.find? fun c => c.getId = ch.channelId) = some (.signed ch) := by
  cases found : h.channels.find? fun c => c.getId = ch.channelId with
  | none =>
      have other := List.find?_eq_none.mp found _ stored
      exact absurd (decide_eq_true rfl) other
  | some c =>
      have named : c.getId = ch.channelId := by simpa using List.find?_some found
      have same := List.inj_on_of_nodup_map h.keyed (List.mem_of_find?_eq_some found) stored named
      rw [same]

theorem processWatchedTx_nodeOf (named : ch.channelId = w.2.channelId) :
    Node.processWatchedTx X signer env w (h.nodeOf (.signed ch)) =
      Node.processSigned X signer env ch w.1 w.2.txType (h.nodeOf (.signed ch)) := by
  have got : (h.nodeOf (.signed ch)).getSigned w.2.channelId none = .ok ch :=
    Node.getSigned_ok.mpr ⟨rfl, named, rfl⟩
  rw [Node.processWatchedTx, got]

theorem processWatchedTx_signed (stored : .signed ch ∈ h.channels)
    (named : ch.channelId = w.2.channelId) :
    processWatchedTx X signer env w h =
      ((Node.processSigned X signer env ch w.1 w.2.txType (h.nodeOf (.signed ch))).1,
        h.put (Node.processSigned X signer env ch w.1 w.2.txType (h.nodeOf (.signed ch))).2) := by
  rw [processWatchedTx, atId, ← named, find_signed stored]
  dsimp only
  rw [atRecord, processWatchedTx_nodeOf named]

variable (signer env) in
/-- A transaction of a channel that is not signed is skipped. -/
theorem processWatchedTx_skips (unsigned : ¬ h.SignedAt w.2.channelId) :
    ∃ h', processWatchedTx X signer env w h = (.ok (), h') ∧ h.Alike h' := by
  rw [processWatchedTx, atId]
  cases found : h.channels.find? fun c => c.getId = w.2.channelId with
  | none => exact ⟨h, rfl, rfl, rfl, rfl⟩
  | some c =>
      have stored := List.mem_of_find?_eq_some found
      have skipped : Node.processWatchedTx X signer env w (h.nodeOf c) = (.ok (), h.nodeOf c) := by
        rw [Node.processWatchedTx]
        cases got : (h.nodeOf c).getSigned w.2.channelId none with
        | error _ => rfl
        | ok ch =>
            obtain ⟨signed, named, -⟩ := Node.getSigned_ok.mp got
            exact absurd ⟨ch, signed ▸ stored, named⟩ unsigned
      dsimp only
      rw [atRecord, skipped]
      exact ⟨_, rfl, put_channels_same stored, rfl, rfl⟩

theorem recordAfter_getId (tx : Transaction) (txType : TxType) :
    (Node.recordAfter X signer env ch tx txType).getId = ch.channelId := by
  cases txType with
  | bufferTx =>
      rw [Node.recordAfter]
      split <;> rfl
  | revoked =>
      rw [Node.recordAfter]
      split <;> rfl
  | collaborativeClose | settleTx => rfl
  | cet => exact closedRecord_getId

variable (signer env w) in
theorem watchedRecord_getId (c : ChannelRecord X) :
    (watchedRecord X signer env c w).getId = c.getId := by
  unfold watchedRecord
  split
  · cases c with
    | signed ch => exact recordAfter_getId _ _
    | closed | counterClosed | collaborativelyClosed | closedPunished => rfl
  · rfl

theorem watchedRecord_own (named : ch.channelId = w.2.channelId) :
    watchedRecord X signer env (.signed ch) w =
      Node.recordAfter X signer env ch w.1 w.2.txType := if_pos named

theorem watchedRecord_other {c : ChannelRecord X} (other : c.getId ≠ w.2.channelId) :
    watchedRecord X signer env c w = c := if_neg other

theorem watchedRecord_unsigned {c : ChannelRecord X} (unsigned : ∀ ch, c ≠ .signed ch) :
    watchedRecord X signer env c w = c := by
  unfold watchedRecord
  split
  · cases c with
    | signed ch => exact absurd rfl (unsigned ch)
    | closed | counterClosed | collaborativelyClosed | closedPunished => rfl
  · rfl

/-- A record that is signed afterwards was signed before, with a contract if it had one. -/
theorem watchedRecord_signed {c : ChannelRecord X} {ch' : SignedChannel X}
    (after : watchedRecord X signer env c w = .signed ch') :
    ∃ ch, c = .signed ch ∧ ch.channelId = ch'.channelId ∧
      ∀ contractId, ch.state.contractId = some contractId →
        ∃ contractId, ch'.state.contractId = some contractId := by
  have id := watchedRecord_getId signer env w c
  rw [after] at id
  unfold watchedRecord at after
  split at after
  · cases c with
    | signed ch =>
        refine ⟨ch, rfl, id.symm, fun contractId had => ?_⟩
        dsimp only at after
        cases kind : w.2.txType with
        | bufferTx =>
            rw [kind, Node.recordAfter, had] at after
            cases after
            exact ⟨contractId, rfl⟩
        | revoked =>
            rw [kind, Node.recordAfter] at after
            split at after
            · cases after
            · cases after
              exact ⟨contractId, had⟩
        | collaborativeClose | settleTx =>
            rw [kind] at after
            cases after
        | cet =>
            rw [kind] at after
            exact absurd after (Node.closedRecord_unsigned ch')
    | closed | counterClosed | collaborativelyClosed | closedPunished => cases after
  · exact ⟨ch', after, rfl, fun contractId had => ⟨contractId, had⟩⟩

theorem signed_of_done (done : processWatchedTx X signer env w h = (.ok (), h'))
    (stored : .signed ch ∈ h'.channels) :
    ∃ ch₀, .signed ch₀ ∈ h.channels ∧ ch₀.channelId = ch.channelId ∧
      ∀ contractId, ch₀.state.contractId = some contractId →
        ∃ contractId, ch.state.contractId = some contractId := by
  rw [processWatchedTx_records done] at stored
  obtain ⟨c, listed, after⟩ := List.mem_map.mp stored
  obtain ⟨ch₀, rfl, id, had⟩ := watchedRecord_signed after
  exact ⟨ch₀, listed, id, had⟩

theorem Mild.done (mild : h.Mild v) (done : processWatchedTx X signer env w h = (.ok (), h')) :
    h'.Mild v := by
  intro ch stored named
  obtain ⟨ch₀, listed, id, had⟩ := signed_of_done done stored
  obtain ⟨buffer, contractId, some'⟩ := mild ch₀ listed (id.trans named)
  exact ⟨buffer, had contractId some'⟩

variable (signer env) in
/-- A transaction of a mild kind is handled, with a change of the records alone. -/
theorem Mild.handled (mild : h.Mild w) : ∃ h', processWatchedTx X signer env w h = (.ok (), h') ∧
    h'.contracts = h.contracts ∧ h'.chainMonitor = h.chainMonitor := by
  by_cases signed : h.SignedAt w.2.channelId
  · obtain ⟨ch, stored, named⟩ := signed
    obtain ⟨buffer, contractId, had⟩ := mild ch stored named
    have ran : Node.processSigned X signer env ch w.1 w.2.txType (h.nodeOf (.signed ch)) =
        (.ok (), { h.nodeOf (.signed ch) with
          channel :=
            .signed (ch.enter (.closing ⟨w.1, contractId, false, ch.state.keysId⟩)) }) := by
      rw [buffer, Node.processSigned, Node.onBufferTx, had]
      rfl
    rw [processWatchedTx_signed stored named, ran]
    exact ⟨_, rfl, rfl, rfl⟩
  · obtain ⟨h', done, alike⟩ := processWatchedTx_skips signer env signed
    exact ⟨h', done, alike.contracts, alike.chainMonitor⟩

/-- A transaction is mild, or its channel is finished and no longer watched. -/
theorem processWatchedTx_done (done : processWatchedTx X signer env w h = (.ok (), h')) :
    h.Mild w ∨ ¬ h'.SignedAt w.2.channelId ∧
      h'.chainMonitor = h.chainMonitor.cleanupChannel w.2.channelId := by
  by_cases signed : h.SignedAt w.2.channelId
  · obtain ⟨ch, stored, named⟩ := signed
    have called := done
    rw [processWatchedTx_signed stored named] at called
    obtain ⟨returned, placed⟩ := Prod.mk.inj called
    obtain ⟨n, ran, reached⟩ : ∃ n, Node.processSigned X signer env ch w.1 w.2.txType
        (h.nodeOf (.signed ch)) = (.ok (), n) ∧ h' = h.put n :=
      ⟨_, Prod.ext returned rfl, placed.symm⟩
    subst reached
    by_cases buffer : w.2.txType = .bufferTx
    · left
      intro ch' stored' named'
      have same := List.inj_on_of_nodup_map h.keyed stored stored' (named.trans named'.symm)
      cases same
      rw [buffer] at ran
      exact ⟨buffer, (Node.processSigned_buffer ran).2.2⟩
    · right
      obtain ⟨forgotten, finished⟩ := Node.processSigned_finishes buffer ran
      refine ⟨?_, ?_⟩
      · rintro ⟨ch', stored', named'⟩
        rw [processWatchedTx_records done] at stored'
        obtain ⟨c, listed, after⟩ := List.mem_map.mp stored'
        obtain ⟨ch₀, rfl, id, _⟩ := watchedRecord_signed after
        have same := List.inj_on_of_nodup_map h.keyed stored listed
          (named.trans (id.trans named').symm)
        cases same
        rw [watchedRecord_own named] at after
        exact finished ch' ((Node.processSigned_record ran).trans after)
      · rw [← named]
        exact forgotten
  · exact .inl fun ch stored named => absurd ⟨ch, stored, named⟩ signed

variable (signer env w) in
/-- Where the records are the same, so is what is returned. -/
theorem processWatchedTx_alike {g : Hub X E.toDescriptors} (alike : h.Alike g) :
    (processWatchedTx X signer env w g).1 = (processWatchedTx X signer env w h).1 := by
  by_cases signed : h.SignedAt w.2.channelId
  · obtain ⟨ch, stored, named⟩ := signed
    rw [processWatchedTx_signed stored named,
      processWatchedTx_signed (by rw [alike.channels]; exact stored) named]
    exact Node.processSigned_onContracts.result _ _ alike.contracts
  · have signed' : ¬ g.SignedAt w.2.channelId := by
      unfold SignedAt
      rw [alike.channels]
      exact signed
    obtain ⟨_, done, _⟩ := processWatchedTx_skips signer env signed
    obtain ⟨_, done', _⟩ := processWatchedTx_skips signer env signed'
    rw [done, done']

theorem processWatchedTx_fails {e : Fault Error} (other : w.2.txType ≠ .cet)
    (stopped : processWatchedTx X signer env w h = (.error e, h')) :
    h.Alike h' ∧ h.SignedAt w.2.channelId := by
  by_cases signed : h.SignedAt w.2.channelId
  · refine ⟨?_, signed⟩
    obtain ⟨ch, stored, named⟩ := signed
    rw [processWatchedTx_signed stored named] at stopped
    obtain ⟨returned, rfl⟩ := Prod.mk.inj stopped
    have same := Node.processSigned_fails other _ e _ (Prod.ext returned rfl)
    refine ⟨put_channels_same ?_, same.contracts, same.chainMonitor⟩
    rw [same.channel]
    exact stored
  · obtain ⟨_, done, _⟩ := processWatchedTx_skips signer env signed
    rw [done] at stopped
    cases stopped

theorem processWatchedTx_stops {e : Error}
    (stopped : processWatchedTx X signer env w h = (.error (.err e), h')) :
    w.2.txType ≠ .bufferTx ∧ w.2.txType ≠ .cet := by
  by_cases signed : h.SignedAt w.2.channelId
  · obtain ⟨ch, stored, named⟩ := signed
    rw [processWatchedTx_signed stored named] at stopped
    obtain ⟨returned, rfl⟩ := Prod.mk.inj stopped
    exact Node.processSigned_stops (Prod.ext returned rfl)
  · obtain ⟨_, done, _⟩ := processWatchedTx_skips signer env signed
    rw [done] at stopped
    cases stopped

/-- No channel comes to be signed, whatever the outcome. -/
def NoneSigned {D : Descriptors} (h h' : Hub X D) : Prop := ∀ id, h'.SignedAt id → h.SignedAt id

instance {D : Descriptors} : Std.Refl (NoneSigned (X := X) (D := D)) where
  refl _ _ signed := signed

instance {D : Descriptors} : IsTrans (Hub X D) NoneSigned where
  trans _ _ _ first next id signed := first id (next id signed)

variable (signer env) in
theorem processWatchedTx_noneSigned (w : Transaction × ChannelInfo) :
    Handler.Keeps NoneSigned (processWatchedTx X signer env w) := by
  intro h id signed
  by_cases own : h.SignedAt w.2.channelId
  · obtain ⟨ch, stored, named⟩ := own
    rw [processWatchedTx_signed stored named] at signed
    obtain ⟨ch', stored', named'⟩ := signed
    obtain ⟨c, listed, after⟩ := List.mem_map.mp stored'
    have kept : c.getId = id := by
      rw [← upsert_getId, after]
      exact named'
    unfold upsert at after
    split at after
    next same =>
      have evolved :
          (Node.processWatchedTx X signer env w (h.nodeOf (.signed ch))).2.channel.getId =
            ch.channelId := (Node.processWatchedTx_evolves w).getId
      rw [processWatchedTx_nodeOf named] at evolved
      exact ⟨ch, stored, evolved.symm.trans (same.symm.trans kept)⟩
    next => exact ⟨ch', after ▸ listed, named'⟩
  · obtain ⟨h', done, alike⟩ := processWatchedTx_skips signer env own
    rw [done] at signed
    unfold SignedAt at signed ⊢
    rw [alike.channels] at signed
    exact signed

theorem mild_before (mild : h'.Mild v) (done : processWatchedTx X signer env w h = (.ok (), h'))
    (apart : v.2.channelId ≠ w.2.channelId ∨ h.Mild w) : h.Mild v := by
  intro ch stored named
  have placed : watchedRecord X signer env (.signed ch) w ∈ h'.channels := by
    rw [processWatchedTx_records done]
    exact List.mem_map_of_mem stored
  by_cases other : v.2.channelId = w.2.channelId
  · obtain ⟨buffer, contractId, had⟩ := apart.resolve_left (not_not.mpr other) ch stored
      (named.trans other)
    rw [watchedRecord_own (named.trans other), buffer, Node.recordAfter, had] at placed
    exact ⟨(mild _ placed named).1, contractId, had⟩
  · rw [watchedRecord_other (c := .signed ch) fun same => other (named.symm.trans same)] at placed
    exact mild ch placed named

/-! The transactions of one channel. -/

section Record
variable {ws : List (Transaction × ChannelInfo)} {c : ChannelRecord X}

variable (signer env ws) in
theorem foldl_unsigned (unsigned : ∀ ch, c ≠ .signed ch) :
    ws.foldl (watchedRecord X signer env) c = c := by
  induction ws with
  | nil => rfl
  | cons w ws ih => rw [List.foldl_cons, watchedRecord_unsigned unsigned, ih]

variable (signer env ws c) in
theorem foldl_getId : (ws.foldl (watchedRecord X signer env) c).getId = c.getId := by
  induction ws generalizing c with
  | nil => rfl
  | cons w ws ih => rw [List.foldl_cons, ih, watchedRecord_getId]

/-- A record is changed by its own transactions alone. -/
theorem foldl_own : ws.foldl (watchedRecord X signer env) c =
    (ws.filter fun w => w.2.channelId = c.getId).foldl (watchedRecord X signer env) c := by
  induction ws generalizing c with
  | nil => rfl
  | cons w ws ih =>
      rw [List.foldl_cons, List.filter_cons]
      by_cases own : c.getId = w.2.channelId
      · rw [if_pos (decide_eq_true own.symm), List.foldl_cons, ih, watchedRecord_getId]
      · have other : ¬ (w.2.channelId = c.getId) := fun same => own same.symm
        rw [if_neg (by simpa using other), watchedRecord_other own, ih]

/-- The channel as a buffer transaction leaves it. -/
def closeOn (contractId : ContractId) (keysId : KeysId) (ch : SignedChannel X) (tx : Transaction) :
    SignedChannel X :=
  ch.enter (.closing ⟨tx, contractId, false, keysId⟩)

variable {contractId : ContractId} {keysId : KeysId} {txs : List Transaction}

variable (signer env txs) in
theorem foldl_buffers (had : ch.state.contractId = some contractId)
    (keys : ch.state.keysId = keysId) :
    (txs.map fun tx => (tx, ⟨ch.channelId, .bufferTx⟩)).foldl (watchedRecord X signer env)
      (.signed ch) = .signed (txs.foldl (closeOn contractId keysId) ch) := by
  induction txs generalizing ch with
  | nil => rfl
  | cons tx txs ih =>
      have first : watchedRecord X signer env (.signed ch) (tx, ⟨ch.channelId, .bufferTx⟩) =
          .signed (closeOn contractId keysId ch tx) := by
        rw [watchedRecord_own rfl, Node.recordAfter, had, keys]
        rfl
      rw [List.map_cons, List.foldl_cons, first, List.foldl_cons]
      exact @ih (closeOn contractId keysId ch tx) rfl rfl

variable (contractId keysId txs) in
theorem foldl_closeOn_base (ch : SignedChannel X) : ∃ state rollBackState,
    txs.foldl (closeOn contractId keysId) ch = { ch with state, rollBackState } := by
  induction txs generalizing ch with
  | nil => exact ⟨ch.state, ch.rollBackState, rfl⟩
  | cons tx txs ih =>
      obtain ⟨state, rollBackState, left⟩ := ih (closeOn contractId keysId ch tx)
      exact ⟨state, rollBackState, left⟩

variable (contractId keysId txs) in
theorem foldl_closeOn_last (ch : SignedChannel X) (last : Transaction) : ∃ rollBackState,
    (txs.concat last).foldl (closeOn contractId keysId) ch =
      { ch with state := .closing ⟨last, contractId, false, keysId⟩, rollBackState } := by
  obtain ⟨state, _, left⟩ := foldl_closeOn_base contractId keysId txs ch
  refine ⟨some state, ?_⟩
  rw [List.concat_eq_append, List.foldl_append, left]
  rfl

/-- Of several buffer transactions the last two are remembered. -/
theorem foldl_closeOn_two (ch : SignedChannel X) (x y : Transaction) :
    (txs ++ [x, y]).foldl (closeOn contractId keysId) ch =
      { ch with
        state := .closing ⟨y, contractId, false, keysId⟩
        rollBackState := some (.closing ⟨x, contractId, false, keysId⟩) } := by
  obtain ⟨state, rollBackState, left⟩ := foldl_closeOn_base contractId keysId txs ch
  rw [List.foldl_append, left]
  rfl

/-- The transactions of a close change nothing when they are seen again, but for a single one
that the channel was not closing on. -/
theorem closed_twice_iff : txs.foldl (closeOn contractId keysId)
      (txs.foldl (closeOn contractId keysId) ch) = txs.foldl (closeOn contractId keysId) ch ↔
    ∀ tx, txs = [tx] → ch.state = .closing ⟨tx, contractId, false, keysId⟩ := by
  rcases List.eq_nil_or_concat txs with rfl | ⟨before, y, rfl⟩
  · exact iff_of_true rfl fun tx none => absurd none (by simp)
  rw [List.concat_eq_append]
  rcases List.eq_nil_or_concat before with rfl | ⟨before, x, rfl⟩
  · constructor
    · rintro same tx only
      obtain rfl : y = tx := by simpa using only
      have remembered := congrArg SignedChannel.rollBackState same
      exact (Option.some.inj remembered).symm
    · intro closing
      have state := closing y rfl
      show closeOn contractId keysId (closeOn contractId keysId ch y) y =
        closeOn contractId keysId ch y
      unfold closeOn SignedChannel.enter
      rw [state]
  · have two : before.concat x ++ [y] = before ++ [x, y] := by simp
    rw [two]
    refine iff_of_true ?_ fun tx only => absurd (congrArg List.length only) (by simp)
    rw [foldl_closeOn_two, foldl_closeOn_two]

end Record

/-! The loop over the transactions. -/

section Loop
variable {pre ws : List (Transaction × ChannelInfo)} {hp : Hub X E.toDescriptors}

/-- What is watched of the other channels is listed as before when one is cleaned up. -/
def Steady {D : Descriptors} (env : Environment D) : Prop :=
  ∀ m id, env.confirmedTxs (ChainMonitor.cleanupChannel m id) =
    (env.confirmedTxs m).filter fun w => w.2.channelId ≠ id

/-- The loop has finished some channels, and the transactions of the others are mild. -/
structure Finishes {D : Descriptors} (env : Environment D) (pre : List (Transaction × ChannelInfo))
    (h hp : Hub X D) (gone : List ChannelId) : Prop where
  listed : env.confirmedTxs hp.chainMonitor =
    (env.confirmedTxs h.chainMonitor).filter fun w => w.2.channelId ∉ gone
  finished : ∀ id ∈ gone, ¬ hp.SignedAt id
  mild : ∀ w ∈ pre, w.2.channelId ∉ gone → h.Mild w

variable (signer env ws) in
theorem loop_noneSigned : Handler.Keeps NoneSigned
    (Handler.forEach (processWatchedTx X signer env) ws) :=
  Handler.keeps_forEach fun w _ => processWatchedTx_noneSigned signer env w

theorem loop_mild_kept (done : Handler.forEach (processWatchedTx X signer env) pre h = (.ok (), hp))
    (mild : h.Mild v) : hp.Mild v := by
  induction pre generalizing h with
  | nil =>
      cases done
      exact mild
  | cons w pre ih =>
      obtain ⟨_, h₁, first, later⟩ := Handler.bind_ok.mp done
      exact ih later (mild.done first)

variable (signer env) in
theorem loop_mild (mild : ∀ w ∈ ws, h.Mild w) :
    ∃ h', Handler.forEach (processWatchedTx X signer env) ws h = (.ok (), h') ∧
      h'.contracts = h.contracts ∧ h'.chainMonitor = h.chainMonitor := by
  induction ws generalizing h with
  | nil => exact ⟨h, rfl, rfl, rfl⟩
  | cons w ws ih =>
      obtain ⟨h₁, first, contracts, monitor⟩ :=
        (mild w List.mem_cons_self).handled signer env
      obtain ⟨h', later, contracts', monitor'⟩ :=
        ih fun v listed => (mild v (List.mem_cons_of_mem w listed)).done first
      refine ⟨h', ?_, contracts'.trans contracts, monitor'.trans monitor⟩
      rw [Handler.forEach, Handler.bind_apply, first]
      exact later

theorem loop_finishes (steady : Steady env)
    (done : Handler.forEach (processWatchedTx X signer env) pre h = (.ok (), hp)) :
    ∃ gone, Finishes env pre h hp gone := by
  induction pre generalizing h with
  | nil =>
      cases done
      refine ⟨[], ?_, fun id none => absurd none List.not_mem_nil, List.forall_mem_nil _⟩
      simp
  | cons w pre ih =>
      obtain ⟨_, h₁, first, later⟩ := Handler.bind_ok.mp done
      obtain ⟨gone, listed, finished, mild⟩ := ih later
      rcases processWatchedTx_done first with own | ⟨unsigned, forgotten⟩
      · obtain ⟨h₂, first', _, monitor⟩ := own.handled signer env
        obtain rfl : h₁ = h₂ := congrArg Prod.snd (first.symm.trans first')
        refine ⟨gone, by rw [listed, monitor], finished, fun v among left => ?_⟩
        rcases List.mem_cons.mp among with rfl | among
        · exact own
        · exact mild_before (mild v among left) first (.inr own)
      · refine ⟨w.2.channelId :: gone, ?_, ?_, fun v among left => ?_⟩
        · rw [listed, forgotten, steady, List.filter_filter]
          refine List.filter_congr fun v _ => ?_
          simp only [List.mem_cons, not_or, Bool.decide_and, Bool.and_comm]
        · refine List.forall_mem_cons.mpr ⟨fun signed => ?_, finished⟩
          have kept := loop_noneSigned signer env pre h₁
          rw [later] at kept
          exact unsigned (kept _ signed)
        · rw [List.mem_cons, not_or] at left
          rcases List.mem_cons.mp among with rfl | among
          · exact absurd rfl left.1
          · exact mild_before (mild v among left.2) first (.inl left.1)

/-- The watched transactions that are handled before one stops the loop. -/
def handledTxs (X : ChannelCrypto) (signer : Signer) {E : SigningDescriptors}
    (env : Environment E.toDescriptors) :
    List (Transaction × ChannelInfo) → Hub X E.toDescriptors → List (Transaction × ChannelInfo)
  | [], _ => []
  | w :: ws, h =>
      match processWatchedTx X signer env w h with
      | (.ok _, h') => w :: handledTxs X signer env ws h'
      | (.error _, _) => []

variable (signer env) in
theorem handledTxs_split (ws : List (Transaction × ChannelInfo)) (h : Hub X E.toDescriptors) :
    ∃ hp, Handler.forEach (processWatchedTx X signer env) (handledTxs X signer env ws h) h =
        (.ok (), hp) ∧
      (handledTxs X signer env ws h = ws ∨ ∃ w rest e h₁,
        ws = handledTxs X signer env ws h ++ w :: rest ∧
        processWatchedTx X signer env w hp = (.error e, h₁) ∧
        Handler.forEach (processWatchedTx X signer env) ws h = (.error e, h₁)) := by
  induction ws generalizing h with
  | nil => exact ⟨h, rfl, .inl rfl⟩
  | cons w ws ih =>
      rw [handledTxs]
      rcases ran : processWatchedTx X signer env w h with ⟨_ | _, h'⟩
      · exact ⟨h, rfl, .inr ⟨w, ws, _, h', rfl, ran, by
          rw [Handler.forEach, Handler.bind_apply, ran]⟩⟩
      · obtain ⟨hp, done, rest⟩ := ih h'
        refine ⟨hp, ?_, ?_⟩
        · dsimp only
          rw [Handler.forEach, Handler.bind_apply, ran]
          exact done
        · rcases rest with all | ⟨v, rest, e, h₁, split, stopped, loop⟩
          · refine .inl ?_
            dsimp only
            rw [all]
          · refine .inr ⟨v, rest, e, h₁, ?_, stopped, ?_⟩
            · dsimp only
              rw [List.cons_append, ← split]
            · rw [Handler.forEach, Handler.bind_apply, ran]
              exact loop

/-- Of the transactions the buffer transaction is the channel's only one, and the channel was not
closing on it. -/
def Overwritten (pre : List (Transaction × ChannelInfo)) (ch : SignedChannel X) : Prop :=
  ∃ tx, pre.filter (fun w => w.2.channelId = ch.channelId) = [(tx, ⟨ch.channelId, .bufferTx⟩)] ∧
    ∀ contractId keysId, ch.state ≠ .closing ⟨tx, contractId, false, keysId⟩

theorem handledTxs_initial (ws : List (Transaction × ChannelInfo)) (h : Hub X E.toDescriptors) :
    handledTxs X signer env ws h <+: ws := by
  obtain ⟨_, _, all | ⟨w, rest, _, _, split, _⟩⟩ :=
    handledTxs_split signer env ws h
  · rw [all]
  · exact ⟨w :: rest, split.symm⟩

theorem Overwritten.listed (overwritten : Overwritten (handledTxs X signer env ws h) ch) :
    ∃ tx, (tx, ⟨ch.channelId, .bufferTx⟩) ∈ ws ∧
      ∀ contractId keysId, ch.state ≠ .closing ⟨tx, contractId, false, keysId⟩ := by
  obtain ⟨tx, only, other⟩ := overwritten
  have among : (tx, ⟨ch.channelId, .bufferTx⟩) ∈ (handledTxs X signer env ws h).filter
      fun w => w.2.channelId = ch.channelId := by
    rw [only]
    exact List.mem_singleton_self _
  exact ⟨tx, (handledTxs_initial ws h).subset (List.mem_of_mem_filter among), other⟩

variable {gone : List ChannelId}

/-- The transactions of a channel that is not finished are buffer transactions. -/
theorem Finishes.buffers (finishes : Finishes env pre h hp gone) (stored : .signed ch ∈ h.channels)
    (left : ch.channelId ∉ gone) : ∃ txs : List Transaction,
      pre.filter (fun w => w.2.channelId = ch.channelId) =
        txs.map (fun tx => (tx, ⟨ch.channelId, .bufferTx⟩)) ∧
      (txs ≠ [] → ∃ contractId, ch.state.contractId = some contractId) := by
  have own : ∀ w ∈ pre.filter (fun w => w.2.channelId = ch.channelId),
      w = (w.1, ⟨ch.channelId, .bufferTx⟩) ∧
        ∃ contractId, ch.state.contractId = some contractId := by
    rintro ⟨tx, id, txType⟩ listed
    obtain ⟨among, named⟩ := List.mem_filter.mp listed
    obtain rfl : id = ch.channelId := of_decide_eq_true named
    obtain ⟨buffer, had⟩ := finishes.mild _ among left ch stored rfl
    obtain rfl : txType = .bufferTx := buffer
    exact ⟨rfl, had⟩
  refine ⟨(pre.filter fun w => w.2.channelId = ch.channelId).map Prod.fst, ?_, fun some' => ?_⟩
  · rw [List.map_map]
    conv_lhs => rw [← List.map_id (pre.filter fun w => w.2.channelId = ch.channelId)]
    exact List.map_congr_left fun w listed => (own w listed).1
  · have nonempty := fun none => some' (List.map_eq_nil_iff.mpr none)
    obtain ⟨w, listed⟩ := List.exists_mem_of_ne_nil _ nonempty
    exact (own w listed).2

theorem filter_left (left : ch.channelId ∉ gone) :
    (pre.filter fun w => w.2.channelId ∉ gone).filter (fun w => w.2.channelId = ch.channelId) =
      pre.filter fun w => w.2.channelId = ch.channelId := by
  rw [List.filter_filter]
  refine List.filter_congr fun w _ => ?_
  by_cases own : w.2.channelId = ch.channelId
  · simp [own, left]
  · simp [own]

variable (signer env ch) in
theorem recordAfter_buffer_signed (tx : Transaction) :
    ∃ ch', Node.recordAfter X signer env ch tx .bufferTx = .signed ch' := by
  rw [Node.recordAfter]
  split
  · exact ⟨_, rfl⟩
  · exact ⟨_, rfl⟩

/-- What is left of the transactions changes the channel again exactly where its one buffer
transaction overwrites the state to go back to. -/
theorem record_twice_iff (finishes : Finishes env pre h hp gone)
    (done : Handler.forEach (processWatchedTx X signer env) pre h = (.ok (), hp))
    (stored : .signed ch ∈ h.channels) :
    (pre.filter fun w => w.2.channelId ∉ gone).foldl (watchedRecord X signer env)
        (pre.foldl (watchedRecord X signer env) (.signed ch)) =
      pre.foldl (watchedRecord X signer env) (.signed ch) ↔ ¬ Overwritten pre ch := by
  by_cases left : ch.channelId ∈ gone
  · have unsigned : ∀ ch', pre.foldl (watchedRecord X signer env) (.signed ch) ≠ .signed ch' := by
      intro ch' signed
      have named := foldl_getId signer env pre (.signed ch)
      rw [signed] at named
      refine finishes.finished _ left ⟨ch', ?_, named⟩
      rw [watched_records done, ← signed]
      exact List.mem_map_of_mem stored
    refine iff_of_true (foldl_unsigned signer env _ unsigned) ?_
    rintro ⟨tx, only, -⟩
    obtain ⟨ch', signed⟩ := recordAfter_buffer_signed signer env ch tx
    refine unsigned ch' ?_
    rw [foldl_own]
    refine Eq.trans (congrArg (List.foldl _ _) only) ?_
    rw [List.foldl_cons, List.foldl_nil, watchedRecord_own rfl, signed]
  · obtain ⟨txs, own, had⟩ := finishes.buffers stored left
    have again : ∀ c : ChannelRecord X, c.getId = ch.channelId →
        (pre.filter fun w => w.2.channelId ∉ gone).foldl (watchedRecord X signer env) c =
          (txs.map fun tx => (tx, ⟨ch.channelId, .bufferTx⟩)).foldl
            (watchedRecord X signer env) c := by
      intro c named
      rw [foldl_own, named, filter_left left, own]
    have once : pre.foldl (watchedRecord X signer env) (.signed ch) =
        (txs.map fun tx => (tx, ⟨ch.channelId, .bufferTx⟩)).foldl
          (watchedRecord X signer env) (.signed ch) := by
      rw [foldl_own]
      exact congrArg (List.foldl _ _) own
    rw [again _ (foldl_getId signer env _ _), once]
    unfold Overwritten
    rw [own]
    rcases List.eq_nil_or_concat txs with rfl | some'
    · refine iff_of_true rfl ?_
      rintro ⟨tx, only, -⟩
      exact absurd only (by simp)
    · obtain ⟨before, last, rfl⟩ := some'
      obtain ⟨contractId, named⟩ := had (by simp)
      rw [foldl_buffers signer env _ named rfl]
      obtain ⟨_, closing⟩ := foldl_closeOn_last contractId ch.state.keysId before ch last
      have contract : ((before.concat last).foldl (closeOn contractId ch.state.keysId)
          ch).state.contractId = some contractId := by
        rw [closing]
        rfl
      have keys : ((before.concat last).foldl (closeOn contractId ch.state.keysId)
          ch).state.keysId = ch.state.keysId := by
        rw [closing]
        rfl
      have id : ((before.concat last).foldl (closeOn contractId ch.state.keysId) ch).channelId =
          ch.channelId := by rw [closing]
      have second := foldl_buffers signer env (before.concat last) contract keys
      rw [id] at second
      rw [second, ChannelRecord.signed.injEq, closed_twice_iff]
      constructor
      · rintro fixed ⟨tx, only, other⟩
        have single : before.concat last = [tx] := by
          have firsts := congrArg (List.map Prod.fst) only
          rwa [List.map_map, List.map_id''] at firsts
          exact fun _ => rfl
        exact other _ _ (fixed tx single)
      · intro calm tx single
        by_contra other
        refine calm ⟨tx, by rw [single]; rfl, fun contractId' keysId' state => other ?_⟩
        rw [state] at named ⊢
        cases named
        rfl

variable (signer env) in
/-- A check ends with the records that its loop leaves. -/
theorem checkForWatchedTx_alike (h : Hub X E.toDescriptors) :
    (checkForWatchedTx X signer env h).1 =
        (Handler.forEach (processWatchedTx X signer env) (env.confirmedTxs h.chainMonitor) h).1 ∧
      (Handler.forEach (processWatchedTx X signer env) (env.confirmedTxs h.chainMonitor) h).2.Alike
        (checkForWatchedTx X signer env h).2 := by
  rw [checkForWatchedTx, Handler.read_bind]
  dsimp only
  rw [Handler.bind_apply]
  rcases Handler.forEach (processWatchedTx X signer env) (env.confirmedTxs h.chainMonitor) h with
    ⟨_ | _, h'⟩
  · exact ⟨rfl, rfl, rfl, rfl⟩
  · exact ⟨rfl, rfl, rfl, rfl⟩

theorem Mild.alike {g : Hub X E.toDescriptors} (mild : h.Mild v) (alike : h.Alike g) :
    g.Mild v := by
  unfold Mild
  rw [alike.channels]
  exact mild

/-- A second loop over what the first has left of the handled transactions. -/
theorem second_loop (finishes : Finishes env pre h hp gone)
    (done : Handler.forEach (processWatchedTx X signer env) pre h = (.ok (), hp))
    {h₁ : Hub X E.toDescriptors} (alike : hp.Alike h₁) :
    ∃ h₂, Handler.forEach (processWatchedTx X signer env)
        (pre.filter fun w => w.2.channelId ∉ gone) h₁ = (.ok (), h₂) ∧
      h₂.contracts = h₁.contracts ∧ h₂.chainMonitor = h₁.chainMonitor ∧
      (h₂.channels = h₁.channels ↔
        ∀ ch, .signed ch ∈ h.channels → ¬ Overwritten pre ch) := by
  have mild : ∀ w ∈ pre.filter (fun w => w.2.channelId ∉ gone), h₁.Mild w := by
    intro w listed
    obtain ⟨among, left⟩ := List.mem_filter.mp listed
    exact (loop_mild_kept done (finishes.mild w among (of_decide_eq_true left))).alike alike
  obtain ⟨h₂, done₂, contracts, monitor⟩ := loop_mild signer env mild
  refine ⟨h₂, done₂, contracts, monitor, ?_⟩
  rw [watched_records done₂, alike.channels, watched_records done, List.map_map,
    List.map_inj_left]
  constructor
  · intro same ch stored
    exact (record_twice_iff finishes done stored).mp (same _ stored)
  · intro calm c stored
    cases c with
    | signed ch => exact (record_twice_iff finishes done stored).mpr (calm ch stored)
    | closed | counterClosed | collaborativelyClosed | closedPunished =>
        rw [Function.comp_apply, foldl_unsigned signer env pre (by simp),
          foldl_unsigned signer env _ (by simp)]

end Loop

/-! Two checks. -/

section Twice
variable {pre rest : List (Transaction × ChannelInfo)} {hp h₁ g : Hub X E.toDescriptors}
  {gone : List ChannelId} {e : Error}

/-- Where a fault has stopped the first loop, it stops the second one, or the second one finishes
the channel of the transaction. -/
theorem stopped_again (stopped : processWatchedTx X signer env w hp = (.error (.err e), h₁))
    (finishes : Finishes env pre h hp gone)
    (done : Handler.forEach (processWatchedTx X signer env) pre h = (.ok (), hp))
    (alike : hp.Alike g) (confirmed : env.confirmedTxs g.chainMonitor =
      (pre ++ w :: rest).filter fun w => w.2.channelId ∉ gone) :
    (checkForWatchedTx X signer env g).2.channels = g.channels ∧
        (checkForWatchedTx X signer env g).2.contracts = g.contracts ↔
      ∀ ch, .signed ch ∈ h.channels → ¬ Overwritten pre ch := by
  obtain ⟨noBuffer, noCet⟩ := processWatchedTx_stops stopped
  obtain ⟨-, signed⟩ := processWatchedTx_fails noCet stopped
  have left : w.2.channelId ∉ gone := fun among => finishes.finished _ among signed
  obtain ⟨h₂, second, contracts, monitor, fixed⟩ := second_loop finishes done alike
  obtain ⟨-, ends⟩ := checkForWatchedTx_alike signer env g
  rw [confirmed, List.filter_append, List.filter_cons, if_pos (decide_eq_true left),
    Handler.forEach_append_ok second, Handler.forEach, Handler.bind_apply] at ends
  rw [← fixed]
  rcases ran : processWatchedTx X signer env w h₂ with ⟨_ | _, h₃⟩
  · rw [ran] at ends
    obtain ⟨same, -⟩ := processWatchedTx_fails noCet ran
    rw [ends.channels, ends.contracts, same.channels, same.contracts, contracts]
    exact and_iff_left rfl
  · rw [ran] at ends
    have unsigned : ¬ h₃.SignedAt w.2.channelId := by
      rcases processWatchedTx_done ran with mild | ⟨unsigned, -⟩
      · intro signed₃
        have signed₂ := processWatchedTx_noneSigned signer env w h₂
          w.2.channelId (by rw [ran]; exact signed₃)
        obtain ⟨ch, stored, named⟩ := signed₂
        exact noBuffer (mild ch stored named).1
      · exact unsigned
    have wasSigned : g.SignedAt w.2.channelId := by
      unfold SignedAt
      rw [alike.channels]
      exact signed
    constructor
    · rintro ⟨same, -⟩
      have last := loop_noneSigned signer env
        (rest.filter fun w => w.2.channelId ∉ gone) h₃ w.2.channelId
      refine absurd (last ?_) unsigned
      unfold SignedAt at wasSigned ⊢
      rw [← ends.channels, same]
      exact wasSigned
    · intro same
      -- The records are as they were, so the fault comes again.
      have again := processWatchedTx_alike signer env w
        (h := hp) (g := h₂) ⟨same.trans alike.channels, contracts.trans alike.contracts,
          monitor.trans alike.chainMonitor⟩
      rw [ran, stopped] at again
      cases again

/-- A second check leaves the stored channels and contracts as the first one exactly when the first
one has not handled the buffer transaction of a channel, as its only transaction, which the channel
was not closing on before. -/
theorem watched_twice_iff (steady : Steady env) (h : Hub X E.toDescriptors)
    (returns : ∀ message, (checkForWatchedTx X signer env h).1 ≠ .error (.panic message)) :
    ((checkForWatchedTx X signer env (checkForWatchedTx X signer env h).2).2.channels =
          (checkForWatchedTx X signer env h).2.channels ∧
        (checkForWatchedTx X signer env (checkForWatchedTx X signer env h).2).2.contracts =
          (checkForWatchedTx X signer env h).2.contracts) ↔
      ∀ ch, .signed ch ∈ h.channels →
        ¬ Overwritten (handledTxs X signer env (env.confirmedTxs h.chainMonitor) h) ch := by
  obtain ⟨returned, first⟩ := checkForWatchedTx_alike signer env h
  obtain ⟨hp, done, rest⟩ := handledTxs_split signer env
    (env.confirmedTxs h.chainMonitor) h
  obtain ⟨gone, finishes⟩ := loop_finishes steady done
  rcases rest with all | ⟨w, rest, e, h₁, split, stopped, loop⟩
  · rw [all] at done finishes ⊢
    rw [done] at first
    obtain ⟨h₂, second, contracts, -, fixed⟩ := second_loop finishes done first
    obtain ⟨-, ends⟩ := checkForWatchedTx_alike signer env
      (checkForWatchedTx X signer env h).2
    rw [first.chainMonitor, finishes.listed, second] at ends
    rw [ends.channels, ends.contracts, contracts, ← fixed]
    exact and_iff_left rfl
  · rw [loop] at returned first
    cases e with
    | panic message => exact absurd returned (returns message)
    | err e =>
        obtain ⟨-, noCet⟩ := processWatchedTx_stops stopped
        obtain ⟨same, -⟩ := processWatchedTx_fails noCet stopped
        have alike : hp.Alike (checkForWatchedTx X signer env h).2 :=
          ⟨first.channels.trans same.channels, first.contracts.trans same.contracts,
            first.chainMonitor.trans same.chainMonitor⟩
        have confirmed : env.confirmedTxs (checkForWatchedTx X signer env h).2.chainMonitor =
            (handledTxs X signer env (env.confirmedTxs h.chainMonitor) h ++ w :: rest).filter
              fun w => w.2.channelId ∉ gone := by
          rw [alike.chainMonitor, finishes.listed, ← split]
        exact stopped_again stopped finishes done alike confirmed

end Twice

variable (signer) in
theorem check_buffer {tx : Transaction} {contractId : ContractId}
    (confirmed : env.confirmedTxs h.chainMonitor = [(tx, ⟨ch.channelId, .bufferTx⟩)])
    (stored : h.channels = [.signed ch]) (had : ch.state.contractId = some contractId) :
    (checkForWatchedTx X signer env h).1 = .ok () ∧
      (checkForWatchedTx X signer env h).2.channels =
        [.signed (closeOn contractId ch.state.keysId ch tx)] ∧
      (checkForWatchedTx X signer env h).2.chainMonitor = h.chainMonitor := by
  obtain ⟨returned, ends⟩ := checkForWatchedTx_alike signer env h
  have mild : ∀ w ∈ [(tx, (⟨ch.channelId, .bufferTx⟩ : ChannelInfo))], h.Mild w := by
    refine List.forall_mem_singleton.mpr fun ch' listed _ => ?_
    rw [stored] at listed
    cases List.mem_singleton.mp listed
    exact ⟨rfl, contractId, had⟩
  obtain ⟨h', done, _, monitor⟩ := loop_mild signer env mild
  rw [confirmed, done] at returned ends
  refine ⟨returned, ?_, ends.chainMonitor.trans monitor⟩
  have closed := foldl_buffers signer env [tx] had rfl
  rw [ends.channels, watched_records done, stored, List.map_singleton]
  exact congrArg (fun c => [c]) closed

/-- The transaction of a watched thing that has confirmed. -/
def confirmed? : WatchState → Option (Transaction × ChannelInfo)
  | .registered _ => none
  | .confirmed info tx => some (tx, info)

/-- The maps of the monitor, each in the order of its keys. -/
def inOrder (txids : List Bytes32) (outpoints : List OutPoint) (m : ChainMonitor) :
    List (Transaction × ChannelInfo) :=
  txids.filterMap (fun k => (m.watchedTx k).bind confirmed?) ++
    outpoints.filterMap fun k => (m.watchedTxo k).bind confirmed?

theorem retain_inOrder {κ : Type} (id : ChannelId) (watched : κ → Option WatchState)
    (keys : List κ) :
    keys.filterMap (fun k => (ChainMonitor.retain id watched k).bind confirmed?) =
      (keys.filterMap fun k => (watched k).bind confirmed?).filter fun w => w.2.channelId ≠ id := by
  induction keys with
  | nil => rfl
  | cons k keys ih =>
      have head : (ChainMonitor.retain id watched k).bind confirmed? =
          ((watched k).bind confirmed?).filter fun w => w.2.channelId ≠ id := by
        unfold ChainMonitor.retain
        rcases watched k with - | ⟨info⟩ | ⟨info, tx⟩
        · rfl
        · by_cases same : info.channelId = id <;>
            simp [Option.filter, confirmed?, WatchState.channelInfo, same]
        · by_cases same : info.channelId = id <;>
            simp [Option.filter, confirmed?, WatchState.channelInfo, same]
      rw [List.filterMap_cons, List.filterMap_cons, head, ih]
      cases (watched k).bind confirmed? with
      | none => rfl
      | some w =>
          by_cases same : w.2.channelId = id
          · simp [same, Option.filter]
          · simp [same, Option.filter]

theorem inOrder_steady {D : Descriptors} (env : Environment D) (txids : List Bytes32)
    (outpoints : List OutPoint) :
    Steady { env with confirmedTxs := inOrder txids outpoints } := by
  intro m id
  show inOrder txids outpoints _ = (inOrder txids outpoints m).filter _
  rw [inOrder, inOrder, List.filter_append, ← retain_inOrder, ← retain_inOrder]
  rfl

@[irreducible] def sampleBufferTxid : Bytes32 := sampleBuffer.computeTxid channelAdaptor.toCrypto

def sampleWatchEnv : Environment channelSigning.toDescriptors :=
  { sampleChannelEnv with confirmedTxs := inOrder [sampleBufferTxid] [⟨sampleBufferTxid, 0⟩] }

/-- The first party's channel, whose buffer transaction has confirmed. -/
def sampleHub (ch : SignedChannel sampleChannelCrypto) :
    Hub sampleChannelCrypto channelSigning.toDescriptors where
  channels := [.signed ch]
  keyed := List.nodup_singleton _
  contracts := (sampleStart 1).node.contracts
  chainMonitor :=
    { watchedTx := Function.update (fun _ => none) sampleBufferTxid
        (some (.confirmed ⟨77, .bufferTx⟩ sampleBuffer))
      watchedTxo := Function.update (fun _ => none) ⟨sampleBufferTxid, 0⟩
        (some (.registered ⟨77, .cet⟩))
      lastHeight := 101 }
  persistedChainMonitor := sampleMonitor
  sent := []

def sampleCheck : HubHandler sampleChannelCrypto channelSigning.toDescriptors Unit :=
  checkForWatchedTx sampleChannelCrypto (sampleSigner 1) sampleWatchEnv

theorem sampleWatchEnv_steady : Steady sampleWatchEnv := inOrder_steady _ _ _

theorem sampleHub_confirmed (ch : SignedChannel sampleChannelCrypto) :
    sampleWatchEnv.confirmedTxs (sampleHub ch).chainMonitor =
      [(sampleBuffer, ⟨77, .bufferTx⟩)] := by
  show inOrder [sampleBufferTxid] [⟨sampleBufferTxid, 0⟩] _ = _
  simp [inOrder, sampleHub, confirmed?]

def rollBackState? {X : ChannelCrypto} : ChannelRecord X → Option SignedChannelState
  | .signed ch => ch.rollBackState
  | .closed _ | .counterClosed _ | .collaborativelyClosed _ | .closedPunished _ _ => none

/-- The first party has its channel closed by the second, and looks at it once. -/
theorem sampleCheck_buffer {h : Hub sampleChannelCrypto channelSigning.toDescriptors}
    {ch : SignedChannel sampleChannelCrypto}
    (confirmed : sampleWatchEnv.confirmedTxs h.chainMonitor = [(sampleBuffer, ⟨77, .bufferTx⟩)])
    (stored : h.channels = [.signed ch]) (id : ch.channelId = 77)
    (had : ch.state.contractId = some 5) :
    (sampleCheck h).1 = .ok () ∧
      (sampleCheck h).2.channels = [.signed (closeOn 5 ch.state.keysId ch sampleBuffer)] ∧
      sampleWatchEnv.confirmedTxs (sampleCheck h).2.chainMonitor =
        [(sampleBuffer, ⟨77, .bufferTx⟩)] := by
  have named : sampleWatchEnv.confirmedTxs h.chainMonitor =
      [(sampleBuffer, ⟨ch.channelId, .bufferTx⟩)] := by rw [confirmed, id]
  obtain ⟨returned, channels, monitor⟩ := check_buffer (sampleSigner 1) named stored had
  refine ⟨returned, channels, ?_⟩
  rw [← confirmed]
  exact congrArg _ monitor

/-- The channel when it has been seen to be closed. -/
def sampleSeen : SignedChannel sampleChannelCrypto :=
  (sampleChannel 1 2).enter (.closing ⟨sampleBuffer, 5, false, 3⟩)

theorem seen_checked_twice : (sampleCheck (sampleCheck (sampleHub sampleSeen)).2).2.channels =
    (sampleCheck (sampleHub sampleSeen)).2.channels := by
  have confirmed := sampleHub_confirmed sampleSeen
  have returned := (sampleCheck_buffer confirmed rfl rfl rfl).1
  refine ((watched_twice_iff sampleWatchEnv_steady (sampleHub sampleSeen) ?_).mpr ?_).1
  · intro message panics
    cases returned.symm.trans panics
  · intro ch stored overwritten
    obtain ⟨tx, among, other⟩ := overwritten.listed
    have same : ch = sampleSeen := ChannelRecord.signed.inj (List.mem_singleton.mp stored)
    rw [confirmed] at among
    have first : tx = sampleBuffer := congrArg Prod.fst (List.mem_singleton.mp among)
    refine other 5 3 ?_
    rw [same, first]
    rfl

/-- A second look at the established channel overwrites the state to go back to. -/
theorem buffer_seen_twice :
    Steady sampleWatchEnv ∧ (sampleCheck (sampleHub (sampleChannel 1 2))).1 = .ok () ∧
    (sampleCheck (sampleHub (sampleChannel 1 2))).2.channels.map rollBackState? =
      [some (sampleChannel 1 2).state] ∧
    (sampleCheck (sampleCheck (sampleHub (sampleChannel 1 2))).2).2.channels.map rollBackState? =
      [some (.closing ⟨sampleBuffer, 5, false, 3⟩)] := by
  obtain ⟨returned, channels, confirmed⟩ :=
    sampleCheck_buffer (sampleHub_confirmed (sampleChannel 1 2)) rfl rfl rfl
  obtain ⟨-, channels₂, -⟩ := sampleCheck_buffer confirmed channels rfl rfl
  refine ⟨sampleWatchEnv_steady, returned, ?_, ?_⟩
  · rw [channels]
    rfl
  · rw [channels₂]
    rfl

end Hub

end P2PLending.Manager.Channels
