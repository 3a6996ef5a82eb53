import P2PLending.Channels.SettledContracts

/-! Runs of the calls that settle contracts. A contract of a channel is settled by the checks of
the channels; with them a run that records no refund early, takes no report of a close for what
is settled, and ends no channel in common settles contracts for good. -/

namespace P2PLending.Manager.Channels
open Dlc Checked Relation

/-! The channels. -/

/-- The party has offered to close the channel in common, and with it its contract. -/
def ChannelRecord.EndsInCommon {X : ChannelCrypto} (c : ChannelRecord X) : Prop :=
  ∃ ch offer s, c = .signed ch ∧ ch.state = .collaborativeCloseOffered offer ∧
    ch.rollBackState = some (.established s)

/-- No watched transaction is that of a close in common of the channel. -/
def ChannelRecord.Unended {X : ChannelCrypto} (watched : Transaction × ChannelInfo → Prop)
    (c : ChannelRecord X) : Prop :=
  c.EndsInCommon → ∀ w, watched w → w.2.channelId = c.getId → w.2.txType ≠ .collaborativeClose

section Nodes
variable {X : ChannelCrypto} {signer : Signer} {E : SigningDescriptors}
  {env : Environment E.toDescriptors} {final : Bytes32 → Prop} {may : SignedChannel X → Prop}
  {watched : Transaction × ChannelInfo → Prop} {n n' : Node X E.toDescriptors}

theorem ChannelRecord.EndsInCommon.late {c : ChannelRecord X} (ends : c.EndsInCommon) :
    ∃ now, c.Late now := by
  obtain ⟨ch, offer, s, rfl, state, -⟩ := ends
  refine ⟨offer.timeout + 1, ch, offer.timeout, rfl, ?_, Nat.lt_succ_self _⟩
  rw [state]
  rfl

/-- The checks bring no channel to this state. -/
theorem Node.Evolves.unended (evolved : Node.Evolves X signer env may n n')
    (unended : n.channel.Unended watched) : n'.channel.Unended watched := by
  intro ends
  obtain ⟨now, late⟩ := ends.late
  obtain same | settled := evolved.settles now
  · rw [same] at ends ⊢
    exact unended ends
  · exact absurd late settled

theorem ChainMonitor.removeTx_confirmed {m : ChainMonitor} {txid : Bytes32}
    {w : Transaction × ChannelInfo} (now : (m.removeTx txid).ConfirmedTx w) : m.ConfirmedTx w := by
  obtain ⟨other, found⟩ | found := now
  · simp only [removeTx, Function.update_apply] at found
    split at found
    · cases found
    · exact .inl ⟨other, found⟩
  · exact .inr found

theorem Node.Ticks.confirmed {w : Transaction × ChannelInfo}
    (tick : Node.Ticks X signer env may n n') (now : n'.chainMonitor.ConfirmedTx w) :
    n.chainMonitor.ConfirmedTx w := by
  cases tick with
  | sendsCet | sendsPunishment | attempts | persists | bufferSeen => exact now
  | closing => exact ChainMonitor.removeTx_confirmed now
  | settledClosed | finalized | punished | collaborative | settleSeen | cetSeen | cleans =>
      exact ChainMonitor.cleanupChannel_confirmed now

theorem Node.Evolves.confirmed {w : Transaction × ChannelInfo}
    (evolved : Node.Evolves X signer env may n n') (now : n'.chainMonitor.ConfirmedTx w) :
    n.chainMonitor.ConfirmedTx w := by
  induction evolved with
  | refl => exact now
  | tail _ tick ih => exact ih (tick.confirmed now)

/-- What becomes of the contracts while one channel is checked. -/
def NodeSettles (C : Crypto) (final : Bytes32 → Prop) (n n' : Node X E.toDescriptors) : Prop :=
  SettlesAll C final n.contracts n'.contracts

instance {C : Crypto} : Std.Refl (NodeSettles (X := X) (E := E) C final) := ⟨fun _ => .same⟩

instance {C : Crypto} : IsTrans (Node X E.toDescriptors) (NodeSettles C final) :=
  ⟨fun _ _ _ => SettlesAll.trans⟩

theorem nodeSettles_of_same (same : n'.contracts = n.contracts) :
    NodeSettles X.toCrypto final n n' := by
  rw [NodeSettles, same]
  exact .same

abbrev NodeKeeps {α : Type} (final : Bytes32 → Prop)
    (m : Handler (Node X E.toDescriptors) (Fault Error) α) : Prop :=
  Handler.Keeps (NodeSettles X.toCrypto final) m

theorem node_closeContract_settled {c : SignedContract E.toDescriptors} {cet : Transaction}
    {closed : Contract E.toDescriptors}
    (closes : Node.closeContract X env c cet n = (.ok closed, n')) :
    SettledBy X.toCrypto (Counted env) closed ∧ (∀ a, closed ≠ .accepted a) ∧
      ∀ s, closed ≠ .signed s := by
  obtain ⟨k, _, lifted, closes⟩ := Handler.bind_ok.mp closes
  obtain ⟨answered, -⟩ := Handler.lift_ok.mp lifted
  split at closes
  · obtain ⟨_, _, _, closes⟩ := Handler.bind_ok.mp closes
    obtain ⟨rfl, -⟩ := Handler.pure_ok.mp closes
    exact ⟨trivial, fun _ => nofun, fun _ => nofun⟩
  · split at closes
    · obtain ⟨rfl, -⟩ := Handler.pure_ok.mp closes
      exact ⟨trivial, fun _ => nofun, fun _ => nofun⟩
    · next many =>
      obtain ⟨_, _, -, closes⟩ := Handler.bind_ok.mp closes
      obtain ⟨_, _, -, closes⟩ := Handler.bind_ok.mp closes
      obtain ⟨rfl, -⟩ := Handler.pure_ok.mp closes
      exact ⟨⟨cet, rfl, k, answered, Nat.not_lt.mp many⟩, fun _ => nofun, fun _ => nofun⟩

/-- A contract that replaces the confirmed one of the same id. -/
theorem settlesAll_confirmed {store store' : Store E.toDescriptors} {id : ContractId}
    {c : SignedContract E.toDescriptors} {closed : Contract E.toDescriptors}
    (stored : store id = some (.confirmed c))
    (same : closed.getId X.toCrypto = c.acceptedContract.getContractId X.toCrypto)
    (final_ : (∀ a, closed ≠ .accepted a) ∧ ∀ s, closed ≠ .signed s)
    (settled : SettledBy X.toCrypto final closed)
    (updated : store.updateContract X.toCrypto closed = .ok store') :
    SettlesAll X.toCrypto final store store' := by
  intro keyed
  obtain ⟨id', own, _⟩ := bind_eq_ok.mp updated
  have mine : id' = id := keyed id (.confirmed c) stored id' (same.symm.trans own)
  subst mine
  have settles : Settles X.toCrypto final (store id') (some closed) := by
    rw [stored]
    exact .of_open nofun nofun settled
  exact settlesAll_update own final_ settles updated keyed

theorem tryFinalize_settles (ch : SignedChannel X) :
    NodeKeeps (Counted env) (Node.tryFinalizeClosingEstablishedChannel X signer env ch) := by
  intro n
  match ran : Node.tryFinalizeClosingEstablishedChannel X signer env ch n with
  | (.error e, n') => exact nodeSettles_of_same (tryFinalize_failsIn ch n e n' ran).2
  | (.ok (), n') =>
      obtain ⟨closing, _, lifted, ran⟩ := Handler.bind_ok.mp ran
      obtain ⟨-, rfl⟩ := Handler.lift_ok.mp lifted
      obtain ⟨k, _, lifted, ran⟩ := Handler.bind_ok.mp ran
      obtain ⟨-, rfl⟩ := Handler.lift_ok.mp lifted
      split at ran
      next =>
        obtain ⟨contract, _, found, ran⟩ := Handler.bind_ok.mp ran
        obtain ⟨confirmed, rfl⟩ := Handler.read_ok.mp found
        obtain ⟨info, _, lifted, ran⟩ := Handler.bind_ok.mp ran
        obtain ⟨-, rfl⟩ := Handler.lift_ok.mp lifted
        obtain ⟨signed, _, lifted, ran⟩ := Handler.bind_ok.mp ran
        obtain ⟨-, rfl⟩ := Handler.lift_ok.mp lifted
        obtain ⟨closed, n₁, closes, ran⟩ := Handler.bind_ok.mp ran
        obtain ⟨_, n₂, cleans, ran⟩ := Handler.bind_ok.mp ran
        have same := (closeContract_sameRecords env contract signed.1 n).2
        have own : ∀ c, (Node.closeContract X env contract signed.1 n).1 = .ok c →
            c.getId X.toCrypto = contract.acceptedContract.getContractId X.toCrypto :=
          (Node.closeContract_result contract signed.1 n).2
        rw [closes] at same own
        cases cleans
        obtain ⟨contracts, updated, rfl⟩ := upsertChannel_some_ok.mp ran
        obtain ⟨settled, final_⟩ := node_closeContract_settled closes
        dsimp only at same updated
        rw [same] at updated
        exact settlesAll_confirmed (Node.getConfirmed_ok confirmed) (own closed rfl) final_ settled
          updated
      next =>
        obtain ⟨-, rfl⟩ := Handler.pure_ok.mp ran
        exact .same

theorem checkClosing_settles :
    NodeKeeps (Counted env) (Node.checkClosingChannels X signer env) := by
  intro n
  unfold Node.checkClosingChannels
  split
  next ch _ =>
    split
    · rw [Node.logged_snd]
      exact tryFinalize_settles ch n
    · exact .same
  next => exact .same

/-! A force close leaves the contracts. -/

theorem initiateUnilateralClose_settles (ch : SignedChannel X) (isInitiator : Bool)
    (sig : AdaptorSignature) (tx : Transaction) :
    NodeKeeps final (Node.initiateUnilateralCloseEstablishedChannel X signer env ch isInitiator
      sig tx) := by
  refine Handler.keeps_bind (Handler.keeps_lift _) fun _ => ?_
  refine Handler.keeps_bind (fun _ => nodeSettles_of_same rfl) fun _ => ?_
  refine Handler.keeps_bind (fun _ => nodeSettles_of_same rfl) fun _ => ?_
  refine Handler.keeps_bind (fun _ => nodeSettles_of_same rfl) fun _ => ?_
  exact Handler.keeps_modify fun _ => nodeSettles_of_same rfl

theorem closeSettledChannel_settles (ch : SignedChannel X) (isInitiator : Bool) :
    NodeKeeps final (Node.closeSettledChannel X signer env ch isInitiator) := by
  refine Handler.keeps_bind (Handler.keeps_lift _) fun settled => ?_
  obtain ⟨settleTx, closedChannel⟩ := settled
  have finishes : NodeKeeps final (do
      cleanupChannel ch.channelId
      upsertChannel closedChannel none : NodeHandler X E.toDescriptors Unit) :=
    fun _ => nodeSettles_of_same rfl
  have sends : NodeKeeps final (broadcast env (.settle settleTx ch.ownPerUpdatePoint) :
      NodeHandler X E.toDescriptors Unit) := fun _ => nodeSettles_of_same rfl
  dsimp only
  split
  · exact Handler.keeps_bind sends fun _ => finishes
  · exact finishes

theorem forceCloseFrom_settles {otherwise : NodeHandler X E.toDescriptors Unit}
    (ch : SignedChannel X) (isInitiator : Bool) (others : NodeKeeps final otherwise) :
    NodeKeeps final (Node.forceCloseFrom X signer env ch isInitiator otherwise) := by
  unfold Node.forceCloseFrom
  cases ch.state with
  | established | renewFinalized => exact initiateUnilateralClose_settles ch isInitiator _ _
  | settled => exact closeSettledChannel_settles ch isInitiator
  | closing => exact Handler.keeps_lift _
  | _ => exact others

theorem checkTimedOut_settles (timeout : SignedChannelState → Option ℕ) :
    NodeKeeps final (Node.checkTimedOut X signer env timeout) := by
  intro n
  unfold Node.checkTimedOut
  split
  next ch _ =>
    split
    · rw [Node.logged_snd]
      apply forceCloseFrom_settles
      refine Handler.keeps_bind (Handler.keeps_lift _) fun before => ?_
      exact forceCloseFrom_settles before true (Handler.keeps_lift _)
    · exact .same
  next => exact .same

/-! A watched transaction that is not of a close in common. -/

/-- The contract is closing if it was confirmed. -/
theorem onCet_contracts (ch : SignedChannel X) (tx : Transaction) (n : Node X E.toDescriptors) :
    (Node.onCet X ch tx n).2.contracts = n.contracts ∨
      ∃ id c, n.contracts id = some (.confirmed c) ∧
        n.contracts.updateContract X.toCrypto
            (.preClosed { signedContract := c, signedCet := tx }) =
          .ok (Node.onCet X ch tx n).2.contracts := by
  have wrote : ∀ closed contract (n : Node X E.toDescriptors),
      ((upsertChannel closed contract >>= fun _ => persistChainMonitor :
        NodeHandler X E.toDescriptors Unit) n).2.contracts =
        (upsertChannel closed contract n).2.contracts := by
    intro closed contract n
    rw [Handler.bind_apply]
    match upsertChannel closed contract n with
    | (.ok _, _) | (.error _, _) => rfl
  unfold Node.onCet
  rw [Handler.bind_apply]
  dsimp only [cleanupChannel, onChainMonitor, Handler.modify]
  rw [Handler.read_bind]
  dsimp only
  rw [wrote]
  match found : (ch.state.contractId.bind n.contracts).bind Contract.confirmed? with
  | none => exact .inl rfl
  | some c =>
      obtain ⟨stored, known, picked⟩ := Option.bind_eq_some_iff.mp found
      obtain ⟨id, -, holds⟩ := Option.bind_eq_some_iff.mp known
      obtain rfl := Contract.confirmed?_eq_some.mp picked
      rw [Option.map_some, upsertChannel_some]
      split
      next updated => exact .inr ⟨id, c, holds, updated⟩
      next => exact .inl rfl

theorem onCet_settles (ch : SignedChannel X) (tx : Transaction) :
    NodeKeeps final (Node.onCet X ch tx : NodeHandler X E.toDescriptors Unit) := by
  intro n
  obtain unmoved | ⟨id, c, stored, updated⟩ := onCet_contracts ch tx n
  · exact nodeSettles_of_same unmoved
  · refine settlesAll_confirmed stored ?_ ⟨?_, ?_⟩ ?_ updated
    · rfl
    · exact fun _ => nofun
    · exact fun _ => nofun
    · exact trivial

theorem onCollaborativeClose_settles {ch : SignedChannel X}
    (lasts : ¬ (ChannelRecord.signed ch).EndsInCommon) :
    NodeKeeps final (Node.onCollaborativeClose X ch : NodeHandler X E.toDescriptors Unit) := by
  have finishes : NodeKeeps final (do
      cleanupChannel ch.channelId
      upsertChannel (.collaborativelyClosed ch.closedChannel) none
      persistChainMonitor : NodeHandler X E.toDescriptors Unit) :=
    fun _ => nodeSettles_of_same rfl
  intro n
  unfold Node.onCollaborativeClose Node.collaborativelyClosed
  split
  next s before =>
    match state : ch.state with
    | .collaborativeCloseOffered offer => exact absurd ⟨ch, offer, s, rfl, state, before⟩ lasts
    | .established _ | .settledOffered _ | .settledReceived _ | .settledAccepted _
    | .settledConfirmed _ | .settled _ | .renewOffered _ | .renewAccepted _ | .renewConfirmed _
    | .renewFinalized _ | .closing _ => exact .same
  next => exact finishes n

theorem processWatchedTx_settles {w : Transaction × ChannelInfo} (seen : watched w)
    (unended : n.channel.Unended watched) :
    NodeSettles X.toCrypto final n (Node.processWatchedTx X signer env w n).2 := by
  unfold Node.processWatchedTx
  match found : n.getSigned w.2.channelId none with
  | .error _ => exact .same
  | .ok ch =>
      obtain ⟨signed, named, -⟩ := Node.getSigned_ok.mp found
      dsimp only
      match kind : w.2.txType with
      | .bufferTx =>
          have keeps : NodeKeeps final (Node.onBufferTx X ch w.1 :
              NodeHandler X E.toDescriptors Unit) :=
            Handler.keeps_bind (Handler.keeps_lift _) fun _ _ => nodeSettles_of_same rfl
          exact keeps n
      | .revoked updateIdx sig isOffer revokedTxType =>
          have keeps : NodeKeeps final (Node.onRevoked X signer env ch w.1 updateIdx sig isOffer
              revokedTxType) := by
            refine Handler.keeps_bind (Handler.keeps_lift _) fun _ => ?_
            exact Handler.keeps_bind (fun _ => nodeSettles_of_same rfl) fun _ _ =>
              nodeSettles_of_same rfl
          exact keeps n
      | .collaborativeClose =>
          refine onCollaborativeClose_settles (fun ends => ?_) n
          rw [← signed] at ends
          have named : w.2.channelId = n.channel.getId := by
            rw [signed]
            exact named.symm
          exact unended ends w seen named kind
      | .settleTx => exact nodeSettles_of_same rfl
      | .cet => exact onCet_settles ch w.1 n

end Nodes

section Hubs
variable {X : ChannelCrypto} {signer : Signer} {E : SigningDescriptors}
  {env : Environment E.toDescriptors} {final : Bytes32 → Prop}
  {watched : Transaction × ChannelInfo → Prop}

/-- What is watched, and no channel is ended by it in common. -/
structure Hub.Unended {D : Descriptors} (watched : Transaction × ChannelInfo → Prop) (h : Hub X D) :
    Prop where
  channels : ∀ c ∈ h.channels, c.Unended watched
  known : ∀ w, h.chainMonitor.ConfirmedTx w → watched w

def HubSettles (C : Crypto) (final : Bytes32 → Prop) (watched : Transaction × ChannelInfo → Prop)
    (h h' : Hub X E.toDescriptors) : Prop :=
  h.Unended watched → SettlesAll C final h.contracts h'.contracts ∧ h'.Unended watched

instance {C : Crypto} : Std.Refl (HubSettles (X := X) (E := E) C final watched) :=
  ⟨fun _ unended => ⟨.same, unended⟩⟩

instance {C : Crypto} : IsTrans (Hub X E.toDescriptors) (HubSettles C final watched) where
  trans _ _ _ first next unended := by
    obtain ⟨settles, unended⟩ := first unended
    obtain ⟨settles', unended⟩ := next unended
    exact ⟨settles.trans settles', unended⟩

abbrev HubKeeps (final : Bytes32 → Prop) (watched : Transaction × ChannelInfo → Prop)
    (m : HubHandler X E.toDescriptors Unit) : Prop :=
  Handler.Keeps (HubSettles X.toCrypto final watched) m

/-- A handler of single channels that evolves them and settles the contracts. -/
structure SettlesChannel (signer : Signer) (final : Bytes32 → Prop)
    (watched : Transaction × ChannelInfo → Prop) (handler : NodeHandler X E.toDescriptors Unit) :
    Prop where
  settles : ∀ n, n.channel.Unended watched → NodeSettles X.toCrypto final n (handler n).2
  evolves : ∃ env, ∀ n, Node.Evolves X signer env (fun _ => True) n (handler n).2

variable {handler : NodeHandler X E.toDescriptors Unit}

theorem SettlesChannel.atRecord (settles : SettlesChannel signer final watched handler)
    {c : ChannelRecord X} (holds : c.Unended watched) :
    HubKeeps final watched (Hub.atRecord handler c) := by
  obtain ⟨env, evolves⟩ := settles.evolves
  intro h unended
  refine ⟨settles.settles (h.nodeOf c) holds, ?_, fun w now => ?_⟩
  · exact Hub.keepsAll_atRecord (fun n => (evolves n).unended) holds h unended.channels
  · exact unended.known w ((evolves (h.nodeOf c)).confirmed now)

theorem SettlesChannel.eachChannel (settles : SettlesChannel signer final watched handler) :
    HubKeeps final watched (Hub.eachChannel handler) := by
  intro h unended
  have each : ∀ c ∈ h.channels, HubKeeps final watched (Hub.atRecord handler c) :=
    fun c listed => settles.atRecord (unended.channels c listed)
  exact Handler.keeps_forEach each h unended

theorem SettlesChannel.atId (settles : SettlesChannel signer final watched handler)
    (id : ChannelId) : HubKeeps final watched (Hub.atId id handler) := by
  intro h unended
  unfold Hub.atId
  split
  next c found =>
    have holds := unended.channels c (List.mem_of_find?_eq_some found)
    exact settles.atRecord holds h unended
  next => exact ⟨.same, unended⟩

/-- The monitor lists what has confirmed. -/
def ListsConfirmed {D : Descriptors} (env : Environment D) : Prop :=
  ∀ m w, w ∈ env.confirmedTxs m → m.ConfirmedTx w

theorem channelChecks_settles (listed : ListsConfirmed env) :
    HubKeeps (Counted env) watched (Hub.channelChecks X signer env) := by
  have closes : SettlesChannel signer (Counted env) watched
      (Node.checkClosingChannels X signer env) :=
    ⟨fun n _ => checkClosing_settles n, env, fun _ => Node.checkClosingChannels_evolved⟩
  have timesOut : ∀ timeout ∈ SignedChannelState.sweeps,
      SettlesChannel signer (Counted env) watched (Node.checkTimedOut X signer env timeout) :=
    fun timeout swept => ⟨fun n _ => checkTimedOut_settles timeout n, env, fun _ =>
      Node.checkTimedOut_evolves (SignedChannelState.sweeps_timed swept) fun _ _ _ _ _ => trivial⟩
  have sees : ∀ w, watched w → SettlesChannel signer (Counted env) watched
      (Node.processWatchedTx X signer env w) :=
    fun w known => ⟨fun _ unended => processWatchedTx_settles known unended, _, fun _ =>
      Node.processWatchedTx_evolves w⟩
  have timeOuts : HubKeeps (Counted env) watched (Hub.checkForTimedOutChannels X signer env) := by
    rw [Hub.checkForTimedOutChannels_eq]
    apply Handler.keeps_forEach
    intro timeout swept
    exact (timesOut timeout swept).eachChannel
  have seen : HubKeeps (Counted env) watched (Hub.checkForWatchedTx X signer env) := by
    intro h unended
    rw [Hub.checkForWatchedTx, Handler.read_bind]
    dsimp only
    have each : ∀ w ∈ env.confirmedTxs h.chainMonitor,
        HubKeeps (Counted env) watched (Hub.processWatchedTx X signer env w) := by
      intro w member
      have known := unended.known w (listed _ w member)
      exact (sees w known).atId _
    have stores : HubKeeps (Counted env) watched (Handler.modify fun h : Hub X E.toDescriptors =>
        { h with persistedChainMonitor := h.chainMonitor }) :=
      fun h unended => ⟨.same, unended.channels, unended.known⟩
    exact Handler.keeps_bind (Handler.keeps_forEach each) (fun _ => stores) h unended
  apply Handler.keeps_bind closes.eachChannel
  intro
  exact Handler.keeps_bind timeOuts fun _ => seen

end Hubs

/-! The calls. -/

/-- A check whose keys and whose monitor's list are those of maps. -/
structure Review (D : Descriptors) extends Round D where
  distinct : keys.Nodup
  listed : ListsConfirmed toEnvironment

/-- The calls that settle contracts, with the answers they get. -/
inductive SettlingCall (E : SigningDescriptors)
  | periodicCheck (review : Review E.toDescriptors) (withChannels : Bool) (evmPk : String)
  | closeConfirmedContract (answers : CloseAnswers E.toDescriptors) (contractId : ContractId)
      (attestations : List (ℕ × E.OracleAttestation))
  | onCounterpartyClose (answers : CheckAnswers E.toDescriptors)
      (contract : SignedContract E.toDescriptors) (closingTx : Transaction) (confirmations : ℕ)

namespace SettlingCall
variable {X : ChannelCrypto} {signer : Signer} {E : SigningDescriptors}
  {A : AnnouncedNonces E.toDescriptors} {o : Office X E.toDescriptors}

section Calls
variable (X : ChannelCrypto) (signer : Signer) {E : SigningDescriptors}
  (A : AnnouncedNonces E.toDescriptors)

def act : SettlingCall E → OfficeHandler X E.toDescriptors Unit
  | periodicCheck review withChannels evmPk =>
      Channels.periodicCheck X signer review.toRound withChannels evmPk
  | closeConfirmedContract answers contractId attestations => Office.onDesk contractId do
      let _ ← Desk.closeConfirmedContract X.toCrypto signer A answers contractId attestations
      pure ()
  | onCounterpartyClose answers contract closingTx confirmations =>
      Office.onDesk contract.acceptedContract.offeredContract.id do
        let _ ← Desk.onCounterpartyClose X.toCrypto answers contract closingTx confirmations
        pure ()

def step (o : Office X E.toDescriptors) (call : SettlingCall E) (o' : Office X E.toDescriptors) :
    Prop := (call.act X signer A o).2 = o'

variable {A}

/-- The transactions that are final for the call. -/
def Final : SettlingCall E → Bytes32 → Prop
  | periodicCheck review _ _ => Counted review.toEnvironment
  | closeConfirmedContract answers _ _ => Counted answers.toEnvironment
  | onCounterpartyClose _ _ closingTx confirmations => fun txid =>
      txid = closingTx.computeTxid X.toCrypto ∧ nbConfirmations ≤ confirmations

/-- The check refunds no contract early and ends none in common with its channel; a close is
reported of a contract that it may be recorded for. -/
def Admits (o : Office X E.toDescriptors) : SettlingCall E → Prop
  | periodicCheck review withChannels evmPk =>
      RefundsPrompt X signer review.toRound evmPk o ∧
        (withChannels = true → ∀ c ∈ o.channels, c.Unended o.chainMonitor.ConfirmedTx)
  | closeConfirmedContract _ _ _ => True
  | onCounterpartyClose answers contract closingTx confirmations => ∀ id,
      CloseReported X.toCrypto answers contract closingTx confirmations id →
        CloseRecordable X.toCrypto contract closingTx confirmations (o.contracts id)

end Calls

theorem periodicCheck_settles {review : Review E.toDescriptors} {withChannels : Bool}
    {evmPk : String} (prompt : RefundsPrompt X signer review.toRound evmPk o)
    (unended : withChannels = true → ∀ c ∈ o.channels, c.Unended o.chainMonitor.ConfirmedTx) :
    SettlesAll X.toCrypto (Counted review.toEnvironment) o.contracts
      (Channels.periodicCheck X signer review.toRound withChannels evmPk o).2.contracts := by
  apply settlesAll_bind (checkContracts_settles review.distinct prompt)
  intro o' ran
  cases withChannels with
  | false => exact .same
  | true =>
      have kept : KeepsChannels o (checkContracts X signer review.toRound evmPk o).2 :=
        checkContracts_keepsChannels o
      rw [ran] at kept
      have same : o'.hub = { o.hub with contracts := o'.contracts } := kept
      have before : o'.hub.Unended o.chainMonitor.ConfirmedTx := by
        rw [same]
        exact ⟨unended rfl, fun _ now => now⟩
      exact (channelChecks_settles review.listed o'.hub before).1

theorem act_settles {call : SettlingCall E} (admits : call.Admits X signer o) :
    SettlesAll X.toCrypto (call.Final X) o.contracts (call.act X signer A o).2.contracts := by
  -- what a desk returns is of no concern
  have forgets : ∀ (m : DeskHandler E.toDescriptors (Contract E.toDescriptors)) d,
      (m >>= fun _ => pure ()) d = ((m d).1.map fun _ => (), (m d).2) := by
    intro m d
    rw [Handler.bind_apply]
    match m d with
    | (.ok _, _) | (.error _, _) => rfl
  cases call with
  | periodicCheck review withChannels evmPk => exact periodicCheck_settles admits.1 admits.2
  | closeConfirmedContract answers contractId attestations =>
      have settles : SettlesAll X.toCrypto (Counted answers.toEnvironment) o.contracts
          (Desk.closeConfirmedContract X.toCrypto signer A answers contractId attestations
            ⟨o.contracts, []⟩).2.contracts :=
        closeConfirmedContract_settles (d := ⟨o.contracts, []⟩) A answers contractId attestations
      rw [act, Office.onDesk, forgets]
      exact settles
  | onCounterpartyClose answers contract closingTx confirmations =>
      have settles := onCounterpartyClose_settles (d := ⟨o.contracts, []⟩) admits
      rw [act, Office.onDesk, forgets]
      exact settles

/-- In a run of admitted calls whatever is recorded as closed or refunded stays so, and is
backed by a transaction that is final for the call that records it. -/
theorem settled_contracts_stay {start : Office X E.toDescriptors} {calls : List (SettlingCall E)}
    (keyed : Keyed X.toCrypto start.contracts)
    (run : Run (guarded (step X signer A) (Admits X signer)) start calls o) :
    Run (fun o call o' => step X signer A o call o' ∧ ∀ id,
        Settles X.toCrypto (call.Final X) (o.contracts id) (o'.contracts id)) start calls o ∧
      ∀ id, Settles X.toCrypto (fun txid => ∃ call ∈ calls, call.Final X txid)
        (start.contracts id) (o.contracts id) := by
  suffices both : (Run (fun o call o' => step X signer A o call o' ∧ ∀ id,
        Settles X.toCrypto (call.Final X) (o.contracts id) (o'.contracts id)) start calls o ∧
      Keyed X.toCrypto o.contracts) ∧
      ∀ id, Settles X.toCrypto (fun txid => ∃ call ∈ calls, call.Final X txid)
        (start.contracts id) (o.contracts id) from ⟨both.1.1, both.2⟩
  induction run with
  | nil => exact ⟨⟨.nil, keyed⟩, fun _ => .same⟩
  | @snoc calls s _ call _ guarded ih =>
      obtain ⟨admits, rfl⟩ := guarded
      obtain ⟨⟨before, keyed⟩, settled⟩ := ih
      obtain ⟨keyed', settles⟩ := act_settles (A := A) admits keyed
      refine ⟨⟨before.snoc ⟨rfl, settles⟩, keyed'⟩, fun id => ?_⟩
      have earlier : ∀ txid, (∃ c ∈ calls, c.Final X txid) →
          ∃ c ∈ calls ++ [call], c.Final X txid := by
        rintro txid ⟨c, listed, final⟩
        exact ⟨c, List.mem_append_left _ listed, final⟩
      have last : ∀ txid, call.Final X txid → ∃ c ∈ calls ++ [call], c.Final X txid :=
        fun txid final => ⟨call, List.mem_append_right _ List.mem_cons_self, final⟩
      exact ((settled id).mono earlier).trans ((settles id).mono last)

end SettlingCall

/-! The sample's refund is due, with a given count of confirmations for everything. -/

def sampleReview (confirmations : ℕ) : Review refundSigning.toDescriptors :=
  { sampleRound (some 0) with
    unixTimeNow := 1000
    getTransactionConfirmations := fun _ => .ok confirmations
    distinct := by decide +kernel
    listed := fun _ _ => nofun }

def matureSettling (confirmations : ℕ) : SettlingCall refundSigning :=
  .periodicCheck (sampleReview confirmations) true sampleEvmKey

/-- The sample's nonces are all the same. -/
def sampleNonces : AnnouncedNonces refundSigning.toDescriptors :=
  ⟨fun _ => [], fun _ => 0, fun _ => .ok []⟩

def settledStore (call : SettlingCall refundSigning)
    (o : Office refundCrypto refundSigning.toDescriptors) :
    Office refundCrypto refundSigning.toDescriptors :=
  (call.act refundCrypto (refundSigner sampleKey₁ 1) sampleNonces o).2

theorem final_refund_settled :
    ((settledStore (matureSettling 6) sampleOffice).contracts sampleSignedId).map
      Contract.state = some "refunded" ∧
    ∀ id, Settles sampleCrypto (fun txid => ∃ call ∈ [matureSettling 6],
      call.Final refundCrypto txid) (sampleOffice.contracts id)
        ((settledStore (matureSettling 6) sampleOffice).contracts id) := by
  constructor
  · decide +kernel
  · have admits : (matureSettling 6).Admits refundCrypto (refundSigner sampleKey₁ 1)
        sampleOffice := by
      constructor
      · intro _ id _ c _ _ early
        obtain ⟨n, answered, few, -⟩ := early.early
        cases answered
        exact absurd few (by decide)
      · intro _ c listed
        cases listed
    exact (SettlingCall.settled_contracts_stay (A := sampleNonces) sampleOffice_keyed
      (Run.nil.snoc ⟨admits, rfl⟩)).2

def sampleStored (c : Contract refundSigning.toDescriptors) :
    Office refundCrypto refundSigning.toDescriptors :=
  sampleOffice.putContracts fun id =>
    if id = 7 then some (.offeredLoan sampleLoanOffer)
    else if id = sampleSignedId then some c else none

def sampleClosed : ClosedContract where
  signedCet := some sampleRefund
  contractId := sampleSignedId
  temporaryContractId := 7
  counterPartyId := sampleKey₂

/-- The counterparty's refund, without a confirmation. -/
def sampleReport : SettlingCall refundSigning :=
  .onCounterpartyClose silentAnswers (sampleSignedContract true) sampleRefund 0

/-- The contract was not refunded and is, with nothing final. -/
theorem not_settles_of_refunded {C : Crypto} {D : Descriptors} {final : Bytes32 → Prop}
    {store store' : Store D} (id : ContractId) (unfinal : ∀ txid, ¬ final txid)
    (before : (store id).map Contract.state ≠ some "refunded")
    (after : (store' id).map Contract.state = some "refunded") :
    ¬ ∀ id, Settles C final (store id) (store' id) := by
  intro settles
  obtain ⟨c, stored, state⟩ := Option.map_eq_some_iff.mp after
  obtain same | settled := (settles id).settled
  · rw [same] at after
    exact before after
  · cases c with
    | refunded c => exact unfinal _ (settled _ stored)
    | _ => simp [Contract.state] at state

/-- The refund is recorded when it is sent, and a report records one over a closed contract. -/
theorem refund_recorded_unsettled :
    (Run (SettlingCall.step refundCrypto (refundSigner sampleKey₁ 1) sampleNonces)
        (sampleStored (.confirmed (sampleSignedContract true))) [matureSettling 0]
        (settledStore (matureSettling 0)
          (sampleStored (.confirmed (sampleSignedContract true)))) ∧
      ¬ ∀ id, Settles sampleCrypto (fun txid => ∃ call ∈ [matureSettling 0],
          call.Final refundCrypto txid)
        ((sampleStored (.confirmed (sampleSignedContract true))).contracts id)
        ((settledStore (matureSettling 0)
          (sampleStored (.confirmed (sampleSignedContract true)))).contracts id)) ∧
    Run (SettlingCall.step refundCrypto (refundSigner sampleKey₁ 1) sampleNonces)
        (sampleStored (.closed sampleClosed)) [sampleReport]
        (settledStore sampleReport (sampleStored (.closed sampleClosed))) ∧
      ¬ ∀ id, Settles sampleCrypto (fun txid => ∃ call ∈ [sampleReport],
          call.Final refundCrypto txid)
        ((sampleStored (.closed sampleClosed)).contracts id)
        ((settledStore sampleReport (sampleStored (.closed sampleClosed))).contracts id) := by
  refine ⟨⟨Run.nil.snoc rfl, ?_⟩, Run.nil.snoc rfl, ?_⟩
  · apply not_settles_of_refunded sampleSignedId
    · rintro txid ⟨call, listed, final⟩
      obtain rfl := List.mem_singleton.mp listed
      obtain ⟨n, answered, many⟩ := final
      cases answered
      exact absurd many (by decide)
    · decide +kernel
    · decide +kernel
  · apply not_settles_of_refunded sampleSignedId
    · rintro txid ⟨call, listed, final⟩
      obtain rfl := List.mem_singleton.mp listed
      exact absurd final.2 (by decide)
    · decide +kernel
    · decide +kernel

end P2PLending.Manager.Channels
