import P2PLending.Channels.ChannelHub
import P2PLending.Channels.RollBack

/-! What the checks do to channels whose update has run out of time. A state is swept when
it is one of six, and a swept channel is closed from the state it goes back to. -/

namespace P2PLending.Manager.Channels
open Dlc Checked Relation

/-- The time-out that a state carries, swept or not. -/
def SignedChannelState.deadline? : SignedChannelState → Option ℕ
  | .settledOffered s => some s.timeout
  | .settledAccepted s => some s.timeout
  | .settledConfirmed s => some s.timeout
  | .renewOffered s => some s.timeout
  | .renewAccepted s => some s.timeout
  | .renewConfirmed s => some s.timeout
  | .renewFinalized s => some s.timeout
  | .collaborativeCloseOffered s => some s.timeout
  | .established _ | .settledReceived _ | .settled _ | .closing _ => none

theorem SignedChannelState.deadline?_of_timeout? {state : SignedChannelState} {t : ℕ}
    (swept : state.timeout? = some t) : state.deadline? = some t := by
  cases state <;> first | exact swept | cases swept

theorem SignedChannelState.updating_of_timeout? {state : SignedChannelState}
    (swept : state.timeout?.isSome = true) : state.updating = true := by
  cases state <;> first | rfl | cases swept

/-- A signed channel in a state whose time-out lies before the time. -/
def ChannelRecord.Late {X : ChannelCrypto} (now : ℕ) (c : ChannelRecord X) : Prop :=
  ∃ ch t, c = .signed ch ∧ ch.state.deadline? = some t ∧ t < now

section Closing
variable (X : ChannelCrypto) (signer : Signer)

/-- The party can complete the transaction that closes a channel from its state. -/
def SignedChannel.Closable (ch : SignedChannel X) : Prop :=
  match ch.state with
  | .established s =>
      ∃ tx, completeTx X signer ch s.bufferTransaction s.counterBufferAdaptorSignature = .ok tx
  | .renewFinalized s =>
      ∃ tx, completeTx X signer ch s.bufferTransaction s.offerBufferAdaptorSignature = .ok tx
  | .settled s => ∃ tx, completeTx X signer ch s.settleTx s.counterSettleAdaptorSignature = .ok tx
  | .settledOffered _ | .settledReceived _ | .settledAccepted _ | .settledConfirmed _
  | .renewOffered _ | .renewAccepted _ | .renewConfirmed _ | .closing _
  | .collaborativeCloseOffered _ => False

/-- The state is swept, and the one before it can be closed from. -/
structure SignedChannel.SweptClosable (ch : SignedChannel X) : Prop where
  swept : ch.state.timeout?.isSome = true
  closable : ∃ before, ch.rollBack = .ok before ∧ before.Closable X signer

end Closing

section Records
variable {X : ChannelCrypto} {signer : Signer} {E : SigningDescriptors}
  {env : Environment E.toDescriptors} {may : SignedChannel X → Prop}
  {n n' : Node X E.toDescriptors} {ch ch₀ : SignedChannel X}

theorem ChannelRecord.not_late_of_unsigned {now : ℕ} {c : ChannelRecord X} (closed : ∀ ch, c ≠ .signed ch) :
    ¬ c.Late now := fun ⟨ch, _, same, _⟩ => closed ch same

theorem ChannelRecord.not_late_of_untimed {now : ℕ} (untimed : ch.state.deadline? = none) :
    ¬ (ChannelRecord.signed ch).Late now := by
  rintro ⟨ch', t, same, timed, -⟩
  cases same
  rw [untimed] at timed
  cases timed

theorem Node.Ticks.settles (now : ℕ) (tick : Node.Ticks X signer env may n n') :
    n'.channel = n.channel ∨ ¬ n'.channel.Late now := by
  cases tick with
  | sendsCet | sendsPunishment | attempts | cleans | persists => exact .inl rfl
  | closing | bufferSeen => exact .inr (ChannelRecord.not_late_of_untimed rfl)
  | settledClosed | finalized | cetSeen =>
      exact .inr (ChannelRecord.not_late_of_unsigned fun ch => Node.closedRecord_unsigned ch)
  | punished | collaborative | settleSeen =>
      exact .inr (ChannelRecord.not_late_of_unsigned fun ch => by simp)

/-- A check leaves the record, or one that waits for nobody. -/
theorem Node.Evolves.settles (now : ℕ) (evolved : Node.Evolves X signer env may n n') :
    n'.channel = n.channel ∨ ¬ n'.channel.Late now := by
  induction evolved with
  | refl => exact .inl rfl
  | tail _ tick ih =>
      rcases tick.settles now with same | settled
      · rw [same]
        exact ih
      · exact .inr settled

theorem Node.Evolves.notLate {now : ℕ} (evolved : Node.Evolves X signer env may n n')
    (settled : ¬ n.channel.Late now) : ¬ n'.channel.Late now := by
  rcases evolved.settles now with same | settled'
  · rw [same]
    exact settled
  · exact settled'

theorem Node.ClosesFrom.channelId (start : Node.ClosesFrom X ch ch₀) :
    ch₀.channelId = ch.channelId := by
  cases start with
  | rest => rfl
  | before update back =>
      obtain ⟨state, -, rfl⟩ := rollBack_ok back
      rfl

theorem closedRecord_getId {isInitiator : Bool} :
    (if isInitiator then ChannelRecord.closed ch.closedChannel
      else .counterClosed ch.closedChannel : ChannelRecord X).getId = ch.channelId := by
  cases isInitiator <;> rfl

theorem Node.Ticks.getId (tick : Node.Ticks X signer env may n n') :
    n'.channel.getId = n.channel.getId := by
  cases tick with
  | sendsCet | sendsPunishment | attempts | cleans | persists => rfl
  | closing signed _ start => rw [signed]; exact start.channelId
  | settledClosed signed _ start =>
      rw [signed]
      exact closedRecord_getId.trans start.channelId
  | bufferSeen signed | punished signed | collaborative signed | settleSeen signed =>
      rw [signed]; rfl
  | finalized signed | cetSeen signed => rw [signed]; exact closedRecord_getId

theorem Node.Evolves.getId (evolved : Node.Evolves X signer env may n n') :
    n'.channel.getId = n.channel.getId := by
  induction evolved with
  | refl => rfl
  | tail _ tick ih => exact tick.getId.trans ih

end Records

namespace Node
variable {X : ChannelCrypto} {signer : Signer} {E : SigningDescriptors}
  {env : Environment E.toDescriptors} {n : Node X E.toDescriptors} {ch : SignedChannel X}
  {isInitiator : Bool}

section ForceClose
variable {now : ℕ}

theorem initiateUnilateralClose_closes {tx closing : Transaction} {sig : AdaptorSignature}
    {contractId : ContractId} (accepts : ∀ tx, env.sendTransaction tx = .ok ())
    (completed : completeTx X signer ch tx sig = .ok closing)
    (id : ch.state.contractId = some contractId) :
    (initiateUnilateralCloseEstablishedChannel X signer env ch isInitiator sig tx n).1 = .ok () ∧
      ¬ (initiateUnilateralCloseEstablishedChannel X signer env ch isInitiator sig tx
        n).2.channel.Late now := by
  have made : Channels.initiateUnilateralCloseEstablishedChannel X signer ch sig ch.state.keysId tx
      isInitiator = .ok ({ ch with state := .closing ⟨closing, contractId, isInitiator,
        ch.state.keysId⟩ }, closing) := by
    rw [Channels.initiateUnilateralCloseEstablishedChannel, completed, id]
    rfl
  rw [initiateUnilateralCloseEstablishedChannel, Handler.lift_bind, made]
  dsimp only
  rw [broadcast_bind, accepts]
  exact ⟨rfl, ChannelRecord.not_late_of_untimed rfl⟩

theorem closeSettledChannel_closes {s : SignedChannelState.Settled} {closing : Transaction}
    (accepts : ∀ tx, env.sendTransaction tx = .ok ()) (state : ch.state = .settled s)
    (completed : completeTx X signer ch s.settleTx s.counterSettleAdaptorSignature = .ok closing) :
    (closeSettledChannel X signer env ch isInitiator n).1 = .ok () ∧
      ¬ (closeSettledChannel X signer env ch isInitiator n).2.channel.Late now := by
  have made : Channels.closeSettledChannel X signer ch isInitiator = .ok (closing,
      if isInitiator then .closed ch.closedChannel else .counterClosed ch.closedChannel) := by
    rw [Channels.closeSettledChannel, state]
    dsimp only
    rw [completed]
    rfl
  rw [closeSettledChannel, Handler.lift_bind, made]
  dsimp only
  split
  next =>
    rw [broadcast_bind, accepts]
    exact ⟨rfl, ChannelRecord.not_late_of_unsigned fun ch => closedRecord_unsigned ch⟩
  next => exact ⟨rfl, ChannelRecord.not_late_of_unsigned fun ch => closedRecord_unsigned ch⟩

theorem forceCloseFrom_closes {otherwise : NodeHandler X E.toDescriptors Unit}
    (accepts : ∀ tx, env.sendTransaction tx = .ok ()) (closable : ch.Closable X signer) :
    (forceCloseFrom X signer env ch isInitiator otherwise n).1 = .ok () ∧
      ¬ (forceCloseFrom X signer env ch isInitiator otherwise n).2.channel.Late now := by
  unfold SignedChannel.Closable at closable
  unfold forceCloseFrom
  match state : ch.state with
  | .established s =>
      rw [state] at closable
      obtain ⟨tx, completed⟩ := closable
      exact initiateUnilateralClose_closes accepts completed (by rw [state]; rfl)
  | .renewFinalized s =>
      rw [state] at closable
      obtain ⟨tx, completed⟩ := closable
      exact initiateUnilateralClose_closes accepts completed (by rw [state]; rfl)
  | .settled s =>
      rw [state] at closable
      obtain ⟨tx, completed⟩ := closable
      exact closeSettledChannel_closes accepts state completed
  | .settledOffered _ | .settledReceived _ | .settledAccepted _ | .settledConfirmed _
  | .renewOffered _ | .renewAccepted _ | .renewConfirmed _ | .closing _
  | .collaborativeCloseOffered _ =>
      rw [state] at closable
      exact closable.elim

theorem initiateUnilateralClose_stuck {tx : Transaction} {sig : AdaptorSignature}
    (stuck : ¬ ∃ closing, completeTx X signer ch tx sig = .ok closing) :
    (initiateUnilateralCloseEstablishedChannel X signer env ch isInitiator sig tx n).2 = n := by
  rw [initiateUnilateralCloseEstablishedChannel, Handler.lift_bind,
    Channels.initiateUnilateralCloseEstablishedChannel]
  cases completed : completeTx X signer ch tx sig with
  | ok closing => exact absurd ⟨closing, completed⟩ stuck
  | error _ => rfl

theorem closeSettledChannel_stuck {s : SignedChannelState.Settled} (state : ch.state = .settled s)
    (stuck : ¬ ∃ closing,
      completeTx X signer ch s.settleTx s.counterSettleAdaptorSignature = .ok closing) :
    (closeSettledChannel X signer env ch isInitiator n).2 = n := by
  rw [closeSettledChannel, Handler.lift_bind, Channels.closeSettledChannel, state]
  dsimp only
  cases completed : completeTx X signer ch s.settleTx s.counterSettleAdaptorSignature with
  | ok closing => exact absurd ⟨closing, completed⟩ stuck
  | error _ => rfl

/-- A channel whose closing transaction cannot be completed stays as it is. -/
theorem forceCloseFrom_stuck {e : Fault Error} (stuck : ¬ ch.Closable X signer) :
    (forceCloseFrom X signer env ch isInitiator (Handler.lift (.error e)) n).2 = n := by
  unfold SignedChannel.Closable at stuck
  unfold forceCloseFrom
  match state : ch.state with
  | .established s | .renewFinalized s =>
      rw [state] at stuck
      exact initiateUnilateralClose_stuck stuck
  | .settled s =>
      rw [state] at stuck
      exact closeSettledChannel_stuck state stuck
  | .settledOffered _ | .settledReceived _ | .settledAccepted _ | .settledConfirmed _
  | .renewOffered _ | .renewAccepted _ | .renewConfirmed _ | .closing _
  | .collaborativeCloseOffered _ => rfl

theorem forceCloseFrom_updating {otherwise : NodeHandler X E.toDescriptors Unit}
    (update : ch.state.updating = true) :
    forceCloseFrom X signer env ch isInitiator otherwise = otherwise := by
  unfold forceCloseFrom
  cases state : ch.state <;> first | rfl | (rw [state] at update; cases update)

theorem forceCloseChannelInternal_closes (accepts : ∀ tx, env.sendTransaction tx = .ok ())
    (closable : ch.SweptClosable X signer) :
    (forceCloseChannelInternal X signer env ch isInitiator n).1 = .ok () ∧
      ¬ (forceCloseChannelInternal X signer env ch isInitiator n).2.channel.Late now := by
  obtain ⟨before, back, closes⟩ := closable.closable
  have update := SignedChannelState.updating_of_timeout? closable.swept
  rw [forceCloseChannelInternal, forceCloseFrom_updating update, back]
  exact forceCloseFrom_closes accepts closes

theorem forceCloseChannelInternal_stuck (swept : ch.state.timeout?.isSome = true)
    (stuck : ¬ ch.SweptClosable X signer) :
    (forceCloseChannelInternal X signer env ch isInitiator n).2 = n := by
  rw [forceCloseChannelInternal,
    forceCloseFrom_updating (SignedChannelState.updating_of_timeout? swept), Handler.lift_bind]
  cases back : ch.rollBack with
  | error _ => rfl
  | ok before => exact forceCloseFrom_stuck fun closable => stuck ⟨swept, before, back, closable⟩

end ForceClose

section Checks
variable {timeout : SignedChannelState → Option ℕ} {K : SignedChannelState → Prop}

/-- While the sweeps go on, a channel that is late can be closed and is still to come. -/
def Within (X : ChannelCrypto) (signer : Signer) (now : ℕ) (K : SignedChannelState → Prop)
    (c : ChannelRecord X) : Prop :=
  ∀ ch, c = .signed ch → c.Late now → ch.SweptClosable X signer ∧ K ch.state

theorem checkTimedOut_within (timed : ∀ state t, timeout state = some t → state.timeout? = some t)
    (accepts : ∀ tx, env.sendTransaction tx = .ok ())
    (within : Within X signer env.unixTimeNow K n.channel) :
    (checkTimedOut X signer env timeout n).1 = .ok () ∧
      Within X signer env.unixTimeNow (fun state => K state ∧ timeout state = none)
        (checkTimedOut X signer env timeout n).2.channel := by
  unfold checkTimedOut
  match signed : n.channel with
  | .signed ch =>
      rw [signed] at within
      dsimp only
      split
      next out =>
        obtain ⟨t, given, past⟩ := (Option.any_eq_true _ _).mp out
        have deadline := SignedChannelState.deadline?_of_timeout? (timed _ _ given)
        obtain ⟨closable, -⟩ := within ch rfl ⟨ch, t, rfl, deadline, of_decide_eq_true past⟩
        obtain ⟨n', ran, settled⟩ : ∃ n', forceCloseChannelInternal X signer env ch true n =
            (.ok (), n') ∧ ¬ n'.channel.Late env.unixTimeNow := by
          obtain ⟨returned, settled⟩ := forceCloseChannelInternal_closes accepts closable
          exact ⟨_, Prod.ext returned rfl, settled⟩
        rw [logged, ran]
        exact ⟨rfl, fun _ _ late => absurd late settled⟩
      next waits =>
        refine ⟨rfl, fun ch' same late => ?_⟩
        rw [signed] at same late
        obtain ⟨closable, remains⟩ := within ch' same late
        refine ⟨closable, remains, ?_⟩
        obtain ⟨ch'', t, same', deadline, past⟩ := late
        cases same
        cases same'
        cases given : timeout ch.state with
        | none => rfl
        | some t' =>
            have deadline' := SignedChannelState.deadline?_of_timeout? (timed _ _ given)
            obtain rfl : t = t' := Option.some.inj (deadline.symm.trans deadline')
            rw [given] at waits
            exact absurd (decide_eq_true past) waits
  | .closed _ | .counterClosed _ | .collaborativelyClosed _ | .closedPunished _ _ =>
      exact ⟨rfl, fun ch same => absurd (signed.symm.trans same) nofun⟩

theorem checkTimedOut_getId (timed : ∀ state t, timeout state = some t → state.timeout? = some t) :
    (checkTimedOut X signer env timeout n).2.channel.getId = n.channel.getId := by
  have evolved : Evolves X signer env (fun _ => True) n (checkTimedOut X signer env timeout n).2 :=
    checkTimedOut_evolves timed fun _ _ _ _ _ => trivial
  exact evolved.getId

theorem checkTimedOut_stuck (timed : ∀ state t, timeout state = some t → state.timeout? = some t)
    (signed : n.channel = .signed ch) (stuck : ¬ ch.SweptClosable X signer) :
    (checkTimedOut X signer env timeout n).2 = n := by
  unfold checkTimedOut
  rw [signed]
  dsimp only
  split
  next out =>
    obtain ⟨t, given, -⟩ := (Option.any_eq_true _ _).mp out
    rw [logged_snd]
    exact forceCloseChannelInternal_stuck (by rw [timed _ _ given]; rfl) stuck
  next => rfl

theorem Evolves.within {may : SignedChannel X → Prop} {n' : Node X E.toDescriptors} {now : ℕ}
    (evolved : Evolves X signer env may n n') (within : Within X signer now K n.channel) :
    Within X signer now K n'.channel := by
  rcases evolved.settles now with same | settled
  · rw [same]
    exact within
  · exact fun _ _ late => absurd late settled

theorem checkClosingChannels_evolved :
    Evolves X signer env (fun _ => True) n (checkClosingChannels X signer env n).2 :=
  checkClosingChannels_evolves

theorem checkClosingChannels_waiting {t : ℕ} (signed : n.channel = .signed ch)
    (deadline : ch.state.deadline? = some t) : checkClosingChannels X signer env n = (.ok (), n) := by
  unfold checkClosingChannels
  rw [signed]
  dsimp only
  cases state : ch.state <;> first | rfl | (rw [state] at deadline; cases deadline)

/-- The transaction is looked up among those of one check, which may all be this one. -/
theorem processWatchedTx_evolves (watched : Transaction × ChannelInfo) :
    Evolves X signer { env with confirmedTxs := fun _ => [watched] } (fun _ => True) n
      (processWatchedTx X signer env watched n).2 := by
  unfold processWatchedTx
  match found : n.getSigned watched.2.channelId none with
  | .error _ => exact .refl
  | .ok ch =>
      obtain ⟨signed, id, -⟩ := getSigned_ok.mp found
      obtain ⟨tx, channelId, txType⟩ := watched
      obtain rfl : ch.channelId = channelId := id
      exact processSigned_evolves signed (List.mem_singleton.mpr rfl)

end Checks

end Node

namespace Hub
variable {X : ChannelCrypto} {signer : Signer} {E : SigningDescriptors}
  {env : Environment E.toDescriptors} {h : Hub X E.toDescriptors}
  {timeout : SignedChannelState → Option ℕ}

/-- No stored channel waits longer than its time-out. -/
def NoneLate {D : Descriptors} (now : ℕ) (h : Hub X D) : Prop := ∀ c ∈ h.channels, ¬ c.Late now

/-- Nothing is late, or the check comes to the time-outs and every late channel is swept and
can be closed from the state before. -/
def Sweepable (X : ChannelCrypto) (signer : Signer) {E : SigningDescriptors}
    (env : Environment E.toDescriptors) (h : Hub X E.toDescriptors) : Prop :=
  h.NoneLate env.unixTimeNow ∨
    (checkClosingChannels X signer env h).1 = .ok () ∧
      ∀ ch, .signed ch ∈ h.channels → (ChannelRecord.signed ch).Late env.unixTimeNow →
        ch.SweptClosable X signer

/-- No transaction of a late channel has been seen. -/
def Unseen {D : Descriptors} (env : Environment D) (h : Hub X D) : Prop :=
  ∀ m, ∀ w ∈ env.confirmedTxs m, ∀ c ∈ h.channels, c.Late env.unixTimeNow →
    c.getId ≠ w.2.channelId

section Settles

theorem checkTimedOut_within {K : SignedChannelState → Prop}
    (timed : ∀ state t, timeout state = some t → state.timeout? = some t)
    (accepts : ∀ tx, env.sendTransaction tx = .ok ())
    (within : ∀ c ∈ h.channels, Node.Within X signer env.unixTimeNow K c) :
    ∃ h', checkTimedOut X signer env timeout h = (.ok (), h') ∧
      ∀ c ∈ h'.channels,
        Node.Within X signer env.unixTimeNow (fun state => K state ∧ timeout state = none) c := by
  obtain ⟨returned, reached⟩ := eachChannel_records
    (fun n within => by
      obtain ⟨returned, reached⟩ := Node.checkTimedOut_within timed accepts within
      exact ⟨returned, reached, Node.checkTimedOut_getId timed⟩) h within
  exact ⟨_, Prod.ext returned rfl, reached⟩

theorem checkForTimedOutChannels_eq :
    checkForTimedOutChannels X signer env =
      Handler.forEach (checkTimedOut X signer env) SignedChannelState.sweeps := by
  simp only [SignedChannelState.sweeps, Handler.forEach, Handler.bind_pure_unit]
  rfl

theorem sweeps_within {sweeps : List (SignedChannelState → Option ℕ)}
    {K : SignedChannelState → Prop}
    (timed : ∀ f ∈ sweeps, ∀ state t, f state = some t → state.timeout? = some t)
    (accepts : ∀ tx, env.sendTransaction tx = .ok ())
    (within : ∀ c ∈ h.channels, Node.Within X signer env.unixTimeNow K c) :
    ∃ h', Handler.forEach (checkTimedOut X signer env) sweeps h = (.ok (), h') ∧
      ∀ c ∈ h'.channels, Node.Within X signer env.unixTimeNow
        (fun state => K state ∧ ∀ f ∈ sweeps, f state = none) c := by
  induction sweeps generalizing h K with
  | nil =>
      refine ⟨h, rfl, fun c stored ch same late => ?_⟩
      obtain ⟨closable, remains⟩ := within c stored ch same late
      exact ⟨closable, remains, nofun⟩
  | cons f rest ih =>
      obtain ⟨h₁, ran, within⟩ := checkTimedOut_within (timed f List.mem_cons_self) accepts within
      obtain ⟨h₂, ran', within⟩ := ih (fun g listed => timed g (List.mem_cons_of_mem f listed)) within
      refine ⟨h₂, ?_, fun c stored ch same late => ?_⟩
      · rw [Handler.forEach, Handler.bind_apply, ran]
        exact ran'
      · obtain ⟨closable, ⟨remains, unswept⟩, others⟩ := within c stored ch same late
        exact ⟨closable, remains, List.forall_mem_cons.mpr ⟨unswept, others⟩⟩

/-- After the six sweeps every state that may be closed has been swept. -/
theorem checkForTimedOutChannels_settles (accepts : ∀ tx, env.sendTransaction tx = .ok ())
    (within : ∀ c ∈ h.channels, Node.Within X signer env.unixTimeNow (fun _ => True) c) :
    ∃ h', checkForTimedOutChannels X signer env h = (.ok (), h') ∧
      h'.NoneLate env.unixTimeNow := by
  rw [checkForTimedOutChannels_eq]
  refine (sweeps_within (fun _ => SignedChannelState.sweeps_timed) accepts within).imp
    fun h' => And.imp_right fun within => ?_
  intro c stored late
  obtain ⟨ch, t, rfl, -⟩ := id late
  obtain ⟨closable, -, unswept⟩ := within _ stored ch rfl late
  obtain ⟨f, listed, swept⟩ := SignedChannelState.swept_of_timeout? closable.swept
  rw [unswept f listed] at swept
  cases swept

theorem checkForWatchedTx_settles :
    Handler.Keeps (KeepsAll fun c => ¬ c.Late env.unixTimeNow) (checkForWatchedTx X signer env) := by
  refine Handler.keeps_bind (Handler.keeps_read _) fun confirmedTxs => ?_
  refine Handler.keeps_bind (Handler.keeps_forEach fun w _ => ?_) fun _ =>
    Handler.keeps_modify fun _ all => all
  exact atId_keepsAll fun _ settled => (Node.processWatchedTx_evolves w).notLate settled

theorem checkForWatchedTx_noneLate (h : Hub X E.toDescriptors) (none : h.NoneLate env.unixTimeNow) :
    (checkForWatchedTx X signer env h).2.NoneLate env.unixTimeNow :=
  checkForWatchedTx_settles h none

theorem within_of_noneLate {K : SignedChannelState → Prop} (none : h.NoneLate env.unixTimeNow) :
    ∀ c ∈ h.channels, Node.Within X signer env.unixTimeNow K c :=
  fun c stored _ _ late => absurd late (none c stored)

theorem channelChecks_within (accepts : ∀ tx, env.sendTransaction tx = .ok ())
    (returned : (checkClosingChannels X signer env h).1 = .ok ())
    (within : ∀ c ∈ h.channels, Node.Within X signer env.unixTimeNow (fun _ => True) c) :
    (channelChecks X signer env h).2.NoneLate env.unixTimeNow := by
  have kept : ∀ c ∈ (checkClosingChannels X signer env h).2.channels,
      Node.Within X signer env.unixTimeNow (fun _ => True) c :=
    eachChannel_keepsAll (fun _ => Node.checkClosingChannels_evolved.within) h within
  obtain ⟨h₁, ran⟩ : ∃ h₁, checkClosingChannels X signer env h = (.ok (), h₁) :=
    ⟨_, Prod.ext returned rfl⟩
  rw [ran] at kept
  obtain ⟨h₂, swept, none⟩ := checkForTimedOutChannels_settles accepts kept
  rw [channelChecks, Handler.bind_apply, ran]
  dsimp only
  rw [Handler.bind_apply, swept]
  exact checkForWatchedTx_noneLate h₂ none

/-- A check that stops early makes no channel late. -/
theorem channelChecks_noneLate (accepts : ∀ tx, env.sendTransaction tx = .ok ())
    (none : h.NoneLate env.unixTimeNow) :
    (channelChecks X signer env h).2.NoneLate env.unixTimeNow := by
  have first : (checkClosingChannels X signer env h).2.NoneLate env.unixTimeNow :=
    eachChannel_keepsAll (fun _ => Node.checkClosingChannels_evolved.notLate) h none
  match ran : checkClosingChannels X signer env h with
  | (.ok _, h₁) => exact channelChecks_within accepts (by rw [ran]) (within_of_noneLate none)
  | (.error _, h₁) =>
      rw [channelChecks, Handler.bind_apply, ran]
      rw [ran] at first
      exact first

end Settles

/-! A late channel that cannot be closed. -/

section Stuck
variable {ch : SignedChannel X} {t : ℕ}

theorem checkClosingChannels_keeps (deadline : ch.state.deadline? = some t) :
    Handler.Keeps (KeepsRecord (.signed ch)) (checkClosingChannels X signer env) := by
  refine eachChannel_keepsRecord (fun n signed => ?_) fun _ => Node.checkClosingChannels_evolved.getId
  rw [Node.checkClosingChannels_waiting signed deadline]
  exact signed

theorem checkTimedOut_keeps
    (timed : ∀ state t, timeout state = some t → state.timeout? = some t)
    (stuck : ¬ ch.SweptClosable X signer) :
    Handler.Keeps (KeepsRecord (.signed ch)) (checkTimedOut X signer env timeout) := by
  refine eachChannel_keepsRecord (fun n signed => ?_) fun n => Node.checkTimedOut_getId timed
  rw [Node.checkTimedOut_stuck timed signed stuck]
  exact signed

theorem checkForTimedOutChannels_keeps (stuck : ¬ ch.SweptClosable X signer) :
    Handler.Keeps (KeepsRecord (.signed ch)) (checkForTimedOutChannels X signer env) := by
  rw [checkForTimedOutChannels_eq]
  exact Handler.keeps_forEach fun _ listed =>
    checkTimedOut_keeps (SignedChannelState.sweeps_timed listed) stuck

theorem checkForWatchedTx_keeps {c : ChannelRecord X}
    (unseen : ∀ m, ∀ w ∈ env.confirmedTxs m, c.getId ≠ w.2.channelId) :
    Handler.Keeps (KeepsRecord c) (checkForWatchedTx X signer env) := by
  intro h stored
  have processed : Handler.Keeps (KeepsRecord c) (do
      Handler.forEach (processWatchedTx X signer env) (env.confirmedTxs h.chainMonitor)
      Handler.modify fun h : Hub X E.toDescriptors =>
        { h with persistedChainMonitor := h.chainMonitor }) := by
    refine Handler.keeps_bind (Handler.keeps_forEach fun w seen => ?_) fun _ =>
      Handler.keeps_modify fun _ stored => stored
    exact atId_keepsRecord (unseen _ w seen) fun n => Node.processWatchedTx_evolves w |>.getId
  exact processed h stored

theorem channelChecks_stuck (deadline : ch.state.deadline? = some t)
    (stuck : ¬ ch.SweptClosable X signer)
    (unseen : ∀ m, ∀ w ∈ env.confirmedTxs m, ch.channelId ≠ w.2.channelId) :
    Handler.Keeps (KeepsRecord (.signed ch)) (channelChecks X signer env) :=
  Handler.keeps_bind (checkClosingChannels_keeps deadline) fun _ =>
    Handler.keeps_bind (checkForTimedOutChannels_keeps stuck) fun _ =>
      checkForWatchedTx_keeps unseen

end Stuck

/-- When every transaction is accepted, a check leaves no late channel if all late ones are
swept and can be closed from the state before, and only then unless a transaction of a late
channel has been seen. -/
theorem channelChecks_settles_iff (accepts : ∀ tx, env.sendTransaction tx = .ok ()) :
    (h.Sweepable X signer env → (channelChecks X signer env h).2.NoneLate env.unixTimeNow) ∧
      (h.Unseen env → (channelChecks X signer env h).2.NoneLate env.unixTimeNow →
        h.Sweepable X signer env) := by
  constructor
  · rintro (none | ⟨returned, closable⟩)
    · exact channelChecks_noneLate accepts none
    · refine channelChecks_within accepts returned fun c stored ch same late => ?_
      subst same
      exact ⟨closable ch stored late, trivial⟩
  · intro unseen settled
    by_cases none : h.NoneLate env.unixTimeNow
    · exact .inl none
    refine .inr ⟨?_, fun ch stored late => ?_⟩
    · match ran : checkClosingChannels X signer env h with
      | (.ok _, _) => rfl
      | (.error e, h₁) =>
          have stopped : channelChecks X signer env h = (.error e, h₁) := by
            rw [channelChecks, Handler.bind_apply, ran]
          refine absurd (fun c stored late => ?_) none
          obtain ⟨ch, t, rfl, deadline, past⟩ := late
          have kept : .signed ch ∈ (checkClosingChannels X signer env h).2.channels :=
            checkClosingChannels_keeps deadline h stored
          rw [ran] at kept
          rw [stopped] at settled
          exact settled _ kept ⟨ch, t, rfl, deadline, past⟩
    · by_contra stuck
      obtain ⟨_, t, same, deadline, past⟩ := id late
      cases same
      have kept := channelChecks_stuck deadline stuck
        (fun m w seen => unseen m w seen _ stored late) h stored
      exact settled _ kept late

end Hub

/-- A manager that has no other channel. -/
def Node.alone {X : ChannelCrypto} {D : Descriptors} (n : Node X D) : Hub X D where
  channels := [n.channel]
  keyed := List.nodup_singleton _
  contracts := n.contracts
  chainMonitor := n.chainMonitor
  persistedChainMonitor := n.persistedChainMonitor
  sent := n.sent

theorem Node.alone_waiting {X : ChannelCrypto} {signer : Signer} {E : SigningDescriptors}
    {env : Environment E.toDescriptors} {n : Node X E.toDescriptors} {ch : SignedChannel X} {t : ℕ}
    (signed : n.channel = .signed ch) (deadline : ch.state.deadline? = some t) :
    (Hub.checkClosingChannels X signer env n.alone).1 = .ok () := by
  have waits : Node.checkClosingChannels X signer env (n.alone.nodeOf n.channel) = (.ok (), n) :=
    Node.checkClosingChannels_waiting signed deadline
  have first : Hub.atRecord (Node.checkClosingChannels X signer env) n.channel n.alone =
      (.ok (), n.alone.put n) := by
    rw [Hub.atRecord, waits]
  show (Handler.andThen (Hub.atRecord (Node.checkClosingChannels X signer env) n.channel)
    (fun _ => pure ()) n.alone).1 = .ok ()
  rw [Handler.andThen, first]
  rfl

def sampleLateEnv : Environment channelSigning.toDescriptors :=
  { sampleChannelEnv with unixTimeNow := 200000 }

/-- The unanswered settle offer can be swept, and its channel closed from the state before. -/
def offeredCloses : Bool :=
  match sampleOffered.node.channel with
  | .signed ch => ch.state.timeout?.isSome && match ch.rollBack with
      | .ok before => match before.state with
          | .established s => (completeTx sampleChannelCrypto (sampleSigner 1) before
              s.bufferTransaction s.counterBufferAdaptorSignature).isOk
          | _ => false
      | .error _ => false
  | _ => false

/-- The channel of an unanswered settle offer is closed from the state before. -/
theorem unanswered_settle_offer_closed :
    (Hub.channelChecks sampleChannelCrypto (sampleSigner 1) sampleLateEnv
      sampleOffered.node.alone).2.NoneLate 200000 := by
  have closable : offeredCloses = true := by decide +kernel
  unfold offeredCloses at closable
  split at closable
  next ch signed =>
    obtain ⟨swept, closes⟩ := Bool.and_eq_true_iff.mp closable
    split at closes
    next before back =>
      split at closes
      next s state =>
        obtain ⟨tx, completed⟩ : ∃ tx, completeTx sampleChannelCrypto (sampleSigner 1) before
            s.bufferTransaction s.counterBufferAdaptorSignature = .ok tx := by
          cases made : completeTx sampleChannelCrypto (sampleSigner 1) before s.bufferTransaction
              s.counterBufferAdaptorSignature with
          | ok tx => exact ⟨tx, rfl⟩
          | error _ =>
              rw [made] at closes
              cases closes
        obtain ⟨t, timeout⟩ := Option.isSome_iff_exists.mp swept
        refine (Hub.channelChecks_settles_iff fun _ => rfl).1 (.inr ⟨Node.alone_waiting signed
          (SignedChannelState.deadline?_of_timeout? timeout), ?_⟩)
        intro ch' stored late
        obtain rfl := Node.signed_unique signed (List.mem_singleton.mp stored).symm
        refine ⟨swept, before, back, ?_⟩
        rw [SignedChannel.Closable, state]
        exact ⟨tx, completed⟩
      next => cases closes
    next => cases closes
  next => cases closable

/-- The first party offers to close in common. -/
def sampleCloseOffered : SampleHistory :=
  sampleNext 1 (.call 77 (.offerCollaborativeClose 100000000)) (sampleStart 1)

def closeOfferLate : Bool :=
  match sampleCloseOffered.node.channel with
  | .signed ch => match ch.state with
      | .collaborativeCloseOffered s => decide (s.timeout < 200000)
      | _ => false
  | _ => false

/-- No check looks at the time-out of an offer to close in common. -/
theorem unanswered_close_offer_stays :
    (∃ turns, SampleRun 1 turns sampleCloseOffered) ∧
      (∀ tx, sampleLateEnv.sendTransaction tx = .ok ()) ∧
      ¬ (Hub.channelChecks sampleChannelCrypto (sampleSigner 1) sampleLateEnv
        sampleCloseOffered.node.alone).2.NoneLate sampleLateEnv.unixTimeNow := by
  have offered : closeOfferLate = true := by decide +kernel
  unfold closeOfferLate at offered
  refine ⟨⟨_, Run.nil.snoc (a := sampleTurn (.call 77 (.offerCollaborativeClose 100000000))) rfl⟩,
    fun _ => rfl, fun settled => ?_⟩
  split at offered
  next ch signed =>
    split at offered
    next s state =>
      have deadline : ch.state.deadline? = some s.timeout := by rw [state]; rfl
      have stored : .signed ch ∈ sampleCloseOffered.node.alone.channels :=
        List.mem_singleton.mpr signed.symm
      have stuck : ¬ ch.SweptClosable sampleChannelCrypto (sampleSigner 1) := by
        rintro ⟨swept, -⟩
        rw [state] at swept
        cases swept
      have unseen : ∀ m, ∀ w ∈ sampleLateEnv.confirmedTxs m, ch.channelId ≠ w.2.channelId :=
        fun m w seen => absurd seen List.not_mem_nil
      have kept := Hub.channelChecks_stuck deadline stuck unseen _ stored
      exact settled _ kept ⟨ch, s.timeout, rfl, deadline, of_decide_eq_true offered⟩
    next => cases offered
  next => cases offered

end P2PLending.Manager.Channels
