import P2PLending.Channels.ChannelFaults
import Mathlib.Logic.Relation

/-! What closing a channel and checking it do to a node, whether they succeed or not:
a chain of ticks, each of which leaves the records in order. -/

namespace P2PLending.Manager.Channels
open Dlc Checked Relation

namespace SignedChannelState

/-- The time-out of a state of an update, where the checks look at it. -/
def timeout? : SignedChannelState → Option ℕ
  | renewOffered s => some s.timeout
  | renewAccepted s => some s.timeout
  | renewConfirmed s => some s.timeout
  | settledOffered s => some s.timeout
  | settledAccepted s => some s.timeout
  | settledConfirmed s => some s.timeout
  | _ => none

/-- The same time-outs, each for the sweep that looks at it. -/
def sweeps : List (SignedChannelState → Option ℕ) :=
  [fun | renewOffered s => some s.timeout | _ => none,
    fun | renewAccepted s => some s.timeout | _ => none,
    fun | renewConfirmed s => some s.timeout | _ => none,
    fun | settledOffered s => some s.timeout | _ => none,
    fun | settledAccepted s => some s.timeout | _ => none,
    fun | settledConfirmed s => some s.timeout | _ => none]

theorem sweeps_timed {timeout : SignedChannelState → Option ℕ} (listed : timeout ∈ sweeps)
    (state : SignedChannelState) (t : ℕ) (given : timeout state = some t) :
    state.timeout? = some t := by
  simp only [sweeps, List.mem_cons, List.not_mem_nil, or_false] at listed
  rcases listed with rfl | rfl | rfl | rfl | rfl | rfl <;>
    cases state <;> first | exact given | cases given

theorem swept_of_timeout? {state : SignedChannelState} (timed : state.timeout?.isSome = true) :
    ∃ timeout ∈ sweeps, (timeout state).isSome = true := by
  cases state <;> first
    | (simp [sweeps]; done)
    | cases timed

/-- The states that a force close leaves for the one before. -/
def updating : SignedChannelState → Bool
  | settledOffered _ | settledReceived _ | settledAccepted _ | settledConfirmed _ | renewOffered _
  | renewAccepted _ | renewConfirmed _ | collaborativeCloseOffered _ => true
  | _ => false

end SignedChannelState

namespace Node

section Ticks
variable (X : ChannelCrypto) (signer : Signer) {E : SigningDescriptors}
  (env : Environment E.toDescriptors)

/-- The buffer or settle transaction with which a party alone closes a channel at rest. -/
inductive ClosesWith (ch : SignedChannel X) : Sent → Prop
  | established {s closing} (state : ch.state = .established s)
      (completed : completeTx X signer ch s.bufferTransaction s.counterBufferAdaptorSignature =
        .ok closing) :
      ClosesWith ch (.buffer closing ch.ownPerUpdatePoint)
  | renewFinalized {s closing} (state : ch.state = .renewFinalized s)
      (completed : completeTx X signer ch s.bufferTransaction s.offerBufferAdaptorSignature =
        .ok closing) :
      ClosesWith ch (.buffer closing ch.ownPerUpdatePoint)
  | settled {s closing} (state : ch.state = .settled s)
      (completed : completeTx X signer ch s.settleTx s.counterSettleAdaptorSignature =
        .ok closing) :
      ClosesWith ch (.settle closing ch.ownPerUpdatePoint)

/-- The channel that a force close closes: this one, or the one before the update. -/
inductive ClosesFrom (ch : SignedChannel X) : SignedChannel X → Prop
  | rest : ClosesFrom ch ch
  | before {ch₀} (update : ch.state.updating = true) (back : ch.rollBack = .ok ch₀) :
      ClosesFrom ch ch₀

/-- The effects of closing and checking a channel, force closes being of channels that
may be. -/
inductive Ticks (may : SignedChannel X → Prop) (n : Node X E.toDescriptors) :
    Node X E.toDescriptors → Prop
  | sendsCet {ch s contract cet} (signed : n.channel = .signed ch) (state : ch.state = .closing s)
      (stored : n.contracts s.contractId = some (.confirmed contract))
      (cetOf : SignedCetOf contract cet) :
      Ticks may n { n with sent := n.sent ++ [.cet cet] }
  | sendsPunishment {ch tx idx sig isOffer kind punishment} (signed : n.channel = .signed ch)
      (watched : (tx, ⟨ch.channelId, .revoked idx sig isOffer kind⟩) ∈
        env.confirmedTxs n.chainMonitor)
      (made : punish X signer env ch tx idx sig isOffer kind = .ok punishment) :
      Ticks may n { n with sent := n.sent ++ [.punishment punishment] }
  | attempts {ch ch₀ b} (signed : n.channel = .signed ch) (allowed : may ch)
      (start : ClosesFrom X ch ch₀) (closes : ClosesWith X signer ch₀ b) :
      Ticks may n { n with sent := n.sent ++ [b] }
  | closing {ch ch₀ tx contractId isInitiator} (signed : n.channel = .signed ch)
      (allowed : may ch) (start : ClosesFrom X ch ch₀)
      (closes : ClosesWith X signer ch₀ (.buffer tx ch₀.ownPerUpdatePoint))
      (id : ch₀.state.contractId = some contractId) :
      Ticks may n
        { n with
          channel := .signed { ch₀ with
            state := .closing ⟨tx, contractId, isInitiator, ch₀.state.keysId⟩ }
          chainMonitor := n.chainMonitor.removeTx (tx.computeTxid X.toCrypto) }
  | settledClosed {ch ch₀ s} {isInitiator : Bool} (signed : n.channel = .signed ch)
      (allowed : may ch) (start : ClosesFrom X ch ch₀) (state : ch₀.state = .settled s) :
      Ticks may n
        { n with
          channel := if isInitiator then .closed ch₀.closedChannel
            else .counterClosed ch₀.closedChannel
          chainMonitor := n.chainMonitor.cleanupChannel ch₀.channelId }
  | finalized {ch s contracts} (signed : n.channel = .signed ch) (state : ch.state = .closing s)
      (confirmed : ∃ confirmations, cetNsequence ≤ confirmations ∧
        env.getTransactionConfirmations (s.bufferTransaction.computeTxid X.toCrypto) =
          .ok confirmations) :
      Ticks may n
        { n with
          channel := if s.isInitiator then .closed ch.closedChannel
            else .counterClosed ch.closedChannel
          contracts
          chainMonitor := n.chainMonitor.cleanupChannel ch.channelId }
  | bufferSeen {ch tx contractId} (signed : n.channel = .signed ch)
      (watched : (tx, ⟨ch.channelId, .bufferTx⟩) ∈ env.confirmedTxs n.chainMonitor)
      (id : ch.state.contractId = some contractId) :
      Ticks may n
        { n with channel := .signed (ch.enter (.closing ⟨tx, contractId, false, ch.state.keysId⟩)) }
  | punished {ch tx idx sig isOffer kind punishTxid} (signed : n.channel = .signed ch)
      (watched : (tx, ⟨ch.channelId, .revoked idx sig isOffer kind⟩) ∈
        env.confirmedTxs n.chainMonitor) :
      Ticks may n
        { n with
          channel := .closedPunished ch.closedChannel punishTxid
          chainMonitor := n.chainMonitor.cleanupChannel ch.channelId }
  | collaborative {ch tx contracts} (signed : n.channel = .signed ch)
      (watched : (tx, ⟨ch.channelId, .collaborativeClose⟩) ∈ env.confirmedTxs n.chainMonitor) :
      Ticks may n
        { n with
          channel := .collaborativelyClosed ch.closedChannel
          contracts
          chainMonitor := n.chainMonitor.cleanupChannel ch.channelId }
  | settleSeen {ch tx} (signed : n.channel = .signed ch)
      (watched : (tx, ⟨ch.channelId, .settleTx⟩) ∈ env.confirmedTxs n.chainMonitor) :
      Ticks may n
        { n with
          channel := .counterClosed ch.closedChannel
          chainMonitor := n.chainMonitor.cleanupChannel ch.channelId }
  | cetSeen {ch tx contracts} {isInitiator : Bool} (signed : n.channel = .signed ch)
      (watched : (tx, ⟨ch.channelId, .cet⟩) ∈ env.confirmedTxs n.chainMonitor) :
      Ticks may n
        { n with
          channel := if isInitiator then .closed ch.closedChannel
            else .counterClosed ch.closedChannel
          contracts
          chainMonitor := n.chainMonitor.cleanupChannel ch.channelId }
  | cleans {ch contractId contract fault} (signed : n.channel = .signed ch)
      (id : ch.state.contractId = some contractId)
      (stored : n.contracts contractId = some (.confirmed contract))
      (unknown : contract.acceptedContract.getContractId X.toCrypto = .error fault) :
      Ticks may n { n with chainMonitor := n.chainMonitor.cleanupChannel ch.channelId }
  | persists : Ticks may n { n with persistedChainMonitor := n.chainMonitor }

abbrev Evolves (may : SignedChannel X → Prop) :
    Node X E.toDescriptors → Node X E.toDescriptors → Prop :=
  ReflTransGen (Ticks X signer env may)

end Ticks

section ForceClose
variable {X : ChannelCrypto} {signer : Signer} {E : SigningDescriptors}
  {env : Environment E.toDescriptors} {may : SignedChannel X → Prop}
  {n : Node X E.toDescriptors} {ch ch₀ : SignedChannel X} {isInitiator : Bool}

theorem initiateUnilateralClose_evolves {tx : Transaction} {sig : AdaptorSignature}
    (signed : n.channel = .signed ch) (allowed : may ch) (start : ClosesFrom X ch ch₀)
    (closes : ∀ closing, completeTx X signer ch₀ tx sig = .ok closing →
      ClosesWith X signer ch₀ (.buffer closing ch₀.ownPerUpdatePoint)) :
    Evolves X signer env may n
      (initiateUnilateralCloseEstablishedChannel X signer env ch₀ isInitiator sig tx n).2 := by
  rw [initiateUnilateralCloseEstablishedChannel, Handler.lift_bind]
  match completed : Channels.initiateUnilateralCloseEstablishedChannel X signer ch₀ sig
      ch₀.state.keysId tx isInitiator with
  | .error e => exact .refl
  | .ok (ch', closing) =>
      obtain ⟨contractId, id, adapted, rfl⟩ := initiateUnilateralClose_ok completed
      have complete := closes closing adapted
      have sends : Evolves X signer env may n
          { n with sent := n.sent ++ [.buffer closing ch₀.ownPerUpdatePoint] } :=
        .single (.attempts signed allowed start complete)
      dsimp only
      rw [broadcast_bind]
      match env.sendTransaction closing with
      | .error e => exact sends
      | .ok u => exact (sends.tail (.closing signed allowed start complete id)).tail .persists

theorem closeSettledChannel_evolves {s : SignedChannelState.Settled}
    (signed : n.channel = .signed ch) (allowed : may ch) (start : ClosesFrom X ch ch₀)
    (state : ch₀.state = .settled s) :
    Evolves X signer env may n (closeSettledChannel X signer env ch₀ isInitiator n).2 := by
  rw [closeSettledChannel, Handler.lift_bind]
  match completed : Channels.closeSettledChannel X signer ch₀ isInitiator with
  | .error e => exact .refl
  | .ok (settleTx, closed) =>
      obtain ⟨s', settled, adapted, rfl⟩ := closeSettledChannel_ok completed
      have sends : Evolves X signer env may n
          { n with sent := n.sent ++ [.settle settleTx ch₀.ownPerUpdatePoint] } :=
        .single (.attempts signed allowed start (.settled settled adapted))
      dsimp only
      split
      next =>
        rw [broadcast_bind]
        match env.sendTransaction settleTx with
        | .error e => exact sends
        | .ok u => exact sends.tail (.settledClosed signed allowed start state)
      next => exact .single (.settledClosed signed allowed start state)

/-- Closing a channel at rest, or what comes instead. -/
theorem forceCloseFrom_evolves {otherwise : NodeHandler X E.toDescriptors Unit}
    (signed : n.channel = .signed ch) (allowed : may ch) (start : ClosesFrom X ch ch₀)
    (updates : ch₀.state.updating = true → Evolves X signer env may n (otherwise n).2) :
    Evolves X signer env may n (forceCloseFrom X signer env ch₀ isInitiator otherwise n).2 := by
  unfold forceCloseFrom
  match state : ch₀.state with
  | .established s =>
      exact initiateUnilateralClose_evolves signed allowed start fun _ completed =>
        .established state completed
  | .renewFinalized s =>
      exact initiateUnilateralClose_evolves signed allowed start fun _ completed =>
        .renewFinalized state completed
  | .settled s => exact closeSettledChannel_evolves signed allowed start state
  | .closing _ => exact .refl
  | .settledOffered _ | .settledReceived _ | .settledAccepted _ | .settledConfirmed _
  | .renewOffered _ | .renewAccepted _ | .renewConfirmed _ | .collaborativeCloseOffered _ =>
      exact updates (by rw [state]; rfl)

theorem forceCloseChannelInternal_evolves (signed : n.channel = .signed ch) (allowed : may ch) :
    Evolves X signer env may n (forceCloseChannelInternal X signer env ch isInitiator n).2 := by
  refine forceCloseFrom_evolves signed allowed .rest fun update => ?_
  rw [Handler.lift_bind]
  match back : ch.rollBack with
  | .error e => exact .refl
  | .ok before => exact forceCloseFrom_evolves signed allowed (.before update back) fun _ => .refl

theorem forceCloseChannel_evolves {channelId : ChannelId}
    (allowed : ∀ ch, n.channel = .signed ch → may ch) :
    Evolves X signer env may n (forceCloseChannel X signer env channelId n).2 := by
  rw [forceCloseChannel, getSignedChannel, Handler.read_bind]
  cases found : n.getSigned channelId none with
  | error e => exact .refl
  | ok ch =>
      have signed := (Node.getSigned_ok.mp found).1
      exact forceCloseChannelInternal_evolves signed (allowed ch signed)

end ForceClose

section Checks
variable {X : ChannelCrypto} {signer : Signer} {E : SigningDescriptors}
  {env : Environment E.toDescriptors} {may : SignedChannel X → Prop}
  {n n' : Node X E.toDescriptors} {ch : SignedChannel X}

theorem logged_snd (h : NodeHandler X E.toDescriptors Unit) (n : Node X E.toDescriptors) :
    (logged X h n).2 = (h n).2 := by
  unfold logged
  match h n with
  | (.ok _, _) | (.error (.err _), _) | (.error (.panic _), _) => rfl

/-- A channel whose update has timed out may be closed. -/
def TimedOutMay (env : Environment E.toDescriptors) (may : SignedChannel X → Prop)
    (n : Node X E.toDescriptors) : Prop :=
  ∀ ch t, n.channel = .signed ch → ch.state.timeout? = some t → t < env.unixTimeNow → may ch

theorem TimedOutMay.of_channel (allowed : TimedOutMay env may n)
    (same : n'.channel = n.channel) : TimedOutMay env may n' :=
  fun ch t signed => allowed ch t (same ▸ signed)

theorem TimedOutMay.of_unsigned (unsigned : ∀ ch, n'.channel ≠ .signed ch) :
    TimedOutMay env may n' := fun ch _ signed => absurd signed (unsigned ch)

theorem closedRecord_unsigned {isInitiator : Bool} {c : ClosedChannel} (ch : SignedChannel X) :
    (if isInitiator then ChannelRecord.closed c else .counterClosed c) ≠ .signed ch := by
  cases isInitiator <;> simp

/-- No tick starts an update. -/
theorem TimedOutMay.tick (allowed : TimedOutMay env may n) (tick : Ticks X signer env may n n') :
    TimedOutMay env may n' := by
  cases tick with
  | sendsCet | sendsPunishment | attempts | cleans | persists => exact allowed.of_channel rfl
  | closing | bufferSeen =>
      intro ch t signed timed
      cases signed
      cases timed
  | settledClosed | finalized | cetSeen => exact .of_unsigned fun ch => closedRecord_unsigned ch
  | punished | collaborative | settleSeen => exact .of_unsigned fun ch => by simp

theorem TimedOutMay.evolve (allowed : TimedOutMay env may n)
    (evolves : Evolves X signer env may n n') : TimedOutMay env may n' := by
  induction evolves with
  | refl => exact allowed
  | tail _ tick ih => exact ih.tick tick

theorem checkTimedOut_evolves {timeout : SignedChannelState → Option ℕ}
    (timed : ∀ state t, timeout state = some t → state.timeout? = some t)
    (allowed : TimedOutMay env may n) :
    Evolves X signer env may n (checkTimedOut X signer env timeout n).2 := by
  unfold checkTimedOut
  match signed : n.channel with
  | .signed ch =>
      dsimp only
      split
      next out =>
        rw [logged_snd]
        obtain ⟨t, given, past⟩ := (Option.any_eq_true _ _).mp out
        exact forceCloseChannelInternal_evolves signed
          (allowed ch t signed (timed _ t given) (of_decide_eq_true past))
      next => exact .refl
  | .closed _ | .counterClosed _ | .collaborativelyClosed _ | .closedPunished _ _ => exact .refl

/-- Time-outs after time-outs. -/
theorem evolves_bind {h : NodeHandler X E.toDescriptors Unit}
    {f : Unit → NodeHandler X E.toDescriptors Unit} (allowed : TimedOutMay env may n)
    (first : Evolves X signer env may n (h n).2)
    (next : ∀ n', TimedOutMay env may n' → Evolves X signer env may n' (f () n').2) :
    Evolves X signer env may n ((h >>= f) n).2 := by
  rw [Handler.bind_apply]
  match ran : h n with
  | (.ok _, n') =>
      rw [ran] at first
      exact first.trans (next n' (allowed.evolve first))
  | (.error _, n') =>
      rw [ran] at first
      exact first

theorem checkForTimedOutChannels_eq :
    checkForTimedOutChannels X signer env =
      Handler.forEach (checkTimedOut X signer env) SignedChannelState.sweeps := by
  simp only [SignedChannelState.sweeps, Handler.forEach, Handler.bind_pure_unit]
  rfl

theorem sweeps_evolve {sweeps : List (SignedChannelState → Option ℕ)}
    (timed : ∀ f ∈ sweeps, ∀ state t, f state = some t → state.timeout? = some t)
    (allowed : TimedOutMay env may n) :
    Evolves X signer env may n (Handler.forEach (checkTimedOut X signer env) sweeps n).2 := by
  induction sweeps generalizing n with
  | nil => exact .refl
  | cons f rest ih =>
      exact evolves_bind allowed (checkTimedOut_evolves (timed f List.mem_cons_self) allowed)
        fun _ allowed => ih (fun g listed => timed g (List.mem_cons_of_mem f listed)) allowed

theorem checkForTimedOutChannels_evolves (allowed : TimedOutMay env may n) :
    Evolves X signer env may n (checkForTimedOutChannels X signer env n).2 := by
  rw [checkForTimedOutChannels_eq]
  exact sweeps_evolve (fun _ => SignedChannelState.sweeps_timed) allowed

/-- The contract of a closing is closed or about to be, under its own id, and at most its
CET is sent. -/
theorem closeContract_result (contract : SignedContract E.toDescriptors) (cet : Transaction)
    (n : Node X E.toDescriptors) :
    ((closeContract X env contract cet n).2 = n ∨
      (closeContract X env contract cet n).2 = { n with sent := n.sent ++ [.cet cet] }) ∧
      ∀ c, (closeContract X env contract cet n).1 = .ok c →
        c.getId X.toCrypto = contract.acceptedContract.getContractId X.toCrypto := by
  rw [closeContract, Handler.lift_bind]
  match env.getTransactionConfirmations (cet.computeTxid X.toCrypto) with
  | .error e => exact ⟨.inl rfl, by simp⟩
  | .ok confirmations =>
      dsimp only
      split
      next =>
        rw [broadcast_bind]
        match env.sendTransaction cet with
        | .error e => exact ⟨.inr rfl, by simp⟩
        | .ok u =>
            refine ⟨.inr rfl, ?_⟩
            rintro c ⟨⟩
            rfl
      next =>
        split
        next =>
          refine ⟨.inl rfl, ?_⟩
          rintro c ⟨⟩
          rfl
        next =>
          rw [Handler.lift_bind]
          match computePnl contract.acceptedContract cet with
          | .error e => exact ⟨.inl rfl, by simp⟩
          | .ok pnl =>
              dsimp only
              rw [Handler.lift_bind]
              match known : contract.acceptedContract.getContractId X.toCrypto with
              | .error e => exact ⟨.inl rfl, by simp⟩
              | .ok id =>
                  refine ⟨.inl rfl, ?_⟩
                  rintro c ⟨⟩
                  rfl

/-- A closed channel is cleaned up before it is stored. -/
theorem cleanup_upsert (channelId : ChannelId) (closed : ChannelRecord X)
    (contract : Contract E.toDescriptors) (n : Node X E.toDescriptors) :
    ((cleanupChannel channelId >>= fun _ => upsertChannel closed (some contract)) n).2 =
      match n.contracts.updateContract X.toCrypto contract with
      | .ok contracts => { n with
          channel := closed
          contracts
          chainMonitor := n.chainMonitor.cleanupChannel channelId }
      | .error _ => { n with chainMonitor := n.chainMonitor.cleanupChannel channelId } := by
  have clean : (cleanupChannel channelId >>= fun _ => upsertChannel closed (some contract)) n =
      upsertChannel closed (some contract)
        { n with chainMonitor := n.chainMonitor.cleanupChannel channelId } := rfl
  rw [clean, upsertChannel_some]
  dsimp only
  cases n.contracts.updateContract X.toCrypto contract <;> rfl

theorem collaborativelyClosed_reads (ch : SignedChannel X) (own : Bool) :
    Handler.Keeps Eq (collaborativelyClosed X (E := E) ch own) := by
  unfold collaborativelyClosed
  split
  next =>
    refine Handler.keeps_bind (Handler.keeps_lift _) fun _ => ?_
    refine Handler.keeps_bind ?_ fun _ => Handler.keeps_pure _
    exact Handler.keeps_bind (Handler.keeps_read _) fun _ =>
      Handler.keeps_bind (Handler.keeps_lift _) fun _ => Handler.keeps_pure _
  next => exact Handler.keeps_pure _

theorem updateContract_error {contracts : Store E.toDescriptors} {contract : Contract E.toDescriptors}
    {fault : Fault Error} (h : contracts.updateContract X.toCrypto contract = .error fault) :
    contract.getId X.toCrypto = .error fault := by
  unfold Store.updateContract at h
  match known : contract.getId X.toCrypto with
  | .error e =>
      rw [known, error_bind] at h
      rw [Except.error.inj h]
  | .ok id =>
      rw [known, ok_bind] at h
      cases contract <;> cases h

theorem getConfirmed_ok {contracts : Store E.toDescriptors} {id : ContractId}
    {peer : Option PublicKey} {contract : SignedContract E.toDescriptors}
    (h : contracts.getConfirmed id peer = .ok contract) :
    contracts id = some (.confirmed contract) := by
  obtain ⟨c, stored, -, picked⟩ := Store.getInState_ok.mp h
  rw [stored, Contract.confirmed?_eq_some.mp picked]

/-- What follows the contract's close: the channel is closed with it, or only cleaned up. -/
theorem finalized_evolves {s : SignedChannelState.Closing} {contract : SignedContract E.toDescriptors}
    {cet : Transaction} {closes : NodeHandler X E.toDescriptors (Contract E.toDescriptors)}
    (signed : n.channel = .signed ch) (state : ch.state = .closing s)
    (confirmed : ∃ confirmations, cetNsequence ≤ confirmations ∧
      env.getTransactionConfirmations (s.bufferTransaction.computeTxid X.toCrypto) =
        .ok confirmations)
    (stored : n.contracts s.contractId = some (.confirmed contract))
    (cetOf : SignedCetOf contract cet)
    (sent : (closes n).2 = n ∨ (closes n).2 = { n with sent := n.sent ++ [.cet cet] })
    (ids : ∀ c, (closes n).1 = .ok c →
      c.getId X.toCrypto = contract.acceptedContract.getContractId X.toCrypto) :
    Evolves X signer env may n
      ((closes >>= fun closed => cleanupChannel ch.channelId >>= fun _ =>
        upsertChannel (if s.isInitiator then .closed ch.closedChannel
          else .counterClosed ch.closedChannel) (some closed)) n).2 := by
  have first : Evolves X signer env may n (closes n).2 := by
    rcases sent with same | sends
    · rw [same]
    · rw [sends]
      exact .single (.sendsCet signed state stored cetOf)
  have kept : (closes n).2.channel = .signed ch ∧
      (closes n).2.contracts s.contractId = some (.confirmed contract) := by
    rcases sent with same | sends
    · rw [same]
      exact ⟨signed, stored⟩
    · rw [sends]
      exact ⟨signed, stored⟩
  rw [Handler.bind_apply]
  match ran : closes n with
  | (.error _, n₁) =>
      rw [ran] at first
      exact first
  | (.ok c, n₁) =>
      rw [ran] at first kept ids
      dsimp only at first kept ids ⊢
      rw [cleanup_upsert]
      match updated : n₁.contracts.updateContract X.toCrypto c with
      | .ok contracts => exact first.tail (.finalized kept.1 state confirmed)
      | .error e =>
          have unknown := updateContract_error updated
          rw [ids c rfl] at unknown
          exact first.tail (.cleans kept.1 (by rw [state]; rfl) kept.2 unknown)

theorem tryFinalize_evolves (signed : n.channel = .signed ch) :
    Evolves X signer env may n
      (tryFinalizeClosingEstablishedChannel X signer env ch n).2 := by
  rw [tryFinalizeClosingEstablishedChannel, Handler.lift_bind]
  match state : ch.state with
  | .closing s =>
      dsimp only
      rw [Handler.lift_bind]
      match confirmed :
          env.getTransactionConfirmations (s.bufferTransaction.computeTxid X.toCrypto) with
      | .error e => exact .refl
      | .ok confirmations =>
          dsimp only
          split
          next deep =>
            rw [Handler.read_bind]
            match found : n.contracts.getConfirmed s.contractId none with
            | .error e => exact .refl
            | .ok contract =>
                dsimp only
                rw [Handler.lift_bind]
                match closableContractInfo env contract with
                | .error e => exact .refl
                | .ok (info, adaptorInfo, attestations) =>
                    dsimp only
                    rw [Handler.lift_bind]
                    match finalized : finalizeUnilateralCloseSettledChannel X signer ch contract info
                        attestations adaptorInfo s.isInitiator with
                    | .error e => exact .refl
                    | .ok (cet, closed) =>
                        obtain ⟨cetOf, rfl⟩ := finalizeUnilateralClose_ok finalized
                        obtain ⟨sent, ids⟩ := closeContract_result contract cet n
                        exact finalized_evolves signed state ⟨confirmations, deep, confirmed⟩
                          (getConfirmed_ok found) cetOf sent ids
          next => exact .refl
  | .established _ | .settledOffered _ | .settledReceived _ | .settledAccepted _
  | .settledConfirmed _ | .settled _ | .renewOffered _ | .renewAccepted _ | .renewConfirmed _
  | .renewFinalized _ | .collaborativeCloseOffered _ => exact .refl

theorem checkClosingChannels_evolves :
    Evolves X signer env may n (checkClosingChannels X signer env n).2 := by
  unfold checkClosingChannels
  match signed : n.channel with
  | .signed ch =>
      dsimp only
      match ch.state with
      | .closing _ =>
          rw [logged_snd]
          exact tryFinalize_evolves signed
      | .established _ | .settledOffered _ | .settledReceived _ | .settledAccepted _
      | .settledConfirmed _ | .settled _ | .renewOffered _ | .renewAccepted _ | .renewConfirmed _
      | .renewFinalized _ | .collaborativeCloseOffered _ => exact .refl
  | .closed _ | .counterClosed _ | .collaborativelyClosed _ | .closedPunished _ _ => exact .refl

section Watched
variable {tx : Transaction}

theorem onBufferTx_evolves (signed : n.channel = .signed ch)
    (watched : (tx, ⟨ch.channelId, .bufferTx⟩) ∈ env.confirmedTxs n.chainMonitor) :
    Evolves X signer env may n (onBufferTx X ch tx n).2 := by
  rw [onBufferTx, Handler.lift_bind]
  match id : ch.state.contractId with
  | none => exact .refl
  | some contractId => exact .single (.bufferSeen signed watched id)

theorem onRevoked_evolves {idx : ℕ} {sig : AdaptorSignature} {isOffer : Bool} {kind : RevokedTxType}
    (signed : n.channel = .signed ch)
    (watched : (tx, ⟨ch.channelId, .revoked idx sig isOffer kind⟩) ∈
      env.confirmedTxs n.chainMonitor) :
    Evolves X signer env may n (onRevoked X signer env ch tx idx sig isOffer kind n).2 := by
  rw [onRevoked, Handler.lift_bind]
  match made : punish X signer env ch tx idx sig isOffer kind with
  | .error e => exact .refl
  | .ok signedTx =>
      have sends : Evolves X signer env may n
          { n with sent := n.sent ++ [.punishment signedTx] } :=
        .single (.sendsPunishment signed watched made)
      dsimp only
      rw [broadcast_bind]
      match env.sendTransaction signedTx with
      | .error e => exact sends
      | .ok u => exact (sends.tail (.punished signed watched)).tail .persists

theorem onCollaborativeClose_evolves (signed : n.channel = .signed ch)
    (watched : (tx, ⟨ch.channelId, .collaborativeClose⟩) ∈ env.confirmedTxs n.chainMonitor) :
    Evolves X signer env may n (onCollaborativeClose X ch n).2 := by
  have reads := collaborativelyClosed_reads (E := E) ch false n
  rw [onCollaborativeClose, Handler.bind_apply]
  match ran : collaborativelyClosed X ch false n with
  | (.error e, n₁) =>
      rw [ran] at reads
      obtain rfl : n = n₁ := reads
      exact .refl
  | (.ok closed, n₁) =>
      obtain ⟨rfl, which⟩ := collaborativelyClosed_ok ran
      have closes : ∀ contract, closed = some contract → ∃ c, contract = .closed c := by
        rintro contract rfl
        obtain ⟨-, c, -, same, -⟩ := which.resolve_left (by simp)
        exact ⟨c, Option.some.inj same⟩
      have stores : (updateClosed X closed n).1.isOk = true := updateClosed_never closes n
      dsimp only
      rw [Handler.bind_apply]
      match updated : updateClosed X closed n with
      | (.error e, n₂) =>
          rw [updated] at stores
          cases stores
      | (.ok u, n₂) =>
          have only : ∃ contracts, n₂ = { n with contracts } := by
            rcases updateClosed_ok updated with ⟨-, rfl⟩ | ⟨_, contracts, -, -, rfl⟩
            · exact ⟨_, rfl⟩
            · exact ⟨contracts, rfl⟩
          obtain ⟨contracts, rfl⟩ := only
          exact (ReflTransGen.single (.collaborative signed watched)).tail .persists

theorem onCet_evolves (signed : n.channel = .signed ch)
    (watched : (tx, ⟨ch.channelId, .cet⟩) ∈ env.confirmedTxs n.chainMonitor) :
    Evolves X signer env may n (onCet X ch tx n).2 := by
  unfold onCet
  have cleaned : ∀ f : Unit → NodeHandler X E.toDescriptors Unit,
      (cleanupChannel ch.channelId >>= f) n =
        f () { n with chainMonitor := n.chainMonitor.cleanupChannel ch.channelId } := fun _ => rfl
  dsimp only
  rw [cleaned, Handler.read_bind]
  dsimp only
  match found : (ch.state.contractId.bind n.contracts).bind Contract.confirmed? with
  | none => exact (ReflTransGen.single (.cetSeen signed watched)).tail .persists
  | some contract =>
      obtain ⟨c, inStore, confirmed⟩ := Option.bind_eq_some_iff.mp found
      obtain ⟨contractId, id, stored⟩ := Option.bind_eq_some_iff.mp inStore
      obtain rfl := Contract.confirmed?_eq_some.mp confirmed
      rw [Option.map_some, Handler.bind_apply, upsertChannel_some]
      match updated : n.contracts.updateContract X.toCrypto
          (.preClosed { signedContract := contract, signedCet := tx }) with
      | .ok contracts =>
          exact (ReflTransGen.single (.cetSeen signed watched)).tail .persists
      | .error e =>
          exact .single (.cleans signed id stored (updateContract_error updated))

theorem processSigned_evolves {txType : TxType} (signed : n.channel = .signed ch)
    (watched : (tx, ⟨ch.channelId, txType⟩) ∈ env.confirmedTxs n.chainMonitor) :
    Evolves X signer env may n (processSigned X signer env ch tx txType n).2 := by
  cases txType with
  | bufferTx => exact onBufferTx_evolves signed watched
  | revoked => exact onRevoked_evolves signed watched
  | collaborativeClose => exact onCollaborativeClose_evolves signed watched
  | settleTx => exact (ReflTransGen.single (.settleSeen signed watched)).tail .persists
  | cet => exact onCet_evolves signed watched

/-- As long as the channel is signed, processing leaves the monitor as it was. -/
theorem processSigned_still {txType : TxType} {u : Unit}
    (done : processSigned X signer env ch tx txType n = (.ok u, n')) :
    n'.chainMonitor = n.chainMonitor ∨ ∀ ch', n'.channel ≠ .signed ch' := by
  cases txType with
  | bufferTx =>
      simp only [processSigned, onBufferTx, Handler.bind_ok, Handler.lift_ok,
        upsertChannel_none_ok] at done
      obtain ⟨_, _, ⟨-, rfl⟩, rfl⟩ := done
      exact .inl rfl
  | revoked =>
      simp only [processSigned, onRevoked, Handler.bind_ok, Handler.lift_ok, broadcast_ok,
        cleanupChannel_ok, upsertChannel_none_ok, persistChainMonitor_ok] at done
      obtain ⟨_, _, ⟨-, rfl⟩, _, _, ⟨-, rfl⟩, _, _, rfl, _, _, rfl, rfl⟩ := done
      exact .inr fun ch' => by simp
  | collaborativeClose =>
      simp only [processSigned, onCollaborativeClose, Handler.bind_ok, cleanupChannel_ok,
        upsertChannel_none_ok, persistChainMonitor_ok] at done
      obtain ⟨_, _, -, _, _, -, _, _, rfl, _, _, rfl, rfl⟩ := done
      exact .inr fun ch' => by simp
  | settleTx =>
      simp only [processSigned, onSettleTx, Handler.bind_ok, cleanupChannel_ok,
        upsertChannel_none_ok, persistChainMonitor_ok] at done
      obtain ⟨_, _, rfl, _, _, rfl, rfl⟩ := done
      exact .inr fun ch' => by simp
  | cet =>
      simp only [processSigned, onCet, Handler.bind_ok, cleanupChannel_ok, Handler.read_ok,
        persistChainMonitor_ok] at done
      obtain ⟨_, _, rfl, _, _, ⟨-, rfl⟩, _, _, upserted, rfl⟩ := done
      have stored := upsertChannel_channel upserted
      exact .inr fun ch' => by
        rw [stored]
        exact closedRecord_unsigned ch'

theorem processWatchedTxs_evolves {watchedTxs : List (Transaction × ChannelInfo)}
    (watched : (∀ ch, n.channel ≠ .signed ch) ∨ ∀ w ∈ watchedTxs, w ∈ env.confirmedTxs n.chainMonitor) :
    Evolves X signer env may n (processWatchedTxs X signer env watchedTxs n).2 := by
  induction watchedTxs generalizing n with
  | nil => exact .refl
  | cons w rest ih =>
      rw [processWatchedTxs, Handler.bind_apply]
      unfold processWatchedTx
      match found : n.getSigned w.2.channelId none with
      | .error e =>
          exact ih (watched.imp_right fun all w' listed => all w' (List.mem_cons_of_mem _ listed))
      | .ok ch =>
          obtain ⟨signed, here, -⟩ := Node.getSigned_ok.mp found
          have all := watched.resolve_left fun unsigned => unsigned ch signed
          have confirmed : (w.1, ⟨ch.channelId, w.2.txType⟩) ∈ env.confirmedTxs n.chainMonitor := by
            rw [here]
            exact all w List.mem_cons_self
          have first : Evolves X signer env may n
              (processSigned X signer env ch w.1 w.2.txType n).2 :=
            processSigned_evolves signed confirmed
          dsimp only
          match ran : processSigned X signer env ch w.1 w.2.txType n with
          | (.error e, n') =>
              rw [ran] at first
              exact first
          | (.ok u, n') =>
              rw [ran] at first
              refine first.trans (ih ?_)
              rcases processSigned_still ran with same | unsigned
              · exact .inr fun w' listed => same ▸ all w' (List.mem_cons_of_mem _ listed)
              · exact .inl unsigned

theorem checkForWatchedTx_evolves :
    Evolves X signer env may n (checkForWatchedTx X signer env n).2 := by
  rw [checkForWatchedTx, Handler.read_bind]
  dsimp only
  rw [Handler.bind_apply]
  have first : Evolves X signer env may n
      (processWatchedTxs X signer env (env.confirmedTxs n.chainMonitor) n).2 :=
    processWatchedTxs_evolves (.inr fun _ listed => listed)
  match ran : processWatchedTxs X signer env (env.confirmedTxs n.chainMonitor) n with
  | (.error e, n') =>
      rw [ran] at first
      exact first
  | (.ok u, n') =>
      rw [ran] at first
      exact first.tail .persists

end Watched

theorem channelChecks_evolves (allowed : TimedOutMay env may n) :
    Evolves X signer env may n (channelChecks X signer env n).2 :=
  evolves_bind allowed checkClosingChannels_evolves fun _ allowed =>
    evolves_bind allowed (checkForTimedOutChannels_evolves allowed) fun _ _ =>
      checkForWatchedTx_evolves

end Checks

end Node

end P2PLending.Manager.Channels
