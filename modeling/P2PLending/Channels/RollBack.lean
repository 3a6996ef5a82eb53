import P2PLending.Channels.ClosingKept
import P2PLending.Channels.OfferRoles

/-! The state that an update keeps to go back to: it is one at rest, and a channel at rest
keeps none. Then no failing `expect` is reached. -/

namespace P2PLending.Manager.Channels
open Dlc Checked Relation

structure SignedChannel.RollsBack {X : ChannelCrypto} (ch : SignedChannel X) : Prop where
  updating : ch.state.updating = true → ∃ b, ch.rollBackState = some b ∧ b.atRest = true
  rest : ch.state.atRest = true → ch.rollBackState = none

namespace SignedChannel
variable {X : ChannelCrypto} {ch ch' : SignedChannel X}

theorem rollsBack_enter {state : SignedChannelState} (rest : ch.state.atRest = true)
    (leaves : state.atRest = false) : (ch.enter state).RollsBack where
  updating _ := ⟨ch.state, rfl, rest⟩
  rest stays := absurd stays (by rw [SignedChannel.enter, leaves]; exact nofun)

theorem rollsBack_of_rest (rest : ch.state.updating = false) (none : ch.rollBackState = none) :
    ch.RollsBack where
  updating update := absurd update (by rw [rest]; exact nofun)
  rest _ := none

/-- A channel that is neither updated nor at rest keeps what it likes. -/
theorem rollsBack_of_other (updating : ch.state.updating = false) (rest : ch.state.atRest = false) :
    ch.RollsBack where
  updating update := absurd update (by rw [updating]; exact nofun)
  rest stays := absurd stays (by rw [rest]; exact nofun)

/-- The next state of an update keeps the state to go back to. -/
theorem RollsBack.next (before : ch.RollsBack) (update : ch.state.updating = true)
    (kept : ch'.rollBackState = ch.rollBackState) (leaves : ch'.state.atRest = false) :
    ch'.RollsBack where
  updating _ := kept ▸ before.updating update
  rest stays := absurd stays (by rw [leaves]; exact nofun)

theorem RollsBack.back (before : ch.RollsBack) (update : ch.state.updating = true)
    (back : ch.rollBack = .ok ch') : ch'.RollsBack := by
  obtain ⟨b, kept, rest⟩ := before.updating update
  obtain ⟨state, same, rfl⟩ := rollBack_ok back
  obtain rfl : b = state := Option.some.inj (kept.symm.trans same)
  refine rollsBack_of_rest ?_ rfl
  cases b <;> first | rfl | cases rest

theorem RollsBack.unrolled (before : ch.RollsBack) (none : ch.rollBackState = none) :
    ch.state.updating = false := by
  by_contra update
  obtain ⟨b, kept, -⟩ := before.updating (by simpa using update)
  rw [none] at kept
  cases kept

end SignedChannel

/-- No `expect` of a state to go back to fails, and a force close goes back at most once. -/
structure SignedChannel.MeetsExpects {X : ChannelCrypto} (signer : Signer) {E : SigningDescriptors}
    (ch : SignedChannel X) : Prop where
  forceClose : ch.state.updating = true → ch.rollBack ≠ noRollBackState
  once : ∀ (env : Environment E.toDescriptors) isInitiator otherwise,
    Node.forceCloseChannelInternal X signer env ch isInitiator =
      Node.forceCloseFrom X signer env ch isInitiator (do
        let before ← Handler.lift ch.rollBack
        Node.forceCloseFrom X signer env before isInitiator otherwise)
  reject : onReject X ch ≠ noRollBackState
  rejectSettle : rejectSettleOffer X ch ≠ noRollBackState
  rejectRenew : rejectRenewOffer X ch ≠ noRollBackState
  renew : ch.state.updating = true → ∀ payout unexpected (n : Node X E.toDescriptors),
    (Node.renewedFrom X ch payout unexpected n).1 ≠ noRollBackState

theorem Store.getInState_err {D : Descriptors} {α : Type} {store : Store D} {state : String}
    {pick : Contract D → Option α} {id : ContractId} {peer : Option PublicKey} {fault : Fault Error}
    (h : store.getInState state pick id peer = .error fault) : ∃ e, fault = .err e := by
  unfold Store.getInState at h
  split at h
  next => exact ⟨_, (Except.error.inj h).symm⟩
  next =>
    split at h
    next => exact ⟨_, (Except.error.inj h).symm⟩
    next =>
      split at h
      next => cases h
      next => exact ⟨_, (Except.error.inj h).symm⟩

section Expects
variable {X : ChannelCrypto} {signer : Signer} {E : SigningDescriptors} {ch : SignedChannel X}

theorem RollsBack.rollBack (before : ch.RollsBack) (update : ch.state.updating = true) :
    ∃ b, ch.rollBackState = some b ∧ b.atRest = true ∧
      ch.rollBack = .ok { ch with state := b, rollBackState := none } := by
  obtain ⟨b, kept, rest⟩ := before.updating update
  exact ⟨b, kept, rest, by rw [SignedChannel.rollBack, kept]⟩

/-- A channel at rest needs no state to go back to. -/
theorem forceCloseFrom_rest {env : Environment E.toDescriptors} {isInitiator : Bool}
    {otherwise otherwise' : NodeHandler X E.toDescriptors Unit} (rest : ch.state.atRest = true) :
    Node.forceCloseFrom X signer env ch isInitiator otherwise =
      Node.forceCloseFrom X signer env ch isInitiator otherwise' := by
  unfold Node.forceCloseFrom
  cases state : ch.state <;> first | rfl | (rw [state] at rest; cases rest)

theorem forceClose_once (before : ch.RollsBack) (env : Environment E.toDescriptors)
    (isInitiator : Bool) (otherwise : NodeHandler X E.toDescriptors Unit) :
    Node.forceCloseChannelInternal X signer env ch isInitiator =
      Node.forceCloseFrom X signer env ch isInitiator (do
        let before ← Handler.lift ch.rollBack
        Node.forceCloseFrom X signer env before isInitiator otherwise) := by
  by_cases update : ch.state.updating = true
  · obtain ⟨b, kept, rest, back⟩ := RollsBack.rollBack before update
    rw [Node.forceCloseChannelInternal, back]
    have same : ∀ otherwise', (do
        let before ← Handler.lift (.ok { ch with state := b, rollBackState := none })
        Node.forceCloseFrom X signer env before isInitiator otherwise' :
          NodeHandler X E.toDescriptors Unit) =
        Node.forceCloseFrom X signer env { ch with state := b, rollBackState := none } isInitiator
          otherwise' := fun _ => rfl
    have rests : ({ ch with state := b, rollBackState := none } : SignedChannel X).state.atRest =
        true := rest
    rw [same, same, forceCloseFrom_rest rests]
  · unfold Node.forceCloseChannelInternal Node.forceCloseFrom
    cases state : ch.state <;> first | rfl | (rw [state] at update; exact absurd rfl update)

theorem error_ne_panic {α : Type} (e : Error) :
    (.error (.err e) : Result α) ≠ noRollBackState := by
  rw [noRollBackState]
  simp

theorem ok_ne_panic {α : Type} (a : α) : (.ok a : Result α) ≠ noRollBackState := nofun

/-- The own payout is not computed. -/
theorem getCollaborativelyClosedContract_err {n n' : Node X E.toDescriptors} {contractId : ContractId}
    {payout : ℕ} {fault : Fault Error}
    (h : getCollaborativelyClosedContract contractId payout true n = (.error fault, n')) :
    ∃ e, fault = .err e := by
  rw [getCollaborativelyClosedContract, Handler.read_bind] at h
  cases found : n.contracts.getConfirmed contractId none with
  | ok contract =>
      rw [found] at h
      cases h
  | error e =>
      rw [found] at h
      obtain ⟨e, rfl⟩ := Store.getInState_err found
      exact ⟨e, (Except.error.inj (Prod.mk.inj h).1).symm⟩

theorem renewedFrom_met {n : Node X E.toDescriptors} {b : SignedChannelState} {payout : ℕ}
    {unexpected : String} (kept : ch.rollBackState = some b) :
    (Node.renewedFrom X ch payout unexpected n).1 ≠ noRollBackState := by
  unfold Node.renewedFrom
  rw [kept]
  match b with
  | .established s =>
      dsimp only
      rw [Handler.bind_apply]
      match ran : getCollaborativelyClosedContract s.signedContractId payout true n with
      | (.ok contract, _) => exact ok_ne_panic _
      | (.error fault, _) =>
          obtain ⟨e, rfl⟩ := getCollaborativelyClosedContract_err ran
          exact error_ne_panic e
  | .settled _ => exact ok_ne_panic _
  | .settledOffered _ | .settledReceived _ | .settledAccepted _ | .settledConfirmed _
  | .renewOffered _ | .renewAccepted _ | .renewConfirmed _ | .renewFinalized _ | .closing _
  | .collaborativeCloseOffered _ => exact error_ne_panic _

theorem SignedChannel.RollsBack.meetsExpects (before : ch.RollsBack) :
    ch.MeetsExpects signer (E := E) where
  forceClose update := by
    obtain ⟨b, -, -, back⟩ := RollsBack.rollBack before update
    rw [back]
    exact ok_ne_panic _
  once := forceClose_once before
  reject := by
    unfold onReject
    split
    next => exact ok_ne_panic _
    next => exact ok_ne_panic _
    next s state =>
      split
      next =>
        obtain ⟨b, -, -, back⟩ := RollsBack.rollBack before (by rw [state]; rfl)
        rw [back]
        exact ok_ne_panic _
      next => exact error_ne_panic _
    next s state =>
      obtain ⟨b, -, -, back⟩ := RollsBack.rollBack before (by rw [state]; rfl)
      rw [back]
      exact ok_ne_panic _
    next => exact error_ne_panic _
  rejectSettle := by
    unfold rejectSettleOffer
    split
    next s state =>
      obtain ⟨b, -, -, back⟩ := RollsBack.rollBack before (by rw [state]; rfl)
      rw [back]
      exact ok_ne_panic _
    next => exact error_ne_panic _
  rejectRenew := by
    unfold rejectRenewOffer
    split
    next s state =>
      obtain ⟨b, -, -, back⟩ := RollsBack.rollBack before (by rw [state]; rfl)
      by_cases own : s.isOffer = false
      · rw [ensure, if_pos own, ok_bind, back]
        exact ok_ne_panic _
      · rw [ensure, if_neg own]
        exact error_ne_panic _
    next => exact error_ne_panic _
  renew update payout unexpected n := by
    obtain ⟨b, kept, -⟩ := before.updating update
    exact renewedFrom_met kept

end Expects

namespace Node
variable {X : ChannelCrypto} {signer : Signer} {E : SigningDescriptors} {W : Wire E.toDescriptors}
  {A : Type} {env : Environment E.toDescriptors} {may : SignedChannel X → Prop}
  {n n' : Node X E.toDescriptors} {out : Option (DlcMessage W.ContractInfo)}

def RollsBack (n : Node X E.toDescriptors) : Prop := ∀ ch, n.channel = .signed ch → ch.RollsBack

theorem RollsBack.of_channel (before : n.RollsBack) (same : n'.channel = n.channel) :
    n'.RollsBack := fun ch signed => before ch (same ▸ signed)

theorem Closed.rollsBack (closed : n.Closed) : n.RollsBack := fun ch signed => absurd signed (closed ch)

/-- The moves that leave `RenewFinalized` and that offer to close need a closer look. -/
theorem Moves.keepsRollBack (moved : Moves X signer W n out n') (before : n.RollsBack)
    (revoked : ∀ ch s, n.channel = .signed ch → ch.state = .renewFinalized s → out = none →
      n'.RollsBack)
    (received : ∀ ch, n.channel = .signed ch → ch.rollBackState = none → out = none →
      ch.state.atRest = true ∨ n'.RollsBack)
    (offered : ∀ ch msg, n.channel = .signed ch → out = some (.collaborativeCloseOffer msg) →
      ch.state.atRest = true) : n'.RollsBack := by
  cases moved with
  | renewed signed state => exact revoked _ _ signed state rfl
  | closeReceived signed unrolled =>
      rcases received _ signed unrolled rfl with rest | kept
      · rintro ch' ⟨⟩
        exact SignedChannel.rollsBack_enter rest rfl
      · exact kept
  | closeOffered signed =>
      rintro ch' ⟨⟩
      exact SignedChannel.rollsBack_enter (offered _ _ signed rfl) rfl
  | rests | refuses => exact before
  | settleOffered signed state | settleReceived signed state =>
      rintro ch' ⟨⟩
      exact SignedChannel.rollsBack_enter (by rw [state]; rfl) rfl
  | renewOffered signed state | renewReceived signed state =>
      rintro ch' ⟨⟩
      rcases state with ⟨s, state⟩ | ⟨s, state⟩ <;>
        exact SignedChannel.rollsBack_enter (by rw [state]; rfl) rfl
  | settleAccepted signed state | settleConfirmed signed state | renewAccepted signed state
  | renewConfirmed signed state =>
      rintro ch' ⟨⟩
      exact (before _ signed).next (by rw [state]; rfl) rfl rfl
  | renewFinalized =>
      rintro ch' ⟨⟩
      exact SignedChannel.rollsBack_of_other rfl rfl
  | settleFinalized | settled | renewRevoked =>
      rintro ch' ⟨⟩
      exact SignedChannel.rollsBack_of_rest rfl rfl
  | rollsBack signed state back =>
      rintro ch' ⟨⟩
      refine (before _ signed).back ?_ back
      rcases state with ⟨s, state⟩ | ⟨s, state⟩ | ⟨s, state⟩ <;> rw [state] <;> rfl
  | closeAccepted =>
      rintro ch' ⟨⟩

theorem Ticks.keepsRollBack (tick : Ticks X signer env may n n') (before : n.RollsBack) :
    n'.RollsBack := by
  cases tick with
  | sendsCet | sendsPunishment | attempts | cleans | persists => exact before
  | closing | bufferSeen =>
      rintro ch' ⟨⟩
      exact SignedChannel.rollsBack_of_other rfl rfl
  | settledClosed | finalized | cetSeen =>
      exact fun ch' signed' => absurd signed' (closedRecord_unsigned ch')
  | punished | collaborative | settleSeen => rintro ch' ⟨⟩

theorem Evolves.keepsRollBack (evolved : Evolves X signer env may n n') (before : n.RollsBack) :
    n'.RollsBack := by
  induction evolved with
  | refl => exact before
  | tail _ tick ih => exact tick.keepsRollBack ih

theorem acceptCollaborativeClose_closed {channelId : ChannelId} {u : Unit}
    (h : acceptCollaborativeClose X signer env channelId n = (.ok u, n')) : n'.Closed := by
  simp only [acceptCollaborativeClose, Handler.bind_ok, getSignedChannel_ok, Handler.lift_ok,
    broadcast_ok, upsertChannel_none_ok] at h
  obtain ⟨ch, _, -, _, _, -, ⟨_, record⟩, _, ⟨accepts, -⟩, _, _, -, _, _, rfl, updates⟩ := h
  obtain ⟨-, rfl⟩ := acceptCollaborativeCloseOffer_ok accepts
  rcases updateClosed_ok updates with ⟨-, rfl⟩ | ⟨_, _, -, -, rfl⟩
  · intro ch signed
    cases signed
  · intro ch signed
    cases signed

/-- Every call is answered with a message, but for those that close the channel. -/
theorem onCall_silent {channelId : ChannelId} {call : Call E.toDescriptors A}
    (updates : call ≠ .forceCloseChannel)
    (h : onCall X signer W env channelId call n = (.ok none, n')) : n'.Closed := by
  cases call <;> simp only [onCall, Handler.bind_ok, Handler.pure_ok, reduceCtorEq, false_and,
    and_false, exists_false] at h
  case acceptCollaborativeClose =>
    obtain ⟨_, _, called, -, rfl⟩ := h
    exact acceptCollaborativeClose_closed called
  case forceCloseChannel => exact absurd rfl updates

end Node

namespace History
variable {X : ChannelCrypto} {signer : Signer} {E : SigningDescriptors} {W : Wire E.toDescriptors}
  {A : Type} {h h' : History X E.toDescriptors W.ContractInfo}

/-- A turn in which no renewal ends with the secret of the offerer, and nobody offers to
close a channel that is not at rest. -/
structure Orderly (h : History X E.toDescriptors W.ContractInfo)
    (turn : Turn E.toDescriptors A W.ContractInfo) : Prop where
  unrevoked : ∀ peer m ch s, turn.event = .message peer (.renewRevoke m) →
    h.node.channel = .signed ch → ch.state ≠ .renewFinalized s
  received : ∀ peer m ch, turn.event = .message peer (.collaborativeCloseOffer m) →
    h.node.channel = .signed ch → ch.TakesClose peer m → ch.state.atRest = true
  offered : ∀ channelId payout ch, turn.event = .call channelId (.offerCollaborativeClose payout) →
    h.node.channel = .signed ch → ch.state.atRest = true

/-- Every other message is for a channel at rest or in an update. -/
theorem Orderly.expects {peer : PublicKey} {m : DlcMessage W.ContractInfo} {env : Environment _}
    {ch : SignedChannel X} (orderly : h.Orderly (A := A) ⟨env, .message peer m⟩)
    (signed : h.node.channel = .signed ch) (expected : m.Expects peer ch) :
    ch.state.atRest = true ∨ ch.state.updating = true := by
  cases m with
  | collaborativeCloseOffer m => exact .inl (orderly.received peer m ch rfl signed expected)
  | renewRevoke m =>
      rw [DlcMessage.Expects] at expected
      cases state : ch.state with
      | renewFinalized s => exact absurd state (orderly.unrevoked peer m ch s rfl signed)
      | _ =>
          rw [state] at expected
          cases expected
  | settleOffer | renewOffer => exact .inl expected
  | settleAccept | settleConfirm | settleFinalize | renewAccept | renewConfirm | renewFinalize
  | reject =>
      rw [DlcMessage.Expects] at expected
      cases state : ch.state <;> rw [state] at expected <;>
        first | exact .inl rfl | exact .inr rfl | cases expected

theorem Step.keepsRollBack {turn : Turn E.toDescriptors A W.ContractInfo}
    (step : Step X signer W h turn h') (orderly : h.Orderly turn) (before : h.node.RollsBack) :
    h'.node.RollsBack := by
  obtain rfl : h' = h.next X signer W turn := step
  have before : Node.RollsBack { h.node with sent := [] } := before
  obtain ⟨env, event⟩ := turn
  rw [next, ran]
  cases event with
  | message peer m =>
      dsimp only
      cases ran : Node.onDlcMessage X signer W env peer m { h.node with sent := [] } with
      | mk answer n' =>
          cases answer with
          | error e =>
              rw [Node.onEvent, ran]
              exact before.of_channel (Node.onDlcMessage_fails _ _ _ ran).channel
          | ok out =>
              rw [Node.onEvent, ran]
              rcases Node.onDlcMessage_expects ran with rfl | ⟨ch, signed, expected⟩
              · exact before
              · have quiet := orderly.expects signed expected
                refine (Node.onDlcMessage_moves ran).keepsRollBack before ?_ ?_ ?_
                · intro ch' s signed' state _
                  obtain rfl := Node.signed_unique signed signed'
                  rw [state] at quiet
                  rcases quiet with quiet | quiet <;> cases quiet
                · intro ch' signed' unrolled _
                  obtain rfl := Node.signed_unique signed signed'
                  rw [(before _ signed).unrolled unrolled] at quiet
                  exact .inl (quiet.resolve_right Bool.false_ne_true)
                · rintro ch' msg signed' rfl
                  have handled : Node.onEvent X signer W env
                      (.message peer m : Event E.toDescriptors A W.ContractInfo)
                      { h.node with sent := [] } = (.ok (some (.collaborativeCloseOffer msg)), n') := ran
                  obtain ⟨_, _, other⟩ := Node.onEvent_answers handled
                  cases other
  | call channelId call =>
      by_cases closes : call = .forceCloseChannel
      · subst closes
        obtain ⟨-, same⟩ := Node.then_none (M := DlcMessage W.ContractInfo)
          (Node.forceCloseChannel X signer env channelId) { h.node with sent := [] }
        have evolved : Node.Evolves X signer env (fun _ => True) { h.node with sent := [] }
            (Node.forceCloseChannel X signer env channelId { h.node with sent := [] }).2 :=
          Node.forceCloseChannel_evolves fun _ _ => trivial
        rw [Node.onEvent, Node.onCall, same]
        exact evolved.keepsRollBack before
      · dsimp only
        cases ran : Node.onCall X signer W env channelId call { h.node with sent := [] } with
        | mk answer n' =>
            rw [Node.onEvent, ran]
            rcases answer with e | _ | msg
            · exact before.of_channel (Node.onCall_fails closes _ _ _ ran).channel
            · exact (Node.onCall_silent closes ran).rollsBack
            · refine (Node.onCall_moves closes ran).keepsRollBack before
                (fun _ _ _ _ silent => absurd silent (Option.some_ne_none msg))
                (fun _ _ _ silent => absurd silent (Option.some_ne_none msg)) ?_
              rintro ch' msg' signed' said
              cases said
              have handled : Node.onEvent X signer W env (.call channelId call)
                  { h.node with sent := [] } = (.ok (some (.collaborativeCloseOffer msg')), n') :=
                ran
              obtain ⟨id, payout, offers⟩ := Node.onEvent_answers handled
              exact orderly.offered id payout ch' offers signed'
  | channelChecks =>
      obtain ⟨-, same⟩ := Node.then_none (M := DlcMessage W.ContractInfo)
        (Node.channelChecks X signer env) { h.node with sent := [] }
      have evolved : Node.Evolves X signer env (fun _ => True) { h.node with sent := [] }
          (Node.channelChecks X signer env { h.node with sent := [] }).2 :=
        Node.channelChecks_evolves fun _ _ _ _ _ => trivial
      rw [Node.onEvent, same]
      exact evolved.keepsRollBack before
  | periodicChainMonitor blocks =>
      obtain ⟨-, same⟩ := Node.then_none (M := DlcMessage W.ContractInfo)
        (Node.periodicChainMonitor X blocks) { h.node with sent := [] }
      obtain ⟨m, -, processed⟩ := Node.periodicChainMonitor_follows blocks { h.node with sent := [] }
      rw [Node.onEvent, same, processed]
      exact before
  | restart => exact before

/-- Through orderly turns every state keeps the right one to go back to, and no `expect`
of one fails. -/
theorem roll_back_kept {turns : List (Turn E.toDescriptors A W.ContractInfo)}
    (before : h.node.RollsBack) (run : Run (guarded (Step X signer W) Orderly) h turns h') :
    ∀ ch, h'.node.channel = .signed ch → ch.RollsBack ∧ ch.MeetsExpects signer (E := E) := by
  have kept : h'.node.RollsBack := run.invariant (fun h => h.node.RollsBack) before
    fun _ _ _ before step => step.2.keepsRollBack step.1 before
  exact fun ch signed => ⟨kept ch signed, (kept ch signed).meetsExpects⟩

end History

def sampleCloseCall : SampleEvent := .call 77 (.offerCollaborativeClose 50000000)

/-- One offer to close. -/
def sampleOffering : SampleHistory := sampleNext 1 sampleCloseCall (sampleStart 1)

/-- The second offer goes back to a state that is not at rest. -/
def secondOfferStuck : Bool :=
  match (sampleNext 1 sampleCloseCall sampleOffering).node.channel with
  | .signed ch => ch.state.updating && ch.rollBackState.any fun b => !b.atRest
  | _ => false

def secondOfferPanics : Bool :=
  match ((sampleNext 1 sampleCloseCall sampleOffering).ran sampleChannelCrypto
      (sampleSigner 1) sampleWire (sampleTurn (.call 77 .forceCloseChannel))).1 with
  | .error fault => decide (fault = .panic "to have a rollback state")
  | .ok _ => false

/-- A second offer to close keeps the first one to go back to, and the force close fails. -/
theorem second_offer_sticks :
    (∃ turns, SampleRun 1 turns (sampleNext 1 sampleCloseCall sampleOffering)) ∧
      (∃ ch, (sampleNext 1 sampleCloseCall sampleOffering).node.channel = .signed ch ∧
        ¬ ch.RollsBack) ∧
      ((sampleNext 1 sampleCloseCall sampleOffering).ran sampleChannelCrypto (sampleSigner 1)
        sampleWire (sampleTurn (.call 77 .forceCloseChannel))).1 = noRollBackState := by
  have stuck : secondOfferStuck = true := by decide +kernel
  have panics : secondOfferPanics = true := by decide +kernel
  unfold secondOfferStuck at stuck
  unfold secondOfferPanics at panics
  refine ⟨⟨_, (Run.nil.snoc (a := sampleTurn sampleCloseCall) rfl).snoc
    (a := sampleTurn sampleCloseCall) rfl⟩, ?_, ?_⟩
  · split at stuck
    next ch signed =>
      refine ⟨ch, signed, fun kept => ?_⟩
      obtain ⟨updating, busy⟩ := Bool.and_eq_true_iff.mp stuck
      obtain ⟨b, before, rest⟩ := kept.updating updating
      rw [before, Option.any_some, rest] at busy
      cases busy
    next => cases stuck
  · split at panics
    next fault failed => rw [failed, of_decide_eq_true panics, noRollBackState]
    next => cases panics

def offeringSigned : Bool :=
  match sampleOffering.node.channel with
  | .signed _ => true
  | _ => false

/-- After one offer the channel can still be closed by force. -/
theorem first_offer_kept : ∃ ch, sampleOffering.node.channel = .signed ch ∧ ch.RollsBack ∧
    ch.MeetsExpects (sampleSigner 1) (E := channelSigning) := by
  have offering : offeringSigned = true := by decide +kernel
  unfold offeringSigned at offering
  split at offering
  next ch signed =>
    refine ⟨ch, signed, ?_⟩
    have before : (sampleStart 1).node.RollsBack := by
      rintro ch ⟨⟩
      exact SignedChannel.rollsBack_of_rest rfl rfl
    refine History.roll_back_kept (A := Unit) before (Run.nil.snoc (a := sampleTurn sampleCloseCall)
      ⟨⟨?_, ?_, ?_⟩, rfl⟩) ch signed
    · rintro peer m ch s ⟨⟩
    · rintro peer m ch ⟨⟩
    · rintro id payout ch ⟨⟩ ⟨⟩
      rfl
  next => cases offering

end P2PLending.Manager.Channels
