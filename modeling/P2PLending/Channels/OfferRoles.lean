import P2PLending.Channels.ChannelRuns

/-! Which signatures a node gives away, in answer to what, and in which role. -/

namespace P2PLending.Manager.Channels
open Dlc Checked Relation

/-- The messages that carry own signatures. -/
def DlcMessage.signs {M : Type} : DlcMessage M → Bool
  | .settleAccept _ | .settleConfirm _ | .renewAccept _ | .renewConfirm _ | .renewFinalize _
  | .collaborativeCloseOffer _ => true
  | _ => false

/-- The calls that make or accept an offer. -/
def Event.offers {D : Descriptors} {A M : Type} : Event D A M → Bool
  | .call _ (.settleOffer _) | .call _ .acceptSettleOffer | .call _ (.renewOffer ..)
  | .call _ .acceptRenewOffer | .call _ (.offerCollaborativeClose _)
  | .call _ .acceptCollaborativeClose => true
  | _ => false

/-- The event that a message answers. -/
def DlcMessage.Answers {D : Descriptors} {A M : Type} (event : Event D A M) : DlcMessage M → Prop
  | .settleOffer _ => ∃ id payout, event = .call id (.settleOffer payout)
  | .settleAccept _ => ∃ id, event = .call id .acceptSettleOffer
  | .settleConfirm _ => ∃ peer m, event = .message peer (.settleAccept m)
  | .settleFinalize _ => ∃ peer m, event = .message peer (.settleConfirm m)
  | .renewOffer _ => ∃ id payout input announcements,
      event = .call id (.renewOffer payout input announcements)
  | .renewAccept _ => ∃ id, event = .call id .acceptRenewOffer
  | .renewConfirm _ => ∃ peer m, event = .message peer (.renewAccept m)
  | .renewFinalize _ => ∃ peer m, event = .message peer (.renewConfirm m)
  | .renewRevoke _ => ∃ peer m, event = .message peer (.renewFinalize m)
  | .collaborativeCloseOffer _ => ∃ id payout, event = .call id (.offerCollaborativeClose payout)
  | .reject _ => True

namespace SignedChannelState

/-- The states in which the counterparty's answer brings an own signature. -/
def awaitsAnswer : SignedChannelState → Bool
  | settledOffered _ | renewAccepted _ => true
  | renewOffered s => s.isOffer
  | _ => false

/-- The buffer or settle transaction that the party has signed in a state. -/
def ownSigned : SignedChannelState → Option Transaction
  | established s => some s.bufferTransaction
  | settledAccepted s => some s.settleTx
  | settledConfirmed s => some s.settleTx
  | settled s => some s.settleTx
  | renewConfirmed s => some s.bufferTransaction
  | renewFinalized s => some s.bufferTransaction
  | _ => none

theorem atRest_awaits {state : SignedChannelState} (rest : state.atRest = true) :
    state.awaitsAnswer = false := by
  cases state <;> first | rfl | cases rest

end SignedChannelState

/-- Signed in the state of the channel or in the one to go back to. -/
def SignedChannel.OwnSigned {X : ChannelCrypto} (ch : SignedChannel X) (tx : Transaction) : Prop :=
  ch.state.ownSigned = some tx ∨ ∃ b, ch.rollBackState = some b ∧ b.ownSigned = some tx

section Answers
variable {X : ChannelCrypto} {signer : Signer} {E : SigningDescriptors} {W : Wire E.toDescriptors}
  {A : Type} {env : Environment E.toDescriptors} {n n' : Node X E.toDescriptors}

namespace Node

theorem onEvent_answers {event : Event E.toDescriptors A W.ContractInfo}
    {msg : DlcMessage W.ContractInfo}
    (ran : onEvent X signer W env event n = (.ok (some msg), n')) : msg.Answers event := by
  cases event with
  | message peer m =>
      cases m <;> simp only [onEvent, onDlcMessage, Handler.bind_ok, Handler.pure_ok,
        Option.some.injEq, Option.map_eq_some_iff, reduceCtorEq, false_and, and_false,
        exists_false] at ran
      case settleAccept m => obtain ⟨_, _, _, rfl, _⟩ := ran; exact ⟨peer, m, rfl⟩
      case settleConfirm m => obtain ⟨_, _, _, rfl, _⟩ := ran; exact ⟨peer, m, rfl⟩
      case renewAccept m => obtain ⟨_, _, _, rfl, _⟩ := ran; exact ⟨peer, m, rfl⟩
      case renewConfirm m => obtain ⟨_, _, _, rfl, _⟩ := ran; exact ⟨peer, m, rfl⟩
      case renewFinalize m => obtain ⟨_, _, _, rfl, _⟩ := ran; exact ⟨peer, m, rfl⟩
      case settleOffer m => obtain ⟨_, _, _, ⟨_, _, rfl⟩, _⟩ := ran; trivial
      case renewOffer m => obtain ⟨_, _, _, ⟨_, _, rfl⟩, _⟩ := ran; trivial
  | call id call =>
      cases call <;> simp only [onEvent, onCall, Handler.bind_ok, Handler.pure_ok,
        Option.some.injEq, reduceCtorEq, false_and, and_false, exists_false] at ran
      case settleOffer payout => obtain ⟨_, _, _, rfl, _⟩ := ran; exact ⟨id, payout, rfl⟩
      case acceptSettleOffer => obtain ⟨_, _, _, rfl, _⟩ := ran; exact ⟨id, rfl⟩
      case renewOffer => obtain ⟨_, _, _, rfl, _⟩ := ran; exact ⟨id, _, _, _, rfl⟩
      case acceptRenewOffer => obtain ⟨_, _, _, rfl, _⟩ := ran; exact ⟨id, rfl⟩
      case rejectRenewOffer => obtain ⟨_, _, _, rfl, _⟩ := ran; trivial
      case rejectSettleOffer => obtain ⟨_, _, _, rfl, _⟩ := ran; trivial
      case offerCollaborativeClose payout => obtain ⟨_, _, _, rfl, _⟩ := ran; exact ⟨id, payout, rfl⟩
  | channelChecks =>
      simp only [onEvent, Handler.bind_ok, Handler.pure_ok, reduceCtorEq, false_and, and_false,
        exists_false] at ran
  | periodicChainMonitor =>
      simp only [onEvent, Handler.bind_ok, Handler.pure_ok, reduceCtorEq, false_and, and_false,
        exists_false] at ran
  | restart =>
      simp only [onEvent, Handler.bind_ok, Handler.pure_ok, reduceCtorEq, false_and, and_false,
        exists_false] at ran

/-- A stage that broadcasts nothing. -/
def SameSent (n n' : Node X E.toDescriptors) : Prop := n'.sent = n.sent

instance : Std.Refl (SameSent (X := X) (E := E)) where
  refl _ := rfl

instance : IsTrans (Node X E.toDescriptors) SameSent where
  trans _ _ _ ab bc := Eq.trans bc ab

section Quiet
variable {α : Type}

theorem sameSent_onChainMonitor {h : Handler ChainMonitor (Fault Error) α} :
    Handler.Keeps (SameSent (X := X) (E := E)) (onChainMonitor h) := fun _ => rfl

theorem sameSent_upsertChannel {channel : ChannelRecord X} {contract : Option (Contract E.toDescriptors)} :
    Handler.Keeps SameSent (upsertChannel channel contract) :=
  Handler.keeps_bind (Handler.keeps_read _) fun _ => Handler.keeps_modify fun _ => rfl

theorem sameSent_closed {contractId : ContractId} {payout : ℕ} {own : Bool} :
    Handler.Keeps (SameSent (X := X) (E := E))
      (getCollaborativelyClosedContract contractId payout own) :=
  Handler.keeps_bind (Handler.keeps_read _) fun _ =>
    Handler.keeps_bind (Handler.keeps_lift _) fun _ => Handler.keeps_pure _

theorem sameSent_updateClosed {closed : Option (Contract E.toDescriptors)} :
    Handler.Keeps SameSent (updateClosed X closed) := by
  cases closed with
  | none => exact Handler.keeps_pure _
  | some contract =>
      exact Handler.keeps_bind (Handler.keeps_read _) fun _ => Handler.keeps_modify fun _ => rfl

theorem sameSent_renewedFrom {ch : SignedChannel X} {payout : ℕ} {unexpected : String} :
    Handler.Keeps SameSent (renewedFrom X (E := E) ch payout unexpected) := by
  unfold renewedFrom
  split
  next => exact Handler.keeps_lift _
  next => exact Handler.keeps_bind sameSent_closed fun _ => Handler.keeps_pure _
  next => exact Handler.keeps_pure _
  next => exact Handler.keeps_lift _

theorem sameSent_finishSettlement {ch : SignedChannel X} {b : SignedChannelState.Established}
    {payout : ℕ} : Handler.Keeps SameSent (finishSettlement X (E := E) ch b payout) :=
  Handler.keeps_bind sameSent_onChainMonitor fun _ =>
    Handler.keeps_bind sameSent_closed fun _ =>
      Handler.keeps_bind sameSent_upsertChannel fun _ => Handler.keeps_modify fun _ => rfl

theorem sameSent_get {id : ChannelId} {peer : Option PublicKey}
    {f : SignedChannel X → NodeHandler X E.toDescriptors α} (next : ∀ ch, Handler.Keeps SameSent (f ch)) :
    Handler.Keeps SameSent (getSignedChannel id peer >>= f) :=
  Handler.keeps_bind (Handler.keeps_read _) next

theorem sameSent_store {channel : ChannelRecord X} {contract : Option (Contract E.toDescriptors)}
    {f : Unit → NodeHandler X E.toDescriptors α} (next : ∀ u, Handler.Keeps SameSent (f u)) :
    Handler.Keeps SameSent (upsertChannel channel contract >>= f) :=
  Handler.keeps_bind sameSent_upsertChannel next

theorem sameSent_lift {β : Type} {r : Result β} {f : β → NodeHandler X E.toDescriptors α}
    (next : ∀ b, Handler.Keeps SameSent (f b)) : Handler.Keeps SameSent (Handler.lift r >>= f) :=
  Handler.keeps_bind (Handler.keeps_lift _) next

theorem sameSent_read {β : Type} {g : Node X E.toDescriptors → Result β}
    {f : β → NodeHandler X E.toDescriptors α} (next : ∀ b, Handler.Keeps SameSent (f b)) :
    Handler.Keeps SameSent (Handler.read g >>= f) :=
  Handler.keeps_bind (Handler.keeps_read _) next

theorem sameSent_done {β : Type} {h : NodeHandler X E.toDescriptors β} {f : β → α}
    (first : Handler.Keeps SameSent h) :
    Handler.Keeps SameSent (h >>= fun b => (pure (f b) : NodeHandler X E.toDescriptors α)) :=
  Handler.keeps_bind first fun _ => Handler.keeps_pure _

end Quiet

theorem onDlcMessage_sent {peer : PublicKey} {m : DlcMessage W.ContractInfo} :
    Handler.Keeps SameSent (onDlcMessage X signer W env peer m) := by
  cases m with
  | settleOffer m =>
      refine sameSent_done (sameSent_get fun ch => ?_)
      split
      · exact Handler.keeps_pure _
      · exact sameSent_lift fun _ => sameSent_store fun _ => Handler.keeps_pure _
  | settleAccept m =>
      refine sameSent_done (sameSent_get fun ch => ?_)
      exact Handler.keeps_bind sameSent_onChainMonitor fun _ => sameSent_done sameSent_upsertChannel
  | settleConfirm m =>
      refine sameSent_done (sameSent_get fun ch => sameSent_lift fun _ => sameSent_lift fun _ => ?_)
      exact sameSent_lift fun _ => sameSent_done sameSent_finishSettlement
  | settleFinalize m =>
      refine sameSent_done (sameSent_get fun ch => sameSent_lift fun _ => sameSent_lift fun _ => ?_)
      exact sameSent_lift fun _ => sameSent_finishSettlement
  | renewOffer m =>
      refine sameSent_done (sameSent_get fun ch => ?_)
      split
      · exact Handler.keeps_pure _
      · refine sameSent_lift fun _ => Handler.keeps_bind (Handler.keeps_modify fun _ => rfl) fun _ => ?_
        exact sameSent_store fun _ => Handler.keeps_pure _
  | renewAccept m =>
      refine sameSent_done (sameSent_get fun ch => sameSent_lift fun _ => sameSent_read fun _ => ?_)
      exact sameSent_lift fun _ => sameSent_done sameSent_upsertChannel
  | renewConfirm m =>
      refine sameSent_done (sameSent_get fun ch => sameSent_lift fun _ => sameSent_lift fun _ => ?_)
      refine Handler.keeps_bind sameSent_renewedFrom fun _ => sameSent_read fun _ => ?_
      refine Handler.keeps_bind sameSent_onChainMonitor fun _ => ?_
      refine Handler.keeps_bind sameSent_onChainMonitor fun _ => sameSent_store fun _ => ?_
      exact Handler.keeps_bind (Handler.keeps_modify fun _ => rfl) fun _ =>
        sameSent_done sameSent_updateClosed
  | renewFinalize m =>
      refine sameSent_done (sameSent_get fun ch => sameSent_lift fun _ => ?_)
      refine Handler.keeps_bind sameSent_renewedFrom fun _ => sameSent_lift fun _ => ?_
      refine Handler.keeps_bind sameSent_onChainMonitor fun _ => sameSent_lift fun _ => ?_
      refine Handler.keeps_bind sameSent_onChainMonitor fun _ => sameSent_store fun _ => ?_
      exact Handler.keeps_bind (Handler.keeps_modify fun _ => rfl) fun _ =>
        sameSent_done sameSent_updateClosed
  | renewRevoke m =>
      exact sameSent_done (sameSent_get fun ch => sameSent_lift fun _ => sameSent_upsertChannel)
  | collaborativeCloseOffer m =>
      exact sameSent_done (sameSent_get fun ch => sameSent_lift fun _ => sameSent_upsertChannel)
  | reject m =>
      refine sameSent_done (sameSent_read fun stored => ?_)
      cases stored with
      | none => exact Handler.keeps_pure _
      | some channel =>
          refine sameSent_lift fun _ => ?_
          cases channel with
          | signed ch =>
              have rejected : Handler.Keeps SameSent (rejectedContract X (E := E) ch) := by
                unfold rejectedContract
                split
                · exact sameSent_read fun _ => Handler.keeps_pure _
                · exact Handler.keeps_pure _
              exact Handler.keeps_bind rejected fun _ => sameSent_lift fun _ => sameSent_upsertChannel
          | closed | counterClosed | collaborativelyClosed | closedPunished =>
              exact Handler.keeps_lift _

/-- Of the calls about an update, only the acceptance of a close broadcasts. -/
theorem onCall_sent {id : ChannelId} {call : Call E.toDescriptors A}
    (updates : call ≠ .forceCloseChannel) (open' : call ≠ .acceptCollaborativeClose) :
    Handler.Keeps SameSent (onCall X signer W env id call) := by
  cases call with
  | settleOffer =>
      exact sameSent_done (sameSent_get fun _ => sameSent_lift fun _ =>
        sameSent_done sameSent_upsertChannel)
  | acceptSettleOffer =>
      refine sameSent_done (sameSent_get fun _ => ?_)
      exact Handler.keeps_bind sameSent_onChainMonitor fun _ => sameSent_done sameSent_upsertChannel
  | renewOffer =>
      exact sameSent_done (sameSent_get fun _ => sameSent_lift fun _ => sameSent_lift fun _ =>
        sameSent_done sameSent_upsertChannel)
  | acceptRenewOffer =>
      exact sameSent_done (sameSent_get fun _ => sameSent_lift fun _ => sameSent_read fun _ =>
        sameSent_lift fun _ => sameSent_done sameSent_upsertChannel)
  | rejectRenewOffer =>
      exact sameSent_done (sameSent_get fun _ => sameSent_lift fun _ => sameSent_read fun _ =>
        sameSent_lift fun _ => sameSent_done sameSent_upsertChannel)
  | rejectSettleOffer =>
      exact sameSent_done (sameSent_get fun _ => sameSent_lift fun _ =>
        sameSent_done sameSent_upsertChannel)
  | offerCollaborativeClose =>
      refine sameSent_done (sameSent_get fun _ => sameSent_lift fun _ => ?_)
      refine Handler.keeps_bind sameSent_onChainMonitor fun _ => sameSent_store fun _ => ?_
      exact sameSent_done (Handler.keeps_modify fun _ => rfl)
  | acceptCollaborativeClose => exact absurd rfl open'
  | forceCloseChannel => exact absurd rfl updates

end Node

end Answers

section Runs
variable {X : ChannelCrypto} {signer : Signer} {E : SigningDescriptors} {W : Wire E.toDescriptors}
  {A : Type} {env : Environment E.toDescriptors} {may : SignedChannel X → Prop}
  {n₁ n n' : Node X E.toDescriptors} {ch ch' : SignedChannel X} {out : Option (DlcMessage W.ContractInfo)}

/-- A transaction that the node had signed before, or a punishment. -/
def Sent.Harmless (n : Node X E.toDescriptors) : Sent → Prop
  | .buffer tx _ | .settle tx _ => ∃ ch unsigned witness, n.channel = .signed ch ∧
      ch.OwnSigned unsigned ∧ tx = unsigned.setWitness 0 witness
  | .cet tx => ∃ id contract, n.contracts id = some (.confirmed contract) ∧ SignedCetOf contract tx
  | .close _ => False
  | .punishment _ => True

/-- An output without a signature that the node had not made before. -/
def Output.Harmless {M : Type} (n : Node X E.toDescriptors) : Output M → Prop
  | .message m => m.signs = false
  | .broadcast b => b.Harmless n

namespace Turn
variable (turn : Turn E.toDescriptors A W.ContractInfo)
  (h : History X E.toDescriptors W.ContractInfo)

/-- A renewal offer that the party who made it also accepts. -/
def AnswersOwnRenewal : Prop :=
  (∃ peer m ch s, turn.event = .message peer (.renewAccept m) ∧ h.node.channel = .signed ch ∧
    ch.state = .renewOffered s ∧ s.isOffer = false) ∨
  ∃ id ch s, turn.event = .call id .acceptRenewOffer ∧ h.node.channel = .signed ch ∧
    ch.state = .renewOffered s ∧ s.isOffer = true

/-- Nobody makes or accepts an offer here, and the counterparty does not accept its own. -/
def Unsolicited : Prop := turn.event.offers = false ∧ ¬ turn.AnswersOwnRenewal h

end Turn

/-- An offer or an acceptance of the party that the counterparty may still answer. -/
def Node.AwaitsAnswer (n : Node X E.toDescriptors) : Prop :=
  ∃ ch, n.channel = .signed ch ∧ ch.state.awaitsAnswer = true

/-- Nothing is awaited, and whatever may be completed was signed at the start. -/
structure SignedChannel.Calm (n₁ n : Node X E.toDescriptors) (ch : SignedChannel X) : Prop where
  rested : ch.Rested
  idle : ch.state.awaitsAnswer = false
  signed : ∃ ch₁, n₁.channel = .signed ch₁ ∧ ∀ tx, ch.OwnSigned tx → ch₁.OwnSigned tx
  confirmed : ∀ id c, n.contracts id = some (.confirmed c) → n₁.contracts id = some (.confirmed c)

structure Node.CalmSince (n₁ n : Node X E.toDescriptors) : Prop where
  channel : ∀ ch, n.channel = .signed ch → ch.Calm n₁ n
  sent : ∀ b ∈ n.sent, b.Harmless n₁

namespace SignedChannel

theorem ownSigned_enter {state : SignedChannelState} (unsigned : state.ownSigned = none)
    {tx : Transaction} (signed : (ch.enter state).OwnSigned tx) : ch.OwnSigned tx := by
  rcases signed with here | ⟨b, kept, before⟩
  · cases unsigned.symm.trans here
  · cases kept
    exact .inl before

theorem ownSigned_back {tx : Transaction} (back : ch.rollBack = .ok ch')
    (signed : ch'.OwnSigned tx) : ch.OwnSigned tx := by
  obtain ⟨state, kept, rfl⟩ := rollBack_ok back
  rcases signed with here | ⟨b, gone, -⟩
  · exact .inr ⟨state, kept, here⟩
  · cases gone

/-- A calm channel stays calm in a state that signs nothing more. -/
theorem Calm.become (calm : ch.Calm n₁ n) (rested : ch'.Rested)
    (idle : ch'.state.awaitsAnswer = false) (less : ∀ tx, ch'.OwnSigned tx → ch.OwnSigned tx)
    (confirmed : ∀ id c, n'.contracts id = some (.confirmed c) →
      n.contracts id = some (.confirmed c)) : ch'.Calm n₁ n' := by
  obtain ⟨ch₁, start, signed⟩ := calm.signed
  exact ⟨rested, idle, ⟨ch₁, start, fun tx own => signed tx (less tx own)⟩,
    fun id c stored => calm.confirmed id c (confirmed id c stored)⟩

end SignedChannel

theorem confirmed_of_insert {contracts : Store E.toDescriptors} {id id' : ContractId}
    {contract : Contract E.toDescriptors} {c : SignedContract E.toDescriptors}
    (other : contract.confirmed? = none)
    (stored : contracts.insert id contract id' = some (.confirmed c)) :
    contracts id' = some (.confirmed c) := by
  rw [Store.insert, Function.update_apply] at stored
  split at stored
  · rw [Option.some.injEq] at stored
    rw [stored] at other
    cases other
  · exact stored

theorem confirmed_of_closesBefore {contracts contracts' : Store E.toDescriptors}
    (closes : Node.ClosesBefore X ch contracts contracts') {id : ContractId}
    {c : SignedContract E.toDescriptors} (stored : contracts' id = some (.confirmed c)) :
    contracts id = some (.confirmed c) := by
  rcases closes with ⟨rfl, -⟩ | ⟨b, closed, -, rfl⟩
  · exact stored
  · exact confirmed_of_insert rfl stored

/-- A completed transaction is the given one with a witness. -/
theorem completeTx_ok {tx completed : Transaction} {sig : AdaptorSignature}
    (h : completeTx X signer ch tx sig = .ok completed) :
    ∃ witness, completed = tx.setWitness 0 witness := by
  simp only [completeTx, bind_eq_ok, ofDlc_eq_ok] at h
  obtain ⟨_, -, _, -, _, -, _, -, signs⟩ := h
  exact ⟨_, (signMultiSigInput_ok signs).2⟩

namespace Node

theorem ClosesFrom.ownSigned {ch₀ : SignedChannel X} (start : ClosesFrom X ch ch₀)
    {tx : Transaction} (signed : ch₀.OwnSigned tx) : ch.OwnSigned tx := by
  cases start with
  | rest => exact signed
  | before _ back => exact SignedChannel.ownSigned_back back signed

theorem ClosesWith.harmless {ch₀ : SignedChannel X} {b : Sent} (calm : ch.Calm n₁ n)
    (start : ClosesFrom X ch ch₀) (closes : ClosesWith X signer ch₀ b) : b.Harmless n₁ := by
  obtain ⟨ch₁, first, signed⟩ := calm.signed
  cases closes with
  | established state completed | renewFinalized state completed | settled state completed =>
      obtain ⟨witness, made⟩ := completeTx_ok completed
      exact ⟨ch₁, _, witness, first, signed _ (start.ownSigned (.inl (by rw [state]; rfl))), made⟩

namespace CalmSince

theorem send (calm : CalmSince n₁ n) {b : Sent} (harmless : b.Harmless n₁) :
    CalmSince n₁ { n with sent := n.sent ++ [b] } where
  channel ch signed := (calm.channel ch signed).become (calm.channel ch signed).rested
    (calm.channel ch signed).idle (fun _ own => own) fun _ _ stored => stored
  sent b' among := by
    rcases List.mem_append.mp among with old | new
    · exact calm.sent b' old
    · rw [List.mem_singleton.mp new]
      exact harmless

theorem forget (calm : CalmSince n₁ n) : CalmSince n₁ { n with sent := [] } where
  channel ch signed := (calm.channel ch signed).become (calm.channel ch signed).rested
    (calm.channel ch signed).idle (fun _ own => own) fun _ _ stored => stored
  sent := by simp

/-- The chain monitors do not matter. -/
theorem watch (calm : CalmSince n₁ n) {m m' : ChainMonitor} :
    CalmSince n₁ { n with chainMonitor := m, persistedChainMonitor := m' } where
  channel ch signed := (calm.channel ch signed).become (calm.channel ch signed).rested
    (calm.channel ch signed).idle (fun _ own => own) fun _ _ stored => stored
  sent := calm.sent

theorem unsigned (calm : CalmSince n₁ n) {channel : ChannelRecord X}
    {contracts : Store E.toDescriptors} {m m' : ChainMonitor}
    (closed : ∀ ch, channel ≠ .signed ch) :
    CalmSince n₁ ⟨channel, contracts, m, m', n.sent⟩ where
  channel ch signed := absurd signed (closed ch)
  sent := calm.sent

theorem become (calm : CalmSince n₁ n) (signed : n.channel = .signed ch)
    {contracts : Store E.toDescriptors} {m m' : ChainMonitor} (rested : ch'.Rested)
    (idle : ch'.state.awaitsAnswer = false) (less : ∀ tx, ch'.OwnSigned tx → ch.OwnSigned tx)
    (confirmed : ∀ id c, contracts id = some (.confirmed c) →
      n.contracts id = some (.confirmed c)) :
    CalmSince n₁ ⟨.signed ch', contracts, m, m', n.sent⟩ where
  channel _ same := by
    cases same
    exact (calm.channel ch signed).become rested idle less confirmed
  sent := calm.sent

theorem tick (calm : CalmSince n₁ n) (tick : Ticks X signer env may n n') : CalmSince n₁ n' := by
  cases tick with
  | sendsCet signed state stored cetOf =>
      exact calm.send ⟨_, _, (calm.channel _ signed).confirmed _ _ stored, cetOf⟩
  | sendsPunishment => exact calm.send trivial
  | attempts signed allowed start closes =>
      exact calm.send (closes.harmless (calm.channel _ signed) start)
  | closing signed allowed start =>
      refine calm.become signed (fun update => by cases update) rfl ?_ fun _ _ stored => stored
      rintro tx (here | ⟨b, kept, before⟩)
      · cases here
      · exact start.ownSigned (.inr ⟨b, kept, before⟩)
  | bufferSeen signed =>
      exact calm.become signed (fun update => by cases update) rfl
        (fun _ own => SignedChannel.ownSigned_enter rfl own) fun _ _ stored => stored
  | settledClosed | finalized | cetSeen => exact calm.unsigned closedRecord_unsigned
  | punished | collaborative | settleSeen => exact calm.unsigned (by simp)
  | cleans | persists => exact calm.watch

theorem evolve (calm : CalmSince n₁ n) (evolved : Evolves X signer env may n n') :
    CalmSince n₁ n' := by
  induction evolved with
  | refl => exact calm
  | tail _ tick ih => exact ih.tick tick

/-- A move that answers nothing of the party's own. -/
theorem move (calm : CalmSince n₁ n) (moved : Moves X signer W n out n') (sent : n'.sent = n.sent)
    (quiet : ∀ msg, out = some msg → ∃ event : Event E.toDescriptors A W.ContractInfo,
      msg.Answers event ∧ event.offers = false)
    (received : ∀ ch s msg, n.channel = .signed ch → ch.state = .renewOffered s →
      out = some (.renewConfirm msg) → s.isOffer = true) :
    CalmSince n₁ n' ∧ ∀ msg, out = some msg → msg.signs = false := by
  cases moved with
  | rests => exact ⟨calm, by simp⟩
  | refuses => exact ⟨calm, by rintro _ ⟨⟩; rfl⟩
  | settleOffered | closeOffered =>
      obtain ⟨_, ⟨_, _, rfl⟩, silent⟩ := quiet _ rfl
      cases silent
  | renewOffered =>
      obtain ⟨_, ⟨_, _, _, _, rfl⟩, silent⟩ := quiet _ rfl
      cases silent
  | settleAccepted | renewAccepted =>
      obtain ⟨_, ⟨_, rfl⟩, silent⟩ := quiet _ rfl
      cases silent
  | settleConfirmed signed state | renewFinalized signed state =>
      have idle := (calm.channel _ signed).idle
      rw [state] at idle
      cases idle
  | renewConfirmed signed state =>
      have idle := (calm.channel _ signed).idle
      rw [state, SignedChannelState.awaitsAnswer, received _ _ _ signed state rfl] at idle
      cases idle
  | settleReceived signed state =>
      exact ⟨calm.become signed (rested_enter (by rw [state]; rfl)) rfl
        (fun _ own => SignedChannel.ownSigned_enter rfl own) fun _ _ stored => stored, by simp⟩
  | renewReceived signed state =>
      refine ⟨calm.become signed (rested_enter ?_) rfl
        (fun _ own => SignedChannel.ownSigned_enter rfl own)
        fun _ _ stored => confirmed_of_insert rfl stored, by simp⟩
      rcases state with ⟨s, state⟩ | ⟨s, state⟩ <;> rw [state] <;> rfl
  | settleFinalized signed state | settled signed state =>
      refine ⟨calm.become signed (rested_of_atRest rfl) rfl ?_
        fun _ _ stored => confirmed_of_insert rfl stored, ?_⟩
      · rintro tx (here | ⟨b, gone, -⟩)
        · exact .inl (by rw [state]; exact here)
        · cases gone
      · rintro msg ⟨⟩
        all_goals rfl
  | renewRevoked signed state renews revealed counterPoint provided positive closes =>
      refine ⟨calm.become signed (rested_of_atRest rfl) rfl ?_
        fun _ _ stored => confirmed_of_closesBefore closes stored, ?_⟩
      · rintro tx (here | ⟨b, gone, -⟩)
        · exact .inl (by rw [state]; exact here)
        · cases gone
      · rintro msg ⟨⟩
        rfl
  | renewed signed state =>
      refine ⟨calm.become signed (rested_of_atRest rfl) rfl ?_ fun _ _ stored => stored, by simp⟩
      rintro tx (here | before)
      · exact .inl (by rw [state]; exact here)
      · exact .inr before
  | rollsBack signed state back answer rejects =>
      have rest : _ = true := rollBack_atRest (calm.channel _ signed).rested
        (by rcases state with ⟨s, state⟩ | ⟨s, state⟩ | ⟨s, state⟩ <;> rw [state] <;> rfl) back
      refine ⟨calm.become signed (rested_of_atRest rest) (SignedChannelState.atRest_awaits rest)
        (fun _ own => SignedChannel.ownSigned_back back own) fun _ _ stored => ?_, ?_⟩
      · rcases rejects with rfl | ⟨s, offered, -, -, rfl⟩
        · exact stored
        · exact confirmed_of_insert rfl stored
      · rintro msg rfl
        rcases answer with none | said
        · cases none
        · cases said
          rfl
  | closeReceived signed =>
      exact ⟨calm.become signed (fun update => by cases update) rfl
        (fun _ own => SignedChannel.ownSigned_enter rfl own) fun _ _ stored => stored, by simp⟩
  | closeAccepted => simp at sent

/-- An event that nobody solicited, handled by moves that broadcast nothing. -/
theorem of_moves {event : Event E.toDescriptors A W.ContractInfo}
    (calm : CalmSince n₁ n) (silent : event.offers = false)
    (moves : ∀ out n', onEvent X signer W env event n = (.ok out, n') → Moves X signer W n out n')
    (fails : Handler.FailsIn SameRecords (onEvent X signer W env event))
    (sent : Handler.Keeps SameSent (onEvent X signer W env event))
    (received : ∀ ch s msg, n.channel = .signed ch → ch.state = .renewOffered s →
      (onEvent X signer W env event n).1 = .ok (some (.renewConfirm msg)) → s.isOffer = true) :
    CalmSince n₁ (onEvent X signer W env event n).2 ∧
      ∀ msg, answer (onEvent X signer W env event n).1 = some msg → msg.signs = false := by
  have same : (onEvent X signer W env event n).2.sent = n.sent := sent n
  match ran : onEvent X signer W env event n with
  | (.ok out, n') =>
      rw [ran] at same received
      refine calm.move (A := A) (moves out n' ran) same ?_ ?_
      · rintro msg rfl
        exact ⟨event, onEvent_answers ran, silent⟩
      · rintro ch s msg signed state rfl
        exact received ch s msg signed state rfl
  | (.error e, n') =>
      rw [ran] at same
      have records := fails n e n' ran
      refine ⟨⟨fun ch signed => ?_, ?_⟩, by simp [answer]⟩
      · have before := calm.channel ch (records.channel ▸ signed)
        exact ⟨before.rested, before.idle, before.signed, records.contracts ▸ before.confirmed⟩
      · rw [same]
        exact calm.sent

theorem turn {turn : Turn E.toDescriptors A W.ContractInfo}
    {h : History X E.toDescriptors W.ContractInfo} (calm : CalmSince n₁ { h.node with sent := [] })
    (unsolicited : turn.Unsolicited h) :
    CalmSince n₁ (h.ran X signer W turn).2 ∧
      ∀ msg, answer (h.ran X signer W turn).1 = some msg → msg.signs = false := by
  obtain ⟨env, event⟩ := turn
  obtain ⟨silent, foreign⟩ := unsolicited
  have received : ∀ ch s msg, h.node.channel = .signed ch → ch.state = .renewOffered s →
      (h.ran X signer W ⟨env, event⟩).1 = .ok (some (.renewConfirm msg)) → s.isOffer = true := by
    intro ch s msg signed state said
    obtain ⟨peer, m, rfl⟩ := onEvent_answers (Prod.ext said rfl)
    by_contra accepting
    exact foreign (.inl ⟨peer, m, ch, s, rfl, signed, state, by simpa using accepting⟩)
  cases event with
  | message peer m =>
      exact calm.of_moves silent (fun _ _ ran => onDlcMessage_moves ran) onDlcMessage_fails
        onDlcMessage_sent received
  | call id call =>
      by_cases closes : call = .forceCloseChannel
      · subst closes
        obtain ⟨none, same⟩ := then_none (M := DlcMessage W.ContractInfo)
          (forceCloseChannel X signer env id) { h.node with sent := [] }
        have evolved : Evolves X signer env (fun _ => True) { h.node with sent := [] }
            (forceCloseChannel X signer env id { h.node with sent := [] }).2 :=
          forceCloseChannel_evolves fun _ _ => trivial
        rw [History.ran, onEvent, onCall, none, same]
        exact ⟨calm.evolve evolved, by simp⟩
      · have open' : call ≠ .acceptCollaborativeClose := by
          rintro rfl
          cases silent
        exact calm.of_moves silent (fun _ _ ran => onCall_moves closes ran) (onCall_fails closes)
          (onCall_sent closes open') received
  | channelChecks =>
      obtain ⟨none, same⟩ := then_none (M := DlcMessage W.ContractInfo)
        (channelChecks X signer env) { h.node with sent := [] }
      have evolved : Evolves X signer env (fun _ => True) { h.node with sent := [] }
          (channelChecks X signer env { h.node with sent := [] }).2 :=
        channelChecks_evolves fun _ _ _ _ _ => trivial
      rw [History.ran, onEvent, none, same]
      exact ⟨calm.evolve evolved, by simp⟩
  | periodicChainMonitor blocks =>
      obtain ⟨none, same⟩ := then_none (M := DlcMessage W.ContractInfo)
        (periodicChainMonitor X blocks) { h.node with sent := [] }
      obtain ⟨m, -, processed⟩ := periodicChainMonitor_follows blocks { h.node with sent := [] }
      rw [History.ran, onEvent, none, same, processed]
      exact ⟨calm.watch, by simp⟩
  | restart => exact ⟨calm.watch, by rintro _ ⟨⟩⟩

end CalmSince

end Node

namespace History
variable {h₁ h h' : History X E.toDescriptors W.ContractInfo}

/-- What nobody solicited adds nothing but harmless outputs to the log. -/
theorem unsolicited_run {turns : List (Turn E.toDescriptors A W.ContractInfo)}
    (rested : h₁.node.Rested) (idle : ¬ h₁.node.AwaitsAnswer)
    (run : Run (guarded (Step X signer W) fun h turn => turn.Unsolicited h) h₁ turns h) :
    ∃ tail, h.log = h₁.log ++ tail ∧ ∀ o ∈ tail, o.Harmless h₁.node := by
  have start : Node.CalmSince h₁.node { h₁.node with sent := [] } := by
    refine ⟨fun ch signed => ⟨rested ch signed, ?_, ⟨ch, signed, fun _ own => own⟩,
      fun _ _ stored => stored⟩, by simp⟩
    by_contra awaits
    exact idle ⟨ch, signed, by simpa using awaits⟩
  have along : Node.CalmSince h₁.node { h.node with sent := [] } ∧
      ∃ tail, h.log = h₁.log ++ tail ∧ ∀ o ∈ tail, o.Harmless h₁.node := by
    refine run.invariant (fun h => Node.CalmSince h₁.node { h.node with sent := [] } ∧
      ∃ tail, h.log = h₁.log ++ tail ∧ ∀ o ∈ tail, o.Harmless h₁.node)
      ⟨start, [], by simp, by simp⟩ ?_
    rintro h turn _ ⟨calm, tail, log, harmless⟩ ⟨unsolicited, rfl⟩
    have turned : Node.CalmSince h₁.node (h.ran X signer W turn).2 ∧
        ∀ msg, answer (h.ran X signer W turn).1 = some msg → msg.signs = false :=
      calm.turn unsolicited
    obtain ⟨calm', silent⟩ := turned
    refine ⟨calm'.forget, tail ++ (h.ran X signer W turn).2.sent.map .broadcast ++
      (answer (h.ran X signer W turn).1).toList.map .message, ?_, ?_⟩
    · simp only [next, log, List.append_assoc]
    · intro o among
      simp only [List.mem_append, List.mem_map, Option.mem_toList] at among
      rcases among with (old | ⟨b, sent, rfl⟩) | ⟨msg, said, rfl⟩
      · exact harmless o old
      · exact calm'.sent b sent
      · exact silent msg said
  exact along.2

/-- The own message that brought a channel into its state is in the log. -/
def Said (log : List (Output W.ContractInfo)) (ch : SignedChannel X) : Prop :=
  match ch.state with
  | .settledOffered s =>
      .message (.settleOffer ⟨ch.channelId, s.counterPayout, s.nextPerUpdatePoint⟩) ∈ log
  | .renewOffered s => s.isOffer = true → ∃ offer, .message (.renewOffer offer) ∈ log ∧
      offer.temporaryContractId = s.offeredContractId ∧
      offer.nextPerUpdatePoint = s.offerNextPerUpdatePoint
  | .renewAccepted s => ∃ accept, .message (.renewAccept accept) ∈ log ∧
      accept.nextPerUpdatePoint = s.acceptPerUpdatePoint
  | _ => True

def Truthful (h : History X E.toDescriptors W.ContractInfo) : Prop :=
  ∀ ch, h.node.channel = .signed ch → Said (W := W) h.log ch

theorem Said.append {log : List (Output W.ContractInfo)} (said : Said log ch)
    (more : List (Output W.ContractInfo)) : Said (log ++ more) ch := by
  unfold Said at said ⊢
  split at said
  · exact List.mem_append_left _ said
  · intro own
    obtain ⟨offer, listed, same⟩ := said own
    exact ⟨offer, List.mem_append_left _ listed, same⟩
  · obtain ⟨accept, listed, same⟩ := said
    exact ⟨accept, List.mem_append_left _ listed, same⟩
  · trivial

theorem said_of_atRest {log : List (Output W.ContractInfo)} (rest : ch.state.atRest = true) :
    Said log ch := by
  unfold Said
  cases state : ch.state <;> rw [state] at rest <;> trivial

theorem moved_said {log : List (Output W.ContractInfo)} (moved : Node.Moves X signer W n out n')
    (rested : n.Rested) (before : ∀ ch, n.channel = .signed ch → Said log ch)
    (signed' : n'.channel = .signed ch') : Said (log ++ out.toList.map .message) ch' := by
  cases moved with
  | rests | refuses => exact (before ch' signed').append _
  | settleOffered =>
      cases signed'
      exact List.mem_append_right _ (List.mem_singleton_self _)
  | renewOffered signed state next id said =>
      cases signed'
      exact fun _ => ⟨_, List.mem_append_right _ (List.mem_singleton_self _), said.1, said.2⟩
  | renewAccepted signed state stored next built signs id said =>
      cases signed'
      exact ⟨_, List.mem_append_right _ (List.mem_singleton_self _), said⟩
  | renewReceived =>
      cases signed'
      exact fun own => by cases own
  | rollsBack signed state back =>
      cases signed'
      refine said_of_atRest (Node.rollBack_atRest (rested _ signed) ?_ back)
      rcases state with ⟨s, state⟩ | ⟨s, state⟩ | ⟨s, state⟩ <;> rw [state] <;> rfl
  | settleReceived | settleAccepted | settleConfirmed | settleFinalized | settled | renewConfirmed
  | renewFinalized | renewRevoked | renewed | closeReceived | closeOffered =>
      cases signed'
      trivial
  | closeAccepted => cases signed'

theorem Step.truthful {turn : Turn E.toDescriptors A W.ContractInfo}
    (step : Step X signer W h turn h') (rested : h.node.Rested) (before : Truthful h) :
    Truthful h' := by
  have free : ∀ ch, h.node.channel = .signed ch → turn.ForceCloses ch → True :=
    fun _ _ _ => trivial
  obtain ⟨out, n, -, turned, rfl⟩ := step.turns free
  intro ch signed
  cases turned with
  | moves moved => exact moved_said moved rested (fun ch signed => (before ch signed).append _) signed
  | fails same => exact ((before ch (same.channel ▸ signed)).append _).append _
  | evolves evolved =>
      rcases evolved.still with same | closing
      · exact ((before ch (same ▸ signed)).append _).append _
      · obtain ⟨s, state⟩ := closing ch signed
        unfold Said
        rw [state]
        trivial
  | follows | restarts => exact ((before ch signed).append _).append _

end History

/-- The state in which a party may give away its signatures, and its own message that
brought it there. -/
def DlcMessage.InRole (h : History X E.toDescriptors W.ContractInfo) :
    DlcMessage W.ContractInfo → Prop
  | .settleAccept _ => ∃ ch s, h.node.channel = .signed ch ∧ ch.state = .settledReceived s
  | .settleConfirm _ => ∃ ch s, h.node.channel = .signed ch ∧ ch.state = .settledOffered s ∧
      .message (.settleOffer ⟨ch.channelId, s.counterPayout, s.nextPerUpdatePoint⟩) ∈ h.log
  | .renewAccept _ => ∃ ch s, h.node.channel = .signed ch ∧ ch.state = .renewOffered s ∧
      s.isOffer = false
  | .renewConfirm _ => ∃ ch s offer, h.node.channel = .signed ch ∧ ch.state = .renewOffered s ∧
      s.isOffer = true ∧ .message (.renewOffer offer) ∈ h.log ∧
      offer.temporaryContractId = s.offeredContractId ∧
      offer.nextPerUpdatePoint = s.offerNextPerUpdatePoint
  | .renewFinalize _ => ∃ ch s accept, h.node.channel = .signed ch ∧
      ch.state = .renewAccepted s ∧ .message (.renewAccept accept) ∈ h.log ∧
      accept.nextPerUpdatePoint = s.acceptPerUpdatePoint
  | _ => True

namespace Node

theorem Ticks.no_close {tx : Transaction} (tick : Ticks X signer env may n n')
    (sent : .close tx ∈ n'.sent) : .close tx ∈ n.sent := by
  cases tick with
  | sendsCet | sendsPunishment => simpa using sent
  | attempts signed allowed start closes =>
      rcases List.mem_append.mp sent with old | new
      · exact old
      · rw [← List.mem_singleton.mp new] at closes
        cases closes
  | closing | settledClosed | finalized | bufferSeen | punished | collaborative | settleSeen
  | cetSeen | cleans | persists => exact sent

theorem Evolves.no_close {tx : Transaction} (evolved : Evolves X signer env may n n')
    (sent : .close tx ∈ n'.sent) : .close tx ∈ n.sent := by
  induction evolved with
  | refl => exact sent
  | tail _ tick ih => exact ih (tick.no_close sent)

/-- A close is broadcast when one is pending. -/
theorem acceptCollaborativeClose_pending (signer : Signer) (env : Environment E.toDescriptors)
    (id : ChannelId) (n : Node X E.toDescriptors) :
    (acceptCollaborativeClose X signer env id n).2.sent = n.sent ∨
      ∃ ch s, n.channel = .signed ch ∧ ch.state = .collaborativeCloseOffered s := by
  rw [acceptCollaborativeClose, getSignedChannel, Handler.read_bind]
  cases found : n.getSigned id none with
  | error e => exact .inl rfl
  | ok ch =>
      dsimp only
      rw [Handler.bind_apply]
      have reads : n = (collaborativelyClosed X ch true n).2 := collaborativelyClosed_reads ch true n
      cases ran : collaborativelyClosed X ch true n with
      | mk answer n₁ =>
          cases answer with
          | error e =>
              rw [ran] at reads
              obtain rfl : n = n₁ := reads
              exact .inl rfl
          | ok closed =>
              rw [ran] at reads
              obtain rfl : n = n₁ := reads
              dsimp only
              rw [Handler.lift_bind]
              cases accepts : acceptCollaborativeCloseOffer X signer ch with
              | error e => exact .inl rfl
              | ok made =>
                  obtain ⟨⟨s, state⟩, -⟩ := acceptCollaborativeCloseOffer_ok accepts
                  exact .inr ⟨ch, s, (Node.getSigned_ok.mp found).1, state⟩

end Node

namespace History
variable {h : History X E.toDescriptors W.ContractInfo}
  {turn : Turn E.toDescriptors A W.ContractInfo} {msg : DlcMessage W.ContractInfo}

theorem moved_inRole (moved : Node.Moves X signer W { h.node with sent := [] } (some msg) n')
    (truthful : Truthful h) (foreign : ¬ turn.AnswersOwnRenewal h)
    (answers : msg.Answers turn.event) : msg.InRole h := by
  have said : ∀ ch, h.node.channel = .signed ch → Said h.log ch := truthful
  cases moved with
  | settleAccepted signed state => exact ⟨_, _, signed, state⟩
  | settleConfirmed signed state =>
      have offered := said _ signed
      rw [Said, state] at offered
      exact ⟨_, _, signed, state, offered⟩
  | renewAccepted signed state =>
      obtain ⟨id, called⟩ := answers
      refine ⟨_, _, signed, state, ?_⟩
      by_contra own
      exact foreign (.inr ⟨id, _, _, called, signed, state, by simpa using own⟩)
  | renewConfirmed signed state =>
      obtain ⟨peer, m, received⟩ := answers
      have own : ∀ ch s, h.node.channel = .signed ch → ch.state = .renewOffered s →
          s.isOffer = true := by
        intro ch s signed state
        by_contra accepting
        exact foreign (.inl ⟨peer, m, ch, s, received, signed, state, by simpa using accepting⟩)
      have offers := said _ signed
      rw [Said, state] at offers
      obtain ⟨offer, listed, same⟩ := offers (own _ _ signed state)
      exact ⟨_, _, offer, signed, state, own _ _ signed state, listed, same⟩
  | renewFinalized signed state =>
      have accepts := said _ signed
      rw [Said, state] at accepts
      obtain ⟨accept, listed, same⟩ := accepts
      exact ⟨_, _, accept, signed, state, listed, same⟩
  | rollsBack signed state back answer =>
      rcases answer with none | said
      · cases none
      · cases said
        trivial
  | refuses | settleOffered | settleFinalized | renewOffered | renewRevoked | closeOffered => trivial

theorem answers_event (said : answer (h.ran X signer W turn).1 = some msg) :
    msg.Answers turn.event := by
  match ran : h.ran X signer W turn with
  | (.error e, n') =>
      rw [ran] at said
      cases said
  | (.ok out, n') =>
      rw [ran] at said
      obtain rfl : out = some msg := said
      exact Node.onEvent_answers ran

theorem answered_inRole (truthful : Truthful h) (foreign : ¬ turn.AnswersOwnRenewal h)
    (said : answer (h.ran X signer W turn).1 = some msg) :
    msg.Answers turn.event ∧ msg.InRole h := by
  have answers := answers_event said
  have free : ∀ ch, h.node.channel = .signed ch → turn.ForceCloses ch → True :=
    fun _ _ _ => trivial
  have step : Step X signer W h turn (h.next X signer W turn) := rfl
  obtain ⟨out, n, same, turned, -⟩ := step.turns free
  cases turned with
  | moves moved =>
      rw [said] at same
      exact ⟨answers, moved_inRole (same ▸ moved) truthful foreign answers⟩
  | fails | evolves | follows | restarts => cases said.symm.trans same

/-- Only the acceptance of a pending close broadcasts a close. -/
theorem close_accepted {tx : Transaction}
    (sent : .close tx ∈ (h.ran X signer W turn).2.sent) :
    (∃ id, turn.event = .call id .acceptCollaborativeClose) ∧
      ∃ ch s, h.node.channel = .signed ch ∧ ch.state = .collaborativeCloseOffered s := by
  obtain ⟨env, event⟩ := turn
  cases event with
  | message peer m =>
      have same : (h.ran X signer W (A := A) ⟨env, .message peer m⟩).2.sent = [] :=
        Node.onDlcMessage_sent { h.node with sent := [] }
      rw [same] at sent
      cases sent
  | call id call =>
      by_cases closes : call = .forceCloseChannel
      · subst closes
        obtain ⟨-, same⟩ := Node.then_none (M := DlcMessage W.ContractInfo)
          (Node.forceCloseChannel X signer env id) { h.node with sent := [] }
        have evolved : Node.Evolves X signer env (fun _ => True) { h.node with sent := [] }
            (Node.forceCloseChannel X signer env id { h.node with sent := [] }).2 :=
          Node.forceCloseChannel_evolves fun _ _ => trivial
        rw [History.ran, Node.onEvent, Node.onCall, same] at sent
        cases evolved.no_close sent
      · by_cases accepts : call = .acceptCollaborativeClose
        · subst accepts
          obtain ⟨-, same⟩ := Node.then_none (M := DlcMessage W.ContractInfo)
            (Node.acceptCollaborativeClose X signer env id) { h.node with sent := [] }
          rw [History.ran, Node.onEvent, Node.onCall, same] at sent
          refine ⟨⟨id, rfl⟩, ?_⟩
          rcases Node.acceptCollaborativeClose_pending signer env id { h.node with sent := [] }
            with none | pending
          · rw [none] at sent
            cases sent
          · exact pending
        · have same : (h.ran X signer W ⟨env, .call id call⟩).2.sent = [] :=
            Node.onCall_sent closes accepts { h.node with sent := [] }
          rw [same] at sent
          cases sent
  | channelChecks =>
      obtain ⟨-, same⟩ := Node.then_none (M := DlcMessage W.ContractInfo)
        (Node.channelChecks X signer env) { h.node with sent := [] }
      have evolved : Node.Evolves X signer env (fun _ => True) { h.node with sent := [] }
          (Node.channelChecks X signer env { h.node with sent := [] }).2 :=
        Node.channelChecks_evolves fun _ _ _ _ _ => trivial
      rw [History.ran, Node.onEvent, same] at sent
      cases evolved.no_close sent
  | periodicChainMonitor blocks =>
      obtain ⟨-, same⟩ := Node.then_none (M := DlcMessage W.ContractInfo)
        (Node.periodicChainMonitor X blocks) { h.node with sent := [] }
      obtain ⟨m, -, processed⟩ := Node.periodicChainMonitor_follows blocks { h.node with sent := [] }
      rw [History.ran, Node.onEvent, same, processed] at sent
      cases sent
  | restart => cases sent

/-- A node whose channel is at rest at the start gives its signatures away only in its
role, and when none of its own offers or acceptances is pending, not without a call of its
user. Renewal offers that the offering party itself accepts are left out. -/
theorem signatures_need_own_offer {h₀ h : History X E.toDescriptors W.ContractInfo}
    {turns : List (Turn E.toDescriptors A W.ContractInfo)}
    (rest : ∀ ch, h₀.node.channel = .signed ch → ch.state.atRest = true)
    (reached : Run (Step X signer W) h₀ turns h) :
    (¬ h.node.AwaitsAnswer → ∀ {later h'},
      Run (guarded (Step X signer W (A := A)) fun h turn => turn.Unsolicited h) h later h' →
      ∃ tail, h'.log = h.log ++ tail ∧ ∀ o ∈ tail, o.Harmless h.node) ∧
    ∀ turn : Turn E.toDescriptors A W.ContractInfo, ¬ turn.AnswersOwnRenewal h →
      (∀ msg, answer (h.ran X signer W turn).1 = some msg → msg.Answers turn.event ∧ msg.InRole h) ∧
      ∀ tx, .close tx ∈ (h.ran X signer W turn).2.sent →
        (∃ id, turn.event = .call id .acceptCollaborativeClose) ∧
          ∃ ch s, h.node.channel = .signed ch ∧ ch.state = .collaborativeCloseOffered s := by
  have start : h₀.node.Rested := fun ch signed => Node.rested_of_atRest (rest ch signed)
  have rested := rested_run start reached
  have truthful : h.node.Rested ∧ Truthful h := by
    refine reached.invariant (fun h => h.node.Rested ∧ Truthful h)
      ⟨start, fun ch signed => said_of_atRest (rest ch signed)⟩ ?_
    intro h turn h' before step
    exact ⟨step.rested before.1, step.truthful before.1 before.2⟩
  refine ⟨fun idle _ _ run => unsolicited_run rested idle run, fun turn foreign => ⟨?_, ?_⟩⟩
  · exact fun msg said => answered_inRole truthful.2 foreign said
  · exact fun tx sent => close_accepted sent

end History

end Runs

def sampleOffered : SampleHistory := sampleNext 1 (.call 77 (.settleOffer 60000000)) (sampleStart 1)

/-- The other party receives the offer of a settlement and accepts it. -/
def sampleAccepted : SampleHistory :=
  sampleNext 2 (.call 77 .acceptSettleOffer) (sampleHears 2 (sampleMessages sampleOffered 0) (sampleStart 2))

/-- After an own offer of a settlement, the counterparty's acceptance alone brings a
signature for a new settle transaction. -/
theorem settle_acceptance_brings_signature :
    Run (History.Step sampleChannelCrypto (sampleSigner 1) sampleWire) (sampleStart 1)
        [sampleTurn (.call 77 (.settleOffer 60000000))] sampleOffered ∧
      ∃ peer acceptance msg, answer (sampleOffered.ran sampleChannelCrypto (sampleSigner 1) sampleWire
          (sampleTurn (.message peer acceptance))).1 = some msg ∧ msg.signs = true := by
  refine ⟨Run.nil.snoc rfl, publicKeyOf (partySecret 2 0), ?_⟩
  have signs : ((sampleMessages sampleAccepted 0).any fun m => (answer (sampleOffered.ran
      sampleChannelCrypto (sampleSigner 1) sampleWire
      (sampleTurn (.message (publicKeyOf (partySecret 2 0)) m))).1).any (·.signs)) = true := by
    decide +kernel
  obtain ⟨m, -, signs⟩ := List.any_eq_true.mp signs
  obtain ⟨msg, said, signs⟩ := (Option.any_eq_true _ _).mp signs
  exact ⟨m, msg, said, signs⟩

/-- The first party's offer, received by the second. -/
def sampleReceived : SampleHistory :=
  sampleNext 2 (.message (publicKeyOf (partySecret 1 0))
    (.settleOffer ⟨77, 60000000, perUpdatePoint 1 (initialUpdateIdx - 1)⟩)) (sampleStart 2)

theorem received_offer_brings_no_signature :
    ∃ tail, sampleReceived.log = (sampleStart 2).log ++ tail ∧
      ∀ o ∈ tail, o.Harmless (sampleStart 2).node := by
  have rest : ∀ ch, (sampleStart 2).node.channel = .signed ch → ch.state.atRest = true := by
    rintro ch ⟨⟩
    rfl
  have reached : Run (History.Step sampleChannelCrypto (sampleSigner 2) sampleWire (A := Unit))
      (sampleStart 2) [] (sampleStart 2) := .nil
  refine (History.signatures_need_own_offer rest reached).1 ?_ (Run.nil.snoc ⟨⟨rfl, ?_⟩, rfl⟩)
  · rintro ⟨ch, ⟨⟩, awaits⟩
    cases awaits
  · rintro (⟨_, _, _, _, other, -⟩ | ⟨_, _, _, other, -⟩)
    · cases other
    · cases other

end P2PLending.Manager.Channels
