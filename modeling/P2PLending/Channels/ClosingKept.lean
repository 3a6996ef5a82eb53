import P2PLending.Channels.ExpectedStates

/-! A unilateral close while the peer keeps sending messages. The only message that a
closing channel answers is the offer of a collaborative close, which looks at the state
to go back to and not at the state. -/

namespace P2PLending.Manager.Channels
open Dlc Checked Relation

/-- A close under way: the channel, the buffer transaction and the contract. -/
structure Close where
  channelId : ChannelId
  bufferTxid : Bytes32
  contractId : ContractId

def ChainMonitor.OnlyBuffer (C : Crypto) (m : ChainMonitor) (c : Close) : Prop :=
  ∀ tx, m.ConfirmedTx (tx, ⟨c.channelId, .bufferTx⟩) → tx.computeTxid C = c.bufferTxid

theorem ChainMonitor.cleanupChannel_confirmed {m : ChainMonitor} {channelId : ChannelId}
    {watched : Transaction × ChannelInfo} (h : (m.cleanupChannel channelId).ConfirmedTx watched) :
    m.ConfirmedTx watched := by
  rcases h with ⟨txid, kept⟩ | ⟨outpoint, kept⟩
  · exact .inl ⟨txid, (Option.filter_eq_some_iff.mp kept).1⟩
  · exact .inr ⟨outpoint, (Option.filter_eq_some_iff.mp kept).1⟩

namespace Node
section Closes
variable {X : ChannelCrypto} {E : SigningDescriptors}

def Closes (n : Node X E.toDescriptors) (c : Close) : Prop :=
  ∃ ch s, n.channel = .signed ch ∧ ch.state = .closing s ∧
    c = ⟨ch.channelId, s.bufferTransaction.computeTxid X.toCrypto, s.contractId⟩

def Closed (n : Node X E.toDescriptors) : Prop := ∀ ch, n.channel ≠ .signed ch

/-- What ends a close: its buffer transaction is deep enough for the CET, or another
transaction of the channel has confirmed. -/
inductive Ends (env : Environment E.toDescriptors) (n : Node X E.toDescriptors) (c : Close) : Prop
  | finalized {confirmations} (deep : cetNsequence ≤ confirmations)
      (confirmed : env.getTransactionConfirmations c.bufferTxid = .ok confirmations)
  | spent {tx txType} (other : txType ≠ .bufferTx)
      (confirmed : n.chainMonitor.ConfirmedTx (tx, ⟨c.channelId, txType⟩))

end Closes

section Messages
variable {X : ChannelCrypto} {signer : Signer} {E : SigningDescriptors} {W : Wire E.toDescriptors}
  {env : Environment E.toDescriptors} {n n' : Node X E.toDescriptors} {ch : SignedChannel X}
  {s : SignedChannelState.Closing} {peer : PublicKey}

/-- A closing channel is not the place for any other message. -/
theorem onDlcMessage_closing {m : DlcMessage W.ContractInfo} {out : Option (DlcMessage W.ContractInfo)}
    (signed : n.channel = .signed ch) (state : ch.state = .closing s)
    (stays : ∀ offer, m = .collaborativeCloseOffer offer → ¬ ch.TakesClose peer offer)
    (h : onDlcMessage X signer W env peer m n = (.ok out, n')) : n' = n := by
  rcases onDlcMessage_expects h with same | ⟨ch', signed', expected⟩
  · exact same
  · obtain rfl := signed_unique signed signed'
    cases m with
    | collaborativeCloseOffer offer => exact absurd expected (stays offer rfl)
    | settleOffer | settleAccept | settleConfirm | settleFinalize | renewOffer | renewAccept
    | renewConfirm | renewFinalize | renewRevoke | reject =>
        rw [DlcMessage.Expects, state] at expected
        cases expected

end Messages

section Checks
variable {X : ChannelCrypto} {signer : Signer} {E : SigningDescriptors}
  {env : Environment E.toDescriptors} {n n' : Node X E.toDescriptors} {c : Close}

/-- A close goes on, with a monitor that has learned nothing, or it has come to its end. -/
def GoesOn (env : Environment E.toDescriptors) (c : Close) (n n' : Node X E.toDescriptors) : Prop :=
  (n'.Closes c ∧ ∀ w, n'.chainMonitor.ConfirmedTx w → n.chainMonitor.ConfirmedTx w) ∨
    n'.Closed ∧ n.Ends env c

/-- The channels that their time-outs may close. -/
def TimedUpdate (ch : SignedChannel X) : Prop := ch.state.timeout?.isSome = true

theorem closing_untimed {ch : SignedChannel X} {s : SignedChannelState.Closing}
    (state : ch.state = .closing s) : ¬ TimedUpdate ch := by
  rw [TimedUpdate, state]
  exact nofun

theorem Ticks.goesOn (tick : Ticks X signer env TimedUpdate n n') (closes : n.Closes c)
    (listed : ∀ m w, w ∈ env.confirmedTxs m → m.ConfirmedTx w)
    (only : n.chainMonitor.OnlyBuffer X.toCrypto c) : n.GoesOn env c n' := by
  obtain ⟨ch, s, signed, state, rfl⟩ := closes
  cases tick with
  | sendsCet | sendsPunishment | persists => exact .inl ⟨⟨ch, s, signed, state, rfl⟩, fun _ => id⟩
  | cleans => exact .inl ⟨⟨ch, s, signed, state, rfl⟩, fun _ => ChainMonitor.cleanupChannel_confirmed⟩
  | attempts signed' allowed | closing signed' allowed | settledClosed signed' allowed =>
      obtain rfl := signed_unique signed signed'
      exact absurd allowed (closing_untimed state)
  | finalized signed' state' confirmed =>
      obtain rfl := signed_unique signed signed'
      obtain rfl := SignedChannelState.closing.inj (state.symm.trans state')
      obtain ⟨_, deep, confirmed⟩ := confirmed
      exact .inr ⟨fun ch => closedRecord_unsigned ch, .finalized deep confirmed⟩
  | bufferSeen signed' watched id =>
      obtain rfl := signed_unique signed signed'
      rw [state, SignedChannelState.contractId, Option.some.injEq] at id
      refine .inl ⟨⟨_, _, rfl, rfl, ?_⟩, fun _ known => known⟩
      rw [← id]
      exact congrArg (Close.mk _ · _) (only _ (listed _ _ watched)).symm
  | cetSeen signed' watched =>
      obtain rfl := signed_unique signed signed'
      exact .inr ⟨fun ch => closedRecord_unsigned ch, .spent (by simp) (listed _ _ watched)⟩
  | punished signed' watched | collaborative signed' watched | settleSeen signed' watched =>
      obtain rfl := signed_unique signed signed'
      exact .inr ⟨fun ch => by simp, .spent (by simp) (listed _ _ watched)⟩

theorem Ticks.closed {may : SignedChannel X → Prop} (tick : Ticks X signer env may n n')
    (closed : n.Closed) : n'.Closed := by
  cases tick with
  | persists => exact closed
  | sendsCet signed | sendsPunishment signed | attempts signed | closing signed
  | settledClosed signed | finalized signed | bufferSeen signed | punished signed
  | collaborative signed | settleSeen signed | cetSeen signed | cleans signed =>
      exact absurd signed (closed _)

theorem Evolves.goesOn (evolved : Evolves X signer env TimedUpdate n n') (closes : n.Closes c)
    (listed : ∀ m w, w ∈ env.confirmedTxs m → m.ConfirmedTx w)
    (only : n.chainMonitor.OnlyBuffer X.toCrypto c) : n.GoesOn env c n' := by
  induction evolved with
  | refl => exact .inl ⟨closes, fun _ => id⟩
  | tail _ tick ih =>
      rcases ih with ⟨closes, known⟩ | ⟨closed, ends⟩
      · rcases tick.goesOn closes listed (fun tx new => only tx (known _ new)) with
          ⟨closes', known'⟩ | ⟨closed, ends⟩
        · exact .inl ⟨closes', fun w new => known w (known' w new)⟩
        · refine .inr ⟨closed, ?_⟩
          cases ends with
          | finalized deep confirmed => exact .finalized deep confirmed
          | spent other confirmed => exact .spent other (known _ confirmed)
      · exact .inr ⟨tick.closed closed, ends⟩

/-- Every check of a closing channel begins with the attempt to publish its CET. -/
theorem channelChecks_closing {ch : SignedChannel X} {s : SignedChannelState.Closing}
    (signed : n.channel = .signed ch) (state : ch.state = .closing s) :
    channelChecks X signer env n = (do
      logged X (tryFinalizeClosingEstablishedChannel X signer env ch)
      checkForTimedOutChannels X signer env
      checkForWatchedTx X signer env) n := by
  have first : checkClosingChannels X signer env n =
      logged X (tryFinalizeClosingEstablishedChannel X signer env ch) n := by
    unfold checkClosingChannels
    rw [signed]
    dsimp only
    rw [state]
  rw [channelChecks, Handler.bind_apply, Handler.bind_apply, first]

theorem checkTimedOut_skips {ch : SignedChannel X} {timeout : SignedChannelState → Option ℕ}
    (timed : ∀ state t, timeout state = some t → state.timeout? = some t)
    (signed : n.channel = .signed ch) (untimed : ch.state.timeout? = none) :
    checkTimedOut X signer env timeout n = (.ok (), n) := by
  unfold checkTimedOut
  rw [signed]
  dsimp only
  cases given : timeout ch.state with
  | none => rfl
  | some t => exact absurd (untimed.symm.trans (timed _ _ given)) nofun

/-- A state that the checks do not list is not looked at. -/
theorem checkForTimedOutChannels_skips {ch : SignedChannel X} (signed : n.channel = .signed ch)
    (untimed : ch.state.timeout? = none) :
    checkForTimedOutChannels X signer env n = (.ok (), n) := by
  rw [checkForTimedOutChannels_eq]
  exact Handler.forEach_skips fun _ listed =>
    checkTimedOut_skips (SignedChannelState.sweeps_timed listed) signed untimed

theorem Moves.closed {W : Wire E.toDescriptors} {out : Option (DlcMessage W.ContractInfo)}
    (moved : Moves X signer W n out n') (closed : n.Closed) : n'.Closed := by
  cases moved with
  | rests | refuses => exact closed
  | settleOffered signed | settleReceived signed | settleAccepted signed | settleConfirmed signed
  | settleFinalized signed | settled signed | renewOffered signed | renewReceived signed
  | renewAccepted signed | renewConfirmed signed | renewFinalized signed | renewRevoked signed
  | renewed signed | rollsBack signed | closeReceived signed | closeOffered signed
  | closeAccepted signed => exact absurd signed (closed _)

theorem Evolves.closed {may : SignedChannel X → Prop} (evolved : Evolves X signer env may n n')
    (closed : n.Closed) : n'.Closed := by
  induction evolved with
  | refl => exact closed
  | tail _ tick ih => exact tick.closed ih

end Checks
end Node

namespace History
variable {X : ChannelCrypto} {signer : Signer} {E : SigningDescriptors} {W : Wire E.toDescriptors}
  {A : Type} {h h' : History X E.toDescriptors W.ContractInfo} {c : Close}

/-- A turn that does not come from the local user, with a chain that has no other buffer
transaction of the channel and a peer that makes no offer which the channel takes. -/
structure Uninterrupted (c : Close) (h : History X E.toDescriptors W.ContractInfo)
    (turn : Turn E.toDescriptors A W.ContractInfo) : Prop where
  notLocal : ∀ channelId call, turn.event ≠ .call channelId call
  listed : ∀ m w, w ∈ turn.env.confirmedTxs m → m.ConfirmedTx w
  onlyBuffer : h.node.chainMonitor.OnlyBuffer X.toCrypto c
  noClose : ∀ peer m ch, turn.event = .message peer (.collaborativeCloseOffer m) →
    h.node.channel = .signed ch → ¬ ch.TakesClose peer m

/-- The close goes on or has come to its end. -/
def CloseGoesOn (c : Close) (h : History X E.toDescriptors W.ContractInfo)
    (turn : Turn E.toDescriptors A W.ContractInfo) (h' : History X E.toDescriptors W.ContractInfo) :
    Prop :=
  h.node.Closes c → h'.node.Closes c ∨ h'.node.Closed ∧ h.node.Ends turn.env c

theorem Step.closeGoesOn {turn : Turn E.toDescriptors A W.ContractInfo}
    (step : Step X signer W h turn h') (fair : h.Uninterrupted c turn) : h.CloseGoesOn c turn h' := by
  intro closes
  obtain ⟨ch, s, signed, state, rfl⟩ := closes
  have closes : h.node.Closes ⟨ch.channelId, s.bufferTransaction.computeTxid X.toCrypto,
      s.contractId⟩ := ⟨ch, s, signed, state, rfl⟩
  obtain rfl : h' = h.next X signer W turn := step
  have kept : ∀ n : Node X E.toDescriptors, n.channel = h.node.channel → n.Closes
      ⟨ch.channelId, s.bufferTransaction.computeTxid X.toCrypto, s.contractId⟩ :=
    fun n same => ⟨ch, s, same.trans signed, state, rfl⟩
  obtain ⟨env, event⟩ := turn
  rw [next, ran]
  cases event with
  | call channelId call => exact absurd rfl (fair.notLocal channelId call)
  | message peer m =>
      refine .inl (kept _ ?_)
      dsimp only
      match ran : Node.onDlcMessage X signer W env peer m { h.node with sent := [] } with
      | (.ok out, n') =>
          have same := Node.onDlcMessage_closing (n := { h.node with sent := [] }) signed state
            (fun offer isOffer => fair.noClose peer offer ch (by rw [isOffer]) signed) ran
          rw [Node.onEvent, ran, same]
      | (.error e, n') =>
          have same := Node.onDlcMessage_fails _ _ _ ran
          rw [Node.onEvent, ran]
          exact same.channel
  | channelChecks =>
      obtain ⟨-, same⟩ := Node.then_none (M := DlcMessage W.ContractInfo)
        (Node.channelChecks X signer env) { h.node with sent := [] }
      have evolved : Node.Evolves X signer env Node.TimedUpdate { h.node with sent := [] }
          (Node.channelChecks X signer env { h.node with sent := [] }).2 :=
        Node.channelChecks_evolves fun ch t _ timed _ => by rw [Node.TimedUpdate, timed]; rfl
      have goes := evolved.goesOn (c := ⟨ch.channelId, s.bufferTransaction.computeTxid X.toCrypto,
        s.contractId⟩) (kept _ rfl) fair.listed fair.onlyBuffer
      rw [Node.onEvent, same]
      rcases goes with ⟨goes, -⟩ | ⟨closed, ends⟩
      · exact .inl goes
      · refine .inr ⟨closed, ?_⟩
        cases ends with
        | finalized deep confirmed => exact .finalized deep confirmed
        | spent other confirmed => exact .spent other confirmed
  | periodicChainMonitor blocks =>
      obtain ⟨-, same⟩ := Node.then_none (M := DlcMessage W.ContractInfo)
        (Node.periodicChainMonitor X blocks) { h.node with sent := [] }
      obtain ⟨m, -, processed⟩ := Node.periodicChainMonitor_follows blocks { h.node with sent := [] }
      refine .inl (kept _ ?_)
      rw [Node.onEvent, same, processed]
  | restart => exact .inl (kept _ rfl)

theorem Step.closed {turn : Turn E.toDescriptors A W.ContractInfo}
    (step : Step X signer W h turn h') (closed : h.node.Closed) : h'.node.Closed := by
  have free : ∀ ch, h.node.channel = .signed ch → turn.ForceCloses ch → True :=
    fun _ _ _ => trivial
  obtain ⟨out, n, -, turned, rfl⟩ := step.turns free
  cases turned with
  | moves moved => exact moved.closed closed
  | fails same => exact fun ch signed => closed ch (same.channel ▸ signed)
  | evolves evolved => exact evolved.closed closed
  | follows | restarts => exact closed

/-- Through all such turns a close goes on until it comes to its end, and every check of
the channel attempts to publish its CET. -/
theorem close_goes_on {turns : List (Turn E.toDescriptors A W.ContractInfo)}
    (closes : h.node.Closes c) (run : Run (guarded (Step X signer W) (Uninterrupted c)) h turns h') :
    Run (fun h turn h' => Step X signer W h turn h' ∧ h.CloseGoesOn c turn h') h turns h' ∧
      (h'.node.Closes c ∨ h'.node.Closed) ∧
      (h'.node.Closes c → ∃ ch, h'.node.channel = .signed ch ∧ ∀ env : Environment E.toDescriptors,
        Node.channelChecks X signer env h'.node = (do
          Node.logged X (Node.tryFinalizeClosingEstablishedChannel X signer env ch)
          Node.checkForTimedOutChannels X signer env
          Node.checkForWatchedTx X signer env) h'.node) := by
  refine ⟨run.mono fun _ _ _ step => ⟨step.2, Step.closeGoesOn step.2 step.1⟩, ?_, ?_⟩
  · refine run.invariant (fun h => h.node.Closes c ∨ h.node.Closed) (.inl closes) ?_
    rintro h turn h' (closes | closed) ⟨fair, step⟩
    · exact (step.closeGoesOn fair closes).imp_right And.left
    · exact .inr (step.closed closed)
  · rintro ⟨ch, s, signed, state, -⟩
    exact ⟨ch, signed, fun env => Node.channelChecks_closing signed state⟩

end History

/-- The second party then offers to close in common. -/
def sampleInterruption : SampleEvent :=
  .message (publicKeyOf (partySecret 2 0)) (.collaborativeCloseOffer ⟨77, 0, 0⟩)

def sampleClose : Close := ⟨77, sampleBuffer.computeTxid channelAdaptor.toCrypto, 5⟩

/-- The buffer transaction has been seen. -/
def sampleBufferSeen : SampleHistory where
  node :=
    { (sampleStart 1).node with
      channel := .signed ((sampleChannel 1 2).enter (.closing ⟨sampleBuffer, 5, false, 3⟩))
      chainMonitor := ⟨fun _ => none, fun _ => none, 100⟩ }
  log := []

/-- The offer of a collaborative close does not interrupt this close. -/
theorem buffer_seen_goes_on :
    (sampleNext 1 sampleInterruption sampleBufferSeen).node.Closes sampleClose ∨
      (sampleNext 1 sampleInterruption sampleBufferSeen).node.Closed := by
  have closes : sampleBufferSeen.node.Closes sampleClose := ⟨_, _, rfl, rfl, rfl⟩
  refine (History.close_goes_on (A := Unit) closes (Run.nil.snoc
    (a := sampleTurn sampleInterruption) ⟨⟨?_, ?_, ?_, ?_⟩, rfl⟩)).2.1
  · rintro m w ⟨⟩
  · rintro m w ⟨⟩
  · rintro tx (⟨_, other⟩ | ⟨_, other⟩) <;> cases other
  · rintro peer m ch ⟨⟩ ⟨⟩ takes
    cases takes.unrolled

/-- The first party closes on its own. -/
def sampleClosing : SampleHistory := sampleNext 1 (.call 77 .forceCloseChannel) (sampleStart 1)

def sampleInterrupted : SampleHistory := sampleNext 1 sampleInterruption sampleClosing

def closingStored : Bool :=
  match sampleClosing.node.channel with
  | .signed ch => match ch.state with
      | .closing s => decide (ch.channelId = 77 ∧ s.contractId = 5 ∧
          s.bufferTransaction.computeTxid channelAdaptor.toCrypto =
            sampleBuffer.computeTxid channelAdaptor.toCrypto)
      | _ => false
  | _ => false

def closeOfferStored : Bool :=
  match sampleInterrupted.node.channel with
  | .signed ch => match ch.state with
      | .collaborativeCloseOffered _ => true
      | _ => false
  | _ => false

/-- The close is left for an offer that no check looks at. -/
theorem close_given_up :
    (∃ turns, SampleRun 1 turns sampleClosing) ∧ sampleClosing.node.Closes sampleClose ∧
      ¬ sampleClosing.CloseGoesOn sampleClose (sampleTurn sampleInterruption) sampleInterrupted ∧
      ∀ env, Node.checkClosingChannels sampleChannelCrypto (sampleSigner 1) env
          sampleInterrupted.node = (.ok (), sampleInterrupted.node) ∧
        Node.checkForTimedOutChannels sampleChannelCrypto (sampleSigner 1) env
          sampleInterrupted.node = (.ok (), sampleInterrupted.node) := by
  have closing : closingStored = true := by decide +kernel
  have offered : closeOfferStored = true := by decide +kernel
  unfold closingStored at closing
  unfold closeOfferStored at offered
  have closes : sampleClosing.node.Closes sampleClose := by
    split at closing
    next ch signed =>
      split at closing
      next s state =>
        obtain ⟨id, contract, txid⟩ := of_decide_eq_true closing
        exact ⟨ch, s, signed, state, by rw [id, contract]; exact congrArg (Close.mk _ · _) txid.symm⟩
      next => cases closing
    next => cases closing
  split at offered
  next ch signed =>
    split at offered
    next s state =>
      refine ⟨⟨_, Run.nil.snoc (a := sampleTurn (.call 77 .forceCloseChannel)) rfl⟩, closes, ?_, ?_⟩
      · intro goesOn
        rcases goesOn closes with ⟨ch', s', signed', state', -⟩ | ⟨closed, -⟩
        · obtain rfl := Node.signed_unique signed signed'
          rw [state] at state'
          cases state'
        · exact closed ch signed
      · intro env
        constructor
        · unfold Node.checkClosingChannels
          rw [signed]
          dsimp only
          rw [state]
        · exact Node.checkForTimedOutChannels_skips signed (by rw [state]; rfl)
    next => cases offered
  next => cases offered

end P2PLending.Manager.Channels
