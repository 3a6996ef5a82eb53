import P2PLending.Channels.ChannelRuns

/-! The state of the channel that a message is for. In another state it is an error, or
it leaves the node as it was. -/

namespace P2PLending.Manager.Channels
open Dlc Checked

/-- An offer that the counterparty may make and that leaves nothing below zero. -/
structure SignedChannel.TakesClose {X : ChannelCrypto} (ch : SignedChannel X) (peer : PublicKey)
    (m : CollaborativeCloseOffer) : Prop where
  here : ch.channelId = m.channelId
  known : peer = ch.counterParty
  unrolled : ch.rollBackState = none
  payout : m.counterPayout ≤ ch.ownParams.collateral + ch.counterParams.collateral

theorem onCollaborativeCloseOffer_takes {X : ChannelCrypto} {now timeout : ℕ}
    {ch ch' : SignedChannel X} {m : CollaborativeCloseOffer}
    (h : onCollaborativeCloseOffer X now ch m timeout = .ok ch') :
    ch.rollBackState = none ∧
      m.counterPayout ≤ ch.ownParams.collateral + ch.counterParams.collateral := by
  simp only [onCollaborativeCloseOffer, bind_eq_ok, ensure_eq_ok, exists_const, ofDlc_eq_ok,
    amountAdd, add_eq_ok] at h
  obtain ⟨_, ⟨-, rfl⟩, bound, unrolled, -⟩ := h
  exact ⟨by simpa using unrolled, bound⟩

/-- The states that a message is for; a collaborative close may be offered in any, as
long as there is none to go back to. -/
def DlcMessage.Expects {M : Type} {X : ChannelCrypto} (peer : PublicKey) (ch : SignedChannel X) :
    DlcMessage M → Prop
  | .settleOffer _ => ch.state.atRest = true
  | .renewOffer _ => ch.state.atRest = true
  | .settleAccept _ => (match ch.state with | .settledOffered _ => true | _ => false) = true
  | .settleConfirm _ => (match ch.state with | .settledAccepted _ => true | _ => false) = true
  | .settleFinalize _ => (match ch.state with | .settledConfirmed _ => true | _ => false) = true
  | .renewAccept _ => (match ch.state with | .renewOffered _ => true | _ => false) = true
  | .renewConfirm _ => (match ch.state with | .renewAccepted _ => true | _ => false) = true
  | .renewFinalize _ => (match ch.state with | .renewConfirmed _ => true | _ => false) = true
  | .renewRevoke _ => (match ch.state with | .renewFinalized _ => true | _ => false) = true
  | .collaborativeCloseOffer m => ch.TakesClose peer m
  | .reject _ => (match ch.state with
      | .established _ | .settled _ | .settledOffered _ | .renewOffered _ => true
      | _ => false) = true

namespace Node
variable {X : ChannelCrypto} {signer : Signer} {E : SigningDescriptors} {W : Wire E.toDescriptors}
  {A : Type} {env : Environment E.toDescriptors} {n n' : Node X E.toDescriptors}
  {ch : SignedChannel X} {peer : PublicKey}

theorem signed_unique {ch' : SignedChannel X} (signed : n.channel = .signed ch)
    (signed' : n.channel = .signed ch') : ch' = ch := by
  rw [signed] at signed'
  exact (ChannelRecord.signed.inj signed').symm

theorem onReject_expects {m : Reject} {u : Unit} (h : onReject X m peer n = (.ok u, n')) :
    n' = n ∨ ∃ ch, n.channel = .signed ch ∧
      (DlcMessage.reject m : DlcMessage W.ContractInfo).Expects peer ch := by
  simp only [onReject, Handler.bind_ok, Handler.read_ok, Except.ok.injEq] at h
  obtain ⟨stored, _, ⟨found, rfl⟩, h⟩ := h
  cases stored with
  | none => exact .inl (Handler.pure_ok.mp h).2.symm
  | some channel =>
      split_ifs at found with here
      simp only [Handler.bind_ok, Handler.lift_ok] at h
      obtain ⟨_, _, -, h⟩ := h
      cases channel with
      | signed ch =>
          simp only [Handler.bind_ok, Handler.lift_ok] at h
          obtain ⟨_, _, -, ch', _, ⟨rejected, -⟩, -⟩ := h
          refine .inr ⟨ch, Option.some.inj found, ?_⟩
          rcases onReject_ok rejected with
            ⟨-, ⟨_, state⟩ | ⟨_, state⟩⟩ | ⟨-, ⟨_, state, -⟩ | ⟨_, state⟩⟩ <;>
              rw [DlcMessage.Expects, state]
      | closed | counterClosed | collaborativelyClosed | closedPunished => cases h

/-- A message that is answered without an error finds the state that it is for, or leaves
the node as it was. -/
theorem onDlcMessage_expects {m : DlcMessage W.ContractInfo} {out : Option (DlcMessage W.ContractInfo)}
    (h : onDlcMessage X signer W env peer m n = (.ok out, n')) :
    n' = n ∨ ∃ ch, n.channel = .signed ch ∧ m.Expects peer ch := by
  cases m <;> simp only [onDlcMessage, Handler.bind_ok, Handler.pure_ok] at h <;>
    obtain ⟨_, _, handled, -, rfl⟩ := h
  case settleOffer m =>
    simp only [onSettleOffer, Handler.bind_ok, getSignedChannel_ok] at handled
    obtain ⟨ch, _, ⟨⟨signed, -, -⟩, rfl⟩, handled⟩ := handled
    rw [Handler.ite_apply] at handled
    split at handled
    next => exact .inl (Handler.pure_ok.mp handled).2.symm
    next =>
      simp only [Handler.bind_ok, Handler.lift_ok] at handled
      obtain ⟨_, _, ⟨received, -⟩, -⟩ := handled
      obtain ⟨_, _, state, -⟩ := onSettleOffer_ok received
      exact .inr ⟨ch, signed, by rw [DlcMessage.Expects, state]; rfl⟩
  case settleAccept m =>
    simp only [onSettleAccept, Handler.bind_ok, getSignedChannel_ok, onChainMonitor_ok] at handled
    obtain ⟨ch, _, ⟨⟨signed, -, -⟩, rfl⟩, _, _, ⟨_, confirms, -⟩, -⟩ := handled
    obtain ⟨_, _, _, _, _, state, -⟩ := settleChannelConfirm_ok confirms
    exact .inr ⟨ch, signed, by rw [DlcMessage.Expects, state]⟩
  case settleConfirm m =>
    simp only [onSettleConfirm, Handler.bind_ok, getSignedChannel_ok, Handler.lift_ok] at handled
    obtain ⟨ch, _, ⟨⟨signed, -, -⟩, rfl⟩, _, _, -, _, _, -, _, _, ⟨finalizes, -⟩, -⟩ := handled
    obtain ⟨_, _, _, state, -⟩ := settleChannelFinalize_ok finalizes
    exact .inr ⟨ch, signed, by rw [DlcMessage.Expects, state]⟩
  case settleFinalize m =>
    simp only [onSettleFinalize, Handler.bind_ok, getSignedChannel_ok, Handler.lift_ok] at handled
    obtain ⟨ch, _, ⟨⟨signed, -, -⟩, rfl⟩, _, _, -, _, _, -, _, _, ⟨finalized, -⟩, -⟩ := handled
    obtain ⟨_, _, state, -⟩ := settleChannelOnFinalize_ok finalized
    exact .inr ⟨ch, signed, by rw [DlcMessage.Expects, state]⟩
  case renewOffer m =>
    simp only [onRenewOffer, Handler.bind_ok, getSignedChannel_ok] at handled
    obtain ⟨ch, _, ⟨⟨signed, -, -⟩, rfl⟩, handled⟩ := handled
    rw [Handler.ite_apply] at handled
    split at handled
    next => exact .inl (Handler.pure_ok.mp handled).2.symm
    next =>
      simp only [Handler.bind_ok, Handler.lift_ok] at handled
      obtain ⟨_, _, ⟨received, -⟩, -⟩ := handled
      obtain ⟨⟨_, state⟩ | ⟨_, state⟩, -⟩ := onRenewOffer_ok received <;>
        exact .inr ⟨ch, signed, by rw [DlcMessage.Expects, state]; rfl⟩
  case renewAccept m =>
    simp only [onRenewAccept, Handler.bind_ok, getSignedChannel_ok, Handler.lift_ok,
      Handler.read_ok] at handled
    obtain ⟨ch, _, ⟨⟨signed, -, -⟩, rfl⟩, _, _, -, _, _, -, _, _, ⟨confirms, -⟩, -⟩ := handled
    obtain ⟨_, _, _, _, _, state, -⟩ := verifyRenewAcceptAndConfirm_ok confirms
    exact .inr ⟨ch, signed, by rw [DlcMessage.Expects, state]⟩
  case renewConfirm m =>
    simp only [onRenewConfirm, Handler.bind_ok, getSignedChannel_ok, Handler.lift_ok] at handled
    obtain ⟨ch, _, ⟨⟨signed, -, -⟩, rfl⟩, _, _, ⟨expected, -⟩, -⟩ := handled
    refine .inr ⟨ch, signed, ?_⟩
    split at expected
    next s state => rw [DlcMessage.Expects, state]
    next => cases expected
  case renewFinalize m =>
    simp only [onRenewFinalize, Handler.bind_ok, getSignedChannel_ok, Handler.lift_ok] at handled
    obtain ⟨ch, _, ⟨⟨signed, -, -⟩, rfl⟩, _, _, ⟨expected, -⟩, -⟩ := handled
    refine .inr ⟨ch, signed, ?_⟩
    split at expected
    next s state => rw [DlcMessage.Expects, state]
    next => cases expected
  case renewRevoke m =>
    simp only [onRenewRevoke, Handler.bind_ok, getSignedChannel_ok, Handler.lift_ok] at handled
    obtain ⟨ch, _, ⟨⟨signed, -, -⟩, rfl⟩, _, _, ⟨revoked, -⟩, -⟩ := handled
    obtain ⟨_, _, state, -⟩ := renewChannelOnRevoke_ok revoked
    exact .inr ⟨ch, signed, by rw [DlcMessage.Expects, state]⟩
  case collaborativeCloseOffer m =>
    simp only [onCollaborativeCloseOffer, Handler.bind_ok, getSignedChannel_ok,
      Handler.lift_ok] at handled
    obtain ⟨ch, _, ⟨⟨signed, here, known⟩, rfl⟩, _, _, ⟨received, -⟩, -⟩ := handled
    obtain ⟨unrolled, payout⟩ := onCollaborativeCloseOffer_takes received
    exact .inr ⟨ch, signed, here, by simpa using known, unrolled, payout⟩
  case reject m => exact onReject_expects handled

end Node

end P2PLending.Manager.Channels
