import P2PLending.Channels.ChannelMoves

/-! A message or a call that fails leaves the channel, the contracts and the persisted
monitor as they were: every stage that can fail comes before the first write. -/

namespace P2PLending.Manager.Channels.Node
open Dlc Checked

variable {X : ChannelCrypto} {signer : Signer} {E : SigningDescriptors} {W : Wire E.toDescriptors}
  {A : Type} {env : Environment E.toDescriptors} {ch : SignedChannel X} {peer : PublicKey}
  {channelId : ChannelId}

/-- The stored records are the same; at most a close transaction was sent. -/
structure SameRecords {D : Descriptors} (n n' : Node X D) : Prop where
  channel : n'.channel = n.channel
  contracts : n'.contracts = n.contracts
  persisted : n'.persistedChainMonitor = n.persistedChainMonitor
  sent : ∃ l, n'.sent = n.sent ++ l ∧ ∀ b ∈ l, ∃ tx, b = .close tx

instance {D : Descriptors} : Std.Refl (SameRecords (X := X) (D := D)) where
  refl n := ⟨rfl, rfl, rfl, [], by simp⟩

instance {D : Descriptors} : IsTrans (Node X D) SameRecords where
  trans a b c ab bc := by
    obtain ⟨l, first, closes⟩ := ab.sent
    obtain ⟨l', second, closes'⟩ := bc.sent
    refine ⟨bc.channel.trans ab.channel, bc.contracts.trans ab.contracts,
      bc.persisted.trans ab.persisted, l ++ l', ?_, ?_⟩
    · rw [second, first, List.append_assoc]
    · intro sent among
      exact (List.mem_append.mp among).elim (closes sent) (closes' sent)

section Stages
variable {D : Descriptors} {α : Type}

theorem keeps_getSignedChannel {peer : Option PublicKey} :
    Handler.Keeps (SameRecords (D := D)) (getSignedChannel (X := X) channelId peer) :=
  Handler.keeps_read _

theorem keeps_onChainMonitor {h : Handler ChainMonitor (Fault Error) α} :
    Handler.Keeps (SameRecords (X := X) (D := D)) (onChainMonitor h) :=
  fun _ => ⟨rfl, rfl, rfl, [], by simp [onChainMonitor]⟩

theorem failsIn_upsertChannel {channel : ChannelRecord X} {contract : Option (Contract D)} :
    Handler.FailsIn SameRecords (upsertChannel channel contract) :=
  Handler.failsIn_bind (Handler.keeps_read _) fun _ _ _ _ => Handler.failsIn_of_never fun _ => rfl

theorem keeps_getCollaborativelyClosedContract {contractId : ContractId} {payout : ℕ}
    {own : Bool} :
    Handler.Keeps (SameRecords (X := X) (D := D))
      (getCollaborativelyClosedContract contractId payout own) :=
  Handler.keeps_bind (Handler.keeps_read _) fun _ =>
    Handler.keeps_bind (Handler.keeps_lift _) fun _ => Handler.keeps_pure _

theorem keeps_broadcast_close {env : Environment D} {tx : Transaction} :
    Handler.Keeps (SameRecords (X := X) (D := D)) (broadcast env (.close tx)) := by
  intro n
  simp only [broadcast, Handler.modify_bind, Handler.lift]
  exact ⟨rfl, rfl, rfl, [.close tx], rfl, by simp⟩

end Stages

theorem keeps_renewedFrom {payout : ℕ} {unexpected : String} :
    Handler.Keeps SameRecords (renewedFrom X (E := E) ch payout unexpected) := by
  unfold renewedFrom
  split
  next => exact Handler.keeps_lift _
  next => exact Handler.keeps_bind keeps_getCollaborativelyClosedContract fun _ => Handler.keeps_pure _
  next => exact Handler.keeps_pure _
  next => exact Handler.keeps_lift _

theorem updateClosed_never {closed : Option (Contract E.toDescriptors)}
    (which : ∀ contract, closed = some contract → ∃ c, contract = .closed c)
    (n : Node X E.toDescriptors) : (updateClosed X closed n).1.isOk = true := by
  cases closed with
  | none => rfl
  | some contract =>
      obtain ⟨c, rfl⟩ := which contract rfl
      rfl

theorem finishSettlement_fails {b : SignedChannelState.Established} {payout : ℕ} :
    Handler.FailsIn SameRecords (finishSettlement X (E := E) ch b payout) :=
  Handler.failsIn_bind keeps_onChainMonitor fun _ _ _ _ =>
    Handler.failsIn_bind keeps_getCollaborativelyClosedContract fun _ _ _ _ =>
      Handler.failsIn_then_never failsIn_upsertChannel fun _ _ => rfl

theorem onReject_fails {m : Reject} :
    Handler.FailsIn SameRecords (onReject X (E := E) m peer) := by
  refine Handler.failsIn_bind (Handler.keeps_read _) fun _ stored _ _ => ?_
  cases stored with
  | none => exact Handler.failsIn_of_never fun _ => rfl
  | some channel =>
      refine Handler.failsIn_bind (Handler.keeps_lift _) fun _ _ _ _ => ?_
      cases channel with
      | signed ch =>
          have rejects : Handler.Keeps SameRecords (rejectedContract X (E := E) ch) := by
            unfold rejectedContract
            split
            next => exact Handler.keeps_bind (Handler.keeps_read _) fun _ => Handler.keeps_pure _
            next => exact Handler.keeps_pure _
          exact Handler.failsIn_bind rejects fun _ _ _ _ =>
            Handler.failsIn_bind (Handler.keeps_lift _) fun _ _ _ _ => failsIn_upsertChannel
      | closed | counterClosed | collaborativelyClosed | closedPunished =>
          exact Handler.failsIn_of_keeps (Handler.keeps_lift _)

/-- The closed contract of a renewal is stored last, and storing it does not fail. -/
theorem renewedFrom_closed {payout : ℕ} {unexpected : String} {n n' : Node X E.toDescriptors}
    {renewed : TxType × Bytes32 × Option (Contract E.toDescriptors)}
    (h : renewedFrom X ch payout unexpected n = (.ok renewed, n')) (contract : Contract _)
    (stored : renewed.2.2 = some contract) : ∃ c, contract = .closed c := by
  obtain ⟨txType, txid, closed⟩ := renewed
  obtain ⟨-, -, -, -, ⟨rfl, -⟩ | ⟨-, c, -, rfl, -⟩⟩ := renewedFrom_ok h
  · cases stored
  · exact ⟨c, (Option.some.inj stored).symm⟩

theorem onRenewConfirm_fails {m : RenewConfirm} :
    Handler.FailsIn SameRecords (onRenewConfirm X signer env m peer) := by
  refine Handler.failsIn_bind keeps_getSignedChannel fun _ _ _ _ => ?_
  refine Handler.failsIn_bind (Handler.keeps_lift _) fun _ _ _ _ => ?_
  refine Handler.failsIn_bind (Handler.keeps_lift _) fun _ _ _ _ => ?_
  refine Handler.failsIn_bind keeps_renewedFrom fun _ renewed _ from_before => ?_
  refine Handler.failsIn_bind (Handler.keeps_read _) fun _ _ _ _ => ?_
  refine Handler.failsIn_bind keeps_onChainMonitor fun _ _ _ _ => ?_
  refine Handler.failsIn_bind keeps_onChainMonitor fun _ _ _ _ => ?_
  have stores := updateClosed_never (X := X) (renewedFrom_closed from_before)
  exact Handler.failsIn_then_never failsIn_upsertChannel fun _ =>
    Handler.never_bind (fun _ => rfl) fun _ => Handler.never_bind stores fun _ _ => rfl

theorem onRenewFinalize_fails {m : RenewFinalize} :
    Handler.FailsIn SameRecords (onRenewFinalize X (E := E) signer m peer) := by
  refine Handler.failsIn_bind keeps_getSignedChannel fun _ _ _ _ => ?_
  refine Handler.failsIn_bind (Handler.keeps_lift _) fun _ _ _ _ => ?_
  refine Handler.failsIn_bind keeps_renewedFrom fun _ renewed _ from_before => ?_
  refine Handler.failsIn_bind (Handler.keeps_lift _) fun _ _ _ _ => ?_
  refine Handler.failsIn_bind keeps_onChainMonitor fun _ _ _ _ => ?_
  refine Handler.failsIn_bind (Handler.keeps_lift _) fun _ _ _ _ => ?_
  refine Handler.failsIn_bind keeps_onChainMonitor fun _ _ _ _ => ?_
  have stores := updateClosed_never (X := X) (renewedFrom_closed from_before)
  exact Handler.failsIn_then_never failsIn_upsertChannel fun _ =>
    Handler.never_bind (fun _ => rfl) fun _ => Handler.never_bind stores fun _ _ => rfl

theorem onDlcMessage_fails {m : DlcMessage W.ContractInfo} :
    Handler.FailsIn SameRecords (onDlcMessage X signer W env peer m) := by
  cases m with
  | settleOffer m =>
      refine Handler.failsIn_then_never ?_ fun _ _ => rfl
      exact Handler.failsIn_bind keeps_getSignedChannel fun _ _ _ _ =>
        Handler.failsIn_ite (Handler.failsIn_of_keeps (Handler.keeps_pure _))
          (Handler.failsIn_bind (Handler.keeps_lift _) fun _ _ _ _ =>
            Handler.failsIn_then_never failsIn_upsertChannel fun _ _ => rfl)
  | settleAccept m =>
      refine Handler.failsIn_then_never ?_ fun _ _ => rfl
      exact Handler.failsIn_bind keeps_getSignedChannel fun _ _ _ _ =>
        Handler.failsIn_bind keeps_onChainMonitor fun _ _ _ _ =>
          Handler.failsIn_then_never failsIn_upsertChannel fun _ _ => rfl
  | settleConfirm m =>
      refine Handler.failsIn_then_never ?_ fun _ _ => rfl
      exact Handler.failsIn_bind keeps_getSignedChannel fun _ _ _ _ =>
        Handler.failsIn_bind (Handler.keeps_lift _) fun _ _ _ _ =>
          Handler.failsIn_bind (Handler.keeps_lift _) fun _ _ _ _ =>
            Handler.failsIn_bind (Handler.keeps_lift _) fun _ _ _ _ =>
              Handler.failsIn_then_never finishSettlement_fails fun _ _ => rfl
  | settleFinalize m =>
      refine Handler.failsIn_then_never ?_ fun _ _ => rfl
      exact Handler.failsIn_bind keeps_getSignedChannel fun _ _ _ _ =>
        Handler.failsIn_bind (Handler.keeps_lift _) fun _ _ _ _ =>
          Handler.failsIn_bind (Handler.keeps_lift _) fun _ _ _ _ =>
            Handler.failsIn_bind (Handler.keeps_lift _) fun _ _ _ _ => finishSettlement_fails
  | renewOffer m =>
      refine Handler.failsIn_then_never ?_ fun _ _ => rfl
      exact Handler.failsIn_bind keeps_getSignedChannel fun _ _ _ _ =>
        Handler.failsIn_ite (Handler.failsIn_of_keeps (Handler.keeps_pure _))
          (Handler.failsIn_bind (Handler.keeps_lift _) fun _ _ _ _ =>
            Handler.failsIn_of_never fun _ => rfl)
  | renewAccept m =>
      refine Handler.failsIn_then_never ?_ fun _ _ => rfl
      exact Handler.failsIn_bind keeps_getSignedChannel fun _ _ _ _ =>
        Handler.failsIn_bind (Handler.keeps_lift _) fun _ _ _ _ =>
          Handler.failsIn_bind (Handler.keeps_read _) fun _ _ _ _ =>
            Handler.failsIn_bind (Handler.keeps_lift _) fun _ _ _ _ =>
              Handler.failsIn_then_never failsIn_upsertChannel fun _ _ => rfl
  | renewConfirm m => exact Handler.failsIn_then_never onRenewConfirm_fails fun _ _ => rfl
  | renewFinalize m => exact Handler.failsIn_then_never onRenewFinalize_fails fun _ _ => rfl
  | renewRevoke m =>
      refine Handler.failsIn_then_never ?_ fun _ _ => rfl
      exact Handler.failsIn_bind keeps_getSignedChannel fun _ _ _ _ =>
        Handler.failsIn_bind (Handler.keeps_lift _) fun _ _ _ _ => failsIn_upsertChannel
  | collaborativeCloseOffer m =>
      refine Handler.failsIn_then_never ?_ fun _ _ => rfl
      exact Handler.failsIn_bind keeps_getSignedChannel fun _ _ _ _ =>
        Handler.failsIn_bind (Handler.keeps_lift _) fun _ _ _ _ => failsIn_upsertChannel
  | reject m => exact Handler.failsIn_then_never onReject_fails fun _ _ => rfl

theorem acceptCollaborativeClose_fails :
    Handler.FailsIn SameRecords (acceptCollaborativeClose X (E := E) signer env channelId) := by
  refine Handler.failsIn_bind keeps_getSignedChannel fun _ ch _ _ => ?_
  have closes : Handler.Keeps SameRecords (collaborativelyClosed X (E := E) ch true) := by
    unfold collaborativelyClosed
    split
    next =>
      exact Handler.keeps_bind (Handler.keeps_lift _) fun _ =>
        Handler.keeps_bind keeps_getCollaborativelyClosedContract fun _ => Handler.keeps_pure _
    next => exact Handler.keeps_pure _
  refine Handler.failsIn_bind closes fun _ closed _ closed_before => ?_
  refine Handler.failsIn_bind (Handler.keeps_lift _) fun _ _ _ _ => ?_
  refine Handler.failsIn_bind keeps_broadcast_close fun _ _ _ _ => ?_
  refine Handler.failsIn_then_never failsIn_upsertChannel fun _ n => updateClosed_never ?_ n
  intro contract stored
  obtain ⟨-, rfl | ⟨-, c, -, rfl, -⟩⟩ := collaborativelyClosed_ok closed_before
  · cases stored
  · exact ⟨c, (Option.some.inj stored).symm⟩

theorem onCall_fails {call : Call E.toDescriptors A} (updates : call ≠ .forceCloseChannel) :
    Handler.FailsIn SameRecords (onCall X signer W env channelId call) := by
  cases call with
  | settleOffer =>
      refine Handler.failsIn_then_never ?_ fun _ _ => rfl
      exact Handler.failsIn_bind keeps_getSignedChannel fun _ _ _ _ =>
        Handler.failsIn_bind (Handler.keeps_lift _) fun _ _ _ _ =>
          Handler.failsIn_then_never failsIn_upsertChannel fun _ _ => rfl
  | acceptSettleOffer =>
      refine Handler.failsIn_then_never ?_ fun _ _ => rfl
      exact Handler.failsIn_bind keeps_getSignedChannel fun _ _ _ _ =>
        Handler.failsIn_bind keeps_onChainMonitor fun _ _ _ _ =>
          Handler.failsIn_then_never failsIn_upsertChannel fun _ _ => rfl
  | renewOffer =>
      refine Handler.failsIn_then_never ?_ fun _ _ => rfl
      exact Handler.failsIn_bind keeps_getSignedChannel fun _ _ _ _ =>
        Handler.failsIn_bind (Handler.keeps_lift _) fun _ _ _ _ =>
          Handler.failsIn_bind (Handler.keeps_lift _) fun _ _ _ _ =>
            Handler.failsIn_then_never failsIn_upsertChannel fun _ _ => rfl
  | acceptRenewOffer =>
      refine Handler.failsIn_then_never ?_ fun _ _ => rfl
      exact Handler.failsIn_bind keeps_getSignedChannel fun _ _ _ _ =>
        Handler.failsIn_bind (Handler.keeps_lift _) fun _ _ _ _ =>
          Handler.failsIn_bind (Handler.keeps_read _) fun _ _ _ _ =>
            Handler.failsIn_bind (Handler.keeps_lift _) fun _ _ _ _ =>
              Handler.failsIn_then_never failsIn_upsertChannel fun _ _ => rfl
  | rejectRenewOffer =>
      refine Handler.failsIn_then_never ?_ fun _ _ => rfl
      exact Handler.failsIn_bind keeps_getSignedChannel fun _ _ _ _ =>
        Handler.failsIn_bind (Handler.keeps_lift _) fun _ _ _ _ =>
          Handler.failsIn_bind (Handler.keeps_read _) fun _ _ _ _ =>
            Handler.failsIn_bind (Handler.keeps_lift _) fun _ _ _ _ =>
              Handler.failsIn_then_never failsIn_upsertChannel fun _ _ => rfl
  | rejectSettleOffer =>
      refine Handler.failsIn_then_never ?_ fun _ _ => rfl
      exact Handler.failsIn_bind keeps_getSignedChannel fun _ _ _ _ =>
        Handler.failsIn_bind (Handler.keeps_lift _) fun _ _ _ _ =>
          Handler.failsIn_then_never failsIn_upsertChannel fun _ _ => rfl
  | offerCollaborativeClose =>
      refine Handler.failsIn_then_never ?_ fun _ _ => rfl
      exact Handler.failsIn_bind keeps_getSignedChannel fun _ _ _ _ =>
        Handler.failsIn_bind (Handler.keeps_lift _) fun _ _ _ _ =>
          Handler.failsIn_bind keeps_onChainMonitor fun _ _ _ _ =>
            Handler.failsIn_then_never failsIn_upsertChannel fun _ _ => rfl
  | acceptCollaborativeClose =>
      exact Handler.failsIn_then_never acceptCollaborativeClose_fails fun _ _ => rfl
  | forceCloseChannel => exact absurd rfl updates


end P2PLending.Manager.Channels.Node
