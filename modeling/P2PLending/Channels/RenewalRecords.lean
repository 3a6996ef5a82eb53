import P2PLending.Channels.ChannelFaults
import P2PLending.Channels.RenewedRefund
import P2PLending.Manager.ContractRecords

/-! The records of a channel's contracts. A renewal is offered without a look at what is under
its temporary id; the offering party stores it as confirmed once the peer has accepted, and
leaves the offer where it was. -/

namespace P2PLending.Manager.Channels
open Dlc Checked

section Stages
variable {X : ChannelCrypto} {D : Descriptors} {store : Store D} {id : ContractId}

theorem writesFrom_upsertChannel {channel : ChannelRecord X} {before c : Contract D}
    (stored : store id = some before) (becomes : before.Becomes X.toCrypto id c) :
    WritesFrom X.toCrypto Node.contracts store (upsertChannel channel (some c)) := by
  intro n at_
  subst at_
  rw [upsertChannel_some]
  cases updated : n.contracts.updateContract X.toCrypto c with
  | error e => exact refl_of (Writes X.toCrypto) n.contracts
  | ok contracts => exact Writes.write stored becomes updated

theorem writesFrom_updateContract {before c : Contract D}
    (stored : store id = some before) (becomes : before.Becomes X.toCrypto id c) :
    WritesFrom X.toCrypto Node.contracts store (updateContract (X := X) c) := by
  intro n at_
  subst at_
  rw [updateContract, Handler.read_bind]
  cases updated : n.contracts.updateContract X.toCrypto c with
  | error e => exact refl_of (Writes X.toCrypto) n.contracts
  | ok contracts => exact Writes.write stored becomes updated

/-- What is to be closed has a record. -/
def ClosesStored (store : Store D) (closed : Option (Contract D)) : Prop :=
  ∀ contract, closed = some contract →
    ∃ c before, contract = .closed c ∧ store c.contractId = some before

theorem closedContract_stored {n n' : Node X D} {payout : ℕ} {own : Bool} {contract : Contract D}
    (closes : getCollaborativelyClosedContract id payout own n = (.ok contract, n')) :
    ∃ c before, contract = .closed c ∧ n.contracts c.contractId = some before := by
  simp only [getCollaborativelyClosedContract, Handler.bind_ok, Handler.read_ok, Handler.lift_ok,
    Handler.pure_ok] at closes
  obtain ⟨signed, _, ⟨read, rfl⟩, _, _, ⟨_, rfl⟩, rfl, rfl⟩ := closes
  obtain ⟨before, stored, _⟩ := Store.getInState_ok.mp read
  exact ⟨_, before, rfl, stored⟩

theorem ClosesStored.becomes {c : ClosedContract} {before : Contract D} :
    before.Becomes X.toCrypto c.contractId (.closed c) :=
  .stays (.inr rfl) (by simp)

/-- A read that only looks at the contracts. -/
theorem getOffered_stored {n n' : Node X D} {peer : Option PublicKey} {offered : OfferedContract D}
    (read : Handler.read (ε := Fault Error) (fun n : Node X D => n.contracts.getOffered id peer) n =
      (.ok offered, n')) : n.contracts id = some (.offered offered) := by
  obtain ⟨c, stored, -, picked⟩ := Store.getInState_ok.mp (Handler.read_ok.mp read).1
  rwa [Contract.offered?_eq_some.mp picked] at stored

theorem getAccepted_stored {n n' : Node X D} {peer : Option PublicKey}
    {accepted : AcceptedContract D}
    (read : Handler.read (ε := Fault Error) (fun n : Node X D => n.contracts.getAccepted id peer) n =
      (.ok accepted, n')) : n.contracts id = some (.accepted accepted) := by
  obtain ⟨c, stored, -, picked⟩ := Store.getInState_ok.mp (Handler.read_ok.mp read).1
  rwa [Contract.accepted?_eq_some.mp picked] at stored

end Stages

namespace Node
variable {X : ChannelCrypto} {signer : Signer} {E : SigningDescriptors}
  {env : Environment E.toDescriptors} {store : Store E.toDescriptors} {peer : PublicKey}
  {channelId : ChannelId} {ch : SignedChannel X}

theorem updateClosed_writes {closed : Option (Contract E.toDescriptors)}
    (stored : ClosesStored store closed) :
    WritesFrom X.toCrypto Node.contracts store (updateClosed X closed) := by
  cases closed with
  | none => exact .of_same fun _ => rfl
  | some contract =>
      obtain ⟨c, before, rfl, found⟩ := stored contract rfl
      exact writesFrom_updateContract found ClosesStored.becomes

theorem closing_keeps {payout : ℕ} {own : Bool} {id : ContractId} :
    Handler.Keeps (SameUnder Node.contracts)
      (getCollaborativelyClosedContract (X := X) (D := E.toDescriptors) id payout own) :=
  fun n => (keeps_getCollaborativelyClosedContract n).contracts

theorem finishSettlement_writes {before : SignedChannelState.Established} {payout : ℕ} :
    WritesFrom X.toCrypto Node.contracts store (finishSettlement X (E := E) ch before payout) := by
  refine .bind (fun _ => rfl) fun _ _ _ _ _ => ?_
  refine .bind closing_keeps fun n _ _ at_ closes => ?_
  obtain ⟨c, stored, rfl, found⟩ := closedContract_stored closes
  rw [at_] at found
  exact (writesFrom_upsertChannel found ClosesStored.becomes).before fun _ _ => rfl

theorem onSettleConfirm_writes (m : SettleConfirm) :
    WritesFrom X.toCrypto Node.contracts store (onSettleConfirm X signer (E := E) m peer) := by
  refine .bind (fun _ => rfl) fun _ _ _ _ _ => ?_
  refine .bind (fun _ => rfl) fun _ _ _ _ _ => ?_
  refine .bind (fun _ => rfl) fun _ _ _ _ _ => ?_
  refine .bind (fun _ => rfl) fun _ _ _ _ _ => ?_
  exact finishSettlement_writes.before fun _ _ => rfl

theorem onSettleFinalize_writes (m : SettleFinalize) :
    WritesFrom X.toCrypto Node.contracts store (onSettleFinalize X (E := E) m peer) := by
  refine .bind (fun _ => rfl) fun _ _ _ _ _ => ?_
  refine .bind (fun _ => rfl) fun _ _ _ _ _ => ?_
  refine .bind (fun _ => rfl) fun _ _ _ _ _ => ?_
  refine .bind (fun _ => rfl) fun _ _ _ _ _ => ?_
  exact finishSettlement_writes

section Renewals
variable {W : Wire E.toDescriptors} {A : Type}

theorem onRenewOffer_writes (m : RenewOffer W.ContractInfo) :
    WritesFrom X.toCrypto Node.contracts store (onRenewOffer X env W m peer) := by
  refine .bind (fun _ => rfl) fun _ ch _ _ _ => ?_
  split
  · exact .of_same fun _ => rfl
  · refine .bind (fun _ => rfl) fun _ renewed _ _ _ => ?_
    refine WritesFrom.before (fun n at_ => ?_) fun _ _ => rfl
    subst at_
    exact Writes.create (c := .offered renewed.2) trivial false (by simp)

/-- The offer becomes a confirmed contract at once. -/
theorem onRenewAccept_writes (m : RenewAccept) :
    WritesFrom X.toCrypto Node.contracts store (onRenewAccept X signer env m peer) := by
  refine .bind (fun _ => rfl) fun _ _ _ _ _ => ?_
  refine .bind (fun _ => rfl) fun _ _ _ _ _ => ?_
  refine .bind (fun _ => rfl) fun n offered _ at_ read => ?_
  have stored := getOffered_stored read
  rw [at_] at stored
  refine .bind (fun _ => rfl) fun _ confirmed _ _ confirms => ?_
  obtain ⟨_, _, _, _, _, -, -, ⟨_, _, _, _, signs⟩, -⟩ :=
    verifyRenewAcceptAndConfirm_ok (Handler.lift_ok.mp confirms).1
  simp only [Internal.verifyAcceptedAndSignContract, bind_eq_ok, Prod.exists, Except.ok.injEq,
    Prod.mk.injEq] at signs
  obtain ⟨_, _, _, _, _, _, _, _, _, same, -⟩ := signs
  have renews := congrArg (fun c : SignedContract _ => c.acceptedContract.offeredContract) same
  exact (writesFrom_upsertChannel stored (.renews renews.symm)).before fun _ _ => rfl

theorem renewedFrom_stored {payout : ℕ} {unexpected : String} {n n' : Node X E.toDescriptors}
    {renewed : TxType × Bytes32 × Option (Contract E.toDescriptors)}
    (ran : renewedFrom X ch payout unexpected n = (.ok renewed, n')) :
    ClosesStored n.contracts renewed.2.2 := by
  unfold renewedFrom at ran
  rcases before : ch.rollBackState with _ | state
  · rw [before] at ran
    cases ran
  · cases state with
    | established b =>
        rw [before] at ran
        simp only [Handler.bind_ok, Handler.pure_ok] at ran
        obtain ⟨closed, _, closes, rfl, rfl⟩ := ran
        intro contract same
        obtain rfl := Option.some.inj same
        exact closedContract_stored closes
    | settled b =>
        rw [before] at ran
        obtain ⟨rfl, rfl⟩ := Handler.pure_ok.mp ran
        rintro _ ⟨⟩
    | _ =>
        rw [before] at ran
        cases ran

/-- What is under an id before a confirmed contract is stored, is under it after. -/
theorem ClosesStored.after {store' : Store E.toDescriptors} {signed : SignedContract E.toDescriptors}
    {closed : Option (Contract E.toDescriptors)} (stored : ClosesStored store closed)
    (updated : store.updateContract X.toCrypto (.confirmed signed) = .ok store') :
    ClosesStored store' closed := by
  obtain ⟨k, own, written⟩ := bind_eq_ok.mp updated
  obtain rfl := Except.ok.inj written
  intro contract same
  obtain ⟨c, before, rfl, found⟩ := stored contract same
  by_cases here : c.contractId = k
  · exact ⟨c, .confirmed signed, rfl, by rw [here, Store.insert, Function.update_self]⟩
  · exact ⟨c, before, rfl, by rwa [Store.insert, Function.update_of_ne here]⟩

theorem onRenewConfirm_writes (m : RenewConfirm) :
    WritesFrom X.toCrypto Node.contracts store (onRenewConfirm X signer env m peer) := by
  refine .bind (fun _ => rfl) fun _ _ _ _ _ => ?_
  refine .bind (fun _ => rfl) fun _ _ _ _ _ => ?_
  refine .bind (fun _ => rfl) fun _ _ _ _ _ => ?_
  refine .bind (fun n => (keeps_renewedFrom n).contracts) fun n renewed _ at_ ran => ?_
  have closes := renewedFrom_stored ran
  rw [at_] at closes
  refine .bind (fun _ => rfl) fun n accepted _ at_ read => ?_
  have stored := getAccepted_stored read
  rw [at_] at stored
  refine .bind (fun _ => rfl) fun _ finalized _ _ finalizes => ?_
  refine .bind (fun _ => rfl) fun _ _ _ _ _ => ?_
  refine WritesFrom.next (writesFrom_upsertChannel stored (.stays ?_ (by simp)))
    fun n _ n' at_ upserted => ?_
  · obtain ⟨_, finalizes, _⟩ := onChainMonitor_ok.mp finalizes
    obtain ⟨_, _, _, _, _, -, -, ⟨_, _, _, verified⟩, -⟩ := verifyRenewConfirmAndFinalize_ok finalizes
    simp only [Internal.verifySignedContract, bind_eq_ok, Except.ok.injEq, Prod.mk.injEq] at verified
    obtain ⟨_, _, _, _, same, -⟩ := verified
    have renewed := congrArg SignedContract.acceptedContract same
    exact .inl (congrArg (AcceptedContract.getContractId X.toCrypto) renewed.symm)
  · obtain ⟨contracts, updated, rfl⟩ := upsertChannel_some_ok.mp upserted
    rw [at_] at updated
    refine .bind (fun _ => rfl) fun _ _ _ _ _ => ?_
    exact (updateClosed_writes (ClosesStored.after closes updated)).before fun _ _ => rfl

theorem onRenewFinalize_writes (m : RenewFinalize) :
    WritesFrom X.toCrypto Node.contracts store (onRenewFinalize X (E := E) signer m peer) := by
  refine .bind (fun _ => rfl) fun _ _ _ _ _ => ?_
  refine .bind (fun _ => rfl) fun _ _ _ _ _ => ?_
  refine .bind (fun n => (keeps_renewedFrom n).contracts) fun n renewed _ at_ ran => ?_
  have closes := renewedFrom_stored ran
  rw [at_] at closes
  refine .bind (fun _ => rfl) fun _ _ _ _ _ => ?_
  refine .bind (fun _ => rfl) fun _ _ _ _ _ => ?_
  refine .bind (fun _ => rfl) fun _ _ _ _ _ => ?_
  refine .bind (fun _ => rfl) fun _ _ _ _ _ => ?_
  refine .bind (fun _ => rfl) fun _ _ _ _ _ => ?_
  refine .bind (fun _ => rfl) fun _ _ _ _ _ => ?_
  exact (updateClosed_writes closes).before fun _ _ => rfl

theorem renewOffer_writes {counterPayout : ℕ} {input : ContractInput E.toDescriptors A}
    {announcements : Result (List (List (OracleAnnouncement A)))} :
    WritesFrom X.toCrypto Node.contracts store
      (renewOffer X signer env W channelId counterPayout input announcements) := by
  refine .bind (fun _ => rfl) fun _ _ _ _ _ => ?_
  refine .bind (fun _ => rfl) fun _ _ _ _ _ => ?_
  refine .bind (fun _ => rfl) fun _ offer _ _ _ => ?_
  refine WritesFrom.before (fun n at_ => ?_) fun _ _ => rfl
  subst at_
  exact Writes.create (c := .offered offer.2.2) trivial false (by simp)

theorem acceptRenewOffer_writes :
    WritesFrom X.toCrypto Node.contracts store (acceptRenewOffer X signer env channelId) := by
  refine .bind (fun _ => rfl) fun _ _ _ _ _ => ?_
  refine .bind (fun _ => rfl) fun _ _ _ _ _ => ?_
  refine .bind (fun _ => rfl) fun n offered _ at_ read => ?_
  have stored := getOffered_stored read
  rw [at_] at stored
  refine .bind (fun _ => rfl) fun _ accepted _ _ accepts => ?_
  obtain ⟨_, _, _, _, -, -, -, ⟨_, _, _, accepts⟩, -⟩ :=
    acceptChannelRenewal_ok (Handler.lift_ok.mp accepts).1
  have same := internal_acceptContract_offered accepts
  exact (writesFrom_upsertChannel stored (.accepts same)).before fun _ _ => rfl

theorem rejectRenewOffer_writes :
    WritesFrom X.toCrypto Node.contracts store (rejectRenewOffer X (E := E) channelId) := by
  refine .bind (fun _ => rfl) fun _ _ _ _ _ => ?_
  refine .bind (fun _ => rfl) fun _ id _ _ _ => ?_
  refine .bind (fun _ => rfl) fun n offered _ at_ read => ?_
  have stored := getOffered_stored read
  rw [at_] at stored
  refine .bind (fun _ => rfl) fun _ _ _ _ _ => ?_
  have rejects : (Contract.offered offered).Becomes X.toCrypto id (.rejected offered) :=
    .stays (.inl rfl) (by simp)
  exact (writesFrom_upsertChannel stored rejects).before fun _ _ => rfl

theorem rejectedContract_keeps :
    Handler.Keeps (SameUnder Node.contracts) (rejectedContract X (E := E) ch) := by
  unfold rejectedContract
  split
  · exact Handler.keeps_bind (Handler.keeps_read _) fun _ => Handler.keeps_pure _
  · exact Handler.keeps_pure _

theorem rejectedContract_stored {n n' : Node X E.toDescriptors}
    {contract : Option (Contract E.toDescriptors)}
    (ran : rejectedContract X ch n = (.ok contract, n')) :
    contract = none ∨ ∃ id offered, contract = some (.rejected offered) ∧
      n.contracts id = some (.offered offered) := by
  unfold rejectedContract at ran
  cases state : ch.state with
  | renewOffered s =>
      rw [state] at ran
      obtain ⟨offered, _, read, picked⟩ := Handler.bind_ok.mp ran
      obtain ⟨rfl, rfl⟩ := Handler.pure_ok.mp picked
      exact .inr ⟨_, offered, rfl, getOffered_stored read⟩
  | _ =>
      rw [state] at ran
      exact .inl (Handler.pure_ok.mp ran).1.symm

theorem onReject_writes (m : Reject) :
    WritesFrom X.toCrypto Node.contracts store (onReject X (E := E) m peer) := by
  refine .bind (fun _ => rfl) fun _ stored _ _ _ => ?_
  cases stored with
  | none => exact .of_same fun _ => rfl
  | some channel =>
      refine .bind (fun _ => rfl) fun _ _ _ _ _ => ?_
      cases channel with
      | closed | counterClosed | collaborativelyClosed | closedPunished =>
          exact .of_same fun _ => rfl
      | signed ch =>
          refine .bind rejectedContract_keeps fun n contract _ at_ rejected => ?_
          refine .bind (fun _ => rfl) fun _ _ _ _ _ => ?_
          rcases rejectedContract_stored rejected with rfl | ⟨id, offered, rfl, found⟩
          · exact .of_same fun _ => rfl
          · rw [at_] at found
            exact writesFrom_upsertChannel found (.stays (.inl rfl) (by simp))

theorem collaborativelyClosed_keeps {own : Bool} :
    Handler.Keeps (SameUnder Node.contracts) (collaborativelyClosed X (E := E) ch own) := by
  unfold collaborativelyClosed
  split
  · exact Handler.keeps_bind (Handler.keeps_lift _) fun _ =>
      Handler.keeps_bind closing_keeps fun _ => Handler.keeps_pure _
  · exact Handler.keeps_pure _

theorem collaborativelyClosed_stored {own : Bool} {n n' : Node X E.toDescriptors}
    {closed : Option (Contract E.toDescriptors)}
    (ran : collaborativelyClosed X ch own n = (.ok closed, n')) :
    ClosesStored n.contracts closed := by
  unfold collaborativelyClosed at ran
  rcases before : ch.rollBackState with _ | state
  · rw [before] at ran
    obtain ⟨rfl, rfl⟩ := Handler.pure_ok.mp ran
    rintro _ ⟨⟩
  · cases state with
    | established b =>
        rw [before] at ran
        simp only [Handler.bind_ok, Handler.lift_ok, Handler.pure_ok] at ran
        obtain ⟨_, _, ⟨-, rfl⟩, contract, _, closes, rfl, rfl⟩ := ran
        intro contract same
        obtain rfl := Option.some.inj same
        exact closedContract_stored closes
    | _ =>
        rw [before] at ran
        obtain ⟨rfl, rfl⟩ := Handler.pure_ok.mp ran
        rintro _ ⟨⟩

theorem acceptCollaborativeClose_writes :
    WritesFrom X.toCrypto Node.contracts store
      (acceptCollaborativeClose X signer env channelId) := by
  refine .bind (fun _ => rfl) fun _ _ _ _ _ => ?_
  refine .bind collaborativelyClosed_keeps fun n closed _ at_ ran => ?_
  have closes := collaborativelyClosed_stored ran
  rw [at_] at closes
  refine .bind (fun _ => rfl) fun _ _ _ _ _ => ?_
  refine .bind (fun _ => rfl) fun _ _ _ _ _ => ?_
  exact .bind (fun _ => rfl) fun _ _ _ _ _ => updateClosed_writes closes

/-- What a message does to the contracts are writes of records. -/
theorem onDlcMessage_writes (m : DlcMessage W.ContractInfo) :
    WritesFrom X.toCrypto Node.contracts store (onDlcMessage X signer W env peer m) := by
  cases m with
  | settleConfirm m => exact (onSettleConfirm_writes m).before fun _ _ => rfl
  | settleFinalize m => exact (onSettleFinalize_writes m).before fun _ _ => rfl
  | renewOffer m => exact (onRenewOffer_writes m).before fun _ _ => rfl
  | renewAccept m => exact (onRenewAccept_writes m).before fun _ _ => rfl
  | renewConfirm m => exact (onRenewConfirm_writes m).before fun _ _ => rfl
  | renewFinalize m => exact (onRenewFinalize_writes m).before fun _ _ => rfl
  | reject m => exact (onReject_writes m).before fun _ _ => rfl
  | settleOffer m =>
      refine WritesFrom.before ?_ fun _ _ => rfl
      refine .bind (fun _ => rfl) fun _ ch _ _ _ => ?_
      split
      · exact .of_same fun _ => rfl
      · exact .bind (fun _ => rfl) fun _ _ _ _ _ => .of_same fun _ => rfl
  | settleAccept m =>
      refine WritesFrom.before ?_ fun _ _ => rfl
      refine .bind (fun _ => rfl) fun _ _ _ _ _ => ?_
      exact .bind (fun _ => rfl) fun _ _ _ _ _ => .of_same fun _ => rfl
  | renewRevoke m =>
      refine WritesFrom.before ?_ fun _ _ => rfl
      refine .bind (fun _ => rfl) fun _ _ _ _ _ => ?_
      exact .bind (fun _ => rfl) fun _ _ _ _ _ => .of_same fun _ => rfl
  | collaborativeCloseOffer m =>
      refine WritesFrom.before ?_ fun _ _ => rfl
      refine .bind (fun _ => rfl) fun _ _ _ _ _ => ?_
      exact .bind (fun _ => rfl) fun _ _ _ _ _ => .of_same fun _ => rfl

theorem forceCloseFrom_keeps {isInitiator : Bool} {otherwise : NodeHandler X E.toDescriptors Unit}
    (keeps : otherwise.Keeps (SameUnder Node.contracts)) :
    (forceCloseFrom X signer env ch isInitiator otherwise).Keeps (SameUnder Node.contracts) := by
  have established : ∀ signature tx, (initiateUnilateralCloseEstablishedChannel X signer env ch
      isInitiator signature tx).Keeps (SameUnder Node.contracts) := by
    intro signature tx
    refine Handler.keeps_bind (Handler.keeps_lift _) fun _ => ?_
    refine Handler.keeps_bind (fun _ => rfl) fun _ => ?_
    exact Handler.keeps_bind (fun _ => rfl) fun _ _ => rfl
  have settled : (closeSettledChannel X signer env ch isInitiator).Keeps
      (SameUnder Node.contracts) := by
    refine Handler.keeps_bind (Handler.keeps_lift _) fun closed => ?_
    rcases closed with ⟨settleTx, closedChannel⟩
    dsimp only
    split
    · exact Handler.keeps_bind (fun _ => rfl) fun _ _ => rfl
    · exact fun _ => rfl
  unfold forceCloseFrom
  split
  · exact established _ _
  · exact established _ _
  · exact settled
  · exact Handler.keeps_lift _
  all_goals exact keeps

theorem forceCloseChannelInternal_keeps {isInitiator : Bool} :
    (forceCloseChannelInternal X signer env ch isInitiator).Keeps (SameUnder Node.contracts) :=
  forceCloseFrom_keeps (Handler.keeps_bind (Handler.keeps_lift _) fun _ =>
    forceCloseFrom_keeps (Handler.keeps_lift _))

/-- So are those of a local call. -/
theorem onCall_writes (call : Call E.toDescriptors A) :
    WritesFrom X.toCrypto Node.contracts store (onCall X signer W env channelId call) := by
  cases call with
  | renewOffer => exact renewOffer_writes.before fun _ _ => rfl
  | acceptRenewOffer => exact acceptRenewOffer_writes.before fun _ _ => rfl
  | rejectRenewOffer => exact rejectRenewOffer_writes.before fun _ _ => rfl
  | acceptCollaborativeClose => exact acceptCollaborativeClose_writes.before fun _ _ => rfl
  | settleOffer =>
      refine WritesFrom.before ?_ fun _ _ => rfl
      refine .bind (fun _ => rfl) fun _ _ _ _ _ => ?_
      exact .bind (fun _ => rfl) fun _ _ _ _ _ => .of_same fun _ => rfl
  | acceptSettleOffer =>
      refine WritesFrom.before ?_ fun _ _ => rfl
      refine .bind (fun _ => rfl) fun _ _ _ _ _ => ?_
      exact .bind (fun _ => rfl) fun _ _ _ _ _ => .of_same fun _ => rfl
  | rejectSettleOffer =>
      refine WritesFrom.before ?_ fun _ _ => rfl
      refine .bind (fun _ => rfl) fun _ _ _ _ _ => ?_
      exact .bind (fun _ => rfl) fun _ _ _ _ _ => .of_same fun _ => rfl
  | offerCollaborativeClose =>
      refine WritesFrom.before ?_ fun _ _ => rfl
      refine .bind (fun _ => rfl) fun _ _ _ _ _ => ?_
      exact .bind (fun _ => rfl) fun _ _ _ _ _ => .of_same fun _ => rfl
  | forceCloseChannel =>
      refine WritesFrom.before ?_ fun _ _ => rfl
      exact .bind (fun _ => rfl) fun _ _ _ _ _ => .of_same forceCloseChannelInternal_keeps

end Renewals

end Node

/-! The first party offers a renewal, and the second one accepts it. -/

def renewalInput : ContractInput channelSigning.toDescriptors Unit :=
  sampleInput 100000000 100000000

def renewalAnswered : SampleHistory :=
  sampleNext 2 (.call 77 .acceptRenewOffer)
    (sampleHeardOffer renewalInput (sampleStart 1) (sampleStart 2) 0)

def renewalConfirmed : SampleHistory :=
  sampleHears 1 (sampleMessages renewalAnswered 0) (sampleProposed renewalInput (sampleStart 1))

/-- Which contract has a record under the id, and in which state. -/
def SampleHistory.record (h : SampleHistory) (id : ContractId) : Option (ContractId × String) :=
  (h.node.contracts id).map fun c => (c.getTemporaryId, c.state)

/-- The temporary id and the contract id, as the channel of the first party has them. -/
def renewalIds : Option (ContractId × ContractId) :=
  match (sampleProposed renewalInput (sampleStart 1)).node.channel, renewalConfirmed.node.channel with
  | .signed before, .signed after => do
      let t ← before.state.contractId
      let id ← after.state.contractId
      some (t, id)
  | _, _ => none

/-- The party that offered a renewal keeps two records of the contract: the offer stays under
the temporary id. -/
theorem renewed_contract_twice :
    (∃ turns, SampleRun 1 turns renewalConfirmed) ∧
    (∃ t id, t ≠ id ∧ renewalConfirmed.record t = some (t, "offered") ∧
      renewalConfirmed.record id = some (t, "confirmed")) ∧
    ∃ r, Run (Records.Step sampleCrypto) Records.start
        [.creates false (.offered (sampleSignedContract true).acceptedContract.offeredContract),
          .writes 7 (.confirmed (sampleSignedContract true))] r ∧
      ¬ Records.OneEach sampleCrypto r := by
  refine ⟨?_, ?_, ?_⟩
  · exact sampleHears_run _ ⟨_, Run.nil.snoc rfl⟩
  · have twice : renewalIds.any (fun ids => decide (ids.1 ≠ ids.2 ∧
        renewalConfirmed.record ids.1 = some (ids.1, "offered") ∧
        renewalConfirmed.record ids.2 = some (ids.1, "confirmed"))) = true := by decide +kernel
    cases named : renewalIds with
    | none =>
        rw [named] at twice
        cases twice
    | some ids =>
        rw [named] at twice
        exact ⟨ids.1, ids.2, of_decide_eq_true twice⟩
  · let offer : Contract sampleDescriptors :=
      .offered (sampleSignedContract true).acceptedContract.offeredContract
    have apart : (sampleSignedContract true).acceptedContract.getContractId sampleCrypto ≠ .ok 7 ∧
        ((sampleSignedContract true).acceptedContract.getContractId sampleCrypto).isOk = true := by
      decide +kernel
    cases own : (sampleSignedContract true).acceptedContract.getContractId sampleCrypto with
    | error e =>
        rw [own] at apart
        cases apart.2
    | ok k =>
        rw [own] at apart
        have other : (7 : ContractId) ≠ k := fun same => apart.1 (congrArg Except.ok same.symm)
        have stored : (Records.start (D := sampleDescriptors)).store.insert 7 offer 7 = some offer :=
          Function.update_self ..
        let confirmed := Contract.confirmed (sampleSignedContract true)
        have updated : ((Records.start (D := sampleDescriptors)).store.insert 7 offer).updateContract
            sampleCrypto confirmed = .ok (((Records.start (D := sampleDescriptors)).store.insert 7
              offer).insert k confirmed) := by
          rw [Store.updateContract, Contract.getId, own]
          rfl
        refine ⟨⟨_, relocate [(7, offer)] 7 (k, confirmed)⟩, (Run.nil.snoc ⟨trivial, by simp, rfl⟩).snoc
          ⟨offer, k, stored, .renews rfl, own, updated, rfl⟩, fun one => ?_⟩
        · have stays := (one.mirrors.holds 7 offer).mp ((Function.update_of_ne other ..).trans stored)
          have listed := List.mem_singleton.mp stays
          exact other (congrArg Prod.fst listed)

end P2PLending.Manager.Channels
