import P2PLending.Manager.Handlers
import P2PLending.Foundation.Runs

/-! What the lender pays for a loan offer. One message makes the handler send at
most one `lendStable`, for the stored offer and with its total collateral, and
it leaves the offer in the store: a second message makes it pay again. -/

namespace P2PLending.Manager
open Dlc Checked

variable {D : Descriptors} (env : Environment) (C : Crypto)

/-! No other message of a loan makes the lender pay. -/

theorem sendTransaction_lent (tx : Transaction) :
    (sendTransaction env tx : Handling D Unit).Keeps (Same Node.lent) := by
  refine Handler.keeps_bind (Handler.keeps_lift _) ?_
  intro _ node
  rfl

theorem onAcceptLoanMessage_lent (msg : AcceptLoanDlc) (counterParty : PublicKey) :
    (onAcceptLoanMessage env C msg counterParty : Handling D SignDlc).Keeps (Same Node.lent) := by
  refine Handler.keeps_bind (Handler.keeps_read _) ?_
  rintro ⟨offered, collateralTx⟩
  refine Handler.keeps_bind (sendTransaction_lent env collateralTx) ?_
  exact fun _ => recordAcceptedLoan_same env C msg (fun _ _ => rfl) offered collateralTx

theorem onOfferLoanMessage_lent (converted : Result (OfferedLoanContract D)) :
    (onOfferLoanMessage env converted).Keeps (Same Node.lent) := by
  refine Handler.keeps_bind (Handler.keeps_lift _) ?_
  intro contract
  refine Handler.keeps_bind (Handler.keeps_read _) ?_
  intro _
  refine Handler.keeps_bind (Handler.keeps_lift _) ?_
  intro _ node
  rfl

/-! The message that makes the lender pay. -/

section Initiate
variable (msg : InitiateAcceptLoanDlc) (counterParty : PublicKey) (evmPk : String)

/-- The hash and the amount that the handler sends, when its gates pass and the
lending contract takes the call. -/
def sentCall (node : Node D) : Option (Bytes32 × ℕ) :=
  match lendStableCall env msg counterParty evmPk node with
  | .ok call => if env.acceptsLendStable call.1 call.2.1 call.2.2 = true then some call.2 else none
  | .error _ => none

variable {env msg counterParty evmPk}

theorem lendStableCall_ok {node : Node D} {call : ℕ × Bytes32 × ℕ}
    (h : lendStableCall env msg counterParty evmPk node = .ok call) :
    ∃ offered, node.store msg.contractId = some (.offeredLoan offered) ∧
      offered.offeredContract.counterParty = counterParty ∧
      call.2 = (msg.borrowerHash, offered.offeredContract.totalCollateral) := by
  simp only [lendStableCall, getContractInOfferedLoan, bind_eq_ok, ensure_eq_ok, Except.ok.injEq] at h
  obtain ⟨_, _, offered, ⟨_, _, gated⟩, contract, _, rfl⟩ := h
  have stored := Store.getOfferedLoan_ok gated
  exact ⟨offered, stored.1, stored.2, rfl⟩

/-- The one thing the handler does to the node. -/
theorem onInitiateAcceptLoanMessage_node (node : Node D) :
    (onInitiateAcceptLoanMessage env msg counterParty evmPk node).2 =
      { node with lent := node.lent ++ (sentCall env msg counterParty evmPk node).toList } := by
  match gates : lendStableCall env msg counterParty evmPk node with
  | .error e => simp [onInitiateAcceptLoanMessage, sentCall, gates]
  | .ok call =>
      cases taken : env.acceptsLendStable call.1 call.2.1 call.2.2 with
      | false => simp [onInitiateAcceptLoanMessage, sentCall, gates, taken, ensure]
      | true =>
          simp only [onInitiateAcceptLoanMessage, sentCall, gates, taken, ensure, if_true,
            Handler.read_bind, Handler.lift_bind, Handler.modify_bind, Option.toList_some]
          rfl

end Initiate

theorem sentCall_eq_some {msg : InitiateAcceptLoanDlc} {counterParty : PublicKey} {evmPk : String}
    {node : Node D} {call : Bytes32 × ℕ} (h : sentCall env msg counterParty evmPk node = some call) :
    ∃ offered, node.store msg.contractId = some (.offeredLoan offered) ∧
      offered.offeredContract.counterParty = counterParty ∧
      call = (msg.borrowerHash, offered.offeredContract.totalCollateral) := by
  unfold sentCall at h
  split at h
  · rename_i passed gates
    obtain ⟨offered, stored, peer, callIs⟩ := lendStableCall_ok gates
    split at h
    · have same : passed.2 = call := Option.some.inj h
      exact ⟨offered, stored, peer, same.symm.trans callIs⟩
    · cases h
  · cases h

/-- The lender pays only for an offer that it stores for the sender of the
message, under the message's hash and for the stored collateral. Neither the
announced transaction nor the chain has a say in it. -/
theorem lendStable_for_stored_offer (msg : InitiateAcceptLoanDlc) (counterParty : PublicKey)
    (evmPk : String) (node : Node D) :
    ((onInitiateAcceptLoanMessage env msg counterParty evmPk node).2.lent = node.lent ∨
      ∃ offered, node.store msg.contractId = some (.offeredLoan offered) ∧
        offered.offeredContract.counterParty = counterParty ∧
        (onInitiateAcceptLoanMessage env msg counterParty evmPk node).2.lent =
          node.lent ++ [(msg.borrowerHash, offered.offeredContract.totalCollateral)]) ∧
    ∀ (escrowTxid : Bytes32) (getTransaction : Bytes32 → Option Transaction)
      (getTransactionConfirmations : Bytes32 → ℕ),
      onInitiateAcceptLoanMessage { env with getTransaction, getTransactionConfirmations }
          { msg with escrowTxid } counterParty evmPk node =
        onInitiateAcceptLoanMessage env msg counterParty evmPk node := by
  refine ⟨?_, fun _ _ _ => rfl⟩
  rw [onInitiateAcceptLoanMessage_node]
  match sent : sentCall env msg counterParty evmPk node with
  | none => exact .inl (List.append_nil _)
  | some call =>
      obtain ⟨offered, stored, peer, rfl⟩ := sentCall_eq_some env sent
      exact .inr ⟨offered, stored, peer, rfl⟩

/-- The announced transaction is confirmed and locks the collateral in the escrow
of these keys and this hash. -/
def EscrowBacks (msg : InitiateAcceptLoanDlc) (offered : OfferedContract D)
    (borrowerPubkey : PublicKey) : Prop :=
  ∃ tx, env.getTransaction msg.escrowTxid = some tx ∧
    nbConfirmations ≤ env.getTransactionConfirmations msg.escrowTxid ∧
    ∃ o ∈ tx.output, offered.totalCollateral ≤ o.value ∧
      o.scriptPubkey = toP2wsh C (Script.toBytes (makeLoanFundingRedeemscript borrowerPubkey
        offered.offerParams.fundPubkey escrowLocktime msg.borrowerHash))

/-- The lender pays for an announced transaction that its node does not know. -/
theorem lendStable_without_escrow :
    (onInitiateAcceptLoanMessage sampleEnvironment ⟨7, 1, 9⟩ sampleKey₂ sampleEvmKey
        sampleNode).2.lent = [(1, 100000000)] ∧
      ∀ borrowerPubkey, ¬ EscrowBacks sampleEnvironment sampleCrypto ⟨7, 1, 9⟩
        sampleLoanOffer.offeredContract borrowerPubkey := by
  refine ⟨by rfl, ?_⟩
  rintro borrowerPubkey ⟨tx, known, _⟩
  cases known

/-! Runs of messages from peers, with the calls sent for the offer under each id. -/

inductive PeerMessage (D : Descriptors)
  | offerLoan (converted : Result (OfferedLoanContract D))
  | initiateAcceptLoan (msg : InitiateAcceptLoanDlc) (evmPk : String)
  | acceptLoan (msg : AcceptLoanDlc)

/-- The id that a message names. -/
def PeerMessage.contractId : PeerMessage D → Option ContractId
  | .offerLoan converted => converted.toOption.map fun c => c.offeredContract.id
  | .initiateAcceptLoan msg _ => some msg.contractId
  | .acceptLoan msg => some msg.temporaryContractId

/-- A message in its environment. -/
structure Delivery (D : Descriptors) where
  env : Environment
  counterParty : PublicKey
  message : PeerMessage D

def Node.deliver (node : Node D) (d : Delivery D) : Node D :=
  match d.message with
  | .offerLoan converted => (onOfferLoanMessage d.env converted node).2
  | .initiateAcceptLoan msg evmPk =>
      (onInitiateAcceptLoanMessage d.env msg d.counterParty evmPk node).2
  | .acceptLoan msg => (onAcceptLoanMessage d.env C msg d.counterParty node).2

/-- The calls that a message makes the node send. -/
def Delivery.sent (d : Delivery D) (node : Node D) : Option (Bytes32 × ℕ) :=
  match d.message with
  | .initiateAcceptLoan msg evmPk => sentCall d.env msg d.counterParty evmPk node
  | _ => none

theorem deliver_lent (node : Node D) (d : Delivery D) :
    (node.deliver C d).lent = node.lent ++ (d.sent node).toList := by
  obtain ⟨env, counterParty, message⟩ := d
  cases message with
  | offerLoan converted =>
      exact (onOfferLoanMessage_lent env converted node).trans (List.append_nil _).symm
  | initiateAcceptLoan msg evmPk =>
      exact congrArg Node.lent (onInitiateAcceptLoanMessage_node node)
  | acceptLoan msg =>
      exact (onAcceptLoanMessage_lent env C msg counterParty node).trans (List.append_nil _).symm

theorem sent_names_stored {d : Delivery D} {node : Node D} (sent : (d.sent node).isSome) :
    ∃ id, d.message.contractId = some id ∧ (node.store id).isSome := by
  obtain ⟨env, counterParty, message⟩ := d
  cases message with
  | offerLoan converted => cases sent
  | acceptLoan msg => cases sent
  | initiateAcceptLoan msg evmPk =>
      obtain ⟨call, sentIs⟩ := Option.isSome_iff_exists.mp sent
      obtain ⟨offered, stored, _⟩ := sentCall_eq_some env sentIs
      exact ⟨msg.contractId, rfl, by rw [stored]; rfl⟩

/-- A node and the number of calls it has sent for the offer stored under each id.
The count of an id starts over while nothing is stored there. -/
structure Funding (D : Descriptors) where
  node : Node D
  funded : ContractId → ℕ

namespace Funding

def start (node : Node D) : Funding D := ⟨node, fun _ => 0⟩

def deliver (s : Funding D) (d : Delivery D) : Funding D where
  node := s.node.deliver C d
  funded id :=
    if (s.node.store id).isNone then 0
    else if d.message.contractId = some id then
      s.funded id + ((s.node.deliver C d).lent.length - s.node.lent.length)
    else s.funded id

/-- Every stored offer was funded at most once. -/
def Once (s : Funding D) : Prop := ∀ id, s.funded id ≤ 1

/-- The message does not make the lender pay for an offer that it has funded. -/
def NoReplay (s : Funding D) (d : Delivery D) : Prop :=
  ∀ id, d.message.contractId = some id → (d.sent s.node).isSome → s.funded id = 0

def step (s : Funding D) (d : Delivery D) (t : Funding D) : Prop := t = s.deliver C d

theorem deliver_funded_le (s : Funding D) (d : Delivery D) (id : ContractId)
    (other : ¬ (d.message.contractId = some id ∧ (d.sent s.node).isSome)) :
    (s.deliver C d).funded id ≤ s.funded id := by
  simp only [deliver, deliver_lent, List.length_append]
  split
  · exact Nat.zero_le _
  · split
    · rename_i named
      have silent : d.sent s.node = none := by
        cases sent : d.sent s.node with
        | none => rfl
        | some call => exact absurd ⟨named, by rw [sent]; rfl⟩ other
      simp [silent]
    · exact le_rfl

theorem deliver_funded_sent {s : Funding D} {d : Delivery D} {id : ContractId}
    (named : d.message.contractId = some id) (sent : (d.sent s.node).isSome) :
    (s.deliver C d).funded id = s.funded id + 1 := by
  obtain ⟨stored, sameId, present⟩ := sent_names_stored sent
  cases named.symm.trans sameId
  obtain ⟨call, sentIs⟩ := Option.isSome_iff_exists.mp sent
  have kept : s.node.store id ≠ none := Option.isSome_iff_ne_none.mp present
  simp [deliver, deliver_lent, kept, named, sentIs]

/-- From a state that funded every offer at most once, a message keeps that
exactly when it is no replay. -/
theorem once_deliver_iff {s : Funding D} (once : s.Once) (d : Delivery D) :
    (s.deliver C d).Once ↔ s.NoReplay d := by
  constructor
  · intro after id named sent
    have counted := deliver_funded_sent C named sent
    have bound := after id
    omega
  · intro fresh id
    by_cases sent : d.message.contractId = some id ∧ (d.sent s.node).isSome
    · rw [deliver_funded_sent C sent.1 sent.2, fresh id sent.1 sent.2]
    · exact (deliver_funded_le C s d id sent).trans (once id)

/-- The runs that fund every offer at most once, in every state they reach, are
the runs in which no message is a replay. -/
theorem funded_once_iff_no_replay (node : Node D) (ds : List (Delivery D)) (s : Funding D) :
    Run (fun s d t => step C s d t ∧ t.Once) (start node) ds s ↔
      Run (guarded (step C) NoReplay) (start node) ds s := by
  apply Run.through_iff_guarded
  · exact fun id => Nat.zero_le 1
  · intro s d t once delivered
    rw [delivered]
    exact once_deliver_iff C once d

/-- Two first acceptances of one offer, with different hashes. -/
theorem second_acceptance_funds_twice :
    ∃ s, Run (step sampleCrypto) (start sampleNode)
      [⟨sampleEnvironment, sampleKey₂, .initiateAcceptLoan ⟨7, 1, 9⟩ sampleEvmKey⟩,
        ⟨sampleEnvironment, sampleKey₂, .initiateAcceptLoan ⟨7, 2, 9⟩ sampleEvmKey⟩] s ∧
      s.node.lent = [(1, 100000000), (2, 100000000)] ∧ s.funded 7 = 2 := by
  refine ⟨_, (Run.nil.snoc rfl).snoc rfl, ?_, ?_⟩
  · rfl
  · rfl

end Funding

end P2PLending.Manager
