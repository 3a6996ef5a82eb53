import P2PLending.Contract.LoanSteps
import P2PLending.Contract.Token

/-! The Bitcoin payments behind the loans of a run outside test mode. Every loan
is created for a payment that the light client confirmed and that pays its
request. The contract does not remember payments: one transaction can back several
loans, but only for requests that it pays alike. -/

namespace P2PLending.Contract
open Checked

variable {Ledger : Type} (D : Deployment Ledger)

/-- The id of the transaction that `lend` was shown. -/
def TransactionParams.txId (p : TransactionParams) : Bytes32 :=
  D.spv.calculateTxId p.version p.vin p.vout p.locktime

/-- A successful `lend`: the parties, the request it answered and the payment. -/
structure Acceptance where
  lender : Address
  borrower : Address
  request : BorrowRequest
  payment : TransactionParams

/-- The first output of the payment pays the request. -/
def Acceptance.Pays (a : Acceptance) : Prop :=
  ∃ output0, D.spv.extractOutputAtIndex a.payment.vout 0 = .ok output0 ∧
    D.spv.extractValue output0 = a.request.amount ∧
    D.keccak256 (D.spv.extractHash output0) = D.keccak256 a.request.btcAddress

/-- The loan is the one that the acceptance created. -/
def Acceptance.Created (a : Acceptance) (loan : Loan) : Prop :=
  loan.lender = a.lender ∧ loan.borrower = a.borrower ∧
    loan.borrowAmount = a.request.amount ∧ loan.btcAddress = a.request.btcAddress

/-- The contract with the acceptances of the run so far. -/
structure Lent (Ledger : Type) where
  now : Audited Ledger
  accepted : List Acceptance

/-- What an action adds to the acceptances. -/
def acceptance (x : Audited Ledger) : Action Ledger → List Acceptance
  | .call _ sender (.lend borrower lendTp _) =>
      [⟨sender, borrower, x.state.borrowRequests borrower, lendTp⟩]
  | _ => []

def Lent.Step (h : Lent Ledger) (act : Action Ledger) (h' : Lent Ledger) : Prop :=
  Contract.Step D h.now act h'.now ∧ h'.accepted = h.accepted ++ acceptance h.now act

/-- The light client confirms only transactions that are included. -/
def Truthful (included : Bytes32 → Prop) : Action Ledger → Prop
  | .call env _ _ => ∀ height txId header nodes index,
      env.verifyInclusionByTxId height txId header nodes index = .ok true → included txId
  | .tokenActivity _ => True

variable {D}

/-- Outside test mode a payment that passes was confirmed. -/
theorem checkLendingTransaction_confirmed {env : Env} {s : State Ledger}
    {request : BorrowRequest} {lendTp : TransactionParams} {blockHeader : Bytes}
    (mode : s.testMode = false)
    (checked : checkLendingTransaction D env s request lendTp blockHeader = .ok ()) :
    ∃ header nodes height index,
      env.verifyInclusionByTxId height (lendTp.txId D) header nodes index = .ok true := by
  simp only [checkLendingTransaction, mode, if_true, bind_eq_ok, require_eq_ok] at checked
  obtain ⟨_, _, _, _, included, answer, _, yes, _⟩ := checked
  rw [yes] at answer
  exact ⟨_, _, _, _, answer⟩

/-- What is known of a run's acceptances: each was confirmed and pays its request,
and every active loan was there at the start or was created by one of them. -/
structure Backed (D : Deployment Ledger) (included : Bytes32 → Prop) (start : State Ledger)
    (h : Lent Ledger) : Prop where
  mode : h.now.state.testMode = false
  included : ∀ a ∈ h.accepted, included (a.payment.txId D)
  pays : ∀ a ∈ h.accepted, a.Pays D
  created : ∀ lender borrower, (h.now.state.loans lender borrower).active = true →
    start.loans lender borrower = h.now.state.loans lender borrower ∨
      ∃ a ∈ h.accepted, a.Created (h.now.state.loans lender borrower)

/-- An action creates a loan by `lend`, or leaves every loan that is still active
as it was. -/
theorem loans_step_cases {x y : Audited Ledger} {act : Action Ledger} (step : Step D x act y)
    (keeps : KeepsMode act) :
    y.state.testMode = x.state.testMode ∧
      ((acceptance x act = [] ∧ ∀ lender borrower,
          (y.state.loans lender borrower).active = true →
            y.state.loans lender borrower = x.state.loans lender borrower) ∨
        ∃ env sender borrower lendTp blockHeader loan,
          act = .call env sender (.lend borrower lendTp blockHeader) ∧
          checkLendingTransaction D env x.state (x.state.borrowRequests borrower) lendTp
            blockHeader = .ok () ∧
          Acceptance.Created ⟨sender, borrower, x.state.borrowRequests borrower, lendTp⟩ loan ∧
          y.state.loans = assign x.state.loans sender borrower loan) := by
  have closed : ∀ l b, y.state.loans = assign x.state.loans l b
      { x.state.loans l b with active := false } → ∀ lender borrower,
        (y.state.loans lender borrower).active = true →
          y.state.loans lender borrower = x.state.loans lender borrower := by
    intro l b loans lender borrower active
    rw [loans, assign_apply] at active ⊢
    split at active
    · cases active
    · rename_i other
      rw [if_neg other]
  cases loanEffect step with
  | kept leaves requests loans mode =>
      refine ⟨mode keeps, .inl ⟨?_, fun _ _ _ => by rw [loans]⟩⟩
      unfold acceptance
      split
      · cases leaves
      · rfl
  | requested positive requests loans mode => exact ⟨mode, .inl ⟨rfl, fun _ _ _ => by rw [loans]⟩⟩
  | cancelled requests loans mode => exact ⟨mode, .inl ⟨rfl, fun _ _ _ => by rw [loans]⟩⟩
  | lent active checked requests loans mode =>
      exact ⟨mode, .inr ⟨_, _, _, _, _, _, rfl, checked, ⟨rfl, rfl, rfl, rfl⟩, loans⟩⟩
  | repaid active paid requests loans mode => exact ⟨mode, .inl ⟨rfl, closed _ _ loans⟩⟩
  | liquidated requests loans mode => exact ⟨mode, .inl ⟨rfl, closed _ _ loans⟩⟩

theorem backed_step {included : Bytes32 → Prop} {start : State Ledger} {h h' : Lent Ledger}
    {act : Action Ledger} (backed : Backed D included start h)
    (honest : KeepsMode act ∧ Truthful included act) (step : Lent.Step D h act h') :
    Backed D included start h' := by
  obtain ⟨moved, grown⟩ := step
  obtain ⟨mode, effect⟩ := loans_step_cases moved honest.1
  have modeOff := mode.trans backed.mode
  cases effect with
  | inl other =>
      obtain ⟨none, kept⟩ := other
      rw [none, List.append_nil] at grown
      refine ⟨modeOff, grown ▸ backed.included, grown ▸ backed.pays, ?_⟩
      intro lender borrower active
      rw [grown, kept lender borrower active]
      rw [kept lender borrower active] at active
      exact backed.created lender borrower active
  | inr lent =>
      obtain ⟨env, sender, borrower, lendTp, blockHeader, loan, rfl, checked, created, loans⟩ := lent
      have pays := checkLendingTransaction_pays checked
      obtain ⟨header, nodes, height, index, answer⟩ :=
        checkLendingTransaction_confirmed backed.mode checked
      have truthful := honest.2 height _ header nodes index answer
      refine ⟨modeOff, ?_, ?_, ?_⟩
      · rw [grown]
        exact List.forall_mem_append.mpr ⟨backed.included, List.forall_mem_singleton.mpr truthful⟩
      · rw [grown]
        exact List.forall_mem_append.mpr ⟨backed.pays, List.forall_mem_singleton.mpr pays⟩
      · intro l b active
        rw [loans, assign_apply] at active ⊢
        split at active
        · rename_i here
          rw [if_pos here, grown]
          exact .inr ⟨_, List.mem_append_right _ List.mem_cons_self, created⟩
        · rename_i elsewhere
          rw [if_neg elsewhere, grown]
          cases backed.created l b active with
          | inl early => exact .inl early
          | inr found =>
              obtain ⟨a, listed, created⟩ := found
              exact .inr ⟨a, List.mem_append_left _ listed, created⟩

/-- No two payments of the run that differ share an id. -/
def DistinctIds (D : Deployment Ledger) (accepted : List Acceptance) : Prop :=
  ∀ a ∈ accepted, ∀ b ∈ accepted, a.payment.txId D = b.payment.txId D →
    a.payment.vout = b.payment.vout

/-- In every run outside test mode each loan was created for a confirmed payment
of its request, and a payment that backs two loans pays both requests. -/
theorem loans_backed_by_payments {included : Bytes32 → Prop} {start : Audited Ledger}
    {actions : List (Action Ledger)} {h : Lent Ledger} (mode : start.state.testMode = false)
    (honest : ∀ act ∈ actions, KeepsMode act ∧ Truthful included act)
    (distinct : DistinctIds D h.accepted)
    (run : Run (Lent.Step D) ⟨start, []⟩ actions h) :
    Backed D included start.state h ∧
      ∀ a ∈ h.accepted, ∀ b ∈ h.accepted, a.payment.txId D = b.payment.txId D →
        a.request.amount = b.request.amount ∧
          D.keccak256 a.request.btcAddress = D.keccak256 b.request.btcAddress := by
  have initial : Backed D included start.state ⟨start, []⟩ :=
    ⟨mode, List.forall_mem_nil _, List.forall_mem_nil _, fun _ _ _ => .inl rfl⟩
  have backed := run.invariant_of_labels (Backed D included start.state)
    (fun act => KeepsMode act ∧ Truthful included act) initial
    (fun _ _ _ before admitted step => backed_step before admitted step) honest
  refine ⟨backed, ?_⟩
  intro a listed b listed' same
  obtain ⟨output, extracted, value, hash⟩ := backed.pays a listed
  obtain ⟨output', extracted', value', hash'⟩ := backed.pays b listed'
  rw [distinct a listed b listed' same, extracted'] at extracted
  cases extracted
  exact ⟨value.symm.trans value', hash.symm.trans hash'⟩

/-! The acceptances of a run are its calls of `lend`. -/

def lendPayments : Action Ledger → List TransactionParams
  | .call _ _ (.lend _ lendTp _) => [lendTp]
  | _ => []

theorem acceptance_payments (x : Audited Ledger) (act : Action Ledger) :
    (acceptance x act).map Acceptance.payment = lendPayments act := by
  unfold acceptance
  split
  · rfl
  · rename_i other
    unfold lendPayments
    split
    · exact absurd rfl (other _ _ _ _ _)
    · rfl

theorem accepted_payments {start : Audited Ledger} {actions : List (Action Ledger)}
    {h : Lent Ledger} (run : Run (Lent.Step D) ⟨start, []⟩ actions h) :
    h.accepted.map Acceptance.payment = actions.flatMap lendPayments := by
  induction run with
  | nil => rfl
  | snoc _ step ih =>
      rw [step.2, List.map_append, ih, acceptance_payments, List.flatMap_append]
      simp

theorem lent_run {start x : Audited Ledger} {actions : List (Action Ledger)}
    (run : Run (Step D) start actions x) :
    ∃ accepted, Run (Lent.Step D) ⟨start, []⟩ actions ⟨x, accepted⟩ := by
  induction run with
  | nil => exact ⟨[], .nil⟩
  | snoc _ step ih =>
      obtain ⟨accepted, before⟩ := ih
      exact ⟨_, before.snoc ⟨step, rfl⟩⟩

/-- The sample contract outside test mode. -/
def sampleLive : Audited TokenLedger :=
  ⟨{ State.fresh sampleLedger with testMode := false }, (Audited.fresh sampleLedger).audit⟩

/-- A light client that confirms the sample payment only. -/
def sampleLightClient : Env :=
  { sampleEnv 0 (60000 * 10 ^ 8) (10 ^ 8) with
    verifyInclusionByTxId := fun _ txId _ _ _ =>
      .ok (txId = sampleLending.txId sampleDeployment) }

/-- Account one borrows twice; accounts two and three lend with the same payment. -/
def samePaymentTwice : List Transaction :=
  [⟨sampleLightClient, 1, .requestBorrow 100000 10 sampleBtcAddress []⟩,
    ⟨sampleLightClient, 2, .lend 1 sampleLending []⟩,
    ⟨sampleLightClient, 1, .requestBorrow 100000 10 sampleBtcAddress []⟩,
    ⟨sampleLightClient, 3, .lend 1 sampleLending []⟩]

theorem samePaymentTwice_honest (act : Action TokenLedger)
    (listed : act ∈ samePaymentTwice.map Transaction.action) :
    KeepsMode act ∧ Truthful (· = sampleLending.txId sampleDeployment) act := by
  have truthful : ∀ t ∈ samePaymentTwice, t.env = sampleLightClient ∧
      KeepsMode (t.action : Action TokenLedger) := by
    simp [samePaymentTwice, Transaction.action, KeepsMode]
  obtain ⟨t, member, rfl⟩ := List.mem_map.mp listed
  obtain ⟨client, keeps⟩ := truthful t member
  refine ⟨keeps, ?_⟩
  show ∀ height txId header nodes index, t.env.verifyInclusionByTxId height txId header nodes index =
    .ok true → txId = sampleLending.txId sampleDeployment
  rw [client]
  intro height txId header nodes index answer
  exact of_decide_eq_true (Except.ok.inj answer)

/-- Both acceptances of the run show the contract the same payment. -/
theorem samePaymentTwice_run :
    ∃ h, Run (Lent.Step sampleDeployment) ⟨sampleLive, []⟩
        (samePaymentTwice.map Transaction.action) h ∧
      h.accepted.map Acceptance.payment = [sampleLending, sampleLending] ∧
      (h.now.state.loans 2 1).active = true ∧ (h.now.state.loans 3 1).active = true := by
  obtain ⟨x, run, active⟩ := reachesB_run sampleDeployment (fun _ _ => True)
    (fun x => (x.state.loans 2 1).active = true ∧ (x.state.loans 3 1).active = true)
    samePaymentTwice sampleLive (by decide +kernel)
  obtain ⟨accepted, lent⟩ := lent_run run.of_guarded
  exact ⟨⟨x, accepted⟩, lent, accepted_payments lent, active⟩

theorem loans_backed_by_payments_same_payment :
    ∃ h, Run (Lent.Step sampleDeployment) ⟨sampleLive, []⟩
        (samePaymentTwice.map Transaction.action) h ∧
      Backed sampleDeployment (· = sampleLending.txId sampleDeployment) sampleLive.state h := by
  obtain ⟨h, run, payments, _⟩ := samePaymentTwice_run
  have alike : ∀ a ∈ h.accepted, a.payment.vout = sampleLending.vout := by
    intro a listed
    have shown : a.payment ∈ [sampleLending, sampleLending] :=
      payments ▸ List.mem_map_of_mem listed
    simp only [List.mem_cons, List.not_mem_nil, or_false, or_self] at shown
    rw [shown]
  have distinct : DistinctIds sampleDeployment h.accepted :=
    fun a listed b listed' _ => (alike a listed).trans (alike b listed').symm
  exact ⟨h, run, (loans_backed_by_payments rfl samePaymentTwice_honest distinct run).1⟩

/-- One payment, shown by two lenders, leaves two active loans of one borrower. -/
theorem same_payment_backs_two_loans :
    ∃ h, Run (Lent.Step sampleDeployment) ⟨sampleLive, []⟩
        (samePaymentTwice.map Transaction.action) h ∧
      (h.now.state.loans 2 1).active = true ∧ (h.now.state.loans 3 1).active = true ∧
      ∃ a b, h.accepted = [a, b] ∧ a.payment.txId sampleDeployment =
        b.payment.txId sampleDeployment := by
  obtain ⟨h, run, payments, first, second⟩ := samePaymentTwice_run
  refine ⟨h, run, first, second, ?_⟩
  match accepted : h.accepted with
  | [] => simp [accepted] at payments
  | [_] => simp [accepted] at payments
  | _ :: _ :: _ :: _ => simp [accepted] at payments
  | [a, b] =>
      simp only [accepted, List.map_cons, List.map_nil, List.cons.injEq] at payments
      exact ⟨a, b, rfl, by rw [payments.1, payments.2.1]⟩

end P2PLending.Contract
