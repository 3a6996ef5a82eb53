import P2PLending.Contract.Audit

/-! What an action does to the Bitcoin loans: one case for each call that touches
a request or a loan, and one for all the others. Invariants of the loans follow
from these cases alone. -/

namespace P2PLending.Contract
open Checked

variable {Ledger : Type}

/-- The action is no call of `setTestMode`. -/
def KeepsMode : Action Ledger → Prop
  | .call _ _ (.setTestMode _) => False
  | _ => True

/-- The action touches no request and no loan. -/
def LeavesLoans : Action Ledger → Prop
  | .call _ _ (.lendStable _ _) | .call _ _ (.claimStable _) | .call _ _ (.setTestMode _) => True
  | .tokenActivity _ => True
  | _ => False

/-- The loan that `lend` creates from a request. -/
def lentLoan (env : Env) (lender borrower : Address) (request : BorrowRequest) : Loan where
  borrowAmount := request.amount
  principal := request.amount
  interestRate := request.interestRate
  startDate := env.timestamp
  borrower := borrower
  lender := lender
  btcAddress := request.btcAddress
  active := true

/-- The effect of an action on requests, loans and mode. -/
inductive LoanEffect (D : Deployment Ledger) (s s' : State Ledger) : Action Ledger → Prop
  | kept {act : Action Ledger} (leaves : LeavesLoans act)
      (requests : s'.borrowRequests = s.borrowRequests) (loans : s'.loans = s.loans)
      (mode : KeepsMode act → s'.testMode = s.testMode) : LoanEffect D s s' act
  | requested {env : Env} {sender : Address} {amount interestRate collateral : ℕ}
      {btcAddress signedPsbt : Bytes} (positive : 0 < amount)
      (requests : s'.borrowRequests = Function.update s.borrowRequests sender
        { amount, collateral, interestRate, btcAddress, signedPsbt, active := true })
      (loans : s'.loans = s.loans) (mode : s'.testMode = s.testMode) :
      LoanEffect D s s' (.call env sender
        (.requestBorrow amount interestRate btcAddress signedPsbt))
  | cancelled {env : Env} {sender : Address}
      (requests : s'.borrowRequests = Function.update s.borrowRequests sender default)
      (loans : s'.loans = s.loans) (mode : s'.testMode = s.testMode) :
      LoanEffect D s s' (.call env sender .cancelBorrowRequest)
  | lent {env : Env} {sender borrower : Address} {lendTp : TransactionParams}
      {blockHeader : Bytes} (active : (s.borrowRequests borrower).active = true)
      (checked : checkLendingTransaction D env s (s.borrowRequests borrower) lendTp blockHeader =
        .ok ())
      (requests : s'.borrowRequests = Function.update s.borrowRequests borrower default)
      (loans : s'.loans = assign s.loans sender borrower
        (lentLoan env sender borrower (s.borrowRequests borrower)))
      (mode : s'.testMode = s.testMode) :
      LoanEffect D s s' (.call env sender (.lend borrower lendTp blockHeader))
  | repaid {env : Env} {sender lender : Address} {collateralAmount : ℕ}
      (active : (s.loans lender sender).active = true)
      (paid : D.stableToken.transfer s.token D.self sender collateralAmount =
        .ok (true, s'.token))
      (requests : s'.borrowRequests = s.borrowRequests)
      (loans : s'.loans = assign s.loans lender sender
        { s.loans lender sender with active := false })
      (mode : s'.testMode = s.testMode) :
      LoanEffect D s s' (.call env sender (.repay lender))
  | liquidated {env : Env} {sender borrower lender : Address}
      (requests : s'.borrowRequests = s.borrowRequests)
      (loans : s'.loans = assign s.loans lender borrower
        { s.loans lender borrower with active := false })
      (mode : s'.testMode = s.testMode) :
      LoanEffect D s s' (.call env sender (.liquidate borrower lender))

variable {D : Deployment Ledger}

theorem loanEffect {x y : Audited Ledger} {act : Action Ledger} (step : Step D x act y) :
    LoanEffect D x.state y.state act := by
  cases step with
  | tokenActivity kept => exact .kept trivial rfl rfl fun _ => rfl
  | @call env sender c s s' a events external done =>
    cases c with
    | requestBorrow amount interestRate btcAddress signedPsbt =>
        have positive := requestBorrow_positive done
        obtain ⟨_, _, _, _, _, rfl⟩ := requestBorrow_ok done
        exact .requested positive rfl rfl rfl
    | cancelBorrowRequest =>
        obtain ⟨_, _, _, rfl⟩ := cancelBorrowRequest_ok done
        exact .cancelled rfl rfl rfl
    | lend borrower lendTp blockHeader =>
        obtain ⟨active, _, checked, rfl⟩ := lend_ok done
        exact .lent active checked rfl rfl rfl
    | repay lender =>
        obtain ⟨active, _, _, _, paid, rfl⟩ := repay_ok done
        exact .repaid active paid rfl rfl rfl
    | liquidate borrower lender =>
        obtain ⟨_, _, _, _, _, _, _, _, rfl⟩ := liquidate_ok done
        exact .liquidated rfl rfl rfl
    | lendStable borrowerHash btcCollateralAmount =>
        obtain ⟨_, _, _, _, _, _, rfl⟩ := lendStable_ok done
        exact .kept trivial rfl rfl fun _ => rfl
    | claimStable p =>
        obtain ⟨_, _, _, rfl⟩ := claimStable_ok done
        exact .kept trivial rfl rfl fun _ => rfl
    | setTestMode testMode =>
        obtain rfl := setTestMode_ok done
        exact .kept trivial rfl rfl fun keeps => absurd keeps id

/-- A property of open requests, and one of active loans. -/
structure OpenLoans (Q : BorrowRequest → Prop) (P : Loan → Prop) (s : State Ledger) : Prop where
  requests : ∀ b, (s.borrowRequests b).active = true → Q (s.borrowRequests b)
  loans : ∀ l b, (s.loans l b).active = true → P (s.loans l b)

section Invariant
variable {Q : BorrowRequest → Prop} {P : Loan → Prop}

theorem openLoans_fresh (token : Ledger) : OpenLoans Q P (State.fresh token) where
  requests := by intro b active; cases active
  loans := by intro l b active; cases active

theorem OpenLoans.closed {s : State Ledger} (sound : OpenLoans Q P s) {lender borrower : Address} :
    ∀ l b, (assign s.loans lender borrower { s.loans lender borrower with active := false } l
        b).active = true →
      P (assign s.loans lender borrower { s.loans lender borrower with active := false } l b) := by
  intro l b active
  rw [assign_apply] at active ⊢
  split at active
  · cases active
  · rename_i other
    rw [if_neg other]
    exact sound.loans l b active

/-- A request property that `requestBorrow` establishes, and a loan property that
`lend` establishes from it, hold in every reachable state. -/
theorem openLoans_step
    (requested : ∀ r : BorrowRequest, 0 < r.amount → Q r)
    (lent : ∀ (env : Env) (lender borrower : Address) (r : BorrowRequest) (s : State Ledger)
      (lendTp : TransactionParams) (blockHeader : Bytes), Q r →
        checkLendingTransaction D env s r lendTp blockHeader = .ok () →
        P (lentLoan env lender borrower r))
    {x y : Audited Ledger} {act : Action Ledger} (sound : OpenLoans Q P x.state)
    (step : Step D x act y) : OpenLoans Q P y.state := by
  cases loanEffect step with
  | kept leaves requests loans mode =>
      exact ⟨by rw [requests]; exact sound.requests, by rw [loans]; exact sound.loans⟩
  | @requested env sender amount _ _ _ _ positive requests loans mode =>
      refine ⟨fun b active => ?_, by rw [loans]; exact sound.loans⟩
      rw [requests] at active ⊢
      by_cases own : b = sender
      · rw [own, Function.update_self]
        exact requested _ positive
      · rw [Function.update_of_ne own] at active ⊢
        exact sound.requests b active
  | @cancelled env sender requests loans mode =>
      refine ⟨fun b active => ?_, by rw [loans]; exact sound.loans⟩
      rw [requests] at active ⊢
      by_cases own : b = sender
      · rw [own, Function.update_self] at active
        cases active
      · rw [Function.update_of_ne own] at active ⊢
        exact sound.requests b active
  | @lent env sender borrower lendTp blockHeader open_ checked requests loans mode =>
      refine ⟨fun b active => ?_, fun l b active => ?_⟩
      · rw [requests] at active ⊢
        by_cases own : b = borrower
        · rw [own, Function.update_self] at active
          cases active
        · rw [Function.update_of_ne own] at active ⊢
          exact sound.requests b active
      · rw [loans, assign_apply] at active ⊢
        split at active
        · rename_i here
          rw [if_pos here]
          exact lent env sender borrower _ _ lendTp blockHeader (sound.requests borrower open_)
            checked
        · rename_i elsewhere
          rw [if_neg elsewhere]
          exact sound.loans l b active
  | repaid _ _ requests loans mode =>
      exact ⟨by rw [requests]; exact sound.requests, by rw [loans]; exact sound.closed⟩
  | liquidated requests loans mode =>
      exact ⟨by rw [requests]; exact sound.requests, by rw [loans]; exact sound.closed⟩

theorem openLoans_run
    (requested : ∀ r : BorrowRequest, 0 < r.amount → Q r)
    (lent : ∀ (env : Env) (lender borrower : Address) (r : BorrowRequest) (s : State Ledger)
      (lendTp : TransactionParams) (blockHeader : Bytes), Q r →
        checkLendingTransaction D env s r lendTp blockHeader = .ok () →
        P (lentLoan env lender borrower r))
    {token : Ledger} {actions : List (Action Ledger)} {x : Audited Ledger}
    (run : Run (Step D) (Audited.fresh token) actions x) : OpenLoans Q P x.state :=
  run.invariant (fun z => OpenLoans Q P z.state) (openLoans_fresh token)
    (fun _ _ _ => openLoans_step requested lent)

end Invariant

/-- In every reachable state an active loan has a principal. -/
theorem principal_pos {token : Ledger} {actions : List (Action Ledger)} {x : Audited Ledger}
    (run : Run (Step D) (Audited.fresh token) actions x) {lender borrower : Address}
    (active : (x.state.loans lender borrower).active = true) :
    0 < (x.state.loans lender borrower).principal := by
  have sound : OpenLoans (fun r => 0 < r.amount) (fun l => 0 < l.principal) x.state :=
    openLoans_run (fun _ positive => positive) (fun _ _ _ _ _ _ _ positive _ => positive) run
  exact sound.loans lender borrower active

end P2PLending.Contract
