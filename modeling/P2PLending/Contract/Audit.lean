import P2PLending.Contract.Effects
import P2PLending.Foundation.Runs
import P2PLending.Foundation.Custody
import Mathlib.Data.Fintype.BigOperators

/-! Runs of the contract, with the history its storage does not keep: what each
loan's collateral brought in, and per hash what was taken, paid and is still
unclaimed. Every entry is measured on the token balance of the contract, never
read from its storage. The book of liabilities is an abstract custodian's. -/

namespace P2PLending.Contract
open Custody

structure Audit where
  requestDeposit : Address → ℕ
  loanDeposit : Address → Address → ℕ
  unclaimed : Bytes32 → ℕ
  taken : Bytes32 → ℕ
  paid : Bytes32 → ℕ
  claimed : Bytes32 → Bool

structure Audited (Ledger : Type) where
  state : State Ledger
  audit : Audit

def Audited.fresh {Ledger : Type} (token : Ledger) : Audited Ledger where
  state := .fresh token
  audit := ⟨fun _ => 0, fun _ _ => 0, fun _ => 0, fun _ => 0, fun _ => 0, fun _ => false⟩

variable {Ledger : Type} (D : Deployment Ledger)

def contractBalance (token : Ledger) : ℕ := D.stableToken.balanceOf token D.self

/-- What a successful call adds to the history. -/
def Audit.record (sender : Address) (before after : State Ledger) (a : Audit) : Call → Audit
  | .requestBorrow .. =>
      let intake := contractBalance D after.token - contractBalance D before.token
      { a with requestDeposit := Function.update a.requestDeposit sender intake }
  | .cancelBorrowRequest =>
      { a with requestDeposit := Function.update a.requestDeposit sender 0 }
  | .lend borrower _ _ =>
      { a with
        loanDeposit := assign a.loanDeposit sender borrower (a.requestDeposit borrower)
        requestDeposit := Function.update a.requestDeposit borrower 0 }
  | .repay lender => { a with loanDeposit := assign a.loanDeposit lender sender 0 }
  | .liquidate borrower lender =>
      { a with loanDeposit := assign a.loanDeposit lender borrower 0 }
  | .lendStable h _ =>
      let intake := contractBalance D after.token - contractBalance D before.token
      { a with
        unclaimed := Function.update a.unclaimed h (a.unclaimed h + intake)
        taken := Function.update a.taken h (a.taken h + intake)
        claimed := Function.update a.claimed h false }
  | .claimStable p =>
      let h := preimageHash D p
      let payout := contractBalance D before.token - contractBalance D after.token
      { a with
        unclaimed := Function.update a.unclaimed h 0
        paid := Function.update a.paid h (a.paid h + payout)
        claimed := Function.update a.claimed h true }
  | .setTestMode _ => a

/-- A call of the contract, or activity on the token outside it. -/
inductive Action (Ledger : Type)
  | call (env : Env) (sender : Address) (c : Call)
  | tokenActivity (token : Ledger)

/-- The contract never calls itself, and nobody else spends its tokens. -/
inductive Step : Audited Ledger → Action Ledger → Audited Ledger → Prop
  | call {env : Env} {sender : Address} {c : Call} {s s' : State Ledger} {a : Audit}
      {events : List Event} (external : sender ≠ D.self)
      (done : exec D env sender s c = .ok (s', events)) :
      Step ⟨s, a⟩ (.call env sender c) ⟨s', a.record D sender s s' c⟩
  | tokenActivity {s : State Ledger} {a : Audit} {token : Ledger}
      (kept : contractBalance D s.token ≤ contractBalance D token) :
      Step ⟨s, a⟩ (.tokenActivity token) ⟨{ s with token }, a⟩

section Transfers
variable {D}

theorem contractBalance_pulled (ordinary : D.stableToken.Ordinary) {token token' : Ledger}
    {sender : Address} {n : ℕ} (external : sender ≠ D.self)
    (h : D.stableToken.transferFrom token D.self sender D.self n = .ok (true, token')) :
    contractBalance D token' = contractBalance D token + n := by
  have movement := (ordinary.transferFrom_moves h).2
  rw [contractBalance, movement, moved_to external, contractBalance]

theorem contractBalance_paid (ordinary : D.stableToken.Ordinary) {token token' : Ledger}
    {recipient : Address} {n : ℕ} (external : recipient ≠ D.self)
    (h : D.stableToken.transfer token D.self recipient n = .ok (true, token')) :
    contractBalance D token' + n = contractBalance D token := by
  obtain ⟨enough, movement⟩ := ordinary.transfer_moves h
  rw [contractBalance, movement, moved_from external.symm, contractBalance]
  omega

end Transfers

/-- The three kinds of liability: a borrow request, a loan, a stable deposit. -/
abbrev Liability := Address ⊕ (Address × Address) ⊕ Bytes32

def owed (x : Audited Ledger) : Liability → ℕ
  | .inl borrower =>
      if (x.state.borrowRequests borrower).active then
        (x.state.borrowRequests borrower).collateral else 0
  | .inr (.inl (lender, borrower)) =>
      if (x.state.loans lender borrower).active then x.audit.loanDeposit lender borrower else 0
  | .inr (.inr h) => x.audit.unclaimed h

def book (x : Audited Ledger) : Pool Liability where
  balance := contractBalance D x.state.token
  owed := owed x

/-- Collateral of open requests, deposits behind active loans, unclaimed stable
deposits. -/
def liabilities (x : Audited Ledger) : ℕ :=
  (∑ borrower, if (x.state.borrowRequests borrower).active then
    (x.state.borrowRequests borrower).collateral else 0) +
  (∑ lender, ∑ borrower, if (x.state.loans lender borrower).active then
    x.audit.loanDeposit lender borrower else 0) +
  ∑ h, x.audit.unclaimed h

theorem liabilities_eq_total (x : Audited Ledger) : liabilities x = total (book D x) := by
  simp only [liabilities, total, book, Fintype.sum_sum_type, Fintype.sum_prod_type, owed]
  omega

/-- What the history and the storage agree on in every reachable state. -/
structure Consistent (x : Audited Ledger) : Prop where
  request_deposit : ∀ b, (x.state.borrowRequests b).active = true →
    x.audit.requestDeposit b = (x.state.borrowRequests b).collateral
  self_never_lends : ∀ b, (x.state.loans D.self b).active = false
  no_record : ∀ h, (x.state.stableLoans h).collateralAmount = 0 → x.audit.unclaimed h = 0
  unclaimed_record : ∀ h, (x.state.stableLoans h).collateralAmount ≠ 0 →
    x.audit.claimed h = false →
      x.audit.unclaimed h = (x.state.stableLoans h).stableLoanAmount

theorem consistent_fresh (token : Ledger) : Consistent D (Audited.fresh token) where
  request_deposit := by intro b active; cases active
  self_never_lends _ := rfl
  no_record _ _ := rfl
  unclaimed_record := by intro h recorded; exact absurd rfl recorded

variable {D}

theorem Consistent.lender_foreign {x : Audited Ledger} (consistent : Consistent D x)
    {lender borrower : Address} (active : (x.state.loans lender borrower).active = true) :
    lender ≠ D.self := by
  rintro rfl
  have never := consistent.self_never_lends borrower
  rw [active] at never
  cases never

theorem consistent_step (ordinary : D.stableToken.Ordinary) {x y : Audited Ledger}
    {act : Action Ledger} (consistent : Consistent D x) (step : Step D x act y) :
    Consistent D y := by
  obtain ⟨requests, own, absent, present⟩ := consistent
  cases step with
  | tokenActivity kept => exact ⟨requests, own, absent, present⟩
  | @call env sender c s s' a events external done =>
    cases c with
    | requestBorrow amount interestRate btcAddress signedPsbt =>
        obtain ⟨_, collateral, token, _, pulled, rfl⟩ := requestBorrow_ok done
        have grown := contractBalance_pulled ordinary external pulled
        refine ⟨fun b active => ?_, own, absent, present⟩
        by_cases hb : b = sender
        · subst hb
          simp only [Audit.record, Function.update_self]
          omega
        · simp only [Audit.record, Function.update_of_ne hb] at active ⊢
          exact requests b active
    | cancelBorrowRequest =>
        obtain ⟨_, token, _, rfl⟩ := cancelBorrowRequest_ok done
        refine ⟨fun b active => ?_, own, absent, present⟩
        by_cases hb : b = sender
        · subst hb
          simp only [Function.update_self] at active
          cases active
        · simp only [Audit.record, Function.update_of_ne hb] at active ⊢
          exact requests b active
    | lend borrower lendTp blockHeader =>
        obtain ⟨_, _, _, rfl⟩ := lend_ok done
        refine ⟨fun b active => ?_, fun b => ?_, absent, present⟩
        · by_cases hb : b = borrower
          · subst hb
            simp only [Function.update_self] at active
            cases active
          · simp only [Audit.record, Function.update_of_ne hb] at active ⊢
            exact requests b active
        · simp only [assign_apply, external.symm, false_and, if_false]
          exact own b
    | repay lender =>
        obtain ⟨_, _, token, _, _, rfl⟩ := repay_ok done
        refine ⟨requests, fun b => ?_, absent, present⟩
        simp only [closeLoan, assign_apply]
        split
        · rfl
        · exact own b
    | liquidate borrower lender =>
        obtain ⟨_, _, _, token, _, _, _, _, rfl⟩ := liquidate_ok done
        refine ⟨requests, fun b => ?_, absent, present⟩
        simp only [closeLoan, assign_apply]
        split
        · rfl
        · exact own b
    | lendStable borrowerHash btcCollateralAmount =>
        obtain ⟨positive, empty, amount, token, _, pulled, rfl⟩ := lendStable_ok done
        have grown := contractBalance_pulled ordinary external pulled
        have none := absent borrowerHash empty
        refine ⟨requests, own, fun h unrecorded => ?_, fun h recorded unclaimed => ?_⟩
        · by_cases hh : h = borrowerHash
          · subst hh
            simp only [Function.update_self] at unrecorded
            omega
          · simp only [Audit.record, Function.update_of_ne hh] at unrecorded ⊢
            exact absent h unrecorded
        · by_cases hh : h = borrowerHash
          · subst hh
            simp only [Audit.record, Function.update_self]
            simp only at none
            omega
          · simp only [Audit.record, Function.update_of_ne hh] at recorded unclaimed ⊢
            exact present h recorded unclaimed
    | claimStable p =>
        obtain ⟨recorded, token, _, rfl⟩ := claimStable_ok done
        refine ⟨requests, own, fun h unrecorded => ?_, fun h known unclaimed => ?_⟩
        · by_cases hh : h = preimageHash D p
          · subst hh
            simp only [Audit.record, Function.update_self]
          · simp only [Audit.record, Function.update_of_ne hh] at unrecorded ⊢
            exact absent h unrecorded
        · by_cases hh : h = preimageHash D p
          · subst hh
            simp only [Audit.record, Function.update_self] at unclaimed
            cases unclaimed
          · simp only [Audit.record, Function.update_of_ne hh] at known unclaimed ⊢
            exact present h known unclaimed
    | setTestMode testMode =>
        obtain rfl := setTestMode_ok done
        exact ⟨requests, own, absent, present⟩

theorem consistent_run (ordinary : D.stableToken.Ordinary) {token : Ledger}
    {actions : List (Action Ledger)} {x : Audited Ledger}
    (run : Run (Step D) (Audited.fresh token) actions x) : Consistent D x :=
  run.invariant (Consistent D) (consistent_fresh D token)
    (fun _ _ _ => consistent_step ordinary)

end P2PLending.Contract
