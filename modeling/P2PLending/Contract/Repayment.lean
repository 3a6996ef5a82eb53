import P2PLending.Contract.LiquidationRule
import P2PLending.Contract.LoanSteps

/-! Whether a loan's debt is paid when its collateral is released. `repay` moves
tokens to the borrower only and asks the light client nothing, so no successful
`repay` settles a debt; a run settles every debt exactly when it has none. -/

namespace P2PLending.Contract
open Checked

variable {Ledger : Type} (D : Deployment Ledger)

/-- The loan is active before and not after. -/
def Released (x y : Audited Ledger) (lender borrower : Address) : Prop :=
  (x.state.loans lender borrower).active = true ∧ (y.state.loans lender borrower).active = false

/-- What the borrower owes at the time of a call. -/
def debt (env : Env) (loan : Loan) : ℕ := loan.principal + accruedInterest env loan

/-- The borrower gave up `n` tokens and the lender received them. -/
def PaidInTokens (x y : Audited Ledger) (lender borrower : Address) (n : ℕ) : Prop :=
  D.stableToken.balanceOf y.state.token borrower + n ≤
      D.stableToken.balanceOf x.state.token borrower ∧
    D.stableToken.balanceOf x.state.token lender + n ≤
      D.stableToken.balanceOf y.state.token lender

/-- The repayment needs a payment that the light client confirms: it does not go
through where the light client confirms none. -/
def PaidInBitcoin (env : Env) (x : Audited Ledger) (lender borrower : Address) : Prop :=
  ∀ after, repay D { env with verifyInclusionByTxId := fun _ _ _ _ _ => .ok false } borrower
    x.state lender ≠ .ok after

/-- Every loan that the action releases is liquidated or paid. -/
def Settles (x : Audited Ledger) (act : Action Ledger) (y : Audited Ledger) : Prop :=
  ∀ lender borrower, Released x y lender borrower →
    (∃ env sender, act = .call env sender (.liquidate borrower lender)) ∨
    ∃ env, act = .call env borrower (.repay lender) ∧
      (PaidInTokens D x y lender borrower (debt env (x.state.loans lender borrower)) ∨
        PaidInBitcoin D env x lender borrower)

/-- The action is no repayment. -/
def NoRepay (_ : Audited Ledger) : Action Ledger → Prop
  | .call _ _ (.repay _) => False
  | _ => True

instance (x : Audited Ledger) : ∀ act : Action Ledger, Decidable (NoRepay x act)
  | .call _ _ c => match c with
    | .repay _ => .isFalse id
    | .requestBorrow _ _ _ _ | .cancelBorrowRequest | .lend _ _ _ | .liquidate _ _
    | .lendStable _ _ | .claimStable _ | .setTestMode _ => .isTrue trivial
  | .tokenActivity _ => .isTrue trivial

variable {D}

/-- A successful repayment pays nothing: the borrower's tokens only grow, and the
light client is not asked. -/
theorem repay_not_settled (ordinary : D.stableToken.Ordinary) {x y : Audited Ledger} {env : Env}
    {sender lender : Address} (step : Step D x (.call env sender (.repay lender)) y)
    (positive : 0 < (x.state.loans lender sender).principal) :
    Released x y lender sender ∧
      ¬ PaidInTokens D x y lender sender (debt env (x.state.loans lender sender)) ∧
      ¬ PaidInBitcoin D env x lender sender := by
  cases step with
  | @call _ _ _ s s' a events external done =>
      obtain ⟨active, c, token, _, paid, after⟩ := repay_ok done
      have owed : 0 < debt env (s.loans lender sender) := Nat.add_pos_left positive _
      refine ⟨⟨active, ?_⟩, ?_, ?_⟩
      · simp [after, closeLoan, assign_apply]
      · rintro ⟨given, -⟩
        have spent : D.stableToken.balanceOf s'.token sender + debt env (s.loans lender sender) ≤
            D.stableToken.balanceOf s.token sender := given
        have movement := (ordinary.transfer_moves paid).2
        have grown : D.stableToken.balanceOf s'.token sender =
            D.stableToken.balanceOf s.token sender + c := by
          rw [after, closeLoan, movement, moved_to external.symm]
        omega
      · intro needed
        -- the light client is not asked, so the same call goes through
        exact needed _ done

/-- An action settles what it releases exactly when it is no repayment. -/
theorem settles_iff (ordinary : D.stableToken.Ordinary) {x y : Audited Ledger}
    {act : Action Ledger} (step : Step D x act y)
    (positive : ∀ lender borrower, (x.state.loans lender borrower).active = true →
      0 < (x.state.loans lender borrower).principal) :
    Settles D x act y ↔ NoRepay x act := by
  have kept : y.state.loans = x.state.loans → Settles D x act y := by
    intro loans lender borrower ⟨active, released⟩
    rw [loans, active] at released
    cases released
  cases loanEffect step with
  | kept leaves requests loans mode =>
      have other : NoRepay x act := by
        unfold NoRepay
        split
        · cases leaves
        · trivial
      exact iff_of_true (kept loans) other
  | requested positive requests loans mode => exact iff_of_true (kept loans) trivial
  | cancelled requests loans mode => exact iff_of_true (kept loans) trivial
  | @lent env sender b lendTp blockHeader open_ checked requests loans mode =>
      refine iff_of_true ?_ trivial
      intro lender borrower ⟨active, released⟩
      rw [loans, assign_apply] at released
      split at released
      · cases released
      · rw [active] at released
        cases released
  | @repaid env sender lender _ active =>
      refine iff_of_false ?_ id
      intro settles
      obtain ⟨released, noTokens, noBitcoin⟩ :=
        repay_not_settled ordinary step (positive lender sender active)
      cases settles lender sender released with
      | inl liquidated =>
          obtain ⟨_, _, same⟩ := liquidated
          cases same
      | inr paid =>
          obtain ⟨_, same, evidence⟩ := paid
          cases same
          exact evidence.elim noTokens noBitcoin
  | @liquidated env sender b l requests loans mode =>
      refine iff_of_true ?_ trivial
      intro lender borrower ⟨active, released⟩
      rw [loans, assign_apply] at released
      split at released
      · rename_i here
        obtain ⟨rfl, rfl⟩ := here
        exact .inl ⟨env, sender, rfl⟩
      · rw [active] at released
        cases released

/-- The sample loan, liquidated by account three after three years. -/
def liquidatedLoan : List Transaction :=
  sampleLoan ++
    [⟨sampleEnv (3 * secondsPerYear) (60000 * 10 ^ 8) (10 ^ 8), 3, .liquidate 1 2⟩]

end P2PLending.Contract
