import P2PLending.Contract.Token

/-! What a closing call pays out for a loan. Both closing calls recompute the
collateral from the borrowed amount at the prices of the call, so the deposit
comes back exactly when those prices round to the same amount. -/

namespace P2PLending.Contract

variable {Ledger : Type} {D : Deployment Ledger}

/-- The loan that a call of `sender` closes, as lender and borrower. -/
def closes (sender : Address) : Call → Option (Address × Address)
  | .repay lender => some (lender, sender)
  | .liquidate borrower lender => some (lender, borrower)
  | _ => none

/-- A closing call pays out the collateral required at its own prices. -/
theorem closing_pays_required (ordinary : D.stableToken.Ordinary) {x y : Audited Ledger}
    {env : Env} {sender lender borrower : Address} {c : Call} (consistent : Consistent D x)
    (closing : closes sender c = some (lender, borrower))
    (step : Step D x (.call env sender c) y) :
    0 < env.collateralPrice ∧
      contractBalance D x.state.token = contractBalance D y.state.token +
        requiredCollateral env.btcPrice env.collateralPrice
          (x.state.loans lender borrower).borrowAmount := by
  cases step with
  | @call _ _ _ s s' a events external done =>
    cases c with
    | repay l =>
        simp only [closes, Option.some.injEq, Prod.mk.injEq] at closing
        obtain ⟨rfl, rfl⟩ := closing
        obtain ⟨_, collateral, token, priced, paid, rfl⟩ := repay_ok done
        obtain ⟨_, positive, rfl⟩ := getStableCollateralAmount_ok priced
        have payment := contractBalance_paid ordinary external paid
        exact ⟨positive, payment.symm⟩
    | liquidate b l =>
        simp only [closes, Option.some.injEq, Prod.mk.injEq] at closing
        obtain ⟨rfl, rfl⟩ := closing
        obtain ⟨active, collateral, token, token', checked, bonus, rewarded, returned, rfl⟩ :=
          liquidate_ok done
        obtain ⟨_, positive, priced⟩ := getStableCollateralAmount_ok (liquidationCheck_ok checked)
        have foreign := consistent.lender_foreign active
        have reward := contractBalance_paid ordinary external rewarded
        have remainder := contractBalance_paid ordinary foreign returned
        refine ⟨positive, ?_⟩
        simp only [closeLoan, ← priced]
        omega
    | requestBorrow _ _ _ _ => cases closing
    | cancelBorrowRequest => cases closing
    | lend _ _ _ => cases closing
    | lendStable _ _ => cases closing
    | claimStable _ => cases closing
    | setTestMode _ => cases closing

/-- In every run, a closing call returns the deposit exactly when the collateral
required at its prices rounds down to the deposit. -/
theorem closing_returns_deposit_iff (ordinary : D.stableToken.Ordinary) {token : Ledger}
    {actions : List (Action Ledger)} {x y : Audited Ledger} {env : Env}
    {sender lender borrower : Address} {c : Call}
    (run : Run (Step D) (Audited.fresh token) actions x)
    (closing : closes sender c = some (lender, borrower))
    (step : Step D x (.call env sender c) y) :
    contractBalance D x.state.token =
        contractBalance D y.state.token + x.audit.loanDeposit lender borrower ↔
      x.audit.loanDeposit lender borrower * (env.collateralPrice.toNat * 100) ≤
          (x.state.loans lender borrower).borrowAmount * env.btcPrice.toNat *
            collateralRatio ∧
        (x.state.loans lender borrower).borrowAmount * env.btcPrice.toNat * collateralRatio <
          (x.audit.loanDeposit lender borrower + 1) * (env.collateralPrice.toNat * 100) := by
  have consistent := consistent_run ordinary run
  obtain ⟨positive, payment⟩ := closing_pays_required ordinary consistent closing step
  rw [← requiredCollateral_eq_iff positive, payment]
  omega

theorem step_of_exec {x : Audited Ledger} {env : Env} {sender : Address} {c : Call}
    (external : sender ≠ D.self) (succeeds : (exec D env sender x.state c).isOk = true) :
    ∃ y, Step D x (.call env sender c) y := by
  cases done : exec D env sender x.state c with
  | error e =>
      rw [done] at succeeds
      cases succeeds
  | ok result => exact ⟨_, .call external done⟩

theorem closing_returns_deposit_same_prices :
    ∃ x y, Step sampleDeployment x
        (.call (sampleEnv 9 (60000 * 10 ^ 8) (10 ^ 8)) 1 (.repay 2)) y ∧
      (contractBalance sampleDeployment x.state.token =
          contractBalance sampleDeployment y.state.token + x.audit.loanDeposit 2 1 ↔
        x.audit.loanDeposit 2 1 * (10 ^ 8 * 100) ≤
            (x.state.loans 2 1).borrowAmount * (60000 * 10 ^ 8) * collateralRatio ∧
          (x.state.loans 2 1).borrowAmount * (60000 * 10 ^ 8) * collateralRatio <
            (x.audit.loanDeposit 2 1 + 1) * (10 ^ 8 * 100)) := by
  have reached := reachesB_run sampleDeployment (fun _ _ => True)
    (fun x => (exec sampleDeployment (sampleEnv 9 (60000 * 10 ^ 8) (10 ^ 8)) 1 x.state
      (.repay 2)).isOk = true)
    sampleLoan (.fresh sampleLedger) (by decide +kernel)
  obtain ⟨x, run, succeeds⟩ := reached
  obtain ⟨y, step⟩ := step_of_exec (D := sampleDeployment) (by decide) succeeds
  exact ⟨x, y, step,
    closing_returns_deposit_iff standardToken_ordinary run.of_guarded rfl step⟩

/-- The price of bitcoin doubles: the borrower is repaid twice the deposit. -/
theorem repay_pays_twice_the_deposit :
    ∃ x y, Run (Step sampleDeployment) (Audited.fresh sampleLedger)
        (sampleLoan.map Transaction.action) x ∧
      Step sampleDeployment x
        (.call (sampleEnv 9 (120000 * 10 ^ 8) (10 ^ 8)) 1 (.repay 2)) y ∧
      x.audit.loanDeposit 2 1 = 9000000000 ∧
      contractBalance sampleDeployment x.state.token =
        contractBalance sampleDeployment y.state.token + 18000000000 := by
  have reached := reachesB_run sampleDeployment (fun _ _ => True)
    (fun x => (exec sampleDeployment (sampleEnv 9 (120000 * 10 ^ 8) (10 ^ 8)) 1 x.state
      (.repay 2)).isOk = true ∧ x.audit.loanDeposit 2 1 = 9000000000 ∧
      (x.state.loans 2 1).borrowAmount = 100000)
    sampleLoan (.fresh sampleLedger) (by decide +kernel)
  obtain ⟨x, run, succeeds, deposit, amount⟩ := reached
  obtain ⟨y, step⟩ := step_of_exec (D := sampleDeployment) (by decide) succeeds
  have consistent := consistent_run standardToken_ordinary run.of_guarded
  obtain ⟨_, payment⟩ := closing_pays_required standardToken_ordinary consistent rfl step
  rw [amount] at payment
  exact ⟨x, y, run.of_guarded, step, deposit, payment⟩

end P2PLending.Contract
