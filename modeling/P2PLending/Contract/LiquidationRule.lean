import P2PLending.Contract.Token

/-! The ratio check of `liquidate` against the rule it stands for. The check
values the collateral that current prices require, so the prices of the two
sides cancel up to rounding; the rule values the collateral deposited. They
agree unless the debt's threshold falls between the two valuations. -/

namespace P2PLending.Contract
open Checked

variable (env : Env) (loan : Loan)

/-- Interest accrued on a loan, without the checks of its computation. -/
def accruedInterest : ℕ :=
  loan.principal * loan.interestRate * (env.timestamp - loan.startDate) / (secondsPerYear * 100)

/-- The collateral's side of the ratio check. -/
def collateralSide (collateral : ℕ) : ℕ :=
  collateral * env.collateralPrice.toNat / 10 ^ 8 * 100

/-- The debt's side of the ratio check. -/
def debtSide : ℕ :=
  (loan.principal + accruedInterest env loan) * env.btcPrice.toNat / 10 ^ 8 *
    liquidationThreshold

/-- Every intermediate word of the check fits, and the loan has started. -/
structure CheckFits : Prop where
  priced : loan.borrowAmount * env.btcPrice.toNat < uint256Limit
  scaled : loan.borrowAmount * env.btcPrice.toNat * collateralRatio < uint256Limit
  unit : env.collateralPrice.toNat * 100 < uint256Limit
  valued : requiredCollateral env.btcPrice env.collateralPrice loan.borrowAmount *
    env.collateralPrice.toNat < uint256Limit
  started : loan.startDate ≤ env.timestamp
  yearly : loan.principal * loan.interestRate < uint256Limit
  accrued : loan.principal * loan.interestRate * (env.timestamp - loan.startDate) < uint256Limit
  debt : loan.principal + accruedInterest env loan < uint256Limit
  debtPriced : (loan.principal + accruedInterest env loan) * env.btcPrice.toNat < uint256Limit
  collateralSide : collateralSide env
    (requiredCollateral env.btcPrice env.collateralPrice loan.borrowAmount) < uint256Limit
  debtSide : debtSide env loan < uint256Limit

variable {env loan}

theorem calculateInterest_iff {n : ℕ} :
    calculateInterest env loan = .ok n ↔
      (loan.startDate ≤ env.timestamp ∧ loan.principal * loan.interestRate < uint256Limit ∧
        loan.principal * loan.interestRate * (env.timestamp - loan.startDate) < uint256Limit) ∧
      n = accruedInterest env loan := by
  simp only [calculateInterest, bind_eq_ok, sub_eq_ok, mul_eq_ok, div_eq_ok]
  constructor
  · rintro ⟨_, ⟨started, rfl⟩, _, ⟨yearly, rfl⟩, _, ⟨accrued, rfl⟩, _, rfl⟩
    exact ⟨⟨started, yearly, accrued⟩, rfl⟩
  · rintro ⟨⟨started, yearly, accrued⟩, rfl⟩
    exact ⟨_, ⟨started, rfl⟩, _, ⟨yearly, rfl⟩, _, ⟨accrued, rfl⟩, by decide, rfl⟩

theorem getCurrentLoanValue_iff {n : ℕ} (btc : 0 < env.btcPrice) :
    getCurrentLoanValue env loan = .ok n ↔
      ((loan.startDate ≤ env.timestamp ∧ loan.principal * loan.interestRate < uint256Limit ∧
          loan.principal * loan.interestRate * (env.timestamp - loan.startDate) <
            uint256Limit) ∧
        loan.principal + accruedInterest env loan < uint256Limit ∧
        (loan.principal + accruedInterest env loan) * env.btcPrice.toNat < uint256Limit) ∧
      n = (loan.principal + accruedInterest env loan) * env.btcPrice.toNat / 10 ^ 8 := by
  simp only [getCurrentLoanValue, bind_eq_ok, require_eq_ok, calculateInterest_iff, add_eq_ok,
    mul_eq_ok, div_eq_ok]
  constructor
  · rintro ⟨_, _, _, ⟨interest, rfl⟩, _, ⟨debt, rfl⟩, _, ⟨priced, rfl⟩, _, rfl⟩
    exact ⟨⟨interest, debt, priced⟩, rfl⟩
  · rintro ⟨⟨interest, debt, priced⟩, rfl⟩
    exact ⟨(), btc, _, ⟨interest, rfl⟩, _, ⟨debt, rfl⟩, _, ⟨priced, rfl⟩, by decide, rfl⟩

theorem getStableCollateralAmount_iff {amount c : ℕ} (btc : 0 < env.btcPrice)
    (collateral : 0 < env.collateralPrice) :
    getStableCollateralAmount env amount = .ok c ↔
      (amount * env.btcPrice.toNat < uint256Limit ∧
        amount * env.btcPrice.toNat * collateralRatio < uint256Limit ∧
        env.collateralPrice.toNat * 100 < uint256Limit) ∧
      c = requiredCollateral env.btcPrice env.collateralPrice amount := by
  simp only [getStableCollateralAmount, bind_eq_ok, require_eq_ok, mul_eq_ok, div_eq_ok]
  constructor
  · rintro ⟨_, _, _, ⟨priced, rfl⟩, _, ⟨scaled, rfl⟩, _, ⟨unit, rfl⟩, _, rfl⟩
    exact ⟨⟨priced, scaled, unit⟩, rfl⟩
  · rintro ⟨⟨priced, scaled, unit⟩, rfl⟩
    exact ⟨(), ⟨btc, collateral⟩, _, ⟨priced, rfl⟩, _, ⟨scaled, rfl⟩, _, ⟨unit, rfl⟩,
      by omega, rfl⟩

/-- The check passes exactly when its arithmetic fits and the collateral required
at current prices is below the debt's threshold. -/
theorem liquidationCheck_passes_iff (btc : 0 < env.btcPrice)
    (collateral : 0 < env.collateralPrice) :
    (∃ c, liquidationCheck env loan = .ok c) ↔
      CheckFits env loan ∧
        collateralSide env
            (requiredCollateral env.btcPrice env.collateralPrice loan.borrowAmount) <
          debtSide env loan := by
  simp only [liquidationCheck, getCurrentCollateralValue, bind_eq_ok, require_eq_ok,
    getStableCollateralAmount_iff btc collateral, getCurrentLoanValue_iff btc, mul_eq_ok,
    div_eq_ok, pure_eq_ok, Except.ok.injEq]
  constructor
  · rintro ⟨_, _, ⟨⟨priced, scaled, unit⟩, rfl⟩, _, ⟨_, _, _, ⟨valued, rfl⟩, _, rfl⟩, _,
      ⟨⟨⟨started, yearly, accrued⟩, debt, debtPriced⟩, rfl⟩, _, ⟨collateralFits, rfl⟩, _,
      ⟨debtFits, rfl⟩, _, below, rfl⟩
    exact ⟨⟨priced, scaled, unit, valued, started, yearly, accrued, debt, debtPriced,
      collateralFits, debtFits⟩, below⟩
  · rintro ⟨fits, below⟩
    exact ⟨_, _, ⟨⟨fits.priced, fits.scaled, fits.unit⟩, rfl⟩, _,
      ⟨(), collateral, _, ⟨fits.valued, rfl⟩, by decide, rfl⟩, _,
      ⟨⟨⟨fits.started, fits.yearly, fits.accrued⟩, fits.debt, fits.debtPriced⟩, rfl⟩, _,
      ⟨fits.collateralSide, rfl⟩, _, ⟨fits.debtSide, rfl⟩, (), below, rfl⟩

/-- The loan that `sampleLoan` leaves between accounts two and one. -/
def sampleLoanRecord : Loan where
  borrowAmount := 100000
  principal := 100000
  interestRate := 10
  startDate := 0
  borrower := 1
  lender := 2
  btcAddress := sampleBtcAddress
  active := true

theorem sampleLoan_reached :
    ∃ x, Run (Step sampleDeployment) (Audited.fresh sampleLedger)
        (sampleLoan.map Transaction.action) x ∧
      x.state.loans 2 1 = sampleLoanRecord ∧ x.audit.loanDeposit 2 1 = 9000000000 := by
  have reached := reachesB_run sampleDeployment (fun _ _ => True)
    (fun x => x.state.loans 2 1 = sampleLoanRecord ∧ x.audit.loanDeposit 2 1 = 9000000000)
    sampleLoan (.fresh sampleLedger) (by decide +kernel)
  obtain ⟨x, run, loan, deposit⟩ := reached
  exact ⟨x, run.of_guarded, loan, deposit⟩

end P2PLending.Contract
