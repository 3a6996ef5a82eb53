import P2PLending.Contract.Repayment

/-! The arithmetic of `repay` and `liquidate` on the loans that can arise. The
amount of a loan is a payment's 64-bit value, so with prices below `2 ^ 128` every
product on the collateral's side is a word. The interest rate is bounded nowhere:
the only arithmetic that can revert multiplies by it. -/

namespace P2PLending.Contract
open Checked

variable {Ledger : Type} (D : Deployment Ledger) (env : Env) (sender : Address)
  (s : State Ledger)

/-- The products that `calculateInterest` forms are words. -/
def InterestFits (loan : Loan) : Prop :=
  loan.principal * loan.interestRate < uint256Limit ∧
    loan.principal * loan.interestRate * (env.timestamp - loan.startDate) < uint256Limit

instance (loan : Loan) : Decidable (InterestFits env loan) :=
  inferInstanceAs (Decidable (_ ∧ _))

/-- The debt, valued in dollars, is formed from words. -/
def DebtFits (loan : Loan) : Prop :=
  InterestFits env loan ∧ debt env loan * env.btcPrice.toNat < uint256Limit

instance (loan : Loan) : Decidable (DebtFits env loan) :=
  inferInstanceAs (Decidable (_ ∧ _))

/-- Both feeds answer, with a value of at most 128 bits. -/
structure Priced : Prop where
  btc : 0 < env.btcPrice
  btc_small : env.btcPrice < 2 ^ 128
  collateral : 0 < env.collateralPrice
  collateral_small : env.collateralPrice < 2 ^ 128

/-- The collateral that both calls compute for a loan. -/
def closingCollateral (loan : Loan) : ℕ :=
  requiredCollateral env.btcPrice env.collateralPrice loan.borrowAmount

/-- The rest of `repay` once its amounts are computed. -/
def payBack (lender : Address) (totalRepayment collateralAmount : ℕ) :
    Sol (State Ledger × List Event) := do
  let (success, token) ← D.stableToken.transfer s.token D.self sender collateralAmount
  require (success = true) "Collateral return failed"
  pure (closeLoan s token lender sender, [.loanRepaid sender lender totalRepayment])

/-- The rest of `liquidate` once its amounts are computed. -/
def payOut (borrower lender : Address) (collateralAmount liquidatorReward remainingCollateral : ℕ) :
    Sol (State Ledger × List Event) := do
  let (rewarded, token) ← D.stableToken.transfer s.token D.self sender liquidatorReward
  require (rewarded = true) "Liquidator reward transfer failed"
  let (returned, token) ← D.stableToken.transfer token D.self lender remainingCollateral
  require (returned = true) "Remaining collateral transfer failed"
  pure (closeLoan s token lender borrower, [.loanLiquidated borrower sender collateralAmount])

variable {D env sender s}

theorem repay_eq {lender : Address} (active : (s.loans lender sender).active = true) :
    repay D env sender s lender = (do
      let interest ← calculateInterest env (s.loans lender sender)
      let totalRepayment ← add (s.loans lender sender).principal interest
      let collateralAmount ← getStableCollateralAmount env (s.loans lender sender).borrowAmount
      payBack D sender s lender totalRepayment collateralAmount) := by
  simp only [repay, active, require, ensure, if_true, ok_bind, payBack]

theorem liquidate_eq {borrower lender : Address}
    (active : (s.loans lender borrower).active = true) :
    liquidate D env sender s borrower lender = (do
      let collateralAmount ← liquidationCheck env (s.loans lender borrower)
      let bonus ← mul collateralAmount liquidationBonus
      let liquidatorReward ← div bonus 100
      let remainingCollateral ← sub collateralAmount liquidatorReward
      payOut D sender s borrower lender collateralAmount liquidatorReward
        remainingCollateral) := by
  simp only [liquidate, active, require, ensure, if_true, ok_bind, payOut]

section Interest
variable {loan : Loan}

theorem calculateInterest_eq (started : loan.startDate ≤ env.timestamp) :
    calculateInterest env loan =
      if InterestFits env loan then .ok (accruedInterest env loan) else .error .overflow := by
  by_cases fits : InterestFits env loan
  · rw [if_pos fits]
    exact calculateInterest_iff.mpr ⟨⟨started, fits⟩, rfl⟩
  · rw [if_neg fits, calculateInterest, sub_fits started, ok_bind]
    by_cases yearly : loan.principal * loan.interestRate < uint256Limit
    · have accrued : uint256Limit ≤
          loan.principal * loan.interestRate * (env.timestamp - loan.startDate) :=
        Nat.le_of_not_lt fun small => fits ⟨yearly, small⟩
      rw [mul_fits yearly, ok_bind, mul_overflows accrued, error_bind]
    · rw [mul_overflows (Nat.le_of_not_lt yearly), error_bind]

/-- Interest is divided by more than `2 ^ 31`, which leaves room for the principal. -/
theorem debt_lt (fits : InterestFits env loan) (small : loan.principal < 2 ^ 64) :
    loan.principal + accruedInterest env loan < uint256Limit := by
  have interest : accruedInterest env loan < 2 ^ 225 := by
    rw [accruedInterest, Nat.div_lt_iff_lt_mul (by decide)]
    exact lt_of_lt_of_le fits.2 (by decide)
  unfold uint256Limit
  omega

theorem getCurrentLoanValue_eq (started : loan.startDate ≤ env.timestamp)
    (btc : 0 < env.btcPrice) (small : loan.principal < 2 ^ 64) :
    getCurrentLoanValue env loan =
      if DebtFits env loan then .ok (debt env loan * env.btcPrice.toNat / 10 ^ 8)
      else .error .overflow := by
  by_cases fits : InterestFits env loan
  · have sum := debt_lt fits small
    rw [getCurrentLoanValue, calculateInterest_eq started, if_pos fits]
    by_cases priced : debt env loan * env.btcPrice.toNat < uint256Limit
    · rw [if_pos ⟨fits, priced⟩]
      simp only [require, ensure, btc, if_true, ok_bind, add_fits sum]
      rw [← debt, mul_fits priced, ok_bind, div_fits (by decide)]
    · rw [if_neg fun both => priced both.2]
      simp only [require, ensure, btc, if_true, ok_bind, add_fits sum]
      rw [← debt, mul_overflows (Nat.le_of_not_lt priced), error_bind]
  · rw [if_neg fun both => fits both.1, getCurrentLoanValue, calculateInterest_eq started,
      if_neg fits]
    simp only [require, ensure, btc, if_true, ok_bind, error_bind]

end Interest

section Collateral
variable {amount : ℕ}

/-- The product of a 64-bit amount, a price and the ratio. -/
theorem priced_amount_lt (priced : Priced env) (small : amount < 2 ^ 64) :
    amount * env.btcPrice.toNat * collateralRatio < 2 ^ 200 := by
  have price : env.btcPrice.toNat < 2 ^ 128 := by
    have := priced.btc_small
    omega
  have product : amount * env.btcPrice.toNat < 2 ^ 64 * 2 ^ 128 :=
    Nat.mul_lt_mul'' small price
  unfold collateralRatio
  omega

theorem getStableCollateralAmount_eq (priced : Priced env) (small : amount < 2 ^ 64) :
    getStableCollateralAmount env amount =
      .ok (requiredCollateral env.btcPrice env.collateralPrice amount) := by
  have scaled := priced_amount_lt priced small
  have smaller : amount * env.btcPrice.toNat ≤ amount * env.btcPrice.toNat * collateralRatio :=
    Nat.le_mul_of_pos_right _ (by decide)
  have unit := priced.collateral_small
  refine (getStableCollateralAmount_iff priced.btc priced.collateral).mpr ⟨⟨?_, ?_, ?_⟩, rfl⟩
  all_goals unfold uint256Limit; omega

/-- The value of the required collateral stays within the product it came from. -/
theorem requiredCollateral_value_le (priced : Priced env) :
    requiredCollateral env.btcPrice env.collateralPrice amount * env.collateralPrice.toNat * 100 ≤
      amount * env.btcPrice.toNat * collateralRatio := by
  rw [Nat.mul_assoc]
  exact ((requiredCollateral_eq_iff priced.collateral).mp rfl).1

theorem requiredCollateral_lt (priced : Priced env) (small : amount < 2 ^ 64) :
    requiredCollateral env.btcPrice env.collateralPrice amount < 2 ^ 200 := by
  have scaled := priced_amount_lt priced small
  have value : requiredCollateral env.btcPrice env.collateralPrice amount *
      env.collateralPrice.toNat * 100 ≤ _ := requiredCollateral_value_le priced
  have price : 0 < env.collateralPrice.toNat := by
    have := priced.collateral
    omega
  have atLeast := Nat.le_mul_of_pos_right
    (requiredCollateral env.btcPrice env.collateralPrice amount) price
  omega

theorem getCurrentCollateralValue_eq {n : ℕ} (positive : 0 < env.collateralPrice)
    (fits : n * env.collateralPrice.toNat < uint256Limit) :
    getCurrentCollateralValue env n = .ok (n * env.collateralPrice.toNat / 10 ^ 8) := by
  simp only [getCurrentCollateralValue, require, ensure, positive, if_true, ok_bind,
    mul_fits fits]
  exact div_fits (by decide)

end Collateral

theorem liquidationCheck_eq {loan : Loan} (priced : Priced env)
    (started : loan.startDate ≤ env.timestamp) (small : loan.principal < 2 ^ 64)
    (amount : loan.borrowAmount = loan.principal) :
    liquidationCheck env loan =
      if DebtFits env loan then
        if collateralSide env (closingCollateral env loan) < debtSide env loan then
          .ok (closingCollateral env loan)
        else .error (.reason "Cannot liquidate")
      else .error .overflow := by
  have amountSmall : loan.borrowAmount < 2 ^ 64 := amount ▸ small
  have product := priced_amount_lt priced amountSmall
  have value : closingCollateral env loan * env.collateralPrice.toNat * 100 ≤ _ :=
    requiredCollateral_value_le priced
  have valued : closingCollateral env loan * env.collateralPrice.toNat < uint256Limit := by
    unfold uint256Limit
    omega
  have collateralFits : collateralSide env (closingCollateral env loan) < uint256Limit := by
    unfold collateralSide uint256Limit
    omega
  rw [liquidationCheck, getStableCollateralAmount_eq priced amountSmall, ← closingCollateral,
    ok_bind, getCurrentCollateralValue_eq priced.collateral valued, ok_bind,
    getCurrentLoanValue_eq started priced.btc small, mul_fits collateralFits]
  by_cases fits : DebtFits env loan
  · -- the threshold's factor is below the feed's scale
    have debtFits : debt env loan * env.btcPrice.toNat / 10 ^ 8 * liquidationThreshold <
        uint256Limit := by
      have word := fits.2
      unfold liquidationThreshold
      omega
    rw [if_pos fits, if_pos fits, ok_bind, ok_bind, mul_fits debtFits, ok_bind]
    by_cases below : collateralSide env (closingCollateral env loan) < debtSide env loan
    · rw [if_pos below]
      exact bind_eq_ok.mpr ⟨(), require_eq_ok.mpr below, rfl⟩
    · rw [if_neg below]
      exact congrArg (· >>= _) (if_neg below)
  · rw [if_neg fits, if_neg fits, error_bind]

theorem reward_fits {c : ℕ} (small : c < 2 ^ 200) :
    c * liquidationBonus < uint256Limit ∧ c * liquidationBonus / 100 ≤ c := by
  unfold liquidationBonus uint256Limit
  omega

/-- A loan's amount is the value of an output, a 64-bit word. -/
theorem loan_amount {token : Ledger} {actions : List (Action Ledger)} {x : Audited Ledger}
    (word : ∀ output, D.spv.extractValue output < 2 ^ 64)
    (run : Run (Step D) (Audited.fresh token) actions x) {lender borrower : Address}
    (active : (x.state.loans lender borrower).active = true) :
    (x.state.loans lender borrower).borrowAmount = (x.state.loans lender borrower).principal ∧
      (x.state.loans lender borrower).principal < 2 ^ 64 := by
  have sound : OpenLoans (fun _ => True)
      (fun loan => loan.borrowAmount = loan.principal ∧ loan.principal < 2 ^ 64) x.state := by
    apply openLoans_run (fun _ _ => trivial) _ run
    intro env lender borrower request s lendTp blockHeader _ checked
    obtain ⟨output0, _, value, _⟩ := checkLendingTransaction_pays checked
    refine ⟨rfl, ?_⟩
    show request.amount < 2 ^ 64
    rw [← value]
    exact word output0
  exact sound.loans lender borrower active

/-- For every active loan of a reachable state, after its start and at prices of
128 bits, nothing divides by zero or underflows: `repay` and `liquidate` compute
their amounts and go on to their transfers, except that they overflow exactly
when a product with the interest rate does. -/
theorem closing_overflows_iff {token : Ledger} {actions : List (Action Ledger)}
    {x : Audited Ledger} (word : ∀ output, D.spv.extractValue output < 2 ^ 64)
    (run : Run (Step D) (Audited.fresh token) actions x) {lender borrower : Address}
    (active : (x.state.loans lender borrower).active = true)
    (started : (x.state.loans lender borrower).startDate ≤ env.timestamp)
    (priced : Priced env) :
    (repay D env borrower x.state lender =
      if InterestFits env (x.state.loans lender borrower) then
        payBack D borrower x.state lender (debt env (x.state.loans lender borrower))
          (closingCollateral env (x.state.loans lender borrower))
      else .error .overflow) ∧
    ∀ liquidator, liquidate D env liquidator x.state borrower lender =
      if DebtFits env (x.state.loans lender borrower) then
        if collateralSide env (closingCollateral env (x.state.loans lender borrower)) <
            debtSide env (x.state.loans lender borrower) then
          payOut D liquidator x.state borrower lender
            (closingCollateral env (x.state.loans lender borrower))
            (closingCollateral env (x.state.loans lender borrower) * liquidationBonus / 100)
            (closingCollateral env (x.state.loans lender borrower) -
              closingCollateral env (x.state.loans lender borrower) * liquidationBonus / 100)
        else .error (.reason "Cannot liquidate")
      else .error .overflow := by
  obtain ⟨amount, small⟩ := loan_amount word run active
  have amountSmall := amount ▸ small
  constructor
  · rw [repay_eq active, calculateInterest_eq started]
    by_cases fits : InterestFits env (x.state.loans lender borrower)
    · rw [if_pos fits, if_pos fits, ok_bind, add_fits (debt_lt fits small), ok_bind,
        getStableCollateralAmount_eq priced amountSmall, ok_bind]
      rfl
    · rw [if_neg fits, if_neg fits, error_bind]
  · intro liquidator
    rw [liquidate_eq active, liquidationCheck_eq priced started small amount]
    by_cases fits : DebtFits env (x.state.loans lender borrower)
    · rw [if_pos fits, if_pos fits]
      split
      · have small := requiredCollateral_lt priced amountSmall
        rw [← closingCollateral] at small
        have reward := reward_fits small
        rw [ok_bind, mul_fits reward.1, ok_bind, div_fits (by decide), ok_bind, sub_fits reward.2,
          ok_bind]
      · rw [error_bind]
    · rw [if_neg fits, if_neg fits, error_bind]

theorem sampleSpv_word (output : Bytes) : sampleSpv.extractValue output < 2 ^ 64 := by
  have bounded : ∀ bytes : Bytes,
      bytes.foldr (fun b n => b.toNat + 256 * n) 0 < 256 ^ bytes.length := by
    intro bytes
    induction bytes with
    | nil => decide
    | cons b rest ih =>
        have byte := b.toNat_lt
        rw [List.foldr_cons, List.length_cons, Nat.pow_succ]
        omega
  have short : (output.take 8).length ≤ 8 := List.length_take_le 8 output
  exact (bounded (output.take 8)).trans_le (Nat.pow_le_pow_right (by decide) short)

theorem closing_overflows_iff_three_years :
    ∃ x, Run (Step sampleDeployment) (Audited.fresh sampleLedger)
        (sampleLoan.map Transaction.action) x ∧
      repay sampleDeployment (sampleEnv (3 * secondsPerYear) (60000 * 10 ^ 8) (10 ^ 8)) 1 x.state
          2 = payBack sampleDeployment 1 x.state 2 130000 9000000000 := by
  obtain ⟨x, run, loan, _⟩ := sampleLoan_reached
  have active : (x.state.loans 2 1).active = true := by
    rw [loan]
    rfl
  have started : (x.state.loans 2 1).startDate ≤ 3 * secondsPerYear := by
    rw [loan]
    decide
  have priced : Priced (sampleEnv (3 * secondsPerYear) (60000 * 10 ^ 8) (10 ^ 8)) :=
    ⟨by decide, by decide, by decide, by decide⟩
  have closing := (closing_overflows_iff sampleSpv_word run active started priced).1
  rw [loan, if_pos (by decide)] at closing
  exact ⟨x, run, closing⟩

/-- A request with the largest rate, and the loan made for it. -/
def frozenLoan : List Transaction :=
  let env := sampleEnv 0 (60000 * 10 ^ 8) (10 ^ 8)
  [⟨env, 1, .requestBorrow 100000 (uint256Limit - 1) sampleBtcAddress []⟩,
    ⟨env, 2, .lend 1 sampleLending []⟩]

/-- It can never be repaid or liquidated. -/
theorem largest_rate_freezes_loan :
    ∃ x, Run (Step sampleDeployment) (Audited.fresh sampleLedger)
        (frozenLoan.map Transaction.action) x ∧
      (x.state.loans 2 1).active = true ∧
      ∀ env, Priced env → repay sampleDeployment env 1 x.state 2 = .error .overflow ∧
        ∀ liquidator, liquidate sampleDeployment env liquidator x.state 1 2 =
          .error .overflow := by
  have reached := reachesB_run sampleDeployment (fun _ _ => True)
    (fun x => x.state.loans 2 1 = { sampleLoanRecord with interestRate := uint256Limit - 1 })
    frozenLoan (.fresh sampleLedger) (by decide +kernel)
  obtain ⟨x, run, loan⟩ := reached
  have active : (x.state.loans 2 1).active = true := by rw [loan]; rfl
  have started : (x.state.loans 2 1).startDate = 0 := by rw [loan]; rfl
  have small : (x.state.loans 2 1).principal < 2 ^ 64 := by rw [loan]; decide
  have amount : (x.state.loans 2 1).borrowAmount = (x.state.loans 2 1).principal := by
    rw [loan]
    rfl
  refine ⟨x, run.of_guarded, active, fun env priced => ?_⟩
  have large : ¬ InterestFits env (x.state.loans 2 1) := by
    intro fits
    rw [loan] at fits
    exact absurd fits.1 (by decide)
  have started : (x.state.loans 2 1).startDate ≤ env.timestamp := started ▸ Nat.zero_le _
  constructor
  · rw [repay_eq active, calculateInterest_eq started, if_neg large, error_bind]
  · intro liquidator
    rw [liquidate_eq active, liquidationCheck_eq priced started small amount,
      if_neg fun fits => large fits.1, error_bind]

end P2PLending.Contract
