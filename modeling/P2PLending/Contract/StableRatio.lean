import P2PLending.Contract.Token

/-! The ratio of a stable loan. `lendStable` hands over the collateral converted
with the two prices in swapped roles: it multiplies by the token's price and
divides by bitcoin's. The collateral ratio is kept exactly when the swapped
quotient does not exceed the amount the ratio allows. -/

namespace P2PLending.Contract
open Checked

variable {Ledger : Type} {D : Deployment Ledger} {env : Env} {sender : Address}
  {s s' : State Ledger} {events : List Event}

/-- The most stablecoins that the collateral ratio allows at these prices. -/
def allowedAmount (btcPrice collateralPrice : ℤ) (btcCollateralAmount : ℕ) : ℕ :=
  btcCollateralAmount * btcPrice.toNat * 100 / (collateralPrice.toNat * collateralRatio)

/-- The stablecoins, at the token's price, are within the ratio of the bitcoin at
its price. -/
def OverCollateralised (env : Env) (btcCollateralAmount stableLoanAmount : ℕ) : Prop :=
  stableLoanAmount * env.collateralPrice.toNat * collateralRatio ≤
    btcCollateralAmount * env.btcPrice.toNat * 100

theorem overCollateralised_iff_le {n btcCollateralAmount : ℕ} (positive : 0 < env.collateralPrice) :
    OverCollateralised env btcCollateralAmount n ↔
      n ≤ allowedAmount env.btcPrice env.collateralPrice btcCollateralAmount := by
  have unit : 0 < env.collateralPrice.toNat * collateralRatio :=
    Nat.mul_pos (by omega) (by decide)
  rw [OverCollateralised, allowedAmount, Nat.le_div_iff_mul_le unit, Nat.mul_assoc]

/-- At most bitcoin's price for a token keeps the lent amount within the allowed one. -/
theorem lendableAmount_le_allowed {btcPrice collateralPrice : ℤ} (btcCollateralAmount : ℕ)
    (positive : 0 < collateralPrice) (ordered : collateralPrice ≤ btcPrice) :
    lendableAmount btcPrice collateralPrice btcCollateralAmount ≤
      allowedAmount btcPrice collateralPrice btcCollateralAmount := by
  have prices : collateralPrice.toNat ≤ btcPrice.toNat := Int.toNat_le_toNat ordered
  apply (Nat.div_le_div_right (Nat.mul_le_mul_right 100
    (Nat.mul_le_mul_left btcCollateralAmount prices))).trans
  exact Nat.div_le_div_left (Nat.mul_le_mul_right collateralRatio prices)
    (Nat.mul_pos (by omega) (by decide))

theorem lendableAmount_le_iff {btcPrice collateralPrice : ℤ} {btcCollateralAmount c : ℕ}
    (positive : 0 < btcPrice) :
    lendableAmount btcPrice collateralPrice btcCollateralAmount ≤ c ↔
      btcCollateralAmount * collateralPrice.toNat * 100 <
        (c + 1) * (btcPrice.toNat * collateralRatio) := by
  have unit : 0 < btcPrice.toNat * collateralRatio := Nat.mul_pos (by omega) (by decide)
  rw [lendableAmount, ← Nat.lt_succ_iff, Nat.div_lt_iff_lt_mul unit]

/-- The loan that `lendStable` hands over is over-collateralised exactly when the
token costs at most as much as bitcoin, or the collateral is so small that the
swapped quotient stays below the next token above the allowed amount. -/
theorem lendStable_overCollateralised_iff {borrowerHash : Bytes32} {btcCollateralAmount : ℕ}
    (done : lendStable D env sender s borrowerHash btcCollateralAmount = .ok (s', events)) :
    ∃ stableLoanAmount token,
      D.stableToken.transferFrom s.token D.self sender D.self stableLoanAmount =
        .ok (true, token) ∧
      (s'.stableLoans borrowerHash).stableLoanAmount = stableLoanAmount ∧
      (OverCollateralised env btcCollateralAmount stableLoanAmount ↔
        env.collateralPrice ≤ env.btcPrice ∨
          btcCollateralAmount * env.collateralPrice.toNat * 100 <
            (allowedAmount env.btcPrice env.collateralPrice btcCollateralAmount + 1) *
              (env.btcPrice.toNat * collateralRatio)) := by
  obtain ⟨_, _, amount, token, priced, pulled, after⟩ := lendStable_ok done
  obtain ⟨btc, collateral⟩ := getStableLoanAmount_prices priced
  have amountIs := getStableLoanAmount_ok priced
  refine ⟨amount, token, pulled, ?_, ?_⟩
  · simp [after]
  · rw [overCollateralised_iff_le collateral, amountIs, ← lendableAmount_le_iff btc]
    constructor
    · exact .inr
    · intro within
      cases within with
      | inl ordered => exact lendableAmount_le_allowed btcCollateralAmount collateral ordered
      | inr small => exact small

/-- Collateral of 300 at the given prices, in the sample deployment. -/
def sampleStableCall (btcPrice collateralPrice : ℤ) : Sol (State TokenLedger × List Event) :=
  lendStable sampleDeployment (sampleEnv 0 btcPrice collateralPrice) 2 (.fresh sampleLedger) 7 300

theorem lendStable_overCollateralised_iff_deployed_prices :
    ∃ s' events stableLoanAmount,
      sampleStableCall (50000 * 10 ^ 8) (2000 * 10 ^ 8) = .ok (s', events) ∧
      (s'.stableLoans 7).stableLoanAmount = stableLoanAmount ∧
      OverCollateralised (sampleEnv 0 (50000 * 10 ^ 8) (2000 * 10 ^ 8)) 300 stableLoanAmount := by
  obtain ⟨s', events, done⟩ : ∃ s' events,
      sampleStableCall (50000 * 10 ^ 8) (2000 * 10 ^ 8) = .ok (s', events) := ⟨_, _, rfl⟩
  obtain ⟨amount, _, _, recorded, ratio⟩ := lendStable_overCollateralised_iff done
  exact ⟨s', events, amount, done, recorded, ratio.mpr (.inl (by decide))⟩

/-- A token that costs twice as much as bitcoin: 400 are lent where 100 are allowed. -/
theorem dearer_token_under_collateralised :
    ∃ s' events, sampleStableCall (10 ^ 8) (2 * 10 ^ 8) = .ok (s', events) ∧
      (s'.stableLoans 7).stableLoanAmount = 400 ∧
      allowedAmount (10 ^ 8) (2 * 10 ^ 8) 300 = 100 ∧
      ¬ OverCollateralised (sampleEnv 0 (10 ^ 8) (2 * 10 ^ 8)) 300 400 := by
  refine ⟨_, _, rfl, by decide, by decide, ?_⟩
  unfold OverCollateralised
  decide

end P2PLending.Contract
