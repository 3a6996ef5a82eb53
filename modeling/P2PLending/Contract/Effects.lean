import P2PLending.Contract.Lending

/-! What each function of `P2PBTCLending` did when it did not revert: the checks
that passed, the token movement and the new state. Later modules use these
lemmas and never open a function body. -/

namespace P2PLending.Contract
open Checked

variable {Ledger : Type} {D : Deployment Ledger} {env : Env} {sender : Address}
  {s s' : State Ledger} {events : List Event}

/-- The collateral that the prices require for an amount, without its checks. -/
def requiredCollateral (btcPrice collateralPrice : ℤ) (amount : ℕ) : ℕ :=
  amount * btcPrice.toNat * collateralRatio / (collateralPrice.toNat * 100)

theorem getStableCollateralAmount_ok {amount c : ℕ}
    (h : getStableCollateralAmount env amount = .ok c) :
    0 < env.btcPrice ∧ 0 < env.collateralPrice ∧
      c = requiredCollateral env.btcPrice env.collateralPrice amount := by
  simp only [getStableCollateralAmount, bind_eq_ok, require_eq_ok, mul_eq_ok, div_eq_ok] at h
  obtain ⟨_, ⟨btc, collateral⟩, _, ⟨_, rfl⟩, _, ⟨_, rfl⟩, _, ⟨_, rfl⟩, _, rfl⟩ := h
  exact ⟨btc, collateral, rfl⟩

/-- The floor in `requiredCollateral`, as two bounds on the prices' products. -/
theorem requiredCollateral_eq_iff {btcPrice collateralPrice : ℤ} {amount c : ℕ}
    (positive : 0 < collateralPrice) :
    requiredCollateral btcPrice collateralPrice amount = c ↔
      c * (collateralPrice.toNat * 100) ≤ amount * btcPrice.toNat * collateralRatio ∧
        amount * btcPrice.toNat * collateralRatio < (c + 1) * (collateralPrice.toNat * 100) :=
  div_eq_iff_bounds (by omega)

theorem requiredCollateral_le_iff {btcPrice collateralPrice : ℤ} {amount c : ℕ}
    (positive : 0 < collateralPrice) :
    requiredCollateral btcPrice collateralPrice amount ≤ c ↔
      amount * btcPrice.toNat * collateralRatio < (c + 1) * (collateralPrice.toNat * 100) := by
  rw [requiredCollateral, ← Nat.lt_succ_iff, Nat.div_lt_iff_lt_mul (by omega)]

/-- The stablecoins lent against an amount of bitcoin at the given prices. -/
def lendableAmount (btcPrice collateralPrice : ℤ) (btcCollateralAmount : ℕ) : ℕ :=
  btcCollateralAmount * collateralPrice.toNat * 100 / (btcPrice.toNat * collateralRatio)

theorem getStableLoanAmount_ok {btcCollateralAmount n : ℕ}
    (h : getStableLoanAmount env btcCollateralAmount = .ok n) :
    n = lendableAmount env.btcPrice env.collateralPrice btcCollateralAmount := by
  simp only [getStableLoanAmount, bind_eq_ok, require_eq_ok, mul_eq_ok, div_eq_ok] at h
  obtain ⟨_, _, _, ⟨_, rfl⟩, _, ⟨_, rfl⟩, _, ⟨_, rfl⟩, _, rfl⟩ := h
  rfl

theorem getStableLoanAmount_prices {btcCollateralAmount n : ℕ}
    (h : getStableLoanAmount env btcCollateralAmount = .ok n) :
    0 < env.btcPrice ∧ 0 < env.collateralPrice := by
  simp only [getStableLoanAmount, bind_eq_ok, require_eq_ok] at h
  obtain ⟨_, prices, _⟩ := h
  exact prices

theorem requestBorrow_ok {amount interestRate : ℕ} {btcAddress signedPsbt : Bytes}
    (h : requestBorrow D env sender s amount interestRate btcAddress signedPsbt =
      .ok (s', events)) :
    (s.borrowRequests sender).active = false ∧ ∃ collateralAmount token,
      getStableCollateralAmount env amount = .ok collateralAmount ∧
      D.stableToken.transferFrom s.token D.self sender D.self collateralAmount =
        .ok (true, token) ∧
      s' = { s with
        token
        borrowRequests := Function.update s.borrowRequests sender
          { amount, collateral := collateralAmount, interestRate, btcAddress, signedPsbt,
            active := true } } := by
  simp only [requestBorrow, bind_eq_ok, require_eq_ok, pure_eq_ok, Except.ok.injEq,
    Prod.exists, Prod.mk.injEq] at h
  obtain ⟨_, _, _, _, _, idle, c, priced, _, token, pulled, _, rfl, rfl, rfl⟩ := h
  exact ⟨idle, c, token, priced, pulled, rfl⟩

theorem requestBorrow_positive {amount interestRate : ℕ} {btcAddress signedPsbt : Bytes}
    (h : requestBorrow D env sender s amount interestRate btcAddress signedPsbt =
      .ok (s', events)) : 0 < amount := by
  simp only [requestBorrow, bind_eq_ok, require_eq_ok] at h
  obtain ⟨_, positive, _⟩ := h
  exact positive

theorem cancelBorrowRequest_ok (h : cancelBorrowRequest D sender s = .ok (s', events)) :
    (s.borrowRequests sender).active = true ∧ ∃ token,
      D.stableToken.transfer s.token D.self sender (s.borrowRequests sender).collateral =
        .ok (true, token) ∧
      s' = { s with
        token
        borrowRequests := Function.update s.borrowRequests sender default } := by
  simp only [cancelBorrowRequest, bind_eq_ok, require_eq_ok, pure_eq_ok, Except.ok.injEq,
    Prod.exists, Prod.mk.injEq] at h
  obtain ⟨_, active, _, token, paid, _, rfl, rfl, rfl⟩ := h
  exact ⟨active, token, paid, rfl⟩

/-- A payment that passes pays the request with its first output. -/
theorem checkLendingTransaction_pays {request : BorrowRequest} {lendTp : TransactionParams}
    {blockHeader : Bytes}
    (checked : checkLendingTransaction D env s request lendTp blockHeader = .ok ()) :
    ∃ output0, D.spv.extractOutputAtIndex lendTp.vout 0 = .ok output0 ∧
      D.spv.extractValue output0 = request.amount ∧
      D.keccak256 (D.spv.extractHash output0) = D.keccak256 request.btcAddress := by
  simp only [checkLendingTransaction, bind_eq_ok, require_eq_ok] at checked
  obtain ⟨_, _, _, _, rest⟩ := checked
  split at rest
  · simp only [bind_eq_ok, require_eq_ok] at rest
    obtain ⟨_, _, _, _, output0, extracted, _, value, hash⟩ := rest
    exact ⟨output0, extracted, value, hash⟩
  · simp only [bind_eq_ok, require_eq_ok] at rest
    obtain ⟨output0, extracted, _, value, hash⟩ := rest
    exact ⟨output0, extracted, value, hash⟩

theorem lend_ok {borrower : Address} {lendTp : TransactionParams} {blockHeader : Bytes}
    (h : lend D env sender s borrower lendTp blockHeader = .ok (s', events)) :
    (s.borrowRequests borrower).active = true ∧
      (s.loans sender borrower).active = false ∧
      checkLendingTransaction D env s (s.borrowRequests borrower) lendTp blockHeader = .ok () ∧
      s' = { s with
        loans := assign s.loans sender borrower
          { borrowAmount := (s.borrowRequests borrower).amount
            principal := (s.borrowRequests borrower).amount
            interestRate := (s.borrowRequests borrower).interestRate
            startDate := env.timestamp
            borrower, lender := sender
            btcAddress := (s.borrowRequests borrower).btcAddress
            active := true }
        borrowRequests := Function.update s.borrowRequests borrower default } := by
  simp only [lend, bind_eq_ok, require_eq_ok, pure_eq_ok, Except.ok.injEq, Prod.mk.injEq] at h
  obtain ⟨_, active, _, idle, _, checked, rfl, rfl⟩ := h
  exact ⟨active, idle, checked, rfl⟩

theorem repay_ok {lender : Address} (h : repay D env sender s lender = .ok (s', events)) :
    (s.loans lender sender).active = true ∧ ∃ collateralAmount token,
      getStableCollateralAmount env (s.loans lender sender).borrowAmount =
        .ok collateralAmount ∧
      D.stableToken.transfer s.token D.self sender collateralAmount = .ok (true, token) ∧
      s' = closeLoan s token lender sender := by
  simp only [repay, bind_eq_ok, require_eq_ok, pure_eq_ok, Except.ok.injEq, Prod.exists,
    Prod.mk.injEq] at h
  obtain ⟨_, active, _, _, _, _, c, priced, _, token, paid, _, rfl, rfl, rfl⟩ := h
  exact ⟨active, c, token, priced, paid, rfl⟩

theorem liquidate_ok {borrower lender : Address}
    (h : liquidate D env sender s borrower lender = .ok (s', events)) :
    (s.loans lender borrower).active = true ∧ ∃ collateralAmount token token',
      liquidationCheck env (s.loans lender borrower) = .ok collateralAmount ∧
      collateralAmount * liquidationBonus / 100 ≤ collateralAmount ∧
      D.stableToken.transfer s.token D.self sender
        (collateralAmount * liquidationBonus / 100) = .ok (true, token) ∧
      D.stableToken.transfer token D.self lender
        (collateralAmount - collateralAmount * liquidationBonus / 100) = .ok (true, token') ∧
      s' = closeLoan s token' lender borrower := by
  simp only [liquidate, bind_eq_ok, require_eq_ok, mul_eq_ok, div_eq_ok, sub_eq_ok, pure_eq_ok,
    Except.ok.injEq, Prod.exists, Prod.mk.injEq] at h
  obtain ⟨_, active, c, checked, _, ⟨_, rfl⟩, _, ⟨_, rfl⟩, _, ⟨bonus, rfl⟩, _, token, rewarded,
    _, rfl, _, token', returned, _, rfl, rfl, rfl⟩ := h
  exact ⟨active, c, token, token', checked, bonus, rewarded, returned, rfl⟩

theorem liquidationCheck_ok {loan : Loan} {c : ℕ} (h : liquidationCheck env loan = .ok c) :
    getStableCollateralAmount env loan.borrowAmount = .ok c := by
  simp only [liquidationCheck, bind_eq_ok, require_eq_ok, pure_eq_ok, Except.ok.injEq] at h
  obtain ⟨_, priced, _, _, _, _, _, _, _, _, _, _, rfl⟩ := h
  exact priced

theorem lendStable_ok {borrowerHash : Bytes32} {btcCollateralAmount : ℕ}
    (h : lendStable D env sender s borrowerHash btcCollateralAmount = .ok (s', events)) :
    0 < btcCollateralAmount ∧ (s.stableLoans borrowerHash).collateralAmount = 0 ∧
      ∃ stableLoanAmount token,
        getStableLoanAmount env btcCollateralAmount = .ok stableLoanAmount ∧
        D.stableToken.transferFrom s.token D.self sender D.self stableLoanAmount =
          .ok (true, token) ∧
        s' = { s with
          token
          stableLoans := Function.update s.stableLoans borrowerHash
            { s.stableLoans borrowerHash with
              collateralAmount := btcCollateralAmount, stableLoanAmount } } := by
  simp only [lendStable, bind_eq_ok, require_eq_ok, pure_eq_ok, Except.ok.injEq, Prod.exists,
    Prod.mk.injEq] at h
  obtain ⟨_, positive, _, empty, n, priced, _, token, pulled, _, rfl, rfl, rfl⟩ := h
  exact ⟨positive, empty, n, token, priced, pulled, rfl⟩

theorem claimStable_ok {borrowerPreimage : Uint128}
    (h : claimStable D sender s borrowerPreimage = .ok (s', events)) :
    0 < (s.stableLoans (preimageHash D borrowerPreimage)).collateralAmount ∧ ∃ token,
      D.stableToken.transfer s.token D.self sender
        (s.stableLoans (preimageHash D borrowerPreimage)).stableLoanAmount = .ok (true, token) ∧
      s' = { s with
        token
        stableLoans := Function.update s.stableLoans (preimageHash D borrowerPreimage)
          { s.stableLoans (preimageHash D borrowerPreimage) with borrowerPreimage } } := by
  simp only [claimStable, bind_eq_ok, require_eq_ok, pure_eq_ok, Except.ok.injEq, Prod.exists,
    Prod.mk.injEq] at h
  obtain ⟨_, recorded, _, token, paid, _, rfl, rfl, rfl⟩ := h
  exact ⟨recorded, token, paid, rfl⟩

theorem setTestMode_ok {testMode : Bool} (h : setTestMode s testMode = .ok (s', events)) :
    s' = { s with testMode } := by
  simp only [setTestMode, pure_eq_ok, Except.ok.injEq, Prod.mk.injEq] at h
  exact h.1.symm

/-- The preimage of a claim. -/
def Call.claimed : Call → Option Uint128
  | .claimStable p => some p
  | _ => none

/-- Only a claim changes the preimage of a record, that of its own hash. -/
theorem exec_borrowerPreimage {c : Call} (done : exec D env sender s c = .ok (s', events))
    (h : Bytes32) :
    (s'.stableLoans h).borrowerPreimage =
      (c.claimed.filter fun p => preimageHash D p = h).getD (s.stableLoans h).borrowerPreimage := by
  cases c with
  | requestBorrow amount interestRate btcAddress signedPsbt =>
      obtain ⟨_, _, _, _, _, rfl⟩ := requestBorrow_ok done
      rfl
  | cancelBorrowRequest =>
      obtain ⟨_, _, _, rfl⟩ := cancelBorrowRequest_ok done
      rfl
  | lend borrower lendTp blockHeader =>
      obtain ⟨_, _, _, rfl⟩ := lend_ok done
      rfl
  | repay lender =>
      obtain ⟨_, _, _, _, _, rfl⟩ := repay_ok done
      rfl
  | liquidate borrower lender =>
      obtain ⟨_, _, _, _, _, _, _, _, rfl⟩ := liquidate_ok done
      rfl
  | lendStable borrowerHash btcCollateralAmount =>
      obtain ⟨_, _, _, _, _, _, rfl⟩ := lendStable_ok done
      by_cases same : h = borrowerHash
      · simp [same, Call.claimed]
      · simp [same, Call.claimed]
  | claimStable p =>
      obtain ⟨_, _, _, rfl⟩ := claimStable_ok done
      by_cases same : h = preimageHash D p
      · simp [same, Call.claimed, Option.filter_some]
      · simp [same, Ne.symm same, Call.claimed, Option.filter_some]
  | setTestMode testMode =>
      obtain rfl := setTestMode_ok done
      rfl

end P2PLending.Contract
