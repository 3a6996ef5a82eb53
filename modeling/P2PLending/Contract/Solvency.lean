import P2PLending.Contract.CollateralReturn

/-! Solvency of the contract over whole runs. Each step of the contract is one
move of the abstract custodian, so only three calls can lower the surplus: the
two that close a loan recompute the collateral at current prices, and a repeated
claim pays a deposit again. Runs without those payouts stay solvent. -/

namespace P2PLending.Contract
open Custody

variable {Ledger : Type} (D : Deployment Ledger)

/-- The custodian's move behind each action. -/
def move (x : Audited Ledger) : Action Ledger → Move Liability
  | .call env sender (.requestBorrow amount _ _ _) =>
      .deposit (.inl sender) (requiredCollateral env.btcPrice env.collateralPrice amount)
  | .call _ sender .cancelBorrowRequest =>
      .payOut (.inl sender) (x.state.borrowRequests sender).collateral
  | .call _ sender (.lend borrower _ _) =>
      .reassign (.inl borrower) (.inr (.inl (sender, borrower)))
  | .call env sender (.repay lender) =>
      .payOut (.inr (.inl (lender, sender)))
        (requiredCollateral env.btcPrice env.collateralPrice
          (x.state.loans lender sender).borrowAmount)
  | .call env _ (.liquidate borrower lender) =>
      .payOut (.inr (.inl (lender, borrower)))
        (requiredCollateral env.btcPrice env.collateralPrice
          (x.state.loans lender borrower).borrowAmount)
  | .call env _ (.lendStable h btcCollateralAmount) =>
      .deposit (.inr (.inr h))
        (lendableAmount env.btcPrice env.collateralPrice btcCollateralAmount)
  | .call _ _ (.claimStable p) =>
      .payOut (.inr (.inr (preimageHash D p)))
        (x.state.stableLoans (preimageHash D p)).stableLoanAmount
  | .call _ _ (.setTestMode _) => .receive 0
  | .tokenActivity token =>
      .receive (contractBalance D token - contractBalance D x.state.token)

section Books
variable {D}

@[simp] theorem book_balance (x : Audited Ledger) :
    (book D x).balance = contractBalance D x.state.token := rfl

@[simp] theorem book_owed (x : Audited Ledger) : (book D x).owed = owed x := rfl

/-- A borrow request replaced by one that owes `n`, nothing else in the book
changed. -/
theorem owed_request {x : Audited Ledger} {token : Ledger} {b : Address} {r : BorrowRequest}
    {deposits : Address → ℕ} :
    owed ⟨{ x.state with token, borrowRequests := Function.update x.state.borrowRequests b r },
        { x.audit with requestDeposit := deposits }⟩ =
      Function.update (owed x) (.inl b) (if r.active then r.collateral else 0) := by
  funext k
  match k with
  | .inl c =>
      by_cases hc : c = b
      · subst hc
        simp [owed]
      · simp [owed, hc]
  | .inr (.inl _) => rfl
  | .inr (.inr _) => rfl

theorem owed_closeLoan {x : Audited Ledger} {token : Ledger} {lender borrower : Address} :
    owed ⟨closeLoan x.state token lender borrower,
        { x.audit with loanDeposit := assign x.audit.loanDeposit lender borrower 0 }⟩ =
      Function.update (owed x) (.inr (.inl (lender, borrower))) 0 := by
  funext k
  match k with
  | .inl _ => rfl
  | .inr (.inr _) => rfl
  | .inr (.inl (a, b)) =>
      by_cases same : a = lender ∧ b = borrower
      · simp [owed, closeLoan, assign_apply, same]
      · have other : (Sum.inr (Sum.inl (a, b)) : Liability) ≠ .inr (.inl (lender, borrower)) := by
          intro equal
          simp only [Sum.inr.injEq, Sum.inl.injEq, Prod.mk.injEq] at equal
          exact same equal
        rw [Function.update_of_ne other]
        simp only [owed, closeLoan, assign_apply, same, if_false]

theorem owed_lend {x : Audited Ledger} {lender borrower : Address} {loan : Loan}
    (active : loan.active = true) (idle : (x.state.loans lender borrower).active = false)
    (requested : (x.state.borrowRequests borrower).active = true)
    (deposited : x.audit.requestDeposit borrower =
      (x.state.borrowRequests borrower).collateral) :
    owed ⟨{ x.state with
            loans := assign x.state.loans lender borrower loan
            borrowRequests := Function.update x.state.borrowRequests borrower default },
          { x.audit with
            loanDeposit :=
              assign x.audit.loanDeposit lender borrower (x.audit.requestDeposit borrower)
            requestDeposit := Function.update x.audit.requestDeposit borrower 0 }⟩ =
      Function.update
        (Function.update (owed x) (.inr (.inl (lender, borrower)))
          (owed x (.inr (.inl (lender, borrower))) + owed x (.inl borrower)))
        (.inl borrower) 0 := by
  funext k
  match k with
  | .inl c =>
      by_cases hc : c = borrower
      · subst hc
        simp [owed, show (default : BorrowRequest).active = false from rfl]
      · simp [owed, hc]
  | .inr (.inr _) => rfl
  | .inr (.inl (a, b)) =>
      rw [Function.update_of_ne (by exact Sum.inr_ne_inl)]
      by_cases same : a = lender ∧ b = borrower
      · obtain ⟨rfl, rfl⟩ := same
        simp [owed, assign_apply, active, idle, requested, deposited]
      · have other : (Sum.inr (Sum.inl (a, b)) : Liability) ≠ .inr (.inl (lender, borrower)) := by
          intro equal
          simp only [Sum.inr.injEq, Sum.inl.injEq, Prod.mk.injEq] at equal
          exact same equal
        rw [Function.update_of_ne other]
        simp only [owed, assign_apply, same, if_false]

/-- One stable deposit replaced, whatever its record now says. -/
theorem owed_stable {x : Audited Ledger} {s : State Ledger} {a : Audit} {h : Bytes32} {n : ℕ}
    (requests : s.borrowRequests = x.state.borrowRequests) (loans : s.loans = x.state.loans)
    (deposits : a.loanDeposit = x.audit.loanDeposit)
    (unclaimed : a.unclaimed = Function.update x.audit.unclaimed h n) :
    owed ⟨s, a⟩ = Function.update (owed x) (.inr (.inr h)) n := by
  funext k
  match k with
  | .inl _ => simp [owed, requests]
  | .inr (.inl _) => simp [owed, loans, deposits]
  | .inr (.inr g) =>
      by_cases hg : g = h
      · subst hg
        simp [owed, unclaimed]
      · simp [owed, unclaimed, hg]

/-- The contract refines the custodian: every action is its move on the book. -/
theorem step_moves (ordinary : D.stableToken.Ordinary) {x y : Audited Ledger}
    {act : Action Ledger} (consistent : Consistent D x) (step : Step D x act y) :
    Moves (book D x) (move D x act) (book D y) := by
  cases step with
  | tokenActivity kept =>
      refine ⟨?_, rfl⟩
      simp only [book_balance]
      omega
  | @call env sender c s s' a events external done =>
    cases c with
    | requestBorrow amount interestRate btcAddress signedPsbt =>
        obtain ⟨idle, collateral, token, priced, pulled, rfl⟩ := requestBorrow_ok done
        obtain ⟨_, _, rfl⟩ := getStableCollateralAmount_ok priced
        refine ⟨contractBalance_pulled ordinary external pulled, ?_⟩
        have nothing : owed (⟨s, a⟩ : Audited Ledger) (.inl sender) = 0 := by
          simp [owed, idle]
        rw [book_owed, book_owed, nothing, Nat.zero_add]
        exact owed_request (x := ⟨s, a⟩)
    | cancelBorrowRequest =>
        obtain ⟨_, token, paid, rfl⟩ := cancelBorrowRequest_ok done
        exact ⟨contractBalance_paid ordinary external paid, owed_request (x := ⟨s, a⟩)⟩
    | lend borrower lendTp blockHeader =>
        obtain ⟨requested, idle, _, rfl⟩ := lend_ok done
        refine ⟨Sum.inl_ne_inr, rfl, ?_⟩
        exact owed_lend (x := ⟨s, a⟩) rfl idle requested
          (consistent.request_deposit borrower requested)
    | repay lender =>
        have paid := closing_pays_required ordinary consistent rfl (.call external done)
        obtain ⟨_, collateral, token, _, _, rfl⟩ := repay_ok done
        exact ⟨paid.2.symm, owed_closeLoan (x := ⟨s, a⟩)⟩
    | liquidate borrower lender =>
        have paid := closing_pays_required ordinary consistent rfl (.call external done)
        obtain ⟨_, collateral, _, token, _, _, _, _, rfl⟩ := liquidate_ok done
        exact ⟨paid.2.symm, owed_closeLoan (x := ⟨s, a⟩)⟩
    | lendStable borrowerHash btcCollateralAmount =>
        obtain ⟨_, _, amount, token, priced, pulled, rfl⟩ := lendStable_ok done
        have grown := contractBalance_pulled ordinary external pulled
        obtain rfl := getStableLoanAmount_ok priced
        refine ⟨grown, owed_stable (x := ⟨s, a⟩) rfl rfl rfl ?_⟩
        simp only [Audit.record, grown, Nat.add_sub_cancel_left, book_owed, owed]
    | claimStable p =>
        obtain ⟨_, token, paid, rfl⟩ := claimStable_ok done
        exact ⟨contractBalance_paid ordinary external paid,
          owed_stable (x := ⟨s, a⟩) rfl rfl rfl rfl⟩
    | setTestMode testMode =>
        obtain rfl := setTestMode_ok done
        exact ⟨rfl, rfl⟩

end Books

/-- The loan's collateral, recomputed at current prices, is no more than its
deposit. -/
def PricesCover (env : Env) (borrowAmount deposit : ℕ) : Prop :=
  borrowAmount * env.btcPrice.toNat * collateralRatio <
    (deposit + 1) * (env.collateralPrice.toNat * 100)

/-- The claimed deposit has not been claimed, or is empty. -/
def FirstClaim (x : Audited Ledger) (p : Uint128) : Prop :=
  x.audit.claimed (preimageHash D p) = false ∨
    (x.state.stableLoans (preimageHash D p)).stableLoanAmount = 0

/-- A closing call finds its deposit sufficient at current prices, and a claim
finds its deposit unclaimed or empty. -/
def Covered (x : Audited Ledger) : Action Ledger → Prop
  | .call env sender (.repay lender) =>
      PricesCover env (x.state.loans lender sender).borrowAmount
        (x.audit.loanDeposit lender sender)
  | .call env _ (.liquidate borrower lender) =>
      PricesCover env (x.state.loans lender borrower).borrowAmount
        (x.audit.loanDeposit lender borrower)
  | .call _ _ (.claimStable p) => FirstClaim D x p
  | _ => True

instance (x : Audited Ledger) (act : Action Ledger) : Decidable (Covered D x act) :=
  match act with
  | .call _ _ (.repay _) => inferInstanceAs (Decidable (_ < _))
  | .call _ _ (.liquidate _ _) => inferInstanceAs (Decidable (_ < _))
  | .call _ _ (.claimStable _) => inferInstanceAs (Decidable (_ ∨ _))
  | .call _ _ (.requestBorrow _ _ _ _) => .isTrue trivial
  | .call _ _ .cancelBorrowRequest => .isTrue trivial
  | .call _ _ (.lend _ _ _) => .isTrue trivial
  | .call _ _ (.lendStable _ _) => .isTrue trivial
  | .call _ _ (.setTestMode _) => .isTrue trivial
  | .tokenActivity _ => .isTrue trivial

variable {D}

theorem covered_gain {x y : Audited Ledger} {act : Action Ledger}
    (consistent : Consistent D x) (covered : Covered D x act) (step : Step D x act y) :
    0 ≤ gain (book D x) (move D x act) := by
  cases step with
  | tokenActivity kept =>
      simp only [move, gain]
      omega
  | @call env sender c s s' a events external done =>
    cases c with
    | requestBorrow amount interestRate btcAddress signedPsbt => exact le_refl 0
    | cancelBorrowRequest =>
        obtain ⟨active, _⟩ := cancelBorrowRequest_ok done
        simp [move, gain, owed, active]
    | lend borrower lendTp blockHeader => exact le_refl 0
    | repay lender =>
        obtain ⟨active, collateral, token, priced, _⟩ := repay_ok done
        obtain ⟨_, positive, _⟩ := getStableCollateralAmount_ok priced
        have enough := (requiredCollateral_le_iff positive).mpr covered
        simp only [move, gain, book_owed, owed, active, if_true]
        exact sub_nonneg.mpr (Int.ofNat_le.mpr enough)
    | liquidate borrower lender =>
        obtain ⟨active, collateral, _, _, checked, _⟩ := liquidate_ok done
        obtain ⟨_, positive, _⟩ := getStableCollateralAmount_ok (liquidationCheck_ok checked)
        have enough := (requiredCollateral_le_iff positive).mpr covered
        simp only [move, gain, book_owed, owed, active, if_true]
        exact sub_nonneg.mpr (Int.ofNat_le.mpr enough)
    | lendStable borrowerHash btcCollateralAmount => exact le_refl 0
    | claimStable p =>
        obtain ⟨recorded, _⟩ := claimStable_ok done
        have unclaimed := consistent.unclaimed_record (preimageHash D p) (Nat.ne_of_gt recorded)
        simp only [move, gain, book_owed, owed, sub_nonneg, Int.ofNat_le]
        rcases covered with fresh | empty
        · exact (unclaimed fresh).ge
        · exact empty ▸ Nat.zero_le _
    | setTestMode testMode => exact le_refl 0

theorem solvent_fresh (token : Ledger) : Solvent (book D (Audited.fresh token)) := by
  have empty : (book D (Audited.fresh token)).owed = fun _ => 0 := by
    funext k
    match k with
    | .inl _ => rfl
    | .inr (.inl _) => rfl
    | .inr (.inr _) => rfl
  rw [Solvent, total, empty, Finset.sum_const_zero]
  exact Nat.zero_le _

/-- A run whose payouts are all covered keeps every liability backed. -/
theorem covered_run_solvent (ordinary : D.stableToken.Ordinary) {token : Ledger}
    {actions : List (Action Ledger)} {x : Audited Ledger}
    (run : Run (guarded (Step D) (Covered D)) (Audited.fresh token) actions x) :
    liabilities x ≤ contractBalance D x.state.token := by
  have invariant : Consistent D x ∧ Solvent (book D x) := by
    refine run.invariant (fun z => Consistent D z ∧ Solvent (book D z))
      ⟨consistent_fresh D token, solvent_fresh token⟩ ?_
    rintro z act w ⟨consistent, solvent⟩ ⟨covered, step⟩
    refine ⟨consistent_step ordinary consistent step, ?_⟩
    exact solvent_step (step_moves ordinary consistent step)
      (covered_gain consistent covered step) solvent
  rw [liabilities_eq_total D]
  exact invariant.2

/-- Two deposits of 10000 tokens at constant prices; account three claims. -/
def twoDeposits (claims : ℕ) : List Transaction :=
  let env := sampleEnv 0 (60000 * 10 ^ 8) (10 ^ 8)
  [⟨env, 1, .lendStable 0x374708fff7719dd5979ec875d56cd2286f6d3cf7ec317a3b25632aab28ec37bb
      900000000⟩,
    ⟨env, 2, .lendStable 7 900000000⟩] ++ List.replicate claims ⟨env, 3, .claimStable 0⟩

theorem covered_run_solvent_one_claim :
    ∃ x, Run (guarded (Step sampleDeployment) (Covered sampleDeployment))
        (Audited.fresh sampleLedger) ((twoDeposits 1).map Transaction.action) x ∧
      liabilities x ≤ contractBalance sampleDeployment x.state.token := by
  have reached := reachesB_run sampleDeployment (Covered sampleDeployment)
    (fun _ => True) (twoDeposits 1) (.fresh sampleLedger) (by decide +kernel)
  obtain ⟨x, run, _⟩ := reached
  exact ⟨x, run, covered_run_solvent standardToken_ordinary run⟩

/-- The second claim with the same preimage takes the other lender's deposit. -/
theorem repeated_claim_insolvent :
    ∃ x, Run (Step sampleDeployment) (Audited.fresh sampleLedger)
        ((twoDeposits 2).map Transaction.action) x ∧
      contractBalance sampleDeployment x.state.token < liabilities x := by
  have reached := reachesB_run sampleDeployment (fun _ _ => True)
    (fun x => contractBalance sampleDeployment x.state.token < x.audit.unclaimed 7)
    (twoDeposits 2) (.fresh sampleLedger) (by decide +kernel)
  obtain ⟨x, run, drained⟩ := reached
  refine ⟨x, run.of_guarded, ?_⟩
  rw [liabilities_eq_total sampleDeployment]
  exact lt_of_lt_of_le drained (owed_le_total (book sampleDeployment x) (.inr (.inr 7)))

end P2PLending.Contract
