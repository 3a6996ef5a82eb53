import P2PLending.Contract.Solvency

/-! The accounting of stable deposits over whole runs. The record of a hash is
never cleared, so one hash takes one deposit in; each claim pays that deposit
again. A run pays every deposit at most once exactly when no claim repeats. -/

namespace P2PLending.Contract

variable {Ledger : Type} {D : Deployment Ledger}

/-- What the storage and the history of one hash agree on. -/
structure ClaimHistory (r : StableLoan) (taken paid : ℕ) (claimed : Bool) : Prop where
  untouched : r.collateralAmount = 0 → taken = 0 ∧ paid = 0 ∧ claimed = false
  backed : r.collateralAmount ≠ 0 → taken = r.stableLoanAmount
  unclaimed : claimed = false → paid = 0
  claimed_paid : claimed = true → taken ≤ paid

def ClaimHistories (x : Audited Ledger) : Prop :=
  ∀ h, ClaimHistory (x.state.stableLoans h) (x.audit.taken h) (x.audit.paid h)
    (x.audit.claimed h)

/-- The record of `h` and its history are the same in both states. -/
def SameAt (x y : Audited Ledger) (h : Bytes32) : Prop :=
  y.state.stableLoans h = x.state.stableLoans h ∧ y.audit.taken h = x.audit.taken h ∧
    y.audit.paid h = x.audit.paid h ∧ y.audit.claimed h = x.audit.claimed h

/-- A deposit of `n` tokens opens the record of `h`. -/
structure OpensAt (x y : Audited Ledger) (h : Bytes32) (n : ℕ) : Prop where
  was_empty : (x.state.stableLoans h).collateralAmount = 0
  recorded : (y.state.stableLoans h).collateralAmount ≠ 0
  amount : (y.state.stableLoans h).stableLoanAmount = n
  taken : y.audit.taken h = x.audit.taken h + n
  paid : y.audit.paid h = x.audit.paid h
  claimed : y.audit.claimed h = false

/-- A claim pays the recorded amount and keeps the record. -/
structure ClaimsAt (x y : Audited Ledger) (h : Bytes32) : Prop where
  recorded : (x.state.stableLoans h).collateralAmount ≠ 0
  collateral : (y.state.stableLoans h).collateralAmount =
    (x.state.stableLoans h).collateralAmount
  amount : (y.state.stableLoans h).stableLoanAmount = (x.state.stableLoans h).stableLoanAmount
  taken : y.audit.taken h = x.audit.taken h
  paid : y.audit.paid h = x.audit.paid h + (x.state.stableLoans h).stableLoanAmount
  claimed : y.audit.claimed h = true

/-- What an action does to the stable deposits: nothing, one deposit, or one claim. -/
theorem stable_step_cases (ordinary : D.stableToken.Ordinary) {x y : Audited Ledger}
    {act : Action Ledger} (step : Step D x act y) :
    ((∀ env sender p, act ≠ .call env sender (.claimStable p)) ∧ ∀ h, SameAt x y h) ∨
    ((∀ env sender p, act ≠ .call env sender (.claimStable p)) ∧
      ∃ h n, OpensAt x y h n ∧ ∀ g ≠ h, SameAt x y g) ∨
    (∃ env sender p, act = .call env sender (.claimStable p) ∧
      ClaimsAt x y (preimageHash D p) ∧ ∀ g ≠ preimageHash D p, SameAt x y g) := by
  cases step with
  | tokenActivity kept =>
      exact .inl ⟨by simp, fun _ => ⟨rfl, rfl, rfl, rfl⟩⟩
  | @call env sender c s s' a events external done =>
    cases c with
    | requestBorrow amount interestRate btcAddress signedPsbt =>
        obtain ⟨_, _, _, _, _, rfl⟩ := requestBorrow_ok done
        exact .inl ⟨by simp, fun _ => ⟨rfl, rfl, rfl, rfl⟩⟩
    | cancelBorrowRequest =>
        obtain ⟨_, _, _, rfl⟩ := cancelBorrowRequest_ok done
        exact .inl ⟨by simp, fun _ => ⟨rfl, rfl, rfl, rfl⟩⟩
    | lend borrower lendTp blockHeader =>
        obtain ⟨_, _, _, rfl⟩ := lend_ok done
        exact .inl ⟨by simp, fun _ => ⟨rfl, rfl, rfl, rfl⟩⟩
    | repay lender =>
        obtain ⟨_, _, _, _, _, rfl⟩ := repay_ok done
        exact .inl ⟨by simp, fun _ => ⟨rfl, rfl, rfl, rfl⟩⟩
    | liquidate borrower lender =>
        obtain ⟨_, _, _, _, _, _, _, _, rfl⟩ := liquidate_ok done
        exact .inl ⟨by simp, fun _ => ⟨rfl, rfl, rfl, rfl⟩⟩
    | lendStable borrowerHash btcCollateralAmount =>
        obtain ⟨positive, empty, amount, token, _, pulled, rfl⟩ := lendStable_ok done
        have grown := contractBalance_pulled ordinary external pulled
        refine .inr (.inl ⟨by simp, borrowerHash, amount, ?_, fun g hg => ?_⟩)
        · constructor
          · exact empty
          · simp only [Function.update_self]
            omega
          · simp only [Function.update_self]
          · simp only [Audit.record, Function.update_self]
            omega
          · rfl
          · simp only [Audit.record, Function.update_self]
        · simp [SameAt, Audit.record, hg]
    | claimStable p =>
        obtain ⟨recorded, token, paid, rfl⟩ := claimStable_ok done
        have lowered := contractBalance_paid ordinary external paid
        refine .inr (.inr ⟨env, sender, p, rfl, ?_, fun g hg => ?_⟩)
        · constructor
          · exact Nat.ne_of_gt recorded
          · simp only [Function.update_self]
          · simp only [Function.update_self]
          · rfl
          · simp only [Audit.record, Function.update_self]
            omega
          · simp only [Audit.record, Function.update_self]
        · simp [SameAt, Audit.record, hg]
    | setTestMode testMode =>
        obtain rfl := setTestMode_ok done
        exact .inl ⟨by simp, fun _ => ⟨rfl, rfl, rfl, rfl⟩⟩

theorem ClaimHistory.same {x y : Audited Ledger} {h : Bytes32} (same : SameAt x y h)
    (history : ClaimHistory (x.state.stableLoans h) (x.audit.taken h) (x.audit.paid h)
      (x.audit.claimed h)) :
    ClaimHistory (y.state.stableLoans h) (y.audit.taken h) (y.audit.paid h)
      (y.audit.claimed h) := by
  obtain ⟨record, taken, paid, claimed⟩ := same
  rw [record, taken, paid, claimed]
  exact history

theorem claimHistories_step (ordinary : D.stableToken.Ordinary) {x y : Audited Ledger}
    {act : Action Ledger} (histories : ClaimHistories x) (step : Step D x act y) :
    ClaimHistories y := by
  intro g
  rcases stable_step_cases ordinary step with
    ⟨_, same⟩ | ⟨_, h, n, opens, same⟩ | ⟨_, _, p, _, claims, same⟩
  · exact (histories g).same (same g)
  · by_cases hg : g = h
    · subst hg
      have none := (histories g).untouched opens.was_empty
      have amount := opens.amount
      have taken := opens.taken
      have paid := opens.paid
      have fresh := opens.claimed
      refine ⟨fun empty => absurd empty opens.recorded, fun _ => ?_, fun _ => ?_, fun claimed => ?_⟩
      · omega
      · omega
      · rw [fresh] at claimed
        cases claimed
    · exact (histories g).same (same g hg)
  · by_cases hg : g = preimageHash D p
    · subst hg
      have backed := (histories _).backed claims.recorded
      have amount := claims.amount
      have taken := claims.taken
      have paid := claims.paid
      have recorded := claims.recorded
      rw [← claims.collateral] at recorded
      refine ⟨fun empty => absurd empty recorded, fun _ => ?_, fun fresh => ?_, fun _ => ?_⟩
      · omega
      · rw [claims.claimed] at fresh
        cases fresh
      · omega
    · exact (histories g).same (same g hg)

theorem claimHistories_run (ordinary : D.stableToken.Ordinary) {token : Ledger}
    {actions : List (Action Ledger)} {x : Audited Ledger}
    (run : Run (Step D) (Audited.fresh token) actions x) : ClaimHistories x := by
  refine run.invariant ClaimHistories (fun h => ?_)
    (fun _ _ _ => claimHistories_step ordinary)
  exact ⟨fun _ => ⟨rfl, rfl, rfl⟩, fun _ => rfl, fun _ => rfl, fun _ => le_refl _⟩

variable (D)

/-- Every claim of the action is a first claim. -/
def FirstClaims (x : Audited Ledger) : Action Ledger → Prop
  | .call _ _ (.claimStable p) => FirstClaim D x p
  | _ => True

instance (x : Audited Ledger) (act : Action Ledger) : Decidable (FirstClaims D x act) :=
  match act with
  | .call _ _ (.claimStable _) => inferInstanceAs (Decidable (_ ∨ _))
  | .call _ _ (.requestBorrow _ _ _ _) => .isTrue trivial
  | .call _ _ .cancelBorrowRequest => .isTrue trivial
  | .call _ _ (.lend _ _ _) => .isTrue trivial
  | .call _ _ (.repay _) => .isTrue trivial
  | .call _ _ (.liquidate _ _) => .isTrue trivial
  | .call _ _ (.lendStable _ _) => .isTrue trivial
  | .call _ _ (.setTestMode _) => .isTrue trivial
  | .tokenActivity _ => .isTrue trivial

/-- A claim on a hash that was claimed since its last deposit pays nothing. -/
def RepeatPaysNothing (x : Audited Ledger) (act : Action Ledger) (y : Audited Ledger) : Prop :=
  match act with
  | .call _ _ (.claimStable p) =>
      x.audit.claimed (preimageHash D p) = true →
        y.audit.paid (preimageHash D p) = x.audit.paid (preimageHash D p)
  | _ => True

/-- No hash has paid out more than it took in. -/
def PaidWithinTaken (x : Audited Ledger) : Prop := ∀ h, x.audit.paid h ≤ x.audit.taken h

variable {D}

theorem firstClaims_of_no_claim {x : Audited Ledger} {act : Action Ledger}
    (other : ∀ env sender p, act ≠ .call env sender (.claimStable p)) :
    FirstClaims D x act := by
  unfold FirstClaims
  split
  · exact absurd rfl (other _ _ _)
  · trivial

theorem repeatPaysNothing_of_no_claim {x y : Audited Ledger} {act : Action Ledger}
    (other : ∀ env sender p, act ≠ .call env sender (.claimStable p)) :
    RepeatPaysNothing D x act y := by
  unfold RepeatPaysNothing
  split
  · exact absurd rfl (other _ _ _)
  · trivial

/-- The repeated claims that pay nothing are those of empty deposits. -/
theorem repeatPaysNothing_iff (ordinary : D.stableToken.Ordinary) {x y : Audited Ledger}
    {act : Action Ledger} (step : Step D x act y) :
    RepeatPaysNothing D x act y ↔ FirstClaims D x act := by
  rcases stable_step_cases ordinary step with
    ⟨other, _⟩ | ⟨other, _⟩ | ⟨env, sender, p, rfl, claims, _⟩
  · exact iff_of_true (repeatPaysNothing_of_no_claim other) (firstClaims_of_no_claim other)
  · exact iff_of_true (repeatPaysNothing_of_no_claim other) (firstClaims_of_no_claim other)
  · have paid := claims.paid
    simp only [RepeatPaysNothing, FirstClaims, FirstClaim]
    cases x.audit.claimed (preimageHash D p) with
    | false => simp
    | true =>
        simp only [true_implies, Bool.true_eq_false, false_or]
        omega

/-- One step keeps the payouts within the deposits exactly when it repeats no
claim. -/
theorem paidWithinTaken_step_iff (ordinary : D.stableToken.Ordinary) {x y : Audited Ledger}
    {act : Action Ledger} (histories : ClaimHistories x) (step : Step D x act y) :
    PaidWithinTaken y ↔ PaidWithinTaken x ∧ FirstClaims D x act := by
  rcases stable_step_cases ordinary step with
    ⟨other, same⟩ | ⟨other, h, n, opens, same⟩ | ⟨env, sender, p, rfl, claims, same⟩
  · have kept : PaidWithinTaken y ↔ PaidWithinTaken x := by
      refine forall_congr' fun g => ?_
      obtain ⟨_, taken, paid, _⟩ := same g
      rw [taken, paid]
    rw [kept, and_iff_left (firstClaims_of_no_claim other)]
  · rw [and_iff_left (firstClaims_of_no_claim other)]
    refine forall_congr' fun g => ?_
    by_cases hg : g = h
    · subst hg
      obtain ⟨taken, paid, _⟩ := (histories g).untouched opens.was_empty
      have grown := opens.taken
      have kept := opens.paid
      constructor <;> intro _ <;> omega
    · obtain ⟨_, taken, paid, _⟩ := same g hg
      rw [taken, paid]
  · have history := histories (preimageHash D p)
    have backed := history.backed claims.recorded
    have taken := claims.taken
    have paid := claims.paid
    constructor
    · intro within
      have here := within (preimageHash D p)
      refine ⟨fun g => ?_, ?_⟩
      · by_cases hg : g = preimageHash D p
        · subst hg
          omega
        · obtain ⟨_, sameTaken, samePaid, _⟩ := same g hg
          rw [← sameTaken, ← samePaid]
          exact within g
      · show FirstClaim D x p
        unfold FirstClaim
        cases claimed : x.audit.claimed (preimageHash D p) with
        | false => exact .inl rfl
        | true =>
            have once := history.claimed_paid claimed
            right
            omega
    · rintro ⟨within, first⟩ g
      by_cases hg : g = preimageHash D p
      · subst hg
        have before := within (preimageHash D p)
        rcases first with fresh | empty
        · have unpaid := history.unclaimed fresh
          omega
        · omega
      · obtain ⟨_, sameTaken, samePaid, _⟩ := same g hg
        rw [sameTaken, samePaid]
        exact within g

/-- A run pays every deposit at most once, in either reading, exactly when it
repeats no claim on a deposit that is not empty. -/
theorem paid_once_iff_first_claims (ordinary : D.stableToken.Ordinary) {token : Ledger}
    {actions : List (Action Ledger)} {x : Audited Ledger}
    (run : Run (Step D) (Audited.fresh token) actions x) :
    (PaidWithinTaken x ↔
      Run (guarded (Step D) (FirstClaims D)) (Audited.fresh token) actions x) ∧
    (Run (fun s act t => Step D s act t ∧ RepeatPaysNothing D s act t)
        (Audited.fresh token) actions x ↔
      Run (guarded (Step D) (FirstClaims D)) (Audited.fresh token) actions x) := by
  constructor
  · apply run.ends_iff_guarded (I := ClaimHistories) (claimHistories_run ordinary .nil)
    · exact fun _ => le_refl _
    · exact fun _ _ _ => claimHistories_step ordinary
    · exact fun _ _ _ => paidWithinTaken_step_iff ordinary
  · apply Run.steps_iff_guarded (I := fun _ => True) trivial
    · exact fun _ _ _ _ _ => trivial
    · exact fun _ _ _ _ => repeatPaysNothing_iff ordinary

theorem paid_once_one_claim :
    ∃ x, Run (Step sampleDeployment) (Audited.fresh sampleLedger)
        ((twoDeposits 1).map Transaction.action) x ∧
      (PaidWithinTaken x ↔ Run (guarded (Step sampleDeployment) (FirstClaims sampleDeployment))
        (Audited.fresh sampleLedger) ((twoDeposits 1).map Transaction.action) x) := by
  have reached := reachesB_run sampleDeployment (fun _ _ => True)
    (fun _ => True) (twoDeposits 1) (.fresh sampleLedger) (by decide +kernel)
  obtain ⟨x, run, _⟩ := reached
  exact ⟨x, run.of_guarded,
    (paid_once_iff_first_claims standardToken_ordinary run.of_guarded).1⟩

/-- Replaying the public preimage pays a deposit of 10000 tokens twice. -/
theorem repeated_claim_overpays :
    ∃ x, Run (Step sampleDeployment) (Audited.fresh sampleLedger)
        ((twoDeposits 2).map Transaction.action) x ∧
      x.audit.taken (preimageHash sampleDeployment 0) = 10000 ∧
      x.audit.paid (preimageHash sampleDeployment 0) = 20000 := by
  have reached := reachesB_run sampleDeployment (fun _ _ => True)
    (fun x => x.audit.taken (preimageHash sampleDeployment 0) = 10000 ∧
      x.audit.paid (preimageHash sampleDeployment 0) = 20000)
    (twoDeposits 2) (.fresh sampleLedger) (by decide +kernel)
  obtain ⟨x, run, overpaid⟩ := reached
  exact ⟨x, run.of_guarded, overpaid⟩

end P2PLending.Contract
