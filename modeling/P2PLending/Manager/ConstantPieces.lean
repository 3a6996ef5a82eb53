import Mathlib.Data.Rat.Floor
import Mathlib.Tactic.Linarith
import Mathlib.Tactic.NormNum
import P2PLending.Manager.CurveCoverage

/-! Pieces of one payout. The piece between two points of one payout adds all its outcomes to
the last range; the loop over the outcomes rounds each by the interval that is in force at it,
and begins a range where another multiple is nearest. -/

namespace P2PLending.Manager.Infos
open Dlc Checked

variable {F : Floats}

/-- The payouts of the ranges that count the outcome. -/
def payoutsAt (ranges : List RangePayout) (outcome : ℕ) : List Payout :=
  (ranges.filter fun r => r.start ≤ outcome && outcome < r.start + r.count).map RangePayout.payout

theorem payoutsAt_append (before after : List RangePayout) (outcome : ℕ) :
    payoutsAt (before ++ after) outcome = payoutsAt before outcome ++ payoutsAt after outcome := by
  simp [payoutsAt]

theorem payoutsAt_cons (r : RangePayout) (ranges : List RangePayout) (outcome : ℕ) :
    payoutsAt (r :: ranges) outcome =
      (if r.start ≤ outcome ∧ outcome < r.start + r.count then [r.payout] else []) ++
        payoutsAt ranges outcome := by
  rw [payoutsAt, List.filter_cons]
  by_cases counts : r.start ≤ outcome ∧ outcome < r.start + r.count
  · simp [payoutsAt, counts]
  · rw [if_neg counts, if_neg (by simpa using counts)]
    rfl

/-- A range of another payout at an outcome of the last range. -/
theorem payoutsAt_ne {before after : List RangePayout} {cur r : RangePayout}
    {shorter longer outcome : ℕ} (counts : r.start ≤ outcome ∧ outcome < r.start + r.count)
    (other : r.payout ≠ cur.payout) :
    payoutsAt (before ++ { cur with count := longer } :: []) outcome ≠
      payoutsAt (before ++ { cur with count := shorter } :: r :: after) outcome := by
  intro same
  rw [payoutsAt_append, payoutsAt_append, List.append_cancel_left_eq, payoutsAt_cons,
    payoutsAt_cons, payoutsAt_cons, if_pos counts] at same
  split_ifs at same <;> simp_all [payoutsAt]

/-- The payout of the last range so far, if there is one. -/
def lastOffer (ranges : List RangePayout) : Option ℕ :=
  ranges.getLast?.map fun r => r.payout.offer

namespace PayoutFunctionPiece
variable {piece : PayoutFunctionPiece F} {rounding : RoundingIntervals} {totalCollateral : ℕ}

/-! Turns that find the payout of the last range, and turns that find another. -/

theorem extendRanges_same {ranges : RangePayout × List RangePayout} {outcome : ℕ}
    (same : piece.getRoundedPayout rounding totalCollateral outcome = .ok ranges.1.payout.offer)
    (room : ranges.1.count + 1 < u64Limit) :
    piece.extendRanges rounding totalCollateral ranges outcome =
      .ok ({ ranges.1 with count := ranges.1.count + 1 }, ranges.2) := by
  rw [extendRanges, same, ok_bind]
  simp [getRoundedPayout_le same, outcomeAdd, ensure, Checked.add, fit, room]

theorem turns_alike {outcome turns : ℕ} {ranges : RangePayout × List RangePayout}
    (alike : ∀ later, outcome < later → later ≤ outcome + turns →
      piece.getRoundedPayout rounding totalCollateral later = .ok ranges.1.payout.offer)
    (room : ranges.1.count + turns < u64Limit) :
    (List.range' (outcome + 1) turns).foldlM (piece.extendRanges rounding totalCollateral) ranges =
      .ok ({ ranges.1 with count := ranges.1.count + turns }, ranges.2) := by
  induction turns generalizing outcome ranges with
  | zero => rfl
  | succ turns ih =>
      rw [List.range'_succ, List.foldlM_cons,
        extendRanges_same (alike _ (Nat.lt_succ_self outcome) (by omega)) (by omega), ok_bind, ih]
      · simp only [Nat.add_right_comm, Nat.add_assoc]
      · exact fun later after before => alike later (by omega) (by omega)
      · simp only
        omega

/-- Later turns leave the ranges before the current one as they are. -/
theorem turns_prefix {outcomes : List ℕ} {ranges next : RangePayout × List RangePayout}
    (ran : outcomes.foldlM (piece.extendRanges rounding totalCollateral) ranges = .ok next) :
    ∃ more after, next.2 ++ [next.1] =
      ranges.2 ++ { ranges.1 with count := ranges.1.count + more } :: after := by
  induction outcomes generalizing ranges with
  | nil =>
      obtain rfl := Except.ok.inj ran
      exact ⟨0, [], rfl⟩
  | cons outcome outcomes ih =>
      rw [List.foldlM_cons] at ran
      obtain ⟨middle, step, rest⟩ := bind_eq_ok.mp ran
      obtain ⟨more, after, goesOn⟩ := ih rest
      rcases extendRanges_cases step with rfl | ⟨payout, rfl⟩
      · exact ⟨1 + more, after, by rw [goesOn, Nat.add_assoc]⟩
      · exact ⟨0, { start := outcome, count := 1 + more, payout := payout } :: after, by
          simpa using goesOn⟩

theorem turns_differ {outcome turns : ℕ} {ranges next : RangePayout × List RangePayout}
    (ran : (List.range' (outcome + 1) turns).foldlM (piece.extendRanges rounding totalCollateral)
      ranges = .ok next)
    (differ : ∃ later, outcome < later ∧ later ≤ outcome + turns ∧
      piece.getRoundedPayout rounding totalCollateral later ≠ .ok ranges.1.payout.offer) :
    ∃ later more r after, outcome < later ∧ later ≤ outcome + turns ∧
      (r.start ≤ later ∧ later < r.start + r.count) ∧ r.payout ≠ ranges.1.payout ∧
      next.2 ++ [next.1] =
        ranges.2 ++ { ranges.1 with count := ranges.1.count + more } :: r :: after := by
  induction turns generalizing outcome ranges with
  | zero =>
      obtain ⟨later, after, before, _⟩ := differ
      omega
  | succ turns ih =>
      rw [List.range'_succ, List.foldlM_cons] at ran
      obtain ⟨middle, step, rest⟩ := bind_eq_ok.mp ran
      have computes := step
      simp only [extendRanges, bind_eq_ok] at computes
      obtain ⟨payout, computed, _, _, extended⟩ := computes
      split at extended
      next same =>
        simp only [outcomeAdd, bind_eq_ok, add_eq_ok, Except.ok.injEq] at extended
        obtain ⟨_, ⟨_, rfl⟩, rfl⟩ := extended
        obtain ⟨later, after, before, other⟩ := differ
        have further : later ≠ outcome + 1 := by
          rintro rfl
          exact other (by rw [computed, same])
        obtain ⟨later', more, r, rest', after', before', counts, apart, shape⟩ :=
          ih rest ⟨later, by omega, by omega, other⟩
        exact ⟨later', 1 + more, r, rest', by omega, by omega, counts, apart, by
          rw [shape, Nat.add_assoc]⟩
      next other =>
        rw [newRange_exists (getRoundedPayout_le computed)] at extended
        obtain rfl := Except.ok.inj extended
        obtain ⟨more, after, shape⟩ := turns_prefix rest
        refine ⟨outcome + 1, 0, _, after, by omega, by omega, ?_, ?_, by
          rw [shape, List.append_assoc, Nat.add_zero]
          rfl⟩
        · simp only
          omega
        · exact fun same => other (congrArg Payout.offer same).symm

/-- The loop over the outcomes gives the same payouts for all the outcomes of the piece. -/
def AgreesWithLoop (piece : PayoutFunctionPiece F) (rounding : RoundingIntervals)
    (totalCollateral : ℕ) (ranges shortcut : List RangePayout) : Prop :=
  ∃ generic, piece.computeRangePayouts rounding totalCollateral ranges = .ok generic ∧
    ∀ first last, piece.Runs first last → ∀ outcome, first ≤ outcome → outcome ≤ last →
      payoutsAt shortcut outcome = payoutsAt generic outcome

/-- Where the ranges before a piece end, if the piece runs up to the largest outcome. -/
def Meets (first last : ℕ) (ranges : List RangePayout) : Prop :=
  last + 1 = u64Limit → ∀ r, ranges.getLast? = some r → r.start + r.count = first + 1

theorem getCurRange_meets {first last : ℕ} (starts : piece.getFirstOutcome = .ok first)
    {ranges before : List RangePayout} {cur : RangePayout} (meets : Meets first last ranges)
    (taken : piece.getCurRange rounding totalCollateral ranges = .ok (cur, before))
    (largest : last + 1 = u64Limit) : cur.start + cur.count = first + 1 := by
  rcases getCurRange_opens starts taken with ⟨some, opened⟩ | ⟨none, payout, opened⟩
  · exact meets largest cur (by rw [← opened, List.getLast?_concat])
  · obtain ⟨rfl, ⟨⟩⟩ := List.append_eq_singleton_iff.mp opened |>.resolve_right (by simp)
    rfl

/-- A piece that adds its outcomes to the last range agrees with the loop exactly when each of
them is rounded to the payout of that range. -/
theorem agreesWithLoop_iff {first last : ℕ} (runs : piece.Runs first last) (upward : first ≤ last)
    (fits : last < u64Limit) {ranges before : List RangePayout} {cur : RangePayout}
    (meets : Meets first last ranges)
    (taken : piece.getCurRange rounding totalCollateral ranges = .ok (cur, before))
    (room : cur.count + (last - first) < u64Limit) :
    piece.AgreesWithLoop rounding totalCollateral ranges
        (before ++ [{ cur with count := cur.count + (last - first) }]) ↔
      last + 1 < u64Limit ∧ ∀ outcome, first < outcome → outcome ≤ last →
        piece.getRoundedPayout rounding totalCollateral outcome = .ok cur.payout.offer := by
  constructor
  · rintro ⟨generic, computed, agrees⟩
    have same := agrees first last runs
    simp only [computeRangePayouts, runs.1, runs.2, taken, ok_bind, bind_eq_ok, outcomeAdd,
      add_eq_ok, Prod.exists, Except.ok.injEq] at computed
    obtain ⟨_, ⟨second, rfl⟩, cur', before', ran, rfl⟩ := computed
    have alike : ∀ outcome, first < outcome →
        outcome ≤ first + ((if last + 1 < u64Limit then last + 1 else u64Limit - 1) - (first + 1)) →
        piece.getRoundedPayout rounding totalCollateral outcome = .ok cur.payout.offer := by
      by_contra differ
      push Not at differ
      obtain ⟨later, more, r, after, begins, ends, counts, other, shape⟩ := turns_differ ran differ
      dsimp only at shape
      refine absurd (same later begins.le (by split_ifs at ends <;> omega)) ?_
      rw [shape]
      exact payoutsAt_ne counts other
    by_cases low : last + 1 < u64Limit
    · rw [if_pos low] at alike
      exact ⟨low, fun outcome after within => alike outcome after (by omega)⟩
    · -- the loop stops before the largest outcome
      exfalso
      have largest : last + 1 = u64Limit := by omega
      have begins := getCurRange_meets runs.1 meets taken largest
      rw [if_neg low] at ran alike
      rw [turns_alike alike (by dsimp only; omega)] at ran
      obtain ⟨rfl, rfl⟩ := Prod.mk.inj (Except.ok.inj ran)
      have left := same last upward le_rfl
      simp only [payoutsAt_append, payoutsAt_cons, List.append_cancel_left_eq] at left
      rw [if_pos (by omega), if_neg (by omega)] at left
      exact absurd left (by simp)
  · rintro ⟨low, alike⟩
    refine ⟨_, ?_, fun _ _ _ _ _ _ => rfl⟩
    have ran := @turns_alike _ piece rounding totalCollateral first (last - first) (cur, before)
      (fun later after within => alike later after (by omega)) room
    rw [computeRangePayouts, runs.1, ok_bind, taken, ok_bind, runs.2, ok_bind, if_pos low]
    simp only [outcomeAdd, Checked.add, fit]
    rw [if_pos (by omega), ok_bind, Nat.add_sub_add_right, ran]
    rfl

end PayoutFunctionPiece

/-! Exact numbers in the place of doubles. -/

/-- Towards zero. -/
def truncated (x : ℚ) : ℤ := if 0 ≤ x then ⌊x⌋ else ⌈x⌉

/-- To the nearest, halves away from zero. -/
def roundedAway (x : ℚ) : ℤ := if 0 ≤ x then ⌊x + 1 / 2⌋ else ⌈x - 1 / 2⌉

/-- Exact numbers, with `none` for what is not a number; only the square root is left open. -/
def exactFloats (sqrt : ℚ → Option ℚ) : Floats where
  F64 := Option ℚ
  ofU64 n := some n
  toU64 x := x.elim 0 fun x => min (truncated x).toNat (u64Limit - 1)
  add x y := x.bind fun x => y.map fun y => x + y
  sub x y := x.bind fun x => y.map fun y => x - y
  mul x y := x.bind fun x => y.map fun y => x * y
  div x y := x.bind fun x => y.bind fun y => if y = 0 then none else some (x / y)
  rem x y := x.bind fun x => y.bind fun y =>
    if y = 0 then none else some (x - y * truncated (x / y))
  neg x := x.map fun x => -x
  sqrt x := x.bind sqrt
  powi x n := x.map fun x => x ^ n
  round x := x.map fun x => (roundedAway x : ℚ)
  isSignNegative x := x.elim false fun x => x < 0
  isNormal x := x.elim false fun x => x ≠ 0
  eq x y := (x.bind fun x => y.map fun y => decide (x = y)).getD false
  lt x y := (x.bind fun x => y.map fun y => decide (x < y)).getD false
  ge x y := (x.bind fun x => y.map fun y => decide (y ≤ x)).getD false
  display _ := ""

theorem truncated_natCast (n : ℕ) : truncated n = n := by
  rw [truncated, if_pos (Nat.cast_nonneg n), Int.floor_natCast]

theorem truncated_natCast_div (n d : ℕ) : truncated (n / d) = (n / d : ℕ) := by
  rw [truncated, if_pos (div_nonneg (Nat.cast_nonneg n) (Nat.cast_nonneg d)),
    Rat.floor_natCast_div_natCast, Int.natCast_div]

theorem roundedAway_natCast (n : ℕ) : roundedAway n = n := by
  rw [roundedAway, if_pos (Nat.cast_nonneg n), Int.floor_natCast_add]
  norm_num

/-- The multiple nearest to a number, the larger one if there are two; a number is not divided
by zero. -/
def nearestMultiple (n m : ℕ) : ℕ :=
  if m = 0 then 0 else if m ≤ 2 * (n % m) then n + m - n % m else n - n % m

variable {sqrt : ℚ → Option ℚ}

/-! Numbers of payouts are kept by all the operations of rounding. -/

@[simp] theorem exact_toU64 (n : ℕ) :
    (exactFloats sqrt).toU64 ((exactFloats sqrt).ofU64 n) = min n (u64Limit - 1) := by
  simp [exactFloats, truncated_natCast]

@[simp] theorem exact_round (n : ℕ) :
    (exactFloats sqrt).round ((exactFloats sqrt).ofU64 n) = (exactFloats sqrt).ofU64 n := by
  simp [exactFloats, roundedAway_natCast]

theorem exact_add (n m : ℕ) : (exactFloats sqrt).add ((exactFloats sqrt).ofU64 n)
    ((exactFloats sqrt).ofU64 m) = (exactFloats sqrt).ofU64 (n + m) := by
  simp [exactFloats]

theorem exact_sub {n m : ℕ} (le : m ≤ n) : (exactFloats sqrt).sub ((exactFloats sqrt).ofU64 n)
    ((exactFloats sqrt).ofU64 m) = (exactFloats sqrt).ofU64 (n - m) := by
  simp [exactFloats, Nat.cast_sub le]

theorem exact_rem (n : ℕ) {m : ℕ} (divides : m ≠ 0) :
    (exactFloats sqrt).rem ((exactFloats sqrt).ofU64 n) ((exactFloats sqrt).ofU64 m) =
      (exactFloats sqrt).ofU64 (n % m) := by
  have split : (n : ℚ) = m * (n / m : ℕ) + (n % m : ℕ) := by
    exact_mod_cast (Nat.div_add_mod n m).symm
  simp only [exactFloats, Option.bind_some, Nat.cast_eq_zero, divides, if_false,
    truncated_natCast_div, Int.cast_natCast]
  rw [split, add_sub_cancel_left]

theorem exact_ge_half (n m : ℕ) :
    (exactFloats sqrt).ge ((exactFloats sqrt).ofU64 n) ((exactFloats sqrt).div
      ((exactFloats sqrt).ofU64 m) ((exactFloats sqrt).ofU64 2)) = decide (m ≤ 2 * n) := by
  have exact_half : (m : ℚ) / 2 ≤ n ↔ m ≤ 2 * n := by
    rw [div_le_iff₀ (by norm_num), mul_comm]
    exact_mod_cast Iff.rfl
  simpa [exactFloats] using exact_half

theorem round_exact (intervals : RoundingIntervals) (outcome n : ℕ) :
    intervals.round (exactFloats sqrt) outcome ((exactFloats sqrt).ofU64 n) = (do
      let m ← intervals.modulus outcome
      .ok (min (nearestMultiple n m) (u64Limit - 1))) := by
  unfold RoundingIntervals.round
  congr 1
  funext m
  have zero_le : (exactFloats sqrt).ge ((exactFloats sqrt).ofU64 n)
      ((exactFloats sqrt).ofU64 0) = true := by
    simp [exactFloats]
  simp only [if_pos zero_le]
  by_cases divides : m = 0
  · subst divides
    simp [exactFloats, nearestMultiple]
  · have le := Nat.mod_le n m
    rw [exact_rem n divides, exact_ge_half, exact_add, exact_sub (by omega), exact_sub le,
      exact_round, exact_round, exact_toU64, exact_toU64, nearestMultiple, if_neg divides]
    by_cases up : m ≤ 2 * (n % m)
    · simp [up]
    · simp [up]

/-- The rounded payout of an exact one. -/
def roundedTo (totalCollateral payout m : ℕ) : ℕ := min (nearestMultiple payout m) totalCollateral

theorem constant_rounded_iff {left right : PayoutPoint} {rounding : RoundingIntervals}
    {totalCollateral : ℕ} (constant : left.outcomePayout = right.outcomePayout)
    (amount : totalCollateral < u64Limit) (outcome payout : ℕ) :
    (PayoutFunctionPiece.polynomialPayoutCurvePiece (F := exactFloats sqrt)
        [left, right]).getRoundedPayout rounding totalCollateral outcome = .ok payout ↔
      right.outcomePayout ≤ totalCollateral ∧ ∃ m, rounding.modulus outcome = .ok m ∧
        roundedTo totalCollateral right.outcomePayout m = payout := by
  have evaluated : (PayoutFunctionPiece.polynomialPayoutCurvePiece (F := exactFloats sqrt)
      [left, right]).evaluate outcome = .ok ((exactFloats sqrt).ofU64 right.outcomePayout) :=
    if_pos constant
  have number : (exactFloats sqrt).isSignNegative ((exactFloats sqrt).ofU64 right.outcomePayout) =
      false ∧ ((exactFloats sqrt).eq ((exactFloats sqrt).ofU64 right.outcomePayout)
        ((exactFloats sqrt).ofU64 0) = true ∨
        (exactFloats sqrt).isNormal ((exactFloats sqrt).ofU64 right.outcomePayout) = true) := by
    simp [exactFloats, em]
  have covered : (exactFloats sqrt).lt ((exactFloats sqrt).ofU64 totalCollateral)
      ((exactFloats sqrt).ofU64 right.outcomePayout) = false ↔
        right.outcomePayout ≤ totalCollateral := by
    simp [exactFloats]
  have capped : ∀ m, min (min (nearestMultiple right.outcomePayout m) (u64Limit - 1))
      totalCollateral = roundedTo totalCollateral right.outcomePayout m := by
    intro m
    rw [min_assoc, min_eq_right (by omega : totalCollateral ≤ u64Limit - 1), roundedTo]
  simp only [PayoutFunctionPiece.getRoundedPayout, evaluated, ok_bind, bind_eq_ok, ensure_eq_ok,
    exact_round, covered, round_exact, Except.ok.injEq, number, exists_and_left, exists_const,
    and_true, true_and]
  constructor
  · rintro ⟨covers, _, ⟨m, found, rfl⟩, rfl⟩
    exact ⟨covers, m, found, (capped m).symm⟩
  · rintro ⟨covers, m, found, rfl⟩
    exact ⟨covers, _, ⟨m, found, rfl⟩, capped m⟩

section Constant
variable (rounding : RoundingIntervals) (totalCollateral payout first last : ℕ)

/-- The payout that a piece goes on with: that of the last range, or its own at its first
outcome. -/
def GoesOnWith (ranges : List RangePayout) (rounded : ℕ) : Prop :=
  match lastOffer ranges with
  | some offer => rounded = offer
  | none => ∃ m, rounding.modulus first = .ok m ∧ rounded = roundedTo totalCollateral payout m

/-- The intervals in force after the first outcome round the payout, which the total covers, to
the one that the piece goes on with. -/
def RoundsAlike (ranges : List RangePayout) : Prop :=
  ∀ outcome, first < outcome → outcome ≤ last → payout ≤ totalCollateral ∧
    ∃ m, rounding.modulus outcome = .ok m ∧
      GoesOnWith rounding totalCollateral payout first ranges (roundedTo totalCollateral payout m)

end Constant

theorem goesOnWith_iff {left right : PayoutPoint} {rounding : RoundingIntervals}
    {totalCollateral : ℕ} (constant : left.outcomePayout = right.outcomePayout)
    (amount : totalCollateral < u64Limit) {ranges : List RangePayout}
    {cur : RangePayout × List RangePayout}
    (taken : (PayoutFunctionPiece.polynomialPayoutCurvePiece (F := exactFloats sqrt)
      [left, right]).getCurRange rounding totalCollateral ranges = .ok cur) (rounded : ℕ) :
    GoesOnWith rounding totalCollateral right.outcomePayout left.eventOutcome ranges rounded ↔
      rounded = cur.1.payout.offer := by
  unfold PayoutFunctionPiece.getCurRange at taken
  unfold GoesOnWith lastOffer
  cases found : ranges.getLast? with
  | some r =>
      rw [found] at taken
      obtain rfl := Except.ok.inj taken
      rfl
  | none =>
      rw [found] at taken
      simp only [bind_eq_ok, Except.ok.injEq] at taken
      obtain ⟨_, starts, payout, computed, r, made, rfl⟩ := taken
      obtain rfl := Except.ok.inj starts
      rw [PayoutFunctionPiece.newRange_exists (PayoutFunctionPiece.getRoundedPayout_le computed)]
        at made
      obtain rfl := Except.ok.inj made
      obtain ⟨_, m, begins, rfl⟩ := (constant_rounded_iff constant amount _ _).mp computed
      simp [begins]

/-- The shortcut of a piece between two points of one payout gives the payouts of the loop exactly
when the piece ends before the largest outcome and no interval inside it rounds to another
payout. -/
theorem constant_shortcut_agrees_iff {left right : PayoutPoint} {rounding : RoundingIntervals}
    {totalCollateral : ℕ} {ranges shortcut : List RangePayout}
    (constant : left.outcomePayout = right.outcomePayout)
    (fits : right.eventOutcome < u64Limit) (amount : totalCollateral < u64Limit)
    (meets : PayoutFunctionPiece.Meets left.eventOutcome right.eventOutcome ranges)
    (made : (PayoutFunctionPiece.polynomialPayoutCurvePiece (F := exactFloats sqrt)
      [left, right]).toRangePayouts rounding totalCollateral ranges = .ok shortcut) :
    (PayoutFunctionPiece.polynomialPayoutCurvePiece (F := exactFloats sqrt)
        [left, right]).AgreesWithLoop rounding totalCollateral ranges shortcut ↔
      right.eventOutcome + 1 < u64Limit ∧ RoundsAlike rounding totalCollateral
        right.outcomePayout left.eventOutcome right.eventOutcome ranges := by
  simp only [PayoutFunctionPiece.toRangePayouts, if_pos constant, bind_eq_ok, Prod.exists,
    outcomeSub, sub_eq_ok, outcomeAdd, add_eq_ok, Except.ok.injEq] at made
  obtain ⟨cur, before, taken, _, ⟨upward, rfl⟩, _, ⟨room, rfl⟩, rfl⟩ := made
  rw [PayoutFunctionPiece.agreesWithLoop_iff ⟨rfl, rfl⟩ upward fits meets taken room]
  refine and_congr_right fun _ => forall_congr' fun outcome => ?_
  simp only [constant_rounded_iff constant amount, goesOnWith_iff constant amount taken]

theorem constant_shortcut_agrees_sample :
    (PayoutFunctionPiece.polynomialPayoutCurvePiece (F := exactFloats some)
        [⟨1, 50, 0⟩, ⟨3, 50, 0⟩]).AgreesWithLoop [⟨0, 1⟩, ⟨2, 10⟩] 100
        [⟨0, 2, ⟨50, 50⟩⟩] [⟨0, 4, ⟨50, 50⟩⟩] ↔
      3 + 1 < u64Limit ∧ RoundsAlike [⟨0, 1⟩, ⟨2, 10⟩] 100 50 1 3 [⟨0, 2, ⟨50, 50⟩⟩] :=
  @constant_shortcut_agrees_iff some ⟨1, 50, 0⟩ ⟨3, 50, 0⟩ [⟨0, 1⟩, ⟨2, 10⟩] 100
    [⟨0, 2, ⟨50, 50⟩⟩] [⟨0, 4, ⟨50, 50⟩⟩] rfl (by decide) (by decide)
    (fun largest => absurd largest (by decide)) (by decide +kernel)

/-- An interval of another modulus that begins inside the piece. -/
theorem interval_inside_ignored :
    RoundingIntervals.validate [⟨0, 1⟩, ⟨2, 10⟩] = .ok () ∧
    (PayoutFunctionPiece.polynomialPayoutCurvePiece (F := exactFloats some)
      [⟨0, 5, 0⟩, ⟨3, 5, 0⟩]).toRangePayouts [⟨0, 1⟩, ⟨2, 10⟩] 100 [] =
        .ok [⟨0, 4, ⟨5, 95⟩⟩] ∧
    (PayoutFunctionPiece.polynomialPayoutCurvePiece (F := exactFloats some)
      [⟨0, 5, 0⟩, ⟨3, 5, 0⟩]).computeRangePayouts [⟨0, 1⟩, ⟨2, 10⟩] 100 [] =
        .ok [⟨0, 2, ⟨5, 95⟩⟩, ⟨2, 2, ⟨10, 90⟩⟩] ∧
    payoutsAt [⟨0, 4, ⟨5, 95⟩⟩] 2 ≠ payoutsAt [⟨0, 2, ⟨5, 95⟩⟩, ⟨2, 2, ⟨10, 90⟩⟩] 2 := by
  refine ⟨by decide, by decide +kernel, by decide +kernel, by decide⟩

end P2PLending.Manager.Infos
