import P2PLending.Foundation.Avoids
import P2PLending.Manager.OfferConversion

/-! Where the evaluation of a curve panics. A line that falls back, a polynomial with two
points at one outcome, an outcome at the end of its range and a range of too many outcomes
do so, as far as the evaluation reaches them. -/

namespace P2PLending.Manager
open Dlc Checked

/-- Whether a fault is a panic. -/
def IsPanic {ε : Type} (fault : Fault ε) : Prop := ∃ message, fault = .panic message

@[simp] theorem isPanic_panic {ε : Type} {message : String} :
    IsPanic (.panic message : Fault ε) := ⟨message, rfl⟩

@[simp] theorem not_isPanic_err {ε : Type} {e : ε} : ¬ IsPanic (.err e : Fault ε) := by
  simp [IsPanic]

@[simp] theorem avoids_ofDlc {α : Type} {r : Dlc.Result α} : Avoids IsPanic (ofDlc r) ↔ Avoids IsPanic r := by
  match r with
  | .ok _ => simp [ofDlc]
  | .error (.err _) => simp [ofDlc]
  | .error (.panic _) => simp [ofDlc]

@[simp] theorem avoids_index {α : Type} {l : List α} {i : ℕ} :
    Avoids IsPanic (index l i) ↔ i < l.length := by
  unfold index
  split
  next found => simpa using (List.getElem?_eq_some_iff.mp found).1
  next none => simpa using none

@[simp] theorem avoids_unwrapSome {α : Type} {o : Option α} :
    Avoids IsPanic (unwrapSome o) ↔ o ≠ none := by
  cases o <;> simp [unwrapSome]

@[simp] theorem avoids_expectSome {α : Type} {message : String} {o : Option α} :
    Avoids IsPanic (Infos.expectSome message o) ↔ o ≠ none := by
  cases o <;> simp [Infos.expectSome]

namespace Infos

variable {F : Floats}

/-! One evaluation. -/

theorem avoids_evaluateLine {left right : PayoutPoint} {outcome : ℕ} :
    Avoids IsPanic (evaluateLine F left right outcome) ↔
      (left.outcomePayout ≠ right.outcomePayout →
        left.eventOutcome ≤ right.eventOutcome ∧ left.eventOutcome ≤ outcome) := by
  unfold evaluateLine outcomeSub
  split
  next same => simp [same]
  next other =>
    simp only [avoids_bind, avoids_sub, isPanic_panic, forall_const, sub_eq_ok, and_imp,
      forall_eq_apply_imp_iff, avoids_ok, implies_true, and_true, ne_eq, other, not_false_eq_true]
    exact and_congr_right fun below => ⟨fun later => later below, fun above _ => above⟩

theorem avoids_lagrangeFactor {outcome : ℕ} {i j : ℕ × PayoutPoint} {l : F.F64} :
    Avoids IsPanic (lagrangeFactor F outcome i l j) ↔
      (i.1 ≠ j.1 → i.2.eventOutcome ≠ j.2.eventOutcome) := by
  unfold lagrangeFactor
  split
  next same => simp [same]
  next other => simp [avoids_bind, other]

theorem lagrangeFactor_exists {outcome : ℕ} {i j : ℕ × PayoutPoint} (l : F.F64)
    (apart : i.1 ≠ j.1 → i.2.eventOutcome ≠ j.2.eventOutcome) :
    ∃ l', lagrangeFactor F outcome i l j = .ok l' := by
  unfold lagrangeFactor
  split
  next same => exact ⟨_, rfl⟩
  next other => exact ⟨_, bind_eq_ok.mpr ⟨(), ensure_eq_ok.mpr (apart other), rfl⟩⟩

/-- The fold over the other points, from any factor. -/
theorem avoids_lagrangeTerm {outcome : ℕ} {i : ℕ × PayoutPoint} {l : F.F64}
    {indexed : List (ℕ × PayoutPoint)} :
    Avoids IsPanic (indexed.foldlM (lagrangeFactor F outcome i) l) ↔
      ∀ j ∈ indexed, i.1 ≠ j.1 → i.2.eventOutcome ≠ j.2.eventOutcome := by
  rw [avoids_foldlM]
  simp only [avoids_lagrangeFactor]
  exact alongFold_iff_forall fun l j apart => lagrangeFactor_exists l apart

theorem lagrangeTerm_exists {outcome : ℕ} {i : ℕ × PayoutPoint}
    {indexed : List (ℕ × PayoutPoint)} (l : F.F64)
    (apart : ∀ j ∈ indexed, i.1 ≠ j.1 → i.2.eventOutcome ≠ j.2.eventOutcome) :
    ∃ l', indexed.foldlM (lagrangeFactor F outcome i) l = .ok l' := by
  induction indexed generalizing l with
  | nil => exact ⟨l, rfl⟩
  | cons j rest ih =>
      rw [List.forall_mem_cons] at apart
      obtain ⟨l', step⟩ := lagrangeFactor_exists l apart.1
      rw [List.foldlM_cons, step]
      exact ih l' apart.2

theorem outcomes_nodup_iff {points : List PayoutPoint} :
    (∀ i ∈ points.zipIdx.map Prod.swap, ∀ j ∈ points.zipIdx.map Prod.swap,
      i.1 ≠ j.1 → i.2.eventOutcome ≠ j.2.eventOutcome) ↔
    (points.map PayoutPoint.eventOutcome).Nodup := by
  simp only [List.forall_mem_map, Prod.forall, List.mk_mem_zipIdx_iff_getElem?,
    List.nodup_iff_getElem?_ne_getElem?, List.length_map, List.getElem?_map]
  constructor
  · intro apart i j before inside
    have first := List.getElem?_eq_getElem (before.trans inside)
    have second := List.getElem?_eq_getElem inside
    rw [first, second]
    exact fun same => apart _ i first _ j second before.ne (Option.some.inj same)
  · intro nodup p i first q j second distinct same
    rcases Nat.lt_or_gt_of_ne distinct with before | after
    · refine nodup i j before (List.getElem?_eq_some_iff.mp second).1 ?_
      rw [first, second]
      exact congrArg some same
    · refine nodup j i after (List.getElem?_eq_some_iff.mp first).1 ?_
      rw [first, second]
      exact congrArg some same.symm

theorem avoids_evaluateLagrange {points : List PayoutPoint} {outcome : ℕ} :
    Avoids IsPanic (evaluateLagrange F points outcome) ↔
      (points.map PayoutPoint.eventOutcome).Nodup := by
  rw [← outcomes_nodup_iff, evaluateLagrange, avoids_foldlM]
  simp only [avoids_bind, avoids_ok, implies_true, and_true, avoids_lagrangeTerm]
  refine alongFold_iff_forall fun result i apart => ?_
  obtain ⟨l, term⟩ := lagrangeTerm_exists (i.2.getOutcomePayout F) apart
  exact ⟨_, bind_eq_ok.mpr ⟨l, term, rfl⟩⟩

/-- Where the evaluation of a piece does not panic. -/
def PayoutFunctionPiece.EvaluatesAt (outcome : ℕ) : PayoutFunctionPiece F → Prop
  | polynomialPayoutCurvePiece [left, right] => left.outcomePayout ≠ right.outcomePayout →
      left.eventOutcome ≤ right.eventOutcome ∧ left.eventOutcome ≤ outcome
  | polynomialPayoutCurvePiece points => (points.map PayoutPoint.eventOutcome).Nodup
  | hyperbolaPayoutCurvePiece _ => True

theorem avoids_evaluate {piece : PayoutFunctionPiece F} {outcome : ℕ} :
    Avoids IsPanic (piece.evaluate outcome) ↔ piece.EvaluatesAt outcome := by
  match piece with
  | .polynomialPayoutCurvePiece [] => exact avoids_evaluateLagrange
  | .polynomialPayoutCurvePiece [_] => exact avoids_evaluateLagrange
  | .polynomialPayoutCurvePiece [_, _] => exact avoids_evaluateLine
  | .polynomialPayoutCurvePiece (_ :: _ :: _ :: _) => exact avoids_evaluateLagrange
  | .hyperbolaPayoutCurvePiece _ => exact iff_of_true (avoids_ok _) trivial

/-! The ranges. -/

/-- Every outcome has a modulus. -/
def RoundingIntervals.Covers (rounding : RoundingIntervals) : Prop :=
  ∀ outcome, ∃ modulus, rounding.modulus outcome = .ok modulus

theorem RoundingIntervals.covers_of_validate {rounding : RoundingIntervals}
    (valid : rounding.validate = .ok ()) : rounding.Covers := by
  intro outcome
  cases rounding with
  | nil => cases valid
  | cons first rest =>
      simp only [validate, bind_eq_ok, ensure_eq_ok] at valid
      obtain ⟨_, zero, _⟩ := valid
      have begins : first.beginInterval ≤ outcome := zero.trans_le (Nat.zero_le _)
      unfold modulus
      rw [List.takeWhile_cons_of_pos (by simpa using begins),
        List.getLast?_eq_some_getLast (List.cons_ne_nil _ _)]
      exact ⟨_, rfl⟩

namespace PayoutFunctionPiece
variable {piece : PayoutFunctionPiece F} {rounding : RoundingIntervals} {totalCollateral : ℕ}

theorem avoids_getRoundedPayout (covers : rounding.Covers) {outcome : ℕ} :
    Avoids IsPanic (piece.getRoundedPayout rounding totalCollateral outcome) ↔
      piece.EvaluatesAt outcome := by
  unfold getRoundedPayout
  rw [avoids_bind, avoids_evaluate]
  refine and_iff_left fun payout _ => ?_
  obtain ⟨modulus, found⟩ := covers outcome
  simp only [RoundingIntervals.round, found, ok_bind, avoids_bind, avoids_ensure, not_isPanic_err,
    false_implies, implies_true, avoids_ok, and_true]

theorem getRoundedPayout_le {outcome payout : ℕ}
    (computed : piece.getRoundedPayout rounding totalCollateral outcome = .ok payout) :
    payout ≤ totalCollateral := by
  simp only [getRoundedPayout, bind_eq_ok, Except.ok.injEq] at computed
  obtain ⟨_, _, _, _, _, _, rounded, _, rfl⟩ := computed
  exact Nat.min_le_right _ _

theorem newRange_exists {outcome payout : ℕ} (covered : payout ≤ totalCollateral) :
    newRange totalCollateral outcome payout =
      .ok ⟨outcome, 1, ⟨payout, totalCollateral - payout⟩⟩ := by
  simp [newRange, amountSub, sub_of_le _ covered, ofDlc]

theorem avoids_getCurRange (covers : rounding.Covers) {first : ℕ}
    (starts : piece.getFirstOutcome = .ok first) {ranges : List RangePayout} :
    Avoids IsPanic (piece.getCurRange rounding totalCollateral ranges) ↔
      (ranges = [] → piece.EvaluatesAt first) := by
  unfold getCurRange
  split
  next last found =>
    have some : ranges ≠ [] := by
      rintro rfl
      cases found
    simp [some]
  next none =>
    rw [starts, ok_bind, avoids_bind, avoids_getRoundedPayout covers,
      List.getLast?_eq_none_iff.mp none]
    simp only [forall_const]
    refine and_iff_left fun payout computed => ?_
    rw [newRange_exists (getRoundedPayout_le computed), ok_bind]
    exact avoids_ok _

/-- A turn of the loop over the outcomes: no panic in the evaluation, and in a range that goes
on room for one outcome more. -/
def ExtendsAt (piece : PayoutFunctionPiece F) (rounding : RoundingIntervals)
    (totalCollateral : ℕ) (ranges : RangePayout × List RangePayout) (outcome : ℕ) : Prop :=
  piece.EvaluatesAt outcome ∧
    (piece.getRoundedPayout rounding totalCollateral outcome = .ok ranges.1.payout.offer →
      ranges.1.count + 1 < u64Limit)

theorem avoids_extendRanges (covers : rounding.Covers)
    {ranges : RangePayout × List RangePayout} {outcome : ℕ} :
    Avoids IsPanic (piece.extendRanges rounding totalCollateral ranges outcome) ↔
      piece.ExtendsAt rounding totalCollateral ranges outcome := by
  unfold extendRanges ExtendsAt
  rw [avoids_bind, avoids_getRoundedPayout covers]
  refine and_congr_right fun _ => ?_
  constructor
  · intro each computed
    have rest := each _ computed
    rw [avoids_bind] at rest
    have counts := rest.2 () (ensure_eq_ok.mpr (getRoundedPayout_le computed))
    rw [if_pos rfl, avoids_bind, outcomeAdd, avoids_add] at counts
    exact counts.1 isPanic_panic
  · intro room payout computed
    have covered := getRoundedPayout_le computed
    rw [avoids_bind, avoids_ensure]
    refine ⟨fun _ => covered, fun _ _ => ?_⟩
    split
    next same =>
      rw [avoids_bind, outcomeAdd, avoids_add]
      exact ⟨fun _ => room (same ▸ computed), fun _ _ => avoids_ok _⟩
    next other =>
      rw [newRange_exists covered, ok_bind]
      exact avoids_ok _

theorem avoids_turns (covers : rounding.Covers) {outcomes : List ℕ}
    {ranges : RangePayout × List RangePayout} :
    Avoids IsPanic (outcomes.foldlM (piece.extendRanges rounding totalCollateral) ranges) ↔
      AlongFold (piece.extendRanges rounding totalCollateral)
        (piece.ExtendsAt rounding totalCollateral) ranges outcomes := by
  rw [avoids_foldlM]
  exact alongFold_congr (I := fun _ => True) trivial (fun _ _ => trivial)
    fun _ _ => avoids_extendRanges covers

/-- The loop over the outcomes of a piece: it starts where no range is open, the outcome
after the first is one, and every turn does not panic. -/
def ComputesFrom (piece : PayoutFunctionPiece F) (rounding : RoundingIntervals)
    (totalCollateral : ℕ) (ranges : List RangePayout) (first last : ℕ) : Prop :=
  (ranges = [] → piece.EvaluatesAt first) ∧
    ∀ cur, piece.getCurRange rounding totalCollateral ranges = .ok cur →
      first + 1 < u64Limit ∧
        AlongFold (piece.extendRanges rounding totalCollateral)
          (piece.ExtendsAt rounding totalCollateral) cur
          (List.range' (first + 1)
            ((if last + 1 < u64Limit then last + 1 else u64Limit - 1) - (first + 1)))

theorem avoids_computeRangePayouts (covers : rounding.Covers) {first last : ℕ}
    (starts : piece.getFirstOutcome = .ok first) (ends : piece.getLastOutcome = .ok last)
    {ranges : List RangePayout} :
    Avoids IsPanic (piece.computeRangePayouts rounding totalCollateral ranges) ↔
      piece.ComputesFrom rounding totalCollateral ranges first last := by
  unfold computeRangePayouts ComputesFrom
  rw [starts, ok_bind, avoids_bind, avoids_getCurRange covers starts]
  refine and_congr_right fun _ => forall₂_congr fun cur _ => ?_
  rw [ends, ok_bind, outcomeAdd, avoids_bind, avoids_add]
  simp only [isPanic_panic, forall_const, add_eq_ok, and_imp]
  refine and_congr_right fun room => ?_
  constructor
  · intro each
    have loop := (avoids_bind.mp (each _ room rfl)).1
    exact (avoids_turns covers).mp loop
  · rintro each second _ rfl
    rw [avoids_bind]
    exact ⟨(avoids_turns covers).mpr each, fun _ _ => avoids_ok _⟩

/-- The ranges of a piece: between two points of one payout they go up, and the count of the
range that is open takes all of them; other pieces are computed outcome by outcome. -/
def RangesFrom (piece : PayoutFunctionPiece F) (rounding : RoundingIntervals)
    (totalCollateral : ℕ) (ranges : List RangePayout) : Prop :=
  (∀ left right, piece = polynomialPayoutCurvePiece [left, right] →
    left.outcomePayout = right.outcomePayout →
    ∀ cur, piece.getCurRange rounding totalCollateral ranges = .ok cur →
      left.eventOutcome ≤ right.eventOutcome ∧
        cur.1.count + (right.eventOutcome - left.eventOutcome) < u64Limit) ∧
  ((∀ left right, piece = polynomialPayoutCurvePiece [left, right] →
    left.outcomePayout ≠ right.outcomePayout) →
    ∀ first last, piece.getFirstOutcome = .ok first → piece.getLastOutcome = .ok last →
      piece.ComputesFrom rounding totalCollateral ranges first last)

theorem ends_of_writable (writable : piece.Writable) :
    ∃ first last, piece.getFirstPoint = .ok first ∧ piece.getLastPoint = .ok last := by
  cases piece with
  | hyperbolaPayoutCurvePiece h => exact ⟨_, _, rfl, rfl⟩
  | polynomialPayoutCurvePiece points =>
      match points, writable with
      | first :: second :: rest, _ =>
          have last := List.getLast?_eq_some_getLast (List.cons_ne_nil first (second :: rest))
          exact ⟨first, _, rfl, unwrapSome_eq_ok.mpr last⟩

theorem avoids_computed (covers : rounding.Covers) (writable : piece.Writable)
    {ranges : List RangePayout} :
    Avoids IsPanic (piece.computeRangePayouts rounding totalCollateral ranges) ↔
      ∀ first last, piece.getFirstOutcome = .ok first → piece.getLastOutcome = .ok last →
        piece.ComputesFrom rounding totalCollateral ranges first last := by
  obtain ⟨first, last, left, right⟩ := ends_of_writable writable
  have starts : piece.getFirstOutcome = .ok first.eventOutcome := by
    rw [getFirstOutcome, left, ok_bind]
  have ends : piece.getLastOutcome = .ok last.eventOutcome := by
    rw [getLastOutcome, right, ok_bind]
  rw [avoids_computeRangePayouts covers starts ends]
  constructor
  · intro computes first' last' starts' ends'
    rw [starts] at starts'
    rw [ends] at ends'
    cases starts'
    cases ends'
    exact computes
  · exact fun computes => computes _ _ starts ends

/-- Between two points of one payout. -/
theorem avoids_constant (covers : rounding.Covers) {left right : PayoutPoint}
    (same : left.outcomePayout = right.outcomePayout) {ranges : List RangePayout} :
    Avoids IsPanic ((polynomialPayoutCurvePiece [left, right] : PayoutFunctionPiece F).toRangePayouts
      rounding totalCollateral ranges) ↔
      ∀ cur, (polynomialPayoutCurvePiece [left, right] : PayoutFunctionPiece F).getCurRange
        rounding totalCollateral ranges = .ok cur →
        left.eventOutcome ≤ right.eventOutcome ∧
          cur.1.count + (right.eventOutcome - left.eventOutcome) < u64Limit := by
  have starts : (polynomialPayoutCurvePiece [left, right] :
      PayoutFunctionPiece F).getFirstOutcome = .ok left.eventOutcome := rfl
  have opens : Avoids IsPanic ((polynomialPayoutCurvePiece [left, right] :
      PayoutFunctionPiece F).getCurRange rounding totalCollateral ranges) :=
    (avoids_getCurRange covers starts).mpr fun _ other => absurd same other
  simp only [toRangePayouts, if_pos same]
  rw [avoids_bind, and_iff_right opens]
  refine forall₂_congr fun cur _ => ?_
  rw [avoids_bind, outcomeSub, avoids_sub]
  simp only [isPanic_panic, forall_const, sub_eq_ok, and_imp]
  constructor
  · rintro ⟨upward, counts⟩
    have room := counts _ upward rfl
    rw [avoids_bind, outcomeAdd, avoids_add] at room
    exact ⟨upward, room.1 isPanic_panic⟩
  · rintro ⟨upward, room⟩
    refine ⟨upward, ?_⟩
    rintro width _ rfl
    rw [avoids_bind, outcomeAdd, avoids_add]
    exact ⟨fun _ => room, fun _ _ => avoids_ok _⟩

theorem avoids_toRangePayouts (covers : rounding.Covers) (writable : piece.Writable)
    {ranges : List RangePayout} :
    Avoids IsPanic (piece.toRangePayouts rounding totalCollateral ranges) ↔
      piece.RangesFrom rounding totalCollateral ranges := by
  unfold RangesFrom
  by_cases constant : ∃ left right, piece = polynomialPayoutCurvePiece [left, right] ∧
      left.outcomePayout = right.outcomePayout
  · obtain ⟨left, right, rfl, same⟩ := constant
    rw [avoids_constant covers same]
    constructor
    · intro each
      refine ⟨?_, fun differ => absurd same (differ left right rfl)⟩
      rintro _ _ ⟨⟩ _
      exact each
    · exact fun guards => guards.1 left right rfl same
  · have differ : ∀ left right, piece = polynomialPayoutCurvePiece [left, right] →
        left.outcomePayout ≠ right.outcomePayout :=
      fun left right shape same => constant ⟨left, right, shape, same⟩
    have computed : piece.toRangePayouts rounding totalCollateral ranges =
        piece.computeRangePayouts rounding totalCollateral ranges := by
      unfold toRangePayouts
      split
      next left right => exact if_neg (differ left right rfl)
      next => rfl
    rw [computed, avoids_computed covers writable]
    constructor
    · exact fun computes => ⟨fun left right shape same => absurd same (differ left right shape),
        fun _ => computes⟩
    · exact fun guards => guards.2 differ

end PayoutFunctionPiece

/-! Curves. -/

theorem avoids_isContinuous {f : PayoutFunction F} (writable : ∀ piece ∈ f, piece.Writable) :
    Avoids IsPanic (isContinuous f) := by
  induction f with
  | nil => exact avoids_ok _
  | cons cur pieces ih =>
      rw [List.forall_mem_cons] at writable
      cases pieces with
      | nil => exact avoids_ok _
      | cons next pieces =>
          obtain ⟨_, last, _, ends⟩ := PayoutFunctionPiece.ends_of_writable writable.1
          have later := List.forall_mem_cons.mp writable.2
          obtain ⟨first, _, starts, _⟩ := PayoutFunctionPiece.ends_of_writable later.1
          rw [isContinuous, ends, ok_bind, starts, ok_bind]
          split
          next meet => exact ih writable.2
          next apart => exact avoids_ok _

theorem avoids_startsAtZero {piece : PayoutFunctionPiece F} (writable : piece.Writable) :
    Avoids IsPanic (startsAtZero piece) := by
  cases piece with
  | hyperbolaPayoutCurvePiece h => exact avoids_ok _
  | polynomialPayoutCurvePiece points =>
      match points, writable with
      | first :: second :: rest, _ => exact avoids_ok _

theorem avoids_finishesAtMax {piece : PayoutFunctionPiece F} {maxValue : ℕ}
    (writable : piece.Writable) : Avoids IsPanic (finishesAtMax maxValue piece) := by
  cases piece with
  | hyperbolaPayoutCurvePiece h => exact avoids_ok _
  | polynomialPayoutCurvePiece points =>
      match points, writable with
      | first :: second :: rest, _ =>
          rw [finishesAtMax, avoids_bind, avoids_expectSome]
          exact ⟨by simp, fun _ _ => avoids_ok _⟩

/-- The check of a curve takes its first piece and its last as given. -/
theorem PayoutFunction.avoids_validate {f : PayoutFunction F} {maxValue : ℕ}
    (writable : ∀ piece ∈ f, piece.Writable) :
    Avoids IsPanic (PayoutFunction.validate f maxValue) ↔ f ≠ [] := by
  cases f with
  | nil =>
      refine iff_of_false (fun avoids => ?_) (by simp)
      have panics : PayoutFunction.validate ([] : PayoutFunction F) maxValue =
        .error (.panic "to have at least one piece") := rfl
      rw [panics, avoids_error] at avoids
      exact avoids isPanic_panic
  | cons first pieces =>
      refine iff_of_true ?_ (List.cons_ne_nil _ _)
      have some := List.getLast?_eq_some_getLast (List.cons_ne_nil first pieces)
      have last := writable _ (List.getLast_mem (List.cons_ne_nil first pieces))
      rw [PayoutFunction.validate, some]
      simp only [avoids_bind, avoids_isContinuous writable, avoids_ensure, not_isPanic_err,
        false_implies, avoids_expectSome, List.head?_cons, ne_eq, reduceCtorEq, not_false_eq_true,
        expectSome_eq_ok, Option.some.injEq, forall_eq', implies_true, and_true,
        avoids_startsAtZero (writable first List.mem_cons_self), avoids_finishesAtMax last]

theorem PayoutFunction.avoids_toRangePayouts {f : PayoutFunction F} {totalCollateral : ℕ}
    {rounding : RoundingIntervals} (covers : rounding.Covers)
    (writable : ∀ piece ∈ f, piece.Writable) :
    Avoids IsPanic (PayoutFunction.toRangePayouts f totalCollateral rounding) ↔
      AlongFold (fun ranges piece => piece.toRangePayouts rounding totalCollateral ranges)
        (fun ranges piece => piece.RangesFrom rounding totalCollateral ranges) [] f := by
  rw [PayoutFunction.toRangePayouts, avoids_foldlM]
  exact alongFold_congr (I := fun _ => True) trivial (fun _ _ => trivial)
    fun _ listed => PayoutFunctionPiece.avoids_toRangePayouts covers (writable _ listed)

theorem RoundingIntervals.avoids_validate {rounding : RoundingIntervals} :
    Avoids IsPanic rounding.validate := by
  cases rounding with
  | nil => simp [RoundingIntervals.validate]
  | cons first rest => simp [RoundingIntervals.validate, avoids_bind]

/-- The largest outcome of no digits in base zero is none. -/
theorem OracleNumericInfo.avoids_maxValue {numbers : OracleNumericInfo} {digits : ℕ}
    (least : numbers.nbDigits.min? = some digits) :
    Avoids IsPanic numbers.maxValue ↔ numbers.base ^ (digits % 2 ^ 32) ≠ 0 := by
  rw [OracleNumericInfo.maxValue, OracleNumericInfo.getMinNbDigits, least, unwrapSome, ok_bind]
  simp only [avoids_bind, avoids_ensure, not_isPanic_err, false_implies, true_and, ensure_eq_ok,
    outcomeSub, avoids_sub, isPanic_panic, forall_const]
  constructor
  · intro each zero
    have positive := each (by rw [zero]; decide)
    rw [zero] at positive
    exact absurd positive (by decide)
  · exact fun positive _ => Nat.one_le_iff_ne_zero.mpr positive

/-- What the checks of a numerical event take as given. -/
structure NumericalDescriptor.Guarded (n : NumericalDescriptor F) (totalCollateral : ℕ) :
    Prop where
  values : ∀ digits, n.oracleNumericInfos.nbDigits.min? = some digits →
    n.oracleNumericInfos.base ^ (digits % 2 ^ 32) ≠ 0
  pieces : (∃ maxValue, n.oracleNumericInfos.maxValue = .ok maxValue) →
    n.roundingIntervals.validate = .ok () → n.payoutFunction ≠ []
  ranges : ∀ maxValue, n.oracleNumericInfos.maxValue = .ok maxValue →
    n.validate maxValue = .ok () →
    AlongFold (fun ranges piece => piece.toRangePayouts n.roundingIntervals totalCollateral ranges)
      (fun ranges piece => piece.RangesFrom n.roundingIntervals totalCollateral ranges) []
      n.payoutFunction

theorem NumericalDescriptor.avoids_checks {T : Tries F} {n : NumericalDescriptor F}
    {totalCollateral : ℕ} (digits : n.oracleNumericInfos.nbDigits ≠ [])
    (writable : ∀ piece ∈ n.payoutFunction, piece.Writable) :
    (Avoids IsPanic ((curves T).validate n) ∧ ((curves T).validate n = .ok () →
      Avoids IsPanic ((curves T).getRangePayouts n totalCollateral))) ↔
      n.Guarded totalCollateral := by
  obtain ⟨least, minimal⟩ : ∃ least, n.oracleNumericInfos.nbDigits.min? = some least :=
    Option.isSome_iff_exists.mp (by simpa using digits)
  have checks : (curves T).validate n = (n.oracleNumericInfos.maxValue >>= n.validate) := rfl
  have validated : ∀ maxValue, Avoids IsPanic (n.validate maxValue) ↔
      (n.roundingIntervals.validate = .ok () → n.payoutFunction ≠ []) := by
    intro maxValue
    rw [NumericalDescriptor.validate, avoids_bind,
      and_iff_right RoundingIntervals.avoids_validate]
    simp only [PayoutFunction.avoids_validate writable]
    exact ⟨fun each valid => each () valid, fun each _ valid => each valid⟩
  have ranged : ∀ maxValue, n.validate maxValue = .ok () →
      (Avoids IsPanic ((curves T).getRangePayouts n totalCollateral) ↔
        AlongFold
          (fun ranges piece => piece.toRangePayouts n.roundingIntervals totalCollateral ranges)
          (fun ranges piece => piece.RangesFrom n.roundingIntervals totalCollateral ranges) []
          n.payoutFunction) := by
    intro maxValue valid
    obtain ⟨⟨⟩, rounds, _⟩ := bind_eq_ok.mp valid
    exact PayoutFunction.avoids_toRangePayouts (RoundingIntervals.covers_of_validate rounds)
      writable
  rw [checks, avoids_bind, OracleNumericInfo.avoids_maxValue minimal]
  simp only [validated, bind_eq_ok]
  constructor
  · rintro ⟨⟨values, pieces⟩, ranges⟩
    refine ⟨fun other found => ?_, fun ⟨maxValue, largest⟩ => pieces maxValue largest,
      fun maxValue largest valid => ?_⟩
    · obtain rfl := Option.some.inj (minimal.symm.trans found)
      exact values
    · exact (ranged maxValue valid).mp (ranges ⟨maxValue, largest, valid⟩)
  · rintro ⟨values, pieces, ranges⟩
    refine ⟨⟨values least minimal, fun maxValue largest => pieces ⟨maxValue, largest⟩⟩, ?_⟩
    rintro ⟨maxValue, largest, valid⟩
    exact (ranged maxValue valid).mpr (ranges maxValue largest valid)

end Infos

end P2PLending.Manager
