import P2PLending.Manager.CurveGuards
import P2PLending.Manager.OfferRoundTrip

/-! The ranges of an accepted curve. Pieces that meet end to end give ranges that meet too,
and every outcome between the ends of a piece is counted once; a curve that begins after
outcome zero or falls back on the way leaves outcomes out or counts them again. -/

namespace P2PLending.Manager.Infos
open Dlc Checked

variable {F : Floats}

/-- Ranges of some outcomes each, one after another up to an outcome that is left out. -/
def Tiles : (start stop : ℕ) → List RangePayout → Prop
  | start, stop, [] => start = stop
  | start, stop, r :: ranges => r.start = start ∧ 0 < r.count ∧ Tiles (start + r.count) stop ranges

instance decidableTiles : (start stop : ℕ) → (ranges : List RangePayout) →
    Decidable (Tiles start stop ranges)
  | start, stop, [] => inferInstanceAs (Decidable (start = stop))
  | start, stop, r :: ranges =>
      have := decidableTiles (start + r.count) stop ranges
      inferInstanceAs (Decidable (r.start = start ∧ 0 < r.count ∧ Tiles (start + r.count) stop ranges))

/-- The number of outcomes of all the ranges. -/
def counted (ranges : List RangePayout) : ℕ := (ranges.map RangePayout.count).sum

theorem counted_concat (ranges : List RangePayout) (r : RangePayout) :
    counted (ranges ++ [r]) = counted ranges + r.count := by
  simp [counted]

theorem Tiles.append {start middle stop : ℕ} {before after : List RangePayout}
    (tiles : Tiles start middle before) (goOn : Tiles middle stop after) :
    Tiles start stop (before ++ after) := by
  induction before generalizing start with
  | nil => exact Eq.symm tiles ▸ goOn
  | cons r before ih => exact ⟨tiles.1, tiles.2.1, ih tiles.2.2⟩

theorem Tiles.split {start stop : ℕ} {before after : List RangePayout}
    (tiles : Tiles start stop (before ++ after)) :
    ∃ middle, Tiles start middle before ∧ Tiles middle stop after := by
  induction before generalizing start with
  | nil => exact ⟨start, rfl, tiles⟩
  | cons r before ih =>
      obtain ⟨middle, first, rest⟩ := ih tiles.2.2
      exact ⟨middle, ⟨tiles.1, tiles.2.1, first⟩, rest⟩

theorem Tiles.counts {start stop : ℕ} {ranges : List RangePayout}
    (tiles : Tiles start stop ranges) : start + counted ranges = stop := by
  induction ranges generalizing start with
  | nil => exact tiles
  | cons r ranges ih =>
      have rest := ih tiles.2.2
      rw [counted, List.map_cons, List.sum_cons]
      rw [counted] at rest
      omega

theorem Tiles.head {start stop : ℕ} {ranges : List RangePayout} (tiles : Tiles start stop ranges)
    (further : start < stop) : ranges.head?.map RangePayout.start = some start := by
  cases ranges with
  | nil => exact absurd tiles further.ne
  | cons r ranges => exact congrArg _ tiles.1

theorem Tiles.ne_nil {start stop : ℕ} {ranges : List RangePayout} (tiles : Tiles start stop ranges)
    (further : start < stop) : ranges ≠ [] := by
  rintro rfl
  exact absurd tiles further.ne

/-- The last range takes more outcomes. -/
theorem Tiles.widen {start stop more : ℕ} {before : List RangePayout} {cur : RangePayout}
    (tiles : Tiles start stop (before ++ [cur])) :
    Tiles start (stop + more) (before ++ [{ cur with count := cur.count + more }]) := by
  obtain ⟨middle, first, begins, some, ends⟩ := tiles.split
  refine first.append ⟨begins, Nat.add_pos_left some more, ?_⟩
  have meets : middle + cur.count = stop := ends
  change middle + (cur.count + more) = stop + more
  omega

/-- An outcome after the last one is a range of its own. -/
theorem Tiles.push {start outcome : ℕ} {ranges : List RangePayout} {payout : Payout}
    (tiles : Tiles start outcome ranges) :
    Tiles start (outcome + 1) (ranges ++ [⟨outcome, 1, payout⟩]) :=
  tiles.append ⟨rfl, Nat.one_pos, rfl⟩

/-- The outcomes up to the first of a piece, and those that its ranges add: each of the later
ones once. -/
structure Spanned (first last : ℕ) (opened all : List RangePayout) : Prop where
  counts : counted all = counted opened + (last - first)
  starts : all.head?.map RangePayout.start = opened.head?.map RangePayout.start
  tiles : ∀ start, first ≤ last → Tiles start (first + 1) opened → Tiles start (last + 1) all

/-- The ranges that a piece goes on from: those before it, or a first one of one outcome. -/
def Opens (first : ℕ) (ranges opened : List RangePayout) : Prop :=
  (ranges ≠ [] ∧ opened = ranges) ∨ (ranges = [] ∧ ∃ payout, opened = [⟨first, 1, payout⟩])

theorem Opens.tiles {first : ℕ} {ranges opened : List RangePayout} (opens : Opens first ranges opened)
    (before : ranges ≠ [] → Tiles 0 (first + 1) ranges) (zero : ranges = [] → first = 0) :
    Tiles 0 (first + 1) opened := by
  rcases opens with ⟨some, rfl⟩ | ⟨none, payout, rfl⟩
  · exact before some
  · obtain rfl := zero none
    exact ⟨rfl, Nat.one_pos, rfl⟩

theorem Tiles.count_le {stop : ℕ} {before : List RangePayout} {cur : RangePayout}
    (tiles : Tiles 0 stop (before ++ [cur])) : cur.count ≤ stop := by
  have counts := tiles.counts
  rw [counted_concat] at counts
  omega

theorem head_concat {ranges : List RangePayout} {cur cur' : RangePayout}
    (same : cur'.start = cur.start) :
    (ranges ++ [cur']).head?.map RangePayout.start =
      (ranges ++ [cur]).head?.map RangePayout.start := by
  cases ranges with
  | nil => exact congrArg some same
  | cons r ranges => rfl

namespace PayoutFunctionPiece
variable {piece : PayoutFunctionPiece F} {rounding : RoundingIntervals} {totalCollateral : ℕ}

/-- The outcomes at the ends of the piece. -/
def Runs (piece : PayoutFunctionPiece F) (first last : ℕ) : Prop :=
  piece.getFirstOutcome = .ok first ∧ piece.getLastOutcome = .ok last

/-- The outcomes of the points of a polynomial differ; a line is not asked. -/
def Distinct : PayoutFunctionPiece F → Prop
  | polynomialPayoutCurvePiece [_, _] => True
  | polynomialPayoutCurvePiece points => (points.map PayoutPoint.eventOutcome).Nodup
  | hyperbolaPayoutCurvePiece _ => True

/-- A piece that does not fall back, and can be evaluated where it goes up. -/
def Climbs (piece : PayoutFunctionPiece F) : Prop :=
  ∀ first last, piece.Runs first last → first ≤ last ∧ (first < last → piece.Distinct)

theorem runs_of_writable (writable : piece.Writable) : ∃ first last, piece.Runs first last := by
  obtain ⟨first, last, left, right⟩ := ends_of_writable writable
  exact ⟨first.eventOutcome, last.eventOutcome, by rw [getFirstOutcome, left, ok_bind],
    by rw [getLastOutcome, right, ok_bind]⟩

theorem Runs.unique {first last first' last' : ℕ} (runs : piece.Runs first last)
    (runs' : piece.Runs first' last') : first' = first ∧ last' = last :=
  ⟨Except.ok.inj (runs'.1.symm.trans runs.1), Except.ok.inj (runs'.2.symm.trans runs.2)⟩

theorem EvaluatesAt.distinct {outcome : ℕ} (evaluates : piece.EvaluatesAt outcome) :
    piece.Distinct := by
  unfold Distinct
  split
  next => trivial
  next points other =>
    unfold EvaluatesAt at evaluates
    split at evaluates
    next left right shape => exact absurd (polynomialPayoutCurvePiece.inj shape) (other left right)
    next shape =>
      obtain rfl := polynomialPayoutCurvePiece.inj shape
      exact evaluates
    next shape => cases shape
  next => trivial

theorem Distinct.evaluatesAt {first last outcome : ℕ} (distinct : piece.Distinct)
    (runs : piece.Runs first last) (upward : first ≤ last) (later : first ≤ outcome) :
    piece.EvaluatesAt outcome := by
  unfold EvaluatesAt
  split
  next left right =>
    obtain ⟨starts, ends⟩ := runs
    obtain rfl : left.eventOutcome = first := Except.ok.inj starts
    obtain rfl : right.eventOutcome = last := Except.ok.inj ends
    exact fun _ => ⟨upward, later⟩
  next points other =>
    unfold Distinct at distinct
    split at distinct
    next left right shape => exact absurd (polynomialPayoutCurvePiece.inj shape) (other left right)
    next shape =>
      obtain rfl := polynomialPayoutCurvePiece.inj shape
      exact distinct
    next shape => cases shape
  next => trivial

/-! One turn, a loop, a piece. -/

theorem getCurRange_opens {first : ℕ} (starts : piece.getFirstOutcome = .ok first)
    {ranges : List RangePayout} {cur : RangePayout × List RangePayout}
    (taken : piece.getCurRange rounding totalCollateral ranges = .ok cur) :
    Opens first ranges (cur.2 ++ [cur.1]) := by
  unfold getCurRange at taken
  split at taken
  next last found =>
    obtain rfl := Except.ok.inj taken
    obtain ⟨before, rfl⟩ := List.getLast?_eq_some_iff.mp found
    exact .inl ⟨by simp, by simp⟩
  next none =>
    rw [starts, ok_bind] at taken
    simp only [bind_eq_ok, Except.ok.injEq] at taken
    obtain ⟨payout, computed, range, made, rfl⟩ := taken
    rw [newRange_exists (getRoundedPayout_le computed)] at made
    exact .inr ⟨List.getLast?_eq_none_iff.mp none, _, congrArg (fun r => [r])
      (Except.ok.inj made).symm⟩

theorem extendRanges_cases {ranges next : RangePayout × List RangePayout} {outcome : ℕ}
    (extended : piece.extendRanges rounding totalCollateral ranges outcome = .ok next) :
    next = ({ ranges.1 with count := ranges.1.count + 1 }, ranges.2) ∨
      ∃ payout, next = (⟨outcome, 1, payout⟩, ranges.2 ++ [ranges.1]) := by
  simp only [extendRanges, bind_eq_ok] at extended
  obtain ⟨payout, computed, _, _, rest⟩ := extended
  split at rest
  next same =>
    simp only [outcomeAdd, bind_eq_ok, add_eq_ok, Except.ok.injEq] at rest
    obtain ⟨_, ⟨_, rfl⟩, rfl⟩ := rest
    exact .inl rfl
  next other =>
    rw [newRange_exists (getRoundedPayout_le computed)] at rest
    exact .inr ⟨_, (Except.ok.inj rest).symm⟩

theorem extendRanges_spans {ranges next : RangePayout × List RangePayout} {outcome : ℕ}
    (extended : piece.extendRanges rounding totalCollateral ranges (outcome + 1) = .ok next) :
    Spanned outcome (outcome + 1) (ranges.2 ++ [ranges.1]) (next.2 ++ [next.1]) := by
  rcases extendRanges_cases extended with rfl | ⟨payout, rfl⟩
  · refine ⟨?_, head_concat rfl, fun _ _ tiles => tiles.widen⟩
    simp only [counted_concat]
    omega
  · refine ⟨?_, ?_, fun _ _ tiles => tiles.push⟩
    · simp only [counted_concat]
      omega
    · rw [List.head?_append_of_ne_nil _ (by simp)]

end PayoutFunctionPiece

theorem Spanned.rfl {outcome : ℕ} {ranges : List RangePayout} :
    Spanned outcome outcome ranges ranges :=
  ⟨by simp, by simp, fun _ _ tiles => tiles⟩

/-- A stretch after another; the first does not fall back. -/
theorem Spanned.trans {first middle last : ℕ} {opened between all : List RangePayout}
    (spanned : Spanned first middle opened between) (goesOn : Spanned middle last between all)
    (upward : first ≤ middle) (onward : middle ≤ last) : Spanned first last opened all where
  counts := by
    have near := spanned.counts
    have far := goesOn.counts
    omega
  starts := goesOn.starts.trans spanned.starts
  tiles start _ tiles := goesOn.tiles start onward (spanned.tiles start upward tiles)

namespace PayoutFunctionPiece
variable {piece : PayoutFunctionPiece F} {rounding : RoundingIntervals} {totalCollateral : ℕ}

theorem turns_span {outcome turns : ℕ} {ranges next : RangePayout × List RangePayout}
    (ran : (List.range' (outcome + 1) turns).foldlM (piece.extendRanges rounding totalCollateral)
      ranges = .ok next) :
    Spanned outcome (outcome + turns) (ranges.2 ++ [ranges.1]) (next.2 ++ [next.1]) := by
  induction turns generalizing outcome ranges with
  | zero =>
      obtain rfl := Except.ok.inj ran
      exact Spanned.rfl
  | succ turns ih =>
      rw [List.range'_succ, List.foldlM_cons] at ran
      obtain ⟨middle, step, rest⟩ := bind_eq_ok.mp ran
      have goesOn := ih rest
      rw [Nat.add_right_comm, Nat.add_assoc] at goesOn
      exact (extendRanges_spans step).trans goesOn (Nat.le_add_right _ _) (by omega)

theorem computeRangePayouts_spans {first last : ℕ} (runs : piece.Runs first last)
    (low : last + 1 < u64Limit) {ranges all : List RangePayout}
    (computed : piece.computeRangePayouts rounding totalCollateral ranges = .ok all) :
    first + 1 < u64Limit ∧ ∃ opened, Opens first ranges opened ∧ Spanned first last opened all := by
  unfold computeRangePayouts at computed
  rw [runs.1, ok_bind, runs.2] at computed
  simp only [ok_bind, if_pos low, bind_eq_ok, outcomeAdd, add_eq_ok, Prod.exists,
    Except.ok.injEq] at computed
  obtain ⟨cur, before, taken, _, ⟨room, rfl⟩, cur', before', ran, rfl⟩ := computed
  refine ⟨room, _, getCurRange_opens runs.1 taken, ?_⟩
  have spans := turns_span ran
  rw [Nat.add_sub_add_right] at spans
  refine ⟨?_, spans.starts, fun start upward tiles => ?_⟩
  · rw [spans.counts, Nat.add_sub_cancel_left]
  · have stretch := spans.tiles start (Nat.le_add_right _ _) tiles
    rwa [Nat.add_sub_cancel' upward] at stretch

theorem toRangePayouts_spans {first last : ℕ} (runs : piece.Runs first last)
    (low : last + 1 < u64Limit) {ranges all : List RangePayout}
    (computed : piece.toRangePayouts rounding totalCollateral ranges = .ok all) :
    first + 1 < u64Limit ∧ ∃ opened, Opens first ranges opened ∧ Spanned first last opened all := by
  unfold toRangePayouts at computed
  split at computed
  next left right =>
    split at computed
    next same =>
      obtain rfl : left.eventOutcome = first := Except.ok.inj runs.1
      obtain rfl : right.eventOutcome = last := Except.ok.inj runs.2
      simp only [bind_eq_ok, Prod.exists, outcomeSub, sub_eq_ok, outcomeAdd, add_eq_ok,
        Except.ok.injEq] at computed
      obtain ⟨cur, before, taken, _, ⟨upward, rfl⟩, _, ⟨_, rfl⟩, rfl⟩ := computed
      refine ⟨by omega, _, getCurRange_opens rfl taken, ?_, head_concat rfl, ?_⟩
      · simp only [counted_concat, Nat.add_assoc]
      · intro start _ tiles
        have wider := @Tiles.widen start _ (right.eventOutcome - left.eventOutcome) _ _ tiles
        rwa [Nat.add_right_comm, Nat.add_sub_cancel' upward] at wider
    next other => exact computeRangePayouts_spans runs low computed
  next => exact computeRangePayouts_spans runs low computed

theorem toRangePayouts_ne_nil {ranges all : List RangePayout}
    (computed : piece.toRangePayouts rounding totalCollateral ranges = .ok all) : all ≠ [] := by
  have compute_ne_nil : ∀ {all},
      piece.computeRangePayouts rounding totalCollateral ranges = .ok all → all ≠ [] := by
    intro all computed
    simp only [computeRangePayouts, bind_eq_ok, Prod.exists, Except.ok.injEq] at computed
    obtain ⟨_, _, _, _, _, _, _, _, _, _, _, _, rfl⟩ := computed
    simp
  unfold toRangePayouts at computed
  split at computed
  next left right =>
    split at computed
    next same =>
      simp only [bind_eq_ok, Prod.exists, Except.ok.injEq] at computed
      obtain ⟨_, _, _, _, _, _, _, rfl⟩ := computed
      simp
    next other => exact compute_ne_nil computed
  next => exact compute_ne_nil computed

/-! Where the ranges of a piece go up, none of its turns panics. -/

theorem turns_extend {outcome turns last : ℕ} {ranges : RangePayout × List RangePayout}
    (tiles : Tiles 0 (outcome + 1) (ranges.2 ++ [ranges.1]))
    (evaluates : ∀ later, outcome < later → later ≤ outcome + turns → piece.EvaluatesAt later)
    (low : outcome + turns ≤ last) (room : last + 1 < u64Limit) :
    AlongFold (piece.extendRanges rounding totalCollateral)
      (piece.ExtendsAt rounding totalCollateral) ranges (List.range' (outcome + 1) turns) := by
  induction turns generalizing outcome ranges with
  | zero => trivial
  | succ turns ih =>
      rw [List.range'_succ]
      refine ⟨⟨evaluates _ (Nat.lt_succ_self _) (by omega), fun _ => ?_⟩, fun next step => ?_⟩
      · have narrow := tiles.count_le
        omega
      · refine ih ((extendRanges_spans step).tiles 0 (Nat.le_succ _) tiles) ?_ (by omega)
        exact fun later after within => evaluates later (by omega) (by omega)

theorem Climbs.rangesFrom {first last : ℕ} (climbs : piece.Climbs) (runs : piece.Runs first last)
    (low : last + 1 < u64Limit) {ranges : List RangePayout}
    (before : ranges ≠ [] → Tiles 0 (first + 1) ranges)
    (start : ranges = [] → first = 0 ∧ piece.Distinct) :
    piece.RangesFrom rounding totalCollateral ranges := by
  obtain ⟨upward, distinct⟩ := climbs first last runs
  have opened : ∀ cur, piece.getCurRange rounding totalCollateral ranges = .ok cur →
      Tiles 0 (first + 1) (cur.2 ++ [cur.1]) := fun cur taken =>
    (getCurRange_opens runs.1 taken).tiles before fun none => (start none).1
  refine ⟨?_, fun _ first' last' starts ends => ?_⟩
  · rintro left right rfl same cur taken
    obtain rfl : left.eventOutcome = first := Except.ok.inj runs.1
    obtain rfl : right.eventOutcome = last := Except.ok.inj runs.2
    have narrow := (opened cur taken).count_le
    exact ⟨upward, by omega⟩
  · obtain ⟨rfl, rfl⟩ := runs.unique ⟨starts, ends⟩
    refine ⟨fun none => (start none).2.evaluatesAt runs upward le_rfl, fun cur taken => ?_⟩
    refine ⟨by omega, ?_⟩
    rw [if_pos low, Nat.add_sub_add_right]
    refine turns_extend (opened cur taken) (fun later after within => ?_) (by omega) low
    exact (distinct (by omega)).evaluatesAt runs upward after.le

theorem Climbs.tiles {first last : ℕ} (climbs : piece.Climbs) (runs : piece.Runs first last)
    (low : last + 1 < u64Limit) {ranges all : List RangePayout}
    (before : ranges ≠ [] → Tiles 0 (first + 1) ranges) (start : ranges = [] → first = 0)
    (computed : piece.toRangePayouts rounding totalCollateral ranges = .ok all) :
    Tiles 0 (last + 1) all := by
  obtain ⟨_, opened, opens, spanned⟩ := toRangePayouts_spans runs low computed
  exact spanned.tiles 0 (climbs first last runs).1 (opens.tiles before start)

/-- A piece that computes its ranges can be evaluated wherever it goes up. -/
theorem RangesFrom.distinct {first last : ℕ} (runs : piece.Runs first last)
    (low : last + 1 < u64Limit) {ranges all : List RangePayout}
    (ranged : piece.RangesFrom rounding totalCollateral ranges)
    (computed : piece.toRangePayouts rounding totalCollateral ranges = .ok all) :
    (ranges = [] → piece.Distinct) ∧ (first < last → piece.Distinct) := by
  by_cases line : ∃ left right, piece = polynomialPayoutCurvePiece [left, right]
  · obtain ⟨left, right, rfl⟩ := line
    exact ⟨fun _ => trivial, fun _ => trivial⟩
  · have shape : ∀ left right, piece ≠ polynomialPayoutCurvePiece [left, right] :=
      fun left right same => line ⟨left, right, same⟩
    obtain ⟨opens, turns⟩ := ranged.2 (fun left right same => absurd same (shape left right))
      first last runs.1 runs.2
    refine ⟨fun none => (opens none).distinct, fun upward => ?_⟩
    have computes : piece.computeRangePayouts rounding totalCollateral ranges = .ok all := by
      unfold toRangePayouts at computed
      split at computed
      next left right => exact absurd rfl (shape left right)
      next => exact computed
    unfold computeRangePayouts at computes
    rw [runs.1, ok_bind] at computes
    obtain ⟨cur, taken, _⟩ := bind_eq_ok.mp computes
    obtain ⟨_, along⟩ := turns cur taken
    obtain ⟨more, width⟩ : ∃ more, last - first = more + 1 := ⟨last - first - 1, by omega⟩
    rw [if_pos low, Nat.add_sub_add_right, width, List.range'_succ] at along
    exact along.1.1.distinct

end PayoutFunctionPiece

namespace PayoutFunction

/-- Pieces that meet end to end. -/
def Spans : (first last : ℕ) → PayoutFunction F → Prop
  | first, last, [] => first = last
  | first, last, piece :: pieces => ∃ middle, piece.Runs first middle ∧ Spans middle last pieces

/-- The first piece begins at outcome zero, where it can be evaluated, and no piece falls
back. -/
def GoesUp : PayoutFunction F → Prop
  | [] => False
  | piece :: pieces => piece.getFirstOutcome = .ok 0 ∧ piece.Distinct ∧
      ∀ each ∈ piece :: pieces, each.Climbs

theorem spans_of_continuous {f : PayoutFunction F} (writable : ∀ piece ∈ f, piece.Writable)
    {final : PayoutFunctionPiece F} (ends : f.getLast? = some final)
    (continuous : isContinuous f = .ok true) :
    ∃ first last, final.getLastOutcome = .ok last ∧ Spans first last f := by
  induction f with
  | nil => cases ends
  | cons cur pieces ih =>
      rw [List.forall_mem_cons] at writable
      obtain ⟨first, middle, runs⟩ := PayoutFunctionPiece.runs_of_writable writable.1
      cases pieces with
      | nil =>
          obtain rfl : cur = final := Option.some.inj ends
          exact ⟨first, middle, runs.2, middle, runs, rfl⟩
      | cons next pieces =>
          simp only [isContinuous, bind_eq_ok] at continuous
          obtain ⟨end_, ended, begin_, begun, meets⟩ := continuous
          split at meets
          next same =>
            obtain ⟨start, last, finishes, spans⟩ := ih writable.2 ends meets
            refine ⟨first, last, finishes, middle, runs, ?_⟩
            obtain ⟨further, onward, rest⟩ := spans
            have left := onward.1
            have right := runs.2
            rw [PayoutFunctionPiece.getFirstOutcome, begun, ok_bind, ← same] at left
            rw [PayoutFunctionPiece.getLastOutcome, ended, ok_bind] at right
            obtain rfl : start = middle := (Except.ok.inj left).symm.trans (Except.ok.inj right)
            exact ⟨further, onward, rest⟩
          next apart => cases meets

/-- The check of a curve leaves where it begins to its first piece. -/
theorem spans_of_validate {f : PayoutFunction F} {maxValue : ℕ}
    (writable : ∀ piece ∈ f, piece.Writable)
    (valid : PayoutFunction.validate f maxValue = .ok ()) :
    f ≠ [] ∧ ∃ first, Spans first maxValue f := by
  simp only [PayoutFunction.validate, bind_eq_ok, ensure_eq_ok, expectSome_eq_ok,
    Bool.and_eq_true] at valid
  obtain ⟨_, continuous, _, rfl, head, begins, starts, _, final, ends, finishes, reached,
    _, rfl⟩ := valid
  obtain ⟨first, last, finish, spans⟩ := spans_of_continuous writable ends continuous
  refine ⟨fun none => ?_, first, ?_⟩
  · rw [none] at ends
    cases ends
  · have meets : last = maxValue := by
      cases final with
      | hyperbolaPayoutCurvePiece h =>
          obtain rfl := Except.ok.inj finish
          exact of_decide_eq_true (Except.ok.inj reached)
      | polynomialPayoutCurvePiece points =>
          simp only [finishesAtMax, bind_eq_ok, expectSome_eq_ok, Except.ok.injEq] at reached
          obtain ⟨point, found, same⟩ := reached
          rw [PayoutFunctionPiece.getLastOutcome, PayoutFunctionPiece.getLastPoint, found] at finish
          obtain rfl := Except.ok.inj finish
          exact of_decide_eq_true same
    exact meets ▸ spans

variable {rounding : RoundingIntervals} {totalCollateral : ℕ}

/-- Pieces after the first: the outcomes that the ranges count are at least those between the
ends, and no more only if no piece falls back. -/
theorem pieces_span {first last : ℕ} {pieces : PayoutFunction F} (covers : rounding.Covers)
    (writable : ∀ piece ∈ pieces, piece.Writable) (spans : Spans first last pieces)
    (low : last + 1 < u64Limit) {ranges all : List RangePayout} (open_ : ranges ≠ [])
    (ran : pieces.foldlM
      (fun ranges piece => piece.toRangePayouts rounding totalCollateral ranges) ranges = .ok all) :
    first + 1 < u64Limit ∧
      all.head?.map RangePayout.start = ranges.head?.map RangePayout.start ∧
      last + counted ranges ≤ first + counted all ∧
      (last + counted ranges = first + counted all → ∀ piece ∈ pieces, piece.Climbs) := by
  induction pieces generalizing first ranges with
  | nil =>
      obtain rfl := Except.ok.inj ran
      obtain rfl : first = last := spans
      exact ⟨low, rfl, le_rfl, fun _ => by simp⟩
  | cons piece pieces ih =>
      rw [List.forall_mem_cons] at writable
      obtain ⟨middle, runs, rest⟩ := spans
      rw [List.foldlM_cons] at ran
      obtain ⟨between, step, later⟩ := bind_eq_ok.mp ran
      obtain ⟨room, starts, counts, climbs⟩ :=
        ih writable.2 rest (PayoutFunctionPiece.toRangePayouts_ne_nil step) later
      obtain ⟨begins, opened, opens, spanned⟩ :=
        PayoutFunctionPiece.toRangePayouts_spans runs room step
      obtain rfl : opened = ranges := by
        rcases opens with ⟨_, same⟩ | ⟨none, _⟩
        · exact same
        · exact absurd none open_
      have ranged := (PayoutFunctionPiece.avoids_toRangePayouts covers writable.1).mp
        (avoids_of_ok ⟨between, step⟩)
      have distinct := (ranged.distinct runs room step).2
      have stretch := spanned.counts
      refine ⟨begins, starts.trans spanned.starts, by omega, fun exact_ => ?_⟩
      rw [List.forall_mem_cons]
      refine ⟨fun first' last' runs' => ?_, climbs (by omega)⟩
      obtain ⟨rfl, rfl⟩ := runs.unique runs'
      exact ⟨by omega, distinct⟩

theorem Spans.le {first last : ℕ} {pieces : PayoutFunction F} (spans : Spans first last pieces)
    (climbs : ∀ piece ∈ pieces, piece.Climbs) : first ≤ last := by
  induction pieces generalizing first with
  | nil => exact le_of_eq spans
  | cons piece pieces ih =>
      rw [List.forall_mem_cons] at climbs
      obtain ⟨middle, runs, rest⟩ := spans
      exact (climbs.1 first middle runs).1.trans (ih rest climbs.2)

/-- Pieces that do not fall back, after ranges up to where they begin: they are computed without
a panic, and their ranges go on to where they end. -/
theorem pieces_tile {first last : ℕ} {pieces : PayoutFunction F} (spans : Spans first last pieces)
    (climbs : ∀ piece ∈ pieces, piece.Climbs) (low : last + 1 < u64Limit)
    {ranges : List RangePayout} (tiles : Tiles 0 (first + 1) ranges) :
    AlongFold (fun ranges piece => piece.toRangePayouts rounding totalCollateral ranges)
      (fun ranges piece => piece.RangesFrom rounding totalCollateral ranges) ranges pieces ∧
    ∀ all, pieces.foldlM
      (fun ranges piece => piece.toRangePayouts rounding totalCollateral ranges) ranges = .ok all →
      Tiles 0 (last + 1) all := by
  induction pieces generalizing first ranges with
  | nil =>
      obtain rfl : first = last := spans
      exact ⟨trivial, fun all ran => Except.ok.inj ran ▸ tiles⟩
  | cons piece pieces ih =>
      rw [List.forall_mem_cons] at climbs
      obtain ⟨middle, runs, rest⟩ := spans
      have onward := rest.le climbs.2
      have low' : middle + 1 < u64Limit := by omega
      have some := tiles.ne_nil (Nat.succ_pos first)
      have next : ∀ {between}, piece.toRangePayouts rounding totalCollateral ranges = .ok between →
          Tiles 0 (middle + 1) between :=
        climbs.1.tiles runs low' (fun _ => tiles) fun none => absurd none some
      refine ⟨⟨?_, fun between step => (ih rest climbs.2 (next step)).1⟩, fun all ran => ?_⟩
      · exact climbs.1.rangesFrom runs low' (fun _ => tiles) fun none => absurd none some
      · rw [List.foldlM_cons] at ran
        obtain ⟨between, step, later⟩ := bind_eq_ok.mp ran
        exact (ih rest climbs.2 (next step)).2 all later

/-- A curve that goes up. -/
theorem GoesUp.tiles {first last : ℕ} {f : PayoutFunction F} (goesUp : GoesUp f)
    (spans : Spans first last f) (low : last + 1 < u64Limit) :
    AlongFold (fun ranges piece => piece.toRangePayouts rounding totalCollateral ranges)
      (fun ranges piece => piece.RangesFrom rounding totalCollateral ranges) [] f ∧
    ∀ all, f.toRangePayouts totalCollateral rounding = .ok all → Tiles 0 (last + 1) all := by
  cases f with
  | nil => exact goesUp.elim
  | cons piece pieces =>
      obtain ⟨zero, distinct, climbs⟩ := goesUp
      rw [List.forall_mem_cons] at climbs
      obtain ⟨middle, runs, rest⟩ := spans
      obtain rfl : 0 = first := Except.ok.inj (zero.symm.trans runs.1)
      have onward := rest.le climbs.2
      have low' : middle + 1 < u64Limit := by omega
      have next : ∀ {between}, piece.toRangePayouts rounding totalCollateral [] = .ok between →
          Tiles 0 (middle + 1) between :=
        climbs.1.tiles runs low' (absurd rfl) fun _ => rfl
      refine ⟨⟨?_, fun between step => (pieces_tile rest climbs.2 low (next step)).1⟩,
        fun all ran => ?_⟩
      · exact climbs.1.rangesFrom runs low' (absurd rfl) fun _ => ⟨rfl, distinct⟩
      · rw [PayoutFunction.toRangePayouts, List.foldlM_cons] at ran
        obtain ⟨between, step, later⟩ := bind_eq_ok.mp ran
        exact (pieces_tile rest climbs.2 low (next step)).2 all later

/-- Ranges that cover every outcome once come from a curve that goes up. -/
theorem goesUp_of_tiles {first last : ℕ} {f : PayoutFunction F} (covers : rounding.Covers)
    (writable : ∀ piece ∈ f, piece.Writable) (nonempty : f ≠ []) (spans : Spans first last f)
    (low : last + 1 < u64Limit) {all : List RangePayout}
    (ran : f.toRangePayouts totalCollateral rounding = .ok all) (tiles : Tiles 0 (last + 1) all) :
    GoesUp f := by
  cases f with
  | nil => exact absurd rfl nonempty
  | cons piece pieces =>
      rw [List.forall_mem_cons] at writable
      obtain ⟨middle, runs, rest⟩ := spans
      rw [PayoutFunction.toRangePayouts, List.foldlM_cons] at ran
      obtain ⟨between, step, later⟩ := bind_eq_ok.mp ran
      obtain ⟨room, starts, counts, climbs⟩ := pieces_span covers writable.2 rest low
        (PayoutFunctionPiece.toRangePayouts_ne_nil step) later
      obtain ⟨_, opened, opens, spanned⟩ :=
        PayoutFunctionPiece.toRangePayouts_spans runs room step
      obtain ⟨payout, rfl⟩ : ∃ payout, opened = [⟨first, 1, payout⟩] := by
        rcases opens with ⟨some, _⟩ | ⟨_, single⟩
        · exact absurd rfl some
        · exact single
      have ranged := (PayoutFunctionPiece.avoids_toRangePayouts covers writable.1).mp
        (avoids_of_ok ⟨between, step⟩)
      obtain ⟨distinct, above⟩ := ranged.distinct runs room step
      have zero : first = 0 := by
        have head := starts.trans spanned.starts
        rw [tiles.head (Nat.succ_pos last)] at head
        exact (Option.some.inj head).symm
      have total := tiles.counts
      have stretch := spanned.counts
      simp only [counted, List.map_cons, List.map_nil, List.sum_cons, List.sum_nil] at stretch
      rw [← counted] at stretch
      refine ⟨zero ▸ runs.1, distinct rfl, ?_⟩
      rw [List.forall_mem_cons]
      refine ⟨fun first' last' runs' => ?_, climbs (by omega)⟩
      obtain ⟨rfl, rfl⟩ := runs.unique runs'
      exact ⟨by omega, above⟩

end PayoutFunction

/-- A checked curve gives an error, or ranges that cover every outcome once and share the total
exactly when it goes up. -/
theorem NumericalDescriptor.getRangePayouts_covers_iff {n : NumericalDescriptor F}
    {maxValue totalCollateral : ℕ} (writable : ∀ piece ∈ n.payoutFunction, piece.Writable)
    (largest : n.oracleNumericInfos.maxValue = .ok maxValue)
    (valid : n.validate maxValue = .ok ()) :
    (∃ e, n.getRangePayouts totalCollateral = .error (.err e)) ∨
      ((∃ ranges, n.getRangePayouts totalCollateral = .ok ranges ∧
        Tiles 0 (maxValue + 1) ranges ∧ Shares totalCollateral ranges) ↔
        n.payoutFunction.GoesUp) := by
  obtain ⟨_, rounds, curve⟩ := bind_eq_ok.mp valid
  have covers := RoundingIntervals.covers_of_validate rounds
  obtain ⟨nonempty, first, spans⟩ := PayoutFunction.spans_of_validate writable curve
  have low : maxValue + 1 < u64Limit := by
    simp only [OracleNumericInfo.maxValue, bind_eq_ok, ensure_eq_ok, outcomeSub, sub_eq_ok] at largest
    obtain ⟨_, _, _, room, positive, rfl⟩ := largest
    omega
  cases computed : n.getRangePayouts totalCollateral with
  | ok ranges =>
      refine .inr ⟨fun covered => ?_, fun goesUp => ⟨ranges, rfl, ?_, ?_⟩⟩
      · obtain ⟨_, ⟨⟩, tiles, _⟩ := covered
        exact PayoutFunction.goesUp_of_tiles covers writable nonempty spans low computed tiles
      · exact (goesUp.tiles spans low).2 ranges computed
      · exact PayoutFunction.toRangePayouts_shares computed
  | error fault =>
      cases fault with
      | err e => exact .inl ⟨e, rfl⟩
      | panic message =>
          refine .inr ⟨fun covered => ?_, fun goesUp => ?_⟩
          · obtain ⟨_, ⟨⟩, _⟩ := covered
          · have avoids : Avoids IsPanic (n.getRangePayouts totalCollateral) :=
              (PayoutFunction.avoids_toRangePayouts covers writable).mpr
                (goesUp.tiles spans low).1
            exact absurd isPanic_panic (avoids _ computed)

/-! Oracles of two binary digits. -/

def sampleNumerical (f : PayoutFunction sampleFloats) : NumericalDescriptor sampleFloats where
  payoutFunction := f
  roundingIntervals := [⟨0, 1⟩]
  differenceParams := none
  oracleNumericInfos := ⟨2, [2]⟩

/-- A flat piece and a line after it. -/
def sampleRise : PayoutFunction sampleFloats :=
  [.polynomialPayoutCurvePiece [⟨0, 50, 0⟩, ⟨1, 50, 0⟩],
    .polynomialPayoutCurvePiece [⟨1, 50, 0⟩, ⟨3, 70, 0⟩]]

/-- A hyperbola from outcome one on. -/
def sampleHyperbola : PayoutFunction sampleFloats :=
  [.hyperbolaPayoutCurvePiece {
    leftEndPoint := ⟨1, 56, 0⟩
    rightEndPoint := ⟨3, 52, 0⟩
    usePositivePiece := true
    translateOutcome := (0 : Rat)
    translatePayout := (50 : Rat)
    a := (1 : Rat)
    b := (0 : Rat)
    c := (0 : Rat)
    d := (6 : Rat) }]

/-- A line up to the last outcome, back and up again. -/
def sampleFall : PayoutFunction sampleFloats :=
  [.polynomialPayoutCurvePiece [⟨0, 50, 0⟩, ⟨3, 80, 0⟩],
    .polynomialPayoutCurvePiece [⟨3, 80, 0⟩, ⟨1, 60, 0⟩],
    .polynomialPayoutCurvePiece [⟨1, 60, 0⟩, ⟨3, 80, 0⟩]]

theorem sampleRise_goesUp : sampleRise.GoesUp := by
  refine ⟨rfl, trivial, ?_⟩
  intro piece listed first last runs
  simp only [List.mem_cons, List.not_mem_nil, or_false] at listed
  rcases listed with rfl | rfl
  · obtain rfl := Except.ok.inj runs.1
    obtain rfl := Except.ok.inj runs.2
    exact ⟨by decide, fun _ => trivial⟩
  · obtain rfl := Except.ok.inj runs.1
    obtain rfl := Except.ok.inj runs.2
    exact ⟨by decide, fun _ => trivial⟩

theorem sampleRise_covers : ∃ ranges, (sampleNumerical sampleRise).getRangePayouts 100 = .ok ranges ∧
    Tiles 0 4 ranges ∧ Shares 100 ranges := by
  have writable : ∀ piece ∈ (sampleNumerical sampleRise).payoutFunction, piece.Writable := by
    intro piece listed
    simp only [sampleNumerical, sampleRise, List.mem_cons, List.not_mem_nil, or_false] at listed
    rcases listed with rfl | rfl
    · exact Nat.le_refl 2
    · exact Nat.le_refl 2
  have computes : (sampleNumerical sampleRise).getRangePayouts 100 =
      .ok [⟨0, 2, ⟨50, 50⟩⟩, ⟨2, 1, ⟨60, 40⟩⟩, ⟨3, 1, ⟨70, 30⟩⟩] := by decide +kernel
  rcases @NumericalDescriptor.getRangePayouts_covers_iff _ (sampleNumerical sampleRise) 3 100
    writable (by decide +kernel) (by decide +kernel) with ⟨e, fails⟩ | covers
  · rw [computes] at fails
    cases fails
  · exact covers.mpr sampleRise_goesUp

/-- Outcome zero of a hyperbola has no range, and outcomes of a curve that falls back have
two. -/
theorem outcomes_left_out_or_twice :
    ((sampleNumerical sampleHyperbola).validate 3 = .ok () ∧
      (sampleNumerical sampleHyperbola).getRangePayouts 100 = .ok
        [⟨1, 1, ⟨56, 44⟩⟩, ⟨2, 1, ⟨53, 47⟩⟩, ⟨3, 1, ⟨52, 48⟩⟩] ∧
      ¬ Tiles 0 4 [⟨1, 1, ⟨56, 44⟩⟩, ⟨2, 1, ⟨53, 47⟩⟩, ⟨3, 1, ⟨52, 48⟩⟩]) ∧
    ∃ ranges, (sampleNumerical sampleFall).validate 3 = .ok () ∧
      (sampleNumerical sampleFall).getRangePayouts 100 = .ok ranges ∧ ¬ Tiles 0 4 ranges := by
  refine ⟨⟨by decide +kernel, by decide +kernel, by decide⟩,
    [⟨0, 1, ⟨50, 50⟩⟩, ⟨1, 1, ⟨60, 40⟩⟩, ⟨2, 1, ⟨70, 30⟩⟩, ⟨3, 1, ⟨80, 20⟩⟩, ⟨2, 1, ⟨70, 30⟩⟩,
      ⟨3, 1, ⟨80, 20⟩⟩], by decide +kernel, by decide +kernel, by decide⟩

end P2PLending.Manager.Infos
