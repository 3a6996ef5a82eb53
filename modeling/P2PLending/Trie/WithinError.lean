import P2PLending.Trie.DifferenceRequests

/-! Requests whose interval is smaller than the error. One cell or two cover the support. -/

namespace P2PLending.Trie.Request

open Dlc (Result Fault u64Limit)

section Within
variable {r : Request}

theorem errorCell_holds_iff {x : ℕ} : r.errorCell.Holds x ↔
    r.errorCell.low ≤ x ∧ x < r.errorCell.low + 2 ^ r.maxErrorExp := Cell.holds_iff

theorem errorCell_low_le (r : Request) : r.errorCell.low ≤ r.start := Cell.low_le _ _

theorem errorCell_holds_low (r : Request) : r.errorCell.Holds r.errorCell.low :=
  errorCell_holds_iff.mpr ⟨Nat.le_refl _, Nat.lt_add_of_pos_right (Nat.two_pow_pos _)⟩

/-- The place of an interval that is smaller than the error in its cell: if it starts in the first
half, it ends there. -/
theorem interval_halves (smaller : r.main.width < r.maxErrorExp) :
    r.stop < r.errorCell.low + 2 ^ r.maxErrorExp ∧
      (r.start < r.errorCell.low + 2 ^ (r.maxErrorExp - 1) →
        r.stop < r.errorCell.low + 2 ^ (r.maxErrorExp - 1)) := by
  have own : (Cell.of r.main.width r.start).low = r.start := by
    have index : r.start / 2 ^ r.main.width = r.main.index := by
      rw [start, Cell.low, Nat.mul_div_cancel _ (Nat.two_pow_pos _)]
    rw [Cell.low, Cell.of, index]
    rfl
  have next := r.start_add
  have ends : ∀ m, r.main.width ≤ m → r.stop < (Cell.of m r.start).low + 2 ^ m := by
    intro m within
    have place := Cell.low_of_div within r.start
    have power : 2 ^ m = 2 ^ (m - r.main.width) * 2 ^ r.main.width := by
      rw [← pow_add, Nat.sub_add_cancel within]
    have less := Nat.mod_lt (r.start / 2 ^ r.main.width) (Nat.two_pow_pos (m - r.main.width))
    have room := Nat.mul_le_mul_right (2 ^ r.main.width) (Nat.succ_le_of_lt less)
    rw [Nat.succ_mul, ← power] at room
    omega
  refine ⟨ends r.maxErrorExp (by omega), fun first => ?_⟩
  have half := ends (r.maxErrorExp - 1) (by omega)
  have place := Cell.low_of_div (Nat.sub_le r.maxErrorExp 1) r.start
  have less := Cell.low_le (r.maxErrorExp - 1) r.start
  have one : r.maxErrorExp - (r.maxErrorExp - 1) = 1 := by omega
  rw [one, pow_one] at place
  change (Cell.of (r.maxErrorExp - 1) r.start).low = r.errorCell.low + _ at place
  rcases Nat.mod_two_eq_zero_or_one (r.start / 2 ^ (r.maxErrorExp - 1)) with even | odd
  · rw [even] at place
    omega
  · rw [odd] at place
    omega

/-- The half of the cell before the error's one. -/
def halfBefore (r : Request) : Result (List ℕ) := do
  let bound ← usizeSub r.errorCell.low (2 ^ r.maxErrorExp / 2)
  numToVec bound r.digits (r.maxErrorExp - 1) 2

def halfAfter (r : Request) : Result (List ℕ) := do
  let bound ← usizeAdd (r.errorCell.low + 2 ^ r.maxErrorExp - 1) 1
  numToVec bound r.digits (r.maxErrorExp - 1) 2

theorem shifted_start (r : Request) :
    r.start >>> r.maxErrorExp <<< r.maxErrorExp = r.errorCell.low := by
  rw [Nat.shiftRight_eq_div_pow, Nat.shiftLeft_eq]
  rfl

theorem errorPrefix_cell (within : r.maxErrorExp ≤ r.digits)
    (exact' : Decomposes r.digits r.errorCell.low) :
    numToVec r.errorCell.low r.digits r.maxErrorExp 2 = .ok (r.errorCell.path r.digits) := by
  have own : Cell.of r.maxErrorExp r.errorCell.low = r.errorCell :=
    Cell.of_eq_of_holds r.errorCell_holds_low
  rw [numToVec_cell exact' within, own]

/-- What is computed for an interval that is smaller than the error. -/
theorem withinError_eq (support : r.minSupportExp < r.maxErrorExp) {pre : List ℕ}
    (prefixed : numToVec r.errorCell.low r.digits r.maxErrorExp 2 = .ok pre) :
    r.coverage.withinError (2 ^ r.maxErrorExp) (2 ^ r.maxErrorExp / 2) (2 ^ r.minSupportExp) =
      if r.NearStart then do
        let right ← r.coverage.covering (.ok pre)
          (computeRightCoveringPrefix r.stop r.maxErrorExp (2 ^ r.minSupportExp) r.digits)
        if r.errorCell.low = 0 then r.coverage.single right
        else do
          let left ← r.coverage.covering r.halfBefore
            (computeLeftCoveringPrefix r.start r.maxErrorExp (2 ^ r.minSupportExp) r.digits)
          doubleCoveringPrefixCombinations (r.main.path r.digits) right left
            (r.fewest :: r.others) r.main.width
      else if r.NearStop then do
        let left ← r.coverage.covering (.ok pre)
          (computeLeftCoveringPrefix r.start r.maxErrorExp (2 ^ r.minSupportExp) r.digits)
        if r.errorCell.low + 2 ^ r.maxErrorExp = 2 ^ r.digits then r.coverage.single left
        else do
          let right ← r.coverage.covering r.halfAfter
            (computeRightCoveringPrefix r.stop r.maxErrorExp (2 ^ r.minSupportExp) r.digits)
          doubleCoveringPrefixCombinations (r.main.path r.digits) left right
            (r.fewest :: r.others) r.main.width
      else (do
        let support ← r.coverage.covering (.ok pre)
          (computeMinSupportCoveringPrefix r.start r.stop (2 ^ r.minSupportExp) r.digits)
        r.coverage.single support) := by
  have pos := Nat.two_pow_pos r.maxErrorExp
  have pos' := Nat.two_pow_pos r.digits
  have halves := two_pow_succ_le support
  have suffix : r.start = r.errorCell.low + r.start % 2 ^ r.maxErrorExp :=
    (Nat.div_add_mod' _ _).symm
  have high : r.errorCell.low ||| (2 ^ r.maxErrorExp - 1) =
      r.errorCell.low + 2 ^ r.maxErrorExp - 1 := by
    have joined := Nat.two_pow_add_eq_or_of_lt (show 2 ^ r.maxErrorExp - 1 < 2 ^ r.maxErrorExp by
      omega) r.errorCell.index
    have low : r.errorCell.low = 2 ^ r.maxErrorExp * r.errorCell.index := Nat.mul_comm _ _
    rw [low, ← joined]
    omega
  have limit : usizeSub (r.errorCell.low + 2 ^ r.maxErrorExp - 1) (2 ^ r.minSupportExp) =
      .ok (r.errorCell.low + 2 ^ r.maxErrorExp - 1 - 2 ^ r.minSupportExp) :=
    usizeSub_of_le (by omega)
  rw [Coverage.withinError]
  simp only [coverage, Nat.and_two_pow_sub_one_eq_mod, shifted_start, high]
  rw [prefixed, Checked.ok_bind, limit, Checked.ok_bind]
  by_cases first : r.NearStart
  · have starts : r.start < r.errorCell.low + 2 ^ r.minSupportExp := first
    rw [if_neg (by omega), if_pos (by omega), if_pos first]
    rfl
  · have past : ¬ r.start < r.errorCell.low + 2 ^ r.minSupportExp := first
    rw [if_neg first]
    by_cases last : r.NearStop
    · have ends : r.errorCell.low + 2 ^ r.maxErrorExp ≤ r.stop + 2 ^ r.minSupportExp := last
      have whole : r.errorCell.low + 2 ^ r.maxErrorExp - 1 = 2 ^ r.digits - 1 ↔
          r.errorCell.low + 2 ^ r.maxErrorExp = 2 ^ r.digits := by omega
      rw [if_neg (by omega), if_neg (by omega), if_pos (by omega), if_pos last]
      simp only [whole]
      rfl
    · have before : ¬ r.errorCell.low + 2 ^ r.maxErrorExp ≤ r.stop + 2 ^ r.minSupportExp := last
      rw [if_pos ⟨by omega, by omega⟩, if_neg last]

/-! The cells that cover the support. -/

/-- A cell that holds the numbers between two ends. -/
structure Spans (r : Request) (low high : ℕ) (q : Cell) : Prop where
  width : q.width ≤ r.maxErrorExp
  holds : ∀ x, low ≤ x → x ≤ high → q.Holds x
  close : r.Close q

/-- All oracles have as many digits as the cell needs. -/
def Needs (r : Request) (q : Cell) : Prop := r.ShortEnough → ∀ d ∈ r.others, q.width ≤ d

theorem errorCell_holds (r : Request) : r.errorCell.Holds r.start := Cell.holds_of _ _

/-- What is in the error's cell is close. -/
theorem close_of_error {q : Cell} (inside : ∀ x, q.Holds x → r.errorCell.Holds x) : r.Close q := by
  intro x holds
  have here := errorCell_holds_iff.mp (inside x holds)
  have own := errorCell_holds_iff.mp r.errorCell_holds
  have order := r.start_le_stop
  exact ⟨r.start, by omega, by omega, by omega, by omega⟩

theorem digits_le (r : Request) : r.digits ≤ r.fewest + 1 := by
  rw [digits]
  split <;> omega

/-- Only a cell with one digit more than the main oracle could be too large for some oracle. -/
theorem needs_of (valid : r.Valid) {q : Cell} (width : q.width ≤ r.maxErrorExp)
    (within : r.maxErrorExp ≤ r.digits)
    (least : r.maximizeCoverage = false → r.maxErrorExp = r.fewest + 1 →
      r.stop + 2 ^ r.minSupportExp < 2 ^ r.fewest → q.width ≤ r.fewest) : r.Needs q := by
  have longest := r.digits_le
  rintro (all | ⟨covers, below⟩) d listed
  · exact width.trans (all d listed)
  · have fewer := valid.least d listed
    by_cases longer : r.maxErrorExp = r.fewest + 1
    · have short := least covers longer below
      omega
    · omega

/-- With an error that has as many digits as are computed with, the error's cell is the first. -/
theorem errorCell_first (valid : r.Valid) (whole : r.maxErrorExp = r.digits) :
    r.errorCell.low = 0 := by
  have last := stop_lt_digits valid
  have order := r.start_le_stop
  have index : r.start / 2 ^ r.maxErrorExp = 0 := Nat.div_eq_of_lt (by rw [whole]; omega)
  rw [errorCell, Cell.of, Cell.low, index, Nat.zero_mul]

/-- The support is at most half of the error. -/
theorem powers (support : r.minSupportExp < r.maxErrorExp) :
    0 < 2 ^ r.minSupportExp ∧ 2 ^ r.minSupportExp ≤ 2 ^ (r.maxErrorExp - 1) ∧
      2 ^ r.maxErrorExp = 2 ^ (r.maxErrorExp - 1) + 2 ^ (r.maxErrorExp - 1) := by
  have half : r.maxErrorExp = r.maxErrorExp - 1 + 1 := by omega
  refine ⟨Nat.two_pow_pos _, Nat.pow_le_pow_right (by omega) (by omega), ?_⟩
  rw [half, pow_succ, Nat.add_sub_cancel]
  omega

theorem nearStart_stop (support : r.minSupportExp < r.maxErrorExp)
    (smaller : r.main.width < r.maxErrorExp) (first : r.NearStart) :
    r.stop + 2 ^ r.minSupportExp < r.errorCell.low + 2 ^ r.maxErrorExp := by
  have starts : r.start < r.errorCell.low + 2 ^ r.minSupportExp := first
  obtain ⟨_, within, power⟩ := powers support
  have ends := (interval_halves smaller).2 (by omega)
  omega

theorem nearStop_fewest (valid : r.Valid) (within : r.maxErrorExp ≤ r.digits) (last : r.NearStop) :
    r.maxErrorExp ≤ r.fewest := by
  have ends : r.errorCell.low + 2 ^ r.maxErrorExp ≤ r.stop + 2 ^ r.minSupportExp := last
  have longest := r.digits_le
  have below := stop_lt valid
  have support := two_pow_succ_le valid.support
  by_contra longer
  have whole : r.maxErrorExp = r.fewest + 1 := by omega
  rw [whole, pow_succ] at ends support
  omega

/-- The last cell is met at its end only when all oracles have the same digits. -/
theorem same_of_nearStop (valid : r.Valid) (within : r.maxErrorExp ≤ r.digits) (last : r.NearStop)
    (top : r.errorCell.low + 2 ^ r.maxErrorExp = 2 ^ r.digits) : r.Same := by
  have few := nearStop_fewest valid within last
  have below := stop_lt valid
  have order := r.start_le_stop
  have starts := r.errorCell_low_le
  have power : 2 ^ r.maxErrorExp ≤ 2 ^ r.fewest := Nat.pow_le_pow_right (by omega) few
  by_contra differ
  rw [digits, if_neg differ, pow_succ] at top
  omega

theorem errorCell_top (valid : r.Valid) (within : r.maxErrorExp ≤ r.digits) :
    r.errorCell.low + 2 ^ r.maxErrorExp ≤ 2 ^ r.digits := by
  have last := stop_lt_digits valid
  have order := r.start_le_stop
  have fits := fits_of (show r.start < 2 ^ r.digits by omega) within
  have split : 2 ^ r.digits = 2 ^ (r.digits - r.maxErrorExp) * 2 ^ r.maxErrorExp := by
    rw [← pow_add, Nat.sub_add_cancel within]
  have room := Nat.mul_le_mul_right (2 ^ r.maxErrorExp) (Nat.succ_le_of_lt fits.2)
  change (r.errorCell.index + 1) * 2 ^ r.maxErrorExp ≤
    2 ^ (r.digits - r.maxErrorExp) * 2 ^ r.maxErrorExp at room
  rw [Nat.add_mul, Nat.one_mul, ← split] at room
  exact room

theorem covering_eq (most least : Result (List ℕ)) : r.coverage.covering most least =
    if r.maximizeCoverage then most else least := rfl

theorem errorCell_spans (low high : ℕ) (holds : r.errorCell.low ≤ low)
    (holds' : high < r.errorCell.low + 2 ^ r.maxErrorExp) : r.Spans low high r.errorCell where
  width := Nat.le_refl _
  holds := by
    intro x above below
    rw [errorCell_holds_iff]
    omega
  close := close_of_error fun _ here => here

/-- The error's cell is taken when coverage is maximized. -/
theorem errorCell_covers (valid : r.Valid) (within : r.maxErrorExp ≤ r.digits)
    (covers : r.maximizeCoverage = true) {low high : ℕ} (starts : r.errorCell.low ≤ low)
    (ends : high < r.errorCell.low + 2 ^ r.maxErrorExp) (least : Result (List ℕ)) :
    ∃ q : Cell, r.coverage.covering (.ok (r.errorCell.path r.digits)) least =
        .ok (q.path r.digits) ∧ r.Spans low high q ∧ r.Needs q := by
  refine ⟨r.errorCell, ?_, errorCell_spans _ _ starts ends,
    needs_of valid (Nat.le_refl _) within fun other => ?_⟩
  · rw [covering_eq, if_pos covers]
  · rw [covers] at other
    cases other

/-- From the start of the error's cell to the end of the support. -/
theorem right_inside (valid : r.Valid) (within : r.maxErrorExp ≤ r.digits) (few : r.digits < 64)
    (smaller : r.main.width < r.maxErrorExp) (first : r.NearStart)
    (exact' : r.maximizeCoverage = false → Decomposes r.digits (r.stop + 2 ^ r.minSupportExp)) :
    ∃ q : Cell, r.coverage.covering (.ok (r.errorCell.path r.digits))
        (computeRightCoveringPrefix r.stop r.maxErrorExp (2 ^ r.minSupportExp) r.digits) =
          .ok (q.path r.digits) ∧
      r.Spans r.errorCell.low (r.stop + 2 ^ r.minSupportExp) q ∧ r.Needs q := by
  have ends := nearStart_stop valid.support smaller first
  have starts := r.errorCell_low_le
  have order := r.start_le_stop
  have pos := Nat.two_pow_pos r.minSupportExp
  cases covers : r.maximizeCoverage with
  | true => exact errorCell_covers valid within covers (Nat.le_refl _) ends _
  | false =>
      rw [covering_eq, covers, if_neg (by simp)]
      obtain ⟨q, computed, spans⟩ := coveringPrefix_starts (exact' covers) within
      have same : Cell.of r.maxErrorExp (r.stop + 2 ^ r.minSupportExp) = r.errorCell :=
        Cell.of_eq_of_holds (Cell.holds_iff.mpr ⟨by omega, ends⟩)
      have low := spans.low
      have high := spans.high
      rw [same] at low
      have sum : r.stop + 2 ^ r.minSupportExp < u64Limit := by
        have last := stop_lt_digits valid
        have power : 2 ^ r.digits ≤ 2 ^ 63 := Nat.pow_le_pow_right (by omega) (by omega)
        have support : 2 ^ r.minSupportExp ≤ 2 ^ 63 :=
          Nat.pow_le_pow_right (by omega) (by have := valid.support; omega)
        rw [u64Limit]
        omega
      refine ⟨q, ?_, ⟨spans.width, fun x above below => Cell.holds_iff.mpr ⟨by omega, by omega⟩,
        close_of_error fun x holds => ?_⟩, needs_of valid spans.width within
          fun _ longer below => ?_⟩
      · rw [computeRightCoveringPrefix, usizeAdd_of_lt sum, Checked.ok_bind, computed]
      · have meets : q.Holds r.errorCell.low := Cell.holds_iff.mpr ⟨by omega, by omega⟩
        exact Cell.Holds.wider spans.width meets r.errorCell_holds_low holds
      · have longest := r.digits_le
        have zero := errorCell_first valid (by omega)
        rcases Nat.eq_zero_or_pos q.width with none | some
        · omega
        · have least := spans.least (by omega)
          have power : 2 ^ (q.width - 1) < 2 ^ r.fewest := by omega
          have width := (Nat.pow_lt_pow_iff_right (show 1 < 2 by omega)).mp power
          omega

theorem sum_lt {a : ℕ} (few : r.digits < 64) (within : r.maxErrorExp ≤ r.digits)
    (below : a < 2 ^ r.digits) (b : ℕ) (small : b ≤ 2 ^ r.maxErrorExp) :
    a + b < u64Limit := by
  have power : 2 ^ r.digits ≤ 2 ^ 63 := Nat.pow_le_pow_right (by omega) (by omega)
  have power' : 2 ^ r.maxErrorExp ≤ 2 ^ 63 := Nat.pow_le_pow_right (by omega) (by omega)
  rw [u64Limit]
  omega

/-- From the start of the support to the end of the error's cell. -/
theorem left_inside (valid : r.Valid) (within : r.maxErrorExp ≤ r.digits) (past : ¬ r.NearStart)
    (last : r.NearStop)
    (exact' : r.maximizeCoverage = false → Decomposes r.digits (r.start - 2 ^ r.minSupportExp)) :
    ∃ q : Cell, r.coverage.covering (.ok (r.errorCell.path r.digits))
        (computeLeftCoveringPrefix r.start r.maxErrorExp (2 ^ r.minSupportExp) r.digits) =
          .ok (q.path r.digits) ∧
      r.Spans (r.start - 2 ^ r.minSupportExp) (r.errorCell.low + 2 ^ r.maxErrorExp - 1) q ∧
      r.Needs q := by
  have few := nearStop_fewest valid within last
  have above : r.errorCell.low + 2 ^ r.minSupportExp ≤ r.start := Nat.le_of_not_lt past
  have own := (errorCell_holds_iff.mp r.errorCell_holds).2
  obtain ⟨pos, _, _⟩ := powers valid.support
  cases covers : r.maximizeCoverage with
  | true => exact errorCell_covers valid within covers (by omega) (by omega) _
  | false =>
      rw [covering_eq, covers, if_neg (by simp)]
      obtain ⟨q, computed, spans⟩ := coveringPrefix_ends (exact' covers) within
      have inside : r.errorCell.Holds (r.start - 2 ^ r.minSupportExp) :=
        errorCell_holds_iff.mpr ⟨by omega, by omega⟩
      have same : Cell.of r.maxErrorExp (r.start - 2 ^ r.minSupportExp) = r.errorCell :=
        Cell.of_eq_of_holds inside
      have low := spans.low
      have high := spans.high
      rw [same] at high
      have holds : ∀ x, r.start - 2 ^ r.minSupportExp ≤ x →
          x ≤ r.errorCell.low + 2 ^ r.maxErrorExp - 1 → q.Holds x := fun x above below =>
        Cell.holds_iff.mpr ⟨by omega, by omega⟩
      refine ⟨q, ?_, ⟨spans.width, holds, close_of_error fun x here => ?_⟩,
        needs_of valid spans.width within fun _ longer => by omega⟩
      · rw [computeLeftCoveringPrefix, usizeSub_of_le (by omega), Checked.ok_bind, computed]
      · exact Cell.Holds.wider spans.width (holds r.start (by omega) (by omega))
          r.errorCell_holds here

/-- The support is inside of the error's cell. -/
theorem support_inside (valid : r.Valid) (within : r.maxErrorExp ≤ r.digits) (few : r.digits < 64)
    (past : ¬ r.NearStart) (before : ¬ r.NearStop)
    (exact' : r.maximizeCoverage = false → Decomposes r.digits (r.start - 2 ^ r.minSupportExp) ∧
      Decomposes r.digits (r.stop + 2 ^ r.minSupportExp)) :
    ∃ q : Cell, r.coverage.covering (.ok (r.errorCell.path r.digits))
        (computeMinSupportCoveringPrefix r.start r.stop (2 ^ r.minSupportExp) r.digits) =
          .ok (q.path r.digits) ∧
      r.Spans (r.start - 2 ^ r.minSupportExp) (r.stop + 2 ^ r.minSupportExp) q ∧ r.Needs q := by
  have above : r.errorCell.low + 2 ^ r.minSupportExp ≤ r.start := Nat.le_of_not_lt past
  have below : r.stop + 2 ^ r.minSupportExp < r.errorCell.low + 2 ^ r.maxErrorExp :=
    Nat.lt_of_not_le before
  have order := r.start_le_stop
  have last := stop_lt_digits valid
  obtain ⟨pos, half, power⟩ := powers valid.support
  cases covers : r.maximizeCoverage with
  | true => exact errorCell_covers valid within covers (by omega) below _
  | false =>
      rw [covering_eq, covers, if_neg (by simp)]
      have top := errorCell_top valid within
      have sum := sum_lt few within last (2 ^ r.minSupportExp) (by omega)
      obtain ⟨left, right⟩ := exact' covers
      obtain ⟨q, computed, short, first, second, least⟩ := computeMinSupportCoveringPrefix_cell
        (show 2 ^ r.minSupportExp ≤ r.start by omega) left sum right (by omega) (by omega)
      have errors : r.errorCell.Holds (r.start - 2 ^ r.minSupportExp) ∧
          r.errorCell.Holds (r.stop + 2 ^ r.minSupportExp) :=
        ⟨errorCell_holds_iff.mpr ⟨by omega, by omega⟩,
          errorCell_holds_iff.mpr ⟨by omega, below⟩⟩
      have width : q.width ≤ r.maxErrorExp := least r.errorCell within errors.1 errors.2
      refine ⟨q, computed, ⟨width, fun x low high =>
        first.between second low high, close_of_error fun x here =>
          Cell.Holds.wider width first errors.1 here⟩,
        needs_of valid width within fun _ longer small => ?_⟩
      have shared : (Cell.of r.fewest (r.start - 2 ^ r.minSupportExp)).Holds
          (r.stop + 2 ^ r.minSupportExp) := by
        rw [Cell.Holds, Cell.of, Nat.div_eq_of_lt small, Nat.div_eq_of_lt (by omega)]
      exact least (Cell.of r.fewest _) r.fewest_le_digits (Cell.holds_of _ _) shared

theorem pow_le_half {w m : ℕ} (least : w ≠ 0 → 2 ^ (w - 1) < 2 ^ (m - 1)) :
    2 ^ w ≤ 2 ^ (m - 1) := by
  refine Nat.pow_le_pow_right (by omega) ?_
  rcases Nat.eq_zero_or_pos w with none | wide
  · omega
  · have width := (Nat.pow_lt_pow_iff_right (show 1 < 2 by omega)).mp (least (by omega))
    omega

theorem divides_half : 2 ^ (r.maxErrorExp - 1) ∣ 2 ^ r.maxErrorExp :=
  Nat.pow_dvd_pow 2 (Nat.sub_le _ _)

theorem divides_low : 2 ^ r.maxErrorExp ∣ r.errorCell.low := ⟨r.errorCell.index, Nat.mul_comm _ _⟩

/-- From the start of the support to the end of the cell before the error's one. -/
theorem left_outside (valid : r.Valid) (within : r.maxErrorExp ≤ r.digits) (first : r.NearStart)
    (some : r.errorCell.low ≠ 0)
    (exact' : if r.maximizeCoverage then Decomposes r.digits (r.errorCell.low -
      2 ^ (r.maxErrorExp - 1)) else Decomposes r.digits (r.start - 2 ^ r.minSupportExp)) :
    ∃ q : Cell, r.coverage.covering r.halfBefore
        (computeLeftCoveringPrefix r.start r.maxErrorExp (2 ^ r.minSupportExp) r.digits) =
          .ok (q.path r.digits) ∧
      r.Spans (r.start - 2 ^ r.minSupportExp) (r.errorCell.low - 1) q := by
  have starts : r.start < r.errorCell.low + 2 ^ r.minSupportExp := first
  have own := r.errorCell_low_le
  have order := r.start_le_stop
  obtain ⟨pos, half, power⟩ := powers valid.support
  have whole : 2 ^ r.maxErrorExp ≤ r.errorCell.low :=
    Nat.le_of_dvd (Nat.pos_of_ne_zero some) divides_low
  rw [covering_eq]
  cases covers : r.maximizeCoverage with
  | true =>
      rw [covers, if_pos rfl] at exact'
      have halved : 2 ^ r.maxErrorExp / 2 = 2 ^ (r.maxErrorExp - 1) := by omega
      have low : (Cell.of (r.maxErrorExp - 1) (r.errorCell.low - 2 ^ (r.maxErrorExp - 1))).low =
          r.errorCell.low - 2 ^ (r.maxErrorExp - 1) :=
        Cell.low_of_dvd (Nat.dvd_sub (divides_half.trans divides_low) (Nat.dvd_refl _))
      have holds : ∀ x,
          (Cell.of (r.maxErrorExp - 1) (r.errorCell.low - 2 ^ (r.maxErrorExp - 1))).Holds x ↔
            r.errorCell.low - 2 ^ (r.maxErrorExp - 1) ≤ x ∧ x < r.errorCell.low := by
        intro x
        rw [Cell.holds_iff, low]
        change _ ∧ x < r.errorCell.low - 2 ^ (r.maxErrorExp - 1) + 2 ^ (r.maxErrorExp - 1) ↔ _
        omega
      refine ⟨Cell.of (r.maxErrorExp - 1) (r.errorCell.low - 2 ^ (r.maxErrorExp - 1)), ?_,
        Nat.sub_le _ _, fun x above below => (holds x).mpr ⟨by omega, by omega⟩, fun x here => ?_⟩
      · rw [if_pos rfl, halfBefore, halved, usizeSub_of_le (by omega), Checked.ok_bind,
          numToVec_cell exact' (by omega)]
      · have ends := (holds x).mp here
        exact ⟨r.start, by omega, by omega, by omega, by omega⟩
  | false =>
      rw [covers, if_neg (by simp)] at exact'
      obtain ⟨q, computed, spans⟩ := coveringPrefix_ends exact' within
      have low := spans.low
      have high := spans.high
      have before : (Cell.of r.maxErrorExp (r.start - 2 ^ r.minSupportExp)).low +
          2 ^ r.maxErrorExp = r.errorCell.low := by
        have place : (Cell.mk r.maxErrorExp (r.errorCell.index - 1)).low =
            r.errorCell.low - 2 ^ r.maxErrorExp := by
          rw [Cell.low, Cell.low, Nat.sub_mul, Nat.one_mul]
          rfl
        have holds : (Cell.mk r.maxErrorExp (r.errorCell.index - 1)).Holds
            (r.start - 2 ^ r.minSupportExp) := by
          rw [Cell.holds_iff, place]
          dsimp only
          omega
        have same := Cell.of_eq_of_holds holds
        rw [same, place]
        omega
      have narrow : 2 ^ q.width ≤ 2 ^ (r.maxErrorExp - 1) := by
        refine pow_le_half fun some => ?_
        have least := spans.least some
        have split : 2 ^ q.width = 2 * 2 ^ (q.width - 1) := by
          rw [← pow_succ', Nat.sub_add_cancel (Nat.pos_of_ne_zero some)]
        omega
      refine ⟨q, ?_, spans.width, fun x above below => Cell.holds_iff.mpr ⟨by omega, by omega⟩,
        fun x here => ?_⟩
      · rw [if_neg (by simp), computeLeftCoveringPrefix, usizeSub_of_le (by omega),
          Checked.ok_bind, computed]
      · have ends := Cell.holds_iff.mp here
        exact ⟨r.start, by omega, by omega, by omega, by omega⟩

/-- From the end of the error's cell to the end of the support. -/
theorem right_outside (valid : r.Valid) (within : r.maxErrorExp ≤ r.digits) (few : r.digits < 64)
    (smaller : r.main.width < r.maxErrorExp) (last : r.NearStop)
    (exact' : if r.maximizeCoverage then Decomposes r.digits (r.errorCell.low + 2 ^ r.maxErrorExp)
      else Decomposes r.digits (r.stop + 2 ^ r.minSupportExp)) :
    ∃ q : Cell, r.coverage.covering r.halfAfter
        (computeRightCoveringPrefix r.stop r.maxErrorExp (2 ^ r.minSupportExp) r.digits) =
          .ok (q.path r.digits) ∧
      r.Spans (r.errorCell.low + 2 ^ r.maxErrorExp) (r.stop + 2 ^ r.minSupportExp) q := by
  have ends : r.errorCell.low + 2 ^ r.maxErrorExp ≤ r.stop + 2 ^ r.minSupportExp := last
  have inside := (interval_halves smaller).1
  have order := r.start_le_stop
  have below := stop_lt_digits valid
  obtain ⟨pos, half, power⟩ := powers valid.support
  rw [covering_eq]
  cases covers : r.maximizeCoverage with
  | true =>
      rw [covers, if_pos rfl] at exact'
      have next : r.errorCell.low + 2 ^ r.maxErrorExp - 1 + 1 =
          r.errorCell.low + 2 ^ r.maxErrorExp := by omega
      have top := errorCell_top valid within
      have sum := @sum_lt r (r.errorCell.low + 2 ^ r.maxErrorExp - 1) few within (by omega) 1
        (by omega)
      have low : (Cell.of (r.maxErrorExp - 1) (r.errorCell.low + 2 ^ r.maxErrorExp)).low =
          r.errorCell.low + 2 ^ r.maxErrorExp :=
        Cell.low_of_dvd (Nat.dvd_add (divides_half.trans divides_low) divides_half)
      have holds : ∀ x, (Cell.of (r.maxErrorExp - 1) (r.errorCell.low + 2 ^ r.maxErrorExp)).Holds x ↔
          r.errorCell.low + 2 ^ r.maxErrorExp ≤ x ∧
            x < r.errorCell.low + 2 ^ r.maxErrorExp + 2 ^ (r.maxErrorExp - 1) := by
        intro x
        rw [Cell.holds_iff, low]
        rfl
      refine ⟨Cell.of (r.maxErrorExp - 1) (r.errorCell.low + 2 ^ r.maxErrorExp), ?_,
        Nat.sub_le _ _, fun x above below => (holds x).mpr ⟨by omega, by omega⟩, fun x here => ?_⟩
      · rw [if_pos rfl, halfAfter, usizeAdd_of_lt sum, Checked.ok_bind, next,
          numToVec_cell exact' (by omega)]
      · have bounds := (holds x).mp here
        exact ⟨r.stop, by omega, by omega, by omega, by omega⟩
  | false =>
      rw [covers, if_neg (by simp)] at exact'
      obtain ⟨q, computed, spans⟩ := coveringPrefix_starts exact' within
      have low := spans.low
      have high := spans.high
      have after : (Cell.of r.maxErrorExp (r.stop + 2 ^ r.minSupportExp)).low =
          r.errorCell.low + 2 ^ r.maxErrorExp := by
        have place : (Cell.mk r.maxErrorExp (r.errorCell.index + 1)).low =
            r.errorCell.low + 2 ^ r.maxErrorExp := by
          rw [Cell.low, Cell.low, Nat.add_mul, Nat.one_mul]
          rfl
        have holds : (Cell.mk r.maxErrorExp (r.errorCell.index + 1)).Holds
            (r.stop + 2 ^ r.minSupportExp) := by
          rw [Cell.holds_iff, place]
          dsimp only
          omega
        have same := Cell.of_eq_of_holds holds
        rw [same, place]
      have narrow : 2 ^ q.width ≤ 2 ^ (r.maxErrorExp - 1) := by
        refine pow_le_half fun some => ?_
        have least := spans.least some
        omega
      refine ⟨q, ?_, spans.width, fun x above below => Cell.holds_iff.mpr ⟨by omega, by omega⟩,
        fun x here => ?_⟩
      · have sum := sum_lt few within below (2 ^ r.minSupportExp) (by omega)
        rw [if_neg (by simp), computeRightCoveringPrefix, usizeAdd_of_lt sum, Checked.ok_bind,
          computed]
      · have bounds := Cell.holds_iff.mp here
        exact ⟨r.stop, by omega, by omega, by omega, by omega⟩

end Within

end P2PLending.Trie.Request
