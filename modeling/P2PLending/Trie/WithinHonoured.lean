import P2PLending.Trie.WithinError

/-! When a request is honoured whose interval is smaller than the error. -/

namespace P2PLending.Trie.Request

open Dlc (Result Fault u64Limit)

section Within
variable {r : Request}

theorem main_placed (valid : r.Valid) : Placed r.digits r.fewest r.others r.main where
  fits := main_fits valid r.fewest_le_digits
  room := by
    have own := (main_fits valid (Nat.le_refl r.fewest)).1
    rw [List.forall_mem_cons]
    exact ⟨own, fun d listed => own.trans (valid.least d listed)⟩

theorem digits_lt_limit (few : r.digits < 64) : r.digits < u64Limit := by
  rw [u64Limit]
  omega

/-- Combinations that all have the main cell. -/
theorem honoured_of_main (valid : r.Valid) {all : List (List (List ℕ))} {each : List Cell → Prop}
    (computed : r.combinations = .ok all)
    (listed : ∀ c, c ∈ all ↔ Combines r.fewest r.others r.main each c)
    (close : ∀ cells, each cells → ∀ q ∈ cells, r.Close q)
    (room : ∀ cells, each cells → ∀ q ∈ cells, ∀ d ∈ r.others, q.width ≤ d)
    (cover : ∀ v values, r.start ≤ v → v ≤ r.stop → r.Near v values →
      ∃ cells, each cells ∧ List.Forall₂ Cell.Holds cells values) : r.Honoured := by
  have own := (main_fits valid (Nat.le_refl r.fewest)).1
  refine @honoured_of_cells r all (fun m cells => m = r.main ∧ each cells) valid computed
    (fun c => ?_) ?_ ?_ fun v values above below near => ?_
  · rw [listed, combines_main_iff]
  · rintro m cells ⟨_, taken⟩
    exact close cells taken
  · rintro m cells ⟨rfl, taken⟩
    exact ⟨own, room cells taken⟩
  · obtain ⟨cells, taken, held⟩ := cover v values above below near
    exact ⟨r.main, cells, ⟨rfl, taken⟩, holds_main.mpr ⟨above, below⟩, held⟩

/-- One cell for all other oracles, with no more digits than each of them has. -/
theorem single_honoured (valid : r.Valid) (few : r.digits < 64) {q : Cell} {low high : ℕ}
    (same : r.combinations = r.coverage.single (q.path r.digits))
    (within : r.maxErrorExp ≤ r.digits) (spans : r.Spans low high q) (starts : low ≤ r.start)
    (ends : r.stop ≤ high) (room : ∀ d ∈ r.others, q.width ≤ d)
    (cover : ∀ v values, r.start ≤ v → v ≤ r.stop → r.Near v values →
      ∀ x ∈ values, low ≤ x ∧ x ≤ high) : r.Honoured := by
  have order := r.start_le_stop
  have placed := main_placed valid
  have first := spans.holds r.start starts (by omega)
  have last := spans.holds r.stop (by omega) ends
  have wider : r.main.width ≤ q.width := Cell.width_le first last
  have fits := last.fits (spans.width.trans within) (stop_lt_digits valid)
  have own := main_fits valid (Nat.le_refl r.fewest)
  have each : ∀ d ∈ r.others, q.Fits d := fun d listed =>
    last.fits (room d listed) (stop_lt_other valid listed)
  have computed : r.combinations = .ok [r.main.path r.fewest :: r.others.map q.path] := by
    have covering := singleCovering_ok fits placed.fits wider (digits_lt_limit few) each own
    rw [same, Coverage.single]
    simp only [coverage, covering, Checked.ok_bind]
    rfl
  refine @honoured_of_main r valid _ (fun cells => ∀ q' ∈ cells, q' = q) computed
    (fun c => ?_) (fun cells all q' listed => ?_) (fun cells all q' listed => ?_)
    fun v values above below near => ?_
  · rw [List.mem_singleton, eq_single_iff own each]
  · rw [all q' listed]
    exact spans.close
  · rw [all q' listed]
    exact room
  · obtain ⟨cells, all, held⟩ := exists_holds q q values fun x listed =>
      .inl (spans.holds x (cover v values above below near x listed).1
        (cover v values above below near x listed).2)
    exact ⟨cells, fun q' listed => (all q' listed).elim id id, held⟩

theorem not_complete_nil (valid : r.Valid) : ¬ r.Complete [] := by
  intro complete
  obtain ⟨d, listed⟩ := List.exists_mem_of_ne_nil _ valid.some
  have order := r.start_le_stop
  have small : ∀ d ∈ r.others, r.start < 2 ^ d := fun d listed =>
    order.trans_lt (stop_lt_other valid listed)
  obtain ⟨values, near, _⟩ := exists_near (v := r.start) listed (small d listed)
    ⟨Nat.le_add_right _ _, Nat.le_add_right _ _⟩ small
    ⟨Nat.le_add_right _ _, Nat.le_add_right _ _⟩
  obtain ⟨c, none, _⟩ :=
    complete r.start values ((under_iff valid).mpr ⟨Nat.le_refl _, order⟩) near
  cases none

/-- Two cells for the other oracles to choose from. -/
theorem double_honoured (valid : r.Valid) (few : r.digits < 64) {q q' : Cell}
    {low high low' high' : ℕ}
    (same : r.combinations = doubleCoveringPrefixCombinations (r.main.path r.digits)
      (q.path r.digits) (q'.path r.digits) (r.fewest :: r.others) r.main.width)
    (within : r.maxErrorExp ≤ r.fewest) (spans : r.Spans low high q)
    (spans' : r.Spans low' high' q') (fits : q.Fits r.digits) (fits' : q'.Fits r.digits)
    (fewer : r.others.length < 31)
    (cover : ∀ v values, r.start ≤ v → v ≤ r.stop → r.Near v values →
      ∀ x ∈ values, (low ≤ x ∧ x ≤ high) ∨ (low' ≤ x ∧ x ≤ high')) : r.Honoured := by
  have placed := main_placed valid
  have room : ∀ {q : Cell}, q.width ≤ r.maxErrorExp → ∀ d ∈ r.fewest :: r.others, q.width ≤ d := by
    intro q width
    rw [List.forall_mem_cons]
    exact ⟨width.trans within, fun d listed =>
      (width.trans within).trans (valid.least d listed)⟩
  obtain ⟨all, covering, made⟩ := doubleCovering_cells fewer (digits_lt_limit few) placed
    ⟨fits, room spans.width⟩ ⟨fits', room spans'.width⟩
  refine @honoured_of_main r valid _ (fun cells => ∀ c ∈ cells, c = q ∨ c = q')
    (same.trans covering) made (fun cells all c listed => ?_) (fun cells all c listed d listed' => ?_)
    fun v values above below near => ?_
  · rcases all c listed with rfl | rfl
    · exact spans.close
    · exact spans'.close
  · rcases all c listed with rfl | rfl
    · exact room spans.width d (List.mem_cons_of_mem _ listed')
    · exact room spans'.width d (List.mem_cons_of_mem _ listed')
  · exact exists_holds q q' values fun x listed =>
      (cover v values above below near x listed).imp
        (fun inside => spans.holds x inside.1 inside.2)
        fun inside => spans'.holds x inside.1 inside.2

theorem near_bounds {v : ℕ} {values : List ℕ} (above : r.start ≤ v) (below : v ≤ r.stop)
    (near : r.Near v values) :
    ∀ x ∈ values, r.start - 2 ^ r.minSupportExp ≤ x ∧ x ≤ r.stop + 2 ^ r.minSupportExp := by
  intro x listed
  obtain ⟨_, _, _, support⟩ := near.each x listed
  omega

/-- The support reaches past the start of the error's cell. -/
theorem nearStart_honoured (valid : r.Valid) (few : r.digits < 64)
    (smaller : r.main.width < r.maxErrorExp) (within : r.maxErrorExp ≤ r.digits)
    (first : r.NearStart) (short : r.ShortEnough) (fewer : r.Chooses → r.others.length < 31)
    (exact' : r.Exact) : r.Honoured := by
  have computed := combinations_eq valid few (by omega)
  have low : Decomposes r.digits r.errorCell.low := exact' _ (by simp [taken, smaller])
  have ends := nearStart_stop valid.support smaller first
  have starts := r.errorCell_low_le
  have order := r.start_le_stop
  rw [if_pos smaller, withinError_eq valid.support (errorPrefix_cell within low), if_pos first]
    at computed
  obtain ⟨q, right, spans, needs⟩ := right_inside valid within few smaller first fun covers =>
    exact' _ (by simp [taken, smaller, first, covers])
  rw [right, Checked.ok_bind] at computed
  by_cases zero : r.errorCell.low = 0
  · rw [if_pos zero] at computed
    refine single_honoured valid few computed within spans starts (Nat.le_add_right _ _)
      (needs short) fun v values above below near x listed => ?_
    have bounds := near_bounds above below near x listed
    omega
  · obtain ⟨q', left, spans'⟩ := left_outside valid within first zero (by
      split
      next covers => exact exact' _ (by simp [taken, smaller, first, covers, zero])
      next covers => exact exact' _ (by simp [taken, smaller, first, covers, zero]))
    rw [if_neg zero, left, Checked.ok_bind] at computed
    have pos := Nat.two_pow_pos r.minSupportExp
    have below := stop_lt_digits valid
    have longest := r.digits_le
    have room : r.maxErrorExp ≤ r.fewest := by
      by_contra longer
      exact zero (errorCell_first valid (by omega))
    have last := spans'.holds (r.errorCell.low - 1) (by
      have starts' : r.start < r.errorCell.low + 2 ^ r.minSupportExp := first
      omega) (Nat.le_refl _)
    refine double_honoured valid few computed room spans spans'
      ((spans.holds r.start (by omega) (by omega)).fits (spans.width.trans within) (by omega))
      (last.fits (spans'.width.trans within) (by omega)) (fewer (.inl ⟨first, zero⟩))
      fun v values above below near x listed => ?_
    have bounds := near_bounds above below near x listed
    omega

/-- The support reaches past the end of the error's cell. -/
theorem nearStop_honoured (valid : r.Valid) (few : r.digits < 64)
    (smaller : r.main.width < r.maxErrorExp) (within : r.maxErrorExp ≤ r.digits)
    (past : ¬ r.NearStart) (last : r.NearStop) (short : r.ShortEnough)
    (fewer : r.Chooses → r.others.length < 31) (exact' : r.Exact) : r.Honoured := by
  have computed := combinations_eq valid few (by omega)
  have low : Decomposes r.digits r.errorCell.low := exact' _ (by simp [taken, smaller])
  have inside := (interval_halves smaller).1
  have order := r.start_le_stop
  have below := stop_lt_digits valid
  have top := errorCell_top valid within
  have room := nearStop_fewest valid within last
  rw [if_pos smaller, withinError_eq valid.support (errorPrefix_cell within low), if_neg past,
    if_pos last] at computed
  obtain ⟨q, left, spans, needs⟩ := left_inside valid within past last fun covers =>
    exact' _ (by simp [taken, smaller, past, last, covers])
  rw [left, Checked.ok_bind] at computed
  by_cases whole : r.errorCell.low + 2 ^ r.maxErrorExp = 2 ^ r.digits
  · rw [if_pos whole] at computed
    refine single_honoured valid few computed within spans (Nat.sub_le _ _) (by omega)
      (needs short) fun v values above below near x listed => ?_
    have same := same_of_nearStop valid within last whole
    have bounds := near_bounds above below near x listed
    obtain ⟨d, member, small, _⟩ := near.each x listed
    rw [whole, digits, if_pos same]
    rw [same d member] at small
    omega
  · obtain ⟨q', right, spans'⟩ := right_outside valid within few smaller last (by
      split
      next covers => exact exact' _ (by simp [taken, smaller, past, last, covers, whole])
      next covers => exact exact' _ (by simp [taken, smaller, past, last, covers, whole]))
    rw [if_neg whole, right, Checked.ok_bind] at computed
    have ends : r.errorCell.low + 2 ^ r.maxErrorExp ≤ r.stop + 2 ^ r.minSupportExp := last
    have first := spans'.holds (r.errorCell.low + 2 ^ r.maxErrorExp) (Nat.le_refl _) ends
    refine double_honoured valid few computed room spans spans'
      ((spans.holds r.stop (by omega) (by omega)).fits (spans.width.trans within) below)
      (first.fits (spans'.width.trans within) (by omega)) (fewer (.inr ⟨last, whole⟩))
      fun v values above below near x listed => ?_
    have bounds := near_bounds above below near x listed
    omega

/-- The support is inside of the error's cell. -/
theorem inside_honoured (valid : r.Valid) (few : r.digits < 64)
    (smaller : r.main.width < r.maxErrorExp) (within : r.maxErrorExp ≤ r.digits)
    (past : ¬ r.NearStart) (before : ¬ r.NearStop) (short : r.ShortEnough) (exact' : r.Exact) :
    r.Honoured := by
  have computed := combinations_eq valid few (by omega)
  have low : Decomposes r.digits r.errorCell.low := exact' _ (by simp [taken, smaller])
  rw [if_pos smaller, withinError_eq valid.support (errorPrefix_cell within low), if_neg past,
    if_neg before] at computed
  obtain ⟨q, support, spans, needs⟩ := support_inside valid within few past before fun covers =>
    ⟨exact' _ (by simp [taken, smaller, past, before, covers]),
      exact' _ (by simp [taken, smaller, past, before, covers])⟩
  rw [support, Checked.ok_bind] at computed
  exact single_honoured valid few computed within spans (Nat.sub_le _ _) (Nat.le_add_right _ _)
    (needs short) fun v values above below near => near_bounds above below near

theorem within_honoured (valid : r.Valid) (few : r.digits < 64)
    (smaller : r.main.width < r.maxErrorExp) (allowed : r.WithinHonoured) (exact' : r.Exact) :
    r.Honoured := by
  obtain ⟨within, short, fewer⟩ := allowed
  by_cases first : r.NearStart
  · exact nearStart_honoured valid few smaller within first short fewer exact'
  · by_cases last : r.NearStop
    · exact nearStop_honoured valid few smaller within first last short fewer exact'
    · exact inside_honoured valid few smaller within first last short exact'

/-! What is needed for it, whatever digits are computed. -/

/-- An error of more digits than are computed with is refused. -/
theorem prefixed_of_combinations (valid : r.Valid) (smaller : r.main.width < r.maxErrorExp)
    {all : List (List (List ℕ))} (computed : r.combinations = .ok all) :
    r.maxErrorExp ≤ r.digits ∧ ∃ y < 2 ^ r.digits,
      numToVec r.errorCell.low r.digits r.maxErrorExp 2 =
        .ok ((Cell.of r.maxErrorExp y).path r.digits) := by
  obtain ⟨few, error⟩ := few_of_combinations computed
  rw [combinations_eq valid few error, if_pos smaller, Coverage.withinError] at computed
  obtain ⟨pre, prefixed, _⟩ := Checked.bind_eq_ok.mp computed
  simp only [coverage, shifted_start] at prefixed
  obtain ⟨y, below, within, rfl⟩ := numToVec_within prefixed
  exact ⟨within, y, below, prefixed⟩

/-- Two cells to choose from are too many for more than thirty other oracles. -/
theorem few_of_chooses (valid : r.Valid) (smaller : r.main.width < r.maxErrorExp)
    (honoured : r.Honoured) (two : r.Chooses) : r.others.length < 31 := by
  obtain ⟨all, computed, complete, _⟩ := honoured
  obtain ⟨few, error⟩ := few_of_combinations computed
  obtain ⟨_, _, _, prefixed⟩ := prefixed_of_combinations valid smaller computed
  rw [combinations_eq valid few error, if_pos smaller, withinError_eq valid.support prefixed]
    at computed
  by_contra many
  have none : ∀ {left right : List ℕ}, doubleCoveringPrefixCombinations (r.main.path r.digits) left
      right (r.fewest :: r.others) r.main.width ≠ .ok all := by
    intro left right covering
    rw [doubleCovering_many (Nat.le_of_not_lt many) covering] at complete
    exact not_complete_nil valid complete
  rcases two with ⟨first, some⟩ | ⟨last, some⟩
  · rw [if_pos first] at computed
    obtain ⟨right, _, rest⟩ := Checked.bind_eq_ok.mp computed
    rw [if_neg some] at rest
    obtain ⟨left, _, covering⟩ := Checked.bind_eq_ok.mp rest
    exact none covering
  · have past : ¬ r.NearStart := by
      intro first
      have ends : r.errorCell.low + 2 ^ r.maxErrorExp ≤ r.stop + 2 ^ r.minSupportExp := last
      have before := nearStart_stop valid.support smaller first
      omega
    rw [if_neg past, if_pos last] at computed
    obtain ⟨left, _, rest⟩ := Checked.bind_eq_ok.mp computed
    rw [if_neg some] at rest
    obtain ⟨right, _, covering⟩ := Checked.bind_eq_ok.mp rest
    exact none covering

/-- A cell that reaches past the numbers of the main oracle's digits. -/
def TooLarge (r : Request) (q : Cell) : Prop :=
  q.width ≤ r.digits ∧ ∃ x < 2 ^ r.digits, q.Holds x ∧ (x < 2 ^ r.fewest → r.fewest < q.width)

theorem single_refused (valid : r.Valid) (few : r.digits < 64) {q : Cell} (large : r.TooLarge q)
    (listed : r.fewest ∈ r.others) {all : List (List (List ℕ))} :
    r.coverage.single (q.path r.digits) ≠ .ok all := by
  obtain ⟨width, x, below, holds, beyond⟩ := large
  intro single
  obtain ⟨combination, covering, _⟩ := Checked.bind_eq_ok.mp single
  have fits := singleCovering_fits (holds.fits width below) (main_fits valid r.fewest_le_digits)
    (digits_lt_limit few) covering r.fewest listed
  exact Nat.not_lt.mpr fits.1 (beyond (fits.lt holds))

theorem right_too_large (few : r.digits < 64) (within : r.maxErrorExp ≤ r.digits) {q : Cell}
    (own : r.TooLarge q)
    (enough : r.maximizeCoverage = false → 2 ^ r.fewest ≤ r.stop + 2 ^ r.minSupportExp)
    {p : List ℕ} (made : r.coverage.covering (.ok (q.path r.digits))
      (computeRightCoveringPrefix r.stop r.maxErrorExp (2 ^ r.minSupportExp) r.digits) = .ok p) :
    ∃ q : Cell, p = q.path r.digits ∧ r.TooLarge q := by
  rw [covering_eq] at made
  cases covers : r.maximizeCoverage with
  | true =>
      rw [covers, if_pos rfl] at made
      cases made
      exact ⟨q, rfl, own⟩
  | false =>
      rw [covers, if_neg (by simp), computeRightCoveringPrefix] at made
      obtain ⟨_, added, made⟩ := Checked.bind_eq_ok.mp made
      obtain ⟨_, rfl⟩ := Checked.add_eq_ok.mp added
      obtain ⟨_, decomposed, _⟩ := Checked.bind_eq_ok.mp made
      obtain ⟨x, small, digits, least⟩ := exists_decomposed decomposed
      obtain ⟨q, same, starts⟩ := coveringPrefix_starts digits within
      rw [same] at made
      cases made
      have holds : q.Holds x :=
        Cell.holds_iff.mpr ⟨starts.low.trans_le (Cell.low_le _ _), starts.high⟩
      have above := least r.fewest (by have := r.fewest_le_digits; omega) (enough covers)
      exact ⟨q, rfl, starts.width.trans within, x, small, holds, fun less => by omega⟩

theorem support_too_large (few : r.digits < 64) {q : Cell} (own : r.TooLarge q)
    (enough : r.maximizeCoverage = false → 2 ^ r.fewest ≤ r.stop + 2 ^ r.minSupportExp)
    {p : List ℕ} (made : r.coverage.covering (.ok (q.path r.digits))
      (computeMinSupportCoveringPrefix r.start r.stop (2 ^ r.minSupportExp) r.digits) = .ok p) :
    ∃ q : Cell, p = q.path r.digits ∧ r.TooLarge q := by
  rw [covering_eq] at made
  cases covers : r.maximizeCoverage with
  | true =>
      rw [covers, if_pos rfl] at made
      cases made
      exact ⟨q, rfl, own⟩
  | false =>
      rw [covers, if_neg (by simp)] at made
      obtain ⟨_, subtracted, further⟩ := Checked.bind_eq_ok.mp made
      obtain ⟨left, rfl⟩ := Checked.sub_eq_ok.mp subtracted
      obtain ⟨_, added, further⟩ := Checked.bind_eq_ok.mp further
      obtain ⟨sum, rfl⟩ := Checked.add_eq_ok.mp added
      obtain ⟨_, decomposed, further⟩ := Checked.bind_eq_ok.mp further
      obtain ⟨_, decomposed', _⟩ := Checked.bind_eq_ok.mp further
      obtain ⟨_, small, digits, _⟩ := exists_decomposed decomposed
      obtain ⟨x, small', digits', least⟩ := exists_decomposed decomposed'
      obtain ⟨q, same, width, _, holds, _⟩ :=
        computeMinSupportCoveringPrefix_cell left digits sum digits' small small'
      rw [same] at made
      cases made
      have above := least r.fewest (by have := r.fewest_le_digits; omega) (enough covers)
      exact ⟨q, rfl, width, x, small', holds, fun less => by omega⟩

/-- A cell that is too large for the digits of some oracle is refused. -/
theorem short_of_combinations (valid : r.Valid) (smaller : r.main.width < r.maxErrorExp)
    {all : List (List (List ℕ))} (computed : r.combinations = .ok all) : r.ShortEnough := by
  obtain ⟨few, error⟩ := few_of_combinations computed
  obtain ⟨within, y, below, prefixed⟩ := prefixed_of_combinations valid smaller computed
  have longest := r.digits_le
  by_contra long
  rw [ShortEnough, not_or] at long
  obtain ⟨shorter, beyond⟩ := long
  push Not at shorter
  obtain ⟨d, listed, less⟩ := shorter
  have fewer := valid.least d listed
  have same : d = r.fewest := by omega
  rw [same] at listed
  have whole : r.fewest < r.maxErrorExp := by omega
  have zero := errorCell_first valid (show r.maxErrorExp = r.digits by omega)
  have before : ¬ r.NearStop := fun last =>
    Nat.not_le.mpr whole (nearStop_fewest valid within last)
  have own : r.TooLarge (Cell.of r.maxErrorExp y) :=
    ⟨within, y, below, Cell.holds_of _ _, fun _ => whole⟩
  have enough : r.maximizeCoverage = false → 2 ^ r.fewest ≤ r.stop + 2 ^ r.minSupportExp :=
    fun covers => Nat.le_of_not_lt fun small => beyond ⟨covers, small⟩
  rw [combinations_eq valid few error, if_pos smaller, withinError_eq valid.support prefixed]
    at computed
  by_cases first : r.NearStart
  · rw [if_pos first] at computed
    obtain ⟨right, made, single⟩ := Checked.bind_eq_ok.mp computed
    rw [if_pos zero] at single
    obtain ⟨q, rfl, large⟩ := right_too_large few within own enough made
    exact single_refused valid few large listed single
  · rw [if_neg first, if_neg before] at computed
    obtain ⟨support, made, single⟩ := Checked.bind_eq_ok.mp computed
    obtain ⟨q, rfl, large⟩ := support_too_large few own enough made
    exact single_refused valid few large listed single

theorem within_needed (valid : r.Valid) (smaller : r.main.width < r.maxErrorExp)
    (honoured : r.Honoured) : r.WithinHonoured := by
  obtain ⟨all, computed, _⟩ := id honoured
  exact ⟨(prefixed_of_combinations valid smaller computed).1,
    short_of_combinations valid smaller computed, few_of_chooses valid smaller honoured⟩

end Within

end P2PLending.Trie.Request
