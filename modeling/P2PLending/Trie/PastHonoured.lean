import P2PLending.Trie.WithinHonoured

/-! Requests whose interval is at least as large as the error. The interval is covered with itself,
and each of its ends with the values that lie past it. -/

namespace P2PLending.Trie.Request

open Dlc (Result Fault u64Limit)

/-! The cells at the ends of the interval, and next to them. -/

def first (r : Request) : Cell := Cell.of r.step r.start

def previous (r : Request) : Cell := Cell.of r.step (r.start - 2 ^ r.step)

def last (r : Request) : Cell := Cell.of r.step (r.stop + 1 - 2 ^ r.step)

def next (r : Request) : Cell := Cell.of r.step (r.stop + 1)

/-- The cells of a combination: those of the interval, or of one end of it with the cell beside
for one of the other oracles at least. -/
def Beside (r : Request) (m : Cell) (cells : List Cell) : Prop :=
  (m = r.main ∧ ∀ q ∈ cells, q = r.main) ∨
    (r.start ≠ 0 ∧ m = r.first ∧ (∀ q ∈ cells, q = r.first ∨ q = r.previous) ∧
      r.previous ∈ cells) ∨
    (r.stop + 1 ≠ 2 ^ r.digits ∧ m = r.last ∧ (∀ q ∈ cells, q = r.last ∨ q = r.next) ∧
      r.next ∈ cells)

section Past
variable {r : Request}

theorem step_lt (valid : r.Valid) : r.step < r.maxErrorExp := by
  have support := valid.support
  rw [step]
  split
  next => omega
  next => exact support

theorem support_le_step (valid : r.Valid) : r.minSupportExp ≤ r.step := by
  have support := valid.support
  rw [step]
  split
  next => omega
  next => exact Nat.le_refl _

/-- What the interval and its ends have to do with each other. -/
structure Ends (r : Request) : Prop where
  support : 2 ^ r.minSupportExp ≤ 2 ^ r.step
  error : 2 * 2 ^ r.step ≤ 2 ^ r.maxErrorExp
  interval : r.start + 2 * 2 ^ r.step ≤ r.stop + 1
  room : r.start ≠ 0 → 2 ^ r.step ≤ r.start
  pos : 0 < 2 ^ r.minSupportExp
  width : r.step ≤ r.fewest
  first : ∀ x, r.first.Holds x ↔ r.start ≤ x ∧ x < r.start + 2 ^ r.step
  previous : r.start ≠ 0 → ∀ x, r.previous.Holds x ↔ r.start ≤ x + 2 ^ r.step ∧ x < r.start
  last : ∀ x, r.last.Holds x ↔ r.stop < x + 2 ^ r.step ∧ x ≤ r.stop
  next : ∀ x, r.next.Holds x ↔ r.stop < x ∧ x ≤ r.stop + 2 ^ r.step

theorem ends (valid : r.Valid) (larger : r.maxErrorExp ≤ r.main.width) : r.Ends := by
  have smaller := step_lt valid
  have within := (main_fits valid (Nat.le_refl r.fewest)).1
  have add := r.start_add
  have divides : 2 ^ r.step ∣ 2 ^ r.main.width := Nat.pow_dvd_pow 2 (by omega)
  have starts : 2 ^ r.step ∣ r.start := divides.trans ⟨r.main.index, Nat.mul_comm _ _⟩
  have stops : 2 ^ r.step ∣ r.stop + 1 := add ▸ Nat.dvd_add starts divides
  have wide := two_pow_succ_le (show r.step < r.main.width by omega)
  have room : r.start ≠ 0 → 2 ^ r.step ≤ r.start := fun some =>
    Nat.le_of_dvd (Nat.pos_of_ne_zero some) starts
  have holds : ∀ {a : ℕ}, 2 ^ r.step ∣ a → ∀ x, (Cell.of r.step a).Holds x ↔
      a ≤ x ∧ x < a + 2 ^ r.step := by
    intro a divided x
    rw [Cell.holds_iff, Cell.low_of_dvd divided]
    rfl
  refine ⟨Nat.pow_le_pow_right (by omega) (support_le_step valid), two_pow_succ_le smaller,
    by omega, room, Nat.two_pow_pos _, by omega, holds starts, fun some x => ?_, fun x => ?_,
    fun x => ?_⟩
  · rw [previous, holds (Nat.dvd_sub starts (Nat.dvd_refl _))]
    have below := room some
    omega
  · rw [last, holds (Nat.dvd_sub stops (Nat.dvd_refl _))]
    omega
  · rw [next, holds stops]
    omega

/-! What is computed. -/

theorem pastError_eq (valid : r.Valid) :
    r.coverage.pastError (2 ^ r.maxErrorExp / 2) (2 ^ r.minSupportExp) = (do
      let before ← r.coverage.before (2 ^ r.step) r.step
      let same ← r.coverage.single (r.main.path r.digits)
      let after ← r.coverage.after (2 ^ r.step) r.step
      return before ++ same ++ after) := by
  have support := valid.support
  obtain ⟨_, _, power⟩ := powers support
  have halved : 2 ^ r.maxErrorExp / 2 = 2 ^ (r.maxErrorExp - 1) := by omega
  rw [Coverage.pastError, halved]
  cases covers : r.maximizeCoverage with
  | true =>
      simp only [step, coverage, covers, if_true]
  | false =>
      simp only [step, coverage, covers]
      rfl

/-- One end of the interval with the cell beside. -/
theorem beside_cells (valid : r.Valid) (few : r.digits < 64) (fewer : r.others.length < 31)
    (ends : r.Ends) {own other : ℕ} (inside : own ≤ r.stop) (below : other < 2 ^ r.digits)
    (differ : Cell.of r.step own ≠ Cell.of r.step other) (exact' : Decomposes r.digits own)
    (exact'' : Decomposes r.digits other) :
    ∃ combinations, r.coverage.beside own other r.step = .ok combinations ∧
      ∀ c, c ∈ combinations ↔ Combines r.fewest r.others (Cell.of r.step own)
        (fun cells => (∀ q ∈ cells, q = Cell.of r.step own ∨ q = Cell.of r.step other) ∧
          Cell.of r.step other ∈ cells) c := by
  have width := ends.width
  have within := width.trans r.fewest_le_digits
  have room : ∀ d ∈ r.fewest :: r.others, r.step ≤ d := by
    rw [List.forall_mem_cons]
    exact ⟨width, fun d listed => width.trans (valid.least d listed)⟩
  have small : ∀ d ∈ r.fewest :: r.others, own < 2 ^ d := by
    rw [List.forall_mem_cons]
    exact ⟨inside.trans_lt (stop_lt valid), fun d listed =>
      inside.trans_lt (stop_lt_other valid listed)⟩
  have suffix : usizeSub r.digits ((Cell.of r.step own).path r.digits).length = .ok r.step := by
    rw [length_path, usizeSub_of_le (Nat.sub_le _ _)]
    exact congrArg Except.ok (Nat.sub_sub_self within)
  have restricted := doubleCoveringRestricted_cells fewer (digits_lt_limit few)
    ⟨fits_of (inside.trans_lt (stop_lt_digits valid)) within, room⟩ ⟨fits_of below within, room⟩
    (fun d listed => fits_of (small d listed) (room d listed)) differ
  rw [Coverage.beside]
  simp only [coverage]
  rw [numToVec_cell exact' within, Checked.ok_bind, numToVec_cell exact'' within, Checked.ok_bind,
    suffix, Checked.ok_bind]
  exact restricted

theorem before_cells (valid : r.Valid) (few : r.digits < 64) (ends : r.Ends)
    (fewer : r.start ≠ 0 → r.others.length < 31)
    (exact' : r.start ≠ 0 → Decomposes r.digits r.start ∧
      Decomposes r.digits (r.start - 2 ^ r.step)) :
    ∃ combinations, r.coverage.before (2 ^ r.step) r.step = .ok combinations ∧
      ∀ c, c ∈ combinations ↔ Combines r.fewest r.others r.first (fun cells => r.start ≠ 0 ∧
        (∀ q ∈ cells, q = r.first ∨ q = r.previous) ∧ r.previous ∈ cells) c := by
  have order := r.start_le_stop
  have below := stop_lt_digits valid
  rw [Coverage.before]
  by_cases zero : r.start = 0
  · refine ⟨[], if_pos zero, fun c => iff_of_false List.not_mem_nil ?_⟩
    rintro ⟨_, ⟨some, _⟩, _⟩
    exact some zero
  · have own := (ends.first r.start).mpr ⟨Nat.le_refl _, Nat.lt_add_of_pos_right (Nat.two_pow_pos _)⟩
    have differ : r.first ≠ r.previous := by
      intro same
      rw [same] at own
      exact Nat.lt_irrefl _ ((ends.previous zero _).mp own).2
    obtain ⟨combinations, computed, made⟩ := beside_cells valid few (fewer zero) ends order
      ((Nat.sub_le _ _).trans_lt (order.trans_lt below)) differ (exact' zero).1 (exact' zero).2
    refine ⟨combinations, ?_, fun c => ?_⟩
    · have other : ¬ r.coverage.start = 0 := zero
      rw [if_neg other]
      simp only [coverage] at computed ⊢
      rw [usizeSub_of_le (ends.room zero), Checked.ok_bind]
      exact computed
    · simp only [zero, ne_eq, not_false_eq_true, true_and]
      exact made c

theorem after_cells (valid : r.Valid) (few : r.digits < 64) (ends : r.Ends)
    (fewer : r.stop + 1 ≠ 2 ^ r.digits → r.others.length < 31)
    (exact' : r.stop + 1 ≠ 2 ^ r.digits → Decomposes r.digits (r.stop + 1 - 2 ^ r.step) ∧
      Decomposes r.digits (r.stop + 1)) :
    ∃ combinations, r.coverage.after (2 ^ r.step) r.step = .ok combinations ∧
      ∀ c, c ∈ combinations ↔ Combines r.fewest r.others r.last (fun cells =>
        r.stop + 1 ≠ 2 ^ r.digits ∧ (∀ q ∈ cells, q = r.last ∨ q = r.next) ∧
          r.next ∈ cells) c := by
  have below := stop_lt_digits valid
  have interval := ends.interval
  have pos := Nat.two_pow_pos r.step
  rw [Coverage.after]
  have whole : r.stop = 2 ^ r.digits - 1 ↔ r.stop + 1 = 2 ^ r.digits := by omega
  by_cases top : r.stop + 1 = 2 ^ r.digits
  · refine ⟨[], if_pos (whole.mpr top), fun c => iff_of_false List.not_mem_nil ?_⟩
    rintro ⟨_, ⟨some, _⟩, _⟩
    exact some top
  · have own := (ends.last r.stop).mpr ⟨Nat.lt_add_of_pos_right pos, Nat.le_refl _⟩
    have differ : r.last ≠ r.next := by
      intro same
      rw [same] at own
      exact Nat.lt_irrefl _ ((ends.next _).mp own).1
    obtain ⟨combinations, computed, made⟩ := beside_cells valid few (fewer top) ends
      (show r.stop + 1 - 2 ^ r.step ≤ r.stop by omega)
      (show r.stop + 1 < 2 ^ r.digits by omega) differ (exact' top).1 (exact' top).2
    have power : 2 ^ r.digits ≤ 2 ^ 63 := Nat.pow_le_pow_right (by omega) (by omega)
    have sum : r.stop + 1 < u64Limit := by
      rw [u64Limit]
      omega
    have sum' : r.stop - 2 ^ r.step + 1 < u64Limit := by omega
    have back : r.stop - 2 ^ r.step + 1 = r.stop + 1 - 2 ^ r.step := by omega
    refine ⟨combinations, ?_, fun c => ?_⟩
    · have other : ¬ r.coverage.stop = r.coverage.maxNum := fun same => top (whole.mp same)
      rw [if_neg other]
      simp only [coverage] at computed ⊢
      rw [usizeSub_of_le (by omega), Checked.ok_bind, usizeAdd_of_lt sum', Checked.ok_bind,
        usizeAdd_of_lt sum, Checked.ok_bind, back]
      exact computed
    · simp only [top, ne_eq, not_false_eq_true, true_and]
      exact made c

theorem main_single (valid : r.Valid) (few : r.digits < 64) :
    r.coverage.single (r.main.path r.digits) =
      .ok [r.main.path r.fewest :: r.others.map r.main.path] := by
  have fits := main_fits valid r.fewest_le_digits
  have covering := singleCovering_ok fits fits (Nat.le_refl _) (digits_lt_limit few)
    (fun d listed => main_fits valid (valid.least d listed)) (main_fits valid (Nat.le_refl r.fewest))
  rw [Coverage.single]
  simp only [coverage, covering, Checked.ok_bind]
  rfl

theorem eq_main_iff (valid : r.Valid) {c : List (List ℕ)} :
    c = r.main.path r.fewest :: r.others.map r.main.path ↔
      Combines r.fewest r.others r.main (fun cells => ∀ q ∈ cells, q = r.main) c :=
  eq_single_iff (main_fits valid (Nat.le_refl r.fewest)) fun d listed =>
    main_fits valid (valid.least d listed)

/-- The combinations are those of the interval, and of its ends with the cells beside. -/
theorem past_cells (valid : r.Valid) (few : r.digits < 64) (larger : r.maxErrorExp ≤ r.main.width)
    (exact' : r.Exact) (fewer : r.start ≠ 0 ∨ r.stop + 1 ≠ 2 ^ r.digits → r.others.length < 31) :
    ∃ all, r.combinations = .ok all ∧
      ∀ c, c ∈ all ↔ ∃ m, Combines r.fewest r.others m (r.Beside m) c := by
  have ends := ends valid larger
  have width := (main_fits valid r.fewest_le_digits).1
  obtain ⟨before, left, madeLeft⟩ := before_cells valid few ends (fun some => fewer (.inl some))
    fun some => ⟨exact' _ (by simp [taken, Nat.not_lt.mpr larger, some]),
      exact' _ (by simp [taken, Nat.not_lt.mpr larger, some])⟩
  obtain ⟨after, right, madeRight⟩ := after_cells valid few ends (fun some => fewer (.inr some))
    fun some => ⟨exact' _ (by simp [taken, Nat.not_lt.mpr larger, some]),
      exact' _ (by simp [taken, Nat.not_lt.mpr larger, some])⟩
  refine ⟨before ++ [r.main.path r.fewest :: r.others.map r.main.path] ++ after, ?_, fun c => ?_⟩
  · rw [combinations_eq valid few (by omega), if_neg (Nat.not_lt.mpr larger), pastError_eq valid,
      left, Checked.ok_bind, main_single valid few, Checked.ok_bind, right, Checked.ok_bind]
    rfl
  · rw [List.mem_append, List.mem_append, List.mem_singleton, madeLeft, eq_main_iff valid,
      madeRight]
    constructor
    · rintro ((⟨cells, taken, made⟩ | ⟨cells, taken, made⟩) | ⟨cells, taken, made⟩)
      · exact ⟨_, cells, .inr (.inl ⟨taken.1, rfl, taken.2⟩), made⟩
      · exact ⟨_, cells, .inl ⟨rfl, taken⟩, made⟩
      · exact ⟨_, cells, .inr (.inr ⟨taken.1, rfl, taken.2⟩), made⟩
    · rintro ⟨m, cells, ⟨rfl, taken⟩ | ⟨some, rfl, taken⟩ | ⟨some, rfl, taken⟩, made⟩
      · exact .inl (.inr ⟨cells, taken, made⟩)
      · exact .inl (.inl ⟨cells, ⟨some, taken⟩, made⟩)
      · exact .inr ⟨cells, ⟨some, taken⟩, made⟩

/-! What is covered. -/

/-- There is nothing beside the interval when it is all values of oracles with the same digits. -/
theorem alone_iff (valid : r.Valid) :
    (r.Same ∧ r.mainOutcomePrefix = []) ↔ r.start = 0 ∧ r.stop + 1 = 2 ^ r.digits := by
  have add := r.start_add
  have short := valid.short
  constructor
  · rintro ⟨same, whole⟩
    have width : r.main.width = r.fewest := by simp [main, whole]
    have zero : r.start = 0 := by simp [start, main, whole, Cell.low, ofBinary]
    rw [width, zero, Nat.zero_add] at add
    rw [digits, if_pos same]
    exact ⟨zero, add.symm⟩
  · rintro ⟨zero, top⟩
    rw [zero, Nat.zero_add, top] at add
    have width : r.main.width = r.digits := Nat.pow_right_injective (Nat.le_refl 2) add
    have most : r.main.width + r.mainOutcomePrefix.length = r.fewest := Nat.sub_add_cancel short
    have least := r.fewest_le_digits
    have none : r.mainOutcomePrefix.length = 0 := by omega
    refine ⟨?_, List.length_eq_zero_iff.mp none⟩
    by_contra differ
    rw [digits, if_neg differ] at width
    omega

theorem exists_room (valid : r.Valid) (top : r.stop + 1 ≠ 2 ^ r.digits) :
    ∃ d ∈ r.others, r.stop + 1 < 2 ^ d := by
  have below := stop_lt valid
  by_cases same : r.Same
  · obtain ⟨d, listed⟩ := List.exists_mem_of_ne_nil _ valid.some
    rw [digits, if_pos same] at top
    exact ⟨d, listed, by rw [same d listed]; omega⟩
  · rw [Same] at same
    push Not at same
    obtain ⟨d, listed, differ⟩ := same
    have fewer := valid.least d listed
    have power := two_pow_succ_le (show r.fewest < d by omega)
    exact ⟨d, listed, by omega⟩

theorem top_of_beyond (valid : r.Valid) {d x : ℕ} (listed : d ∈ r.others) (small : x < 2 ^ d)
    (beyond : r.stop < x) : r.stop + 1 ≠ 2 ^ r.digits := by
  have below := stop_lt valid
  intro top
  by_cases same : r.Same
  · rw [digits, if_pos same] at top
    rw [same d listed] at small
    omega
  · rw [digits, if_neg same, pow_succ] at top
    omega

theorem beside_close (ends : r.Ends) (m : Cell) (cells : List Cell) (taken : r.Beside m cells) :
    ∀ q ∈ cells, r.Close q := by
  have order := r.start_le_stop
  have error := ends.error
  have interval := ends.interval
  have pos := Nat.two_pow_pos r.step
  have own : ∀ {q : Cell}, (∀ x, q.Holds x → r.start ≤ x ∧ x ≤ r.stop) → r.Close q := by
    intro q inside x holds
    obtain ⟨above, below⟩ := inside x holds
    exact ⟨x, above, below, by omega, by omega⟩
  intro q listed
  rcases taken with ⟨rfl, all⟩ | ⟨some, rfl, all, _⟩ | ⟨_, rfl, all, _⟩
  · rw [all q listed]
    exact own fun x holds => holds_main.mp holds
  · rcases all q listed with rfl | rfl
    · exact own fun x holds => by
        have bounds := (ends.first x).mp holds
        omega
    · intro x holds
      have bounds := (ends.previous some x).mp holds
      exact ⟨r.start, by omega, by omega, by omega, by omega⟩
  · rcases all q listed with rfl | rfl
    · exact own fun x holds => by
        have bounds := (ends.last x).mp holds
        omega
    · intro x holds
      have bounds := (ends.next x).mp holds
      exact ⟨r.stop, by omega, by omega, by omega, by omega⟩

theorem beside_room (valid : r.Valid) (ends : r.Ends) (m : Cell) (cells : List Cell)
    (taken : r.Beside m cells) :
    m.width ≤ r.fewest ∧ ∀ q ∈ cells, ∀ d ∈ r.others, q.width ≤ d := by
  have own := (main_fits valid (Nat.le_refl r.fewest)).1
  have width := ends.width
  have narrow : ∀ {own other : Cell}, own.width = r.step → other.width = r.step →
      (∀ q ∈ cells, q = own ∨ q = other) → ∀ q ∈ cells, ∀ d ∈ r.others, q.width ≤ d := by
    intro own other same same' all q listed d listed'
    have least := valid.least d listed'
    rcases all q listed with rfl | rfl
    · omega
    · omega
  rcases taken with ⟨rfl, all⟩ | ⟨_, rfl, all, _⟩ | ⟨_, rfl, all, _⟩
  · refine ⟨own, fun q listed d listed' => ?_⟩
    rw [all q listed]
    exact own.trans (valid.least d listed')
  · exact ⟨width, narrow rfl rfl all⟩
  · exact ⟨width, narrow rfl rfl all⟩

/-- Values past one end are next to it, and so is every other value that is near with them: there
is none, or the support is at most half of the cells at the ends. -/
theorem beside_cover (valid : r.Valid) (ends : r.Ends)
    (room : r.start ≠ 0 ∨ r.stop + 1 ≠ 2 ^ r.digits →
      r.others.length = 1 ∨ 2 * 2 ^ r.minSupportExp ≤ 2 ^ r.step) {v : ℕ} {values : List ℕ} (above : r.start ≤ v) (below : v ≤ r.stop) (near : r.Near v values) :
    ∃ m cells, r.Beside m cells ∧ m.Holds v ∧ List.Forall₂ Cell.Holds cells values := by
  have support := ends.support
  have interval := ends.interval
  -- the values are near each other, or there is a single one
  have together : r.start ≠ 0 ∨ r.stop + 1 ≠ 2 ^ r.digits → ∀ x ∈ values, ∀ y ∈ values,
      x = y ∨ 2 * 2 ^ r.minSupportExp ≤ 2 ^ r.step := by
    intro some x listed y listed'
    refine (room some).imp_left fun one => ?_
    have length : values.length = 1 := near.length_eq.trans one
    obtain ⟨z, rfl⟩ := List.length_eq_one_iff.mp length
    rw [List.mem_singleton] at listed listed'
    rw [listed, listed']
  by_cases lower : ∃ x ∈ values, x < r.start
  · obtain ⟨x, listed, low⟩ := lower
    obtain ⟨_, _, _, _, reach⟩ := near.each x listed
    have some : r.start ≠ 0 := by omega
    obtain ⟨cells, all, held⟩ := exists_holds r.first r.previous values fun y listed' => by
        obtain ⟨_, _, _, above', below'⟩ := near.each y listed'
        have close := together (.inl some) x listed y listed'
        rw [ends.first, ends.previous some]
        omega
    obtain ⟨q, member, holds⟩ := exists_related held.flip x listed
    have beyond : q = r.previous := by
      refine (all q member).resolve_left ?_
      rintro rfl
      have bounds := (ends.first x).mp holds
      omega
    exact ⟨r.first, cells, .inr (.inl ⟨some, rfl, all, beyond ▸ member⟩),
      (ends.first v).mpr ⟨above, by omega⟩, held⟩
  · by_cases upper : ∃ x ∈ values, r.stop < x
    · obtain ⟨x, listed, high⟩ := upper
      obtain ⟨d, member, small, reach, _⟩ := near.each x listed
      have some := top_of_beyond valid member small high
      obtain ⟨cells, all, held⟩ := exists_holds r.last r.next values fun y listed' => by
          obtain ⟨_, _, _, above', below'⟩ := near.each y listed'
          have close := together (.inr some) x listed y listed'
          rw [ends.last, ends.next]
          omega
      obtain ⟨q, member, holds⟩ := exists_related held.flip x listed
      have beyond : q = r.next := by
        refine (all q member).resolve_left ?_
        rintro rfl
        have bounds := (ends.last x).mp holds
        omega
      exact ⟨r.last, cells, .inr (.inr ⟨some, rfl, all, beyond ▸ member⟩),
        (ends.last v).mpr ⟨by omega, below⟩, held⟩
    · push Not at lower upper
      obtain ⟨cells, all, held⟩ := exists_holds r.main r.main values fun x listed =>
          .inl (holds_main.mpr ⟨lower x listed, upper x listed⟩)
      exact ⟨r.main, cells, .inl ⟨rfl, fun q listed => (all q listed).elim id id⟩,
        holds_main.mpr ⟨above, below⟩, held⟩

theorem past_honoured (valid : r.Valid) (few : r.digits < 64)
    (larger : r.maxErrorExp ≤ r.main.width) (allowed : r.PastHonoured) (exact' : r.Exact) :
    r.Honoured := by
  have ends := ends valid larger
  rw [PastHonoured, alone_iff valid] at allowed
  have fewer : r.start ≠ 0 ∨ r.stop + 1 ≠ 2 ^ r.digits → r.others.length < 31 := by
    intro some
    rcases allowed with ⟨zero, top⟩ | ⟨fewer, _⟩
    · exact absurd some (by simp [zero, top])
    · exact fewer
  obtain ⟨all, computed, made⟩ := past_cells valid few larger exact' fewer
  refine honoured_of_cells valid computed made (beside_close ends) (beside_room valid ends)
    fun v values above below near => beside_cover valid ends (fun some => ?_) above below near
  rcases allowed with ⟨zero, top⟩ | ⟨_, one | ⟨covers, wide⟩⟩
  · exact absurd some (by simp [zero, top])
  · exact .inl one
  · rw [step, if_pos covers]
    exact .inr (two_pow_succ_le (by omega))

/-! What is needed for it, whatever digits are computed. -/

/-- The cells of a combination that is not the interval's: two of the width of the ends. -/
def OfEnds (r : Request) (m : Cell) (cells : List Cell) : Prop :=
  r.others.length < 31 ∧ m.width = r.step ∧
    ∃ o : Cell, o.width = r.step ∧ ∀ q ∈ cells, q = m ∨ q = o

theorem beside_from (valid : r.Valid) (ends : r.Ends) (few : r.digits < 64) {own other : ℕ}
    {combinations : List (List (List ℕ))}
    (computed : r.coverage.beside own other r.step = .ok combinations) :
    ∀ c ∈ combinations, ∃ m, Combines r.fewest r.others m (r.OfEnds m) c := by
  obtain ⟨_, right, rest⟩ := Checked.bind_eq_ok.mp computed
  obtain ⟨_, left, rest⟩ := Checked.bind_eq_ok.mp rest
  obtain ⟨_, suffix, rest⟩ := Checked.bind_eq_ok.mp rest
  obtain ⟨y, below, within, rfl⟩ := numToVec_within right
  obtain ⟨z, below', _, rfl⟩ := numToVec_within left
  obtain ⟨_, rfl⟩ := Checked.sub_eq_ok.mp suffix
  have width : r.digits - ((Cell.of r.step y).path r.digits).length = (Cell.of r.step y).width := by
    rw [length_path]
    exact Nat.sub_sub_self within
  have room : ∀ d ∈ r.fewest :: r.others, r.step ≤ d := by
    rw [List.forall_mem_cons]
    exact ⟨ends.width, fun d listed => ends.width.trans (valid.least d listed)⟩
  simp only [coverage] at rest
  rw [width] at rest
  have made := doubleCoveringRestricted_from (digits_lt_limit few) ⟨fits_of below within, room⟩
    ⟨fits_of below' within, room⟩ rest
  intro c listed
  obtain ⟨fewer, cells, all, fit, same⟩ := made c listed
  exact ⟨_, cells, ⟨fewer, rfl, _, rfl, all⟩, fit, same⟩

theorem past_from (valid : r.Valid) (larger : r.maxErrorExp ≤ r.main.width)
    {all : List (List (List ℕ))} (computed : r.combinations = .ok all) : ∀ c ∈ all,
      ∃ m, Combines r.fewest r.others m
        (fun cells => (m = r.main ∧ ∀ q ∈ cells, q = r.main) ∨ r.OfEnds m cells) c := by
  obtain ⟨few, error⟩ := few_of_combinations computed
  have ends := ends valid larger
  rw [combinations_eq valid few error, if_neg (Nat.not_lt.mpr larger), pastError_eq valid,
    main_single valid few] at computed
  obtain ⟨before, left, rest⟩ := Checked.bind_eq_ok.mp computed
  rw [Checked.ok_bind] at rest
  obtain ⟨after, right, rest⟩ := Checked.bind_eq_ok.mp rest
  have madeLeft : ∀ c ∈ before, ∃ m, Combines r.fewest r.others m (r.OfEnds m) c := by
    rw [Coverage.before] at left
    split at left
    next =>
      cases left
      simp
    next =>
      obtain ⟨_, _, left⟩ := Checked.bind_eq_ok.mp left
      exact beside_from valid ends few left
  have madeRight : ∀ c ∈ after, ∃ m, Combines r.fewest r.others m (r.OfEnds m) c := by
    rw [Coverage.after] at right
    split at right
    next =>
      cases right
      simp
    next =>
      obtain ⟨_, _, right⟩ := Checked.bind_eq_ok.mp right
      obtain ⟨_, _, right⟩ := Checked.bind_eq_ok.mp right
      obtain ⟨_, _, right⟩ := Checked.bind_eq_ok.mp right
      exact beside_from valid ends few right
  cases rest
  intro c listed
  rw [List.mem_append, List.mem_append, List.mem_singleton, eq_main_iff valid] at listed
  rcases listed with (listed | ⟨cells, taken, made⟩) | listed
  · obtain ⟨m, cells, taken, made⟩ := madeLeft c listed
    exact ⟨m, cells, .inr taken, made⟩
  · exact ⟨_, cells, .inl ⟨rfl, taken⟩, made⟩
  · obtain ⟨m, cells, taken, made⟩ := madeRight c listed
    exact ⟨m, cells, .inr taken, made⟩

/-- Two values on both sides of a cell are farther apart than a cell of its width is wide. -/
theorem ofEnds_missing {m own : Cell} {cells : List Cell} {values : List ℕ} {v x y : ℕ}
    (taken : r.OfEnds m cells) (width : own.width = r.step) (inside : own.Holds v)
    (holds : m.Holds v) (low : x ∈ values) (high : y ∈ values) (out : ¬ own.Holds x)
    (out' : ¬ own.Holds y) (apart : x + 2 ^ r.step ≤ y) :
    ¬ List.Forall₂ Cell.Holds cells values := by
  obtain ⟨_, width', o, wide, all⟩ := taken
  have same : m = own := by
    rw [← Cell.of_eq_of_holds holds, ← Cell.of_eq_of_holds inside, width, width']
  intro held
  obtain ⟨q, member, here⟩ := exists_related held.flip x low
  obtain ⟨q', member', here'⟩ := exists_related held.flip y high
  have other : q = o := by
    refine (all q member).resolve_left ?_
    rintro rfl
    exact out (same ▸ here)
  have other' : q' = o := by
    refine (all q' member').resolve_left ?_
    rintro rfl
    exact out' (same ▸ here')
  rw [other] at here
  rw [other'] at here'
  have starts := (Cell.holds_iff.mp here).1
  have stops := (Cell.holds_iff.mp here').2
  rw [wide] at stops
  omega

/-- The interval alone leaves out each value beside it. -/
theorem main_missing {cells : List Cell} {values : List ℕ} {x : ℕ}
    (all : ∀ q ∈ cells, q = r.main) (listed : x ∈ values) (beyond : x < r.start ∨ r.stop < x) :
    ¬ List.Forall₂ Cell.Holds cells values := by
  intro held
  obtain ⟨q, member, holds⟩ := exists_related held.flip x listed
  rw [all q member] at holds
  have bounds := holds_main.mp holds
  omega

/-- With a support as large as the cells at the ends, or too many oracles, values on both sides of
such a cell are left out. -/
theorem beside_missing (valid : r.Valid) (ends : r.Ends)
    (tight : r.others.length < 31 → r.others.length ≠ 1 ∧ r.step = r.minSupportExp)
    (some : r.start ≠ 0 ∨ r.stop + 1 ≠ 2 ^ r.digits) :
    ∃ v values, r.start ≤ v ∧ v ≤ r.stop ∧ r.Near v values ∧ ∀ m cells,
      (m = r.main ∧ ∀ q ∈ cells, q = r.main) ∨ r.OfEnds m cells → m.Holds v →
        ¬ List.Forall₂ Cell.Holds cells values := by
  have interval := ends.interval
  have pos := ends.pos
  have support := ends.support
  have several : r.others.length < 31 → r.others.length ≠ 1 ∧
      2 ^ r.step = 2 ^ r.minSupportExp := fun fewer =>
    ⟨(tight fewer).1, congrArg (2 ^ ·) (tight fewer).2⟩
  by_cases zero : r.start = 0
  · obtain ⟨d, listed, room⟩ := exists_room valid (some.resolve_left fun other => other zero)
    have small : ∀ d ∈ r.others, r.stop - 2 ^ r.minSupportExp < 2 ^ d := fun d listed =>
      (Nat.sub_le _ _).trans_lt (stop_lt_other valid listed)
    obtain ⟨values, near, high, low⟩ := exists_near
      (v := r.stop + 1 - 2 ^ r.minSupportExp) (y := r.stop - 2 ^ r.minSupportExp) listed room
      (by omega) small (by omega)
    refine ⟨_, values, by omega, by omega, near, fun m cells taken holds => ?_⟩
    rcases taken with ⟨_, all⟩ | taken
    · exact main_missing all high (.inr (Nat.lt_succ_self _))
    · obtain ⟨one, equal⟩ := several taken.1
      refine ofEnds_missing taken rfl ((ends.last _).mpr (by omega)) holds (low one) high
        (fun here => ?_) (fun here => ?_) (by omega)
      · have bounds := (ends.last _).mp here
        omega
      · have bounds := (ends.last _).mp here
        omega
  · obtain ⟨d, listed⟩ := List.exists_mem_of_ne_nil _ valid.some
    have inside : r.start + 2 ^ r.minSupportExp ≤ r.stop := by omega
    have small : ∀ d ∈ r.others, r.start + 2 ^ r.minSupportExp < 2 ^ d := fun d listed =>
      inside.trans_lt (stop_lt_other valid listed)
    have below := small d listed
    obtain ⟨values, near, low, high⟩ := exists_near
      (v := r.start + 2 ^ r.minSupportExp - 1) (x := r.start - 1) listed (by omega) (by omega)
      small (by omega)
    refine ⟨_, values, by omega, by omega, near, fun m cells taken holds => ?_⟩
    rcases taken with ⟨_, all⟩ | taken
    · exact main_missing all low (.inl (by omega))
    · obtain ⟨one, equal⟩ := several taken.1
      refine ofEnds_missing taken rfl ((ends.first _).mpr (by omega)) holds low (high one)
        (fun here => ?_) (fun here => ?_) (by omega)
      · have bounds := (ends.first _).mp here
        omega
      · have bounds := (ends.first _).mp here
        omega

theorem past_needed (valid : r.Valid) (larger : r.maxErrorExp ≤ r.main.width)
    (honoured : r.Honoured) : r.PastHonoured := by
  have ends := ends valid larger
  rw [PastHonoured, alone_iff valid]
  by_contra refused
  push Not at refused
  obtain ⟨neighbours, room⟩ := refused
  have some : r.start ≠ 0 ∨ r.stop + 1 ≠ 2 ^ r.digits := by
    by_cases zero : r.start = 0
    · exact .inr (neighbours zero)
    · exact .inl zero
  have tight : r.others.length < 31 → r.others.length ≠ 1 ∧ r.step = r.minSupportExp := by
    intro fewer
    obtain ⟨several, wide⟩ := room fewer
    have support := valid.support
    refine ⟨several, ?_⟩
    rw [step]
    split
    next covers =>
      have least := wide covers
      omega
    next => rfl
  obtain ⟨v, values, above, below, near, out⟩ := beside_missing valid ends tight some
  exact not_honoured valid (fun all computed => past_from valid larger computed) above below near
    (fun m cells taken => out m cells taken) honoured

end Past

end P2PLending.Trie.Request
