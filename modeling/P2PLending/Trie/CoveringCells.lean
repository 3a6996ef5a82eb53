import P2PLending.Trie.OracleTrieIters
import P2PLending.Trie.OutcomeCells

/-! The combinations of a single and of a double covering, in cells. -/

namespace P2PLending.Trie

open Dlc (Result Fault u64Limit)

section Single
variable {main secondary : Cell} {digits fewest : ℕ} {others : List ℕ}

theorem secondary_adjusted (fits : secondary.Fits digits) (mainFits : main.Fits digits)
    (wider : main.width ≤ secondary.width) (short : digits < u64Limit) (nbDigits : ℕ) :
    (do let longer ← usizeSub (main.path digits).length (secondary.path digits).length
        let suffix ← usizeAdd longer main.width
        unwrapAdjusted (← adjustPrefixSize (secondary.path digits) nbDigits suffix) :
      Result (List ℕ)) =
      if secondary.Fits nbDigits then .ok (secondary.path nbDigits)
      else if secondary.width ≤ nbDigits then .error (.panic Dlc.unwrapPanic)
      else .error (.panic "attempt to subtract with overflow") := by
  have within := fits.1
  have within' := mainFits.1
  have suffix : digits - main.width - (digits - secondary.width) + main.width =
      secondary.width := by omega
  rw [length_path, length_path, usizeSub_of_le (by omega), Checked.ok_bind,
    usizeAdd_of_lt (by omega), Checked.ok_bind, suffix, adjustPrefixSize_cell fits]
  by_cases room : secondary.width ≤ nbDigits
  · rw [if_pos room, Checked.ok_bind]
    by_cases small : secondary.index < 2 ^ (nbDigits - secondary.width)
    · rw [if_pos small, if_pos ⟨room, small⟩]
      rfl
    · rw [if_neg small, if_neg fun both => small both.2, if_pos room]
      rfl
  · rw [if_neg room, if_neg fun both => room both.1, if_neg room]
    rfl

theorem singleCovering_ok (fits : secondary.Fits digits) (mainFits : main.Fits digits)
    (wider : main.width ≤ secondary.width) (short : digits < u64Limit)
    (each : ∀ d ∈ others, secondary.Fits d) (own : main.Fits fewest) :
    singleCoveringPrefixCombinations (main.path digits) (secondary.path digits) (fewest :: others)
      main.width = .ok (main.path fewest :: others.map secondary.path) := by
  have adjusted := @adjustPrefixSize_cell main digits fewest mainFits
  rw [if_pos own.1, if_pos own.2] at adjusted
  rw [singleCoveringPrefixCombinations, List.drop_one, List.tail_cons,
    mapM_eq_map (g := secondary.path) fun d listed => by
      rw [secondary_adjusted fits mainFits wider short, if_pos (each d listed)],
    Checked.ok_bind]
  dsimp only
  rw [adjusted]
  rfl

theorem singleCovering_fits (fits : secondary.Fits digits) (mainFits : main.Fits digits)
    (short : digits < u64Limit) {combination : List (List ℕ)}
    (computed : singleCoveringPrefixCombinations (main.path digits) (secondary.path digits)
      (fewest :: others) main.width = .ok combination) : ∀ d ∈ others, secondary.Fits d := by
  intro d listed
  obtain ⟨paths, mapped, _⟩ := Checked.bind_eq_ok.mp computed
  obtain ⟨path, adjusted⟩ := Checked.exists_mapM_ok.mp ⟨paths, mapped⟩ d listed
  obtain ⟨_, longer, _⟩ := Checked.bind_eq_ok.mp adjusted
  have wider : main.width ≤ secondary.width := by
    have shorter := (Checked.sub_eq_ok.mp longer).1
    have within := mainFits.1
    have within' := fits.1
    rw [length_path, length_path] at shorter
    omega
  rw [secondary_adjusted fits mainFits wider short] at adjusted
  by_contra refused
  rw [if_neg refused] at adjusted
  split at adjusted
  next => cases adjusted
  next => cases adjusted

end Single

/-- The paths of cells for as many numbers of digits. -/
def paths (cells : List Cell) (digits : List ℕ) : List (List ℕ) :=
  List.zipWith Cell.path cells digits

/-- There are numbers of so many digits in each cell. -/
def AllFit (cells : List Cell) (digits : List ℕ) : Prop :=
  List.Forall₂ Cell.Fits cells digits

instance (cells : List Cell) (digits : List ℕ) : Decidable (AllFit cells digits) :=
  inferInstanceAs (Decidable (List.Forall₂ Cell.Fits cells digits))

theorem adjustAll_cells {n : ℕ} {cells : List Cell} {digits : List ℕ}
    (length : cells.length = digits.length) (fits : ∀ c ∈ cells, c.Fits n)
    (room : ∀ c ∈ cells, ∀ d ∈ digits, c.width ≤ d) :
    adjustAll n ((cells.map fun c => c.path n).zip digits) =
      .ok (if AllFit cells digits then some (paths cells digits) else none) := by
  induction cells generalizing digits with
  | nil =>
      cases digits with
      | nil =>
          have none : AllFit [] [] := List.Forall₂.nil
          rw [if_pos none]
          rfl
      | cons d digits => cases length
  | cons c cells ih =>
      cases digits with
      | nil => cases length
      | cons d digits =>
          rw [List.forall_mem_cons] at fits
          have here : c.width ≤ d := room c List.mem_cons_self d List.mem_cons_self
          have suffix : n - (c.path n).length = c.width := by
            have within := fits.1.1
            rw [length_path]
            omega
          have split : AllFit (c :: cells) (d :: digits) ↔ c.Fits d ∧ AllFit cells digits :=
            List.forall₂_cons
          rw [List.map_cons, List.zip_cons_cons, adjustAll,
            usizeSub_of_le (by rw [length_path]; exact Nat.sub_le _ _), Checked.ok_bind, suffix,
            adjustPrefixSize_cell fits.1, if_pos here, Checked.ok_bind]
          by_cases small : c.index < 2 ^ (d - c.width)
          · rw [if_pos small]
            dsimp only
            rw [ih (Nat.succ.inj length) fits.2 fun c' listed d' listed' =>
              room c' (List.mem_cons_of_mem _ listed) d' (List.mem_cons_of_mem _ listed'),
              Checked.ok_bind]
            by_cases others : AllFit cells digits
            · rw [if_pos others, if_pos (split.mpr ⟨⟨here, small⟩, others⟩)]
              rfl
            · rw [if_neg others, if_neg fun all => others (split.mp all).2]
              rfl
          · rw [if_neg small, if_neg fun all => small (split.mp all).1.2]
            rfl

/-! The choices between two cells. -/

theorem exists_testBit (choice : List Bool) :
    ∃ i < 2 ^ choice.length, (List.range choice.length).map i.testBit = choice := by
  refine ⟨Nat.ofBits fun j : Fin choice.length => choice[j], Nat.ofBits_lt_two_pow _, ?_⟩
  refine List.ext_getElem (by simp) fun j inside _ => ?_
  rw [List.length_map, List.length_range] at inside
  rw [List.getElem_map, List.getElem_range, Nat.testBit_ofBits_lt _ _ inside]
  rfl

theorem eq_of_testBit {i j k : ℕ} (below : i < 2 ^ k) (below' : j < 2 ^ k)
    (same : ∀ b < k, i.testBit b = j.testBit b) : i = j := by
  refine Nat.eq_of_testBit_eq fun b => ?_
  rcases Nat.lt_or_ge b k with inside | past
  · exact same b inside
  · have power := Nat.pow_le_pow_right (show 0 < 2 by omega) past
    rw [Nat.testBit_lt_two_pow (below.trans_le power),
      Nat.testBit_lt_two_pow (below'.trans_le power)]

/-- The cells of the other oracles that the bits of a number choose. -/
def chosen (first second : Cell) (k i : ℕ) : List Cell :=
  ((List.range k).map fun j => if i.testBit j then second else first).reverse

section Choices
variable {first second : Cell} {k i : ℕ}

@[simp] theorem length_chosen : (chosen first second k i).length = k := by simp [chosen]

theorem mem_chosen {c : Cell} (listed : c ∈ chosen first second k i) : c = first ∨ c = second := by
  rw [chosen, List.mem_reverse, List.mem_map] at listed
  obtain ⟨j, _, rfl⟩ := listed
  split
  next => exact .inr rfl
  next => exact .inl rfl

theorem exists_chosen {cells : List Cell} (each : ∀ c ∈ cells, c = first ∨ c = second) :
    ∃ i < 2 ^ cells.length, chosen first second cells.length i = cells := by
  obtain ⟨i, below, bits⟩ := exists_testBit (cells.reverse.map fun c => decide (c ≠ first))
  rw [List.length_map, List.length_reverse] at below bits
  refine ⟨i, below, ?_⟩
  have same := congrArg (List.map fun b : Bool => if b then second else first) bits
  rw [List.map_map, List.map_map] at same
  have own : cells.reverse.map ((fun b : Bool => if b then second else first) ∘
      fun c => decide (c ≠ first)) = cells.reverse := by
    refine (List.map_congr_left fun c listed => ?_).trans (List.map_id _)
    rcases each c (List.mem_reverse.mp listed) with rfl | rfl
    · simp
    · by_cases equal : c = first
      · simp [equal]
      · simp [equal]
  rw [own] at same
  exact (congrArg List.reverse same).trans (List.reverse_reverse cells)

/-- Only the first choice takes nothing but the first cell. -/
theorem chosen_first (below : i < 2 ^ k) (differ : first ≠ second) :
    second ∈ chosen first second k i ↔ i ≠ 0 := by
  rw [chosen, List.mem_reverse, List.mem_map]
  constructor
  · rintro ⟨j, _, taken⟩ rfl
    rw [Nat.zero_testBit] at taken
    exact differ taken
  · intro some
    by_contra none
    refine some (eq_of_testBit below (Nat.two_pow_pos k) fun b inside => ?_)
    rw [Nat.zero_testBit]
    by_contra set
    exact none ⟨b, List.mem_range.mpr inside, if_pos (by simpa using set)⟩

/-- Only the last choice takes nothing but the second cell. -/
theorem chosen_second (below : i < 2 ^ k) (differ : first ≠ second) :
    first ∈ chosen first second k i ↔ i ≠ 2 ^ k - 1 := by
  rw [chosen, List.mem_reverse, List.mem_map]
  constructor
  · rintro ⟨j, inside, taken⟩ rfl
    rw [Nat.testBit_two_pow_sub_one, if_pos (by simpa using inside)] at taken
    exact differ taken.symm
  · intro some
    by_contra none
    have last : 2 ^ k - 1 < 2 ^ k := Nat.sub_lt (Nat.two_pow_pos k) Nat.one_pos
    refine some (eq_of_testBit below last fun b inside => ?_)
    rw [Nat.testBit_two_pow_sub_one, decide_eq_true inside]
    by_contra unset
    exact none ⟨b, List.mem_range.mpr inside, if_neg unset⟩

end Choices

section Double
variable {n fewest : ℕ} {others : List ℕ} {main left right other : Cell}

/-- The combination that a choice gives, if all of its cells fit. -/
def choiceOf (main first second : Cell) (fewest : ℕ) (others : List ℕ) (i : ℕ) :
    Option (List (List ℕ)) :=
  let cells := main :: chosen first second others.length i
  if AllFit cells (fewest :: others) then some (paths cells (fewest :: others)) else none

theorem choiceOf_eq_some {first second : Cell} {i : ℕ} {combination : List (List ℕ)} :
    choiceOf main first second fewest others i = some combination ↔
      AllFit (main :: chosen first second others.length i) (fewest :: others) ∧
        combination = paths (main :: chosen first second others.length i) (fewest :: others) := by
  rw [choiceOf]
  split
  next fit => simp [fit, eq_comm]
  next unfit => simp [unfit]

/-- What all cells of a double covering have. -/
structure Placed (n fewest : ℕ) (others : List ℕ) (c : Cell) : Prop where
  fits : c.Fits n
  room : ∀ d ∈ fewest :: others, c.width ≤ d

theorem doubleCovering_sorted (few : others.length < 31) (short : n < u64Limit)
    (placed : Placed n fewest others main) (placedLeft : Placed n fewest others left)
    (placedRight : Placed n fewest others right) :
    doubleCoveringPrefixCombinations (main.path n) (left.path n) (right.path n)
      (fewest :: others) main.width = .ok ((List.range (2 ^ others.length)).filterMap
        (if right.path n < left.path n then choiceOf main right left fewest others
          else choiceOf main left right fewest others)) := by
  have outcomeLen : (main.path n).length + main.width = n := by
    have within := placed.fits.1
    rw [length_path]
    omega
  have each : ∀ first second, Placed n fewest others first → Placed n fewest others second →
      ∀ i, (do
        let chosenPaths := (List.range others.length).map fun j =>
          if i.testBit j then second.path n else first.path n
        let outcomeLen ← usizeAdd (main.path n).length main.width
        adjustAll outcomeLen ((main.path n :: chosenPaths.reverse).zip (fewest :: others)) :
          Result (Option (List (List ℕ)))) = .ok (choiceOf main first second fewest others i) := by
    intro first second placedFirst placedSecond i
    have asCells : main.path n :: ((List.range others.length).map fun j =>
        if i.testBit j then second.path n else first.path n).reverse =
          (main :: chosen first second others.length i).map fun c => c.path n := by
      rw [List.map_cons, chosen, List.map_reverse, List.map_map]
      refine congrArg _ (congrArg List.reverse (List.map_congr_left fun j _ => ?_))
      rw [Function.comp_apply]
      split <;> rfl
    have all : ∀ c ∈ main :: chosen first second others.length i, Placed n fewest others c := by
      intro c listed
      rcases List.mem_cons.mp listed with rfl | listed
      · exact placed
      · rcases mem_chosen listed with rfl | rfl
        · exact placedFirst
        · exact placedSecond
    dsimp only
    rw [usizeAdd_of_lt (by omega), Checked.ok_bind, outcomeLen, asCells,
      adjustAll_cells (by simp) (fun c listed => (all c listed).fits)
        fun c listed => (all c listed).room]
    rfl
  have nbOthers : usizeSub (fewest :: others).length 1 = .ok others.length :=
    usizeSub_of_le (by simp)
  rw [doubleCoveringPrefixCombinations, nbOthers, Checked.ok_bind, coveringChoices, if_pos few]
  by_cases sorted : right.path n < left.path n
  · rw [if_pos sorted, if_pos sorted]
    dsimp only
    rw [Checked.ok_bind, mapM_eq_map fun i _ => each right left placedRight placedLeft i,
      Checked.ok_bind, Checked.pure_eq_ok, List.filterMap_map]
    rfl
  · rw [if_neg sorted, if_neg sorted]
    dsimp only
    rw [Checked.ok_bind, mapM_eq_map fun i _ => each left right placedLeft placedRight i,
      Checked.ok_bind, Checked.pure_eq_ok, List.filterMap_map]
    rfl

/-- A combination of the main cell with one of two for each other oracle. -/
def Combines (fewest : ℕ) (others : List ℕ) (main : Cell) (each : List Cell → Prop)
    (combination : List (List ℕ)) : Prop :=
  ∃ cells, each cells ∧ AllFit (main :: cells) (fewest :: others) ∧
    combination = paths (main :: cells) (fewest :: others)

theorem combines_main_iff {each : List Cell → Prop} {combination : List (List ℕ)} :
    (∃ m, Combines fewest others m (fun cells => m = main ∧ each cells) combination) ↔
      Combines fewest others main each combination := by
  constructor
  · rintro ⟨_, cells, ⟨rfl, taken⟩, made⟩
    exact ⟨cells, taken, made⟩
  · rintro ⟨cells, taken, made⟩
    exact ⟨main, cells, ⟨rfl, taken⟩, made⟩

theorem allFit_replicate {digits : List ℕ} (each : ∀ d ∈ digits, other.Fits d) :
    AllFit (List.replicate digits.length other) digits := by
  refine List.forall₂_iff_get.mpr ⟨by simp, fun i inside inside' => ?_⟩
  simpa using each _ (List.getElem_mem inside')

/-- The combination that has the same cell for each of the other oracles. -/
theorem eq_single_iff (own : main.Fits fewest) (each : ∀ d ∈ others, other.Fits d)
    {combination : List (List ℕ)} : combination = main.path fewest :: others.map other.path ↔
      Combines fewest others main (fun cells => ∀ q ∈ cells, q = other) combination := by
  have same : paths (main :: List.replicate others.length other) (fewest :: others) =
      main.path fewest :: others.map other.path := by
    rw [paths, List.zipWith_cons_cons, ← List.map_const', List.zipWith_map_left, List.zipWith_self]
  constructor
  · rintro rfl
    exact ⟨_, fun q listed => List.eq_of_mem_replicate listed, .cons own (allFit_replicate each),
      same.symm⟩
  · rintro ⟨cells, all, fit, rfl⟩
    have length : cells.length = others.length := Nat.succ.inj fit.length_eq
    rw [List.eq_replicate_of_mem all, length, same]

theorem mem_choices {first second : Cell} {combination : List (List ℕ)} {f : ℕ → Prop}
    {each : List Cell → Prop}
    (same : ∀ i < 2 ^ others.length, f i ↔ each (chosen first second others.length i))
    (only : ∀ cells, each cells → ∀ q ∈ cells, q = first ∨ q = second) :
    (∃ i < 2 ^ others.length, f i ∧ choiceOf main first second fewest others i = some combination) ↔
      Combines fewest others main each combination := by
  constructor
  · rintro ⟨i, below, holds, taken⟩
    obtain ⟨fit, rfl⟩ := choiceOf_eq_some.mp taken
    exact ⟨_, (same i below).mp holds, fit, rfl⟩
  · rintro ⟨cells, holds, fit, rfl⟩
    have length : cells.length = others.length := Nat.succ.inj fit.length_eq
    obtain ⟨i, below, taken⟩ := exists_chosen (only cells holds)
    rw [length] at below taken
    refine ⟨i, below, (same i below).mpr (taken ▸ holds), choiceOf_eq_some.mpr ?_⟩
    rw [taken]
    exact ⟨fit, rfl⟩

theorem doubleCovering_cells (few : others.length < 31) (short : n < u64Limit)
    (placed : Placed n fewest others main) (placedLeft : Placed n fewest others left)
    (placedRight : Placed n fewest others right) :
    ∃ combinations, doubleCoveringPrefixCombinations (main.path n) (left.path n) (right.path n)
        (fewest :: others) main.width = .ok combinations ∧
      ∀ c, c ∈ combinations ↔
        Combines fewest others main (fun cells => ∀ q ∈ cells, q = left ∨ q = right) c := by
  refine ⟨_, doubleCovering_sorted few short placed placedLeft placedRight, fun c => ?_⟩
  rw [List.mem_filterMap]
  simp only [List.mem_range]
  split
  next =>
    have taken : (∃ i < 2 ^ others.length,
        True ∧ choiceOf main right left fewest others i = some c) ↔ Combines fewest others main
          (fun cells => ∀ q ∈ cells, q = left ∨ q = right) c :=
      mem_choices (fun i _ => iff_of_true trivial fun q listed => (mem_chosen listed).symm)
        fun cells each q listed => (each q listed).symm
    simpa using taken
  next =>
    have taken : (∃ i < 2 ^ others.length,
        True ∧ choiceOf main left right fewest others i = some c) ↔ Combines fewest others main
          (fun cells => ∀ q ∈ cells, q = left ∨ q = right) c :=
      mem_choices (fun i _ => iff_of_true trivial fun q listed => mem_chosen listed)
        fun cells each q listed => each q listed
    simpa using taken

theorem chosen_zero (first second : Cell) (k : ℕ) :
    chosen first second k 0 = List.replicate k first := by
  rw [chosen, List.map_congr_left fun j _ => if_neg (by simp [Nat.zero_testBit]), List.map_const',
    List.length_range, List.reverse_replicate]

theorem chosen_last (first second : Cell) (k : ℕ) :
    chosen first second k (2 ^ k - 1) = List.replicate k second := by
  rw [chosen, List.map_congr_left (g := fun _ => second) fun j inside => if_pos (by
    rw [Nat.testBit_two_pow_sub_one]
    simpa using inside), List.map_const', List.length_range, List.reverse_replicate]

/-- All but the combination that has the main cell everywhere. -/
theorem doubleCoveringRestricted_cells (few : others.length < 31) (short : n < u64Limit)
    (placed : Placed n fewest others main) (placedOther : Placed n fewest others other)
    (fit : ∀ d ∈ fewest :: others, main.Fits d) (differ : main ≠ other) :
    ∃ combinations, doubleCoveringRestrictedPrefixCombinations (main.path n) (other.path n)
        (fewest :: others) main.width = .ok combinations ∧
      ∀ c, c ∈ combinations ↔ Combines fewest others main
        (fun cells => (∀ q ∈ cells, q = main ∨ q = other) ∧ other ∈ cells) c := by
  have whole : AllFit (main :: List.replicate others.length main) (fewest :: others) :=
    allFit_replicate fit
  have sorted := doubleCovering_sorted few short placed placed placedOther
  have pos := Nat.two_pow_pos others.length
  rw [doubleCoveringRestrictedPrefixCombinations, sorted, Checked.ok_bind]
  by_cases later : other.path n < main.path n
  · have last : choiceOf main other main fewest others (2 ^ others.length - 1) =
        some (paths (main :: List.replicate others.length main) (fewest :: others)) := by
      rw [choiceOf_eq_some, chosen_last]
      exact ⟨whole, rfl⟩
    have split : (List.range (2 ^ others.length)).filterMap
        (choiceOf main other main fewest others) =
          (List.range (2 ^ others.length - 1)).filterMap (choiceOf main other main fewest others) ++
            [paths (main :: List.replicate others.length main) (fewest :: others)] := by
      have power : 2 ^ others.length = 2 ^ others.length - 1 + 1 := by omega
      rw [power, List.range_succ, List.filterMap_append, Nat.add_sub_cancel, List.filterMap_cons,
        last, List.filterMap_nil]
    rw [if_pos later, if_pos later, split, usizeSub_of_le (by simp), Checked.ok_bind,
      List.dropLast_concat]
    refine ⟨_, rfl, fun c => ?_⟩
    rw [List.mem_filterMap]
    have taken : (∃ i < 2 ^ others.length, i ≠ 2 ^ others.length - 1 ∧
        choiceOf main other main fewest others i = some c) ↔ Combines fewest others main
          (fun cells => (∀ q ∈ cells, q = main ∨ q = other) ∧ other ∈ cells) c := by
      refine mem_choices (fun i below => ?_) fun cells each q listed => (each.1 q listed).symm
      rw [← chosen_second below differ.symm]
      exact ⟨fun some => ⟨fun q listed => (mem_chosen listed).symm, some⟩, fun both => both.2⟩
    rw [← taken]
    constructor
    · rintro ⟨i, inside, here⟩
      rw [List.mem_range] at inside
      exact ⟨i, by omega, by omega, here⟩
    · rintro ⟨i, below, other', here⟩
      exact ⟨i, List.mem_range.mpr (by omega), here⟩
  · have first : choiceOf main main other fewest others 0 =
        some (paths (main :: List.replicate others.length main) (fewest :: others)) := by
      rw [choiceOf_eq_some, chosen_zero]
      exact ⟨whole, rfl⟩
    have split : (List.range (2 ^ others.length)).filterMap
        (choiceOf main main other fewest others) =
          paths (main :: List.replicate others.length main) (fewest :: others) ::
            (List.range' 1 (2 ^ others.length - 1)).filterMap
              (choiceOf main main other fewest others) := by
      have power : 2 ^ others.length = 2 ^ others.length - 1 + 1 := by omega
      rw [power, List.range_eq_range', List.range'_succ, List.filterMap_cons, first,
        Nat.add_sub_cancel, Nat.zero_add]
    rw [if_neg later, if_neg later, split, List.drop_one, List.tail_cons]
    refine ⟨_, rfl, fun c => ?_⟩
    rw [List.mem_filterMap]
    have taken : (∃ i < 2 ^ others.length, i ≠ 0 ∧
        choiceOf main main other fewest others i = some c) ↔ Combines fewest others main
          (fun cells => (∀ q ∈ cells, q = main ∨ q = other) ∧ other ∈ cells) c := by
      refine mem_choices (fun i below => ?_) fun cells each q listed => each.1 q listed
      rw [← chosen_first below differ]
      exact ⟨fun some => ⟨fun q listed => mem_chosen listed, some⟩, fun both => both.2⟩
    rw [← taken]
    constructor
    · rintro ⟨i, inside, here⟩
      rw [List.mem_range'_1] at inside
      exact ⟨i, by omega, by omega, here⟩
    · rintro ⟨i, below, some, here⟩
      exact ⟨i, List.mem_range'_1.mpr (by omega), here⟩

/-- There is no choice for more than thirty other oracles. -/
theorem doubleCovering_many (many : 31 ≤ others.length) {left right : List ℕ} {suffixLen : ℕ}
    {main : List ℕ} {combinations : List (List (List ℕ))}
    (computed : doubleCoveringPrefixCombinations main left right (fewest :: others) suffixLen =
      .ok combinations) : combinations = [] := by
  obtain ⟨nbOthers, counted, rest⟩ := Checked.bind_eq_ok.mp computed
  obtain ⟨_, rfl⟩ := Checked.sub_eq_ok.mp counted
  have choices : coveringChoices ((fewest :: others).length - 1) =
      if others.length = 31 then .ok []
      else .error (.panic "attempt to shift left with overflow") := by
    rw [List.length_cons, Nat.add_sub_cancel, coveringChoices, if_neg (Nat.not_lt.mpr many)]
  rw [choices] at rest
  by_cases bound : others.length = 31
  · rw [if_pos bound] at rest
    cases rest
    rfl
  · rw [if_neg bound] at rest
    cases rest

/-- All combinations but one have the main cell or the other one for each of the oracles. -/
theorem doubleCoveringRestricted_from (short : n < u64Limit) (placed : Placed n fewest others main)
    (placedOther : Placed n fewest others other) {combinations : List (List (List ℕ))}
    (computed : doubleCoveringRestrictedPrefixCombinations (main.path n) (other.path n)
      (fewest :: others) main.width = .ok combinations) : ∀ c ∈ combinations,
      others.length < 31 ∧
        Combines fewest others main (fun cells => ∀ q ∈ cells, q = main ∨ q = other) c := by
  obtain ⟨all, double, rest⟩ := Checked.bind_eq_ok.mp computed
  have part : ∀ c ∈ combinations, c ∈ all := by
    split at rest
    next =>
      obtain ⟨_, _, rest⟩ := Checked.bind_eq_ok.mp rest
      cases rest
      exact fun c listed => List.dropLast_subset all listed
    next =>
      cases rest
      exact fun c listed => List.drop_subset 1 all listed
  intro c listed
  rcases Nat.lt_or_ge others.length 31 with few | many
  · obtain ⟨all', covering, made⟩ := doubleCovering_cells few short placed placed placedOther
    rw [covering] at double
    cases double
    exact ⟨few, (made c).mp (part c listed)⟩
  · have none := part c listed
    rw [doubleCovering_many many double] at none
    cases none

end Double

end P2PLending.Trie
