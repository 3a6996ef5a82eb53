import P2PLending.Trie.CoveringCells

/-! The differences that are allowed between oracles. Values that are as close to a value of the
main oracle as is guaranteed have to be covered together with it, and no value is covered that
differs from all of these by the error or more. -/

namespace P2PLending.Trie

open Dlc (Result Fault u64Limit)

/-- The digits of values begin with the paths of a combination. -/
def CoveredBy (digits : List ℕ) (combination : List (List ℕ)) (values : List ℕ) : Prop :=
  List.Forall₂ (fun path outcome => path <+: outcome) combination
    (List.zipWith binary digits values)

instance (digits : List ℕ) (combination : List (List ℕ)) (values : List ℕ) :
    Decidable (CoveredBy digits combination values) :=
  inferInstanceAs (Decidable (List.Forall₂ _ _ _))

theorem coveredBy_paths {cells : List Cell} {digits values : List ℕ} (fit : AllFit cells digits)
    (below : List.Forall₂ (fun x d => x < 2 ^ d) values digits) :
    CoveredBy digits (paths cells digits) values ↔ List.Forall₂ Cell.Holds cells values := by
  rw [CoveredBy, paths]
  induction fit generalizing values with
  | nil =>
      cases below
      simp
  | cons fits _ ih =>
      cases below with
      | cons small below =>
          rw [List.zipWith_cons_cons, List.zipWith_cons_cons, List.forall₂_cons, List.forall₂_cons,
            Cell.path_prefix fits small, ih below]

/-- A selection of oracles, the first with the fewest digits, with a prefix of its outcome. -/
structure Request where
  fewest : ℕ
  others : List ℕ
  mainOutcomePrefix : List ℕ
  maxErrorExp : ℕ
  minSupportExp : ℕ
  maximizeCoverage : Bool

namespace Request
variable (r : Request)

structure Valid : Prop where
  some : r.others ≠ []
  least : ∀ d ∈ r.others, r.fewest ≤ d
  binary : ∀ d ∈ r.mainOutcomePrefix, d < 2
  short : r.mainOutcomePrefix.length ≤ r.fewest
  support : r.minSupportExp < r.maxErrorExp

def combinations : Result (List (List (List ℕ))) :=
  computeOutcomeCombinations (r.fewest :: r.others) r.mainOutcomePrefix r.maxErrorExp
    r.minSupportExp r.maximizeCoverage

/-- The values under the main prefix. -/
def Under (v : ℕ) : Prop := v < 2 ^ r.fewest ∧ r.mainOutcomePrefix <+: binary r.fewest v

instance (v : ℕ) : Decidable (r.Under v) := inferInstanceAs (Decidable (_ ∧ _))

/-- Values of the other oracles that are near a value of the main one. -/
def Near (v : ℕ) (values : List ℕ) : Prop :=
  List.Forall₂ (fun x d => x < 2 ^ d ∧ x ≤ v + 2 ^ r.minSupportExp ∧ v ≤ x + 2 ^ r.minSupportExp)
    values r.others

instance (v : ℕ) (values : List ℕ) : Decidable (r.Near v values) :=
  inferInstanceAs (Decidable (List.Forall₂ _ _ _))

def Complete (combinations : List (List (List ℕ))) : Prop :=
  ∀ v values, r.Under v → r.Near v values →
    ∃ c ∈ combinations, CoveredBy (r.fewest :: r.others) c (v :: values)

def Sound (combinations : List (List (List ℕ))) : Prop :=
  ∀ c ∈ combinations, List.Forall₂ (fun path d => ∀ x < 2 ^ d, path <+: binary d x →
    ∃ v, r.Under v ∧ x < v + 2 ^ r.maxErrorExp ∧ v < x + 2 ^ r.maxErrorExp) c.tail r.others

/-- The combinations are computed, and honour the differences that are allowed. -/
def Honoured : Prop :=
  ∃ combinations, r.combinations = .ok combinations ∧ r.Complete combinations ∧
    r.Sound combinations

/-! The numbers of a request. -/

def Same : Prop := ∀ d ∈ r.others, d = r.fewest

instance : Decidable r.Same := inferInstanceAs (Decidable (∀ d ∈ r.others, d = r.fewest))

/-- The digits that are computed with. -/
def digits : ℕ := if r.Same then r.fewest else r.fewest + 1

def main : Cell where
  width := r.fewest - r.mainOutcomePrefix.length
  index := ofBinary r.mainOutcomePrefix

def start : ℕ := r.main.low

def stop : ℕ := r.main.low + 2 ^ r.main.width - 1

/-- The cell of the width of the error that holds the interval, or its start. -/
def errorCell : Cell := Cell.of r.maxErrorExp r.start

/-- The width of the cells at the ends of an interval that is as large as the error. -/
def step : ℕ := if r.maximizeCoverage then r.maxErrorExp - 1 else r.minSupportExp

/-- The support reaches past the start of the error's cell. -/
def NearStart : Prop := r.start < r.errorCell.low + 2 ^ r.minSupportExp

def NearStop : Prop := r.errorCell.low + 2 ^ r.maxErrorExp ≤ r.stop + 2 ^ r.minSupportExp

instance : Decidable r.NearStart := inferInstanceAs (Decidable (_ < _))

instance : Decidable r.NearStop := inferInstanceAs (Decidable (_ ≤ _))

/-- There are two cells for the other oracles to choose from. -/
def Chooses : Prop :=
  (r.NearStart ∧ r.errorCell.low ≠ 0) ∨
    (r.NearStop ∧ r.errorCell.low + 2 ^ r.maxErrorExp ≠ 2 ^ r.digits)

instance : Decidable r.Chooses := inferInstanceAs (Decidable (_ ∨ _))

/-- The prefix that is longer than the digits of some oracle is not needed. -/
def ShortEnough : Prop :=
  (∀ d ∈ r.others, r.maxErrorExp ≤ d) ∨
    (r.maximizeCoverage = false ∧ r.stop + 2 ^ r.minSupportExp < 2 ^ r.fewest)

instance : Decidable r.ShortEnough := inferInstanceAs (Decidable (_ ∨ _))

/-- The condition on a request whose interval is smaller than the error. -/
def WithinHonoured : Prop :=
  r.maxErrorExp ≤ r.digits ∧ r.ShortEnough ∧ (r.Chooses → r.others.length < 31)

instance : Decidable r.WithinHonoured := inferInstanceAs (Decidable (_ ∧ _ ∧ (_ → _)))

/-- The condition on a request whose interval is not. A second value next to another one needs
the support to be at most a quarter of the error, and the coverage to be maximized. -/
def PastHonoured : Prop :=
  (r.Same ∧ r.mainOutcomePrefix = []) ∨
    (r.others.length < 31 ∧ (r.others.length = 1 ∨
      (r.maximizeCoverage = true ∧ r.minSupportExp + 1 < r.maxErrorExp)))

instance : Decidable r.PastHonoured := inferInstanceAs (Decidable (_ ∨ _))

def Coverable : Prop :=
  r.digits < 64 ∧ if r.main.width < r.maxErrorExp then r.WithinHonoured else r.PastHonoured

instance : Decidable r.Coverable :=
  inferInstanceAs (Decidable (r.digits < 64 ∧
    if r.main.width < r.maxErrorExp then r.WithinHonoured else r.PastHonoured))

/-- The values of the cell are as close to the interval as they have to be. -/
def Close (q : Cell) : Prop :=
  ∀ x, q.Holds x → ∃ v, r.start ≤ v ∧ v ≤ r.stop ∧ x < v + 2 ^ r.maxErrorExp ∧
    v < x + 2 ^ r.maxErrorExp

/-- The numbers whose digits are taken. -/
def taken : List ℕ :=
  if r.main.width < r.maxErrorExp then
    r.errorCell.low ::
      if r.NearStart then
        (if r.maximizeCoverage then [] else [r.stop + 2 ^ r.minSupportExp]) ++
          if r.errorCell.low = 0 then []
          else if r.maximizeCoverage then [r.errorCell.low - 2 ^ (r.maxErrorExp - 1)]
          else [r.start - 2 ^ r.minSupportExp]
      else if r.NearStop then
        (if r.maximizeCoverage then [] else [r.start - 2 ^ r.minSupportExp]) ++
          if r.errorCell.low + 2 ^ r.maxErrorExp = 2 ^ r.digits then []
          else if r.maximizeCoverage then [r.errorCell.low + 2 ^ r.maxErrorExp]
          else [r.stop + 2 ^ r.minSupportExp]
      else if r.maximizeCoverage then []
      else [r.start - 2 ^ r.minSupportExp, r.stop + 2 ^ r.minSupportExp]
  else
    (if r.start = 0 then [] else [r.start, r.start - 2 ^ r.step]) ++
      if r.stop + 1 = 2 ^ r.digits then [] else [r.stop + 1 - 2 ^ r.step, r.stop + 1]

/-- The digits that are computed are those of the numbers. -/
def Exact : Prop := ∀ x ∈ r.taken, Decomposes r.digits x

section Facts
variable {r : Request}

theorem main_path (valid : r.Valid) : r.main.path r.fewest = r.mainOutcomePrefix := by
  have short := valid.short
  have length : r.fewest - r.main.width = r.mainOutcomePrefix.length := by
    simp only [main]
    omega
  rw [Cell.path, length]
  exact binary_ofBinary valid.binary

theorem main_path_longer (valid : r.Valid) :
    r.main.path (r.fewest + 1) = 0 :: r.mainOutcomePrefix := by
  have short := valid.short
  have length : r.fewest + 1 - r.main.width = 1 + r.mainOutcomePrefix.length := by
    simp only [main]
    omega
  have padded := replicate_append_binary 1 (ofBinary_lt valid.binary)
  rw [binary_ofBinary valid.binary] at padded
  rw [Cell.path, length]
  exact padded.symm

theorem main_fits (valid : r.Valid) {d : ℕ} (least : r.fewest ≤ d) : r.main.Fits d := by
  have short := valid.short
  refine ⟨(Nat.sub_le _ _).trans least, ?_⟩
  refine (ofBinary_lt valid.binary).trans_le (Nat.pow_le_pow_right (by omega) ?_)
  simp only [main]
  omega

theorem fewest_le_digits (r : Request) : r.fewest ≤ r.digits := by
  rw [digits]
  split <;> omega

theorem start_add (r : Request) : r.start + 2 ^ r.main.width = r.stop + 1 := by
  have pos := Nat.two_pow_pos r.main.width
  rw [start, stop]
  omega

theorem start_le_stop (r : Request) : r.start ≤ r.stop := by
  have next := r.start_add
  have pos := Nat.two_pow_pos r.main.width
  omega

theorem stop_lt (valid : r.Valid) : r.stop < 2 ^ r.fewest := by
  obtain ⟨within, small⟩ := main_fits valid (Nat.le_refl r.fewest)
  have power : 2 ^ r.fewest = 2 ^ (r.fewest - r.main.width) * 2 ^ r.main.width := by
    rw [← pow_add, Nat.sub_add_cancel within]
  have last : (r.main.index + 1) * 2 ^ r.main.width ≤ 2 ^ r.fewest := by
    rw [power]
    exact Nat.mul_le_mul_right _ small
  have next := r.start_add
  rw [Nat.add_mul, Nat.one_mul] at last
  rw [start, Cell.low] at next
  omega

theorem stop_lt_digits (valid : r.Valid) : r.stop < 2 ^ r.digits :=
  (stop_lt valid).trans_le (Nat.pow_le_pow_right (by omega) r.fewest_le_digits)

theorem holds_main {v : ℕ} : r.main.Holds v ↔ r.start ≤ v ∧ v ≤ r.stop := by
  have next := r.start_add
  rw [Cell.holds_iff]
  change r.start ≤ v ∧ v < r.start + 2 ^ r.main.width ↔ _
  omega

theorem under_iff (valid : r.Valid) {v : ℕ} : r.Under v ↔ r.start ≤ v ∧ v ≤ r.stop := by
  rw [← holds_main, Under, ← main_path valid]
  constructor
  · rintro ⟨small, within⟩
    exact (Cell.path_prefix (main_fits valid (Nat.le_refl _)) small).mp within
  · intro holds
    have small : v < 2 ^ r.fewest := by
      have above := (holds_main.mp holds).2
      have last := stop_lt valid
      omega
    exact ⟨small, (Cell.path_prefix (main_fits valid (Nat.le_refl _)) small).mpr holds⟩

/-! What is computed. -/

def coverage (r : Request) : Coverage where
  oracleDigitsInfos := r.fewest :: r.others
  mainOutcomePrefix := r.main.path r.digits
  minNumDigits := r.digits
  maxNum := 2 ^ r.digits - 1
  maxErrorExp := r.maxErrorExp
  minSupportExp := r.minSupportExp
  suffixLen := r.main.width
  start := r.start
  stop := r.stop
  maximizeCoverage := r.maximizeCoverage

theorem usizeShl_of_lt {exp : ℕ} (small : exp < 64) : usizeShl exp = .ok (2 ^ exp) := if_pos small

theorem all_same (r : Request) :
    (r.others.all fun x => decide (x = r.fewest)) = decide r.Same := by
  rw [Bool.eq_iff_iff, List.all_eq_true, decide_eq_true_iff]
  simp only [decide_eq_true_iff]
  rfl

theorem digits_eq (r : Request) : r.fewest + (if r.Same then 0 else 1) = r.digits := by
  rw [digits]
  split <;> rfl

theorem combinations_eq (valid : r.Valid) (few : r.digits < 64) (error : r.maxErrorExp < 64) :
    r.combinations = if r.main.width < r.maxErrorExp then
      r.coverage.withinError (2 ^ r.maxErrorExp) (2 ^ r.maxErrorExp / 2) (2 ^ r.minSupportExp)
    else r.coverage.pastError (2 ^ r.maxErrorExp / 2) (2 ^ r.minSupportExp) := by
  have support := valid.support
  have several : 1 < (r.fewest :: r.others).length := by
    have some := List.length_pos_iff.mpr valid.some
    rw [List.length_cons]
    omega
  have nbDigits : usizeAdd r.fewest (if r.Same then 0 else 1) = .ok r.digits := by
    rw [usizeAdd_of_lt (by rw [digits_eq, u64Limit]; omega), digits_eq]
  have own : (if r.Same then r.mainOutcomePrefix else 0 :: r.mainOutcomePrefix) =
      r.main.path r.digits := by
    rw [digits]
    split
    next => exact (main_path valid).symm
    next => exact (main_path_longer valid).symm
  have fits := main_fits valid r.fewest_le_digits
  have suffix : usizeSub r.digits (r.main.path r.digits).length = .ok r.main.width := by
    have within := fits.1
    rw [length_path, usizeSub_of_le (Nat.sub_le _ _), Nat.sub_sub_self within]
  rw [combinations, computeOutcomeCombinations, (Checked.ensure_eq_ok (u := ())).mpr ⟨several, support⟩,
    Checked.ok_bind]
  dsimp only
  simp only [all_same, decide_eq_true_eq]
  rw [nbDigits, Checked.ok_bind, own, usizeShl_of_lt few, Checked.ok_bind, usizeShl_of_lt error,
    Checked.ok_bind, usizeShl_of_lt (by omega), Checked.ok_bind, suffix, Checked.ok_bind,
    computeIntervalFromPrefix_cell fits (by omega), Checked.ok_bind]
  rfl

theorem few_of_combinations {all : List (List (List ℕ))} (computed : r.combinations = .ok all) :
    r.digits < 64 ∧ r.maxErrorExp < 64 := by
  have shifted : ∀ {exp n}, usizeShl exp = .ok n → exp < 64 := by
    intro exp n done
    rw [usizeShl] at done
    split at done
    next small => exact small
    next => cases done
  obtain ⟨_, _, rest⟩ := Checked.bind_eq_ok.mp computed
  dsimp only at rest
  obtain ⟨nbDigits, added, rest⟩ := Checked.bind_eq_ok.mp rest
  obtain ⟨_, rfl⟩ := Checked.add_eq_ok.mp added
  obtain ⟨_, maxNum, rest⟩ := Checked.bind_eq_ok.mp rest
  obtain ⟨_, maxError, _⟩ := Checked.bind_eq_ok.mp rest
  simp only [all_same, decide_eq_true_eq] at maxNum
  rw [digits_eq] at maxNum
  exact ⟨shifted maxNum, shifted maxError⟩

/-! What is covered. -/

section Listed
variable {all : List (List (List ℕ))} {each : Cell → List Cell → Prop}

theorem stop_lt_other (valid : r.Valid) {d : ℕ} (listed : d ∈ r.others) : r.stop < 2 ^ d :=
  (stop_lt valid).trans_le (Nat.pow_le_pow_right (by omega) (valid.least d listed))

theorem Near.below (valid : r.Valid) {v : ℕ} {values : List ℕ} (near : r.Near v values)
    (inside : v ≤ r.stop) :
    List.Forall₂ (fun x d => x < 2 ^ d) (v :: values) (r.fewest :: r.others) :=
  .cons (inside.trans_lt (stop_lt valid)) (near.imp fun _ _ both => both.1)

theorem sound_of_close (valid : r.Valid)
    (listed : ∀ c, c ∈ all ↔ ∃ m, Combines r.fewest r.others m (each m) c)
    (close : ∀ m cells, each m cells → ∀ q ∈ cells, r.Close q) : r.Sound all := by
  intro c member
  obtain ⟨m, cells, taken, fit, rfl⟩ := (listed c).mp member
  have fits := (List.forall₂_cons.mp fit).2
  have near := close m cells taken
  rw [paths, List.zipWith_cons_cons, List.tail_cons]
  clear member taken fit
  generalize r.others = others at fits ⊢
  induction fits with
  | nil => exact .nil
  | cons here _ ih =>
      rw [List.forall_mem_cons] at near
      refine .cons (fun x small within => ?_) (ih near.2)
      obtain ⟨v, above, below, gap⟩ := near.1 x ((Cell.path_prefix here small).mp within)
      exact ⟨v, (under_iff valid).mpr ⟨above, below⟩, gap⟩

/-- Cells that hold the values of the oracles are no larger than these have digits. -/
theorem allFit_of_holds {cells : List Cell} {values digits : List ℕ}
    (holds : List.Forall₂ Cell.Holds cells values)
    (below : List.Forall₂ (fun x d => x < 2 ^ d) values digits)
    (room : ∀ q ∈ cells, ∀ d ∈ digits, q.width ≤ d) : AllFit cells digits := by
  induction holds generalizing digits with
  | nil =>
      cases below
      exact .nil
  | cons here _ ih =>
      cases below with
      | cons small below =>
          rw [List.forall_mem_cons] at room
          exact .cons (here.fits (room.1 _ List.mem_cons_self) small)
            (ih below fun q member d listed => room.2 q member d (List.mem_cons_of_mem _ listed))

/-- The combinations honour the differences when their cells are close and hold what is near. -/
theorem honoured_of_cells (valid : r.Valid) (computed : r.combinations = .ok all)
    (listed : ∀ c, c ∈ all ↔ ∃ m, Combines r.fewest r.others m (each m) c)
    (close : ∀ m cells, each m cells → ∀ q ∈ cells, r.Close q)
    (room : ∀ m cells, each m cells →
      m.width ≤ r.fewest ∧ ∀ q ∈ cells, ∀ d ∈ r.others, q.width ≤ d)
    (cover : ∀ v values, r.start ≤ v → v ≤ r.stop → r.Near v values →
      ∃ m cells, each m cells ∧ m.Holds v ∧ List.Forall₂ Cell.Holds cells values) :
    r.Honoured := by
  refine ⟨all, computed, fun v values under near => ?_, sound_of_close valid listed close⟩
  obtain ⟨above, below⟩ := (under_iff valid).mp under
  obtain ⟨m, cells, taken, own, holds⟩ := cover v values above below near
  obtain ⟨width, widths⟩ := room m cells taken
  have fit : AllFit (m :: cells) (r.fewest :: r.others) :=
    .cons (own.fits width (below.trans_lt (stop_lt valid)))
      (allFit_of_holds holds (near.imp fun _ _ both => both.1) widths)
  refine ⟨_, (listed _).mpr ⟨m, cells, taken, fit, rfl⟩, ?_⟩
  rw [coveredBy_paths fit (near.below valid below), List.forall₂_cons]
  exact ⟨own, holds⟩

/-- Near values that no choice of cells holds are left out. -/
theorem not_honoured (valid : r.Valid)
    (listed : ∀ all, r.combinations = .ok all →
      ∀ c ∈ all, ∃ m, Combines r.fewest r.others m (each m) c)
    {v : ℕ} {values : List ℕ} (above : r.start ≤ v) (below : v ≤ r.stop) (near : r.Near v values)
    (out : ∀ m cells, each m cells → m.Holds v → ¬ List.Forall₂ Cell.Holds cells values) :
    ¬ r.Honoured := by
  rintro ⟨all, computed, complete, _⟩
  obtain ⟨c, member, covered⟩ := complete v values ((under_iff valid).mpr ⟨above, below⟩) near
  obtain ⟨m, cells, taken, fit, rfl⟩ := listed all computed c member
  rw [coveredBy_paths fit (near.below valid below), List.forall₂_cons] at covered
  exact out m cells taken covered.1 covered.2

end Listed

theorem exists_related {α β : Type} {R : α → β → Prop} {l : List α} {l' : List β}
    (related : List.Forall₂ R l l') : ∀ x ∈ l, ∃ y ∈ l', R x y := by
  induction related with
  | nil => simp
  | cons here _ ih =>
      rw [List.forall_mem_cons]
      refine ⟨⟨_, List.mem_cons_self, here⟩, fun x listed => ?_⟩
      obtain ⟨y, member, holds⟩ := ih x listed
      exact ⟨y, List.mem_cons_of_mem _ member, holds⟩

theorem exists_holds (first second : Cell) (values : List ℕ)
    (holds : ∀ x ∈ values, first.Holds x ∨ second.Holds x) :
    ∃ cells, (∀ q ∈ cells, q = first ∨ q = second) ∧ List.Forall₂ Cell.Holds cells values := by
  induction values with
  | nil => exact ⟨[], by simp, .nil⟩
  | cons x values ih =>
      rw [List.forall_mem_cons] at holds
      obtain ⟨cells, taken, held⟩ := ih holds.2
      rcases holds.1 with here | here
      · exact ⟨first :: cells, by simpa using taken, .cons here held⟩
      · exact ⟨second :: cells, by simpa using taken, .cons here held⟩

theorem Near.each {v : ℕ} {values : List ℕ} (near : r.Near v values) :
    ∀ x ∈ values, ∃ d ∈ r.others, x < 2 ^ d ∧ x ≤ v + 2 ^ r.minSupportExp ∧
      v ≤ x + 2 ^ r.minSupportExp := exists_related near

/-- One oracle has a value, all other ones another value. -/
theorem exists_near {d v x y : ℕ} (listed : d ∈ r.others) (small : x < 2 ^ d)
    (near : x ≤ v + 2 ^ r.minSupportExp ∧ v ≤ x + 2 ^ r.minSupportExp)
    (small' : ∀ d ∈ r.others, y < 2 ^ d)
    (near' : y ≤ v + 2 ^ r.minSupportExp ∧ v ≤ y + 2 ^ r.minSupportExp) :
    ∃ values, r.Near v values ∧ x ∈ values ∧ (r.others.length ≠ 1 → y ∈ values) := by
  have same : ∀ l : List ℕ, (∀ d ∈ l, y < 2 ^ d) → List.Forall₂ (fun x d => x < 2 ^ d ∧
      x ≤ v + 2 ^ r.minSupportExp ∧ v ≤ x + 2 ^ r.minSupportExp) (l.map fun _ => y) l := by
    intro l each
    induction l with
    | nil => exact .nil
    | cons d l ih =>
        rw [List.forall_mem_cons] at each
        exact .cons ⟨each.1, near'⟩ (ih each.2)
  obtain ⟨left, right, split⟩ := List.append_of_mem listed
  rw [split, List.forall_mem_append, List.forall_mem_cons] at small'
  refine ⟨(left.map fun _ => y) ++ x :: right.map fun _ => y, ?_, by simp, fun several => ?_⟩
  · rw [Near, split]
    exact List.rel_append (same left small'.1) (.cons ⟨small, near⟩ (same right small'.2.2))
  · rw [split] at several
    cases left with
    | cons d' left => simp
    | nil =>
        cases right with
        | cons d' right => simp
        | nil => simp at several

theorem two_pow_succ_le {a b : ℕ} (below : a < b) : 2 * 2 ^ a ≤ 2 ^ b := by
  have power : 2 ^ (a + 1) ≤ 2 ^ b := Nat.pow_le_pow_right (by omega) below
  rw [pow_succ] at power
  omega

end Facts

end Request

end P2PLending.Trie
