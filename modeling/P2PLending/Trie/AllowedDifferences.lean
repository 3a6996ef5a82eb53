import P2PLending.Trie.PastHonoured

/-! Which requests get combinations that honour the differences that are allowed. -/

namespace P2PLending.Trie

open Dlc (Result Fault u64Limit)

namespace Request
variable {r : Request}

theorem coverable_of_honoured (valid : r.Valid) (honoured : r.Honoured) : r.Coverable := by
  obtain ⟨all, computed, _⟩ := id honoured
  refine ⟨(few_of_combinations computed).1, ?_⟩
  split
  next smaller => exact within_needed valid smaller honoured
  next larger => exact past_needed valid (Nat.not_lt.mp larger) honoured

theorem honoured_of_exact (valid : r.Valid) (coverable : r.Coverable) (exact' : r.Exact) :
    r.Honoured := by
  obtain ⟨few, allowed⟩ := coverable
  split at allowed
  next smaller => exact within_honoured valid few smaller allowed exact'
  next larger => exact past_honoured valid few (Nat.not_lt.mp larger) allowed exact'

theorem taken_within (valid : r.Valid) (smaller : r.main.width < r.maxErrorExp)
    (within : r.maxErrorExp ≤ r.digits) : ∀ x ∈ r.taken, x < 2 ^ r.digits := by
  have below := stop_lt_digits valid
  have order := r.start_le_stop
  have starts := r.errorCell_low_le
  have top := errorCell_top valid within
  have inside := (interval_halves smaller).1
  obtain ⟨pos, half, power⟩ := powers valid.support
  intro x listed
  rw [taken, if_pos smaller, List.mem_cons] at listed
  rcases listed with rfl | listed
  · omega
  by_cases first : r.NearStart
  · have ends := nearStart_stop valid.support smaller first
    rw [if_pos first, List.mem_append, List.mem_ite_nil_left, List.mem_ite_nil_left,
      List.mem_singleton] at listed
    rcases listed with ⟨_, rfl⟩ | ⟨_, listed⟩
    · omega
    · split at listed
      next =>
        rw [List.mem_singleton] at listed
        omega
      next =>
        rw [List.mem_singleton] at listed
        omega
  · rw [if_neg first] at listed
    by_cases last : r.NearStop
    · rw [if_pos last, List.mem_append, List.mem_ite_nil_left, List.mem_ite_nil_left,
        List.mem_singleton] at listed
      rcases listed with ⟨_, rfl⟩ | ⟨differ, listed⟩
      · omega
      · -- there is room for one more cell of the width of the error
        have room : 2 ^ r.maxErrorExp ≤ 2 ^ r.digits - (r.errorCell.low + 2 ^ r.maxErrorExp) :=
          Nat.le_of_dvd (by omega) (Nat.dvd_sub (Nat.pow_dvd_pow 2 within)
            (Nat.dvd_add divides_low (Nat.dvd_refl _)))
        split at listed
        next =>
          rw [List.mem_singleton] at listed
          omega
        next =>
          rw [List.mem_singleton] at listed
          omega
    · have ends : ¬ r.errorCell.low + 2 ^ r.maxErrorExp ≤ r.stop + 2 ^ r.minSupportExp := last
      rw [if_neg last, List.mem_ite_nil_left, List.mem_cons, List.mem_singleton] at listed
      omega

theorem taken_past (valid : r.Valid) (larger : ¬ r.main.width < r.maxErrorExp) :
    ∀ x ∈ r.taken, x < 2 ^ r.digits := by
  have below := stop_lt_digits valid
  have order := r.start_le_stop
  have pos := Nat.two_pow_pos r.step
  intro x listed
  rw [taken, if_neg larger, List.mem_append, List.mem_ite_nil_left, List.mem_ite_nil_left,
    List.mem_cons, List.mem_singleton, List.mem_cons, List.mem_singleton] at listed
  omega

/-- The digits of a double are enough for the numbers of a request that has no more of them. -/
theorem exact_of_digits (valid : r.Valid) (coverable : r.Coverable) (few : r.digits ≤ 53) :
    r.Exact := by
  intro x listed
  obtain ⟨_, allowed⟩ := coverable
  refine decomposes_small few ?_
  split at allowed
  next smaller => exact taken_within valid smaller allowed.1 x listed
  next larger => exact taken_past valid larger x listed

end Request

/-- The combinations of a request honour the allowed differences only if it is coverable, and they
do if it is and its numbers are decomposed exactly, which a double does for up to 53 digits. -/
theorem honoured_iff_coverable (r : Request) (valid : r.Valid) :
    (r.Honoured → r.Coverable) ∧ (r.digits ≤ 53 ∨ r.Exact → (r.Honoured ↔ r.Coverable)) := by
  refine ⟨Request.coverable_of_honoured valid, fun digits => ?_⟩
  constructor
  · exact Request.coverable_of_honoured valid
  · intro coverable
    have exact' : r.Exact := digits.elim (Request.exact_of_digits valid coverable) id
    exact Request.honoured_of_exact valid coverable exact'

/-- Three oracles, and half of the values of the first one. -/
def threeOracles (maxErrorExp : ℕ) : Request where
  fewest := 3
  others := [3, 3]
  mainOutcomePrefix := [0]
  maxErrorExp := maxErrorExp
  minSupportExp := 0
  maximizeCoverage := true

theorem threeOracles_honoured : (threeOracles 2).Honoured :=
  ((honoured_iff_coverable (threeOracles 2)
    ⟨by decide, by decide, by decide, by decide, by decide⟩).2 (.inl (by decide))).mpr (by decide)

/-- Two oracles on both sides of the first one have no combination. -/
theorem threeOracles_apart : (threeOracles 1).Valid ∧ (threeOracles 1).Under 3 ∧
    (threeOracles 1).Near 3 [2, 4] ∧ ∃ combinations,
      computeOutcomeCombinations [3, 3, 3] [0] 1 0 true = .ok combinations ∧
        ∀ c ∈ combinations, ¬ CoveredBy [3, 3, 3] c [3, 2, 4] := by
  refine ⟨⟨by decide, by decide, by decide, by decide, by decide⟩, by decide, by decide,
    [[[0], [0], [0]], [[0, 1, 1], [0, 1, 1], [1, 0, 0]], [[0, 1, 1], [1, 0, 0], [0, 1, 1]],
      [[0, 1, 1], [1, 0, 0], [1, 0, 0]]], by decide +kernel, by decide⟩

end P2PLending.Trie
