import P2PLending.Foundation.Script
import Mathlib.Tactic.Ring
import Mathlib.Data.FinEnum

/-! Numbers on the script stack. A number is true when it is not zero, and a
count is equal to a small constant exactly when their bytes are. -/

namespace P2PLending.Script

/-- The digits of a number that fits end in a digit that is not zero. -/
theorem leDigits_last_ne_zero {fuel n : ℕ} {top : UInt8} (fits : n < 256 ^ fuel)
    (last : (leDigits fuel n).getLast? = some top) : top ≠ 0 := by
  induction fuel generalizing n with
  | zero => cases last
  | succ fuel ih =>
      by_cases zero : n = 0
      · rw [leDigits, if_pos zero] at last
        cases last
      · rw [leDigits, if_neg zero, List.getLast?_cons] at last
        have high : n / 256 < 256 ^ fuel := Nat.div_lt_of_lt_mul (by rw [pow_succ] at fits; omega)
        match digits : (leDigits fuel (n / 256)).getLast? with
        | some d =>
            rw [digits] at last
            cases last
            exact ih high digits
        | none =>
            rw [digits] at last
            cases last
            have nil := List.getLast?_eq_none_iff.mp digits
            have single : n < 256 := by
              cases fuel with
              | zero => omega
              | succ fuel =>
                  by_contra large
                  rw [leDigits, if_neg (by omega)] at nil
                  cases nil
            intro digit
            have value := congrArg UInt8.toNat digit
            rw [Option.getD_none, UInt8.toNat_ofNat', UInt8.toNat_zero] at value
            omega

/-- A sign on a low digit leaves it apart from zero and negative zero. -/
theorem signed_digit {top sign : UInt8} (nonzero : top ≠ 0) (low : top.toNat < 128)
    (isSign : sign = 0 ∨ sign = 0x80) : top + sign ≠ 0 ∧ top + sign ≠ 0x80 := by
  have digit : top.toNat ≠ 0 := fun same => nonzero (UInt8.toNat_inj.mp same)
  have signs : sign.toNat = 0 ∨ sign.toNat = 128 := isSign.imp (congrArg _) (congrArg _)
  refine ⟨fun same => ?_, fun same => ?_⟩
  · have value := congrArg UInt8.toNat same
    rw [UInt8.toNat_add, UInt8.toNat_zero] at value
    omega
  · have value : (top + sign).toNat = 128 := congrArg UInt8.toNat same
    rw [UInt8.toNat_add] at value
    omega

/-- A script number is true when it is not zero. -/
theorem truthy_encodeNum {n : ℤ} (fits : n.natAbs < 256 ^ 8) :
    truthy (encodeNum n) = decide (n ≠ 0) := by
  by_cases zero : n = 0
  · rw [zero]
    rfl
  · have digits : leBytes n.natAbs ≠ [] := by
      rw [leBytes, leDigits, if_neg (by omega)]
      exact List.cons_ne_nil _ _
    obtain ⟨front, top, split⟩ := (List.eq_nil_or_concat' (leBytes n.natAbs)).resolve_left digits
    have last : (leDigits 8 n.natAbs).getLast? = some top := by
      show (leBytes n.natAbs).getLast? = some top
      rw [split, List.getLast?_concat]
    have nonzero := leDigits_last_ne_zero fits last
    rw [decide_eq_true zero]
    simp only [encodeNum, split, List.getLast?_concat, List.dropLast_concat]
    by_cases low : top.toNat < 128
    · have kept := signed_digit nonzero low (ite_eq_or_eq (n < 0) 0x80 0).symm
      rw [if_pos low]
      simp [truthy, kept]
    · rw [if_neg low]
      simp [truthy, nonzero]

/-- A number that is not negative is written by its digits, with a zero added
where the last digit is high. -/
theorem encodeNum_natCast (n : ℕ) :
    encodeNum n = if ∀ top ∈ (leBytes n).getLast?, top.toNat < 128 then leBytes n
      else leBytes n ++ [0] := by
  have positive : ¬ (n : ℤ) < 0 := by omega
  match last : (leBytes n).getLast? with
  | none =>
      have empty := List.getLast?_eq_none_iff.mp last
      simp [encodeNum, empty]
  | some top =>
      have split : leBytes n = (leBytes n).dropLast ++ [top] :=
        (List.dropLast_append_getLast? top last).symm
      simp only [encodeNum, Int.natAbs_natCast, last, positive, if_false, UInt8.add_zero,
        Option.mem_def, Option.some.injEq, forall_eq']
      rw [← split]

/-- Only the number itself is written like a small number. -/
theorem encodeNum_eq_small_iff {m n : ℕ} (positive : 0 < n) (small : n < 128) :
    encodeNum (m : ℤ) = encodeNum (n : ℤ) ↔ m = n := by
  have single : ∀ k : ℕ, 0 < k → k < 256 → leBytes k = [UInt8.ofNat k] := by
    intro k pos lt
    rw [leBytes, leDigits, if_neg (by omega), Nat.mod_eq_of_lt lt, Nat.div_eq_of_lt lt]
    rfl
  have low : (UInt8.ofNat n).toNat = n := by
    rw [UInt8.toNat_ofNat']
    omega
  have written : encodeNum (n : ℤ) = [UInt8.ofNat n] := by
    rw [encodeNum_natCast, single n positive (by omega), if_pos]
    intro top last
    cases (Option.some.inj last : UInt8.ofNat n = top)
    omega
  refine ⟨fun same => ?_, congrArg fun k : ℕ => encodeNum k⟩
  rw [written, encodeNum_natCast] at same
  split at same
  · have pos : m ≠ 0 := by
      rintro rfl
      cases same
    have lt : m < 256 := by
      by_contra large
      rw [leBytes, leDigits, if_neg pos, leDigits, if_neg (by omega)] at same
      exact List.cons_ne_nil _ _ (List.tail_eq_of_cons_eq same)
    rw [single m (by omega) lt] at same
    have digit := congrArg UInt8.toNat (List.head_eq_of_cons_eq same)
    rw [low, UInt8.toNat_ofNat'] at digit
    omega
  · have zero : (0 : UInt8) = UInt8.ofNat n := by
      have last := congrArg List.getLast? same
      rw [List.getLast?_concat] at last
      exact Option.some.inj last
    have value := congrArg UInt8.toNat zero
    rw [low, UInt8.toNat_zero] at value
    omega

theorem leValue_lt (b : Bytes) : leValue b < 256 ^ b.length := by
  induction b with
  | nil => exact Nat.one_pos
  | cons x b ih =>
      have byte := x.toNat_lt
      rw [List.length_cons, pow_succ]
      show x.toNat + 256 * leValue b < _
      omega

/-- A number that could be read fits its operand size. -/
theorem decodeNum_natAbs_lt {limit : ℕ} {b : Bytes} {n : ℤ}
    (read : decodeNum limit b = some n) : n.natAbs < 256 ^ limit := by
  unfold decodeNum at read
  split at read
  · cases read
  · rename_i short
    have bound : ∀ c : Bytes, c.length ≤ b.length → leValue c < 256 ^ limit := by
      intro c le
      exact (leValue_lt c).trans_le (Nat.pow_le_pow_right (by omega) (by omega))
    split at read
    · cases read
      exact Nat.pow_pos (by omega)
    · rename_i top last
      split at read
      · cases read
        exact bound b le_rfl
      · cases read
        rw [Int.natAbs_neg]
        apply bound
        have nonempty : b ≠ [] := by
          intro empty
          rw [empty] at last
          cases last
        have pos := List.length_pos_iff.mpr nonempty
        rw [List.length_append, List.length_dropLast, List.length_singleton]
        omega

theorem leValue_eq_zero_iff {b : Bytes} : leValue b = 0 ↔ ∀ x ∈ b, x = 0 := by
  induction b with
  | nil => exact iff_of_true rfl (by simp)
  | cons x b ih =>
      have head : x.toNat = 0 ↔ x = 0 := UInt8.toNat_inj (b := 0)
      rw [List.forall_mem_cons, ← ih, ← head]
      show x.toNat + 256 * leValue b = 0 ↔ _
      omega

/-- An element that is a number is true when the number is not zero. -/
theorem truthy_of_decodeNum {limit : ℕ} {b : Bytes} {n : ℤ}
    (read : decodeNum limit b = some n) : truthy b = decide (n ≠ 0) := by
  unfold decodeNum at read
  split at read
  · cases read
  · rcases List.eq_nil_or_concat' b with rfl | ⟨front, top, rfl⟩
    · cases read
      rfl
    · have value : ∀ last : UInt8, (leValue (front ++ [last]) : ℤ) ≠ 0 ↔
          (∃ x ∈ front, x ≠ 0) ∨ last ≠ 0 := by
        intro last
        rw [Ne, Int.natCast_eq_zero, leValue_eq_zero_iff, List.forall_mem_append,
          List.forall_mem_singleton, not_and_or]
        simp
      have whole : truthy (front ++ [top]) = true ↔
          (∃ x ∈ front, x ≠ 0) ∨ top ≠ 0 ∧ top ≠ 0x80 := by
        simp [truthy]
      simp only [List.getLast?_concat, List.dropLast_concat] at read
      rw [Bool.eq_iff_iff, whole, decide_eq_true_iff]
      split at read
      · rename_i low
        cases read
        have notSign : top ≠ 0x80 := by
          rintro rfl
          exact absurd low (by decide)
        rw [value top, and_iff_left notSign]
      · rename_i high
        cases read
        have nonzero : top ≠ 0 := by
          rintro rfl
          exact absurd (by decide) high
        have sign : top - 128 = 0 ↔ top = 0x80 := sub_eq_zero
        rw [neg_ne_zero, value (top - 128), and_iff_right nonzero, Ne, Ne, sign]

end P2PLending.Script
