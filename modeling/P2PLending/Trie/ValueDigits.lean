import P2PLending.Dlc.LoanValue
import P2PLending.Foundation.PlaceDigits
import P2PLending.Trie.OutcomeCombinations

/-! The digits of values. The quotients are those of doubles, which are exact for values that a
double holds, and the digits that are computed are those of the value as far as the quotients are. -/

namespace P2PLending.Trie

open Dlc (Result Fault u64Limit f64OfUsize)

theorem f64OfUsize_mul_pow {a : ℕ} (small : a < 2 ^ 53) (k : ℕ) :
    f64OfUsize (a * 2 ^ k) = a * 2 ^ k := by
  rcases Nat.eq_zero_or_pos a with rfl | pos
  · simp [f64OfUsize]
  · have some : a * 2 ^ k ≠ 0 := (Nat.mul_pos pos (Nat.two_pow_pos k)).ne'
    have below : a * 2 ^ k < 2 ^ (53 + k) := by
      rw [pow_add]
      exact Nat.mul_lt_mul_of_pos_right small (Nat.two_pow_pos k)
    have shift : Nat.log2 (a * 2 ^ k) - 52 ≤ k := by
      have log := (Nat.log2_lt some).mpr below
      omega
    have divides : 2 ^ (Nat.log2 (a * 2 ^ k) - 52) ∣ a * 2 ^ k :=
      (Nat.pow_dvd_pow 2 shift).trans (Nat.dvd_mul_left _ _)
    have exact' : a * 2 ^ k % 2 ^ (Nat.log2 (a * 2 ^ k) - 52) = 0 := Nat.mod_eq_zero_of_dvd divides
    have unit := Nat.two_pow_pos (Nat.log2 (a * 2 ^ k) - 52)
    rw [f64OfUsize, exact', if_neg (by omega), Nat.div_mul_cancel divides]

theorem two_pow_le_f64OfUsize {k x : ℕ} (le : 2 ^ k ≤ x) : 2 ^ k ≤ f64OfUsize x := by
  have own := f64OfUsize_mul_pow (show 1 < 2 ^ 53 by norm_num) k
  have mono := Dlc.f64OfUsize_mono le
  rw [Nat.one_mul] at own
  rwa [own] at mono

section Quotients
variable {a b x base : ℕ}

theorem floorOfQuotient_zero (base : ℕ) : floorOfQuotient 0 base = 0 := by
  have zero : f64OfUsize 0 = 0 := by decide +kernel
  simp [floorOfQuotient, zero]

theorem floorOfQuotient_le (some : 2 ≤ base) (x : ℕ) : floorOfQuotient x base ≤ x := by
  have divisor : 2 ≤ f64OfUsize base := Dlc.le_f64OfUsize some (by norm_num)
  have rounded := Dlc.f64OfUsize_le x
  generalize places : Nat.log2 (f64OfUsize base) + 54 = k
  generalize cut : (if f64OfUsize x * 2 ^ k % f64OfUsize base = 0 then 0 else 1) = c
  have bit : c ≤ 1 := by
    rw [← cut]
    split <;> omega
  have half : f64OfUsize x * 2 ^ k / f64OfUsize base ≤ f64OfUsize x * 2 ^ k / 2 :=
    Nat.div_le_div_left divisor (by omega)
  have scaled : f64OfUsize x * 2 ^ k ≤ (x + x / 2 ^ 52) * 2 ^ k := Nat.mul_le_mul_right _ rounded
  have small : 4 * (x / 2 ^ 52 * 2 ^ k) ≤ x * 2 ^ k := by
    rw [← Nat.mul_assoc]
    exact Nat.mul_le_mul_right _ (by omega)
  have unit := Nat.two_pow_pos k
  have again := Dlc.f64OfUsize_le (2 * (f64OfUsize x * 2 ^ k / f64OfUsize base) + c)
  rw [Nat.add_mul] at scaled
  rw [floorOfQuotient]
  simp only [places, cut]
  refine (min_le_left _ _).trans (Nat.le_of_lt_succ ?_)
  rw [Nat.div_lt_iff_lt_mul (Nat.two_pow_pos _), Nat.succ_eq_add_one, Nat.add_mul x, pow_succ,
    ← Nat.mul_assoc]
  omega

/-- A quotient below the next number is not rounded up to it. -/
theorem f64OfUsize_lt_of_quotient {q X W : ℕ} (small : a < 2 ^ 53) (wide : b * 2 ^ 54 < W)
    (near : X * b ≤ W * a + b) (next : a < (q + 1) * b) (below : X < (q + 1) * W) :
    f64OfUsize X < (q + 1) * W := by
  by_contra reached
  rw [Nat.not_lt] at reached
  generalize unit : 2 ^ (Nat.log2 X - 52) = u
  have pos : 0 < u := by
    rw [← unit]
    exact Nat.two_pow_pos _
  have parts := Nat.div_add_mod X u
  have rounded : (q + 1) * W ≤ X + u / 2 ∧ 52 < Nat.log2 X := by
    rcases Nat.lt_or_ge 52 (Nat.log2 X) with long | short
    · refine ⟨?_, long⟩
      rw [f64OfUsize, unit] at reached
      split at reached
      · rename_i up
        rw [Nat.add_mul (X / u), one_mul, Nat.mul_comm (X / u)] at reached
        omega
      · rw [Nat.mul_comm (X / u)] at reached
        omega
    · rw [Dlc.f64OfUsize_small short] at reached
      omega
  have places : 2 ^ 52 * u ≤ X := by
    have whole : 2 ^ 52 * u = 2 ^ Nat.log2 X := by
      rw [← unit, ← pow_add, Nat.add_sub_cancel' rounded.2.le]
    have some : X ≠ 0 := by
      rintro rfl
      simp at rounded
    rw [whole]
    exact Nat.log2_self_le some
  -- Times the divisor: what is missing is more than the rounding adds.
  have missing : W * (a + 1) ≤ (q + 1) * W * b := by
    rw [Nat.mul_comm W, Nat.mul_right_comm]
    exact Nat.mul_le_mul_right _ next
  have added : 2 ^ 53 * ((q + 1) * W) ≤ (2 ^ 53 + 1) * X := by omega
  have scaled := Nat.mul_le_mul_right b added
  have most : W * a ≤ W * (2 ^ 53 - 1) := Nat.mul_le_mul_left _ (by omega)
  rw [Nat.mul_assoc (2 ^ 53), Nat.mul_assoc (2 ^ 53 + 1)] at scaled
  rw [Nat.mul_add, Nat.mul_one] at missing
  omega

/-- The quotients of values that a double holds are exact. -/
theorem floorOfQuotient_small (some : 2 ≤ base) (small : x < 2 ^ 53) :
    floorOfQuotient x base = x / base := by
  have own : f64OfUsize x = x := by simpa using f64OfUsize_mul_pow small 0
  have divisor : 2 ≤ f64OfUsize base := Dlc.le_f64OfUsize some (by norm_num)
  have quotients : x / f64OfUsize base = x / base := by
    rcases Nat.lt_or_ge base (2 ^ 53) with held | large
    · rw [show f64OfUsize base = base by simpa using f64OfUsize_mul_pow held 0]
    · have least := two_pow_le_f64OfUsize large
      rw [Nat.div_eq_of_lt (by omega), Nat.div_eq_of_lt (by omega)]
  rw [floorOfQuotient, own, ← quotients]
  generalize f64OfUsize base = b at divisor ⊢
  generalize places : Nat.log2 b + 54 = k
  generalize cut : (if x * 2 ^ k % b = 0 then 0 else 1) = c
  have bit : c ≤ 1 := by
    rw [← cut]
    split <;> omega
  have unit := Nat.two_pow_pos k
  have wide : b * 2 ^ 54 < 2 ^ (k + 1) := by
    have log : b < 2 ^ (Nat.log2 b + 1) := Nat.lt_log2_self
    rw [← places, show Nat.log2 b + 54 + 1 = Nat.log2 b + 1 + 54 by omega, pow_add]
    exact Nat.mul_lt_mul_of_pos_right log (by norm_num)
  have next : x < (x / b + 1) * b := by
    rw [Nat.mul_comm]
    exact Nat.lt_mul_div_succ x (by omega)
  have near : (2 * (x * 2 ^ k / b) + c) * b ≤ 2 ^ (k + 1) * x + b := by
    have quotient := Nat.div_mul_le_self (x * 2 ^ k) b
    have rest : c * b ≤ 1 * b := Nat.mul_le_mul_right _ bit
    rw [Nat.add_mul, Nat.mul_assoc, pow_succ, Nat.mul_right_comm, Nat.mul_comm (2 ^ k)]
    omega
  have below : 2 * (x * 2 ^ k / b) + c < (x / b + 1) * 2 ^ (k + 1) := by
    have quotient : x * 2 ^ k / b < (x / b + 1) * 2 ^ k := by
      rw [Nat.div_lt_iff_lt_mul (by omega), Nat.mul_right_comm]
      exact Nat.mul_lt_mul_of_pos_right next unit
    rw [pow_succ, ← Nat.mul_assoc]
    omega
  have above : x / b * 2 ^ (k + 1) ≤ 2 * (x * 2 ^ k / b) + c := by
    have quotient : x / b * 2 ^ k ≤ x * 2 ^ k / b := by
      rw [Nat.le_div_iff_mul_le (by omega), Nat.mul_right_comm]
      exact Nat.mul_le_mul_right _ (Nat.div_mul_le_self x b)
    rw [pow_succ, ← Nat.mul_assoc]
    omega
  have held : x / b < 2 ^ 53 := (Nat.div_le_self x b).trans_lt small
  have least := Dlc.f64OfUsize_mono above
  rw [f64OfUsize_mul_pow held] at least
  have rounded := f64OfUsize_lt_of_quotient small wide near next below
  rw [Nat.div_eq_of_lt_le least rounded]
  exact min_eq_left (by rw [u64Limit]; omega)

end Quotients

section Digits
variable {base n x v fuel : ℕ} {p ds : List ℕ}

/-- Every quotient on the way to the digits of a value is what it is without rounding. -/
def QuotientsExact (base x : ℕ) : Prop :=
  ∀ i, floorOfQuotient (x / base ^ i) base = x / base ^ (i + 1)

theorem QuotientsExact.rest (exact' : QuotientsExact base x) : QuotientsExact base (x / base) := by
  intro i
  have next := exact' (i + 1)
  rwa [pow_succ', ← Nat.div_div_eq_div_mul, pow_succ', ← Nat.div_div_eq_div_mul] at next

theorem quotientsExact_small (some : 2 ≤ base) (small : x < 2 ^ 53) : QuotientsExact base x := by
  intro i
  rw [floorOfQuotient_small some ((Nat.div_le_self _ _).trans_lt small), Nat.div_div_eq_div_mul,
    pow_succ]

theorem digitsOf_exact (some : 2 ≤ base) (exact' : QuotientsExact base x)
    (enough : x < 2 ^ fuel) : digitsOf base fuel x = .ok (Nat.digits base x) := by
  induction fuel generalizing x with
  | zero =>
      have none : x = 0 := by simpa using enough
      rw [none, Nat.digits_zero]
      rfl
  | succ fuel ih =>
      cases x with
      | zero =>
          rw [Nat.digits_zero]
          rfl
      | succ x =>
          have smaller : (x + 1) / base ≤ (x + 1) / 2 := Nat.div_le_div_left some (by omega)
          have rest : (x + 1) / base < 2 ^ fuel := by
            rw [pow_succ] at enough
            omega
          have quotient : floorOfQuotient (x + 1) base = (x + 1) / base := by
            simpa using exact' 0
          rw [digitsOf, if_neg (by omega), quotient, ih exact'.rest rest, Checked.ok_bind,
            Nat.digits_def' some (Nat.succ_pos x)]
          rfl

theorem digitsOf_lt (pos : 0 < base) (computed : digitsOf base fuel x = .ok ds) :
    ∀ d ∈ ds, d < base := by
  induction fuel generalizing x ds with
  | zero =>
      cases x with
      | zero =>
          cases computed
          simp
      | succ x => cases computed
  | succ fuel ih =>
      cases x with
      | zero =>
          cases computed
          simp
      | succ x =>
          rw [digitsOf, if_neg (by omega)] at computed
          obtain ⟨rest, further, made⟩ := Checked.bind_eq_ok.mp computed
          cases made
          exact List.forall_mem_cons.mpr ⟨Nat.mod_lt _ pos, ih further⟩

theorem decomposeValue_eq_ok : decomposeValue x base n = .ok p ↔
    ∃ ds, digitsOf base 65 x = .ok ds ∧ ds.length ≤ n ∧
      (ds ++ List.replicate (n - ds.length) 0).reverse = p := by
  rw [decomposeValue, Checked.bind_eq_ok]
  refine exists_congr fun ds => and_congr_right fun _ => ?_
  simp [Dlc.assertEq, Checked.bind_eq_ok]

theorem decomposed_digits (pos : 0 < base) (computed : decomposeValue x base n = .ok p) :
    p.length = n ∧ ∀ d ∈ p, d < base := by
  obtain ⟨ds, digits, room, rfl⟩ := decomposeValue_eq_ok.mp computed
  refine ⟨by simp [room], fun d listed => ?_⟩
  rw [List.mem_reverse, List.mem_append] at listed
  rcases listed with own | added
  · exact digitsOf_lt pos digits d own
  · rw [List.eq_of_mem_replicate added]
    exact pos

theorem decomposeValue_exact (some : 2 ≤ base) (exact' : QuotientsExact base x)
    (below : x < base ^ n) (word : x < u64Limit) :
    decomposeValue x base n = .ok (places base n x) := by
  obtain ⟨length, same⟩ := places_of_digits some below
  have enough : x < 2 ^ 65 := word.trans (by decide)
  exact decomposeValue_eq_ok.mpr ⟨_, digitsOf_exact some exact' enough, length, same⟩

/-! Composing. -/

theorem composeValue_go_eq_ok (pos : 0 < base) {c : ℕ} (word : c < u64Limit) :
    composeValue.go base c p = .ok v ↔ c + ofPlaces base p = v ∧ v < u64Limit ∧
      (p ≠ [] → base ^ (p.length - 1) < u64Limit) := by
  induction p generalizing c with
  | nil =>
      rw [composeValue.go, Except.ok.injEq, ofPlaces_nil, Nat.add_zero]
      simp only [ne_eq, not_true_eq_false, false_imp_iff, and_true]
      omega
  | cons d p ih =>
      have shorter : base ^ (p.length - 1) ≤ base ^ p.length :=
        Nat.pow_le_pow_right pos (Nat.sub_le _ _)
      rw [composeValue.go, ofPlaces_cons]
      simp only [usizeMul, usizeAdd, Checked.bind_eq_ok, Checked.fit_eq_ok, Checked.mul_eq_ok,
        Checked.add_eq_ok, ne_eq, List.cons_ne_nil, not_false_eq_true, forall_const,
        List.length_cons, Nat.add_sub_cancel]
      constructor
      · rintro ⟨_, ⟨power, rfl⟩, _, ⟨_, rfl⟩, _, ⟨sum, rfl⟩, rest⟩
        obtain ⟨total, fits, _⟩ := (ih sum).mp rest
        exact ⟨by omega, fits, power⟩
      · rintro ⟨total, fits, power⟩
        have sum : c + d * base ^ p.length < u64Limit := by omega
        refine ⟨_, ⟨power, rfl⟩, _, ⟨by omega, rfl⟩, _, ⟨sum, rfl⟩, (ih sum).mpr ?_⟩
        exact ⟨by omega, fits, fun _ => shorter.trans_lt power⟩

theorem composeValue_eq_ok (pos : 0 < base) : composeValue base p = .ok v ↔
    ofPlaces base p = v ∧ v < u64Limit ∧ (p ≠ [] → base ^ (p.length - 1) < u64Limit) := by
  rw [composeValue, composeValue_go_eq_ok pos (by decide), Nat.zero_add]

end Digits

end P2PLending.Trie
