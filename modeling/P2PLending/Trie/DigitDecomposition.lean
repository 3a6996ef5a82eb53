import P2PLending.Trie.OutcomeCells

/-! Decomposing values into digits of any base and composing them again. The quotients are those of
doubles, so the digits are those of the value as far as the rounding keeps every quotient. -/

namespace P2PLending.Trie

open Dlc (Result Fault u64Limit f64OfUsize)

section Digits
variable {base n x v fuel : ℕ} {p ds : List ℕ}

theorem digitsOf_more (computed : digitsOf base fuel x = .ok ds) :
    digitsOf base (fuel + 1) x = .ok ds := by
  induction fuel generalizing x ds with
  | zero =>
      cases x with
      | zero => exact computed
      | succ x => cases computed
  | succ fuel ih =>
      cases x with
      | zero => exact computed
      | succ x =>
          rw [digitsOf] at computed ⊢
          split at computed
          · cases computed
          · rename_i some
            obtain ⟨rest, further, made⟩ := Checked.bind_eq_ok.mp computed
            rw [if_neg some, ih further, Checked.ok_bind]
            exact made

/-! Both ways. -/

/-- Every value of so many digits that is a machine word is decomposed into that many digits that
compose it again, and all digits compose a value that is decomposed into them. -/
def DigitsExact (base nbDigits : ℕ) : Prop :=
  (∀ value < base ^ nbDigits, value < u64Limit →
    ∃ digits, decomposeValue value base nbDigits = .ok digits ∧ digits.length = nbDigits ∧
      (∀ d ∈ digits, d < base) ∧ composeValue base digits = .ok value) ∧
  ∀ digits, digits.length = nbDigits → (∀ d ∈ digits, d < base) →
    ∃ value, composeValue base digits = .ok value ∧
      decomposeValue value base nbDigits = .ok digits

theorem composeValue_places (some : 2 ≤ base) (few : base ^ n ≤ u64Limit) (below : x < base ^ n) :
    composeValue base (places base n x) = .ok x := by
  refine (composeValue_eq_ok (by omega)).mpr ⟨ofPlaces_places below, by omega, fun nonempty => ?_⟩
  have digits : n ≠ 0 := by
    rintro rfl
    exact nonempty rfl
  have fewer : base ^ (n - 1) < base ^ n := Nat.pow_lt_pow_right some (by omega)
  rw [length_places]
  omega

theorem digitsExact_of_quotients (some : 2 ≤ base) (few : base ^ n ≤ u64Limit)
    (quotients : ∀ value < base ^ n, floorOfQuotient value base = value / base) :
    DigitsExact base n := by
  have decomposed : ∀ value < base ^ n,
      decomposeValue value base n = .ok (places base n value) := by
    intro value below
    refine decomposeValue_exact some (fun i => ?_) below (by omega)
    rw [quotients _ ((Nat.div_le_self _ _).trans_lt below), Nat.div_div_eq_div_mul, pow_succ]
  refine ⟨fun value below _ => ?_, fun digits length each => ?_⟩
  · exact ⟨_, decomposed value below, length_places _ _ _, places_lt (by omega) _ _,
      composeValue_places some few below⟩
  · have below : ofPlaces base digits < base ^ n := by
      rw [← length]
      exact ofPlaces_lt some each
    have own : places base n (ofPlaces base digits) = digits := by
      rw [← length, places_ofPlaces each]
    have composed := composeValue_places some few below
    have again := decomposed _ below
    rw [own] at composed again
    exact ⟨_, composed, again⟩

/-- All values that a double holds. -/
theorem digitsExact_small (some : 2 ≤ base) (few : base ^ n ≤ 2 ^ 53) : DigitsExact base n := by
  refine digitsExact_of_quotients some ?_ fun value below => ?_
  · rw [u64Limit]
    omega
  · exact floorOfQuotient_small some (by omega)

/-- The digits that compose a value are those that were computed, without the zeros in front. -/
theorem ofDigits_of_composed (pos : 0 < base) (digits : digitsOf base 65 x = .ok ds)
    (computed : decomposeValue x base n = .ok p) (composed : composeValue base p = .ok v) :
    Nat.ofDigits base ds = v := by
  obtain ⟨ds', digits', _, rfl⟩ := decomposeValue_eq_ok.mp computed
  rw [digits, Except.ok.injEq] at digits'
  obtain ⟨value, _⟩ := (composeValue_eq_ok pos).mp composed
  rwa [ofPlaces, List.reverse_reverse, Nat.ofDigits_append_replicate_zero, ← digits'] at value

theorem DigitsExact.few (some : 2 ≤ base) (exact' : DigitsExact base n) :
    base ^ n ≤ u64Limit := by
  have each : ∀ d ∈ List.replicate n (base - 1), d < base := by
    intro d listed
    rw [List.eq_of_mem_replicate listed]
    omega
  obtain ⟨value, composed, _⟩ := exact'.2 _ List.length_replicate each
  obtain ⟨rfl, word, _⟩ := (composeValue_eq_ok (by omega)).mp composed
  have greatest := ofPlaces_greatest (b := base) (p := List.replicate n (base - 1)) (by omega)
    fun d listed => List.eq_of_mem_replicate listed
  rw [List.length_replicate] at greatest
  omega

theorem DigitsExact.quotient (some : 2 ≤ base) (exact' : DigitsExact base n)
    (below : x < base ^ n) : floorOfQuotient x base = x / base := by
  have few := exact'.few some
  cases x with
  | zero => rw [floorOfQuotient_zero, Nat.zero_div]
  | succ x =>
      have smaller := floorOfQuotient_le some (x + 1)
      obtain ⟨p, computed, _, _, composed⟩ := exact'.1 (x + 1) below (by omega)
      obtain ⟨q, computed', _, _, composed'⟩ :=
        exact'.1 (floorOfQuotient (x + 1) base) (by omega) (by omega)
      obtain ⟨ds, digits, _⟩ := decomposeValue_eq_ok.mp computed
      have value := ofDigits_of_composed (by omega) digits computed composed
      rw [digitsOf, if_neg (by omega)] at digits
      obtain ⟨rest, further, made⟩ := Checked.bind_eq_ok.mp digits
      cases made
      have quotient := ofDigits_of_composed (by omega) (digitsOf_more further) computed' composed'
      rw [Nat.ofDigits_cons, quotient] at value
      have parts := Nat.mod_add_div (x + 1) base
      exact Nat.eq_of_mul_eq_mul_left (show 0 < base by omega) (by omega)

/-- Decomposing and composing are exact for a number of digits when the values are machine words
and the double that stands for each of their quotients has its whole part. -/
theorem digitsExact_iff (base nbDigits : ℕ) (some : 2 ≤ base) :
    DigitsExact base nbDigits ↔ base ^ nbDigits ≤ u64Limit ∧
      ∀ value < base ^ nbDigits, floorOfQuotient value base = value / base := by
  constructor
  · exact fun exact' => ⟨exact'.few some, fun _ below => exact'.quotient some below⟩
  · exact fun quotients => digitsExact_of_quotients some quotients.1 quotients.2

theorem digitsExact_three : DigitsExact 10 3 :=
  (digitsExact_iff 10 3 (by decide)).mpr
    ⟨by decide, fun _ below => floorOfQuotient_small (by decide) (below.trans (by decide))⟩

/-- The double nearest to the value is larger, and so is the tenth of it. -/
theorem sixteen_digits_inexact : 9007199254740999 < 10 ^ 16 ∧
    decomposeValue 9007199254740999 10 16 = .ok [9, 0, 0, 7, 1, 9, 9, 2, 5, 4, 7, 4, 1, 0, 0, 9] ∧
    composeValue 10 [9, 0, 0, 7, 1, 9, 9, 2, 5, 4, 7, 4, 1, 0, 0, 9] = .ok 9007199254741009 ∧
    ¬ DigitsExact 10 16 := by
  have computed : decomposeValue 9007199254740999 10 16 =
      .ok [9, 0, 0, 7, 1, 9, 9, 2, 5, 4, 7, 4, 1, 0, 0, 9] := by rfl
  have composed : composeValue 10 [9, 0, 0, 7, 1, 9, 9, 2, 5, 4, 7, 4, 1, 0, 0, 9] =
      .ok 9007199254741009 := by rfl
  refine ⟨by decide, computed, composed, fun exact' => ?_⟩
  obtain ⟨digits, decomposed, _, _, again⟩ := exact'.1 9007199254740999 (by decide) (by decide)
  rw [computed, Except.ok.injEq] at decomposed
  rw [← decomposed, composed] at again
  exact absurd (Except.ok.inj again) (by decide)

end Digits

end P2PLending.Trie
