import P2PLending.Foundation.BinaryDigits
import P2PLending.Trie.ValueDigits

/-! The prefixes of outcomes as cells. What is computed for digits of base two is said in terms of
the numbers that the prefixes cover. -/

namespace P2PLending.Trie

open Dlc (Result Fault u64Limit f64OfUsize)

/-! Decomposing the values that a double holds. -/

/-- The digits that are computed are those of the value. -/
def Decomposes (nbDigits value : ℕ) : Prop :=
  decomposeValue value 2 nbDigits = .ok (binary nbDigits value)

theorem decomposes_small {n x : ℕ} (few : n ≤ 53) (below : x < 2 ^ n) : Decomposes n x := by
  have small : x < 2 ^ 53 := below.trans_le (Nat.pow_le_pow_right (by omega) few)
  have word : x < u64Limit := small.trans (by decide)
  rw [Decomposes, binary_eq]
  exact decomposeValue_exact le_rfl (quotientsExact_small le_rfl small) below word

/-! Values that a double does not hold have other digits, but none of a value too small. -/

theorem two_pow_le_floorOfQuotient {k x : ℕ} (le : 2 ^ (k + 1) ≤ x) (few : k < 64) :
    2 ^ k ≤ floorOfQuotient x 2 := by
  have two : f64OfUsize 2 = 2 := by decide +kernel
  have log : Nat.log2 2 = 1 := by decide +kernel
  have least := two_pow_le_f64OfUsize le
  have half : f64OfUsize x * 2 ^ (1 + 54) / 2 = f64OfUsize x * 2 ^ 54 := by
    rw [show f64OfUsize x * 2 ^ (1 + 54) = 2 * (f64OfUsize x * 2 ^ 54) by ring,
      Nat.mul_div_cancel_left _ (by omega)]
  have scaled : 2 ^ (k + 56) ≤ 2 * (f64OfUsize x * 2 ^ 54) := by
    calc 2 ^ (k + 56) = 2 * (2 ^ (k + 1) * 2 ^ 54) := by ring
      _ ≤ 2 * (f64OfUsize x * 2 ^ 54) := Nat.mul_le_mul_left _ (Nat.mul_le_mul_right _ least)
  have power : 2 ^ k * 2 ^ (1 + 54 + 1) = 2 ^ (k + 56) := by ring
  have limit : 2 ^ k ≤ 2 ^ 63 := Nat.pow_le_pow_right (by omega) (by omega)
  rw [floorOfQuotient, two, log]
  refine le_min ?_ (by rw [u64Limit]; omega)
  rw [Nat.le_div_iff_mul_le (Nat.two_pow_pos _), power, half]
  exact two_pow_le_f64OfUsize (scaled.trans (Nat.le_add_right _ _))

theorem digitsOf_least {fuel x : ℕ} {ds : List ℕ} (computed : digitsOf 2 fuel x = .ok ds) :
    ∀ k ≤ 64, 2 ^ k ≤ x → 2 ^ k ≤ Nat.ofDigits 2 ds := by
  induction fuel generalizing x ds with
  | zero =>
      cases x with
      | zero =>
          intro k _ le
          have pos := Nat.two_pow_pos k
          omega
      | succ x => cases computed
  | succ fuel ih =>
      cases x with
      | zero =>
          intro k _ le
          have pos := Nat.two_pow_pos k
          omega
      | succ x =>
          rw [digitsOf, if_neg (by omega)] at computed
          obtain ⟨rest, further, made⟩ := Checked.bind_eq_ok.mp computed
          cases made
          have least := ih further
          intro k few le
          rw [Nat.ofDigits_cons]
          cases k with
          | zero =>
              rcases Nat.eq_zero_or_pos x with rfl | pos
              · simp
              · have more := least 0 (by omega) (two_pow_le_floorOfQuotient (by omega) (by omega))
                simp only [pow_zero] at more ⊢
                omega
          | succ k =>
              have more := least k (by omega) (two_pow_le_floorOfQuotient le (by omega))
              rw [pow_succ]
              omega

/-- The digits that are computed are those of some number, no smaller than a power of two that the
value is no smaller than. -/
theorem exists_decomposed {n x : ℕ} {p : List ℕ} (computed : decomposeValue x 2 n = .ok p) :
    ∃ y < 2 ^ n, decomposeValue x 2 n = .ok (binary n y) ∧ ∀ k ≤ 64, 2 ^ k ≤ x → 2 ^ k ≤ y := by
  obtain ⟨ds, digits, _, made⟩ := decomposeValue_eq_ok.mp computed
  obtain ⟨length, each⟩ := decomposed_digits (by omega) computed
  have value : ofBinary p = Nat.ofDigits 2 ds := by
    rw [← made, ofBinary_reverse, Nat.ofDigits_append_replicate_zero]
  have own := binary_ofBinary each
  have below := ofBinary_lt each
  rw [length] at own below
  refine ⟨ofBinary p, below, by rw [own]; exact computed, fun k few le => ?_⟩
  rw [value]
  exact digitsOf_least digits k few le

/-! Intervals. -/

theorem usizeSub_of_le {a b : ℕ} (below : b ≤ a) : usizeSub a b = .ok (a - b) :=
  Checked.sub_of_le _ below

theorem usizeSub_of_lt {a b : ℕ} (above : a < b) :
    usizeSub a b = .error (.panic "attempt to subtract with overflow") := by
  rw [usizeSub, Checked.sub, if_neg (Nat.not_le.mpr above)]

theorem usizeAdd_of_lt {a b : ℕ} (below : a + b < u64Limit) : usizeAdd a b = .ok (a + b) :=
  Checked.add_eq_ok.mpr ⟨below, rfl⟩

theorem composeValue_two {p : List ℕ} (digits : ∀ d ∈ p, d < 2) (short : p.length ≤ 64) :
    composeValue 2 p = .ok (ofBinary p) := by
  have power : 2 ^ p.length ≤ 2 ^ 64 := Nat.pow_le_pow_right (by omega) short
  refine (composeValue_eq_ok (by omega)).mpr ⟨(ofBinary_eq p).symm, (ofBinary_lt digits).trans_le power, fun _ => ?_⟩
  exact Nat.pow_lt_pow_right (by omega) (by omega)

section Cells
variable {c : Cell} {n nbDigits : ℕ}

theorem length_path : (c.path n).length = n - c.width := length_binary _ _

theorem computeIntervalFromPrefix_cell (fits : c.Fits n) (short : n ≤ 64) :
    computeIntervalFromPrefix (c.path n) n 2 = .ok (c.low, c.low + 2 ^ c.width - 1) := by
  have within := fits.1
  have suffix : n - (c.path n).length = c.width := by
    rw [length_path]
    omega
  have digits := binary_lt_two (n - c.width) c.index
  have value : ofBinary (c.path n) = c.index := by
    rw [Cell.path, ofBinary_binary, Nat.mod_eq_of_lt fits.2]
  have filled : ∀ bit < 2, composeValue 2 (c.path n ++ List.replicate c.width bit) =
      .ok (c.low + ofBinary (List.replicate c.width bit)) := by
    intro bit small
    rw [composeValue_two, ofBinary_append, value, List.length_replicate, Cell.low]
    · intro d listed
      rcases List.mem_append.mp listed with own | added
      · exact digits d own
      · rw [List.eq_of_mem_replicate added]
        exact small
    · rw [List.length_append, length_path, List.length_replicate]
      omega
  have zeros : ofBinary (List.replicate c.width 0) = 0 := by
    rw [← binary_zero, ofBinary_binary, Nat.zero_mod]
  have ones : ofBinary (List.replicate c.width 1) + 1 = 2 ^ c.width := by
    have all := binary_ofBinary (p := List.replicate c.width 1) fun d listed => by
      rw [List.eq_of_mem_replicate listed]
      omega
    have below := @ofBinary_lt (List.replicate c.width 1) fun d listed => by
      rw [List.eq_of_mem_replicate listed]
      omega
    rw [List.length_replicate] at all below
    have last := binary_eq_ones.mp (show ∀ d ∈ binary c.width (ofBinary (List.replicate c.width 1)),
      d = 1 by
        rw [all]
        exact fun d listed => List.eq_of_mem_replicate listed)
    rwa [Nat.mod_eq_of_lt below] at last
  rw [computeIntervalFromPrefix, usizeSub_of_le (by rw [length_path]; omega), Checked.ok_bind,
    suffix, filled 0 (by omega), Checked.ok_bind, filled 1 (by omega), Checked.ok_bind, zeros]
  have stop : c.low + ofBinary (List.replicate c.width 1) = c.low + 2 ^ c.width - 1 := by omega
  rw [stop]
  rfl

/-! Prefixes for another number of digits. -/

theorem adjustPrefixSize_cell (fits : c.Fits n) : adjustPrefixSize (c.path n) nbDigits c.width =
    if c.width ≤ nbDigits then
      .ok (if c.index < 2 ^ (nbDigits - c.width) then some (c.path nbDigits) else none)
    else .error (.panic "attempt to subtract with overflow") := by
  rw [adjustPrefixSize]
  by_cases room : c.width ≤ nbDigits
  · rw [usizeSub_of_le room, Checked.ok_bind, if_pos room]
    dsimp only
    rw [length_path]
    by_cases shorter : n - c.width ≤ nbDigits - c.width
    · have below : c.index < 2 ^ (nbDigits - c.width) :=
        fits.2.trans_le (Nat.pow_le_pow_right (by omega) shorter)
      rw [if_pos shorter, if_pos below, prePadVec, length_path]
      by_cases same : n - c.width = nbDigits - c.width
      · rw [if_pos same, Checked.ok_bind, Cell.path, Cell.path, same]
        rfl
      · have padded := replicate_append_binary (nbDigits - c.width - (n - c.width)) fits.2
        rw [Nat.sub_add_cancel shorter] at padded
        rw [if_neg same, usizeSub_of_le shorter, Checked.ok_bind, Cell.path, padded]
        rfl
    · rw [if_neg shorter]
      have less : nbDigits - c.width ≤ n - c.width := by omega
      have extra : n - c.width - (n - c.width - (nbDigits - c.width)) = nbDigits - c.width := by
        omega
      have dropped : (c.path n).drop (n - c.width - (nbDigits - c.width)) = c.path nbDigits := by
        rw [Cell.path, drop_binary (by omega), extra]
        rfl
      have taken : (∀ x ∈ (c.path n).take (n - c.width - (nbDigits - c.width)), x = 0) ↔
          c.index < 2 ^ (nbDigits - c.width) := by
        have small : c.index / 2 ^ (nbDigits - c.width) <
            2 ^ (n - c.width - (nbDigits - c.width)) := by
          have quotient := div_pow_lt fits.2 (Nat.sub_le (n - c.width) (nbDigits - c.width))
          rwa [Nat.sub_sub_self less] at quotient
        rw [Cell.path, take_binary (by omega), extra, binary_eq_zeros, Nat.mod_eq_of_lt small,
          Nat.div_eq_zero_iff_lt (Nat.two_pow_pos _)]
      rw [dropped]
      simp only [taken]
      split
      next => rfl
      next => rfl
  · rw [usizeSub_of_lt (by omega), if_neg room]
    rfl

theorem fits_of {n x : ℕ} (below : x < 2 ^ n) {w : ℕ} (within : w ≤ n) : (Cell.of w x).Fits n :=
  (Cell.holds_of w x).fits within below

theorem numToVec_cell {x y ignored : ℕ} (digits : decomposeValue x 2 n = .ok (binary n y))
    (within : ignored ≤ n) : numToVec x n ignored 2 = .ok ((Cell.of ignored y).path n) := by
  rw [numToVec, digits, Checked.ok_bind, length_binary, usizeSub_of_le within, Checked.ok_bind,
    take_binary (Nat.sub_le _ _), Nat.sub_sub_self within]
  rfl

theorem numToVec_within {x ignored : ℕ} {p : List ℕ} (computed : numToVec x n ignored 2 = .ok p) :
    ∃ y < 2 ^ n, ignored ≤ n ∧ p = (Cell.of ignored y).path n := by
  obtain ⟨decomposed, digits, rest⟩ := Checked.bind_eq_ok.mp computed
  obtain ⟨y, below, same, _⟩ := exists_decomposed digits
  rw [digits] at same
  cases same
  obtain ⟨_, subtracted, _⟩ := Checked.bind_eq_ok.mp rest
  have within := (Checked.sub_eq_ok.mp subtracted).1
  rw [length_binary] at within
  rw [numToVec_cell digits within] at computed
  cases computed
  exact ⟨y, below, within, rfl⟩

/-- From the cell that ends with the value's own of the width of the error: the smallest one that
ends there and holds the value. -/
structure EndsAt (e x : ℕ) (c : Cell) : Prop where
  width : c.width ≤ e
  low : c.low ≤ x
  high : c.low + 2 ^ c.width = (Cell.of e x).low + 2 ^ e
  least : c.width ≠ 0 → x < c.low + 2 ^ (c.width - 1)

/-- The same with the cell that starts where the value's own of that width does. -/
structure StartsAt (e x : ℕ) (c : Cell) : Prop where
  width : c.width ≤ e
  low : c.low = (Cell.of e x).low
  high : x < c.low + 2 ^ c.width
  least : c.width ≠ 0 → c.low + 2 ^ (c.width - 1) ≤ x

theorem path_of_append {w e x : ℕ} (below : w ≤ e) (within : e ≤ n) :
    (Cell.of e x).path n ++ binary (e - w) (x / 2 ^ w) = (Cell.of w x).path n := by
  have split : n - w = n - e + (e - w) := by omega
  rw [Cell.path, Cell.path, Cell.of, Cell.of, split, binary_add, ← div_pow_add,
    Nat.sub_add_cancel below]

theorem coveringPrefix_ends {x e : ℕ} (exact' : Decomposes n x) (within : e ≤ n) :
    ∃ c : Cell, coveringPrefix x e n 1 = .ok (c.path n) ∧ EndsAt e x c := by
  obtain ⟨w, below, taken, ones, least⟩ := leading_ones e x
  refine ⟨Cell.of w x, ?_, below, Cell.low_le w x, Cell.ends_with below ones, fun some =>
    Cell.low_half some (least some)⟩
  rw [coveringPrefix, exact', Checked.ok_bind, usizeSub_of_le within, Checked.ok_bind,
    take_binary (Nat.sub_le _ _), drop_binary (Nat.sub_le _ _), Nat.sub_sub_self within, taken,
    ← path_of_append below within]
  rfl

theorem coveringPrefix_starts {x y e : ℕ} (digits : decomposeValue x 2 n = .ok (binary n y))
    (within : e ≤ n) : ∃ c : Cell, coveringPrefix x e n 0 = .ok (c.path n) ∧ StartsAt e y c := by
  obtain ⟨w, below, taken, zeros, least⟩ := leading_zeros e y
  refine ⟨Cell.of w y, ?_, below, Cell.starts_with below zeros, Cell.lt_high w y, fun some =>
    Cell.high_half some (least some)⟩
  rw [coveringPrefix, digits, Checked.ok_bind, usizeSub_of_le within, Checked.ok_bind,
    take_binary (Nat.sub_le _ _), drop_binary (Nat.sub_le _ _), Nat.sub_sub_self within, taken,
    ← path_of_append below within]
  rfl

/-- The smallest cell that holds both ends. -/
theorem computeMinSupportCoveringPrefix_cell {start stop minSupport low high : ℕ}
    (left : minSupport ≤ start)
    (digits : decomposeValue (start - minSupport) 2 n = .ok (binary n low))
    (sum : stop + minSupport < u64Limit)
    (digits' : decomposeValue (stop + minSupport) 2 n = .ok (binary n high))
    (below : low < 2 ^ n) (below' : high < 2 ^ n) :
    ∃ c : Cell, computeMinSupportCoveringPrefix start stop minSupport n = .ok (c.path n) ∧
      c.width ≤ n ∧ c.Holds low ∧ c.Holds high ∧
      ∀ d : Cell, d.width ≤ n → d.Holds low → d.Holds high → c.width ≤ d.width := by
  obtain ⟨w, within, taken, same, least⟩ := common_digits n low high
  have bound : ∀ {x w}, x < 2 ^ n → w ≤ n → x / 2 ^ w < 2 ^ (n - w) := fun small inside =>
    (fits_of small inside).2
  refine ⟨Cell.of w low, ?_, within, Cell.holds_of _ _, ?_, fun d inside first last => ?_⟩
  · rw [computeMinSupportCoveringPrefix, usizeSub_of_le left, Checked.ok_bind, usizeAdd_of_lt sum,
      Checked.ok_bind, digits, Checked.ok_bind, digits', Checked.ok_bind, taken]
    rfl
  · exact (binary_inj (bound below within) (bound below' within) same).symm
  · by_contra smaller
    have less : d.width < w := Nat.not_le.mp smaller
    have further : n - w + 1 = n - (w - 1) := by omega
    have apart : w - 1 = w - 1 - d.width + d.width := by omega
    refine least (Nat.ne_of_gt (Nat.zero_lt_of_lt less)) ?_
    rw [apart, div_pow_add, div_pow_add, first, last]

end Cells

end P2PLending.Trie
