import P2PLending.Foundation.PlaceDigits
import Mathlib.Data.Nat.Log

/-! Numbers in a fixed number of binary digits, the first digit first, and the cells of numbers
that begin with the same digits. -/

namespace P2PLending

/-- The last `n` binary digits of a number. -/
def binary : ℕ → ℕ → List ℕ
  | 0, _ => []
  | n + 1, x => x / 2 ^ n % 2 :: binary n x

/-- The number that binary digits stand for. -/
def ofBinary : List ℕ → ℕ
  | [] => 0
  | d :: ds => d * 2 ^ ds.length + ofBinary ds

variable {n m e x y a k : ℕ} {p q : List ℕ}

theorem binary_eq (n x : ℕ) : binary n x = places 2 n x := by
  induction n with
  | zero => rfl
  | succ n ih => rw [places, binary, ih]

theorem ofBinary_eq (p : List ℕ) : ofBinary p = ofPlaces 2 p := by
  induction p with
  | nil => rfl
  | cons d p ih => rw [ofBinary, ofPlaces_cons, ih]

@[simp] theorem length_binary (n x : ℕ) : (binary n x).length = n := by
  rw [binary_eq, length_places]

theorem binary_lt_two (n x : ℕ) : ∀ d ∈ binary n x, d < 2 := by
  rw [binary_eq]
  exact places_lt (by omega) n x

theorem div_pow_add (x m n : ℕ) : x / 2 ^ (m + n) = x / 2 ^ n / 2 ^ m := by
  rw [Nat.div_div_eq_div_mul, ← pow_add, Nat.add_comm]

/-- The first digits are those of the quotient. -/
theorem binary_add (m n x : ℕ) : binary (m + n) x = binary m (x / 2 ^ n) ++ binary n x := by
  induction m with
  | zero => simp [binary]
  | succ m ih =>
      rw [Nat.add_right_comm, binary, ih, binary, List.cons_append, div_pow_add]

theorem take_binary (below : m ≤ n) (x : ℕ) :
    (binary n x).take m = binary m (x / 2 ^ (n - m)) := by
  rw [binary_eq, binary_eq, take_places below]

theorem drop_binary (below : m ≤ n) (x : ℕ) : (binary n x).drop m = binary (n - m) x := by
  obtain ⟨k, rfl⟩ := Nat.exists_eq_add_of_le below
  rw [binary_add, Nat.add_sub_cancel_left, List.drop_left' (length_binary _ _)]

theorem ofBinary_append (p q : List ℕ) :
    ofBinary (p ++ q) = ofBinary p * 2 ^ q.length + ofBinary q := by
  rw [ofBinary_eq, ofBinary_eq, ofBinary_eq, ofPlaces_append]

theorem ofBinary_lt (digits : ∀ d ∈ p, d < 2) : ofBinary p < 2 ^ p.length := by
  rw [ofBinary_eq]
  exact ofPlaces_lt (by omega) digits

theorem ofBinary_binary (n x : ℕ) : ofBinary (binary n x) = x % 2 ^ n := by
  induction n with
  | zero => simp [binary, ofBinary, Nat.mod_one]
  | succ n ih =>
      rw [binary, ofBinary, ih, length_binary, pow_succ, Nat.mod_mul]
      ring

theorem binary_add_mul (n a x : ℕ) : binary n (a * 2 ^ n + x) = binary n x := by
  induction n generalizing a with
  | zero => rfl
  | succ n ih =>
      have halves : a * 2 ^ (n + 1) + x = 2 * a * 2 ^ n + x := by rw [pow_succ]; ring
      have head : (2 * a * 2 ^ n + x) / 2 ^ n % 2 = x / 2 ^ n % 2 := by
        rw [Nat.mul_comm (2 * a), Nat.mul_add_div (Nat.two_pow_pos n), Nat.mul_add_mod]
      rw [binary, binary, halves, head, ih]

theorem binary_ofBinary (digits : ∀ d ∈ p, d < 2) : binary p.length (ofBinary p) = p := by
  rw [binary_eq, ofBinary_eq, places_ofPlaces digits]

theorem ofBinary_reverse (ds : List ℕ) : ofBinary ds.reverse = Nat.ofDigits 2 ds := by
  rw [ofBinary_eq, ofPlaces, List.reverse_reverse]

theorem binary_inj (below : x < 2 ^ n) (below' : y < 2 ^ n) (same : binary n x = binary n y) :
    x = y := by
  have values := congrArg ofBinary same
  rwa [ofBinary_binary, ofBinary_binary, Nat.mod_eq_of_lt below, Nat.mod_eq_of_lt below'] at values

theorem div_pow_lt (below : x < 2 ^ n) (within : m ≤ n) : x / 2 ^ (n - m) < 2 ^ m := by
  rw [Nat.div_lt_iff_lt_mul (Nat.two_pow_pos _), ← pow_add, Nat.add_sub_cancel' within]
  exact below

/-- A number begins with these digits when its quotient has them. -/
theorem binary_prefix_iff (within : m ≤ n) (below : a < 2 ^ m) (below' : x < 2 ^ n) :
    binary m a <+: binary n x ↔ x / 2 ^ (n - m) = a := by
  rw [List.prefix_iff_eq_take, length_binary, take_binary within]
  constructor
  · intro same
    exact (binary_inj below (div_pow_lt below' within) same).symm
  · rintro rfl
    rfl

theorem binary_zero (n : ℕ) : binary n 0 = List.replicate n 0 := by
  induction n with
  | zero => rfl
  | succ n ih => rw [binary, ih, Nat.zero_div, Nat.zero_mod, List.replicate_succ]

theorem replicate_append_binary (k : ℕ) (below : a < 2 ^ m) :
    List.replicate k 0 ++ binary m a = binary (k + m) a := by
  rw [binary_add, Nat.div_eq_of_lt below, binary_zero]

theorem binary_eq_zeros : (∀ d ∈ binary n x, d = 0) ↔ x % 2 ^ n = 0 := by
  rw [← List.eq_replicate_length, length_binary, ← binary_zero]
  constructor
  · intro same
    have values := congrArg ofBinary same
    rwa [ofBinary_binary, ofBinary_binary, Nat.zero_mod] at values
  · intro none
    have whole := binary_add_mul n (x / 2 ^ n) 0
    rw [Nat.add_zero, Nat.div_mul_cancel (Nat.dvd_of_mod_eq_zero none)] at whole
    exact whole

theorem binary_eq_ones : (∀ d ∈ binary n x, d = 1) ↔ x % 2 ^ n + 1 = 2 ^ n := by
  induction n with
  | zero => simp [binary, Nat.mod_one]
  | succ n ih =>
      have low := Nat.mod_lt x (Nat.two_pow_pos n)
      have high := Nat.mod_lt (x / 2 ^ n) (show 0 < 2 by omega)
      rw [binary, List.forall_mem_cons, ih, pow_succ, Nat.mod_mul]
      rcases Nat.lt_or_ge (x / 2 ^ n % 2) 1 with zero | one
      · have none : x / 2 ^ n % 2 = 0 := by omega
        rw [none]
        omega
      · have some : x / 2 ^ n % 2 = 1 := by omega
        rw [some]
        omega

/-! Beginnings of lists of digits. -/

theorem takeWhile_eq_take (f : ℕ → Bool) (p : List ℕ) : ∃ k ≤ p.length,
    p.takeWhile f = p.take k ∧ (∀ d ∈ p.take k, f d = true) ∧
      ∀ d, p[k]? = some d → f d = false := by
  induction p with
  | nil => exact ⟨0, by simp, by simp, by simp, by simp⟩
  | cons x p ih =>
      cases holds : f x with
      | false => exact ⟨0, by simp, by simp [holds], by simp, by simp [holds]⟩
      | true =>
          obtain ⟨k, inside, same, each, next⟩ := ih
          refine ⟨k + 1, by simpa using inside, by simp [holds, same], ?_, by simpa using next⟩
          simpa [holds] using each

theorem getElem?_binary (inside : k < n) (x : ℕ) :
    (binary n x)[k]? = some (x / 2 ^ (n - k - 1) % 2) := by
  induction n generalizing k with
  | zero => omega
  | succ n ih =>
      cases k with
      | zero => simp [binary]
      | succ k =>
          have shift : n + 1 - (k + 1) - 1 = n - k - 1 := by omega
          rw [binary, List.getElem?_cons_succ, ih (by omega), shift]

/-- The digits of a number up to the last of its first ones. -/
theorem leading_ones (e x : ℕ) : ∃ w ≤ e,
    (binary e x).takeWhile (fun d => d = 1) = binary (e - w) (x / 2 ^ w) ∧
      x / 2 ^ w % 2 ^ (e - w) + 1 = 2 ^ (e - w) ∧ (w ≠ 0 → x / 2 ^ (w - 1) % 2 = 0) := by
  obtain ⟨k, inside, same, each, next⟩ := takeWhile_eq_take (fun d => d = 1) (binary e x)
  rw [length_binary] at inside
  rw [take_binary inside] at same each
  have back : e - (e - k) = k := by omega
  refine ⟨e - k, by omega, by rw [same, back], ?_, fun more => ?_⟩
  · rw [back]
    exact binary_eq_ones.mp fun d listed => of_decide_eq_true (each d listed)
  · have zero := next _ (getElem?_binary (by omega) x)
    have digit := Nat.mod_lt (x / 2 ^ (e - k - 1)) (show 0 < 2 by omega)
    simp only [decide_eq_false_iff_not] at zero
    omega

/-- The digits of a number up to the last of its first zeros. -/
theorem leading_zeros (e x : ℕ) : ∃ w ≤ e,
    (binary e x).takeWhile (fun d => d = 0) = binary (e - w) (x / 2 ^ w) ∧
      x / 2 ^ w % 2 ^ (e - w) = 0 ∧ (w ≠ 0 → x / 2 ^ (w - 1) % 2 = 1) := by
  obtain ⟨k, inside, same, each, next⟩ := takeWhile_eq_take (fun d => d = 0) (binary e x)
  rw [length_binary] at inside
  rw [take_binary inside] at same each
  have back : e - (e - k) = k := by omega
  refine ⟨e - k, by omega, by rw [same, back], ?_, fun more => ?_⟩
  · rw [back]
    exact binary_eq_zeros.mp fun d listed => of_decide_eq_true (each d listed)
  · have one := next _ (getElem?_binary (by omega) x)
    have digit := Nat.mod_lt (x / 2 ^ (e - k - 1)) (show 0 < 2 by omega)
    simp only [decide_eq_false_iff_not] at one
    omega

theorem zip_takeWhile_eq_take (p q : List ℕ) (same : p.length = q.length) : ∃ k ≤ p.length,
    ((p.zip q).takeWhile fun x => x.1 = x.2).map Prod.fst = p.take k ∧ p.take k = q.take k ∧
      (k < p.length → p.take (k + 1) ≠ q.take (k + 1)) := by
  induction p generalizing q with
  | nil => exact ⟨0, by simp, by simp, by simp, by simp⟩
  | cons x p ih =>
      cases q with
      | nil => cases same
      | cons y q =>
          by_cases equal : x = y
          · obtain ⟨k, inside, taken, both, next⟩ := ih q (Nat.succ.inj same)
            exact ⟨k + 1, by simpa using inside, by simp [equal, taken], by simp [equal, both],
              by simpa [equal] using next⟩
          · exact ⟨0, by simp, by simp [equal], by simp, by simp [equal]⟩

/-- The digits that two numbers begin with. -/
theorem common_digits (n x y : ℕ) : ∃ w ≤ n,
    (((binary n x).zip (binary n y)).takeWhile fun d => d.1 = d.2).map Prod.fst =
        binary (n - w) (x / 2 ^ w) ∧
      binary (n - w) (x / 2 ^ w) = binary (n - w) (y / 2 ^ w) ∧
      (w ≠ 0 → binary (n - w + 1) (x / 2 ^ (w - 1)) ≠ binary (n - w + 1) (y / 2 ^ (w - 1))) := by
  obtain ⟨k, inside, taken, both, next⟩ :=
    zip_takeWhile_eq_take (binary n x) (binary n y) (by simp)
  rw [length_binary] at inside next
  rw [take_binary inside] at taken both
  rw [take_binary inside] at both
  have back : n - (n - k) = k := by omega
  refine ⟨n - k, by omega, by rw [taken, back], by rw [back]; exact both, fun more => ?_⟩
  have further := next (by omega)
  rw [take_binary (by omega), take_binary (by omega)] at further
  have shift : n - (k + 1) = n - k - 1 := by omega
  rwa [back, ← shift]

/-! Cells. -/

/-- The numbers whose quotient by a power of two is the index. -/
structure Cell where
  width : ℕ
  index : ℕ
  deriving DecidableEq, Repr

namespace Cell
variable {c : Cell}

def Holds (c : Cell) (x : ℕ) : Prop := x / 2 ^ c.width = c.index

def low (c : Cell) : ℕ := c.index * 2 ^ c.width

/-- The digits that all numbers of the cell begin with, among `n` ones. -/
def path (c : Cell) (n : ℕ) : List ℕ := binary (n - c.width) c.index

/-- There are numbers of so many digits in the cell. -/
def Fits (c : Cell) (n : ℕ) : Prop := c.width ≤ n ∧ c.index < 2 ^ (n - c.width)

instance (c : Cell) (n : ℕ) : Decidable (c.Fits n) :=
  inferInstanceAs (Decidable (c.width ≤ n ∧ c.index < 2 ^ (n - c.width)))

/-- The cell of a number. -/
def of (width x : ℕ) : Cell := ⟨width, x / 2 ^ width⟩

theorem holds_of (width x : ℕ) : (of width x).Holds x := rfl

theorem holds_iff : c.Holds x ↔ c.low ≤ x ∧ x < c.low + 2 ^ c.width := by
  rw [Holds, Nat.div_eq_iff (Nat.two_pow_pos _), low]
  have pos := Nat.two_pow_pos c.width
  omega

theorem path_prefix (fits : c.Fits n) (below : x < 2 ^ n) :
    c.path n <+: binary n x ↔ c.Holds x := by
  have within : n - c.width ≤ n := Nat.sub_le _ _
  rw [path, binary_prefix_iff within fits.2 below, Nat.sub_sub_self fits.1, Holds]

theorem Holds.fits (holds : c.Holds x) (within : c.width ≤ n) (below : x < 2 ^ n) : c.Fits n := by
  refine ⟨within, ?_⟩
  rw [← holds, Nat.div_lt_iff_lt_mul (Nat.two_pow_pos _), ← pow_add, Nat.sub_add_cancel within]
  exact below

theorem Fits.lt (fits : c.Fits n) (holds : c.Holds x) : x < 2 ^ n := by
  have power : 2 ^ n = 2 ^ (n - c.width) * 2 ^ c.width := by
    rw [← pow_add, Nat.sub_add_cancel fits.1]
  rw [power, ← Nat.div_lt_iff_lt_mul (Nat.two_pow_pos _), holds]
  exact fits.2

theorem of_eq_of_holds (holds : c.Holds x) : of c.width x = c := by
  rw [of, holds]

theorem low_of_div (within : m ≤ e) (x : ℕ) :
    (of m x).low = (of e x).low + x / 2 ^ m % 2 ^ (e - m) * 2 ^ m := by
  have whole : x / 2 ^ e = x / 2 ^ m / 2 ^ (e - m) := by
    rw [← div_pow_add, Nat.sub_add_cancel within]
  have power : 2 ^ e = 2 ^ (e - m) * 2 ^ m := by rw [← pow_add, Nat.sub_add_cancel within]
  rw [low, low, of, of, whole, power, ← Nat.mul_assoc, ← Nat.add_mul, Nat.div_add_mod']

/-- A number whose further digits are ones is in the last cell of a larger one. -/
theorem ends_with (within : m ≤ e) (ones : x / 2 ^ m % 2 ^ (e - m) + 1 = 2 ^ (e - m)) :
    (of m x).low + 2 ^ m = (of e x).low + 2 ^ e := by
  have power : 2 ^ e = 2 ^ (e - m) * 2 ^ m := by rw [← pow_add, Nat.sub_add_cancel within]
  rw [low_of_div within, Nat.add_assoc, ← Nat.succ_mul, Nat.succ_eq_add_one, ones, power]

theorem starts_with (within : m ≤ e) (zeros : x / 2 ^ m % 2 ^ (e - m) = 0) :
    (of m x).low = (of e x).low := by
  rw [low_of_div within, zeros, Nat.zero_mul, Nat.add_zero]

theorem low_le (m x : ℕ) : (of m x).low ≤ x := (holds_iff.mp (holds_of m x)).1

theorem lt_high (m x : ℕ) : x < (of m x).low + 2 ^ m := (holds_iff.mp (holds_of m x)).2

theorem low_half (some : m ≠ 0) (digit : x / 2 ^ (m - 1) % 2 = 0) :
    x < (of m x).low + 2 ^ (m - 1) := by
  have one : m - (m - 1) = 1 := by omega
  have split := low_of_div (Nat.sub_le m 1) x
  rw [one, pow_one, digit, Nat.zero_mul, Nat.add_zero] at split
  have above := lt_high (m - 1) x
  omega

theorem high_half (some : m ≠ 0) (digit : x / 2 ^ (m - 1) % 2 = 1) :
    (of m x).low + 2 ^ (m - 1) ≤ x := by
  have one : m - (m - 1) = 1 := by omega
  have split := low_of_div (Nat.sub_le m 1) x
  rw [one, pow_one, digit, Nat.one_mul] at split
  have below := low_le (m - 1) x
  omega

/-- A cell that holds the first and the last number of another one is no smaller. -/
theorem width_le {d : Cell} (first : d.Holds c.low) (last : d.Holds (c.low + 2 ^ c.width - 1)) :
    c.width ≤ d.width := by
  by_contra smaller
  have power : 2 ^ d.width < 2 ^ c.width := Nat.pow_lt_pow_right (by omega) (by omega)
  have starts := (holds_iff.mp first).1
  have ends := (holds_iff.mp last).2
  omega

theorem Holds.between (first : c.Holds a) (last : c.Holds y) (above : a ≤ x) (below : x ≤ y) :
    c.Holds x := by
  rw [holds_iff] at first last ⊢
  omega

/-- A smaller cell that meets another one is part of it. -/
theorem Holds.wider {d : Cell} (within : c.width ≤ d.width) (meets : c.Holds a)
    (meets' : d.Holds a) (holds : c.Holds x) : d.Holds x := by
  have split : d.width = d.width - c.width + c.width := by omega
  rw [Holds] at meets meets' holds ⊢
  rw [split, div_pow_add, holds, ← meets, ← div_pow_add, ← split, meets']

theorem low_of_dvd (divides : 2 ^ m ∣ x) : (of m x).low = x := Nat.div_mul_cancel divides

end Cell

end P2PLending
