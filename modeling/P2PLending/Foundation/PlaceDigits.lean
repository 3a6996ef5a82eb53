import Mathlib.Data.List.Basic
import Mathlib.Data.Nat.Digits.Lemmas
import Mathlib.Tactic.Ring

/-! Numbers in a fixed number of digits of any base, the first digit first, the numbers that begin
with given digits, and lists of intervals that follow each other. -/

namespace P2PLending

/-- The last `n` digits of a number in base `b`. -/
def places (b : ℕ) : ℕ → ℕ → List ℕ
  | 0, _ => []
  | n + 1, x => x / b ^ n % b :: places b n x

/-- The number that digits in base `b` stand for. -/
def ofPlaces (b : ℕ) (p : List ℕ) : ℕ := Nat.ofDigits b p.reverse

section Digits
variable {b n m x y : ℕ} {p q : List ℕ}

@[simp] theorem length_places (b n x : ℕ) : (places b n x).length = n := by
  induction n with
  | zero => rfl
  | succ n ih => simp [places, ih]

theorem places_lt (pos : 0 < b) (n x : ℕ) : ∀ d ∈ places b n x, d < b := by
  induction n with
  | zero => simp [places]
  | succ n ih =>
      rw [places, List.forall_mem_cons]
      exact ⟨Nat.mod_lt _ pos, ih⟩

theorem places_succ (b n x : ℕ) : places b (n + 1) x = places b n (x / b) ++ [x % b] := by
  induction n with
  | zero => simp [places]
  | succ n ih =>
      have quotient : x / b ^ (n + 1) = x / b / b ^ n := by rw [Nat.div_div_eq_div_mul, pow_succ']
      rw [places, ih, quotient]
      rfl

@[simp] theorem ofPlaces_nil (b : ℕ) : ofPlaces b [] = 0 := rfl

theorem ofPlaces_append (p q : List ℕ) :
    ofPlaces b (p ++ q) = ofPlaces b p * b ^ q.length + ofPlaces b q := by
  rw [ofPlaces, List.reverse_append, Nat.ofDigits_append, List.length_reverse, ofPlaces, ofPlaces]
  ring

theorem ofPlaces_concat (p : List ℕ) (d : ℕ) : ofPlaces b (p ++ [d]) = ofPlaces b p * b + d := by
  rw [ofPlaces_append]
  simp [ofPlaces]

theorem ofPlaces_cons (d : ℕ) (p : List ℕ) :
    ofPlaces b (d :: p) = d * b ^ p.length + ofPlaces b p := by
  have split := @ofPlaces_append b [d] p
  simpa [ofPlaces] using split

theorem ofPlaces_lt (some : 1 < b) (digits : ∀ d ∈ p, d < b) : ofPlaces b p < b ^ p.length := by
  have bound := Nat.ofDigits_lt_base_pow_length (l := p.reverse) some (by simpa using digits)
  rwa [List.length_reverse] at bound

theorem ofPlaces_places (below : x < b ^ n) : ofPlaces b (places b n x) = x := by
  induction n generalizing x with
  | zero =>
      have none : x = 0 := by simpa using below
      rw [none]
      rfl
  | succ n ih =>
      have quotient : x / b < b ^ n := by
        rw [pow_succ'] at below
        exact Nat.div_lt_of_lt_mul below
      rw [places_succ, ofPlaces_concat, ih quotient, Nat.mul_comm, Nat.div_add_mod]

theorem places_ofPlaces (digits : ∀ d ∈ p, d < b) : places b p.length (ofPlaces b p) = p := by
  induction p using List.reverseRecOn with
  | nil => rfl
  | append_singleton p d ih =>
      rw [List.forall_mem_append] at digits
      have last : d < b := digits.2 d List.mem_cons_self
      have pos : 0 < b := by omega
      have head : (ofPlaces b p * b + d) / b = ofPlaces b p := by
        rw [Nat.mul_comm, Nat.mul_add_div pos, Nat.div_eq_of_lt last, Nat.add_zero]
      have tail : (ofPlaces b p * b + d) % b = d := by
        rw [Nat.mul_comm, Nat.mul_add_mod, Nat.mod_eq_of_lt last]
      rw [List.length_append, List.length_singleton, places_succ, ofPlaces_concat, head, tail,
        ih digits.1]

theorem ofPlaces_inj (same : p.length = q.length) (digits : ∀ d ∈ p, d < b)
    (digits' : ∀ d ∈ q, d < b) (equal : ofPlaces b p = ofPlaces b q) : p = q := by
  rw [← places_ofPlaces digits, ← places_ofPlaces digits', equal, same]

theorem ofPlaces_eq_iff (length : p.length = n) (digits : ∀ d ∈ p, d < b) (below : x < b ^ n) :
    ofPlaces b p = x ↔ p = places b n x := by
  constructor
  · rintro rfl
    rw [← length, places_ofPlaces digits]
  · rintro rfl
    exact ofPlaces_places below

/-- The digits of `Nat.digits`, filled up with zeros in front. -/
theorem places_of_digits (some : 1 < b) (below : x < b ^ n) :
    (Nat.digits b x).length ≤ n ∧
      (Nat.digits b x ++ List.replicate (n - (Nat.digits b x).length) 0).reverse =
        places b n x := by
  have length : (Nat.digits b x).length ≤ n := (Nat.digits_length_le_iff some x).mpr below
  refine ⟨length, (ofPlaces_eq_iff ?_ ?_ below).mp ?_⟩
  · simp [length]
  · intro d listed
    rw [List.mem_reverse, List.mem_append] at listed
    rcases listed with own | added
    · exact Nat.digits_lt_base some own
    · rw [List.eq_of_mem_replicate added]
      omega
  · rw [ofPlaces, List.reverse_reverse, Nat.ofDigits_append_replicate_zero, Nat.ofDigits_digits]

theorem ofPlaces_zeros (zeros : ∀ d ∈ p, d = 0) : ofPlaces b p = 0 := by
  rw [List.eq_replicate_of_mem zeros, ofPlaces, List.reverse_replicate, Nat.ofDigits_replicate_zero]

theorem ofPlaces_greatest (pos : 0 < b) (greatest : ∀ d ∈ p, d = b - 1) :
    ofPlaces b p + 1 = b ^ p.length := by
  induction p using List.reverseRecOn with
  | nil => rfl
  | append_singleton p d ih =>
      rw [List.forall_mem_append] at greatest
      have last : d = b - 1 := greatest.2 d List.mem_cons_self
      have rest := ih greatest.1
      rw [ofPlaces_concat, last, List.length_append, List.length_singleton, pow_succ, ← rest,
        Nat.add_mul]
      omega

end Digits

/-! The numbers of `n` digits that begin with given ones. -/

section Prefixes
variable {b n x : ℕ} {p : List ℕ}

def leastWith (b n : ℕ) (p : List ℕ) : ℕ := ofPlaces b p * b ^ (n - p.length)

/-- The first number after those that begin with the digits. -/
def pastWith (b n : ℕ) (p : List ℕ) : ℕ := (ofPlaces b p + 1) * b ^ (n - p.length)

theorem leastWith_lt_pastWith (pos : 0 < b) (n : ℕ) (p : List ℕ) :
    leastWith b n p < pastWith b n p :=
  Nat.mul_lt_mul_of_pos_right (Nat.lt_succ_self _) (Nat.pow_pos pos)

theorem take_places {m : ℕ} (within : m ≤ n) (b x : ℕ) :
    (places b n x).take m = places b m (x / b ^ (n - m)) := by
  obtain ⟨k, rfl⟩ := Nat.exists_eq_add_of_le within
  rw [Nat.add_sub_cancel_left]
  clear within
  induction k generalizing x with
  | zero => simp
  | succ k ih =>
      rw [← Nat.add_assoc, places_succ, List.take_append_of_le_length (by simp), ih,
        Nat.div_div_eq_div_mul, pow_succ']

theorem prefix_iff (some : 1 < b) (within : p.length ≤ n) (digits : ∀ d ∈ p, d < b)
    (below : x < b ^ n) :
    p <+: places b n x ↔ leastWith b n p ≤ x ∧ x < pastWith b n p := by
  have unit : 0 < b ^ (n - p.length) := Nat.pow_pos (by omega)
  have quotient : x / b ^ (n - p.length) < b ^ p.length := by
    rw [Nat.div_lt_iff_lt_mul unit, ← pow_add, Nat.add_sub_cancel' within]
    exact below
  have bounds : ofPlaces b p = x / b ^ (n - p.length) ↔
      leastWith b n p ≤ x ∧ x < pastWith b n p := by
    rw [eq_comm, Nat.div_eq_iff unit, leastWith, pastWith, Nat.add_mul, one_mul]
    omega
  rw [List.prefix_iff_eq_take, take_places within, ← bounds]
  exact (ofPlaces_eq_iff rfl digits quotient).symm

end Prefixes

/-! Intervals that follow each other. -/

section Tiling
variable {α β : Type} {low high : α → ℕ} {lo mid hi v : ℕ} {xs ys : List α}

/-- The intervals begin where those before them end. -/
def Tiles (low high : α → ℕ) : ℕ → List α → ℕ → Prop
  | lo, [], hi => lo = hi
  | lo, x :: xs, hi => low x = lo ∧ Tiles low high (high x) xs hi

theorem Tiles.append (first : Tiles low high lo xs mid) (second : Tiles low high mid ys hi) :
    Tiles low high lo (xs ++ ys) hi := by
  induction xs generalizing lo with
  | nil =>
      have same : lo = mid := first
      rwa [same]
  | cons x xs ih => exact ⟨first.1, ih first.2⟩

theorem Tiles.map {low' high' : β → ℕ} {f : α → β} (shift : ℕ)
    (moved : ∀ x ∈ xs, low' (f x) = shift + low x ∧ high' (f x) = shift + high x)
    (tiles : Tiles low high lo xs hi) :
    Tiles low' high' (shift + lo) (xs.map f) (shift + hi) := by
  induction xs generalizing lo with
  | nil => exact congrArg (shift + ·) tiles
  | cons x xs ih =>
      rw [List.forall_mem_cons] at moved
      refine ⟨?_, ?_⟩
      · rw [moved.1.1, tiles.1]
      · rw [moved.1.2]
        exact ih moved.2 tiles.2

theorem Tiles.bounds (some : ∀ x ∈ xs, low x < high x) (tiles : Tiles low high lo xs hi) :
    lo ≤ hi ∧ ∀ x ∈ xs, lo ≤ low x ∧ high x ≤ hi := by
  induction xs generalizing lo with
  | nil =>
      have same : lo = hi := tiles
      simp [same]
  | cons x xs ih =>
      rw [List.forall_mem_cons] at some ⊢
      obtain ⟨first, rest⟩ := tiles
      obtain ⟨order, each⟩ := ih some.2 rest
      refine ⟨by omega, ⟨by omega, order⟩, fun y listed => ?_⟩
      have own := each y listed
      omega

/-- A number between the ends is in one interval, and another is in none. -/
theorem Tiles.count (some : ∀ x ∈ xs, low x < high x) (tiles : Tiles low high lo xs hi) (v : ℕ) :
    xs.countP (fun x => low x ≤ v ∧ v < high x) = if lo ≤ v ∧ v < hi then 1 else 0 := by
  induction xs generalizing lo with
  | nil =>
      have same : lo = hi := tiles
      rw [List.countP_nil, if_neg (by omega)]
  | cons x xs ih =>
      rw [List.forall_mem_cons] at some
      obtain ⟨first, rest⟩ := tiles
      have order := (Tiles.bounds some.2 rest).1
      rw [List.countP_cons, ih some.2 rest]
      by_cases own : low x ≤ v ∧ v < high x
      · have held : decide (low x ≤ v ∧ v < high x) = true := decide_eq_true own
        rw [if_neg (by omega), if_pos held, if_pos (by omega)]
      · have other : ¬ decide (low x ≤ v ∧ v < high x) = true := fun held => own (of_decide_eq_true held)
        rw [if_neg other, Nat.add_zero]
        exact if_congr (by omega) rfl rfl

theorem Tiles.ascending (some : ∀ x ∈ xs, low x < high x) (tiles : Tiles low high lo xs hi) :
    xs.Pairwise fun x y => high x ≤ low y := by
  induction xs generalizing lo with
  | nil => exact List.Pairwise.nil
  | cons x xs ih =>
      rw [List.forall_mem_cons] at some
      obtain ⟨_, rest⟩ := tiles
      have later := (Tiles.bounds some.2 rest).2
      exact List.pairwise_cons.mpr ⟨fun y listed => (later y listed).1, ih some.2 rest⟩

end Tiling

end P2PLending
