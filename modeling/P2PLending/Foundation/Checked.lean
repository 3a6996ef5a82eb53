import Mathlib.Algebra.Order.Ring.Nat
import Mathlib.Data.Nat.Basic

/-! Bounded unsigned arithmetic in an exception monad. A word of a given limit
is a natural number; an operation whose exact result does not fit reports the
fault its caller passes. The inversion lemmas give back the exact result
together with the bound it satisfied, so later proofs never open a bind. -/

namespace P2PLending.Checked

variable {ε α β : Type}

@[simp] theorem ok_bind (a : α) (f : α → Except ε β) : (Except.ok a >>= f) = f a := rfl

@[simp] theorem error_bind (e : ε) (f : α → Except ε β) :
    ((Except.error e : Except ε α) >>= f) = .error e := rfl

@[simp] theorem pure_eq_ok (a : α) : (pure a : Except ε α) = .ok a := rfl

theorem bind_eq_ok {x : Except ε α} {f : α → Except ε β} {b : β} :
    (x >>= f) = .ok b ↔ ∃ a, x = .ok a ∧ f a = .ok b := by
  cases x <;> simp

theorem exists_bind_ok {x : Except ε α} {f : α → Except ε β} :
    (∃ b, (x >>= f) = .ok b) ↔ ∃ a, x = .ok a ∧ ∃ b, f a = .ok b := by
  cases x <;> simp

/-- Continue exactly when the condition holds. -/
def ensure (c : Prop) [Decidable c] (e : ε) : Except ε Unit :=
  if c then .ok () else .error e

@[simp] theorem ensure_eq_ok {c : Prop} [Decidable c] {e : ε} {u : Unit} :
    ensure c e = .ok u ↔ c := by
  unfold ensure
  split <;> simp_all

def fit (limit : ℕ) (e : ε) (n : ℕ) : Except ε ℕ :=
  if n < limit then .ok n else .error e

def add (limit : ℕ) (e : ε) (a b : ℕ) : Except ε ℕ := fit limit e (a + b)

def mul (limit : ℕ) (e : ε) (a b : ℕ) : Except ε ℕ := fit limit e (a * b)

def sub (e : ε) (a b : ℕ) : Except ε ℕ := if b ≤ a then .ok (a - b) else .error e

def div (e : ε) (a b : ℕ) : Except ε ℕ := if b = 0 then .error e else .ok (a / b)

@[simp] theorem fit_eq_ok {limit n m : ℕ} {e : ε} :
    fit limit e n = .ok m ↔ n < limit ∧ m = n := by
  unfold fit
  split <;> simp_all [eq_comm]

@[simp] theorem add_eq_ok {limit a b m : ℕ} {e : ε} :
    add limit e a b = .ok m ↔ a + b < limit ∧ m = a + b := fit_eq_ok

@[simp] theorem mul_eq_ok {limit a b m : ℕ} {e : ε} :
    mul limit e a b = .ok m ↔ a * b < limit ∧ m = a * b := fit_eq_ok

@[simp] theorem sub_eq_ok {a b m : ℕ} {e : ε} :
    sub e a b = .ok m ↔ b ≤ a ∧ m = a - b := by
  unfold sub
  split <;> simp_all [eq_comm]

@[simp] theorem div_eq_ok {a b m : ℕ} {e : ε} :
    div e a b = .ok m ↔ b ≠ 0 ∧ m = a / b := by
  unfold div
  split <;> simp_all [eq_comm]

theorem fit_of_lt {limit n : ℕ} (e : ε) (h : n < limit) : fit limit e n = .ok n :=
  fit_eq_ok.mpr ⟨h, rfl⟩

theorem fit_of_le {limit n : ℕ} (e : ε) (h : limit ≤ n) : fit limit e n = .error e :=
  if_neg (Nat.not_lt.mpr h)

theorem sub_of_le {a b : ℕ} (e : ε) (h : b ≤ a) : sub e a b = .ok (a - b) :=
  sub_eq_ok.mpr ⟨h, rfl⟩

/-- The floor of a quotient, characterised without division. -/
theorem div_eq_iff_bounds {a b m : ℕ} (hb : 0 < b) :
    a / b = m ↔ m * b ≤ a ∧ a < (m + 1) * b := by
  constructor
  · rintro rfl
    exact ⟨Nat.div_mul_le_self a b, Nat.mul_comm b _ ▸ Nat.lt_mul_div_succ a hb⟩
  · rintro ⟨low, high⟩
    exact Nat.div_eq_of_lt_le low high

end P2PLending.Checked
