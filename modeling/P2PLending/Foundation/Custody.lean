import Mathlib.Algebra.BigOperators.Group.Finset.Piecewise
import Mathlib.Algebra.Order.BigOperators.Group.Finset
import Mathlib.Data.Fintype.BigOperators
import Mathlib.Data.Int.Basic

/-! A custodian's book: one pooled balance and what is owed under each key.
Every move changes the surplus by an amount read off the move alone, so a
program whose steps are moves is solvent as long as its payouts are covered. -/

namespace P2PLending.Custody

structure Pool (κ : Type*) where
  balance : ℕ
  owed : κ → ℕ

section Solvency
variable {κ : Type*} [Fintype κ]

def total (p : Pool κ) : ℕ := ∑ k, p.owed k

def surplus (p : Pool κ) : ℤ := p.balance - total p

def Solvent (p : Pool κ) : Prop := total p ≤ p.balance

theorem solvent_iff_surplus (p : Pool κ) : Solvent p ↔ 0 ≤ surplus p := by
  unfold Solvent surplus
  omega

theorem owed_le_total (p : Pool κ) (k : κ) : p.owed k ≤ total p :=
  Finset.single_le_sum (fun _ _ => Nat.zero_le _) (Finset.mem_univ k)

end Solvency

variable {κ : Type*} [DecidableEq κ]

/-- `payOut k n` discharges key `k` by paying `n` from the pool. -/
inductive Move (κ : Type*)
  | receive (gift : ℕ)
  | deposit (k : κ) (n : ℕ)
  | reassign (source target : κ)
  | payOut (k : κ) (n : ℕ)

/-- `Moves p m q`: the move `m` takes the book `p` to `q`. -/
def Moves (p : Pool κ) (m : Move κ) (q : Pool κ) : Prop :=
  match m with
  | .receive g => q.balance = p.balance + g ∧ q.owed = p.owed
  | .deposit k n =>
      q.balance = p.balance + n ∧ q.owed = Function.update p.owed k (p.owed k + n)
  | .reassign source target =>
      source ≠ target ∧ q.balance = p.balance ∧
        q.owed = Function.update
          (Function.update p.owed target (p.owed target + p.owed source)) source 0
  | .payOut k n => q.balance + n = p.balance ∧ q.owed = Function.update p.owed k 0

/-- What a move adds to the surplus of a book. -/
def gain (p : Pool κ) : Move κ → ℤ
  | .receive g => g
  | .deposit _ _ => 0
  | .reassign _ _ => 0
  | .payOut k n => p.owed k - n

variable [Fintype κ]

theorem total_update (o : κ → ℕ) (k : κ) (n : ℕ) :
    (∑ j, Function.update o k n j) + o k = (∑ j, o j) + n := by
  rw [Finset.sum_update_of_mem (Finset.mem_univ k), Finset.sdiff_singleton_eq_erase,
    ← Finset.add_sum_erase Finset.univ o (Finset.mem_univ k)]
  omega

theorem surplus_step {p q : Pool κ} {m : Move κ} (h : Moves p m q) :
    surplus q = surplus p + gain p m := by
  cases m with
  | receive g =>
      obtain ⟨received, same⟩ := h
      simp only [surplus, total, gain, received, same]
      omega
  | deposit k n =>
      obtain ⟨received, credited⟩ := h
      have shifted := total_update p.owed k (p.owed k + n)
      simp only [surplus, total, gain, received, credited]
      omega
  | reassign source target =>
      obtain ⟨distinct, kept, moved⟩ := h
      have credited := total_update p.owed target (p.owed target + p.owed source)
      have cleared := total_update
        (Function.update p.owed target (p.owed target + p.owed source)) source 0
      rw [Function.update_of_ne distinct] at cleared
      simp only [surplus, total, gain, kept, moved]
      omega
  | payOut k n =>
      obtain ⟨paid, discharged⟩ := h
      have cleared := total_update p.owed k 0
      simp only [surplus, total, gain, ← paid, discharged]
      omega

theorem solvent_step {p q : Pool κ} {m : Move κ} (h : Moves p m q) (covered : 0 ≤ gain p m)
    (solvent : Solvent p) : Solvent q := by
  rw [solvent_iff_surplus] at solvent ⊢
  rw [surplus_step h]
  omega

end P2PLending.Custody
