import P2PLending.Foundation.CheckedLists

/-! Faults that a computation avoids, step by step. A step that is not reached avoids every
fault, so each rule asks of a later step only what the steps before it let through. -/

namespace P2PLending.Checked

variable {ε α β σ : Type} {bad : ε → Prop}

/-- No fault of the computation is a bad one. -/
def Avoids (bad : ε → Prop) (x : Except ε α) : Prop := ∀ e, x = .error e → ¬ bad e

@[simp] theorem avoids_ok (a : α) : Avoids bad (.ok a : Except ε α) := nofun

@[simp] theorem avoids_error {e : ε} : Avoids bad (.error e : Except ε α) ↔ ¬ bad e := by
  simp [Avoids]

theorem avoids_bind {x : Except ε α} {f : α → Except ε β} :
    Avoids bad (x >>= f) ↔ Avoids bad x ∧ ∀ a, x = .ok a → Avoids bad (f a) := by
  cases x <;> simp

@[simp] theorem avoids_ensure {c : Prop} [Decidable c] {e : ε} :
    Avoids bad (ensure c e) ↔ (bad e → c) := by
  unfold ensure
  split
  next holds => simp [holds]
  next fails => simp [fails]

@[simp] theorem avoids_add {limit a b : ℕ} {e : ε} :
    Avoids bad (add limit e a b) ↔ (bad e → a + b < limit) := by
  unfold add fit
  split
  next fits => simp [fits]
  next overflows => simp [overflows]

@[simp] theorem avoids_sub {a b : ℕ} {e : ε} : Avoids bad (sub e a b) ↔ (bad e → b ≤ a) := by
  unfold sub
  split
  next below => simp [below]
  next above => simp [above]

theorem avoids_of_ok {x : Except ε α} (succeeds : ∃ a, x = .ok a) : Avoids bad x := by
  obtain ⟨a, rfl⟩ := succeeds
  exact avoids_ok a

/-- `P` at every element up to the first that does not pass. -/
def UpTo (passes P : α → Prop) : List α → Prop
  | [] => True
  | x :: xs => P x ∧ (passes x → UpTo passes P xs)

theorem upTo_of_forall {passes P : α → Prop} {xs : List α} (each : ∀ x ∈ xs, P x) :
    UpTo passes P xs := by
  induction xs with
  | nil => trivial
  | cons x xs ih =>
      rw [List.forall_mem_cons] at each
      exact ⟨each.1, fun _ => ih each.2⟩

/-- Elements that correspond, where those that do not pass need not correspond beyond `P`. -/
theorem upTo_forall₂ {R : α → β → Prop} {passes P : α → Prop} {passes' Q : β → Prop} {xs : List α}
    {ys : List β} (related : List.Forall₂ R xs ys) (each : ∀ {x y}, R x y → (P x ↔ Q y))
    (through : ∀ {x y}, R x y → P x → (passes x ↔ passes' y)) :
    UpTo passes P xs ↔ UpTo passes' Q ys := by
  induction related with
  | nil => exact Iff.rfl
  | cons head rest ih =>
      rw [UpTo, UpTo, ← each head]
      exact and_congr_right fun holds => imp_congr (through head holds) ih

theorem upTo_congr {passes passes' P Q : α → Prop} {xs : List α} (each : ∀ x, P x ↔ Q x)
    (through : ∀ x, P x → (passes x ↔ passes' x)) : UpTo passes P xs ↔ UpTo passes' Q xs := by
  refine upTo_forall₂ (R := Eq) (List.forall₂_refl xs) ?_ ?_
  · rintro x _ rfl
    exact each x
  · rintro x _ rfl
    exact through x

theorem upTo_self {P : α → Prop} {xs : List α} : UpTo P P xs ↔ ∀ x ∈ xs, P x := by
  induction xs with
  | nil => simp [UpTo]
  | cons x xs ih =>
      rw [UpTo, List.forall_mem_cons, ih]
      exact and_congr_right fun holds => ⟨fun rest => rest holds, fun rest _ => rest⟩

theorem avoids_mapM {f : α → Except ε β} {xs : List α} :
    Avoids bad (xs.mapM f) ↔ UpTo (fun x => ∃ y, f x = .ok y) (fun x => Avoids bad (f x)) xs := by
  induction xs with
  | nil => simp [UpTo]
  | cons x xs ih =>
      rw [List.mapM_cons, avoids_bind, UpTo, ← ih]
      refine and_congr_right fun _ => ?_
      simp only [avoids_bind, pure_eq_ok, avoids_ok, implies_true, and_true, forall_exists_index]

theorem avoids_forM {f : α → Except ε Unit} {xs : List α} :
    Avoids bad (xs.forM f) ↔ UpTo (fun x => f x = .ok ()) (fun x => Avoids bad (f x)) xs := by
  induction xs with
  | nil => exact iff_of_true (avoids_ok ()) trivial
  | cons x xs ih =>
      have step : (x :: xs).forM f = (f x >>= fun _ => xs.forM f) := rfl
      rw [step, avoids_bind, UpTo, ← ih]
      exact and_congr_right fun _ => ⟨fun rest => rest (), fun rest _ => rest⟩

theorem avoids_forM_then {f : α → Except ε Unit} {xs : List α} {b : β} :
    Avoids bad (do xs.forM f; .ok b : Except ε β) ↔ Avoids bad (xs.forM f) := by
  simp [avoids_bind]

/-- Steps in any order: whichever comes first decides. -/
theorem avoids_forM_perm {f : α → Except ε Unit} {xs : List α} :
    (∀ ys : List α, ys.Perm xs → Avoids bad (ys.forM f)) ↔ ∀ x ∈ xs, Avoids bad (f x) := by
  constructor
  · intro ordered x listed
    obtain ⟨before, after, rfl⟩ := List.append_of_mem listed
    exact (avoids_forM.mp (ordered (x :: (before ++ after)) List.perm_middle.symm)).1
  · intro each ys same
    rw [avoids_forM]
    exact upTo_of_forall fun x listed => each x (same.mem_iff.mp listed)

/-- `P` at every turn of a loop, up to the first that fails. -/
def AlongFold (f : σ → α → Except ε σ) (P : σ → α → Prop) : σ → List α → Prop
  | _, [] => True
  | s, x :: xs => P s x ∧ ∀ s', f s x = .ok s' → AlongFold f P s' xs

theorem avoids_foldlM {f : σ → α → Except ε σ} {xs : List α} {s : σ} :
    Avoids bad (xs.foldlM f s) ↔ AlongFold f (fun s x => Avoids bad (f s x)) s xs := by
  induction xs generalizing s with
  | nil => simp [AlongFold]
  | cons x xs ih =>
      rw [List.foldlM_cons, avoids_bind, AlongFold]
      exact and_congr_right fun _ => forall₂_congr fun _ _ => ih

/-- The conditions of a loop may be read where an invariant of its turns holds. -/
theorem alongFold_congr {f : σ → α → Except ε σ} {P Q : σ → α → Prop} {I : σ → Prop} {xs : List α}
    {s : σ} (start : I s) (turn : ∀ {s x s'}, I s → f s x = .ok s' → I s')
    (each : ∀ {s x}, I s → x ∈ xs → (P s x ↔ Q s x)) : AlongFold f P s xs ↔ AlongFold f Q s xs := by
  induction xs generalizing s with
  | nil => exact Iff.rfl
  | cons x xs ih =>
      refine and_congr (each start List.mem_cons_self) (forall₂_congr fun s' step => ?_)
      exact ih (turn start step) fun holds listed => each holds (List.mem_cons_of_mem x listed)

/-- Where a condition on the element lets its turn through, a loop asks it of every element. -/
theorem alongFold_iff_forall {f : σ → α → Except ε σ} {P : α → Prop} {xs : List α} {s : σ}
    (through : ∀ s x, P x → ∃ s', f s x = .ok s') :
    AlongFold f (fun _ x => P x) s xs ↔ ∀ x ∈ xs, P x := by
  induction xs generalizing s with
  | nil => simp [AlongFold]
  | cons x xs ih =>
      rw [AlongFold, List.forall_mem_cons]
      refine and_congr_right fun holds => ?_
      obtain ⟨s', step⟩ := through s x holds
      exact ⟨fun rest => ih.mp (rest s' step), fun rest s' _ => ih.mpr rest⟩

end P2PLending.Checked
