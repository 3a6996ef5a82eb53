import Mathlib.Data.Nat.Basic
import Mathlib.Order.Lattice
import Mathlib.Order.Nat

/-! Iterators, called until they end. A call may not return; with more fuel it returns what it
returned with less. -/

namespace P2PLending

variable {S A : Type}

/-- What a call gives with so much fuel, if it returns: an item or the end, and the state after. -/
abbrev Stepper (S A : Type) := ℕ → S → Option (Option A × S)

/-- The items that the calls from a state on give, up to the end. -/
inductive Drains (next : Stepper S A) : S → List A → Prop
  | done {s after : S} (fuel : ℕ) (ended : next fuel s = some (none, after)) : Drains next s []
  | item {s after : S} {x : A} {xs : List A} (fuel : ℕ)
      (gave : next fuel s = some (some x, after)) (others : Drains next after xs) :
      Drains next s (x :: xs)

/-- The items that are left after a call that returned, with what it returned. -/
inductive Leaves (next : Stepper S A) : Option A × S → List A → Prop
  | done {after : S} : Leaves next (none, after) []
  | item {after : S} {x : A} {xs : List A} (others : Drains next after xs) :
      Leaves next (some x, after) (x :: xs)

def Steady (next : Stepper S A) : Prop :=
  ∀ fuel s r, next fuel s = some r → next (fuel + 1) s = some r

variable {next : Stepper S A} {s s' : S} {xs ys : List A}

theorem Steady.mono (steady : Steady next) {fuel more : ℕ} {r : Option A × S}
    (returned : next fuel s = some r) (below : fuel ≤ more) : next more s = some r := by
  induction more, below using Nat.le_induction with
  | base => exact returned
  | succ more _ ih => exact steady more s r ih

theorem Steady.agree (steady : Steady next) {fuel fuel' : ℕ} {r r' : Option A × S}
    (returned : next fuel s = some r) (returned' : next fuel' s = some r') : r = r' := by
  have first := steady.mono returned (le_max_left fuel fuel')
  have second := steady.mono returned' (le_max_right fuel fuel')
  exact Option.some.inj (first.symm.trans second)

namespace Drains

theorem iff_leaves :
    Drains next s xs ↔ ∃ fuel r, next fuel s = some r ∧ Leaves next r xs := by
  constructor
  · intro drains
    cases drains with
    | done fuel ended => exact ⟨fuel, _, ended, .done⟩
    | item fuel gave others => exact ⟨fuel, _, gave, .item others⟩
  · rintro ⟨fuel, r, returned, leaves⟩
    cases leaves with
    | done => exact .done fuel returned
    | item others => exact .item fuel returned others

/-- There is one list of items. -/
theorem unique (steady : Steady next) (drains : Drains next s xs) (also : Drains next s ys) :
    xs = ys := by
  induction drains generalizing ys with
  | done fuel ended =>
      cases also with
      | done => rfl
      | item fuel' gave => cases steady.agree ended gave
  | item fuel gave others ih =>
      cases also with
      | done fuel' ended => cases steady.agree gave ended
      | item fuel' gave' others' =>
          cases steady.agree gave gave'
          rw [ih others']

/-- A call that goes on as a call from another state. -/
theorem later (steady : Steady next) (least : ℕ)
    (turns : ∀ fuel, least ≤ fuel → next (fuel + 1) s = next fuel s') (drains : Drains next s' xs) :
    Drains next s xs := by
  obtain ⟨fuel, r, returned, leaves⟩ := iff_leaves.mp drains
  refine iff_leaves.mpr ⟨max least fuel + 1, r, ?_, leaves⟩
  rw [turns _ (le_max_left least fuel)]
  exact steady.mono returned (le_max_right least fuel)

/-- Two states from which the calls do the same. -/
theorem same (steady : Steady next) (least : ℕ)
    (turns : ∀ fuel, least ≤ fuel → next fuel s = next fuel s') (drains : Drains next s' xs) :
    Drains next s xs := by
  obtain ⟨fuel, r, returned, leaves⟩ := iff_leaves.mp drains
  refine iff_leaves.mpr ⟨max least fuel, r, ?_, leaves⟩
  rw [turns _ (le_max_left least fuel)]
  exact steady.mono returned (le_max_right least fuel)

/-- An iterator that gives something else for each item. -/
theorem map {B : Type} {next' : Stepper S B} {f : A → B}
    (mapped : ∀ fuel s, next' fuel s = (next fuel s).map fun r => (r.1.map f, r.2))
    (drains : Drains next s xs) : Drains next' s (xs.map f) := by
  induction drains with
  | @done s after fuel ended =>
      have ended' : next' fuel s = some (none, after) := by
        rw [mapped, ended]
        rfl
      exact .done fuel ended'
  | @item s after x xs fuel gave _ ih =>
      have gave' : next' fuel s = some (some (f x), after) := by
        rw [mapped, gave]
        rfl
      exact .item fuel gave' ih

end Drains

theorem Steady.map {B : Type} {next' : Stepper S B} {f : A → B} (steady : Steady next)
    (mapped : ∀ fuel s, next' fuel s = (next fuel s).map fun r => (r.1.map f, r.2)) :
    Steady next' := by
  intro fuel s r returned
  rw [mapped, Option.map_eq_some_iff] at returned ⊢
  obtain ⟨inner, gave, same⟩ := returned
  exact ⟨inner, steady fuel s inner gave, same⟩

/-! Enough fuel. -/

theorem enough_succ {P Q : ℕ → Prop} (enough : ∃ least, ∀ fuel, least ≤ fuel → Q fuel)
    (each : ∀ fuel, Q fuel → P (fuel + 1)) : ∃ least, ∀ fuel, least ≤ fuel → P fuel := by
  obtain ⟨least, holds⟩ := enough
  refine ⟨least + 1, fun fuel below => ?_⟩
  obtain ⟨fuel, rfl⟩ := Nat.exists_eq_add_of_le' (Nat.le_of_add_left_le below)
  exact each fuel (holds fuel (Nat.le_of_succ_le_succ below))

theorem enough_one {P : ℕ → Prop} (each : ∀ fuel, P (fuel + 1)) :
    ∃ least, ∀ fuel, least ≤ fuel → P fuel :=
  enough_succ ⟨0, fun _ _ => trivial⟩ fun fuel _ => each fuel

/-! Iterators whose calls may fail. -/

section Calls
variable {ε : Type}

/-- What the first calls from a state on give: the items, and with what they end if they do. -/
def calls (next : S → Except ε (Option A × S)) : (count : ℕ) → S → List A × Option (Except ε Unit)
  | 0, _ => ([], none)
  | count + 1, s =>
      match next s with
      | .error fault => ([], some (.error fault))
      | .ok (none, _) => ([], some (.ok ()))
      | .ok (some x, after) =>
          let others := calls next count after
          (x :: others.1, others.2)

/-- The calls as those of an iterator that does not return where it fails. -/
def unfailing (next : ℕ → S → Except ε (Option A × S)) : Stepper S A :=
  fun fuel s => (next fuel s).toOption

theorem unfailing_eq_some {next : ℕ → S → Except ε (Option A × S)} {fuel : ℕ} {s : S}
    {r : Option A × S} : unfailing next fuel s = some r ↔ next fuel s = .ok r := by
  rw [unfailing]
  cases next fuel s with
  | ok r' => simp [Except.toOption]
  | error fault => simp [Except.toOption]

/-- With enough fuel the calls give their items and come to the end. -/
theorem Drains.called {next : ℕ → S → Except ε (Option A × S)} {s : S} {xs : List A}
    (steady : Steady (unfailing next)) (drains : Drains (unfailing next) s xs) :
    ∃ fuel, ∀ more, fuel ≤ more →
      calls (next more) (xs.length + 1) s = (xs, some (.ok ())) := by
  induction drains with
  | done fuel ended =>
      refine ⟨fuel, fun more below => ?_⟩
      rw [calls, unfailing_eq_some.mp (steady.mono ended below)]
  | @item s after x xs fuel gave _ ih =>
      obtain ⟨later, others⟩ := ih
      refine ⟨max fuel later, fun more below => ?_⟩
      have first := steady.mono gave (le_trans (le_max_left fuel later) below)
      rw [calls, unfailing_eq_some.mp first, List.length_cons]
      dsimp only
      rw [others more (le_trans (le_max_right fuel later) below)]

/-- From a state in which something is always left the calls do not come to the end. -/
theorem calls_unended {next : S → Except ε (Option A × S)} {P : S → Prop}
    (each : ∀ s x after, P s → next s = .ok (x, after) → x ≠ none ∧ P after) {s : S} (left : P s)
    (count : ℕ) : (calls next count s).2 ≠ some (.ok ()) := by
  induction count generalizing s with
  | zero =>
      intro ended
      cases ended
  | succ count ih =>
      rw [calls]
      rcases returned : next s with fault | ⟨_ | x, after⟩
      · intro ended
        cases ended
      · exact absurd rfl (each s none after left returned).1
      · exact ih (each s (some x) after left returned).2

end Calls

end P2PLending
