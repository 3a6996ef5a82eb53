import P2PLending.Foundation.Checked
import Mathlib.Data.List.Forall2

/-! Loops of fallible steps. A map succeeds when every step does, a fold over a
nested loop is a fold over the list of its inner steps, and a fold whose steps
first compute and then act is a map followed by a fold. -/

namespace P2PLending.Checked

variable {ε α β σ : Type}

theorem mapM_eq_ok {f : α → Except ε β} {xs : List α} {ys : List β} :
    xs.mapM f = .ok ys ↔ List.Forall₂ (fun x y => f x = .ok y) xs ys := by
  induction xs generalizing ys with
  | nil => simp [eq_comm]
  | cons x xs ih =>
      rw [List.mapM_cons, bind_eq_ok]
      constructor
      · rintro ⟨y, head, rest⟩
        obtain ⟨tail, mapped, joined⟩ := bind_eq_ok.mp rest
        cases joined
        exact .cons head (ih.mp mapped)
      · intro related
        cases related with
        | cons head tail => exact ⟨_, head, bind_eq_ok.mpr ⟨_, ih.mpr tail, rfl⟩⟩

/-- A map that succeeds at every element, whatever comes of it. -/
theorem exists_mapM_ok {f : α → Except ε β} {xs : List α} :
    (∃ ys, xs.mapM f = .ok ys) ↔ ∀ x ∈ xs, ∃ y, f x = .ok y := by
  simp only [mapM_eq_ok]
  induction xs with
  | nil => simp
  | cons x xs ih =>
      rw [List.forall_mem_cons, ← ih]
      constructor
      · intro mapped
        obtain ⟨_, related⟩ := mapped
        cases related with
        | cons head tail => exact ⟨⟨_, head⟩, _, tail⟩
      · rintro ⟨⟨y, head⟩, ys, tail⟩
        exact ⟨y :: ys, .cons head tail⟩

/-- There and back over a list is there and back at each element. -/
theorem mapM_mapM_same {f : α → Except ε β} {g : β → Except ε α} {xs : List α} :
    (∃ ys, xs.mapM f = .ok ys ∧ ys.mapM g = .ok xs) ↔ ∀ x ∈ xs, ∃ y, f x = .ok y ∧ g y = .ok x := by
  simp only [mapM_eq_ok]
  induction xs with
  | nil => simp
  | cons x xs ih =>
      rw [List.forall_mem_cons, ← ih]
      constructor
      · intro mapped
        obtain ⟨_, there, back⟩ := mapped
        cases there with
        | cons head tail =>
            cases back with
            | cons head' tail' => exact ⟨⟨_, head, head'⟩, _, tail, tail'⟩
      · rintro ⟨⟨y, head, head'⟩, ys, tail, tail'⟩
        exact ⟨y :: ys, .cons head tail, .cons head' tail'⟩

theorem mem_mapM {f : α → Except ε β} {xs : List α} {ys : List β} (mapped : xs.mapM f = .ok ys)
    {y : β} : y ∈ ys ↔ ∃ x ∈ xs, f x = .ok y := by
  have pairs := mapM_eq_ok.mp mapped
  clear mapped
  induction pairs with
  | nil => simp
  | cons head _ ih => simp [ih, head, eq_comm]

/-- A map whose results all have a property. -/
theorem exists_mapM_forall {f : α → Except ε β} {P : β → Prop} {xs : List α} :
    (∃ ys, xs.mapM f = .ok ys ∧ ∀ y ∈ ys, P y) ↔ ∀ x ∈ xs, ∃ y, f x = .ok y ∧ P y := by
  constructor
  · rintro ⟨ys, mapped, each⟩ x listed
    obtain ⟨y, computed⟩ := exists_mapM_ok.mp ⟨ys, mapped⟩ x listed
    exact ⟨y, computed, each y ((mem_mapM mapped).mpr ⟨x, listed, computed⟩)⟩
  · intro each
    obtain ⟨ys, mapped⟩ := exists_mapM_ok.mpr fun x listed =>
      (each x listed).imp fun _ => And.left
    refine ⟨ys, mapped, fun y result => ?_⟩
    obtain ⟨x, listed, computed⟩ := (mem_mapM mapped).mp result
    obtain ⟨y', computed', holds⟩ := each x listed
    exact Except.ok.inj (computed'.symm.trans computed) ▸ holds

/-- What every turn of a loop keeps, the loop keeps. -/
theorem foldlM_keeps {f : σ → α → Except ε σ} {P : σ → Prop} {xs : List α} {init last : σ}
    (turn : ∀ {s x s'}, P s → f s x = .ok s' → P s') (start : P init)
    (ran : xs.foldlM f init = .ok last) : P last := by
  induction xs generalizing init with
  | nil => exact Except.ok.inj ran ▸ start
  | cons x xs ih =>
      rw [List.foldlM_cons] at ran
      obtain ⟨s, step, rest⟩ := bind_eq_ok.mp ran
      exact ih (turn start step) rest

/-- A loop whose turns each do what a list tells, the list computed from the element alone, does
what the lists one after the other tell. -/
theorem foldlM_collects {κ : Type} {f : σ → α → Except ε σ} {g : α → Except ε (List κ)}
    {P : σ → Prop} {R : σ → List κ → σ → Prop} (refl : ∀ {s}, R s [] s)
    (trans : ∀ {s ks s' ks' s''}, R s ks s' → R s' ks' s'' → R s (ks ++ ks') s'')
    {xs : List α} {init last : σ}
    (turn : ∀ {s s'}, ∀ x ∈ xs, P s → f s x = .ok s' → P s' ∧ ∃ ks, g x = .ok ks ∧ R s ks s')
    (start : P init) (ran : xs.foldlM f init = .ok last) :
    P last ∧ ∃ kss, xs.mapM g = .ok kss ∧ R init kss.flatten last := by
  induction xs generalizing init with
  | nil =>
      cases ran
      exact ⟨start, [], rfl, refl⟩
  | cons x xs ih =>
      rw [List.foldlM_cons] at ran
      obtain ⟨s, step, rest⟩ := bind_eq_ok.mp ran
      obtain ⟨kept, ks, computed, does⟩ := turn x List.mem_cons_self start step
      obtain ⟨ends, kss, mapped, others⟩ :=
        ih (fun y listed => turn y (List.mem_cons_of_mem x listed)) kept rest
      refine ⟨ends, ks :: kss, ?_, trans does others⟩
      rw [List.mapM_cons, computed, ok_bind, mapped]
      rfl

/-- A loop whose turns each take as much room as the list that they go through, the list computed
from the element alone, gets to its end when there is room for all of the lists. -/
theorem foldlM_room {κ : Type} {f : σ → α → Except ε σ} {g : α → Except ε (List κ)}
    {P : σ → Prop} {Q : κ → Prop} {u : σ → ℕ} {n : ℕ} {l : List α} {init : σ}
    (turn : ∀ {s}, ∀ x ∈ l, P s → ((∃ s', f s x = .ok s') ↔
      ∃ ks, g x = .ok ks ∧ (∀ k ∈ ks, Q k) ∧ u s + ks.length < n))
    (keeps : ∀ {s s'}, ∀ x ∈ l, P s → f s x = .ok s' →
      P s' ∧ ∃ ks, g x = .ok ks ∧ u s' = u s + ks.length)
    (start : P init) (room : u init < n) :
    (∃ last, l.foldlM f init = .ok last) ↔
      ∃ kss, l.mapM g = .ok kss ∧ (∀ k ∈ kss.flatten, Q k) ∧
        u init + kss.flatten.length < n := by
  induction l generalizing init with
  | nil => simpa using room
  | cons x l ih =>
      have rest := fun {s} (kept : P s) (room : u s < n) =>
        @ih s (fun y listed => turn y (List.mem_cons_of_mem x listed))
          (fun y listed => keeps y (List.mem_cons_of_mem x listed)) kept room
      have first := turn x List.mem_cons_self start
      constructor
      · rintro ⟨last, ran⟩
        rw [List.foldlM_cons] at ran
        obtain ⟨s, step, ran⟩ := bind_eq_ok.mp ran
        obtain ⟨ks, computed, each, fits⟩ := first.mp ⟨s, step⟩
        obtain ⟨kept, ks', computed', more⟩ := keeps x List.mem_cons_self start step
        cases computed.symm.trans computed'
        obtain ⟨kss, mapped, others, fits⟩ := (rest kept (by omega)).mp ⟨last, ran⟩
        refine ⟨ks :: kss, ?_, ?_, ?_⟩
        · rw [List.mapM_cons, computed, ok_bind, mapped]
          rfl
        · rw [List.flatten_cons, List.forall_mem_append]
          exact ⟨each, others⟩
        · rw [List.flatten_cons, List.length_append]
          omega
      · rintro ⟨kss, mapped, each, fits⟩
        cases mapM_eq_ok.mp mapped with
        | @cons _ ks _ kss computed tail =>
            rw [List.flatten_cons, List.forall_mem_append] at each
            rw [List.flatten_cons, List.length_append] at fits
            obtain ⟨s, step⟩ := first.mpr ⟨ks, computed, each.1, by omega⟩
            obtain ⟨kept, ks', computed', more⟩ := keeps x List.mem_cons_self start step
            cases computed.symm.trans computed'
            obtain ⟨last, ran⟩ := (rest kept (by omega)).mpr
              ⟨kss, mapM_eq_ok.mpr tail, each.2, by omega⟩
            refine ⟨last, ?_⟩
            rw [List.foldlM_cons, step]
            exact ran

theorem foldlM_flatMap {f : σ → β → Except ε σ} {g : α → List β} (xs : List α) (init : σ) :
    (xs.flatMap g).foldlM f init = xs.foldlM (fun s x => (g x).foldlM f s) init := by
  induction xs generalizing init with
  | nil => rfl
  | cons x xs ih =>
      rw [List.flatMap_cons, List.foldlM_append, List.foldlM_cons]
      exact congrArg _ (funext ih)

theorem foldlM_bind_ok {f : α → Except ε β} {g : σ → β → Except ε σ} {xs : List α} {init last : σ} :
    xs.foldlM (fun s x => do let y ← f x; g s y) init = .ok last ↔
      ∃ ys, xs.mapM f = .ok ys ∧ ys.foldlM g init = .ok last := by
  induction xs generalizing init with
  | nil => simp
  | cons x xs ih =>
      rw [List.foldlM_cons, bind_eq_ok]
      constructor
      · rintro ⟨s, step, rest⟩
        obtain ⟨y, computed, acted⟩ := bind_eq_ok.mp step
        obtain ⟨ys, mapped, folded⟩ := ih.mp rest
        refine ⟨y :: ys, ?_, ?_⟩
        · rw [List.mapM_cons, computed, ok_bind, mapped]
          rfl
        · rw [List.foldlM_cons, acted]
          exact folded
      · rintro ⟨ys, mapped, folded⟩
        cases mapM_eq_ok.mp mapped with
        | cons head tail =>
            rw [List.foldlM_cons] at folded
            obtain ⟨s, acted, rest⟩ := bind_eq_ok.mp folded
            exact ⟨s, bind_eq_ok.mpr ⟨_, head, acted⟩, ih.mpr ⟨_, mapM_eq_ok.mpr tail, rest⟩⟩

/-- What holds of the results where it holds of what they come from. -/
theorem forall_mapM_iff {f : α → Except ε β} {xs : List α} {ys : List β} {P : β → Prop}
    {Q : α → Prop} (mapped : xs.mapM f = .ok ys) (each : ∀ {x y}, f x = .ok y → (P y ↔ Q x)) :
    (∀ y ∈ ys, P y) ↔ ∀ x ∈ xs, Q x := by
  have pairs := mapM_eq_ok.mp mapped
  clear mapped
  induction pairs with
  | nil => simp
  | cons head _ ih =>
      rw [List.forall_mem_cons, List.forall_mem_cons]
      exact and_congr (each head) ih

/-- A loop whose state counts its turns. -/
theorem foldlM_counts {f : α → ℕ → Except ε Unit} {xs : List α} {start : ℕ} :
    xs.foldlM (fun i x => do f x i; .ok (i + 1)) start = (do
      (xs.zipIdx start).forM fun x => f x.1 x.2
      .ok (start + xs.length) : Except ε ℕ) := by
  induction xs generalizing start with
  | nil => rfl
  | cons x xs ih =>
      have turn : ((x :: xs).zipIdx start).forM (fun x => f x.1 x.2) =
          (f x start >>= fun _ => (xs.zipIdx (start + 1)).forM fun x => f x.1 x.2) := rfl
      rw [List.foldlM_cons, turn, bind_assoc, bind_assoc]
      refine bind_congr fun _ => ?_
      rw [ok_bind, ih, List.length_cons, Nat.add_right_comm, Nat.add_assoc]

theorem forM_eq_ok {f : α → Except ε Unit} {xs : List α} :
    xs.forM f = .ok () ↔ ∀ x ∈ xs, f x = .ok () := by
  induction xs with
  | nil => simp
  | cons x xs ih =>
      have step : (x :: xs).forM f = (f x >>= fun _ => xs.forM f) := rfl
      rw [step, bind_eq_ok, List.forall_mem_cons, ← ih]
      exact ⟨fun ⟨_, head, rest⟩ => ⟨head, rest⟩, fun ⟨head, rest⟩ => ⟨(), head, rest⟩⟩

theorem forM_then_eq_ok {f : α → Except ε Unit} {xs : List α} {b c : β} :
    (do xs.forM f; .ok b : Except ε β) = .ok c ↔ (∀ x ∈ xs, f x = .ok ()) ∧ c = b := by
  rw [bind_eq_ok, ← forM_eq_ok]
  constructor
  · rintro ⟨_, each, same⟩
    exact ⟨each, (Except.ok.inj same).symm⟩
  · rintro ⟨each, rfl⟩
    exact ⟨(), each, rfl⟩

/-- A loop that pushes its results makes the list of them. -/
theorem foldlM_push_ok {f : α → Except ε β} {xs : List α} {init last : List β} :
    xs.foldlM (fun ys x => do let y ← f x; .ok (ys ++ [y])) init = .ok last ↔
      ∃ ys, xs.mapM f = .ok ys ∧ last = init ++ ys := by
  rw [foldlM_bind_ok]
  have pushed : ∀ (ys init : List β),
      ys.foldlM (fun ys y => (.ok (ys ++ [y]) : Except ε (List β))) init = .ok (init ++ ys) := by
    intro ys
    induction ys with
    | nil => simp
    | cons y ys ih => simp [ih]
  simp only [pushed, Except.ok.injEq, eq_comm]

/-- What a pointwise relation pairs with the element at a position. -/
theorem forall₂_getElem? {R : α → β → Prop} {xs : List α} {ys : List β}
    (related : List.Forall₂ R xs ys) {i : ℕ} {x : α} (at_ : xs[i]? = some x) :
    ∃ y, ys[i]? = some y ∧ R x y := by
  induction related generalizing i with
  | nil => cases at_
  | cons head _ ih =>
      cases i with
      | zero =>
          cases at_
          exact ⟨_, rfl, head⟩
      | succ i => exact ih at_

/-- Rows of one length, read as one list. -/
theorem getElem?_flatMap_const {g : α → List β} {width i j : ℕ} {xs : List α}
    (rows : ∀ x ∈ xs, (g x).length = width) (inRow : j < width) :
    (xs.flatMap g)[width * i + j]? = xs[i]?.bind fun x => (g x)[j]? := by
  induction xs generalizing i with
  | nil => simp
  | cons x xs ih =>
      rw [List.forall_mem_cons] at rows
      rw [List.flatMap_cons]
      cases i with
      | zero =>
          rw [Nat.mul_zero, Nat.zero_add, List.getElem?_append_left (by omega)]
          rfl
      | succ i =>
          have below : width ≤ width * (i + 1) + j := by
            rw [Nat.mul_add]
            omega
          have rest : width * (i + 1) + j - width = width * i + j := by
            rw [Nat.mul_add]
            omega
          rw [List.getElem?_append_right (by omega), rows.1, rest, ih rows.2]
          rfl

end P2PLending.Checked
