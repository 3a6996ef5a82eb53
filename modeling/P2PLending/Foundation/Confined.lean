import P2PLending.Foundation.Handler
import Mathlib.Data.List.Nodup

/-! Handlers that keep to their own part of the state. What such a handler returns and
leaves there depends on that part alone, and it leaves the rest as it was. A loop whose
turns keep to parts of their own treats each part as its turn alone would. -/

namespace P2PLending.Handler

variable {σ ε α β ι κ V W : Type}

structure Confined (own : σ → V) (others : σ → W) (m : Handler σ ε α) : Prop where
  result : ∀ s s', own s = own s' → (m s).1 = (m s').1
  kept : ∀ s s', own s = own s' → own (m s).2 = own (m s').2
  rest : ∀ s, others (m s).2 = others s

section Confined
variable {own : σ → V} {others : σ → W}

theorem confined_pure (a : α) : Confined own others (pure a : Handler σ ε α) :=
  ⟨fun _ _ _ => rfl, fun _ _ same => same, fun _ => rfl⟩

theorem confined_lift (r : Except ε α) : Confined own others (lift r : Handler σ ε α) :=
  ⟨fun _ _ _ => rfl, fun _ _ same => same, fun _ => rfl⟩

theorem confined_read {g : σ → Except ε α} (reads : ∀ s s', own s = own s' → g s = g s') :
    Confined own others (read g) :=
  ⟨reads, fun _ _ same => same, fun _ => rfl⟩

theorem confined_modify {g : σ → σ} (kept : ∀ s s', own s = own s' → own (g s) = own (g s'))
    (rest : ∀ s, others (g s) = others s) :
    Confined own others (modify g : Handler σ ε Unit) :=
  ⟨fun _ _ _ => rfl, kept, rest⟩

/-- What a stage has returned is known to the next ones. -/
theorem confined_bind {m : Handler σ ε α} {f : α → Handler σ ε β} (first : Confined own others m)
    (next : ∀ s a s', m s = (.ok a, s') → Confined own others (f a)) :
    Confined own others (m >>= f) := by
  have both : ∀ s s', own s = own s' →
      ((m >>= f) s).1 = ((m >>= f) s').1 ∧ own ((m >>= f) s).2 = own ((m >>= f) s').2 := by
    intro s s' same
    have returned := first.result s s' same
    have left := first.kept s s' same
    rw [bind_apply, bind_apply]
    match ran : m s, ran' : m s' with
    | (.ok a, t), (.ok a', t') =>
        rw [ran, ran'] at returned left
        obtain rfl : a = a' := Except.ok.inj returned
        exact ⟨(next s a t ran).result t t' left, (next s a t ran).kept t t' left⟩
    | (.error e, t), (.error e', t') =>
        rw [ran, ran'] at returned left
        obtain rfl : e = e' := Except.error.inj returned
        exact ⟨rfl, left⟩
    | (.ok a, t), (.error e, t') =>
        rw [ran, ran'] at returned
        cases returned
    | (.error e, t), (.ok a, t') =>
        rw [ran, ran'] at returned
        cases returned
  refine ⟨fun s s' same => (both s s' same).1, fun s s' same => (both s s' same).2, fun s => ?_⟩
  have before := first.rest s
  rw [bind_apply]
  match ran : m s with
  | (.ok a, t) =>
      rw [ran] at before
      exact ((next s a t ran).rest t).trans before
  | (.error e, t) =>
      rw [ran] at before
      exact before

theorem confined_ite {c : Prop} [Decidable c] {m m' : Handler σ ε α}
    (yes : Confined own others m) (no : Confined own others m') :
    Confined own others (if c then m else m') := by
  split
  · exact yes
  · exact no

end Confined

/-! A loop over parts of a state that is looked at by keys. -/

section Loop
variable (look : κ → σ → V) {key : ι → κ} {h : ι → Handler σ ε Unit} {items : List ι} {s : σ}

/-- Everything but the part under the key. -/
def butAt (k : κ) (s : σ) (other : {j // j ≠ k}) : V := look other s

variable {look}

theorem look_of_confined {m : Handler σ ε α} {k j : κ}
    (confined : Confined (look k) (butAt look k) m) (other : j ≠ k) (s : σ) :
    look j (m s).2 = look j s := congrFun (confined.rest s) ⟨j, other⟩

variable (look) in
/-- A part that has no turn stays as it is, even when the loop stops. -/
theorem forEach_untouched {k : κ}
    (each : ∀ i ∈ items, Confined (look (key i)) (butAt look (key i)) (h i))
    (unlisted : k ∉ items.map key) : look k (forEach h items s).2 = look k s := by
  induction items generalizing s with
  | nil => rfl
  | cons i rest ih =>
      rw [List.map_cons, List.mem_cons, not_or] at unlisted
      have first := look_of_confined (each i List.mem_cons_self) unlisted.1 s
      rw [forEach, bind_apply]
      cases ran : h i s with
      | mk answer s' =>
          cases answer with
          | ok _ =>
              rw [ran] at first
              exact (ih (fun j listed => each j (List.mem_cons_of_mem i listed)) unlisted.2).trans first
          | error _ =>
              rw [ran] at first
              exact first

variable (look) in
theorem forEach_confined (own : (items.map key).Nodup)
    (each : ∀ i ∈ items, Confined (look (key i)) (butAt look (key i)) (h i))
    (calm : ∀ i ∈ items, (h i s).1 = .ok ()) :
    (forEach h items s).1 = .ok () ∧
      (∀ i ∈ items, look (key i) (forEach h items s).2 = look (key i) (h i s).2) ∧
      ∀ k, k ∉ items.map key → look k (forEach h items s).2 = look k s := by
  induction items generalizing s with
  | nil => exact ⟨rfl, nofun, fun _ _ => rfl⟩
  | cons i rest ih =>
      rw [List.map_cons, List.nodup_cons] at own
      have first := each i List.mem_cons_self
      have apart : ∀ j ∈ rest, key j ≠ key i := fun j listed equal =>
        own.1 (equal ▸ List.mem_map_of_mem listed)
      have unmoved : ∀ j ∈ rest, look (key j) (h i s).2 = look (key j) s := fun j listed =>
        look_of_confined first (apart j listed) s
      have later := fun j listed => each j (List.mem_cons_of_mem i listed)
      obtain ⟨returned, turns, untouched⟩ := ih (s := (h i s).2) own.2 later fun j listed =>
        ((later j listed).result _ _ (unmoved j listed)).trans
          (calm j (List.mem_cons_of_mem i listed))
      have ran : forEach h (i :: rest) s = forEach h rest (h i s).2 := by
        have ok : h i s = (.ok (), (h i s).2) := Prod.ext (calm i List.mem_cons_self) rfl
        rw [forEach, bind_apply, ok]
      rw [ran]
      refine ⟨returned, fun j listed => ?_, fun k unlisted => ?_⟩
      · rcases List.mem_cons.mp listed with rfl | listed
        · exact untouched _ own.1
        · exact (turns j listed).trans ((later j listed).kept _ _ (unmoved j listed))
      · rw [List.map_cons, List.mem_cons, not_or] at unlisted
        exact (untouched k unlisted.2).trans (look_of_confined first unlisted.1 s)

variable (look) in
/-- Even when the loop stops, each part is as it was or as a turn of its own leaves it. -/
theorem forEach_part (own : (items.map key).Nodup)
    (each : ∀ i ∈ items, Confined (look (key i)) (butAt look (key i)) (h i)) (k : κ) :
    look k (forEach h items s).2 = look k s ∨
      ∃ i ∈ items, key i = k ∧ look k (forEach h items s).2 = look k (h i s).2 := by
  induction items generalizing s with
  | nil => exact .inl rfl
  | cons i rest ih =>
      rw [List.map_cons, List.nodup_cons] at own
      have first := each i List.mem_cons_self
      have later := fun j listed => each j (List.mem_cons_of_mem i listed)
      by_cases mine : key i = k
      · refine .inr ⟨i, List.mem_cons_self, mine, ?_⟩
        rw [forEach, bind_apply]
        cases ran : h i s with
        | mk answer s' =>
            cases answer with
            | error _ => rfl
            | ok _ =>
                have unlisted : k ∉ rest.map key := mine ▸ own.1
                exact forEach_untouched look later unlisted
      · have unmoved := look_of_confined first (Ne.symm mine) s
        rw [forEach, bind_apply]
        cases ran : h i s with
        | mk answer s' =>
            cases answer with
            | error _ =>
                rw [ran] at unmoved
                exact .inl unmoved
            | ok _ =>
                rw [ran] at unmoved
                obtain same | ⟨j, listed, named, turned⟩ := ih (s := s') own.2 later
                · exact .inl (same.trans unmoved)
                · have kept := (later j listed).kept s' s (by rw [named]; exact unmoved)
                  rw [named] at kept
                  exact .inr ⟨j, List.mem_cons_of_mem i listed, named, turned.trans kept⟩

/-- A loop that is not stopped is stopped by none of its turns alone. -/
theorem calm_of_forEach (own : (items.map key).Nodup)
    (each : ∀ i ∈ items, Confined (look (key i)) (butAt look (key i)) (h i))
    (finished : (forEach h items s).1 = .ok ()) : ∀ i ∈ items, (h i s).1 = .ok () := by
  induction items generalizing s with
  | nil => exact List.forall_mem_nil _
  | cons i rest ih =>
      rw [List.map_cons, List.nodup_cons] at own
      have first := each i List.mem_cons_self
      rw [forEach, bind_apply] at finished
      cases ran : h i s with
      | mk answer s' =>
          cases answer with
          | error e =>
              rw [ran] at finished
              cases finished
          | ok _ =>
              rw [ran] at finished
              have later := fun j listed => each j (List.mem_cons_of_mem i listed)
              have calm := ih own.2 later finished
              intro j listed
              rcases List.mem_cons.mp listed with rfl | listed
              · rw [ran]
              · have apart : key j ≠ key i := fun equal => own.1 (equal ▸ List.mem_map_of_mem listed)
                have unmoved := look_of_confined first apart s
                rw [ran] at unmoved
                exact ((later j listed).result _ _ unmoved).symm.trans (calm j listed)

end Loop

end P2PLending.Handler
