import Mathlib.Order.Defs.Unbundled

/-! Message handlers with state. A handler returns a value or stops with a fault,
and what it has done to the state stays done. A relation that is reflexive and
transitive is kept by a handler when every one of its stages keeps it. -/

namespace P2PLending

/-- A computation that may stop with a fault and never undoes an effect. -/
def Handler (σ ε α : Type) := σ → Except ε α × σ

namespace Handler

variable {σ ε α β : Type}

/-- Run the next stage on the value, or stop with the fault. -/
def andThen (m : Handler σ ε α) (f : α → Handler σ ε β) : Handler σ ε β := fun s =>
  match m s with
  | (.ok a, s') => f a s'
  | (.error e, s') => (.error e, s')

instance : Monad (Handler σ ε) where
  pure a := fun s => (.ok a, s)
  bind := andThen

/-- A stage that only computes. -/
def lift (r : Except ε α) : Handler σ ε α := fun s => (r, s)

/-- A stage that reads the state. -/
def read (f : σ → Except ε α) : Handler σ ε α := fun s => (f s, s)

def modify (f : σ → σ) : Handler σ ε Unit := fun s => (.ok (), f s)

/-- One stage for each element, in order, up to the first fault. -/
def forEach {ι : Type} (h : ι → Handler σ ε Unit) : List ι → Handler σ ε Unit
  | [] => pure ()
  | i :: rest => do
      h i
      forEach h rest

@[simp] theorem pure_apply (a : α) (s : σ) :
    (pure a : Handler σ ε α) s = (.ok a, s) := rfl

@[simp] theorem lift_bind (r : Except ε α) (f : α → Handler σ ε β) (s : σ) :
    (lift r >>= f) s = match r with
      | .ok a => f a s
      | .error e => (.error e, s) := by
  cases r <;> rfl

@[simp] theorem read_bind (g : σ → Except ε α) (f : α → Handler σ ε β) (s : σ) :
    (read g >>= f) s = match g s with
      | .ok a => f a s
      | .error e => (.error e, s) := by
  show andThen (read g) f s = _
  rw [andThen, read]
  cases g s <;> rfl

@[simp] theorem modify_bind (g : σ → σ) (f : Unit → Handler σ ε β) (s : σ) :
    (modify g >>= f) s = f () (g s) := rfl

theorem bind_apply (m : Handler σ ε α) (f : α → Handler σ ε β) (s : σ) :
    (m >>= f) s = match m s with
      | (.ok a, s') => f a s'
      | (.error e, s') => (.error e, s') := rfl

theorem bind_pure_unit (m : Handler σ ε Unit) : (m >>= fun _ => pure ()) = m := by
  funext s
  rw [bind_apply]
  match m s with
  | (.ok _, _) | (.error _, _) => rfl

theorem ite_apply (c : Prop) [Decidable c] (m m' : Handler σ ε α) (s : σ) :
    (if c then m else m') s = if c then m s else m' s := by
  split <;> rfl

theorem bind_ok {m : Handler σ ε α} {f : α → Handler σ ε β} {s t : σ} {b : β} :
    (m >>= f) s = (.ok b, t) ↔ ∃ a s', m s = (.ok a, s') ∧ f a s' = (.ok b, t) := by
  rw [bind_apply]
  match m s with
  | (.ok a, s') =>
      constructor
      · intro next
        exact ⟨a, s', rfl, next⟩
      · rintro ⟨_, _, first, next⟩
        cases first
        exact next
  | (.error e, s') => simp

@[simp] theorem pure_ok {a b : α} {s t : σ} :
    (pure a : Handler σ ε α) s = (.ok b, t) ↔ a = b ∧ s = t := by simp

@[simp] theorem lift_ok {r : Except ε α} {a : α} {s t : σ} :
    lift r s = (.ok a, t) ↔ r = .ok a ∧ s = t := by simp [lift]

@[simp] theorem read_ok {g : σ → Except ε α} {a : α} {s t : σ} :
    read g s = (.ok a, t) ↔ g s = .ok a ∧ s = t := by simp [read]

@[simp] theorem modify_ok {g : σ → σ} {u : Unit} {s t : σ} :
    (modify g : Handler σ ε Unit) s = (.ok u, t) ↔ g s = t := by simp [modify]

theorem bind_error {m : Handler σ ε α} {f : α → Handler σ ε β} {s t : σ} {e : ε} :
    (m >>= f) s = (.error e, t) ↔
      m s = (.error e, t) ∨ ∃ a s', m s = (.ok a, s') ∧ f a s' = (.error e, t) := by
  rw [bind_apply]
  rcases m s with ⟨_ | a, s'⟩
  · simp
  · constructor
    · intro next
      exact Or.inr ⟨a, s', rfl, next⟩
    · rintro (stopped | ⟨_, _, first, next⟩)
      · cases stopped
      · cases first
        exact next

theorem lift_error {r : Except ε α} {e : ε} {s t : σ} :
    lift r s = (.error e, t) ↔ r = .error e ∧ s = t := by simp [lift]

theorem read_error {g : σ → Except ε α} {e : ε} {s t : σ} :
    read g s = (.error e, t) ↔ g s = .error e ∧ s = t := by simp [read]

/-- A loop goes on behind what it has done. -/
theorem forEach_append_ok {ι : Type} {h : ι → Handler σ ε Unit} {before after : List ι} {s s' : σ}
    (first : forEach h before s = (.ok (), s')) :
    forEach h (before ++ after) s = forEach h after s' := by
  induction before generalizing s with
  | nil =>
      cases first
      rfl
  | cons i rest ih =>
      obtain ⟨_, s₁, ran, later⟩ := bind_ok.mp first
      rw [List.cons_append, forEach, bind_apply, ran]
      exact ih later

/-- What the turns of a loop keep is there at its end. -/
theorem forEach_ok {ι : Type} {h : ι → Handler σ ε Unit} {P : σ → Prop} {l : List ι}
    (each : ∀ i ∈ l, ∀ s s', P s → h i s = (.ok (), s') → P s') {s t : σ} (start : P s)
    (ran : forEach h l s = (.ok (), t)) : P t := by
  induction l generalizing s with
  | nil =>
      cases ran
      exact start
  | cons i rest ih =>
      obtain ⟨_, s₁, first, later⟩ := bind_ok.mp ran
      have after := each i List.mem_cons_self s s₁ start first
      exact ih (fun j listed => each j (List.mem_cons_of_mem i listed)) after later

/-- A loop that fails does so in a turn, with what the turns before it have kept. -/
theorem forEach_error {ι : Type} {h : ι → Handler σ ε Unit} {P : σ → Prop} {l : List ι}
    (each : ∀ i ∈ l, ∀ s s', P s → h i s = (.ok (), s') → P s') {s t : σ} {e : ε} (start : P s)
    (failed : forEach h l s = (.error e, t)) : ∃ i ∈ l, ∃ s', P s' ∧ h i s' = (.error e, t) := by
  induction l generalizing s with
  | nil => cases failed
  | cons i rest ih =>
      rcases bind_error.mp failed with stopped | ⟨_, s₁, first, later⟩
      · exact ⟨i, List.mem_cons_self, s, start, stopped⟩
      · obtain ⟨j, listed, found⟩ := ih (fun j listed => each j (List.mem_cons_of_mem i listed))
          (each i List.mem_cons_self s s₁ start first) later
        exact ⟨j, List.mem_cons_of_mem i listed, found⟩

/-- A loop comes to nothing behind the element that stops it. -/
theorem forEach_stops {ι : Type} {h : ι → Handler σ ε Unit} {before after : List ι} {i : ι}
    {s s' t : σ} {e : ε} (first : forEach h before s = (.ok (), s'))
    (stops : h i s' = (.error e, t)) : forEach h (before ++ i :: after) s = (.error e, t) := by
  rw [forEach_append_ok first, forEach, bind_apply, stops]

theorem forEach_skips {ι : Type} {h : ι → Handler σ ε Unit} {l : List ι} {s : σ}
    (each : ∀ i ∈ l, h i s = (.ok (), s)) : forEach h l s = (.ok (), s) := by
  induction l with
  | nil => rfl
  | cons i rest ih =>
      rw [forEach, bind_apply, each i List.mem_cons_self]
      exact ih fun j listed => each j (List.mem_cons_of_mem i listed)

/-- Whatever the outcome, the state before and the state after are related. -/
def Keeps (R : σ → σ → Prop) (m : Handler σ ε α) : Prop := ∀ s, R s (m s).2

section Keeps
variable {R : σ → σ → Prop}

theorem keeps_pure [Std.Refl R] (a : α) : Keeps R (pure a : Handler σ ε α) :=
  fun s => refl_of R s

theorem keeps_lift [Std.Refl R] (r : Except ε α) : Keeps R (lift r) := fun s => refl_of R s

theorem keeps_read [Std.Refl R] (g : σ → Except ε α) : Keeps R (read g) := fun s => refl_of R s

theorem keeps_bind [IsTrans σ R] {m : Handler σ ε α} {f : α → Handler σ ε β}
    (first : Keeps R m) (next : ∀ a, Keeps R (f a)) : Keeps R (m >>= f) := by
  intro s
  have before := first s
  rw [bind_apply]
  match h : m s with
  | (.ok a, s') =>
      rw [h] at before
      exact trans_of R before (next a s')
  | (.error e, s') =>
      rw [h] at before
      exact before

theorem keeps_forEach [Std.Refl R] [IsTrans σ R] {ι : Type} {h : ι → Handler σ ε Unit}
    {l : List ι} (each : ∀ i ∈ l, Keeps R (h i)) : Keeps R (forEach h l) := by
  induction l with
  | nil => exact keeps_pure ()
  | cons i rest ih =>
      have later := ih fun j listed => each j (List.mem_cons_of_mem i listed)
      exact keeps_bind (each i List.mem_cons_self) fun _ => later

theorem keeps_modify {g : σ → σ} (each : ∀ s, R s (g s)) :
    Keeps R (modify g : Handler σ ε Unit) := each

end Keeps

/-- A fault leaves a state that is related to the one before. -/
def FailsIn (R : σ → σ → Prop) (m : Handler σ ε α) : Prop :=
  ∀ s e s', m s = (.error e, s') → R s s'

section FailsIn
variable {R : σ → σ → Prop}

theorem failsIn_of_keeps {m : Handler σ ε α} (keeps : Keeps R m) : FailsIn R m := by
  intro s e s' faulted
  have related := keeps s
  rwa [faulted] at related

/-- What a stage has returned is known to the next ones. -/
theorem failsIn_bind [IsTrans σ R] {m : Handler σ ε α} {f : α → Handler σ ε β}
    (first : Keeps R m) (next : ∀ s a s', m s = (.ok a, s') → FailsIn R (f a)) :
    FailsIn R (m >>= f) := by
  intro s e t faulted
  have before := first s
  rw [bind_apply] at faulted
  match h : m s with
  | (.ok a, s') =>
      rw [h] at before faulted
      exact trans_of R before (next s a s' h s' e t faulted)
  | (.error e', s') =>
      rw [h] at before faulted
      obtain ⟨_, rfl⟩ := Prod.mk.inj faulted
      exact before

theorem never_bind {m : Handler σ ε α} {f : α → Handler σ ε β}
    (first : ∀ s, (m s).1.isOk = true) (next : ∀ a s, (f a s).1.isOk = true) (s : σ) :
    ((m >>= f) s).1.isOk = true := by
  have fine := first s
  rw [bind_apply]
  match h : m s with
  | (.ok a, s') => exact next a s'
  | (.error e, s') =>
      rw [h] at fine
      cases fine

/-- A stage that does not fail may change the state before the last fault. -/
theorem failsIn_of_never {m : Handler σ ε α} (never : ∀ s, (m s).1.isOk = true) :
    FailsIn R m := by
  intro s e s' faulted
  have fine := never s
  rw [faulted] at fine
  cases fine

/-- After a stage that fails cleanly, stages that do not fail may do anything. -/
theorem failsIn_then_never {m : Handler σ ε α} {f : α → Handler σ ε β} (first : FailsIn R m)
    (never : ∀ a s, (f a s).1.isOk = true) : FailsIn R (m >>= f) := by
  intro s e t faulted
  rw [bind_apply] at faulted
  match h : m s with
  | (.ok a, s') =>
      rw [h] at faulted
      have faulted : f a s' = (.error e, t) := faulted
      have fine := never a s'
      rw [faulted] at fine
      cases fine
  | (.error e', s') =>
      rw [h] at faulted
      obtain ⟨_, rfl⟩ := Prod.mk.inj faulted
      exact first s e' s' h

theorem failsIn_ite {c : Prop} [Decidable c] {m m' : Handler σ ε α} (yes : FailsIn R m)
    (no : FailsIn R m') : FailsIn R (if c then m else m') := by
  split
  · exact yes
  · exact no

end FailsIn

/-- A handler stops with the fault of a computation that has no state, or returns something that is
related to what the computation returns. -/
def Follows (post : α → β → σ → Prop) : Except ε α → Except ε β × σ → Prop
  | .ok a, (.ok b, s) => post a b s
  | .error fault, (.error fault', _) => fault = fault'
  | _, _ => False

section Follows
variable {γ δ : Type} {post : γ → δ → σ → Prop} {r : Except ε α} {f : α → Except ε γ}
  {g : β → Handler σ ε δ} {s : σ}

theorem follows_bind {m : Handler σ ε β} {mid : α → β → σ → Prop} (first : Follows mid r (m s))
    (next : ∀ a b s', r = .ok a → mid a b s' → Follows post (f a) (g b s')) :
    Follows post (r >>= f) ((m >>= g) s) := by
  rw [bind_apply]
  generalize m s = returned at first ⊢
  rcases returned with ⟨fault | b, s'⟩
  · cases r with
    | error fault' => exact first
    | ok a => exact False.elim first
  · cases r with
    | error fault' => exact False.elim first
    | ok a => exact next a b s' rfl first

theorem follows_lift {r : Except ε β} {f : β → Except ε γ}
    (next : ∀ b, r = .ok b → Follows post (f b) (g b s)) :
    Follows post (r >>= f) ((lift r >>= g) s) := by
  cases r with
  | error fault => rfl
  | ok b => exact next b rfl

theorem Follows.mono {post' : γ → δ → σ → Prop} {r : Except ε γ} {result : Except ε δ × σ}
    (follows : Follows post r result) (weaker : ∀ a b s, post a b s → post' a b s) :
    Follows post' r result := by
  rcases result with ⟨fault | b, s'⟩
  · cases r with
    | error fault' => exact follows
    | ok a => exact False.elim follows
  · cases r with
    | error fault' => exact False.elim follows
    | ok a => exact weaker a b s' follows

end Follows

end Handler

end P2PLending
