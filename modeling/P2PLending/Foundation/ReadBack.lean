import P2PLending.Foundation.Codec

/-! What a reader gives, whatever bytes it is given. A codec is exact at a property when its
reader undoes its writer at the values with the property and gives no others: a value then comes
back from its bytes just when it has the property. -/

namespace P2PLending

variable {ε α β : Type}

/-- Every value that the reader gives has the property. -/
def Yields (r : Reader ε α) (P : α → Prop) : Prop :=
  ∀ input a rest, r.run input = .ok (a, rest) → P a

namespace Yields
variable {r s : Reader ε α} {P Q : α → Prop}

theorem mono (yields : Yields r P) (weaker : ∀ a, P a → Q a) : Yields r Q :=
  fun input a rest read => weaker a (yields input a rest read)

theorem any (r : Reader ε α) : Yields r fun _ => True := fun _ _ _ _ => trivial

theorem pure {a : α} (holds : P a) : Yields (ε := ε) (Pure.pure a) P := by
  intro input b rest read
  cases read
  exact holds

theorem throw (e : ε) : Yields (MonadExcept.throw e : Reader ε α) P := by
  intro input a rest read
  cases read

theorem bind {f : α → Reader ε β} {R : β → Prop} (head : Yields r P)
    (tail : ∀ a, P a → Yields (f a) R) : Yields (r >>= f) R := by
  intro input b rest read
  rw [StateT.run_bind] at read
  obtain ⟨⟨a, between⟩, first, last⟩ := Checked.bind_eq_ok.mp read
  exact tail a (head input a between first) between b rest last

/-- A field of which nothing is asked. -/
theorem skip {f : α → Reader ε β} {R : β → Prop} (tail : ∀ a, Yields (f a) R) :
    Yields (r >>= f) R :=
  (any r).bind fun a _ => tail a

theorem map {f : α → β} {R : β → Prop} (inner : Yields r fun a => R (f a)) :
    Yields (f <$> r) R := by
  rw [map_eq_pure_bind]
  exact inner.bind fun a holds => pure holds

theorem ite {c : Prop} [Decidable c] (yes : c → Yields r P) (no : ¬ c → Yields s P) :
    Yields (if c then r else s) P := by
  split
  next holds => exact yes holds
  next fails => exact no fails

theorem readBytes (short : ε) (len : ℕ) :
    Yields (P2PLending.readBytes short len) fun bytes => bytes.length = len := by
  intro input bytes rest read
  have taken : (if len ≤ input.length then .ok (input.take len, input.drop len)
    else .error short : Except ε (Bytes × Bytes)) = .ok (bytes, rest) := read
  split at taken
  next enough =>
    cases taken
    rw [List.length_take, Nat.min_eq_left enough]
  next => cases taken

theorem readMany (each : Yields r P) (n : ℕ) :
    Yields (P2PLending.readMany r n) fun l => l.length = n ∧ ∀ a ∈ l, P a := by
  induction n with
  | zero => exact pure ⟨rfl, by simp⟩
  | succ n ih =>
      refine each.bind fun a holds => ih.bind fun others rest => pure ⟨?_, ?_⟩
      · rw [List.length_cons, rest.1]
      · rw [List.forall_mem_cons]
        exact ⟨holds, rest.2⟩

end Yields

namespace Codec

/-- The values with the property, and no others, are read. -/
structure Exact (c : Codec ε α) (P : α → Prop) : Prop where
  roundTrips : ∀ {a}, P a → c.RoundTrips a
  yields : Yields c.read P

/-- One value after the other. -/
def pair (c : Codec ε α) (d : Codec ε β) : Codec ε (α × β) where
  write x := c.write x.1 ++ d.write x.2
  read := do
    let a ← c.read
    let b ← d.read
    return (a, b)

namespace Exact
variable {c : Codec ε α} {P Q : α → Prop}

theorem iff (exact : c.Exact P) (same : ∀ a, P a ↔ Q a) : c.Exact Q where
  roundTrips holds := exact.roundTrips ((same _).mpr holds)
  yields := exact.yields.mono fun a => (same a).mp

theorem of_all (roundTrips : ∀ a, c.RoundTrips a) : c.Exact fun _ => True where
  roundTrips _ := roundTrips _
  yields := Yields.any _

theorem pair {d : Codec ε β} {R : β → Prop} (first : c.Exact P) (second : d.Exact R) :
    (c.pair d).Exact fun x => P x.1 ∧ R x.2 where
  roundTrips holds :=
    (first.roundTrips holds.1).bind ((second.roundTrips holds.2).bind_pure (.pure _))
  yields := first.yields.bind fun _ left => second.yields.bind fun _ right => .pure ⟨left, right⟩

theorem mapped {out : β → α} {back : α → β} (exact : c.Exact P) (inverse : ∀ b, back (out b) = b)
    (onto : ∀ a, out (back a) = a) : (c.map out back).Exact fun b => P (out b) where
  roundTrips holds := (exact.roundTrips holds).mapped (inverse _)
  yields := Yields.map (exact.yields.mono fun a holds => by rw [onto]; exact holds)

/-- A value comes back from its bytes, whatever follows them, just when it has the property. -/
theorem reads_back_iff (exact : c.Exact P) (a : α) (more : Bytes) :
    (∃ rest, c.read.run (c.write a ++ more) = .ok (a, rest)) ↔ P a := by
  constructor
  · rintro ⟨rest, read⟩
    exact exact.yields _ a rest read
  · intro holds
    exact ⟨more, exact.roundTrips holds more⟩

end Exact

end Codec

/-- What is taken apart for storage and put back together. Not everything that is stored can be
put together, and what can is taken apart to what it was. -/
structure Restores (dump : α → β) (fromDump : β → Option α) : Prop where
  restored : ∀ a, fromDump (dump a) = some a
  dumped : ∀ {b a}, fromDump b = some a → dump a = b

namespace Restores
variable {dump : α → β} {fromDump : β → Option α}

theorem list (each : Restores dump fromDump) : Restores (List.map dump) (List.mapM fromDump) where
  restored l := by
    induction l with
    | nil => rfl
    | cons a l ih =>
        rw [List.map_cons, List.mapM_cons, each.restored, ih]
        rfl
  dumped := by
    intro bs as whole
    induction bs generalizing as with
    | nil =>
        cases whole
        rfl
    | cons b bs ih =>
        rw [List.mapM_cons] at whole
        obtain ⟨a, first, rest⟩ := Option.bind_eq_some_iff.mp whole
        obtain ⟨others, last, both⟩ := Option.bind_eq_some_iff.mp rest
        cases both
        rw [List.map_cons, each.dumped first, ih last]

theorem option (each : Restores dump fromDump) :
    Restores (Option.map dump) fun o => o.elim (some none) fun b => some <$> fromDump b where
  restored o := by
    cases o with
    | none => rfl
    | some a => simp [each.restored]
  dumped := by
    intro b o whole
    cases b with
    | none =>
        cases whole
        rfl
    | some b =>
        obtain ⟨a, first, rfl⟩ := Option.map_eq_some_iff.mp whole
        rw [Option.map_some, each.dumped first]

end Restores

namespace Codec

/-- The bytes of what a value is taken apart to. -/
def through (c : Codec ε β) (dump : α → β) (fromDump : β → Option α) (failed : ε) : Codec ε α where
  write a := c.write (dump a)
  read := do
    let b ← c.read
    (fromDump b).elim (throw failed) pure

theorem Exact.through {c : Codec ε β} {P : β → Prop} {dump : α → β} {fromDump : β → Option α}
    (exact : c.Exact P) (restores : Restores dump fromDump) (failed : ε) :
    (c.through dump fromDump failed).Exact fun a => P (dump a) where
  roundTrips := by
    intro a holds
    refine (exact.roundTrips holds).bind_pure ?_
    rw [restores.restored]
    exact .pure a
  yields := by
    refine exact.yields.bind fun b holds => ?_
    cases whole : fromDump b with
    | none => exact .throw failed
    | some a =>
        refine Yields.pure ?_
        rw [restores.dumped whole]
        exact holds

end Codec

/-- On the bytes, whatever follows them, the reader fails. -/
def Refuses (r : Reader ε α) (bytes : Bytes) : Prop :=
  ∀ rest, ∃ e, r.run (bytes ++ rest) = .error e

namespace Refuses

theorem head {r : Reader ε α} {f : α → Reader ε β} {bytes : Bytes} (refused : Refuses r bytes)
    (last : Bytes) : Refuses (r >>= f) (bytes ++ last) := by
  intro rest
  obtain ⟨e, failed⟩ := refused (last ++ rest)
  refine ⟨e, ?_⟩
  rw [List.append_assoc, StateT.run_bind, failed]
  rfl

theorem tail {r : Reader ε α} {f : α → Reader ε β} {first last : Bytes} {a : α}
    (read : Reads r first a) (refused : Refuses (f a) last) : Refuses (r >>= f) (first ++ last) := by
  intro rest
  obtain ⟨e, failed⟩ := refused rest
  refine ⟨e, ?_⟩
  rw [List.append_assoc, StateT.run_bind, read]
  exact failed

theorem map {r : Reader ε α} {f : α → β} {bytes : Bytes} (refused : Refuses r bytes) :
    Refuses (f <$> r) bytes := by
  intro rest
  obtain ⟨e, failed⟩ := refused rest
  refine ⟨e, ?_⟩
  rw [StateT.run_map, failed]
  rfl

theorem mapped {c : Codec ε α} {out : β → α} {back : α → β} {b : β}
    (refused : Refuses c.read (c.write (out b))) :
    Refuses (c.map out back).read ((c.map out back).write b) :=
  refused.map

theorem pair_left {c : Codec ε α} {d : Codec ε β} {x : α × β} (refused : Refuses c.read (c.write x.1)) :
    Refuses (c.pair d).read ((c.pair d).write x) :=
  refused.head _

theorem pair_right {c : Codec ε α} {d : Codec ε β} {x : α × β} (read : c.RoundTrips x.1)
    (refused : Refuses d.read (d.write x.2)) : Refuses (c.pair d).read ((c.pair d).write x) := by
  have both : Refuses ((fun b => (x.1, b)) <$> d.read) (d.write x.2) := refused.map
  rw [map_eq_pure_bind] at both
  exact tail read both

end Refuses

end P2PLending
