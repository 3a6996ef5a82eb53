import Mathlib.Data.List.Perm.Basic
import Mathlib.Data.List.Nodup
import Mathlib.Data.List.Dedup
import Mathlib.Logic.Function.Basic

/-! Writes to a store with keys, and lists of what it holds. A write to a key that is held takes
the place of what was there, so a store holds what was written to it, each write once, just when
no key was written twice. -/

namespace P2PLending

variable {K P V W : Type}

/-- The list has each value of the store once, with its key. -/
structure Lists (store : K → Option V) (entries : List (K × V)) : Prop where
  nodup : (entries.map Prod.fst).Nodup
  mem_iff : ∀ k v, (k, v) ∈ entries ↔ store k = some v

namespace Lists
variable {store : K → Option V} {entries others : List (K × V)}

theorem empty : Lists (fun _ => none : K → Option V) [] where
  nodup := List.nodup_nil
  mem_iff := by simp

theorem one [DecidableEq K] (k : K) (v : V) :
    Lists (fun key => if key = k then some v else none) [(k, v)] where
  nodup := List.nodup_singleton k
  mem_iff key value := by
    rw [List.mem_singleton, Prod.mk.injEq]
    split
    next same => simp [same, eq_comm]
    next differs => simp [differs]

theorem perm (lists : Lists store entries) (also : Lists store others) : entries.Perm others := by
  rw [List.perm_ext_iff_of_nodup lists.nodup.of_map also.nodup.of_map]
  intro entry
  rw [lists.mem_iff entry.1 entry.2, also.mem_iff entry.1 entry.2]

theorem congr {store' : K → Option V} (lists : Lists store entries)
    (same : ∀ k, store k = store' k) : Lists store' entries :=
  (funext same : store = store') ▸ lists

/-- Two lists without a common key are listed one after the other. -/
theorem append {store' whole : K → Option V} (lists : Lists store entries)
    (also : Lists store' others)
    (whole_iff : ∀ k v, whole k = some v ↔ store k = some v ∨ store' k = some v)
    (apart : ∀ k v w, store k = some v → store' k ≠ some w) :
    Lists whole (entries ++ others) where
  nodup := by
    rw [List.map_append]
    refine List.Nodup.append lists.nodup also.nodup fun k first second => ?_
    obtain ⟨entry, listed, rfl⟩ := List.mem_map.mp first
    obtain ⟨other, listed', same⟩ := List.mem_map.mp second
    refine apart entry.1 entry.2 other.2 ((lists.mem_iff _ _).mp listed) ?_
    rw [← same]
    exact (also.mem_iff _ _).mp listed'
  mem_iff k v := by
    rw [List.mem_append, lists.mem_iff, also.mem_iff, whole_iff]

/-- The lists of parts that no two have a key in common, one after the other. -/
theorem flatMap {ι : Type} {whole : K → Option V} (part : ι → K → Option V)
    {list : ι → List (K × V)} {parts : List ι} (distinct : parts.Nodup)
    (each : ∀ i ∈ parts, Lists (part i) (list i))
    (whole_iff : ∀ k v, whole k = some v ↔ ∃ i ∈ parts, part i k = some v)
    (apart : ∀ i ∈ parts, ∀ j ∈ parts, ∀ k v w, part i k = some v → part j k = some w → i = j) :
    Lists whole (parts.flatMap list) := by
  induction parts generalizing whole with
  | nil => exact empty.congr fun k => (Option.eq_none_iff_forall_ne_some.mpr fun v held => by
      simpa using (whole_iff k v).mp held).symm
  | cons i parts ih =>
      rw [List.flatMap_cons]
      have fresh := (List.nodup_cons.mp distinct).1
      classical
      have rest : Lists (fun k => if part i k = none then whole k else none)
          (parts.flatMap list) := ih (List.nodup_cons.mp distinct).2
        (fun j listed => each j (List.mem_cons_of_mem i listed)) ?_ fun j listed j' listed' =>
          apart j (List.mem_cons_of_mem i listed) j' (List.mem_cons_of_mem i listed')
      · refine (each i List.mem_cons_self).append rest (fun k v => ?_) fun k v w first second => ?_
        · cases held : part i k with
          | none => simp
          | some v' =>
              simp only [reduceCtorEq, if_false, Option.some.injEq, or_false]
              rw [whole_iff]
              constructor
              · rintro ⟨j, listed, also⟩
                have same := apart i List.mem_cons_self j listed k v' v held also
                rw [← same, held] at also
                exact Option.some.inj also
              · rintro rfl
                exact ⟨i, List.mem_cons_self, held⟩
        · rw [first] at second
          cases second
      · intro k v
        constructor
        · intro held
          split at held
          next absent =>
            obtain ⟨j, listed, also⟩ := (whole_iff k v).mp held
            rcases List.mem_cons.mp listed with rfl | later
            · rw [absent] at also
              cases also
            · exact ⟨j, later, also⟩
          next => cases held
        · rintro ⟨j, later, held⟩
          have absent : part i k = none := by
            cases first : part i k with
            | none => rfl
            | some v' =>
                have same := apart i List.mem_cons_self j (List.mem_cons_of_mem i later) k v' v
                  first held
                rw [same] at fresh
                exact absurd later fresh
          rw [if_pos absent, whole_iff]
          exact ⟨j, List.mem_cons_of_mem i later, held⟩

/-- The same list under other keys. -/
theorem mapKeys {K' : Type} {whole : K' → Option V} {f : K → K'} (lists : Lists store entries)
    (injective : f.Injective)
    (whole_iff : ∀ k v, whole k = some v ↔ ∃ k', f k' = k ∧ store k' = some v) :
    Lists whole (entries.map fun entry => (f entry.1, entry.2)) where
  nodup := by
    rw [List.map_map]
    have keys : Prod.fst ∘ (fun entry : K × V => (f entry.1, entry.2)) = f ∘ Prod.fst := rfl
    rw [keys, ← List.map_map]
    exact lists.nodup.map injective
  mem_iff k v := by
    rw [whole_iff]
    simp only [List.mem_map, Prod.exists, Prod.mk.injEq]
    constructor
    · rintro ⟨k', v', listed, image, rfl⟩
      exact ⟨k', image, (lists.mem_iff _ _).mp listed⟩
    · rintro ⟨k', image, held⟩
      exact ⟨k', v, (lists.mem_iff _ _).mpr held, image, rfl⟩

/-- The same list with a first part put before each key. -/
theorem under [DecidableEq P] {store : List P → Option V} {entries : List (List P × V)}
    {whole : List P → Option V} (lists : Lists store entries) (first : P)
    (cons : ∀ x rest, whole (x :: rest) = if x = first then store rest else none)
    (nil : whole [] = none) :
    Lists whole (entries.map fun entry => (first :: entry.1, entry.2)) := by
  refine lists.mapKeys (fun _ _ same => (List.cons.inj same).2) fun key v => ?_
  cases key with
  | nil => simp [nil]
  | cons x rest =>
      rw [cons]
      constructor
      · intro held
        split at held
        next same => exact ⟨rest, by rw [same], held⟩
        next => cases held
      · rintro ⟨rest', same, held⟩
        cases same
        rw [if_pos rfl]
        exact held

end Lists

section Writes
variable [DecidableEq K]

/-- The store after the writes, of which a later one to the same key counts. -/
def written (store : K → Option V) (writes : List (K × V)) : K → Option V :=
  writes.foldl (fun s w => Function.update s w.1 (some w.2)) store

theorem written_append (store : K → Option V) (first last : List (K × V)) :
    written store (first ++ last) = written (written store first) last :=
  List.foldl_append

theorem written_of_not_mem {store : K → Option V} {writes : List (K × V)} {k : K}
    (absent : k ∉ writes.map Prod.fst) : written store writes k = store k := by
  induction writes generalizing store with
  | nil => rfl
  | cons w writes ih =>
      rw [List.map_cons, List.mem_cons, not_or] at absent
      have later : written (Function.update store w.1 (some w.2)) writes k =
          Function.update store w.1 (some w.2) k := ih absent.2
      rw [Function.update_of_ne absent.1] at later
      exact later

/-- What is held was there before or has been written. -/
theorem mem_of_written {store : K → Option V} {writes : List (K × V)} {k : K} {v : V}
    (held : written store writes k = some v) : store k = some v ∨ (k, v) ∈ writes := by
  induction writes generalizing store with
  | nil => exact Or.inl held
  | cons w writes ih =>
      have last : written (Function.update store w.1 (some w.2)) writes k = some v := held
      rcases ih last with before | later
      · by_cases here : k = w.1
        · rw [here, Function.update_self] at before
          refine Or.inr (List.mem_cons.mpr (Or.inl (Prod.ext here ?_)))
          exact (Option.some.inj before).symm
        · rw [Function.update_of_ne here] at before
          exact Or.inl before
      · exact Or.inr (List.mem_cons_of_mem w later)

theorem written_lists {writes : List (K × V)} (distinct : (writes.map Prod.fst).Nodup) :
    Lists (written (fun _ => none) writes) writes := by
  have general : ∀ store : K → Option V, ∀ k v, k ∈ writes.map Prod.fst →
      (written store writes k = some v ↔ (k, v) ∈ writes) := by
    induction writes with
    | nil => simp
    | cons w writes ih =>
        intro store k v listed
        obtain ⟨fresh, others⟩ := List.nodup_cons.mp distinct
        by_cases later : k ∈ writes.map Prod.fst
        · have differs : (k, v) ≠ w := by
            rintro rfl
            exact fresh later
          rw [List.mem_cons, or_iff_right differs]
          exact ih others _ k v later
        · have here : k = w.1 := by
            rcases List.mem_cons.mp listed with here | later'
            · exact here
            · exact absurd later' later
          have kept : written store (w :: writes) k = some w.2 := by
            have last : written (Function.update store w.1 (some w.2)) writes k =
                Function.update store w.1 (some w.2) k := written_of_not_mem later
            rw [here, Function.update_self] at last
            rw [here]
            exact last
          rw [kept, List.mem_cons, Option.some.injEq]
          constructor
          · rintro rfl
            exact Or.inl (Prod.ext here rfl)
          · rintro (same | listed')
            · rw [← same]
            · exact absurd (List.mem_map_of_mem listed') later
  refine ⟨distinct, fun k v => ?_⟩
  by_cases listed : k ∈ writes.map Prod.fst
  · exact (general _ k v listed).symm
  · rw [written_of_not_mem listed]
    refine iff_of_false (fun member => ?_) (by simp)
    exact listed (List.mem_map_of_mem member)

/-- A store that was empty holds each write once just when no key was written twice. -/
theorem lists_perm_iff {writes entries : List (K × V)}
    (lists : Lists (written (fun _ => none) writes) entries) :
    entries.Perm writes ↔ (writes.map Prod.fst).Nodup := by
  constructor
  · intro same
    exact (same.map Prod.fst).nodup_iff.mp lists.nodup
  · intro distinct
    exact lists.perm (written_lists distinct)

/-- A store lists no more than was written to it, and as much just when no key was written
twice. -/
theorem lists_length_le {writes entries : List (K × V)}
    (lists : Lists (written (fun _ => none) writes) entries) :
    entries.length ≤ writes.length ∧
      (entries.length = writes.length → (writes.map Prod.fst).Nodup) := by
  have within : (entries.map Prod.fst) ⊆ (writes.map Prod.fst).dedup := by
    intro k listed
    obtain ⟨entry, member, rfl⟩ := List.mem_map.mp listed
    have held := (lists.mem_iff entry.1 entry.2).mp member
    rw [List.mem_dedup]
    by_contra absent
    rw [written_of_not_mem absent] at held
    cases held
  have bound := (List.subperm_of_subset lists.nodup within).length_le
  have dedup := (List.dedup_sublist (writes.map Prod.fst)).length_le
  rw [List.length_map] at bound dedup
  refine ⟨Nat.le_trans bound dedup, fun same => ?_⟩
  have whole : (writes.map Prod.fst).dedup = writes.map Prod.fst :=
    (List.dedup_sublist _).eq_of_length (by rw [List.length_map]; omega)
  rw [← whole]
  exact List.nodup_dedup _

end Writes

end P2PLending
