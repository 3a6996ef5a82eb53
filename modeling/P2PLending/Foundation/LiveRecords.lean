import Mathlib.Data.List.Nodup
import Mathlib.Logic.Function.Basic

/-! A store and the records that were last written for each of its subjects. The store
mirrors them when it holds these and nothing else, each under a key of its own. -/

namespace P2PLending

variable {K R : Type*}

structure Mirrors (store : K → Option R) (live : List (K × R)) : Prop where
  keys : (live.map Prod.fst).Nodup
  holds : ∀ k r, store k = some r ↔ (k, r) ∈ live

namespace Mirrors
variable {store : K → Option R} {live : List (K × R)} {k : K}

theorem empty : Mirrors (fun _ : K => (none : Option R)) [] :=
  ⟨List.nodup_nil, by simp⟩

theorem free_iff (mirrors : Mirrors store live) : store k = none ↔ k ∉ live.map Prod.fst := by
  rw [Option.eq_none_iff_forall_ne_some]
  constructor
  · intro nothing listed
    obtain ⟨e, member, rfl⟩ := List.mem_map.mp listed
    exact nothing e.2 ((mirrors.holds e.1 e.2).mpr member)
  · exact fun absent r stored => absent (List.mem_map_of_mem ((mirrors.holds k r).mp stored))

end Mirrors

variable [DecidableEq K]

/-- The record under the key is replaced, under the same key or another. -/
def relocate (live : List (K × R)) (k : K) (entry : K × R) : List (K × R) :=
  live.map fun e => if e.1 = k then entry else e

/-- What is under a key is cleared, if one is given, and a record is written. -/
def rewritten (store : K → Option R) (cleared : Option K) (k : K) (r : R) : K → Option R :=
  Function.update (fun k' => if cleared = some k' then none else store k') k (some r)

variable {store : K → Option R} {live : List (K × R)} {cleared : Option K} {k k' : K} {r : R}

@[simp] theorem rewritten_self : rewritten store cleared k r k = some r :=
  Function.update_self ..

theorem rewritten_of_ne (other : k' ≠ k) :
    rewritten store cleared k r k' = if cleared = some k' then none else store k' :=
  Function.update_of_ne other ..

@[simp] theorem rewritten_none : rewritten store none k r = Function.update store k (some r) := by
  simp [rewritten]

namespace Mirrors

/-- A new subject's record must not take the key of another. -/
theorem create_iff (mirrors : Mirrors store live) :
    Mirrors (Function.update store k (some r)) (live ++ [(k, r)]) ↔ store k = none := by
  rw [mirrors.free_iff]
  constructor
  · intro created listed
    have keys := created.keys
    rw [List.map_append, List.nodup_append] at keys
    exact keys.2.2 k listed k (by simp) rfl
  · intro absent
    refine ⟨?_, fun k' r' => ?_⟩
    · rw [List.map_append]
      exact mirrors.keys.append (List.nodup_singleton k) (by simpa using absent)
    · rw [List.mem_append, List.mem_singleton, Prod.mk.injEq]
      by_cases same : k' = k
      · subst same
        rw [Function.update_self, Option.some.injEq]
        have others : (k', r') ∉ live := fun member => absent (List.mem_map_of_mem member)
        simp [others, eq_comm]
      · rw [Function.update_of_ne same, mirrors.holds]
        simp [same]

theorem mem_relocate (mirrors : Mirrors store live) {r₀ : R} (stored : store k = some r₀)
    {entry e : K × R} : e ∈ relocate live k entry ↔ e = entry ∨ (e ∈ live ∧ e.1 ≠ k) := by
  have here := (mirrors.holds k r₀).mp stored
  rw [relocate, List.mem_map]
  constructor
  · rintro ⟨e', member, rfl⟩
    by_cases same : e'.1 = k
    · exact .inl (if_pos same)
    · rw [if_neg same]
      exact .inr ⟨member, same⟩
  · rintro (rfl | ⟨member, other⟩)
    · exact ⟨_, here, if_pos rfl⟩
    · exact ⟨e, member, if_neg other⟩

/-- A subject's record is written again: it stays under its key or what was under the key is
cleared, the new key is its own, and nothing else is cleared. -/
theorem rewrite_iff (mirrors : Mirrors store live) {r₀ : R} (stored : store k = some r₀) :
    Mirrors (rewritten store cleared k' r) (relocate live k (k', r)) ↔
      (k' = k ∨ store k' = none) ∧ (k' = k ∨ cleared = some k) ∧
        ∀ t, cleared = some t → t = k ∨ t = k' ∨ store t = none := by
  have here := (mirrors.holds k r₀).mp stored
  have listed := @mem_relocate K R _ store live k mirrors r₀ stored (k', r)
  constructor
  · intro moved
    refine ⟨?_, ?_, fun t clears => ?_⟩
    · by_contra taken
      obtain ⟨other, occupied⟩ := not_or.mp taken
      obtain ⟨r₁, found⟩ := Option.ne_none_iff_exists'.mp occupied
      have keys := moved.keys
      rw [relocate, List.map_map] at keys
      have same := List.inj_on_of_nodup_map keys here ((mirrors.holds k' r₁).mp found)
        (by simp [other])
      exact other (congrArg Prod.fst same).symm
    · by_contra stays
      obtain ⟨other, kept⟩ := not_or.mp stays
      have still : rewritten store cleared k' r k = some r₀ := by
        rw [rewritten_of_ne (Ne.symm other), if_neg kept, stored]
      rcases listed.mp ((moved.holds k r₀).mp still) with new | ⟨_, apart⟩
      · exact other (congrArg Prod.fst new).symm
      · exact apart rfl
    · by_contra lost
      obtain ⟨other, lost⟩ := not_or.mp lost
      obtain ⟨elsewhere, occupied⟩ := not_or.mp lost
      obtain ⟨r₁, found⟩ := Option.ne_none_iff_exists'.mp occupied
      have kept := (moved.holds t r₁).mpr (listed.mpr (.inr ⟨(mirrors.holds t r₁).mp found, other⟩))
      rw [rewritten_of_ne elsewhere, if_pos clears] at kept
      cases kept
  · rintro ⟨own, leaves, clears⟩
    refine ⟨?_, fun key record => ?_⟩
    · rw [relocate, List.map_map]
      refine List.Nodup.map_on (fun e member e' member' same => ?_) mirrors.keys.of_map
      have injective := List.inj_on_of_nodup_map mirrors.keys member member'
      by_cases at_ : e.1 = k
      · by_cases at' : e'.1 = k
        · exact injective (at_.trans at'.symm)
        · simp only [Function.comp_apply, if_pos at_, if_neg at'] at same
          rcases own with stays | free
          · exact absurd (same.symm.trans stays) at'
          · exact absurd (same ▸ List.mem_map_of_mem member') (mirrors.free_iff.mp free)
      · by_cases at' : e'.1 = k
        · simp only [Function.comp_apply, if_neg at_, if_pos at'] at same
          rcases own with stays | free
          · exact absurd (same.trans stays) at_
          · exact absurd (same ▸ List.mem_map_of_mem member) (mirrors.free_iff.mp free)
        · simp only [Function.comp_apply, if_neg at_, if_neg at'] at same
          exact injective same
    · rw [listed]
      by_cases new : key = k'
      · subst new
        rw [rewritten_self, Option.some.injEq, Prod.mk.injEq]
        have others : ¬ ((key, record) ∈ live ∧ key ≠ k) := by
          rintro ⟨member, other⟩
          rcases own with stays | free
          · exact other stays
          · exact mirrors.free_iff.mp free (List.mem_map_of_mem member)
        simp only [others, or_false, true_and]
        exact eq_comm
      · rw [rewritten_of_ne new, Prod.mk.injEq]
        simp only [new, false_and, false_or]
        by_cases at_ : key = k
        · have gone : cleared = some k := leaves.resolve_left fun stays => new (at_.trans stays.symm)
          simp [at_, gone]
        · rw [and_iff_left at_, ← mirrors.holds]
          by_cases clear : cleared = some key
          · have free := ((clears key clear).resolve_left at_).resolve_left new
            simp [clear, free]
          · rw [if_neg clear]

/-- What other subjects have is kept. -/
theorem others_kept (mirrors : Mirrors store live) {r₀ : R} (stored : store k = some r₀)
    {store' : K → Option R} {entry : K × R} (mirrors' : Mirrors store' (relocate live k entry))
    {e : K × R} (member : e ∈ live) (other : e.1 ≠ k) : store' e.1 = some e.2 :=
  (mirrors'.holds _ _).mpr ((mirrors.mem_relocate stored).mpr (.inr ⟨member, other⟩))

end Mirrors

end P2PLending
