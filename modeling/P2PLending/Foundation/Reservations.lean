import Mathlib.Data.Set.Lattice
import Mathlib.Order.CompletePartialOrder

/-! A book of reservations: the values that are reserved, and those that each key has
pledged. In a sound book the reserved values are the pledged ones, and no value is
pledged twice. -/

namespace P2PLending

structure Book (K V : Type*) where
  reserved : Set V
  pledged : K → Set V

namespace Book
variable {K V : Type*} {b : Book K V} {k k' : K} {s : Set V} {v : V}

structure Sound (b : Book K V) : Prop where
  covered : b.reserved = ⋃ k, b.pledged k
  apart : Pairwise (Function.onFun Disjoint b.pledged)

theorem Sound.pledged_of_reserved (sound : b.Sound) (held : v ∈ b.reserved) :
    ∃ k, v ∈ b.pledged k := by
  rw [sound.covered] at held
  exact Set.mem_iUnion.mp held

theorem Sound.reserved_of_pledged (sound : b.Sound) (pledged : v ∈ b.pledged k) :
    v ∈ b.reserved := by
  rw [sound.covered]
  exact Set.mem_iUnion.mpr ⟨k, pledged⟩

theorem Sound.unique (sound : b.Sound) (one : v ∈ b.pledged k) (two : v ∈ b.pledged k') :
    k = k' := by
  by_contra distinct
  exact Set.disjoint_left.mp (sound.apart distinct) one two

/-- Soundness, value by value. -/
theorem sound_iff : b.Sound ↔ (∀ v, v ∈ b.reserved ↔ ∃ k, v ∈ b.pledged k) ∧
    ∀ v k k', v ∈ b.pledged k → v ∈ b.pledged k' → k = k' := by
  constructor
  · intro sound
    refine ⟨fun v => ?_, fun v k k' => sound.unique⟩
    rw [sound.covered]
    exact Set.mem_iUnion
  · rintro ⟨covered, apart⟩
    constructor
    · ext v
      rw [covered, Set.mem_iUnion]
    · intro k k' distinct
      apply Set.disjoint_left.mpr
      intro v one two
      exact distinct (apart v k k' one two)

theorem sound_empty (none : ∀ k, b.pledged k = ∅) (free : b.reserved = ∅) : b.Sound := by
  rw [sound_iff]
  simp [none, free]

variable [DecidableEq K]

/-- The key pledges the values, which become reserved. -/
def pledge (b : Book K V) (k : K) (s : Set V) : Book K V where
  reserved := b.reserved ∪ s
  pledged := Function.update b.pledged k s

/-- The key gives its values back. -/
def release (b : Book K V) (k : K) : Book K V where
  reserved := b.reserved \ b.pledged k
  pledged := Function.update b.pledged k ∅

/-- Another key takes over what the key has pledged. -/
def move (b : Book K V) (k k' : K) : Book K V where
  reserved := b.reserved
  pledged := Function.update (Function.update b.pledged k ∅) k' (b.pledged k)

theorem Sound.pledge (sound : b.Sound) (free : b.pledged k = ∅) (unreserved : Disjoint s b.reserved) :
    (b.pledge k s).Sound := by
  have new : ∀ {v k'}, v ∈ s → v ∉ b.pledged k' := fun chosen pledged =>
    Set.disjoint_left.mp unreserved chosen (sound.reserved_of_pledged pledged)
  rw [sound_iff]
  constructor
  · intro v
    show v ∈ b.reserved ∪ s ↔ ∃ j, v ∈ Function.update b.pledged k s j
    constructor
    · rintro (held | chosen)
      · obtain ⟨j, pledged⟩ := sound.pledged_of_reserved held
        have other : j ≠ k := by
          rintro rfl
          rw [free] at pledged
          exact pledged
        exact ⟨j, by rwa [Function.update_of_ne other]⟩
      · exact ⟨k, by rwa [Function.update_self]⟩
    · rintro ⟨j, pledged⟩
      by_cases same : j = k
      · rw [same, Function.update_self] at pledged
        exact .inr pledged
      · rw [Function.update_of_ne same] at pledged
        exact .inl (sound.reserved_of_pledged pledged)
  · intro v i j one two
    simp only [Book.pledge, Function.update_apply] at one two
    split at one
    · next first =>
      split at two
      · next second => exact first.trans second.symm
      · exact absurd two (new one)
    · split at two
      · exact absurd one (new two)
      · exact sound.unique one two

theorem Sound.release (sound : b.Sound) : (b.release k).Sound := by
  rw [sound_iff]
  constructor
  · intro v
    show v ∈ b.reserved \ b.pledged k ↔ ∃ j, v ∈ Function.update b.pledged k ∅ j
    constructor
    · rintro ⟨held, kept⟩
      obtain ⟨j, pledged⟩ := sound.pledged_of_reserved held
      have other : j ≠ k := by
        rintro rfl
        exact kept pledged
      exact ⟨j, by rwa [Function.update_of_ne other]⟩
    · rintro ⟨j, pledged⟩
      by_cases same : j = k
      · rw [same, Function.update_self] at pledged
        exact pledged.elim
      · rw [Function.update_of_ne same] at pledged
        exact ⟨sound.reserved_of_pledged pledged, fun mine => same (sound.unique pledged mine)⟩
  · intro v i j one two
    simp only [Book.release, Function.update_apply] at one two
    split at one
    · exact one.elim
    · split at two
      · exact two.elim
      · exact sound.unique one two

theorem Sound.move (sound : b.Sound) (free : k' = k ∨ b.pledged k' = ∅) : (b.move k k').Sound := by
  have pledgedAs : ∀ v j, v ∈ (b.move k k').pledged j ↔
      (j = k' ∧ v ∈ b.pledged k) ∨ (j ≠ k' ∧ j ≠ k ∧ v ∈ b.pledged j) := by
    intro v j
    simp only [Book.move, Function.update_apply]
    split
    · next same => simp [same]
    · next other =>
      split
      · next mine =>
        subst mine
        simp [other]
      · next third => simp [other, third]
  rw [sound_iff]
  constructor
  · intro v
    simp only [pledgedAs]
    show v ∈ b.reserved ↔ _
    constructor
    · intro held
      obtain ⟨j, pledged⟩ := sound.pledged_of_reserved held
      by_cases mine : j = k
      · exact ⟨k', .inl ⟨rfl, mine ▸ pledged⟩⟩
      · have other : j ≠ k' := by
          rintro rfl
          rcases free with same | empty
          · exact mine same
          · rw [empty] at pledged
            exact pledged
        exact ⟨j, .inr ⟨other, mine, pledged⟩⟩
    · rintro ⟨j, ⟨-, pledged⟩ | ⟨-, -, pledged⟩⟩
      · exact sound.reserved_of_pledged pledged
      · exact sound.reserved_of_pledged pledged
  · intro v i j one two
    rw [pledgedAs] at one two
    rcases one with ⟨first, mine⟩ | ⟨-, notMine, one⟩
    · rcases two with ⟨second, -⟩ | ⟨-, notMine, two⟩
      · exact first.trans second.symm
      · exact absurd (sound.unique two mine) notMine
    · rcases two with ⟨-, mine⟩ | ⟨-, -, two⟩
      · exact absurd (sound.unique one mine) notMine
      · exact sound.unique one two

end Book

end P2PLending
