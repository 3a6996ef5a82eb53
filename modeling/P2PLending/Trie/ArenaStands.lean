import P2PLending.Trie.ArenaDigitTrie
import Mathlib.Data.Set.Lattice

/-! Tries in an arena: the nodes that are reached from a place make up a trie whose nodes hold each
other, and have places of their own. -/

namespace P2PLending.Trie

open Dlc (Result Fault Error)

variable {T : Type}

namespace Arena

abbrev Store (T : Type) := List (Node (DigitLeaf T) (DigitNode T))

/-- The trie that stands at a place, whose nodes have places of their own. -/
inductive Stands (base : ℕ) (store : Store T) : Trie.DigitNode T → Option ℕ → Set ℕ → Prop
  | none : Stands base store .none Option.none ∅
  | leaf {index : ℕ} {nodePrefix : List ℕ} {data : T}
      (held : store[index]? = some (.leaf ⟨data, nodePrefix⟩)) :
      Stands base store (.leaf nodePrefix data) (some index) {index}
  | node {index : ℕ} {nodePrefix : List ℕ} {data : Option T} {places : List (Option ℕ)}
      {children : ℕ → Trie.DigitNode T} {owns : ℕ → Set ℕ}
      (held : store[index]? = some (.node ⟨places, nodePrefix, data⟩))
      (wide : places.length = base)
      (each : ∀ i, Stands base store (children i) places[i]?.join (owns i))
      (disjoint : ∀ i j, i ≠ j → ∀ k ∈ owns i, k ∉ owns j) (apart : ∀ i, index ∉ owns i) :
      Stands base store (.node nodePrefix children data) (some index) ({index} ∪ ⋃ i, owns i)

/-- The tries that stand at the places of the children of a node. -/
structure Branches (base : ℕ) (store : Store T) (children : ℕ → Trie.DigitNode T)
    (places : List (Option ℕ)) (owns : ℕ → Set ℕ) : Prop where
  wide : places.length = base
  each : ∀ i, Stands base store (children i) places[i]?.join (owns i)
  disjoint : ∀ i j, i ≠ j → ∀ k ∈ owns i, k ∉ owns j

section Stands
variable {base index : ℕ} {store store' : Store T} {tree : Trie.DigitNode T} {cur : Option ℕ}
  {own : Set ℕ} {children : ℕ → Trie.DigitNode T} {places : List (Option ℕ)} {owns : ℕ → Set ℕ}
  {nodePrefix : List ℕ} {data : Option T}

theorem Branches.stands (branches : Branches base store children places owns)
    (held : store[index]? = some (.node ⟨places, nodePrefix, data⟩)) (apart : ∀ i, index ∉ owns i) :
    Stands base store (.node nodePrefix children data) (some index) ({index} ∪ ⋃ i, owns i) :=
  .node held branches.wide branches.each branches.disjoint apart

theorem Stands.branches (stands : Stands base store (.node nodePrefix children data) cur own) :
    ∃ index places owns, cur = some index ∧ own = {index} ∪ ⋃ i, owns i ∧
      store[index]? = some (.node ⟨places, nodePrefix, data⟩) ∧
      Branches base store children places owns ∧ ∀ i, index ∉ owns i := by
  cases stands with
  | node held wide each disjoint apart =>
      exact ⟨_, _, _, rfl, rfl, held, ⟨wide, each, disjoint⟩, apart⟩

/-- What is elsewhere in the store does not matter. -/
theorem Stands.frame (stands : Stands base store tree cur own)
    (same : ∀ i ∈ own, store'[i]? = store[i]?) : Stands base store' tree cur own := by
  induction stands with
  | none => exact .none
  | leaf held => exact .leaf ((same _ rfl).trans held)
  | node held wide _ disjoint apart ih =>
      have below := fun i => ih i fun k mine => same k (Or.inr (Set.mem_iUnion_of_mem i mine))
      exact .node ((same _ (Or.inl rfl)).trans held) wide below disjoint apart

theorem Stands.present (stands : Stands base store tree cur own) {k : ℕ} (mine : k ∈ own) :
    k < store.length := by
  induction stands with
  | none => cases mine
  | leaf held =>
      rw [Set.mem_singleton_iff.mp mine]
      exact (List.getElem?_eq_some_iff.mp held).1
  | node held _ _ _ _ ih =>
      rcases mine with here | below
      · rw [Set.mem_singleton_iff.mp here]
        exact (List.getElem?_eq_some_iff.mp held).1
      · obtain ⟨i, mine⟩ := Set.mem_iUnion.mp below
        exact ih i mine

theorem Branches.frame (branches : Branches base store children places owns)
    (same : ∀ i, ∀ k ∈ owns i, store'[k]? = store[k]?) :
    Branches base store' children places owns where
  wide := branches.wide
  each i := (branches.each i).frame (same i)
  disjoint := branches.disjoint

theorem branches_none (base : ℕ) (store : Store T) :
    Branches base store (fun _ => .none) (List.replicate base none) fun _ => ∅ where
  wide := List.length_replicate
  each i := by
    have nothing : (List.replicate base (none : Option ℕ))[i]?.join = none := by
      rw [List.getElem?_replicate]
      split
      next => rfl
      next => rfl
    rw [nothing]
    exact .none
  disjoint _ _ _ _ mine := by cases mine

/-- A trie takes the place of a child, and the other children stay. -/
theorem Branches.update (branches : Branches base store children places owns) {i : ℕ}
    (inside : i < base) (stands : Stands base store' tree (some index) own)
    (others : ∀ j, j ≠ i → ∀ k ∈ owns j, store'[k]? = store[k]?)
    (away : ∀ j, j ≠ i → ∀ k ∈ own, k ∉ owns j) :
    Branches base store' (Function.update children i tree) (places.set i (some index))
      (Function.update owns i own) where
  wide := by rw [List.length_set, branches.wide]
  each j := by
    by_cases same : j = i
    · subst same
      rw [Function.update_self, Function.update_self,
        List.getElem?_set_self (by rw [branches.wide]; exact inside)]
      exact stands
    · rw [Function.update_of_ne same, Function.update_of_ne same,
        List.getElem?_set_ne (Ne.symm same)]
      exact (branches.each j).frame (others j same)
  disjoint j k differ := by
    by_cases first : j = i
    · subst first
      rw [Function.update_self, Function.update_of_ne (Ne.symm differ)]
      exact away k (Ne.symm differ)
    · rw [Function.update_of_ne first]
      by_cases second : k = i
      · subst second
        rw [Function.update_self]
        exact fun k theirs mine => away j first k mine theirs
      · rw [Function.update_of_ne second]
        exact branches.disjoint j k differ

end Stands

/-! What an insertion may change: the places of the trie, and those behind the last one. -/

structure Grown (own own' : Set ℕ) (store store' : Store T) : Prop where
  longer : store.length ≤ store'.length
  others : ∀ i < store.length, i ∉ own → store'[i]? = store[i]?
  within : ∀ i ∈ own', i ∈ own ∨ store.length ≤ i

section Grown
variable {own own' own'' : Set ℕ} {store store' store'' : Store T}

theorem grown_set {index : ℕ} (mine : index ∈ own) (node : Node (DigitLeaf T) (DigitNode T)) :
    Grown own own store (store.set index node) where
  longer := by rw [List.length_set]
  others i _ other := by
    have differs : index ≠ i := by
      rintro rfl
      exact other mine
    exact List.getElem?_set_ne differs
  within _ mine := Or.inl mine

theorem grown_push (own : Set ℕ) (node : Node (DigitLeaf T) (DigitNode T)) :
    Grown own ({store.length} ∪ own) store (store ++ [node]) where
  longer := by simp
  others i present _ := List.getElem?_append_left present
  within i mine := by
    rcases mine with fresh | old
    · exact Or.inr (Set.mem_singleton_iff.mp fresh).ge
    · exact Or.inl old

theorem Grown.trans (first : Grown own own' store store')
    (second : Grown own' own'' store' store'') : Grown own own'' store store'' where
  longer := first.longer.trans second.longer
  others i present other := by
    have other' : i ∉ own' := by
      intro mine
      rcases first.within i mine with old | fresh
      · exact other old
      · exact absurd present (Nat.not_lt.mpr fresh)
    rw [second.others i (present.trans_le first.longer) other', first.others i present other]
  within i mine := by
    rcases second.within i mine with old | fresh
    · exact first.within i old
    · exact Or.inr (first.longer.trans fresh)

theorem Grown.subset (grown : Grown own own' store store') (fewer : own'' ⊆ own') :
    Grown own own'' store store' where
  longer := grown.longer
  others := grown.others
  within i mine := grown.within i (fewer mine)

/-- Of a larger trie, the rest stays. -/
theorem Grown.widen (grown : Grown own own' store store') (part : own ⊆ own'') :
    Grown own'' (own'' ∪ own') store store' where
  longer := grown.longer
  others i present other := grown.others i present fun mine => other (part mine)
  within i mine := by
    rcases mine with old | new
    · exact Or.inl old
    · exact (grown.within i new).imp_left fun mine => part mine

end Grown

end Arena

end P2PLending.Trie
