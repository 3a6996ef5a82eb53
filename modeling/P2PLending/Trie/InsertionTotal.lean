import P2PLending.Trie.DigitTrieMap
import P2PLending.Trie.Generation

/-! An insertion into tries of tries fails for an empty path, or with its callback. -/

namespace P2PLending.Trie

open Dlc (Result Selects)

variable {T S : Type}

namespace MultiTrieNode

/-- All digits of the parts of paths are digits of the base, in each trie below another. -/
def InBase (base : ℕ) : (depth : ℕ) → MultiTrieNode T → Prop
  | 0, .leaf trie => trie.InBase base
  | depth + 1, .node trie => trie.InBase base ∧ ∀ path children,
      trie.find path = some children → ∀ child ∈ children, child.2.InBase base depth
  | _, _ => False

variable {base depth index : ℕ} {value : T} {t t' : MultiTrieNode T} {path : List ℕ}
  {paths : List (List ℕ)} {indexes : List ℕ}

theorem new_inBase (base : ℕ) : (depth : ℕ) →
    (new (decide (depth = 0)) : MultiTrieNode T).InBase base depth
  | 0 => trivial
  | _ + 1 => ⟨trivial, fun _ _ held => by cases held⟩

/-- The child that is gone on in. -/
theorem next_inBase {trie : DigitNode (List (ℕ × MultiTrieNode T))}
    (wellFormed : (MultiTrieNode.node trie).WellFormed base (depth + 1))
    (inBase : (MultiTrieNode.node trie).InBase base (depth + 1)) (length : paths.length = depth)
    (path : List ℕ) (index : ℕ) :
    ((findStoreIndex ((trie.find path).getD []) index).getD (new paths.isEmpty)).InBase base
      depth := by
  have fresh : (new paths.isEmpty : MultiTrieNode T).InBase base depth := by
    have empty : paths.isEmpty = decide (depth = 0) := by
      rw [← length]
      cases paths <;> rfl
    rw [empty]
    exact new_inBase base depth
  cases held : trie.find path with
  | none => exact fresh
  | some children =>
      rw [Option.getD_some]
      cases found : findStoreIndex children index with
      | none => exact fresh
      | some child =>
          have distinct := (wellFormed.2 path children held).2.1
          exact inBase.2 path children held _ ((findStoreIndex_eq_some distinct).mp found)

/-- By induction on the paths. -/
theorem insertInternal_ne_nil (wellFormed : t.WellFormed base depth) (length : paths.length = depth)
    (inserted : insertInternal base value t (path :: paths) indexes = .ok t') :
    ∀ p ∈ path :: paths, p ≠ [] := by
  induction paths generalizing t t' path indexes depth with
  | nil =>
      subst length
      cases t with
      | node trie => exact wellFormed.elim
      | leaf trie =>
          obtain ⟨_, done, _⟩ := Checked.bind_eq_ok.mp inserted
          rw [List.forall_mem_singleton]
          exact DigitNode.insert_ne_nil done
  | cons next paths ih =>
      subst length
      cases t with
      | leaf trie => exact wellFormed.elim
      | node trie =>
          cases indexes with
          | nil => cases inserted
          | cons index indexes =>
              obtain ⟨_, done, _⟩ := Checked.bind_eq_ok.mp inserted
              obtain ⟨_, got, _⟩ := DigitNode.insert_ok wellFormed.1 done
              obtain ⟨_, below, _⟩ := Checked.bind_eq_ok.mp got
              rw [List.forall_mem_cons]
              exact ⟨DigitNode.insert_ne_nil done,
                ih (next_wellFormed wellFormed rfl path index) rfl below⟩

/-- By induction on the paths: the child that is gone on in stays in the base. -/
theorem insertInternal_inBase (wellFormed : t.WellFormed base depth) (inBase : t.InBase base depth)
    (length : paths.length = depth) (digits : ∀ p ∈ path :: paths, ∀ d ∈ p, d < base)
    (inserted : insertInternal base value t (path :: paths) indexes = .ok t') :
    t'.InBase base depth := by
  induction paths generalizing t t' path indexes depth with
  | nil =>
      subst length
      cases t with
      | node trie => exact wellFormed.elim
      | leaf trie =>
          obtain ⟨trie', done, last⟩ := Checked.bind_eq_ok.mp inserted
          cases last
          rw [List.forall_mem_singleton] at digits
          exact DigitNode.insert_inBase wellFormed inBase digits done
  | cons next paths ih =>
      subst length
      rw [List.forall_mem_cons] at digits
      cases t with
      | leaf trie => exact wellFormed.elim
      | node trie =>
          cases indexes with
          | nil => cases inserted
          | cons index indexes =>
              obtain ⟨trie', done, last⟩ := Checked.bind_eq_ok.mp inserted
              cases last
              obtain ⟨children', got, writes⟩ := DigitNode.insert_ok wellFormed.1 done
              obtain ⟨child', below, placed⟩ := Checked.bind_eq_ok.mp got
              cases placed
              have new := ih (next_wellFormed wellFormed rfl path index)
                (next_inBase wellFormed inBase rfl path index) rfl digits.2 below
              refine ⟨DigitNode.insert_inBase wellFormed.1 inBase.1 digits.1 done,
                fun path' children held child listed => ?_⟩
              rw [writes.find_eq] at held
              by_cases here : path' = path
              · subst here
                rw [Function.update_self] at held
                cases held
                rcases mem_putChild listed with rfl | member
                · exact new
                · cases before : trie.find path' with
                  | none =>
                      rw [before] at member
                      cases member
                  | some children =>
                      rw [before] at member
                      exact inBase.2 path' children before child member
              · rw [Function.update_of_ne here] at held
                exact inBase.2 path' children held child listed

/-- By induction on the paths. -/
theorem insertInternal_total (wellFormed : t.WellFormed base depth) (inBase : t.InBase base depth)
    (length : paths.length = depth) (each : indexes.length = depth)
    (digits : ∀ p ∈ path :: paths, ∀ d ∈ p, d < base) (some : ∀ p ∈ path :: paths, p ≠ []) :
    ∃ t', insertInternal base value t (path :: paths) indexes = .ok t' := by
  induction paths generalizing t path indexes depth with
  | nil =>
      subst length
      cases t with
      | node trie => exact wellFormed.elim
      | leaf trie =>
          rw [List.forall_mem_singleton] at digits some
          rw [insertInternal]
          refine Checked.exists_bind_ok.mpr ?_
          exact Exists.imp (fun trie' both => ⟨both.1, .leaf trie', rfl⟩)
            (DigitNode.insert_given ⟨value, rfl⟩ inBase digits some)
  | cons next paths ih =>
      subst length
      rw [List.forall_mem_cons] at digits some
      cases t with
      | leaf trie => exact wellFormed.elim
      | node trie =>
          cases indexes with
          | nil => cases each
          | cons index indexes =>
              obtain ⟨child', below⟩ := ih (next_wellFormed wellFormed rfl path index)
                (next_inBase wellFormed inBase rfl path index) rfl (Nat.succ.inj each) digits.2
                some.2
              rw [insertInternal]
              refine Checked.exists_bind_ok.mpr ?_
              refine Exists.imp (fun trie' both => ⟨both.1, .node trie', rfl⟩)
                (DigitNode.insert_given ?_ inBase.1 digits.1 some.1)
              dsimp only
              rw [below]
              exact ⟨_, rfl⟩

end MultiTrieNode

namespace MultiTrie

/-- What insertions rely on, and keep. -/
structure Accepting (t : MultiTrie T) : Prop where
  wellFormed : t.WellFormed
  inBase : ∀ root ∈ t.roots, root.InBase t.oracleNumericInfos.base t.depth
  some : t.nbRequired ≠ 0
  roots : t.roots.length = t.nbTries - t.nbRequired + 1

/-- A path of digits of the base for each oracle of a selection. -/
structure Placed (t : MultiTrie T) (x : List ℕ × List (List ℕ)) : Prop where
  selects : Selects t.nbTries 0 x.1
  indexes : x.1.length = t.nbRequired
  paths : x.2.length = t.nbRequired
  digits : ∀ p ∈ x.2, ∀ d ∈ p, d < t.oracleNumericInfos.base

variable {t t' : MultiTrie T} {x : List ℕ × List (List ℕ)} {getValue : GetValue S T} {s s' : S}

theorem new_accepting {info : OracleNumericInfo} {nbRequired minSupportExp maxErrorExp : ℕ}
    {maximizeCoverage : Bool}
    (made : new info nbRequired minSupportExp maxErrorExp maximizeCoverage = .ok t) :
    t.Accepting := by
  have known := new_ok made
  obtain ⟨_, _, last⟩ := Checked.bind_eq_ok.mp made
  cases last
  refine ⟨known.wellFormed, fun root listed => ?_, known.some, List.length_replicate⟩
  have leaves : decide (nbRequired ≤ 1) = decide (nbRequired - 1 = 0) :=
    decide_eq_decide.mpr (by omega)
  rw [List.eq_of_mem_replicate listed, leaves]
  exact MultiTrieNode.new_inBase _ _

theorem SameShape.placed (same : SameShape t t') : t'.Placed x ↔ t.Placed x := by
  rw [SameShape] at same
  rw [same]
  exact ⟨fun p => ⟨p.selects, p.indexes, p.paths, p.digits⟩,
    fun p => ⟨p.selects, p.indexes, p.paths, p.digits⟩⟩

/-- The trie of the first oracle of a selection. -/
theorem Placed.root (placed : t.Placed x) (accepting : t.Accepting) :
    ∃ index indexes path paths root, x = (index :: indexes, path :: paths) ∧
      t.roots[index]? = some root ∧ indexes.length = t.depth ∧ paths.length = t.depth := by
  have required := accepting.some
  have roots := accepting.roots
  obtain ⟨selects, length, length', _⟩ := placed
  obtain ⟨indexes, paths⟩ := x
  dsimp only at selects length length'
  cases indexes with
  | nil => exact absurd length.symm required
  | cons index indexes =>
      cases paths with
      | nil => exact absurd length'.symm required
      | cons path paths =>
          have room := selects.room
          rw [List.length_cons] at length length'
          have inside : index < t.roots.length := by omega
          exact ⟨index, indexes, path, paths, _, rfl, List.getElem?_eq_getElem inside,
            by rw [depth]; omega, by rw [depth]; omega⟩

/-- An insertion takes paths that are not empty, and a value. -/
theorem insertPaths_exists (accepting : t.Accepting) (placed : t.Placed x) :
    (∃ u, insertPaths getValue (t, s) x = .ok u) ↔
      (∀ p ∈ x.2, p ≠ []) ∧ ∃ r, getValue x.2 x.1 s = .ok r := by
  have digits := placed.digits
  obtain ⟨index, indexes, path, paths, root, rfl, at', each, length⟩ := placed.root accepting
  have listed := List.mem_of_getElem? at'
  have wellFormed := accepting.wellFormed root listed
  have inBase := accepting.inBase root listed
  rw [insertPaths]
  dsimp only at digits ⊢
  rw [at']
  constructor
  · intro inserted
    obtain ⟨r, got, inserted⟩ := Checked.exists_bind_ok.mp inserted
    obtain ⟨root', done, _⟩ := Checked.exists_bind_ok.mp inserted
    exact ⟨MultiTrieNode.insertInternal_ne_nil wellFormed length done, r, got⟩
  · rintro ⟨some, ⟨value, s'⟩, got⟩
    refine Checked.exists_bind_ok.mpr ⟨_, got, Checked.exists_bind_ok.mpr ?_⟩
    exact (MultiTrieNode.insertInternal_total wellFormed inBase length each digits some).imp
      fun root' done => ⟨done, _, rfl⟩

theorem insertPaths_accepting (accepting : t.Accepting) (placed : t.Placed x)
    (inserted : insertPaths getValue (t, s) x = .ok (t', s')) : t'.Accepting := by
  have digits := placed.digits
  obtain ⟨index, indexes, path, paths, root, rfl, at', _, length⟩ := placed.root accepting
  have listed := List.mem_of_getElem? at'
  have deep : (path :: paths).length = t.depth + 1 := congrArg Nat.succ length
  obtain ⟨_, _, _, wellFormed, _⟩ := insertPaths_ok accepting.wellFormed deep inserted
  rw [insertPaths] at inserted
  dsimp only at inserted digits
  rw [at'] at inserted
  obtain ⟨_, _, inserted⟩ := Checked.bind_eq_ok.mp inserted
  obtain ⟨root', done, last⟩ := Checked.bind_eq_ok.mp inserted
  cases last
  refine ⟨wellFormed, fun other member => ?_, accepting.some, ?_⟩
  · rcases List.mem_or_eq_of_mem_set member with before | rfl
    · exact accepting.inBase other before
    · exact MultiTrieNode.insertInternal_inBase (accepting.wellFormed root listed)
        (accepting.inBase root listed) length digits done
  · rw [List.length_set]
    exact accepting.roots

end MultiTrie

end P2PLending.Trie
