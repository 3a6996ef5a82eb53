import P2PLending.Trie.DigitTrieMap
import P2PLending.Trie.Generation

/-! Looking paths up in a trie of tries. A path list is found by the first entry, the shortest paths
first, whose paths are beginnings of its own. -/

namespace P2PLending.Trie

open Dlc (Result Fault)

variable {T S : Type}

/-- A value, and the paths at which it was found with the indexes of their oracles. -/
abbrev Found (T : Type) := T × List (ℕ × List ℕ)

/-- What is found first below the children that these paths have for the next oracle. -/
def firstFound (index next : ℕ) (below : MultiTrieNode T → Result (Option (Found T))) :
    List (List ℕ × List (ℕ × MultiTrieNode T)) → Result (Option (Found T))
  | [] => .ok none
  | (path, children) :: results =>
      match findStoreIndex children next with
      | none => firstFound index next below results
      | some child => do
          match ← below child with
          | none => firstFound index next below results
          | some found => .ok (some (found.1, (index, path) :: found.2))

/-- The paths of a selection. -/
def selectedPaths (paths : List (ℕ × List ℕ)) (selector : List ℕ) : List (ℕ × List ℕ) :=
  (paths.zipIdx.filter fun x => x.2 ∈ selector).map Prod.fst

/-- `look_up_internal`, with the paths from the node's own on. -/
def MultiTrieNode.lookUpInternal (base : ℕ) :
    (paths : List (ℕ × List ℕ)) → MultiTrieNode T → Result (Option (Found T))
  | [], _ => .error (.panic "assertion failed: path_index < paths.len()")
  | (index, path) :: _, .leaf trie => do
      match ← trie.lookUp base path with
      | none => .ok none
      | some [] => .error (.panic outOfBounds)
      | some (x :: _) => .ok (some (x.2, [(index, x.1)]))
  | [_], .node _ => .error (.panic "assertion failed: path_index < paths.len() - 1")
  | (index, path) :: (next, path') :: rest, .node trie => do
      match ← trie.lookUp base path with
      | none => .ok none
      | some results => firstFound index next (lookUpInternal base ((next, path') :: rest)) results

namespace MultiTrie

/-- The selections whose first oracle has no root are passed over. -/
def lookUpSelected (t : MultiTrie T) (paths : List (ℕ × List ℕ)) :
    (selectors : List (List ℕ)) → Result (Option (Found T))
  | [] => .ok none
  | selector :: selectors =>
      match selector.head?.bind fun i => paths[i]? with
      | none => .error (.panic outOfBounds)
      | some first =>
          if t.nbTries - t.nbRequired + 1 ≤ first.1 then t.lookUpSelected paths selectors
          else
            match t.roots[first.1]? with
            | none => .error (.panic outOfBounds)
            | some root => do
                match ← root.lookUpInternal t.oracleNumericInfos.base
                  (selectedPaths paths selector) with
                | some found => .ok (some found)
                | none => t.lookUpSelected paths selectors

def lookUp (t : MultiTrie T) (paths : List (ℕ × List ℕ)) : Result (Option (Found T)) :=
  if paths.length < t.nbRequired then .ok none
  else do
    let selectors ← Dlc.combinations paths.length t.nbRequired
    t.lookUpSelected paths selectors

end MultiTrie

/-- The same oracles, and each path a beginning of the other one. -/
def Covers (key key' : List (ℕ × List ℕ)) : Prop :=
  List.Forall₂ (fun x y => x.1 = y.1 ∧ x.2 <+: y.2) key key'

theorem covers_refl (key : List (ℕ × List ℕ)) : Covers key key :=
  List.forall₂_same.mpr fun _ _ => ⟨rfl, List.prefix_refl _⟩

theorem covers_nil {key : List (ℕ × List ℕ)} : Covers key [] ↔ key = [] :=
  List.forall₂_nil_right_iff

theorem covers_cons {key rest : List (ℕ × List ℕ)} {index : ℕ} {path : List ℕ} :
    Covers key ((index, path) :: rest) ↔
      ∃ q key', key = (index, q) :: key' ∧ q <+: path ∧ Covers key' rest := by
  rw [Covers, List.forall₂_cons_right_iff]
  constructor
  · rintro ⟨x, key', ⟨same, within⟩, covers, rfl⟩
    cases same
    exact ⟨x.2, key', rfl, within, covers⟩
  · rintro ⟨q, key', rfl, within, covers⟩
    exact ⟨(index, q), key', ⟨rfl, within⟩, covers, rfl⟩

/-! The paths that are found, one after the other. -/

section First
variable {index next : ℕ} {below : MultiTrieNode T → Result (Option (Found T))}
  {results before later : List (List ℕ × List (ℕ × MultiTrieNode T))} {found : Found T}

theorem firstFound_eq_none : firstFound index next below results = .ok none ↔
    ∀ entry ∈ results, ∀ child, findStoreIndex entry.2 next = some child →
      below child = .ok none := by
  induction results with
  | nil => simp [firstFound]
  | cons entry results ih =>
      obtain ⟨path, children⟩ := entry
      rw [firstFound, List.forall_mem_cons]
      cases held : findStoreIndex children next with
      | none => simp [ih]
      | some child =>
          cases answer : below child with
          | error fault => simp [answer]
          | ok found =>
              cases found with
              | none => simp [ih, answer]
              | some found => simp [answer]

theorem firstFound_sound (answered : firstFound index next below results = .ok (some found)) :
    ∃ entry ∈ results, ∃ child rest, findStoreIndex entry.2 next = some child ∧
      below child = .ok (some (found.1, rest)) ∧ found.2 = (index, entry.1) :: rest := by
  induction results with
  | nil => cases answered
  | cons entry results ih =>
      obtain ⟨path, children⟩ := entry
      rw [firstFound] at answered
      cases held : findStoreIndex children next with
      | none =>
          rw [held] at answered
          obtain ⟨entry, listed, rest⟩ := ih answered
          exact ⟨entry, List.mem_cons_of_mem _ listed, rest⟩
      | some child =>
          rw [held] at answered
          obtain ⟨inner, answer, rest⟩ := Checked.bind_eq_ok.mp answered
          cases inner with
          | none =>
              obtain ⟨entry, listed, rest⟩ := ih rest
              exact ⟨entry, List.mem_cons_of_mem _ listed, rest⟩
          | some inner =>
              cases rest
              exact ⟨_, List.mem_cons_self, child, inner.2, held, answer, rfl⟩

theorem firstFound_total (answers : ∀ entry ∈ results, ∀ child,
    findStoreIndex entry.2 next = some child → ∃ found, below child = .ok found) :
    ∃ found, firstFound index next below results = .ok found := by
  induction results with
  | nil => exact ⟨none, rfl⟩
  | cons entry results ih =>
      obtain ⟨path, children⟩ := entry
      rw [List.forall_mem_cons] at answers
      obtain ⟨after, rest⟩ := ih answers.2
      rw [firstFound]
      cases held : findStoreIndex children next with
      | none => exact ⟨after, rest⟩
      | some child =>
          obtain ⟨inner, answer⟩ := answers.1 child held
          dsimp only
          rw [answer, Checked.ok_bind]
          cases inner with
          | none => exact ⟨after, rest⟩
          | some inner => exact ⟨_, rfl⟩

/-- By induction on the paths before: only the last one is the path itself. -/
theorem firstFound_last {path : List ℕ} {children : List (ℕ × MultiTrieNode T)} {v : T}
    {rest : List (ℕ × List ℕ)} (others : ∀ e ∈ before, e.1 ≠ path) :
    firstFound index next below (before ++ [(path, children)]) =
        .ok (some (v, (index, path) :: rest)) ↔
      firstFound index next below before = .ok none ∧
        ∃ child, findStoreIndex children next = some child ∧
          below child = .ok (some (v, rest)) := by
  induction before with
  | nil =>
      rw [List.nil_append, firstFound]
      cases held : findStoreIndex children next with
      | none => simp [firstFound, held]
      | some child =>
          cases answer : below child with
          | error fault => simp [firstFound, held, answer]
          | ok found =>
              cases found with
              | none => simp [firstFound, held, answer]
              | some found => simp [firstFound, held, answer, Prod.ext_iff]
  | cons entry before ih =>
      obtain ⟨q, inner⟩ := entry
      rw [List.forall_mem_cons] at others
      rw [List.cons_append, firstFound, firstFound]
      cases held : findStoreIndex inner next with
      | none => exact ih others.2
      | some child =>
          cases answer : below child with
          | error fault => simp [answer]
          | ok found =>
              cases found with
              | none => simpa [answer] using ih others.2
              | some found => simp [answer, others.1]

end First

namespace MultiTrieNode

/-- Wherever the paths lead, their digits have a place. -/
def Within (base : ℕ) : MultiTrieNode T → List ℕ → (rest : List (ℕ × List ℕ)) → Prop
  | .leaf trie, path, _ => trie.Within base path
  | .node trie, path, [] => trie.Within base path
  | .node trie, path, (index, next) :: rest => trie.Within base path ∧
      ∀ q children child, q <+: path → trie.find q = some children →
        findStoreIndex children index = some child → child.Within base next rest

variable {base depth index : ℕ} {t : MultiTrieNode T} {path : List ℕ} {rest : List (ℕ × List ℕ)}
  {v : T}

section Node
variable {trie : DigitNode (List (ℕ × MultiTrieNode T))} {next : ℕ} {path' : List ℕ}

theorem lookUpInternal_node (wellFormed : trie.WellFormed base) (within : trie.Within base path) :
    (MultiTrieNode.node trie).lookUpInternal base ((index, path) :: (next, path') :: rest) =
      firstFound index next (lookUpInternal base ((next, path') :: rest))
        (heldAlong trie.find path) := by
  rw [lookUpInternal, DigitNode.lookUp_within wellFormed within, Checked.ok_bind]
  cases heldAlong trie.find path with
  | nil => rfl
  | cons entry results => rfl

theorem within_of_answer {found : Option (Found T)}
    (answered : (MultiTrieNode.node trie).lookUpInternal base
      ((index, path) :: (next, path') :: rest) = .ok found) : trie.Within base path := by
  by_contra beyond
  rw [lookUpInternal, DigitNode.lookUp_beyond beyond] at answered
  cases answered

theorem find_node_eq_some {q : List ℕ} {key : List (ℕ × List ℕ)} :
    (MultiTrieNode.node trie).find q ((next, path') :: key) = some v ↔
      ∃ children child, trie.find q = some children ∧
        findStoreIndex children next = some child ∧ child.find path' key = some v := by
  rw [find_node_cons, Option.bind_eq_some_iff]
  refine exists_congr fun children => ?_
  rw [Option.bind_eq_some_iff, exists_and_left]

end Node

theorem WellFormed.child {trie : DigitNode (List (ℕ × MultiTrieNode T))} {next : ℕ}
    {children : List (ℕ × MultiTrieNode T)} {child : MultiTrieNode T}
    (wellFormed : (MultiTrieNode.node trie).WellFormed base (depth + 1))
    (held : trie.find path = some children) (stored : findStoreIndex children next = some child) :
    child.WellFormed base depth := by
  obtain ⟨_, distinct, each⟩ := wellFormed.2 path children held
  exact each _ ((findStoreIndex_eq_some distinct).mp stored)

section Leaf
variable {trie : DigitNode T}

theorem lookUpInternal_leaf (wellFormed : trie.WellFormed base) (within : trie.Within base path) :
    (MultiTrieNode.leaf trie).lookUpInternal base ((index, path) :: rest) =
      .ok ((heldAlong trie.find path).head?.map fun e => (e.2, [(index, e.1)])) := by
  rw [lookUpInternal, DigitNode.lookUp_within wellFormed within, Checked.ok_bind]
  cases heldAlong trie.find path with
  | nil => rfl
  | cons entry results => rfl

theorem within_of_leaf_answer {found : Option (Found T)}
    (answered : (MultiTrieNode.leaf trie).lookUpInternal base ((index, path) :: rest) = .ok found) :
    trie.Within base path := by
  by_contra beyond
  rw [lookUpInternal, DigitNode.lookUp_beyond beyond] at answered
  cases answered

end Leaf

/-- By induction on the paths: nothing is found when nothing held covers them. -/
theorem lookUpInternal_eq_none (wellFormed : t.WellFormed base depth)
    (length : rest.length = depth) :
    t.lookUpInternal base ((index, path) :: rest) = .ok none ↔ t.Within base path rest ∧
      ∀ q key, q <+: path → Covers key rest → t.find q key = none := by
  induction rest generalizing t depth index path with
  | nil =>
      subst length
      cases t with
      | node trie => exact wellFormed.elim
      | leaf trie =>
          constructor
          · intro answered
            have within := within_of_leaf_answer answered
            refine ⟨within, fun q key before covers => ?_⟩
            rw [covers_nil.mp covers, find]
            rw [lookUpInternal_leaf wellFormed within, Except.ok.injEq, Option.map_eq_none_iff,
              List.head?_eq_none_iff] at answered
            cases held : trie.find q with
            | none => rfl
            | some v =>
                have listed := mem_heldAlong.mpr ⟨before, held⟩
                rw [answered] at listed
                cases listed
          · rintro ⟨within, nothing⟩
            have along : heldAlong trie.find path = [] := heldAlong_eq_nil fun q before => by
              simpa [find] using nothing q [] before (covers_nil.mpr rfl)
            rw [lookUpInternal_leaf wellFormed within, along]
            rfl
  | cons x rest ih =>
      subst length
      obtain ⟨next, path'⟩ := x
      cases t with
      | leaf trie => exact wellFormed.elim
      | node trie =>
          constructor
          · intro answered
            have within := within_of_answer answered
            rw [lookUpInternal_node wellFormed.1 within, firstFound_eq_none] at answered
            have below : ∀ q children child, q <+: path → trie.find q = some children →
                findStoreIndex children next = some child → child.Within base path' rest ∧
                  ∀ q' key, q' <+: path' → Covers key rest → child.find q' key = none := by
              intro q children child before held found
              have childWell := wellFormed.child held found
              exact (ih childWell rfl).mp
                (answered _ (mem_heldAlong.mpr ⟨before, held⟩) child found)
            refine ⟨⟨within, fun q children child before held found =>
              (below q children child before held found).1⟩, fun q key before covers => ?_⟩
            obtain ⟨q', key', rfl, before', covers'⟩ := covers_cons.mp covers
            rw [Option.eq_none_iff_forall_ne_some]
            intro v held
            obtain ⟨children, child, held, found, inner⟩ := find_node_eq_some.mp held
            rw [(below q children child before held found).2 q' key' before' covers'] at inner
            cases inner
          · rintro ⟨within, nothing⟩
            rw [lookUpInternal_node wellFormed.1 within.1, firstFound_eq_none]
            rintro ⟨q, children⟩ listed child found
            obtain ⟨before, held⟩ := mem_heldAlong.mp listed
            have childWell := wellFormed.child held found
            refine (ih childWell rfl).mpr ⟨within.2 q children child before held found,
              fun q' key' before' covers' => ?_⟩
            rw [Option.eq_none_iff_forall_ne_some]
            intro v inner
            have above := nothing q ((next, q') :: key') before
              (covers_cons.mpr ⟨q', key', rfl, before', covers'⟩)
            rw [find_node_eq_some.mpr ⟨children, child, held, found, inner⟩] at above
            cases above

/-- By induction on the paths: what is found covers them. -/
theorem lookUpInternal_sound {found : Found T} (wellFormed : t.WellFormed base depth)
    (length : rest.length = depth)
    (answered : t.lookUpInternal base ((index, path) :: rest) = .ok (some found)) :
    ∃ q key, found.2 = (index, q) :: key ∧ q <+: path ∧ Covers key rest ∧
      t.find q key = some found.1 := by
  induction rest generalizing t depth index path found with
  | nil =>
      subst length
      cases t with
      | node trie => exact wellFormed.elim
      | leaf trie =>
          have within := within_of_leaf_answer answered
          rw [lookUpInternal_leaf wellFormed within, Except.ok.injEq,
            Option.map_eq_some_iff] at answered
          obtain ⟨e, first, rfl⟩ := answered
          obtain ⟨before, held⟩ := mem_heldAlong.mp (List.mem_of_mem_head? first)
          exact ⟨e.1, [], rfl, before, covers_nil.mpr rfl, held⟩
  | cons x rest ih =>
      subst length
      obtain ⟨next, path'⟩ := x
      cases t with
      | leaf trie => exact wellFormed.elim
      | node trie =>
          rw [lookUpInternal_node wellFormed.1 (within_of_answer answered)] at answered
          obtain ⟨⟨q, children⟩, listed, child, below, stored, inner, path⟩ :=
            firstFound_sound answered
          obtain ⟨before, held⟩ := mem_heldAlong.mp listed
          have childWell := wellFormed.child held stored
          obtain ⟨q', key', rfl, before', covers', found'⟩ := ih childWell rfl inner
          exact ⟨q, (next, q') :: key', path, before,
            covers_cons.mpr ⟨q', key', rfl, before', covers'⟩,
            find_node_eq_some.mpr ⟨children, child, held, stored, found'⟩⟩

theorem lookUpInternal_total (wellFormed : t.WellFormed base depth) (length : rest.length = depth)
    (within : t.Within base path rest) :
    ∃ found, t.lookUpInternal base ((index, path) :: rest) = .ok found := by
  induction rest generalizing t depth index path with
  | nil =>
      subst length
      cases t with
      | node trie => exact wellFormed.elim
      | leaf trie => exact ⟨_, lookUpInternal_leaf wellFormed within⟩
  | cons x rest ih =>
      subst length
      obtain ⟨next, path'⟩ := x
      cases t with
      | leaf trie => exact wellFormed.elim
      | node trie =>
          rw [lookUpInternal_node wellFormed.1 within.1]
          refine firstFound_total fun entry listed child stored => ?_
          obtain ⟨before, held⟩ := mem_heldAlong.mp listed
          have childWell := wellFormed.child held stored
          exact ih childWell rfl (within.2 entry.1 entry.2 child before held stored)

/-- By induction on the paths: what is held is found itself when nothing else that is held covers
it, since all that does is met before. -/
theorem lookUpInternal_eq_self (wellFormed : t.WellFormed base depth)
    (length : rest.length = depth) (held : t.find path rest = some v) :
    t.lookUpInternal base ((index, path) :: rest) = .ok (some (v, (index, path) :: rest)) ↔
      t.Within base path rest ∧ ∀ q key, q <+: path → Covers key rest → t.find q key ≠ none →
        q = path ∧ key = rest := by
  induction rest generalizing t depth index path with
  | nil =>
      subst length
      cases t with
      | node trie => exact wellFormed.elim
      | leaf trie =>
          rw [find] at held
          obtain ⟨before, along, others⟩ := heldAlong_last held
          constructor
          · intro answered
            have within := within_of_leaf_answer answered
            refine ⟨within, fun q key shorter covers some => ⟨?_, covers_nil.mp covers⟩⟩
            rw [covers_nil.mp covers, find] at some
            obtain ⟨w, here⟩ := Option.ne_none_iff_exists'.mp some
            have listed := mem_heldAlong.mpr ⟨shorter, here⟩
            rw [lookUpInternal_leaf wellFormed within, along] at answered
            cases before with
            | nil =>
                rw [along] at listed
                cases List.mem_singleton.mp listed
                rfl
            | cons e before =>
                simp only [List.cons_append, List.head?_cons, Option.map_some, Except.ok.injEq,
                  Option.some.injEq, Prod.mk.injEq, List.cons.injEq, true_and, and_true] at answered
                exact absurd answered.2 (others e List.mem_cons_self)
          · rintro ⟨within, only⟩
            have first : before = [] := by
              rw [List.eq_nil_iff_forall_not_mem]
              intro e listed
              obtain ⟨shorter, here⟩ := mem_heldAlong.mp (along ▸ List.mem_append_left _ listed :
                (e.1, e.2) ∈ heldAlong trie.find path)
              refine others e listed (only e.1 [] shorter (covers_nil.mpr rfl) ?_).1
              rw [find, here]
              exact Option.some_ne_none e.2
            rw [lookUpInternal_leaf wellFormed within, along, first]
            rfl
  | cons x rest ih =>
      subst length
      obtain ⟨next, path'⟩ := x
      cases t with
      | leaf trie => exact wellFormed.elim
      | node trie =>
          obtain ⟨children, child, here, stored, inner⟩ := find_node_eq_some.mp held
          obtain ⟨before, along, others⟩ := heldAlong_last here
          have own : child.lookUpInternal base ((next, path') :: rest) =
              .ok (some (v, (next, path') :: rest)) ↔ child.Within base path' rest ∧
                ∀ q key, q <+: path' → Covers key rest → child.find q key ≠ none →
                  q = path' ∧ key = rest := ih (wellFormed.child here stored) rfl inner
          constructor
          · intro answered
            have within := within_of_answer answered
            rw [lookUpInternal_node wellFormed.1 within, along, firstFound_last others,
              firstFound_eq_none] at answered
            obtain ⟨nothing, child', stored', answered⟩ := answered
            cases stored.symm.trans stored'
            obtain ⟨below, only⟩ := own.mp answered
            have earlier : ∀ q children' child', q <+: path → q ≠ path →
                trie.find q = some children' → findStoreIndex children' next = some child' →
                child'.Within base path' rest ∧
                  ∀ q' key, q' <+: path' → Covers key rest → child'.find q' key = none := by
              intro q children' child' shorter other here' stored'
              have listed := mem_heldAlong.mpr ⟨shorter, here'⟩
              rw [along, List.mem_append, List.mem_singleton] at listed
              rcases listed with listed | same
              · exact (lookUpInternal_eq_none (wellFormed.child here' stored') rfl).mp
                  (nothing _ listed child' stored')
              · exact absurd (congrArg Prod.fst same) other
            refine ⟨⟨within, fun q children' child' shorter here' stored' => ?_⟩,
              fun q key shorter covers some => ?_⟩
            · by_cases same : q = path
              · subst same
                cases here.symm.trans here'
                cases stored.symm.trans stored'
                exact below
              · exact (earlier q children' child' shorter same here' stored').1
            · obtain ⟨q', key', rfl, shorter', covers'⟩ := covers_cons.mp covers
              obtain ⟨w, found⟩ := Option.ne_none_iff_exists'.mp some
              obtain ⟨children', child', here', stored', inner'⟩ := find_node_eq_some.mp found
              by_cases same : q = path
              · subst same
                cases here.symm.trans here'
                cases stored.symm.trans stored'
                obtain ⟨rfl, rfl⟩ := only q' key' shorter' covers' (by simp [inner'])
                exact ⟨rfl, rfl⟩
              · rw [(earlier q children' child' shorter same here' stored').2 q' key' shorter'
                  covers'] at inner'
                cases inner'
          · rintro ⟨within, only⟩
            rw [lookUpInternal_node wellFormed.1 within.1, along, firstFound_last others,
              firstFound_eq_none]
            have covering : ∀ {q children' child' q' key' w}, q <+: path →
                trie.find q = some children' → findStoreIndex children' next = some child' →
                q' <+: path' → Covers key' rest → child'.find q' key' = some w →
                q = path ∧ (next, q') :: key' = (next, path') :: rest := by
              intro q children' child' q' key' w shorter here' stored' shorter' covers' inner'
              refine only q _ shorter (covers_cons.mpr ⟨q', key', rfl, shorter', covers'⟩) ?_
              rw [find_node_eq_some.mpr ⟨children', child', here', stored', inner'⟩]
              exact Option.some_ne_none w
            refine ⟨fun e listed child' stored' => ?_, child, stored, own.mpr
              ⟨within.2 path children child (List.prefix_refl _) here stored,
                fun q' key' shorter' covers' some => ?_⟩⟩
            · obtain ⟨shorter, here'⟩ := mem_heldAlong.mp (along ▸ List.mem_append_left _ listed :
                (e.1, e.2) ∈ heldAlong trie.find path)
              refine (lookUpInternal_eq_none (wellFormed.child here' stored') rfl).mpr
                ⟨within.2 e.1 e.2 child' shorter here' stored', fun q' key' shorter' covers' => ?_⟩
              rw [Option.eq_none_iff_forall_ne_some]
              intro w inner'
              exact others e listed (covering shorter here' stored' shorter' covers' inner').1
            · obtain ⟨w, inner'⟩ := Option.ne_none_iff_exists'.mp some
              have same := (covering (List.prefix_refl _) here stored shorter' covers' inner').2
              simpa using same

theorem within_of_digits (wellFormed : t.WellFormed base depth) (length : rest.length = depth)
    (digits : ∀ d ∈ path, d < base) (later : ∀ x ∈ rest, ∀ d ∈ x.2, d < base) :
    t.Within base path rest := by
  induction rest generalizing t depth path with
  | nil =>
      cases t with
      | node trie => exact DigitNode.within_of_digits digits
      | leaf trie => exact DigitNode.within_of_digits digits
  | cons x rest ih =>
      subst length
      rw [List.forall_mem_cons] at later
      cases t with
      | leaf trie => exact wellFormed.elim
      | node trie =>
          refine ⟨DigitNode.within_of_digits digits, fun q children child _ held stored => ?_⟩
          have childWell := wellFormed.child held stored
          exact ih childWell rfl later.1 later.2

theorem find_length (wellFormed : t.WellFormed base depth) (held : t.find path rest = some v) :
    rest.length = depth := by
  induction rest generalizing t depth path with
  | nil =>
      cases t with
      | node trie => cases held
      | leaf trie =>
          cases depth with
          | zero => rfl
          | succ depth => exact wellFormed.elim
  | cons x rest ih =>
      cases t with
      | leaf trie => cases held
      | node trie =>
          cases depth with
          | zero => exact wellFormed.elim
          | succ depth =>
              obtain ⟨children, child, here, stored, inner⟩ := find_node_eq_some.mp held
              have childWell := wellFormed.child here stored
              rw [List.length_cons, ih childWell inner]

end MultiTrieNode

theorem selectedPaths_all (paths : List (ℕ × List ℕ)) :
    selectedPaths paths (List.range paths.length) = paths := by
  have all : paths.zipIdx.filter (fun x => x.2 ∈ List.range paths.length) = paths.zipIdx := by
    refine List.filter_eq_self.mpr fun x listed => ?_
    have inside := (List.getElem?_eq_some_iff.mp (List.mem_zipIdx_iff_getElem?.mp listed)).1
    simpa using inside
  rw [selectedPaths, all, List.zipIdx_map_fst]

namespace MultiTrie

/-- The digits of the paths have a place wherever they lead. -/
def Within (t : MultiTrie T) : List (ℕ × List ℕ) → Prop
  | [] => True
  | (index, path) :: rest => ∀ root, t.roots[index]? = some root →
      root.Within t.oracleNumericInfos.base path rest

/-- What new tries have, and keep. -/
structure Kept (t : MultiTrie T) : Prop where
  wellFormed : t.WellFormed
  some : t.nbRequired ≠ 0
  roots : t.roots.length = t.nbTries - t.nbRequired + 1

variable {t : MultiTrie T} {key : List (ℕ × List ℕ)} {v : T}

theorem find_eq_some {index : ℕ} {path : List ℕ} {rest : List (ℕ × List ℕ)} :
    t.find ((index, path) :: rest) = some v ↔
      ∃ root, t.roots[index]? = some root ∧ root.find path rest = some v := by
  rw [find, Option.bind_eq_some_iff]

/-- Paths for as many oracles as are required make one selection. -/
theorem lookUp_root (kept : t.Kept) {index : ℕ} {path : List ℕ} {rest : List (ℕ × List ℕ)}
    (length : rest.length = t.depth) {root : MultiTrieNode T}
    (placed : t.roots[index]? = some root) : t.lookUp ((index, path) :: rest) =
      root.lookUpInternal t.oracleNumericInfos.base ((index, path) :: rest) := by
  have some := kept.some
  have required : ((index, path) :: rest).length = t.nbRequired := by
    rw [List.length_cons, length, depth]
    omega
  have inside := (List.getElem?_eq_some_iff.mp placed).1
  rw [kept.roots] at inside
  have all := selectedPaths_all ((index, path) :: rest)
  rw [required] at all
  have first : (List.range t.nbRequired).head? = Option.some 0 := by
    rw [List.head?_range, if_neg some]
  rw [lookUp, if_neg (by omega), required, Dlc.combinations_self some, Checked.ok_bind,
    lookUpSelected, first, Option.bind_some, List.getElem?_cons_zero]
  dsimp only
  rw [if_neg (by omega), placed]
  dsimp only
  rw [all]
  cases root.lookUpInternal t.oracleNumericInfos.base ((index, path) :: rest) with
  | error fault => rfl
  | ok found =>
      cases found with
      | none => rfl
      | some found => rfl

theorem root_of_held (kept : t.Kept) (held : t.find key = some v) :
    ∃ index path rest root, key = (index, path) :: rest ∧ t.roots[index]? = some root ∧
      root.WellFormed t.oracleNumericInfos.base t.depth ∧ rest.length = t.depth ∧
      root.find path rest = some v := by
  cases key with
  | nil => cases held
  | cons x rest =>
      obtain ⟨root, placed, inner⟩ := find_eq_some.mp held
      have wellFormed := kept.wellFormed root (List.mem_of_getElem? placed)
      exact ⟨x.1, x.2, rest, root, rfl, placed, wellFormed,
        MultiTrieNode.find_length wellFormed inner, inner⟩

/-- What is held is found itself exactly when its digits have a place and nothing else that is
held covers it. -/
theorem lookUp_iff (kept : t.Kept) (held : t.find key = some v) :
    t.lookUp key = .ok (some (v, key)) ↔ t.Within key ∧
      ∀ key', Covers key' key → t.find key' ≠ none → key' = key := by
  obtain ⟨index, path, rest, root, rfl, placed, wellFormed, length, inner⟩ := root_of_held kept held
  rw [lookUp_root kept length placed, MultiTrieNode.lookUpInternal_eq_self wellFormed length inner,
    Within]
  simp only [placed, Option.some.injEq, forall_eq']
  refine and_congr_right fun _ => ?_
  constructor
  · intro only key' covers some
    obtain ⟨q, key, rfl, shorter, covers⟩ := covers_cons.mp covers
    obtain ⟨w, found⟩ := Option.ne_none_iff_exists'.mp some
    obtain ⟨root', placed', found⟩ := find_eq_some.mp found
    cases placed.symm.trans placed'
    obtain ⟨rfl, rfl⟩ := only q key shorter covers (by simp [found])
    rfl
  · intro only q key shorter covers some
    obtain ⟨w, found⟩ := Option.ne_none_iff_exists'.mp some
    have same := only ((index, q) :: key) (covers_cons.mpr ⟨q, key, rfl, shorter, covers⟩)
      (by rw [find_eq_some.mpr ⟨root, placed, found⟩]; exact Option.some_ne_none w)
    simpa using same

/-- Something that covers what is held is found, where its digits have a place. -/
theorem lookUp_covers (kept : t.Kept) (held : t.find key = some v) (within : t.Within key) :
    ∃ found, t.lookUp key = .ok (some found) ∧ Covers found.2 key ∧
      t.find found.2 = some found.1 := by
  obtain ⟨index, path, rest, root, rfl, placed, wellFormed, length, inner⟩ := root_of_held kept held
  have below := within root placed
  rw [lookUp_root kept length placed]
  obtain ⟨found, answered⟩ : ∃ found, root.lookUpInternal t.oracleNumericInfos.base
      ((index, path) :: rest) = .ok found :=
    MultiTrieNode.lookUpInternal_total wellFormed length below
  cases found with
  | none =>
      have nothing := ((MultiTrieNode.lookUpInternal_eq_none wellFormed length).mp answered).2 path
        rest (List.prefix_refl _) (covers_refl rest)
      rw [inner] at nothing
      cases nothing
  | some found =>
      obtain ⟨q, key, same, shorter, covers, here⟩ :=
        MultiTrieNode.lookUpInternal_sound wellFormed length answered
      refine ⟨found, answered, ?_, ?_⟩
      · rw [same]
        exact covers_cons.mpr ⟨q, key, rfl, shorter, covers⟩
      · rw [same]
        exact find_eq_some.mpr ⟨root, placed, here⟩

theorem within_of_digits (kept : t.Kept) (held : t.find key = some v)
    (digits : ∀ x ∈ key, ∀ d ∈ x.2, d < t.oracleNumericInfos.base) : t.Within key := by
  obtain ⟨index, path, rest, root, rfl, placed, wellFormed, length, inner⟩ := root_of_held kept held
  rw [List.forall_mem_cons] at digits
  intro root' placed'
  cases placed.symm.trans placed'
  exact MultiTrieNode.within_of_digits wellFormed length digits.1 digits.2

/-! Sequences of insertions. -/

/-- A call of the trie with its callback. -/
inductive Call (S T : Type)
  | insert (path : List ℕ) (getValue : GetValue S T)
  | insertMaxPaths (getValue : GetValue S T)

namespace Call

def getValue : Call S T → GetValue S T
  | .insert _ getValue | .insertMaxPaths getValue => getValue

/-- The indexes and paths at which a call writes, one after the other. -/
def writes (t : MultiTrie T) : Call S T → Result (List (List ℕ × List (List ℕ)))
  | .insert path _ => t.indexedPaths path
  | .insertMaxPaths _ => do
      let paths ← getMaxCoveringPaths t.oracleNumericInfos t.nbRequired
      .ok (paths.map List.unzip)

def run (m : MultiTrie T × S) : Call S T → Result (MultiTrie T × S)
  | .insert path getValue => m.1.insert getValue path m.2
  | .insertMaxPaths getValue => m.1.insertMaxPaths getValue m.2

end Call

/-- A map of path lists, to which the callback's value is written. -/
def writeTo (getValue : GetValue S T) (m : (List (ℕ × List ℕ) → Option T) × S)
    (indexed : List ℕ × List (List ℕ)) : Result ((List (ℕ × List ℕ) → Option T) × S) := do
  let (value, s) ← getValue indexed.2 indexed.1 m.2
  .ok (Function.update m.1 (indexed.1.zip indexed.2) (some value), s)

/-- The map after a call: at each path list the value that was written last. -/
def Call.stored (t : MultiTrie T) (m : (List (ℕ × List ℕ) → Option T) × S) (call : Call S T) :
    Result ((List (ℕ × List ℕ) → Option T) × S) := do
  let indexed ← call.writes t
  indexed.foldlM (writeTo call.getValue) m

section Runs
variable {info : OracleNumericInfo} {nbRequired : ℕ} {t u u' : MultiTrie T} {s s' : S}

/-- The trie that was made new, with other contents. -/
structure Grown (t u : MultiTrie T) : Prop where
  shape : t.SameShape u
  kept : u.Kept

theorem Grown.nbTries (grown : Grown t u) : u.nbTries = t.nbTries := by
  have same := grown.shape
  rw [SameShape] at same
  rw [same]

theorem New.grown (new : t.New info nbRequired)
    (roots : t.roots.length = t.nbTries - t.nbRequired + 1) : Grown t t where
  shape := rfl
  kept :=
    { wellFormed := new.wellFormed
      some := by rw [new.required]; exact new.some
      roots := roots }

theorem insertPaths_stored {getValue : GetValue S T} (grown : Grown t u)
    {indexed : List ℕ × List (List ℕ)} (length : indexed.2.length = t.nbRequired)
    (inserted : insertPaths getValue (u, s) indexed = .ok (u', s')) :
    Grown t u' ∧ writeTo getValue (u.find, s) indexed = .ok (u'.find, s') := by
  have some := grown.kept.some
  have required := grown.shape.nbRequired
  have deep : indexed.2.length = u.depth + 1 := by
    rw [depth]
    omega
  obtain ⟨value, got, shape, wellFormed, finds⟩ :=
    insertPaths_ok grown.kept.wellFormed deep inserted
  have roots : u'.roots.length = u.roots.length := by
    obtain ⟨indexes, paths⟩ := indexed
    rw [insertPaths] at inserted
    cases indexes with
    | nil => cases inserted
    | cons index indexes =>
        dsimp only at inserted
        cases placed : u.roots[index]? with
        | none =>
            rw [placed] at inserted
            cases inserted
        | some root =>
            rw [placed] at inserted
            obtain ⟨_, _, rest⟩ := Checked.bind_eq_ok.mp inserted
            obtain ⟨_, _, last⟩ := Checked.bind_eq_ok.mp rest
            cases last
            exact List.length_set
  have tries : u'.nbTries = u.nbTries := by
    rw [SameShape] at shape
    rw [shape]
  refine ⟨⟨grown.shape.trans shape, wellFormed, ?_, ?_⟩, ?_⟩
  · rw [shape.nbRequired]
    exact some
  · rw [roots, tries, shape.nbRequired]
    exact grown.kept.roots
  · rw [writeTo, got, finds]
    rfl

/-- By induction over the list, path list by path list. -/
theorem insertAll_stored {getValue : GetValue S T} (grown : Grown t u)
    {indexed : List (List ℕ × List (List ℕ))}
    (lengths : ∀ x ∈ indexed, x.2.length = t.nbRequired)
    (inserted : indexed.foldlM (insertPaths getValue) (u, s) = .ok (u', s')) :
    Grown t u' ∧ indexed.foldlM (writeTo getValue) (u.find, s) = .ok (u'.find, s') := by
  induction indexed generalizing u s with
  | nil =>
      cases inserted
      exact ⟨grown, rfl⟩
  | cons x indexed ih =>
      rw [List.forall_mem_cons] at lengths
      rw [List.foldlM_cons] at inserted ⊢
      obtain ⟨⟨middle, s''⟩, first, rest⟩ := Checked.bind_eq_ok.mp inserted
      obtain ⟨grown', written⟩ := insertPaths_stored grown lengths.1 first
      obtain ⟨grown'', others⟩ := ih grown' lengths.2 rest
      refine ⟨grown'', ?_⟩
      rw [written, Checked.ok_bind]
      exact others

theorem Call.run_stored (new : t.New info nbRequired) (grown : Grown t u) {call : Call S T}
    (ran : call.run (u, s) = .ok (u', s')) :
    Grown t u' ∧ call.stored t (u.find, s) = .ok (u'.find, s') := by
  cases call with
  | insert path getValue =>
      obtain ⟨indexed, computed, all⟩ := Checked.bind_eq_ok.mp ran
      rw [grown.shape.indexedPaths] at computed
      have tries : t.nbTries = t.oracleNumericInfos.nbDigits.length := by rw [new.tries, new.infos]
      have lengths := indexedPaths_length tries computed
      obtain ⟨grown', written⟩ := insertAll_stored grown (fun x listed => (lengths x listed).2) all
      refine ⟨grown', ?_⟩
      rw [stored, writes, computed, Checked.ok_bind]
      exact written
  | insertMaxPaths getValue =>
      obtain ⟨paths, computed, all⟩ := Checked.bind_eq_ok.mp ran
      rw [grown.shape.oracleNumericInfos, grown.shape.nbRequired] at computed
      have lengths : ∀ x ∈ paths.map List.unzip, x.2.length = t.nbRequired := by
        intro x listed
        obtain ⟨key, member, rfl⟩ := List.mem_map.mp listed
        rw [List.unzip_snd, List.length_map]
        exact getMaxCoveringPaths_length computed key member
      obtain ⟨grown', written⟩ := insertAll_stored grown lengths all
      refine ⟨grown', ?_⟩
      rw [stored, writes, computed, Checked.ok_bind, Checked.ok_bind]
      exact written

/-- By induction on the calls: the trie holds what the map does. -/
theorem calls_stored (new : t.New info nbRequired) (grown : Grown t u) {calls : List (Call S T)}
    (ran : calls.foldlM Call.run (u, s) = .ok (u', s')) :
    Grown t u' ∧ calls.foldlM (Call.stored t) (u.find, s) = .ok (u'.find, s') := by
  induction calls generalizing u s with
  | nil =>
      cases ran
      exact ⟨grown, rfl⟩
  | cons call calls ih =>
      rw [List.foldlM_cons] at ran ⊢
      obtain ⟨⟨middle, s''⟩, first, rest⟩ := Checked.bind_eq_ok.mp ran
      obtain ⟨grown', written⟩ := call.run_stored new grown first
      obtain ⟨grown'', others⟩ := ih grown' rest
      refine ⟨grown'', ?_⟩
      rw [written, Checked.ok_bind]
      exact others

end Runs

theorem new_roots {info : OracleNumericInfo} {nbRequired minSupportExp maxErrorExp : ℕ}
    {maximizeCoverage : Bool} {t : MultiTrie T}
    (made : MultiTrie.new info nbRequired minSupportExp maxErrorExp maximizeCoverage = .ok t) :
    t.roots.length = t.nbTries - t.nbRequired + 1 := by
  obtain ⟨_, _, last⟩ := Checked.bind_eq_ok.mp made
  cases last
  exact List.length_replicate

/-- After any calls the trie is the map of what was written last. The iterator yields each path list
of the map once. Where its digits have a place, as those of the base do, an entry that covers it is
found, and it is found itself exactly when no other one covers it. -/
theorem calls_found {info : OracleNumericInfo} {nbRequired minSupportExp maxErrorExp : ℕ}
    {maximizeCoverage : Bool} {made t : MultiTrie T} {calls : List (Call S T)} {s s' : S}
    (new : MultiTrie.new info nbRequired minSupportExp maxErrorExp maximizeCoverage = .ok made)
    (ran : calls.foldlM Call.run (made, s) = .ok (t, s')) :
    ∃ map it items, calls.foldlM (Call.stored made) ((fun _ => none), s) = .ok (map, s') ∧
      MultiTrieIterator.new t = some it ∧ Drains (MultiTrieIterator.next info.base) it items ∧
      Lists map items ∧ ∀ entry ∈ items,
        ((∀ x ∈ entry.1, ∀ digit ∈ x.2, digit < info.base) → t.Within entry.1) ∧
        (t.Within entry.1 → ∃ found ∈ items, Covers found.1 entry.1 ∧
          t.lookUp entry.1 = .ok (some (found.2, found.1))) ∧
        (t.lookUp entry.1 = .ok (some (entry.2, entry.1)) ↔ t.Within entry.1 ∧
          ∀ other ∈ items, Covers other.1 entry.1 → other.1 = entry.1) := by
  have started := new_ok new
  obtain ⟨grown, written⟩ := calls_stored started (started.grown (new_roots new)) ran
  rw [started.find] at written
  have base : t.oracleNumericInfos.base = info.base := by
    rw [grown.shape.oracleNumericInfos, started.infos]
  have lists := entries_lists grown.kept.wellFormed
  obtain ⟨it, begun, drains⟩ :=
    MultiTrieIterator.drains_entries grown.kept.wellFormed grown.kept.some
  rw [base] at drains
  refine ⟨t.find, it, t.entries, written, begun, drains, lists, fun entry listed => ?_⟩
  have held := (lists.mem_iff entry.1 entry.2).mp listed
  refine ⟨fun digits => ?_, fun within => ?_, ?_⟩
  · rw [← base] at digits
    exact within_of_digits grown.kept held digits
  · obtain ⟨found, answered, covers, here⟩ := lookUp_covers grown.kept held within
    exact ⟨(found.2, found.1), (lists.mem_iff _ _).mpr here, covers, answered⟩
  · rw [lookUp_iff grown.kept held]
    refine and_congr_right fun _ => ?_
    constructor
    · intro only other member covers
      refine only other.1 covers ?_
      rw [(lists.mem_iff other.1 other.2).mp member]
      exact Option.some_ne_none other.2
    · intro only key covers some
      obtain ⟨w, here⟩ := Option.ne_none_iff_exists'.mp some
      exact only (key, w) ((lists.mem_iff key w).mpr here) covers

/-- Values are numbered. -/
def numbered : GetValue ℕ ℕ := fun _ _ s => .ok (s, s + 1)

/-- Two oracles of three binary digits. -/
def twoOracles : OracleNumericInfo where
  base := 2
  nbDigits := [3, 3]

def sampleCalls : List (Call ℕ ℕ) := [.insert [0, 1] numbered, .insertMaxPaths numbered]

theorem calls_found_sample :
    ∃ made t s', (MultiTrie.new twoOracles 2 1 2 true : Result (MultiTrie ℕ)) = .ok made ∧
      sampleCalls.foldlM Call.run (made, 0) = .ok (t, s') ∧
      ∃ map it items, sampleCalls.foldlM (Call.stored made) ((fun _ => none), 0) = .ok (map, s') ∧
        MultiTrieIterator.new t = some it ∧
        Drains (MultiTrieIterator.next twoOracles.base) it items ∧
        Lists map items ∧ ∀ entry ∈ items,
          ((∀ x ∈ entry.1, ∀ digit ∈ x.2, digit < twoOracles.base) → t.Within entry.1) ∧
          (t.Within entry.1 → ∃ found ∈ items, Covers found.1 entry.1 ∧
            t.lookUp entry.1 = .ok (some (found.2, found.1))) ∧
          (t.lookUp entry.1 = .ok (some (entry.2, entry.1)) ↔ t.Within entry.1 ∧
            ∀ other ∈ items, Covers other.1 entry.1 → other.1 = entry.1) :=
  ⟨_, _, _, rfl, rfl, @calls_found ℕ ℕ twoOracles 2 1 2 true _ _ sampleCalls 0 _ rfl rfl⟩

/-- One oracle of three binary digits. -/
def threeDigits : OracleNumericInfo where
  base := 2
  nbDigits := [3]

def nestedCalls : List (Call ℕ ℕ) :=
  [.insert [0] numbered, .insert [0, 1] numbered, .insert [0] numbered]

/-- The first value is not yielded, and the shorter path is found for the longer one. -/
theorem nested_paths_found :
    ∃ made t it, (MultiTrie.new threeDigits 1 0 1 true : Result (MultiTrie ℕ)) = .ok made ∧
      nestedCalls.foldlM Call.run (made, 0) = .ok (t, 3) ∧ MultiTrieIterator.new t = some it ∧
      Drains (MultiTrieIterator.next 2) it [([(0, [0])], 2), ([(0, [0, 1])], 1)] ∧
      t.lookUp [(0, [0, 1])] = .ok (some (2, [(0, [0])])) := by
  refine ⟨_, _, _, rfl, rfl, rfl, ?_, rfl⟩
  exact .item 9 rfl (.item 9 rfl (.done 9 rfl))

end MultiTrie

end P2PLending.Trie
