import P2PLending.Foundation.Avoids
import P2PLending.Trie.ArenaMultiTrie
import P2PLending.Trie.CombinationFaults
import P2PLending.Trie.IndexedPaths

/-! What insertions do to the arena of a trie of tries. A node refers to nodes behind it only, so an
insertion into the tries below a node leaves the node alone. One that succeeds puts back all that
it takes out; one that fails leaves a place empty that is reached from the first trie. -/

namespace P2PLending.Trie

open Dlc (Result Fault Error)

variable {T S : Type}

namespace DigitNode

variable {base : ℕ} {getData : Option T → Result T} {bad : Fault Error → Prop}

theorem place_avoids (panics : ∀ message, ¬ bad (.panic message)) {children : ℕ → DigitNode T}
    {suffix : List ℕ} {child : DigitNode T} :
    Checked.Avoids bad (place base children suffix child) := by
  cases suffix with
  | nil => exact Checked.avoids_error.mpr (panics _)
  | cons i suffix =>
      rw [place]
      split
      next => exact Checked.avoids_ok _
      next => exact Checked.avoids_error.mpr (panics _)

theorem splitAbove_avoids (panics : ∀ message, ¬ bad (.panic message))
    (each : ∀ held, Checked.Avoids bad (getData held)) {current : List ℕ → DigitNode T}
    {nodePrefix path : List ℕ} :
    Checked.Avoids bad (splitAbove base getData current nodePrefix path) := by
  refine Checked.avoids_bind.mpr ⟨each _, fun value _ => ?_⟩
  split
  next => exact Checked.avoids_bind.mpr ⟨place_avoids panics, fun _ _ => Checked.avoids_ok _⟩
  next =>
    refine Checked.avoids_bind.mpr ⟨place_avoids panics, fun _ _ => ?_⟩
    exact Checked.avoids_bind.mpr ⟨place_avoids panics, fun _ _ => Checked.avoids_ok _⟩

/-- By induction on the trie: a fault that is not a panic comes from the callback. -/
theorem insertInternal_avoids (panics : ∀ message, ¬ bad (.panic message))
    (each : ∀ held, Checked.Avoids bad (getData held)) (t : DigitNode T) (path : List ℕ) :
    Checked.Avoids bad (insertInternal base getData t path) := by
  induction t generalizing path with
  | none => exact Checked.avoids_bind.mpr ⟨each _, fun _ _ => Checked.avoids_ok _⟩
  | leaf nodePrefix data =>
      rw [insertInternal]
      split
      next => exact Checked.avoids_bind.mpr ⟨each _, fun _ _ => Checked.avoids_ok _⟩
      next =>
        split
        next =>
          refine Checked.avoids_bind.mpr ⟨each _, fun _ _ => ?_⟩
          exact Checked.avoids_bind.mpr ⟨place_avoids panics, fun _ _ => Checked.avoids_ok _⟩
        next => exact splitAbove_avoids panics each
  | node nodePrefix children data ih =>
      rw [insertInternal]
      split
      next => exact Checked.avoids_bind.mpr ⟨each _, fun _ _ => Checked.avoids_ok _⟩
      next =>
        split
        next =>
          split
          next => exact Checked.avoids_error.mpr (panics _)
          next i suffix _ =>
            split
            next =>
              exact Checked.avoids_bind.mpr ⟨ih i (i :: suffix), fun _ _ => Checked.avoids_ok _⟩
            next => exact Checked.avoids_error.mpr (panics _)
        next => exact splitAbove_avoids panics each

theorem insert_avoids (panics : ∀ message, ¬ bad (.panic message))
    (each : ∀ held, Checked.Avoids bad (getData held)) {t : DigitNode T} {path : List ℕ} :
    Checked.Avoids bad (insert base t path getData) := by
  rw [insert]
  split
  next => exact Checked.avoids_error.mpr (panics _)
  next => exact insertInternal_avoids panics each t path

theorem insert_onlyPanics {f : Option T → T} {t : DigitNode T} {path : List ℕ} :
    OnlyPanics (insert base t path fun held => .ok (f held)) :=
  insert_avoids not_isError_panic fun _ => Checked.avoids_ok _

end DigitNode

namespace Arena

theorem findStoreIndex_mem {children : List TrieNodeInfo} {next storeIndex : ℕ}
    (found : findStoreIndex children next = some storeIndex) :
    ∃ info ∈ children, info.storeIndex = storeIndex := by
  obtain ⟨info, first, same⟩ := Option.map_eq_some_iff.mp found
  exact ⟨info, List.mem_of_find?_eq_some first, same⟩

namespace MultiTrie

/-- A new child comes behind those that were there. -/
theorem enter_cases (fresh next : ℕ) (curData : Option (List TrieNodeInfo)) :
    (∃ children storeIndex, curData = some children ∧ (∃ info ∈ children,
      info.storeIndex = storeIndex) ∧ enter fresh next curData = (children, some storeIndex)) ∨
    enter fresh next curData = (curData.getD [] ++ [⟨next, fresh⟩], none) := by
  rw [enter]
  cases found : curData.bind fun children => findStoreIndex children next with
  | none => exact Or.inr rfl
  | some storeIndex =>
      obtain ⟨children, rfl, held⟩ := Option.bind_eq_some_iff.mp found
      exact Or.inl ⟨children, storeIndex, rfl, findStoreIndex_mem held, rfl⟩

/-! The nodes of a store. -/

/-- The tries of a node are well formed, and it refers to nodes behind it. -/
def LinkedNode (base length index : ℕ) : MultiTrieNode T → Prop
  | .none => True
  | .leaf trie => trie.WellFormed base
  | .node trie => trie.WellFormed base ∧ ∀ path children, trie.find path = some children →
      ∀ info ∈ children, index < info.storeIndex ∧ info.storeIndex < length

def Linked (base : ℕ) (store : List (MultiTrieNode T)) : Prop :=
  ∀ index node, store[index]? = some node → LinkedNode base store.length index node

/-- The kind of a node, if it is there. -/
def kind : MultiTrieNode T → Option Bool
  | .none => none
  | .leaf _ => some true
  | .node _ => some false

/-- The nodes that a node leads to. -/
inductive Reaches (store : List (MultiTrieNode T)) : ℕ → ℕ → Prop
  | here (index : ℕ) : Reaches store index index
  | down {index last : ℕ} {trie : Trie.DigitNode (List TrieNodeInfo)} {path : List ℕ}
      {children : List TrieNodeInfo} {info : TrieNodeInfo}
      (held : store[index]? = some (.node trie)) (found : trie.find path = some children)
      (child : info ∈ children) (rest : Reaches store info.storeIndex last) : Reaches store index last

section Store
variable {base length index : ℕ} {store : List (MultiTrieNode T)} {node : MultiTrieNode T}

theorem LinkedNode.longer {length' : ℕ} (linked : LinkedNode base length index node)
    (more : length ≤ length') : LinkedNode base length' index node := by
  cases node with
  | none => trivial
  | leaf trie => exact linked
  | node trie =>
      refine ⟨linked.1, fun path children found info listed => ?_⟩
      have bounds := linked.2 path children found info listed
      exact ⟨bounds.1, lt_of_lt_of_le bounds.2 more⟩

theorem Linked.set (linked : Linked base store) (own : LinkedNode base store.length index node) :
    Linked base (store.set index node) := by
  intro i other held
  rw [List.length_set]
  rw [List.getElem?_set] at held
  split at held
  next same =>
    split at held
    next =>
      cases held
      cases same
      exact own
    next => cases held
  next => exact linked i other held

theorem linkedNode_newNode (isLeaf : Bool) :
    LinkedNode base length index (newNode isLeaf : MultiTrieNode T) := by
  cases isLeaf with
  | true => trivial
  | false => exact ⟨trivial, fun path children found => by cases found⟩

theorem Linked.push (linked : Linked base store) (isLeaf : Bool) :
    Linked base (store ++ [newNode isLeaf]) := by
  intro i other held
  rw [List.length_append]
  by_cases old : i < store.length
  · rw [List.getElem?_append_left old] at held
    exact (linked i other held).longer (Nat.le_add_right _ _)
  · rw [List.getElem?_append_right (Nat.le_of_not_lt old)] at held
    have same := List.mem_singleton.mp (List.mem_of_getElem? held)
    rw [same]
    exact linkedNode_newNode isLeaf

end Store

section Stages
variable {t t' : MultiTrie T} {s s' : S} {e : Error} {curIndex storeIndex next : ℕ}
  {node : MultiTrieNode T} {path : List ℕ} {isLeaf : Bool}

theorem takeOut_ok (taken : takeOut curIndex (t, s) = (.ok node, (t', s'))) :
    node = t.store[curIndex]?.getD .none ∧
      t' = { t with store := t.store.set curIndex .none } ∧ s' = s := by
  rw [takeOut] at taken
  split at taken
  next node' store out =>
    cases taken
    obtain ⟨same, rest⟩ := swapRemove_ok out
    exact ⟨same, by rw [rest], rfl⟩
  next => cases taken

theorem takeOut_error : takeOut curIndex (t, s) ≠ (.error (.err e), (t', s')) := by
  intro failed
  rw [takeOut] at failed
  split at failed
  next => cases failed
  next fault out =>
    cases failed
    exact swapRemove_error out

theorem panic_error {A : Type} {message : String} :
    (panic message : Stage T S A) (t, s) ≠ (.error (.err e), (t', s')) := by
  intro failed
  cases failed

/-- The node is back in its place, and its trie refers to the next one. -/
structure ChildEntered (curIndex storeIndex : ℕ) (t t' : MultiTrie T) : Prop where
  settings : t'.settings = t.settings
  linked : Linked t.base t'.store
  kinds : ∃ added, (∀ k ∈ added, k ≠ none) ∧
    t'.store.map kind = (t.store.set curIndex (.node .none)).map kind ++ added
  before : ∀ i < curIndex, t'.store[i]? = t.store[i]?
  behind : curIndex < storeIndex
  refers : ∃ trie path children, t'.store[curIndex]? = some (.node trie) ∧
    trie.find path = some children ∧ ∃ info ∈ children, info.storeIndex = storeIndex

theorem base_of_settings (same : t'.settings = t.settings) : t'.base = t.base :=
  congrArg (fun settings => settings.oracleNumericInfos.base) same

theorem map_kind_set (store : List (MultiTrieNode T)) (curIndex : ℕ)
    (trie trie' : Trie.DigitNode (List TrieNodeInfo)) :
    (store.set curIndex (.node trie)).map kind = (store.set curIndex (.node trie')).map kind := by
  rw [List.map_set, List.map_set]
  rfl

theorem insertChild_ok {trie : Trie.DigitNode (List TrieNodeInfo)}
    (linked : Linked t.base t.store) (present : curIndex < t.store.length)
    (own : LinkedNode t.base t.store.length curIndex (.node trie : MultiTrieNode T))
    (entered : insertChild path isLeaf next curIndex trie (t, s) = (.ok storeIndex, (t', s'))) :
    ChildEntered curIndex storeIndex t t' := by
  obtain ⟨fresh, t₁, read, entered⟩ := Handler.bind_ok.mp entered
  obtain ⟨known, rfl⟩ := Handler.read_ok.mp read
  cases known
  obtain ⟨inserted, t₂, read, entered⟩ := Handler.bind_ok.mp entered
  obtain ⟨put, rfl⟩ := Handler.read_ok.mp read
  obtain ⟨children, same, new⟩ := DigitNode.insert_ok own.1 put
  cases same
  have found := congrFun new.find_eq path
  rw [Function.update_self] at found
  -- the trie that is put back refers to nodes behind its own, in a store that may have grown
  have linkedNode : ∀ length, t.store.length ≤ length →
      (∀ info ∈ (enter t.store.length next (trie.find path)).1,
        curIndex < info.storeIndex ∧ info.storeIndex < length) →
      LinkedNode t.base length curIndex (.node inserted : MultiTrieNode T) := by
    intro length more bounds
    refine ⟨new.wellFormed, fun q held holds info listed => ?_⟩
    rw [new.find_eq] at holds
    by_cases at_path : q = path
    · rw [at_path, Function.update_self] at holds
      cases holds
      exact bounds info listed
    · rw [Function.update_of_ne at_path] at holds
      have old := own.2 q held holds info listed
      exact ⟨old.1, lt_of_lt_of_le old.2 more⟩
  rcases enter_cases t.store.length next (trie.find path) with
    ⟨children, place, held, ⟨info, listed, at_place⟩, whole⟩ | whole
  · rw [whole] at entered found linkedNode
    obtain ⟨_, t₃, back, ended⟩ := Handler.bind_ok.mp entered
    obtain ⟨rfl, last⟩ := Handler.pure_ok.mp ended
    rw [last, putBack, Handler.modify_ok, Prod.mk.injEq] at back
    obtain ⟨rfl, -⟩ := back
    have bounds := own.2 path children held
    refine ⟨rfl, linked.set (linkedNode _ le_rfl bounds), ⟨[], by simp, ?_⟩, fun i less => ?_, ?_,
      inserted, path, children, List.getElem?_set_self present, found, info, listed, at_place⟩
    · rw [List.append_nil]
      exact map_kind_set _ _ _ _
    · exact List.getElem?_set_ne (Nat.ne_of_gt less)
    · rw [← at_place]
      exact (bounds info listed).1
  · rw [whole] at entered found linkedNode
    obtain ⟨_, t₃, grown, entered⟩ := Handler.bind_ok.mp entered
    obtain ⟨_, t₄, back, ended⟩ := Handler.bind_ok.mp entered
    obtain ⟨rfl, last⟩ := Handler.pure_ok.mp ended
    rw [insertNew, Handler.modify_ok] at grown
    rw [last, ← grown, putBack, Handler.modify_ok, Prod.mk.injEq] at back
    obtain ⟨rfl, -⟩ := back
    have bounds : ∀ info ∈ (trie.find path).getD [] ++ [⟨next, t.store.length⟩],
        curIndex < info.storeIndex ∧
          info.storeIndex < (t.store ++ [newNode isLeaf]).length := by
      intro info listed
      rw [List.length_append]
      rcases List.mem_append.mp listed with old | new
      · cases held : trie.find path with
        | none =>
            rw [held] at old
            cases old
        | some children =>
            rw [held] at old
            have inside := own.2 path children held info old
            exact ⟨inside.1, Nat.lt_add_right _ inside.2⟩
      · rw [List.mem_singleton.mp new]
        exact ⟨present, Nat.lt_succ_self _⟩
    have more : t.store.length ≤ (t.store ++ [newNode isLeaf]).length := by simp
    refine ⟨rfl, (linked.push isLeaf).set (linkedNode _ more bounds),
      ⟨[kind (newNode isLeaf : MultiTrieNode T)], ?_, ?_⟩, fun i less => ?_, present,
      inserted, path, _, List.getElem?_set_self (lt_of_lt_of_le present more), found,
      ⟨next, t.store.length⟩, by simp, rfl⟩
    · intro k listed
      rw [List.mem_singleton.mp listed]
      cases isLeaf with
      | true => exact Option.some_ne_none _
      | false => exact Option.some_ne_none _
    · rw [List.set_append_left _ _ present, List.map_append, map_kind_set _ _ _ .none]
      rfl
    · rw [List.getElem?_set_ne (Nat.ne_of_gt less),
        List.getElem?_append_left (lt_trans less present)]

theorem insertChild_error {trie : Trie.DigitNode (List TrieNodeInfo)} :
    insertChild path isLeaf next curIndex trie (t, s) ≠ (.error (.err e), (t', s')) := by
  intro failed
  rcases Handler.bind_error.mp failed with read | ⟨fresh, t₁, -, failed⟩
  · cases read
  rcases Handler.bind_error.mp failed with read | ⟨inserted, t₂, -, failed⟩
  · have fault := (Handler.read_error.mp read).1
    exact absurd (isError_err e) (DigitNode.insert_onlyPanics _ fault)
  · cases place : (enter fresh next (trie.find path)).2 with
    | none =>
        rw [place] at failed
        cases failed
    | some storeIndex =>
        rw [place] at failed
        cases failed

/-- What was taken out is back, so that the nodes are of the kinds they were. -/
structure Kept (t t' : MultiTrie T) : Prop where
  settings : t'.settings = t.settings
  linked : Linked t.base t'.store
  kinds : ∃ added, (∀ k ∈ added, k ≠ none) ∧ t'.store.map kind = t.store.map kind ++ added

theorem Kept.trans {t'' : MultiTrie T} (first : Kept t t') (second : Kept t' t'') : Kept t t'' where
  settings := second.settings.trans first.settings
  linked := by
    rw [← base_of_settings first.settings]
    exact second.linked
  kinds := by
    obtain ⟨added, there, grown⟩ := first.kinds
    obtain ⟨added', there', grown'⟩ := second.kinds
    refine ⟨added ++ added', fun k listed => ?_, ?_⟩
    · rcases List.mem_append.mp listed with old | new
      · exact there k old
      · exact there' k new
    · rw [grown', grown, List.append_assoc]

/-- An empty place is left, to which the trie at `curIndex` leads. -/
structure Broken (curIndex : ℕ) (t t' : MultiTrie T) : Prop where
  settings : t'.settings = t.settings
  linked : Linked t.base t'.store
  before : ∀ i < curIndex, t'.store[i]? = t.store[i]?
  hole : ∃ last, Reaches t'.store curIndex last ∧ t'.store[last]? = some Node.none

theorem map_kind_set_same {store : List (MultiTrieNode T)} {node' : MultiTrieNode T}
    (present : store[curIndex]? = some node) (same : kind node' = kind node) :
    (store.set curIndex node').map kind = store.map kind := by
  rw [List.map_set, same]
  refine List.ext_getElem? fun i => ?_
  by_cases at_place : curIndex = i
  · rw [← at_place, List.getElem?_map, present]
    refine List.getElem?_set_self ?_
    rw [List.length_map]
    exact (List.getElem?_eq_some_iff.mp present).1
  · rw [List.getElem?_set_ne at_place]

/-- The state with the node of `curIndex` taken out. -/
def without (t : MultiTrie T) (curIndex : ℕ) : MultiTrie T :=
  { t with store := t.store.set curIndex .none }

theorem linked_without (linked : Linked t.base t.store) :
    Linked (t.without curIndex).base (t.without curIndex).store :=
  linked.set trivial

section Value
variable {value : S → Result (T × S)} {trie : Trie.DigitNode T}

theorem insertValue_ok (linked : Linked t.base t.store)
    (present : t.store[curIndex]? = some (.leaf trie))
    (ran : insertValue value path curIndex trie (t.without curIndex, s) = (.ok (), (t', s'))) :
    Kept t t' := by
  obtain ⟨inserted, t₁, read, ran⟩ := Handler.bind_ok.mp ran
  obtain ⟨put, rfl⟩ := Handler.read_ok.mp read
  obtain ⟨after, t₂, read, ran⟩ := Handler.bind_ok.mp ran
  obtain ⟨-, rfl⟩ := Handler.read_ok.mp read
  obtain ⟨_, t₃, changed, back⟩ := Handler.bind_ok.mp ran
  rw [Handler.modify_ok] at changed
  rw [← changed, putBack, Handler.modify_ok, Prod.mk.injEq] at back
  obtain ⟨rfl, -⟩ := back
  obtain ⟨_, -, new⟩ := DigitNode.insert_ok (linked curIndex _ present) put
  have once : ((t.without curIndex).store.set curIndex (.leaf inserted)) =
      t.store.set curIndex (.leaf inserted) := List.set_set _
  refine ⟨rfl, ?_, [], by simp, ?_⟩
  · dsimp only
    rw [once]
    exact linked.set new.wellFormed
  · dsimp only
    rw [once, List.append_nil]
    exact map_kind_set_same present rfl

theorem insertValue_error (linked : Linked t.base t.store) (present : curIndex < t.store.length)
    (failed : insertValue value path curIndex trie (t.without curIndex, s) =
      (.error (.err e), (t', s'))) : Broken curIndex t t' := by
  have stopped : t' = t.without curIndex := by
    rcases Handler.bind_error.mp failed with read | ⟨inserted, t₁, read, failed⟩
    · exact (congrArg Prod.fst (Handler.read_error.mp read).2).symm
    obtain ⟨-, rfl⟩ := Handler.read_ok.mp read
    rcases Handler.bind_error.mp failed with read | ⟨after, t₂, read, failed⟩
    · exact (congrArg Prod.fst (Handler.read_error.mp read).2).symm
    cases failed
  rw [stopped]
  refine ⟨rfl, linked_without linked, fun i less => ?_, curIndex, .here curIndex, ?_⟩
  · exact List.getElem?_set_ne (Nat.ne_of_gt less)
  · exact List.getElem?_set_self present

end Value

/-- The node that is taken out, when it is there. -/
theorem taken_node (taken : takeOut curIndex (t, s) = (.ok node, (t', s')))
    (there : node ≠ .none) : t.store[curIndex]? = some node ∧ t' = t.without curIndex := by
  obtain ⟨held, out, -⟩ := takeOut_ok taken
  exact ⟨present_of_taken held there, out⟩

/-- The insertion into a trie on the way, after its node was taken out. -/
theorem entered_without {trie : Trie.DigitNode (List TrieNodeInfo)}
    (linked : Linked t.base t.store) (present : t.store[curIndex]? = some (.node trie))
    (entered : insertChild path isLeaf next curIndex trie (t.without curIndex, s) =
      (.ok storeIndex, (t', s'))) :
    ChildEntered curIndex storeIndex (t.without curIndex) t' ∧ Kept t t' := by
  have within := (List.getElem?_eq_some_iff.mp present).1
  have length : (t.without curIndex).store.length = t.store.length := List.length_set
  have child := insertChild_ok (linked_without linked) (by rw [length]; exact within)
    (by rw [length]; exact linked curIndex _ present) entered
  refine ⟨child, child.settings, child.linked, ?_⟩
  obtain ⟨added, there, kinds⟩ := child.kinds
  have same : kind (.node .none : MultiTrieNode T) = kind (.node trie : MultiTrieNode T) := rfl
  refine ⟨added, there, ?_⟩
  rw [kinds, without]
  dsimp only
  rw [List.set_set, map_kind_set_same present same]

section Internal
variable {value : S → Result (T × S)} {paths : List (List ℕ)} {trieIndexes : List ℕ}

/-- By induction on the paths. -/
theorem insertInternal_ok (linked : Linked t.base t.store)
    (ran : insertInternal value paths trieIndexes curIndex (t, s) = (.ok (), (t', s'))) :
    Kept t t' := by
  induction paths generalizing trieIndexes curIndex t s with
  | nil => cases ran
  | cons path paths ih =>
      obtain ⟨node, ⟨t₁, s₁⟩, taken, ran⟩ := Handler.bind_ok.mp ran
      cases node with
      | none => cases ran
      | leaf trie =>
          obtain ⟨present, rfl⟩ := taken_node taken (by simp)
          dsimp only at ran
          split at ran
          next => exact insertValue_ok linked present ran
          next => cases ran
      | node trie =>
          obtain ⟨present, rfl⟩ := taken_node taken (by simp)
          dsimp only at ran
          split at ran
          next => cases ran
          next =>
            cases trieIndexes with
            | nil => cases ran
            | cons next indexes =>
                obtain ⟨storeIndex, ⟨t₂, s₂⟩, entered, ran⟩ := Handler.bind_ok.mp ran
                obtain ⟨-, kept⟩ := entered_without linked present entered
                have linked' : Linked t₂.base t₂.store := by
                  rw [base_of_settings kept.settings]
                  exact kept.linked
                exact kept.trans (ih linked' ran)

/-- By induction on the paths: the place is empty, or one that is reached from its node. -/
theorem insertInternal_error (linked : Linked t.base t.store)
    (failed : insertInternal value paths trieIndexes curIndex (t, s) =
      (.error (.err e), (t', s'))) : Broken curIndex t t' := by
  induction paths generalizing trieIndexes curIndex t s with
  | nil => cases failed
  | cons path paths ih =>
      rcases Handler.bind_error.mp failed with taken | ⟨node, ⟨t₁, s₁⟩, taken, failed⟩
      · exact absurd taken takeOut_error
      cases node with
      | none => cases failed
      | leaf trie =>
          obtain ⟨present, rfl⟩ := taken_node taken (by simp)
          dsimp only at failed
          split at failed
          next =>
            exact insertValue_error linked (List.getElem?_eq_some_iff.mp present).1 failed
          next => cases failed
      | node trie =>
          obtain ⟨present, rfl⟩ := taken_node taken (by simp)
          dsimp only at failed
          split at failed
          next => cases failed
          next =>
            cases trieIndexes with
            | nil => cases failed
            | cons next indexes =>
                rcases Handler.bind_error.mp failed with
                  entered | ⟨storeIndex, ⟨t₂, s₂⟩, entered, failed⟩
                · exact absurd entered insertChild_error
                obtain ⟨child, kept⟩ := entered_without linked present entered
                have base := base_of_settings kept.settings
                have broken := ih (by rw [base]; exact kept.linked) failed
                obtain ⟨last, reaches, empty⟩ := broken.hole
                obtain ⟨trie', q, children, held, found, info, listed, at_place⟩ := child.refers
                refine ⟨broken.settings.trans kept.settings, ?_, fun i less => ?_, last, ?_, empty⟩
                · rw [← base]
                  exact broken.linked
                · rw [broken.before i (lt_trans less child.behind), child.before i less]
                  exact List.getElem?_set_ne (Nat.ne_of_gt less)
                · rw [← broken.before curIndex child.behind] at held
                  rw [← at_place] at reaches
                  exact .down held found listed reaches

end Internal

end Stages

/-! Whole insertions. -/

/-- A trie between two insertions that succeeded. -/
structure Whole (t : MultiTrie T) : Prop where
  linked : Linked t.base t.store
  there : ∀ k ∈ t.store.map kind, k ≠ none
  roots : ∀ i < t.nbRoots, (t.store.map kind)[i]? = some (some (decide (t.nbRequired ≤ 1)))
  tries : t.nbTries = t.oracleNumericInfos.nbDigits.length

/-- A root leads to an empty place. -/
structure Holed (t : MultiTrie T) : Prop where
  linked : Linked t.base t.store
  hole : ∃ root < t.nbRoots, ∃ last, Reaches t.store root last ∧ t.store[last]? = some Node.none

section Runs
variable {t t' : MultiTrie T} {s s' : S} {e : Error} {getValue : GetValue S T}

theorem new_whole {info : OracleNumericInfo} {nbRequired minSupportExp maxErrorExp : ℕ}
    {maximizeCoverage : Bool}
    (made : new info nbRequired minSupportExp maxErrorExp maximizeCoverage = .ok t) : Whole t := by
  obtain ⟨_, -, made⟩ := Checked.bind_eq_ok.mp made
  cases made
  have each : ∀ node ∈ List.replicate (info.nbDigits.length - nbRequired + 1)
      (newNode (nbRequired ≤ 1) : MultiTrieNode T), node = newNode (nbRequired ≤ 1) :=
    fun node listed => List.eq_of_mem_replicate listed
  have kinds : kind (newNode (nbRequired ≤ 1) : MultiTrieNode T) =
      some (decide (nbRequired ≤ 1)) := by
    cases decide (nbRequired ≤ 1) with
    | true => rfl
    | false => rfl
  refine ⟨fun index node held => ?_, fun k listed => ?_, fun i root => ?_, rfl⟩
  · rw [each node (List.mem_of_getElem? held)]
    exact linkedNode_newNode _
  · obtain ⟨node, among, rfl⟩ := List.mem_map.mp listed
    rw [each node among, kinds]
    exact Option.some_ne_none _
  · dsimp only
    rw [List.map_replicate, List.getElem?_replicate, kinds]
    exact if_pos root

theorem settings_eq (same : t'.settings = t.settings) : t'.nbTries = t.nbTries ∧
    t'.nbRequired = t.nbRequired ∧ t'.oracleNumericInfos = t.oracleNumericInfos :=
  ⟨congrArg (fun settings => settings.nbTries) same,
    congrArg (fun settings => settings.nbRequired) same,
    congrArg (fun settings => settings.oracleNumericInfos) same⟩

theorem nbRoots_of_settings (same : t'.settings = t.settings) : t'.nbRoots = t.nbRoots := by
  rw [nbRoots, nbRoots, (settings_eq same).1, (settings_eq same).2.1]

theorem Whole.kept (whole : Whole t) (kept : Kept t t') : Whole t' := by
  obtain ⟨added, new, kinds⟩ := kept.kinds
  obtain ⟨tries, required, infos⟩ := settings_eq kept.settings
  refine ⟨?_, fun k listed => ?_, fun i root => ?_, ?_⟩
  · rw [base_of_settings kept.settings]
    exact kept.linked
  · rw [kinds] at listed
    rcases List.mem_append.mp listed with old | new'
    · exact whole.there k old
    · exact new k new'
  · rw [nbRoots_of_settings kept.settings] at root
    have old := whole.roots i root
    rw [kinds, List.getElem?_append_left (List.getElem?_eq_some_iff.mp old).1, required, old]
  · rw [tries, infos]
    exact whole.tries

/-- A trie with the settings of another one, and nothing taken out of it. -/
def WholeLike (t : MultiTrie T) (x : MultiTrie T × S) : Prop :=
  Whole x.1 ∧ x.1.settings = t.settings

/-- A selection of oracles starts with one of a root. -/
theorem selects_root {n k index : ℕ} {indexes : List ℕ}
    (selects : Dlc.Selects n 0 (index :: indexes)) (length : (index :: indexes).length = k) :
    index < n - k + 1 := by
  have room := selects.room
  rw [List.length_cons] at length
  omega

section Paths
variable {indexed : List ℕ × List (List ℕ)}

theorem insertPaths_ok (whole : Whole t)
    (ran : insertPaths getValue indexed (t, s) = (.ok (), (t', s'))) :
    WholeLike t (t', s') := by
  rw [insertPaths] at ran
  cases chosen : indexed.1 with
  | nil =>
      rw [chosen] at ran
      cases ran
  | cons index indexes =>
      rw [chosen] at ran
      have kept := insertInternal_ok whole.linked ran
      exact ⟨whole.kept kept, kept.settings⟩

theorem insertPaths_error (whole : Whole t) (selects : Dlc.Selects t.nbTries 0 indexed.1)
    (length : indexed.1.length = t.nbRequired)
    (failed : insertPaths getValue indexed (t, s) = (.error (.err e), (t', s'))) : Holed t' := by
  rw [insertPaths] at failed
  cases chosen : indexed.1 with
  | nil =>
      rw [chosen] at failed
      cases failed
  | cons index indexes =>
      rw [chosen] at failed selects length
      have broken := insertInternal_error whole.linked failed
      refine ⟨?_, index, ?_, broken.hole⟩
      · rw [base_of_settings broken.settings]
        exact broken.linked
      · rw [nbRoots_of_settings broken.settings]
        exact selects_root selects length

theorem insertPaths_like {x x' : MultiTrie T × S} (like : WholeLike t x)
    (ran : insertPaths getValue indexed x = (.ok (), x')) : WholeLike t x' := by
  obtain ⟨u, s⟩ := x
  obtain ⟨u', s'⟩ := x'
  obtain ⟨whole, same⟩ := insertPaths_ok like.1 ran
  exact ⟨whole, same.trans like.2⟩

/-- A loop that fails does so with a combination of a selection. -/
theorem insertAll_error {A : Type} {f : A → List ℕ × List (List ℕ)} {all : List A}
    (whole : Whole t)
    (each : ∀ x ∈ all, Dlc.Selects t.nbTries 0 (f x).1 ∧ (f x).1.length = t.nbRequired)
    (failed : Handler.forEach (fun x => insertPaths getValue (f x)) all (t, s) =
      (.error (.err e), (t', s'))) : Holed t' := by
  obtain ⟨x, listed, ⟨u, s₁⟩, like, stopped⟩ := Handler.forEach_error (P := WholeLike t)
    (fun x _ y y' like ran => insertPaths_like like ran) ⟨whole, rfl⟩ failed
  obtain ⟨selects, length⟩ := each x listed
  obtain ⟨tries, required, -⟩ := settings_eq like.2
  refine insertPaths_error like.1 ?_ ?_ stopped
  · rw [tries]
    exact selects
  · rw [required]
    exact length

end Paths

theorem insertSelected_like {path selector : List ℕ} {x x' : MultiTrie T × S}
    (like : WholeLike t x) (ran : insertSelected getValue path selector x = (.ok (), x')) :
    WholeLike t x' := by
  obtain ⟨combinations, x₁, read, ran⟩ := Handler.bind_ok.mp ran
  obtain ⟨-, rfl⟩ := Handler.read_ok.mp read
  exact Handler.forEach_ok (fun combination _ y y' like ran => insertPaths_like like ran) like ran

theorem insertSelected_error {path selector : List ℕ} (whole : Whole t)
    (selects : Dlc.Selects t.nbTries 0 selector) (length : selector.length = t.nbRequired)
    (failed : insertSelected getValue path selector (t, s) = (.error (.err e), (t', s'))) :
    Holed t' := by
  rcases Handler.bind_error.mp failed with read | ⟨combinations, x₁, read, failed⟩
  · have fault := (Handler.read_error.mp read).1
    exact absurd (isError_err e) (onlyPanics_combinationsFor _ _ _ _ fault)
  obtain ⟨-, rfl⟩ := Handler.read_ok.mp read
  exact insertAll_error (f := fun combination => (selector, combination)) whole
    (fun combination _ => ⟨selects, length⟩) failed

theorem insert_ok {path : List ℕ} (whole : Whole t)
    (ran : insert getValue path (t, s) = (.ok (), (t', s'))) : Whole t' := by
  obtain ⟨selectors, x₁, read, ran⟩ := Handler.bind_ok.mp ran
  obtain ⟨-, rfl⟩ := Handler.read_ok.mp read
  have like : WholeLike t (t', s') := Handler.forEach_ok
    (fun selector _ y y' like ran => insertSelected_like like ran) ⟨whole, rfl⟩ ran
  exact like.1

theorem insert_error {path : List ℕ} (whole : Whole t)
    (failed : insert getValue path (t, s) = (.error (.err e), (t', s'))) : Holed t' := by
  rcases Handler.bind_error.mp failed with read | ⟨selectors, x₁, read, failed⟩
  · have fault := (Handler.read_error.mp read).1
    exact absurd (isError_err e) (onlyPanics_combinations _ _ _ fault)
  obtain ⟨listed, rfl⟩ := Handler.read_ok.mp read
  obtain ⟨selector, chosen, ⟨u, s₁⟩, like, stopped⟩ := Handler.forEach_error (P := WholeLike t)
    (fun selector _ y y' like ran => insertSelected_like like ran) ⟨whole, rfl⟩ failed
  obtain ⟨selects, length⟩ := Dlc.combinations_selects listed selector chosen
  obtain ⟨tries, required, -⟩ := settings_eq like.2
  refine insertSelected_error like.1 ?_ ?_ stopped
  · rw [tries]
    exact selects
  · rw [required]
    exact length

theorem insertMaxPaths_ok (whole : Whole t)
    (ran : insertMaxPaths getValue (t, s) = (.ok (), (t', s'))) : Whole t' := by
  obtain ⟨indexedPaths, x₁, read, ran⟩ := Handler.bind_ok.mp ran
  obtain ⟨-, rfl⟩ := Handler.read_ok.mp read
  have like : WholeLike t (t', s') := Handler.forEach_ok
    (fun indexed _ y y' like ran => insertPaths_like like ran) ⟨whole, rfl⟩ ran
  exact like.1

theorem getMaxCoveringPaths_selects {info : OracleNumericInfo} {threshold : ℕ}
    {paths : List (List (ℕ × List ℕ))} (listed : getMaxCoveringPaths info threshold = .ok paths)
    {x : List ℕ × List (List ℕ)} (unzipped : x ∈ paths.map List.unzip) :
    Dlc.Selects info.nbDigits.length 0 x.1 ∧ x.1.length = threshold := by
  obtain ⟨indexed, member, rfl⟩ := List.mem_map.mp unzipped
  obtain ⟨minNbDigits, _, rest⟩ := Checked.bind_eq_ok.mp listed
  obtain ⟨combinations, all, last⟩ := Checked.bind_eq_ok.mp rest
  cases last
  obtain ⟨combination, chosen, member⟩ := List.mem_flatMap.mp member
  obtain ⟨selects, length⟩ := Dlc.combinations_selects all combination chosen
  rw [List.unzip_fst, coveringPathsFor_indexes selects member]
  exact ⟨selects, length⟩

theorem insertMaxPaths_error (whole : Whole t)
    (failed : insertMaxPaths getValue (t, s) = (.error (.err e), (t', s'))) : Holed t' := by
  rcases Handler.bind_error.mp failed with read | ⟨indexedPaths, x₁, read, failed⟩
  · have fault := (Handler.read_error.mp read).1
    exact absurd (isError_err e) (onlyPanics_getMaxCoveringPaths _ _ _ fault)
  obtain ⟨listed, rfl⟩ := Handler.read_ok.mp read
  refine insertAll_error (f := id) whole (fun indexed member => ?_) failed
  rw [whole.tries]
  exact getMaxCoveringPaths_selects listed member

end Runs

end MultiTrie

end Arena

end P2PLending.Trie
