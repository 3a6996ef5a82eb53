import P2PLending.Foundation.Handler
import P2PLending.Foundation.Iterators
import P2PLending.Trie.DigitTrieMap

/-! Tries of digits in their arena. An insertion takes nodes out of the store and puts them back, so
that a place is empty meanwhile; what the source has done to the store stays done when the insertion
fails. -/

namespace P2PLending.Trie

open Dlc (Result Fault Error)

variable {T : Type}

/-- `none` stands for a node that has been taken out. -/
inductive Node (L N : Type)
  | none
  | leaf (leaf : L)
  | node (node : N)
  deriving DecidableEq, Repr

def unreachable : String := "internal error: entered unreachable code"

def stackOverflow : String := "stack overflow"

/-- `store.push(Node::None)`, then `store.swap_remove(index)`, which brings the last node to the
place. -/
def swapRemove {L N : Type} (store : List (Node L N)) (index : ℕ) :
    Result (Node L N × List (Node L N)) :=
  if index < store.length + 1 then
    .ok (store[index]?.getD .none, store.set index .none)
  else .error (.panic "swap_remove index should be < len")

section SwapRemove
variable {L N : Type} {store rest : List (Node L N)} {index : ℕ} {node : Node L N}

theorem swapRemove_ok (taken : swapRemove store index = .ok (node, rest)) :
    node = store[index]?.getD .none ∧ rest = store.set index .none := by
  rw [swapRemove] at taken
  split at taken
  next =>
    cases taken
    exact ⟨rfl, rfl⟩
  next => cases taken

theorem swapRemove_error {e : Error} : swapRemove store index ≠ .error (.err e) := by
  intro failed
  rw [swapRemove] at failed
  split at failed
  next => cases failed
  next => cases failed

/-- A node that is not empty was in its place. -/
theorem present_of_taken (taken : node = store[index]?.getD .none) (there : node ≠ .none) :
    store[index]? = some node := by
  cases place : store[index]? with
  | none =>
      rw [place] at taken
      exact absurd taken there
  | some node' =>
      rw [place] at taken
      rw [taken]
      rfl

end SwapRemove

namespace Arena

structure DigitLeaf (T : Type) where
  data : T
  nodePrefix : List ℕ
  deriving DecidableEq, Repr

structure DigitNode (T : Type) where
  children : List (Option ℕ)
  nodePrefix : List ℕ
  data : Option T
  deriving DecidableEq, Repr

structure DigitTrie (T : Type) where
  store : List (Node (DigitLeaf T) (DigitNode T))
  root : Option ℕ
  base : ℕ
  deriving DecidableEq, Repr

def getNodePrefix : Node (DigitLeaf T) (DigitNode T) → Result (List ℕ)
  | .none => .error (.panic unreachable)
  | .leaf leaf => .ok leaf.nodePrefix
  | .node node => .ok node.nodePrefix

def setNodePrefix (nodePrefix : List ℕ) :
    Node (DigitLeaf T) (DigitNode T) → Node (DigitLeaf T) (DigitNode T)
  | .none => .none
  | .leaf leaf => .leaf { leaf with nodePrefix }
  | .node node => .node { node with nodePrefix }

/-- `children[path[0]]` -/
def childAt (children : List (Option ℕ)) (path : List ℕ) : Result (Option ℕ) :=
  match path.head?.bind fun i => children[i]? with
  | some child => .ok child
  | none => .error (.panic outOfBounds)

/-- `children[path[0]] = Some(child)` -/
def placeAt (children : List (Option ℕ)) (path : List ℕ) (child : ℕ) :
    Result (List (Option ℕ)) :=
  match path with
  | [] => .error (.panic outOfBounds)
  | i :: _ =>
      if i < children.length then .ok (children.set i (some child))
      else .error (.panic outOfBounds)

namespace DigitTrie

/-- A stage of an insertion. -/
abbrev Stage (T A : Type) := Handler (DigitTrie T) (Fault Error) A

def new (base : ℕ) : DigitTrie T where
  store := []
  root := none
  base := base

def panic {A : Type} (message : String) : Stage T A := .lift (.error (.panic message))

def takeOut (index : ℕ) : Stage T (Node (DigitLeaf T) (DigitNode T)) := fun t =>
  match swapRemove t.store index with
  | .ok (node, store) => (.ok node, { t with store })
  | .error fault => (.error fault, t)

def putBack (index : ℕ) (node : Node (DigitLeaf T) (DigitNode T)) : Stage T Unit :=
  .modify fun t => { t with store := t.store.set index node }

/-- `store.push(node)`, with the place of the node. -/
def push (node : Node (DigitLeaf T) (DigitNode T)) : Stage T ℕ := fun t =>
  (.ok t.store.length, { t with store := t.store ++ [node] })

def insertNewLeaf (path : List ℕ) (data : T) : Stage T ℕ := push (.leaf ⟨data, path⟩)

/-- An array of as many children as there are digits, with a new leaf for the path. -/
def newLeafChild (path : List ℕ) (data : T) : Stage T (List (Option ℕ)) := do
  let leaf ← insertNewLeaf path data
  Handler.read fun t => placeAt (List.replicate t.base none) path leaf

variable (getData : Option T → Result T)

/-- The node's part of the path is the path. -/
def replaceData (curIndex : ℕ) : Node (DigitLeaf T) (DigitNode T) → Stage T ℕ
  | .leaf leaf => do
      let data ← .lift (getData (some leaf.data))
      putBack curIndex (.leaf { leaf with data })
      return curIndex
  | .node node => do
      let data ← .lift (getData node.data)
      putBack curIndex (.node { node with data := some data })
      return curIndex
  | .none => panic unreachable

/-- The path goes on, with `suffix`, where the node's part of it ends. -/
def insertBelow (inner : Option ℕ → Stage T ℕ) (curIndex : ℕ) (suffix : List ℕ) :
    Node (DigitLeaf T) (DigitNode T) → Stage T ℕ
  | .node node => do
      let child ← .lift (childAt node.children suffix)
      let child ← inner child
      let children ← .lift (placeAt node.children suffix child)
      putBack curIndex (.node { node with children })
      return curIndex
  | .leaf leaf => do
      let data ← .lift (getData none)
      let children ← newLeafChild suffix data
      putBack curIndex (.node ⟨children, leaf.nodePrefix, some leaf.data⟩)
      return curIndex
  | .none => panic unreachable

/-- The children of a new node above, but for the one that was there. -/
def splitChildren (commonPrefix path : List ℕ) (data : T) : Stage T (List (Option ℕ)) :=
  if path = commonPrefix then Handler.read fun t => .ok (List.replicate t.base none)
  else newLeafChild (path.drop commonPrefix.length) data

/-- The path leaves the node's part of it where their common prefix ends. -/
def splitAbove (curIndex : ℕ) (curNode : Node (DigitLeaf T) (DigitNode T))
    (nodePrefix path : List ℕ) : Stage T ℕ := do
  let commonPrefix := getCommonPrefix nodePrefix path
  let below := nodePrefix.drop commonPrefix.length
  let data ← .lift (getData none)
  let children ← splitChildren commonPrefix path data
  let children ← .lift (placeAt children below curIndex)
  let above ← push (.node ⟨children, commonPrefix, if path = commonPrefix then some data else none⟩)
  putBack curIndex (setNodePrefix below curNode)
  return above

/-- The recursion goes as deep as there is room on the stack. -/
def insertInternal : (room : ℕ) → Option ℕ → (path : List ℕ) → Stage T ℕ
  | 0, _, _ => panic stackOverflow
  | _ + 1, none, path => do
      let data ← .lift (getData none)
      insertNewLeaf path data
  | room + 1, some curIndex, path => do
      let curNode ← takeOut curIndex
      let nodePrefix ← .lift (getNodePrefix curNode)
      if nodePrefix = path then replaceData getData curIndex curNode
      else if nodePrefix = getCommonPrefix nodePrefix path then
        let suffix := path.drop nodePrefix.length
        insertBelow getData (fun child => insertInternal room child suffix) curIndex suffix curNode
      else splitAbove getData curIndex curNode nodePrefix path

def insert (room : ℕ) (path : List ℕ) : Stage T Unit := do
  let invalid ← Handler.read fun t => .ok (decide (path = [] ∨ ∃ x ∈ path, t.base < x))
  if invalid then panic "Invalid path"
  else
    let root ← Handler.read fun t => .ok t.root
    let root ← insertInternal getData room root path
    Handler.modify fun t => { t with root := some root }

/-- `look_up_internal` -/
def lookUpInternal (t : DigitTrie T) :
    (room : ℕ) → Option ℕ → (path : List ℕ) → Result (Option (List (List ℕ × T)))
  | 0, _, _ => .error (.panic stackOverflow)
  | _ + 1, none, _ => .ok none
  | room + 1, some curIndex, path =>
      match t.store[curIndex]? with
      | none => .error (.panic outOfBounds)
      | some .none => .error (.panic unreachable)
      | some (.leaf leaf) =>
          .ok (if leaf.nodePrefix = getCommonPrefix leaf.nodePrefix path then
            some [(leaf.nodePrefix, leaf.data)] else none)
      | some (.node node) =>
          let own := node.data.map fun d => [(node.nodePrefix, d)]
          if node.nodePrefix.length > path.length ∨ isPrefixOf node.nodePrefix path = false then
            .ok none
          else if node.nodePrefix.length = path.length then .ok own
          else do
            let suffix := path.drop node.nodePrefix.length
            let res ← t.lookUpInternal room (← childAt node.children suffix) suffix
            return match res with
              | none => own
              | some found => some (own.getD [] ++ extendLookupResPaths found node.nodePrefix)

def lookUp (t : DigitTrie T) (room : ℕ) (path : List ℕ) : Result (Option (List (List ℕ × T))) :=
  t.lookUpInternal room t.root path

end DigitTrie

/-- The stacks have their top first. A node whose child is `-1` has not been visited. -/
structure DigitTrieIter where
  indexStack : List (Option ℕ × ℤ)
  curPrefix : List (List ℕ)
  deriving DecidableEq, Repr

namespace DigitTrieIter

/-- What a call gives: an item or the end, and the iterator after it. -/
abbrev Returned (T : Type) := Result (Option (List ℕ × T) × DigitTrieIter)

def new (t : DigitTrie T) : DigitTrieIter where
  indexStack := [(t.root, -1)]
  curPrefix := []

def path (it : DigitTrieIter) (nodePrefix : List ℕ) : List ℕ :=
  (it.curPrefix.reverse.filter fun x => x ≠ []).flatten ++ nodePrefix

/-- The loop over the children from `base - left` on. -/
def visitChildren (next : DigitTrieIter → Returned T) (base curIndex : ℕ)
    (children : List (Option ℕ)) : (left : ℕ) → DigitTrieIter → Returned T
  | 0, it => .ok (none, { indexStack := it.indexStack.tail, curPrefix := it.curPrefix.tail })
  | left + 1, it =>
      let child := base - (left + 1)
      match childAt children [child] with
      | .error fault => .error fault
      | .ok below =>
          let stack := (below, -1) :: (some curIndex, (child : ℤ) + 1) :: it.indexStack
          match next { it with indexStack := stack } with
          | .error fault => .error fault
          | .ok (some item, it) => .ok (some item, it)
          | .ok (none, it) =>
              visitChildren next base curIndex children left
                { it with indexStack := it.indexStack.tail }

def next (t : DigitTrie T) : (room : ℕ) → DigitTrieIter → Returned T
  | 0, _ => .error (.panic stackOverflow)
  | room + 1, it =>
      match it.indexStack with
      | [] => .ok (none, it)
      | (none, _) :: stack => next t room { it with indexStack := stack }
      | (some curIndex, child) :: stack =>
          match t.store[curIndex]? with
          | none => .error (.panic outOfBounds)
          | some .none => .error (.panic unreachable)
          | some (.leaf leaf) =>
              .ok (some (it.path leaf.nodePrefix, leaf.data), { it with indexStack := stack })
          | some (.node node) =>
              if (t.base : ℤ) ≤ child then
                next t room { indexStack := stack, curPrefix := it.curPrefix.tail }
              else
                match if child = -1 then node.data else none with
                | some data =>
                    let stack := (some curIndex, 0) :: stack
                    .ok (some (it.path node.nodePrefix, data), { it with indexStack := stack })
                | none =>
                    let child := if child = -1 then 0 else child
                    let curPrefix :=
                      if child = 0 then node.nodePrefix :: it.curPrefix else it.curPrefix
                    visitChildren (next t room) t.base curIndex node.children
                      (t.base - child).toNat { indexStack := stack, curPrefix }

end DigitTrieIter

namespace DigitTrie

/-- The first calls of an iterator over the trie. -/
def iterate (t : DigitTrie T) (room count : ℕ) :
    List (List ℕ × T) × Option (Except (Fault Error) Unit) :=
  calls (DigitTrieIter.next t room) count (.new t)

/-- The tries cannot be told apart. -/
structure SameAnswers (t t' : DigitTrie T) : Prop where
  lookUp : ∀ room path, t'.lookUp room path = t.lookUp room path
  iterate : ∀ room count, t'.iterate room count = t.iterate room count

/-! What an insertion leaves when its callback fails. -/

/-- Nothing is different but that some places are empty. -/
structure Emptied (t t' : DigitTrie T) : Prop where
  root : t'.root = t.root
  store : ∀ i : ℕ, t'.store[i]? = t.store[i]? ∨ t'.store[i]? = some Node.none

theorem Emptied.refl (t : DigitTrie T) : Emptied t t := ⟨rfl, fun _ => Or.inl rfl⟩

theorem Emptied.trans {t t' t'' : DigitTrie T} (first : Emptied t t') (second : Emptied t' t'') :
    Emptied t t'' where
  root := second.root.trans first.root
  store i := by
    rcases second.store i with same | empty
    · rw [same]
      exact first.store i
    · exact Or.inr empty

/-- An empty place stays so. -/
theorem Emptied.stays {t t' : DigitTrie T} (emptied : Emptied t t') {i : ℕ}
    (empty : t.store[i]? = some Node.none) : t'.store[i]? = some Node.none := by
  rcases emptied.store i with same | empty'
  · rw [same, empty]
  · exact empty'

/-- An insertion at a place came to nothing: the node is not put back. -/
structure Failed (cur : Option ℕ) (t t' : DigitTrie T) : Prop where
  emptied : Emptied t t'
  untouched : cur = none → t' = t
  taken : ∀ index, cur = some index → t'.store[index]? = some Node.none ∧
    ∃ node, t.store[index]? = some node ∧ node ≠ .none

section Fails
variable {getData : Option T → Result T} {t t' : DigitTrie T} {e : Error} {curIndex : ℕ}
  {node : Node (DigitLeaf T) (DigitNode T)} {path : List ℕ}

theorem takeOut_ok {index : ℕ} (taken : takeOut index t = (.ok node, t')) :
    node = t.store[index]?.getD .none ∧ t' = { t with store := t.store.set index .none } := by
  rw [takeOut] at taken
  split at taken
  next node' store out =>
    cases taken
    obtain ⟨same, rest⟩ := swapRemove_ok out
    exact ⟨same, by rw [rest]⟩
  next => cases taken

theorem takeOut_error {index : ℕ} : takeOut index t ≠ (.error (.err e), t') := by
  intro failed
  rw [takeOut] at failed
  split at failed
  next => cases failed
  next fault out =>
    cases failed
    exact swapRemove_error out

theorem panic_error {A : Type} {message : String} :
    (panic message : Stage T A) t ≠ (.error (.err e), t') := by
  intro failed
  cases failed

theorem placeAt_error {children : List (Option ℕ)} {child : ℕ} :
    placeAt children path child ≠ .error (.err e) := by
  intro failed
  cases path with
  | nil => cases failed
  | cons i path =>
      rw [placeAt] at failed
      split at failed
      next => cases failed
      next => cases failed

theorem childAt_error {children : List (Option ℕ)} : childAt children path ≠ .error (.err e) := by
  intro failed
  rw [childAt] at failed
  split at failed
  next => cases failed
  next => cases failed

theorem newLeafChild_error {data : T} : newLeafChild path data t ≠ (.error (.err e), t') := by
  intro failed
  rcases Handler.bind_error.mp failed with pushed | ⟨leaf, t₁, -, placed⟩
  · cases pushed
  · exact placeAt_error (Handler.read_error.mp placed).1

theorem replaceData_error (failed : replaceData getData curIndex node t = (.error (.err e), t')) :
    t' = t := by
  cases node with
  | none => exact absurd failed panic_error
  | leaf leaf =>
      rcases Handler.bind_error.mp failed with asked | ⟨data, t₁, -, put⟩
      · exact (Handler.lift_error.mp asked).2.symm
      · cases put
  | node node =>
      rcases Handler.bind_error.mp failed with asked | ⟨data, t₁, -, put⟩
      · exact (Handler.lift_error.mp asked).2.symm
      · cases put

theorem splitAbove_error {nodePrefix : List ℕ}
    (failed : splitAbove getData curIndex node nodePrefix path t = (.error (.err e), t')) :
    t' = t := by
  rcases Handler.bind_error.mp failed with asked | ⟨data, t₁, -, rest⟩
  · exact (Handler.lift_error.mp asked).2.symm
  · exfalso
    rcases Handler.bind_error.mp rest with made | ⟨children, t₂, -, rest⟩
    · rw [splitChildren] at made
      split at made
      next => cases made
      next => exact newLeafChild_error made
    · rcases Handler.bind_error.mp rest with placed | ⟨children, t₃, -, rest⟩
      · exact placeAt_error (Handler.lift_error.mp placed).1
      · cases rest

/-- The callback of a node is called in the recursion. -/
theorem insertBelow_error {inner : Option ℕ → Stage T ℕ} {suffix : List ℕ}
    (failed : insertBelow getData inner curIndex suffix node t = (.error (.err e), t')) :
    t' = t ∨ ∃ child, inner child t = (.error (.err e), t') := by
  cases node with
  | none => exact absurd failed panic_error
  | leaf leaf =>
      rcases Handler.bind_error.mp failed with asked | ⟨data, t₁, -, rest⟩
      · exact Or.inl (Handler.lift_error.mp asked).2.symm
      · rcases Handler.bind_error.mp rest with made | ⟨children, t₂, -, rest⟩
        · exact absurd made newLeafChild_error
        · cases rest
  | node node =>
      rcases Handler.bind_error.mp failed with found | ⟨child, t₁, found, rest⟩
      · exact absurd (Handler.lift_error.mp found).1 childAt_error
      · obtain ⟨-, rfl⟩ := Handler.lift_ok.mp found
        rcases Handler.bind_error.mp rest with went | ⟨child', t₂, -, rest⟩
        · exact Or.inr ⟨child, went⟩
        · rcases Handler.bind_error.mp rest with placed | ⟨children, t₃, -, rest⟩
          · exact absurd (Handler.lift_error.mp placed).1 placeAt_error
          · cases rest

/-- By induction on the room: the node that was taken out first is not put back, and below it
places were only emptied. -/
theorem insertInternal_error {room : ℕ} {cur : Option ℕ}
    (failed : insertInternal getData room cur path t = (.error (.err e), t')) :
    Failed cur t t' := by
  induction room generalizing cur path t t' with
  | zero => exact absurd failed panic_error
  | succ room ih =>
      cases cur with
      | none =>
          rcases Handler.bind_error.mp failed with asked | ⟨data, t₁, -, pushed⟩
          · obtain ⟨-, rfl⟩ := Handler.lift_error.mp asked
            refine ⟨.refl t, fun _ => rfl, fun index same => ?_⟩
            cases same
          · cases pushed
      | some curIndex =>
          rcases Handler.bind_error.mp failed with taken | ⟨node, t₁, taken, rest⟩
          · exact absurd taken takeOut_error
          obtain ⟨held, out⟩ := takeOut_ok taken
          rcases Handler.bind_error.mp rest with asked | ⟨nodePrefix, t₂, asked, rest⟩
          · cases node with
            | none => cases asked
            | leaf leaf => cases asked
            | node node => cases asked
          obtain ⟨known, rfl⟩ := Handler.lift_ok.mp asked
          have there : node ≠ .none := by
            rintro rfl
            cases known
          have present := present_of_taken held there
          have within := (List.getElem?_eq_some_iff.mp present).1
          have empty : t₁.store[curIndex]? = some Node.none := by
            rw [out]
            exact List.getElem?_set_self within
          have first : Emptied t t₁ := by
            rw [out]
            refine ⟨rfl, fun i => ?_⟩
            by_cases same : curIndex = i
            · rw [← same, List.getElem?_set_self within]
              exact Or.inr rfl
            · rw [List.getElem?_set_ne same]
              exact Or.inl rfl
          have later : Emptied t₁ t' := by
            split at rest
            next => rw [replaceData_error rest]; exact .refl t₁
            next =>
              split at rest
              next =>
                rcases insertBelow_error rest with same | ⟨child, went⟩
                · rw [same]
                  exact .refl t₁
                · exact (ih went).emptied
              next => rw [splitAbove_error rest]; exact .refl t₁
          refine ⟨first.trans later, fun unset => ?_, fun index same => ?_⟩
          · cases unset
          cases same
          exact ⟨later.stays empty, node, present, there⟩

/-- The empty path is looked up in the root, which is taken to be there. -/
theorem lookUp_nil_of_present {index : ℕ} (root : t.root = some index)
    (present : t.store[index]? = some node) (there : node ≠ .none) :
    ∃ found, t.lookUp 1 [] = .ok found := by
  rw [DigitTrie.lookUp, root, lookUpInternal, present]
  cases node with
  | none => exact absurd rfl there
  | leaf leaf => exact ⟨_, rfl⟩
  | node node =>
      dsimp only
      by_cases longer : node.nodePrefix.length > ([] : List ℕ).length ∨
          isPrefixOf node.nodePrefix [] = false
      · rw [if_pos longer]
        exact ⟨_, rfl⟩
      · have same : node.nodePrefix.length = ([] : List ℕ).length :=
          Nat.le_zero.mp (Nat.le_of_not_lt fun more => longer (Or.inl more))
        rw [if_neg longer, if_pos same]
        exact ⟨_, rfl⟩

theorem lookUp_nil_of_empty {index : ℕ} (root : t.root = some index)
    (empty : t.store[index]? = some Node.none) :
    t.lookUp 1 [] = .error (.panic unreachable) := by
  rw [DigitTrie.lookUp, root, lookUpInternal, empty]

/-- An insertion that fails goes through unnoticed only where there is no node to take out. -/
theorem insert_unnoticed_iff {room : ℕ}
    (failed : insert getData room path t = (.error (.err e), t')) :
    SameAnswers t t' ↔ t.root = none := by
  have came : Failed t.root t t' := by
    rcases Handler.bind_error.mp failed with asked | ⟨invalid, t₁, asked, rest⟩
    · cases asked
    obtain ⟨-, rfl⟩ := Handler.read_ok.mp asked
    split at rest
    next => exact absurd rest panic_error
    next =>
      rcases Handler.bind_error.mp rest with asked | ⟨root, t₁, asked, rest⟩
      · cases asked
      obtain ⟨same, rfl⟩ := Handler.read_ok.mp asked
      cases same
      rcases Handler.bind_error.mp rest with stopped | ⟨root, t₁, -, rest⟩
      · exact insertInternal_error stopped
      · cases rest
  constructor
  · intro same
    cases root : t.root with
    | none => rfl
    | some index =>
        obtain ⟨empty, node, present, there⟩ := came.taken index root
        obtain ⟨found, before⟩ := lookUp_nil_of_present root present there
        have after := lookUp_nil_of_empty (came.emptied.root.trans root) empty
        rw [same.lookUp, before] at after
        cases after
  · intro unset
    rw [came.untouched unset]
    exact ⟨fun _ _ => rfl, fun _ _ => rfl⟩

end Fails

end DigitTrie

end Arena

end P2PLending.Trie
