import P2PLending.Trie.ArenaDigitTrie
import P2PLending.Trie.MultiTrieIter
import P2PLending.Trie.MultiTrieLookUp

/-! Tries of tries in their arena. The nodes refer to each other by their places in the store. The
trie of digits that a node holds goes with the node when an insertion into it fails, so that its own
store does not matter here. -/

namespace P2PLending.Trie

namespace Arena

open Dlc (Result Fault Error)

variable {T S A : Type}

structure TrieNodeInfo where
  trieIndex : ℕ
  storeIndex : ℕ
  deriving DecidableEq, Repr

abbrev MultiTrieNode (T : Type) := Node (Trie.DigitNode T) (Trie.DigitNode (List TrieNodeInfo))

structure MultiTrie (T : Type) where
  store : List (MultiTrieNode T)
  nbTries : ℕ
  nbRequired : ℕ
  minSupportExp : ℕ
  maxErrorExp : ℕ
  maximizeCoverage : Bool
  oracleNumericInfos : OracleNumericInfo

def newNode (isLeaf : Bool) : MultiTrieNode T := if isLeaf then .leaf .none else .node .none

def findStoreIndex (children : List TrieNodeInfo) (trieIndex : ℕ) : Option ℕ :=
  (children.find? fun info => trieIndex = info.trieIndex).map TrieNodeInfo.storeIndex

namespace MultiTrie

def new (info : OracleNumericInfo) (nbRequired minSupportExp maxErrorExp : ℕ)
    (maximizeCoverage : Bool) : Result (MultiTrie T) := do
  let nbTries := info.nbDigits.length
  Checked.ensure (0 < nbRequired ∧ nbRequired ≤ nbTries ∧ info.nbDigits ≠ [])
    (.panic "assertion failed: nb_required > 0 && nb_tries >= nb_required")
  return {
    store := List.replicate (nbTries - nbRequired + 1) (newNode (nbRequired ≤ 1))
    nbTries := nbTries
    nbRequired := nbRequired
    minSupportExp := minSupportExp
    maxErrorExp := maxErrorExp
    maximizeCoverage := maximizeCoverage
    oracleNumericInfos := info }

def nbRoots (t : MultiTrie T) : ℕ := t.nbTries - t.nbRequired + 1

def base (t : MultiTrie T) : ℕ := t.oracleNumericInfos.base

/-- All of a trie but its store, from which the combinations of paths come. -/
def settings (t : MultiTrie T) : Trie.MultiTrie T where
  roots := []
  nbTries := t.nbTries
  nbRequired := t.nbRequired
  minSupportExp := t.minSupportExp
  maxErrorExp := t.maxErrorExp
  maximizeCoverage := t.maximizeCoverage
  oracleNumericInfos := t.oracleNumericInfos

/-! Insertion. -/

/-- A stage of an insertion, with the state that the callback changes. -/
abbrev Stage (T S A : Type) := Handler (MultiTrie T × S) (Fault Error) A

def panic (message : String) : Stage T S A := .lift (.error (.panic message))

def takeOut (index : ℕ) : Stage T S (MultiTrieNode T) := fun t =>
  match swapRemove t.1.store index with
  | .ok (node, store) => (.ok node, { t.1 with store }, t.2)
  | .error fault => (.error fault, t)

def putBack (index : ℕ) (node : MultiTrieNode T) : Stage T S Unit :=
  .modify fun t => ({ t.1 with store := t.1.store.set index node }, t.2)

def insertNew (isLeaf : Bool) : Stage T S Unit :=
  .modify fun t => ({ t.1 with store := t.1.store ++ [newNode isLeaf] }, t.2)

/-- The insertion into the last trie, which asks for the value. -/
def insertValue (value : S → Result (T × S)) (path : List ℕ) (curIndex : ℕ)
    (trie : Trie.DigitNode T) : Stage T S Unit := do
  let trie ← Handler.read fun t =>
    trie.insert t.1.base path fun _ => (value t.2).map Prod.fst
  let s ← Handler.read fun t => (value t.2).map Prod.snd
  Handler.modify fun t => (t.1, s)
  putBack curIndex (.leaf trie)

/-- What the callback makes of the children at a path: those to keep there, and the place of the
next trie unless it is a new one. -/
def enter (fresh next : ℕ) (curData : Option (List TrieNodeInfo)) :
    List TrieNodeInfo × Option ℕ :=
  match curData.bind fun children => findStoreIndex children next with
  | some storeIndex => (curData.getD [], some storeIndex)
  | none => (curData.getD [] ++ [⟨next, fresh⟩], none)

/-- The insertion into a trie on the way, with the place of the next one. The callback is called
once, with what the trie holds at the path. -/
def insertChild (path : List ℕ) (isLeaf : Bool) (next curIndex : ℕ)
    (trie : Trie.DigitNode (List TrieNodeInfo)) : Stage T S ℕ := do
  let fresh ← Handler.read fun t => .ok t.1.store.length
  let inserted ← Handler.read fun t =>
    trie.insert t.1.base path fun curData => .ok (enter fresh next curData).1
  match (enter fresh next (trie.find path)).2 with
  | some storeIndex => do
      putBack curIndex (.node inserted)
      return storeIndex
  | none => do
      insertNew isLeaf
      putBack curIndex (.node inserted)
      return fresh

/-- The paths and indexes are those from the node's own path on and after its own index. -/
def insertInternal (value : S → Result (T × S)) :
    (paths : List (List ℕ)) → (trieIndexes : List ℕ) → (curNodeIndex : ℕ) → Stage T S Unit
  | [], _, _ => panic "assertion failed: path_index < paths.len()"
  | path :: paths, trieIndexes, curNodeIndex => do
      let curNode ← takeOut curNodeIndex
      match curNode with
      | .none => panic unreachable
      | .leaf trie =>
          if paths = [] then insertValue value path curNodeIndex trie
          else panic "assertion `left == right` failed"
      | .node trie =>
          if paths = [] then panic "assertion failed: path_index < paths.len() - 1"
          else
            match trieIndexes with
            | [] => panic outOfBounds
            | next :: indexes => do
                let storeIndex ← insertChild path (paths.length = 1) next curNodeIndex trie
                insertInternal value paths indexes storeIndex

/-- `insert_internal` from the trie of the first oracle. -/
def insertPaths (getValue : GetValue S T) (indexed : List ℕ × List (List ℕ)) : Stage T S Unit :=
  match indexed.1 with
  | [] => panic outOfBounds
  | index :: indexes => insertInternal (getValue indexed.2 indexed.1) indexed.2 indexes index

def insertMaxPaths (getValue : GetValue S T) : Stage T S Unit := do
  let indexedPaths ← Handler.read fun t =>
    getMaxCoveringPaths t.1.oracleNumericInfos t.1.nbRequired
  Handler.forEach (insertPaths getValue) (indexedPaths.map List.unzip)

/-- The combinations of paths of a selection, one after the other. -/
def insertSelected (getValue : GetValue S T) (path selector : List ℕ) : Stage T S Unit := do
  let combinations ← Handler.read fun t => t.1.settings.combinationsFor path selector
  Handler.forEach (fun combination => insertPaths getValue (selector, combination)) combinations

def insert (getValue : GetValue S T) (path : List ℕ) : Stage T S Unit := do
  let selectors ← Handler.read fun t => Dlc.combinations t.1.nbTries t.1.nbRequired
  Handler.forEach (insertSelected getValue path) selectors

/-! Looking up. -/

/-- What is found first below the children that these paths have for the next oracle. -/
def firstFound (index next : ℕ) (below : ℕ → Result (Option (Found T))) :
    List (List ℕ × List TrieNodeInfo) → Result (Option (Found T))
  | [] => .ok none
  | (path, children) :: results =>
      match findStoreIndex children next with
      | none => firstFound index next below results
      | some storeIndex => do
          match ← below storeIndex with
          | none => firstFound index next below results
          | some found => .ok (some (found.1, (index, path) :: found.2))

def nodeAt (t : MultiTrie T) (index : ℕ) : Result (MultiTrieNode T) :=
  match t.store[index]? with
  | some node => .ok node
  | none => .error (.panic outOfBounds)

theorem nodeAt_eq_ok {t : MultiTrie T} {index : ℕ} {node : MultiTrieNode T} :
    t.nodeAt index = .ok node ↔ t.store[index]? = some node := by
  rw [nodeAt]
  cases t.store[index]? with
  | none => simp
  | some other => simp

/-- `look_up_internal`, with the paths from the node's own on. -/
def lookUpInternal (t : MultiTrie T) :
    (paths : List (ℕ × List ℕ)) → MultiTrieNode T → Result (Option (Found T))
  | [], _ => .error (.panic "assertion failed: path_index < paths.len()")
  | _ :: _, .none => .error (.panic unreachable)
  | (index, path) :: _, .leaf trie => do
      match ← trie.lookUp t.base path with
      | none => .ok none
      | some [] => .error (.panic outOfBounds)
      | some (x :: _) => .ok (some (x.2, [(index, x.1)]))
  | [_], .node _ => .error (.panic "assertion failed: path_index < paths.len() - 1")
  | (index, path) :: (next, path') :: rest, .node trie => do
      match ← trie.lookUp t.base path with
      | none => .ok none
      | some results =>
          firstFound index next
            (fun storeIndex => do
              let node ← t.nodeAt storeIndex
              lookUpInternal t ((next, path') :: rest) node) results

/-- The selections whose first oracle has no root are passed over. -/
def lookUpSelected (t : MultiTrie T) (paths : List (ℕ × List ℕ)) :
    (selectors : List (List ℕ)) → Result (Option (Found T))
  | [] => .ok none
  | selector :: selectors =>
      match selector.head?.bind fun i => paths[i]? with
      | none => .error (.panic outOfBounds)
      | some first =>
          if t.nbRoots ≤ first.1 then t.lookUpSelected paths selectors
          else do
            let root ← t.nodeAt first.1
            match ← t.lookUpInternal (selectedPaths paths selector) root with
            | some found => .ok (some found)
            | none => t.lookUpSelected paths selectors

def lookUp (t : MultiTrie T) (paths : List (ℕ × List ℕ)) : Result (Option (Found T)) :=
  if paths.length < t.nbRequired then .ok none
  else do
    let selectors ← Dlc.combinations paths.length t.nbRequired
    t.lookUpSelected paths selectors

end MultiTrie

/-! The iterator. -/

/-- The stacks have their top first. A list of children comes with its path and with how many
have been visited. -/
structure MultiTrieIterator (T : Type) where
  nodeStack : List (ℕ × Trie.DigitTrieIter (List TrieNodeInfo))
  trieInfoIter : List (List ℕ × ℕ × List TrieNodeInfo)
  leafIter : List (ℕ × Trie.DigitTrieIter T)
  curPath : List (ℕ × List ℕ)

namespace MultiTrieIterator

/-- What a call gives: an item or the end, and the iterator after it. -/
abbrev Returned (T : Type) := Result (Option (List (ℕ × List ℕ) × T) × MultiTrieIterator T)

def empty : MultiTrieIterator T where
  nodeStack := []
  trieInfoIter := []
  leafIter := []
  curPath := []

/-- An iterator for a root, on top of the others. -/
def pushRoot (t : MultiTrie T) (index : ℕ) (it : MultiTrieIterator T) :
    MultiTrieNode T → Result (MultiTrieIterator T)
  | .node trie =>
      if 1 < t.nbRequired then .ok { it with nodeStack := (index, .new trie) :: it.nodeStack }
      else .error (.panic unreachable)
  | .leaf trie =>
      if 1 < t.nbRequired then .error (.panic unreachable)
      else .ok { it with leafIter := (index, .new trie) :: it.leafIter }
  | .none => .error (.panic unreachable)

/-- The first root comes on top. -/
def pushRoots (t : MultiTrie T) : (roots : List ℕ) → Result (MultiTrieIterator T)
  | [] => .ok empty
  | index :: roots => do
      let it ← pushRoots t roots
      let node ← t.nodeAt index
      pushRoot t index it node

def new (t : MultiTrie T) : Result (MultiTrieIterator T) := pushRoots t (List.range t.nbRoots)

/-- The next path of the last trie on the way, whose children are then visited. -/
def visitNode (base room : ℕ) (next : MultiTrieIterator T → Returned T)
    (it : MultiTrieIterator T) : Returned T :=
  match it.nodeStack with
  | [] => .ok (none, it)
  | (index, digits) :: nodes =>
      match digits.next base room with
      | none => .error (.panic stackOverflow)
      | some (none, _) => next { it with nodeStack := nodes }
      | some (some (path, children), digits) =>
          next { it with
            nodeStack := (index, digits) :: nodes
            trieInfoIter := (path, 0, children) :: it.trieInfoIter }

/-- The path on the way when a child is visited: for the first one, the node's path comes to it. -/
def pathInto (it : MultiTrieIterator T) (path : List ℕ) (visited : ℕ) :
    Result (List (ℕ × List ℕ)) :=
  if visited = 0 then
    match it.nodeStack with
    | [] => .error (.panic "called `Option::unwrap()` on a `None` value")
    | node :: _ => .ok ((node.1, path) :: it.curPath)
  else .ok it.curPath

/-- A child is visited, given the rest of its siblings. -/
def enterChild (base room : ℕ) (next : MultiTrieIterator T → Returned T)
    (it : MultiTrieIterator T) (index : ℕ) : MultiTrieNode T → Returned T
  | .none => .error (.panic unreachable)
  | .node trie =>
      visitNode base room next { it with nodeStack := (index, .new trie) :: it.nodeStack }
  | .leaf trie => next { it with leafIter := (index, .new trie) :: it.leafIter }

def next (t : MultiTrie T) : (room : ℕ) → MultiTrieIterator T → Returned T
  | 0, _ => .error (.panic stackOverflow)
  | room + 1, it =>
      match it.leafIter with
      | (index, digits) :: leaves =>
          match digits.next t.base room with
          | none => .error (.panic stackOverflow)
          | some (some (path, value), digits) =>
              .ok (some (it.curPath.reverse ++ [(index, path)], value),
                { it with leafIter := (index, digits) :: leaves })
          | some (none, _) => next t room { it with leafIter := leaves }
      | [] =>
          match it.trieInfoIter with
          | [] => visitNode t.base room (next t room) it
          | (_, _, []) :: infos =>
              visitNode t.base room (next t room)
                { it with trieInfoIter := infos, curPath := it.curPath.tail }
          | (path, i, info :: children) :: infos =>
              match pathInto it path i, t.nodeAt info.storeIndex with
              | .error fault, _ => .error fault
              | .ok _, .error fault => .error fault
              | .ok curPath, .ok node =>
                  enterChild t.base room (next t room)
                    { it with trieInfoIter := (path, i + 1, children) :: infos, curPath }
                    info.trieIndex node

end MultiTrieIterator

namespace MultiTrie

/-- The first calls of an iterator over the trie. -/
def iterate (t : MultiTrie T) (room count : ℕ) :
    List (List (ℕ × List ℕ) × T) × Option (Except (Fault Error) Unit) :=
  match MultiTrieIterator.new t with
  | .error fault => ([], some (.error fault))
  | .ok it => calls (MultiTrieIterator.next t room) count it

/-- The tries cannot be told apart. -/
structure SameAnswers (t t' : MultiTrie T) : Prop where
  lookUp : ∀ paths, t'.lookUp paths = t.lookUp paths
  iterate : ∀ room count, t'.iterate room count = t.iterate room count

end MultiTrie

end Arena

end P2PLending.Trie
