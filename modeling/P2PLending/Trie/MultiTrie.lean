import P2PLending.Dlc.Combinations
import P2PLending.Trie.DigitTrie
import P2PLending.Trie.OutcomeCombinations

/-! Tries of tries. A trie over the digits of one oracle holds, at each path, tries over the digits
of the next oracle, and the last ones hold the values. As in a trie of digits, the nodes hold each
other where those of the source refer to their places in a store. -/

namespace P2PLending.Trie

open Dlc (Result Fault)

structure OracleNumericInfo where
  base : ℕ
  nbDigits : List ℕ
  deriving DecidableEq, Repr

namespace OracleNumericInfo
variable (info : OracleNumericInfo)

def getMinNbDigits : Result ℕ :=
  match info.nbDigits.min? with
  | some n => .ok n
  | none => .error (.panic "called `Option::unwrap()` on a `None` value")

def hasDiffNbDigits : Bool :=
  (info.nbDigits.drop 1).any fun x => some x ≠ info.nbDigits.head?

/-- The digits of the oracles of a selection. -/
def selected (selector : List ℕ) : List ℕ :=
  (info.nbDigits.zipIdx.filter fun x => x.2 ∈ selector).map Prod.fst

end OracleNumericInfo

/-- The counters that the loop goes through, those of the first oracle changing first. -/
def coveringCounters : (maxes : List ℕ) → List (List ℕ)
  | [] => [[]]
  | max :: maxes => (coveringCounters maxes).flatMap fun counters =>
      (List.range' (min max 1) (max + 1 - min max 1)).map (· :: counters)

/-- The greatest value for an oracle with the fewest digits, else zeros and a one. -/
def coveringPath (minNbDigits counter : ℕ) : List ℕ :=
  if counter = 0 then List.replicate minNbDigits 1 else List.replicate (counter - 1) 0 ++ [1]

def coveringPaths (minNbDigits : ℕ) (combination counters : List ℕ) : List (ℕ × List ℕ) :=
  (counters.zip combination).map fun x => (x.2, coveringPath minNbDigits x.1)

/-- The turn of the loop for a combination. -/
def OracleNumericInfo.coveringPathsFor (info : OracleNumericInfo) (minNbDigits : ℕ)
    (combination : List ℕ) : List (List (ℕ × List ℕ)) :=
  let infos := info.selected combination
  if infos.all fun x => x = minNbDigits then []
  else (coveringCounters (infos.map (· - minNbDigits))).map (coveringPaths minNbDigits combination)

def getMaxCoveringPaths (info : OracleNumericInfo) (threshold : ℕ) :
    Result (List (List (ℕ × List ℕ))) := do
  let minNbDigits ← info.getMinNbDigits
  let combinations ← Dlc.combinations info.nbDigits.length threshold
  return combinations.flatMap (info.coveringPathsFor minNbDigits)

variable {T S : Type}

/-- The tries below a path are held with the indexes of their oracles. -/
inductive MultiTrieNode (T : Type)
  | leaf (trie : DigitNode T)
  | node (trie : DigitNode (List (ℕ × MultiTrieNode T)))

def findStoreIndex (children : List (ℕ × MultiTrieNode T)) (trieIndex : ℕ) :
    Option (MultiTrieNode T) :=
  (children.find? fun info => info.1 = trieIndex).map Prod.snd

namespace MultiTrieNode

def new (isLeaf : Bool) : MultiTrieNode T := if isLeaf then .leaf .none else .node .none

/-- The child takes the place of the one with its index, or comes last. -/
def putChild (children : List (ℕ × MultiTrieNode T)) (trieIndex : ℕ) (child : MultiTrieNode T) :
    List (ℕ × MultiTrieNode T) :=
  if trieIndex ∈ children.map Prod.fst then
    children.map fun info => if info.1 = trieIndex then (trieIndex, child) else info
  else children ++ [(trieIndex, child)]

/-- The paths are the node's own and those after it, the indexes those after its own. The source
goes on in the child after it has inserted the child's place, here it is done on the way. -/
def insertInternal (base : ℕ) (value : T) :
    MultiTrieNode T → (paths : List (List ℕ)) → (trieIndexes : List ℕ) → Result (MultiTrieNode T)
  | .leaf trie, [path], _ => do return .leaf (← trie.insert base path fun _ => .ok value)
  | .node trie, path :: next :: paths, index :: indexes => do
      let trie ← trie.insert base path fun children => do
        let children := children.getD []
        let child := (findStoreIndex children index).getD (new paths.isEmpty)
        let child ← insertInternal base value child (next :: paths) indexes
        return putChild children index child
      return .node trie
  | .node _, _ :: _ :: _, [] => .error (.panic outOfBounds)
  | .node _, _, _ => .error (.panic "assertion failed: path_index < paths.len() - 1")
  | .leaf _, _, _ => .error (.panic "assertion `left == right` failed")

end MultiTrieNode

structure MultiTrie (T : Type) where
  /-- Of the store, the tries of the oracles that can come first. -/
  roots : List (MultiTrieNode T)
  nbTries : ℕ
  nbRequired : ℕ
  minSupportExp : ℕ
  maxErrorExp : ℕ
  maximizeCoverage : Bool
  oracleNumericInfos : OracleNumericInfo

/-- `FnMut(&[Vec<usize>], &[usize])`, with the state that it changes. -/
abbrev GetValue (S T : Type) := List (List ℕ) → List ℕ → S → Result (T × S)

/-- The place of the first oracle with the fewest digits, which is moved to the front. -/
def reorderToMinFirst (oracleDigitInfos : List ℕ) : Result (ℕ × List ℕ) :=
  match oracleDigitInfos.min? with
  | none => .error (.panic "called `Option::unwrap()` on a `None` value")
  | some least =>
      let minIndex := oracleDigitInfos.findIdx (· = least)
      .ok (minIndex, least :: oracleDigitInfos.eraseIdx minIndex)

namespace MultiTrie

def new (info : OracleNumericInfo) (nbRequired minSupportExp maxErrorExp : ℕ)
    (maximizeCoverage : Bool) : Result (MultiTrie T) := do
  let nbTries := info.nbDigits.length
  Checked.ensure (0 < nbRequired ∧ nbRequired ≤ nbTries ∧ info.nbDigits ≠ [])
    (.panic "assertion failed: nb_required > 0 && nb_tries >= nb_required")
  return {
    roots := List.replicate (nbTries - nbRequired + 1) (MultiTrieNode.new (nbRequired ≤ 1))
    nbTries := nbTries
    nbRequired := nbRequired
    minSupportExp := minSupportExp
    maxErrorExp := maxErrorExp
    maximizeCoverage := maximizeCoverage
    oracleNumericInfos := info }

/-- `insert_internal` from the trie of the first oracle. -/
def insertPaths (getValue : GetValue S T) (t : MultiTrie T × S)
    (indexed : List ℕ × List (List ℕ)) : Result (MultiTrie T × S) :=
  match indexed.1 with
  | [] => .error (.panic outOfBounds)
  | index :: indexes =>
      match t.1.roots[index]? with
      | none => .error (.panic outOfBounds)
      | some root => do
          let (value, s) ← getValue indexed.2 indexed.1 t.2
          let root ← root.insertInternal t.1.oracleNumericInfos.base value indexed.2 indexes
          return ({ t.1 with roots := t.1.roots.set index root }, s)

def insertMaxPaths (t : MultiTrie T) (getValue : GetValue S T) (s : S) :
    Result (MultiTrie T × S) := do
  let indexedPaths ← getMaxCoveringPaths t.oracleNumericInfos t.nbRequired
  (indexedPaths.map List.unzip).foldlM (insertPaths getValue) (t, s)

/-- The combinations of paths of a selection for the path of a group. -/
def combinationsFor (t : MultiTrie T) (path selector : List ℕ) :
    Result (List (List (List ℕ))) :=
  if 1 < t.nbRequired then do
    let minNbDigits ← t.oracleNumericInfos.getMinNbDigits
    let (minIndex, digitInfos) ← reorderToMinFirst (t.oracleNumericInfos.selected selector)
    match digitInfos with
    | [] => .error (.panic outOfBounds)
    | fewest :: _ => do
        let toPad ← usizeSub fewest minNbDigits
        let paddedPath ← prePadVec path (path.length + toPad)
        let combinations ← computeOutcomeCombinations digitInfos paddedPath t.maxErrorExp
          t.minSupportExp t.maximizeCoverage
        return combinations.map fun combination =>
          (combination.drop 1).insertIdx minIndex (combination.headD [])
  else .ok [[path]]

/-- What is inserted for the path of a group, for one selection after the other. -/
def indexedPaths (t : MultiTrie T) (path : List ℕ) : Result (List (List ℕ × List (List ℕ))) := do
  let selectors ← Dlc.combinations t.nbTries t.nbRequired
  let indexed ← selectors.mapM fun selector => do
    return (← t.combinationsFor path selector).map fun combination => (selector, combination)
  return indexed.flatten

def insert (t : MultiTrie T) (getValue : GetValue S T) (path : List ℕ) (s : S) :
    Result (MultiTrie T × S) := do
  let indexed ← t.indexedPaths path
  indexed.foldlM (insertPaths getValue) (t, s)

end MultiTrie

end P2PLending.Trie
