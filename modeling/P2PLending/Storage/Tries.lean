import P2PLending.Messages.ExactEncodings

/-! The tries of a numerical contract as they are stored. A trie is an arena of nodes that refer
to each other by their place in it; for storage each node is taken apart to its data, its part
of the path and its children, and a leaf is a node without children. -/

namespace P2PLending.Storage

open Messages

/-- `write_usize`, `read_usize` -/
def usize : Wire UInt64 := u64

theorem usize_exact : usize.Exact fun _ => True := u64_exact

def ShortList {α : Type} (l : List α) : Prop := l.length ≤ maxVecSize.toNat

theorem vec_exact_plain {α : Type} {c : Wire α} (each : c.Exact fun _ => True) :
    (vec c).Exact ShortList :=
  (vec_exact each).iff fun l => by simp [VecFits, ShortList]

structure RangeInfo where
  cetIndex : UInt64
  adaptorIndex : UInt64
  deriving DecidableEq, Repr

structure OracleNumericInfo where
  base : UInt64
  nbDigits : List UInt64
  deriving DecidableEq, Repr

structure TrieNodeInfo where
  trieIndex : UInt64
  storeIndex : UInt64
  deriving DecidableEq, Repr

/-- A node of an arena between two insertions: the empty node stands there only within one. -/
inductive Node (L N : Type)
  | leaf (l : L)
  | node (n : N)
  deriving DecidableEq, Repr

structure DigitLeaf (T : Type) where
  data : T
  nodePrefix : List UInt64
  deriving DecidableEq, Repr

structure DigitNode (T : Type) where
  children : List (Option UInt64)
  nodePrefix : List UInt64
  data : Option T
  deriving DecidableEq, Repr

structure DigitTrie (T : Type) where
  store : List (Node (DigitLeaf T) (DigitNode T))
  root : Option UInt64
  base : UInt64
  deriving DecidableEq, Repr

abbrev MultiTrieNode (T : Type) := Node (DigitTrie T) (DigitTrie (List TrieNodeInfo))

structure MultiTrie (T : Type) where
  store : List (MultiTrieNode T)
  nbTries : UInt64
  nbRequired : UInt64
  minSupportExp : UInt64
  maxErrorExp : UInt64
  maximizeCoverage : Bool
  oracleNumericInfos : OracleNumericInfo
  deriving DecidableEq, Repr

structure MultiOracleTrie where
  digitTrie : DigitTrie (List RangeInfo)
  threshold : UInt64
  oracleNumericInfos : OracleNumericInfo
  extraCoverTrie : Option (MultiTrie RangeInfo)
  deriving DecidableEq, Repr

structure MultiOracleTrieWithDiff where
  multiTrie : MultiTrie RangeInfo
  oracleNumericInfos : OracleNumericInfo
  deriving DecidableEq, Repr

/-! What a trie is taken apart to. -/

structure DigitNodeData (T : Type) where
  data : Option T
  nodePrefix : List UInt64
  children : Option (List (Option UInt64))
  deriving DecidableEq, Repr

structure DigitTrieDump (T : Type) where
  nodeData : List (DigitNodeData T)
  root : Option UInt64
  base : UInt64
  deriving DecidableEq, Repr

inductive MultiTrieNodeData (T : Type)
  | leaf (l : DigitTrieDump T)
  | node (n : DigitTrieDump (List TrieNodeInfo))
  deriving DecidableEq, Repr

structure MultiTrieDump (T : Type) where
  nodeData : List (MultiTrieNodeData T)
  nbTries : UInt64
  nbRequired : UInt64
  minSupportExp : UInt64
  maxErrorExp : UInt64
  maximizeCoverage : Bool
  oracleNumericInfos : OracleNumericInfo
  deriving DecidableEq, Repr

structure MultiOracleTrieDump where
  digitTrieDump : DigitTrieDump (List RangeInfo)
  threshold : UInt64
  oracleNumericInfos : OracleNumericInfo
  extraCoverTrieDump : Option (MultiTrieDump RangeInfo)
  deriving DecidableEq, Repr

structure MultiOracleTrieWithDiffDump where
  multiTrieDump : MultiTrieDump RangeInfo
  oracleNumericInfos : OracleNumericInfo
  deriving DecidableEq, Repr

/-! `dump` and `from_dump`. That a leaf has data is not checked but unwrapped: `none` is the
panic there. -/

variable {T : Type}

namespace Node

def getData : Node (DigitLeaf T) (DigitNode T) → DigitNodeData T
  | leaf l => { data := some l.data, nodePrefix := l.nodePrefix, children := none }
  | node n => { data := n.data, nodePrefix := n.nodePrefix, children := some n.children }

def fromData (d : DigitNodeData T) : Option (Node (DigitLeaf T) (DigitNode T)) :=
  match d.children with
  | some c => some (node { children := c, nodePrefix := d.nodePrefix, data := d.data })
  | none => d.data.map fun data => leaf { data, nodePrefix := d.nodePrefix }

theorem getData_restores : Restores (getData (T := T)) fromData where
  restored n := by cases n <;> rfl
  dumped := by
    intro d n whole
    unfold fromData at whole
    split at whole
    next c children =>
      cases whole
      rw [getData, ← children]
    next children =>
      obtain ⟨data, is, rfl⟩ := Option.map_eq_some_iff.mp whole
      rw [getData, ← is, ← children]

end Node

namespace DigitTrie

def dump (t : DigitTrie T) : DigitTrieDump T where
  nodeData := t.store.map Node.getData
  root := t.root
  base := t.base

def fromDump (d : DigitTrieDump T) : Option (DigitTrie T) := do
  let store ← d.nodeData.mapM Node.fromData
  return { store, root := d.root, base := d.base }

theorem dump_restores : Restores (dump (T := T)) fromDump where
  restored t := by
    rw [fromDump, dump, Node.getData_restores.list.restored]
    rfl
  dumped := by
    intro d t whole
    obtain ⟨store, read, rest⟩ := Option.bind_eq_some_iff.mp whole
    cases rest
    rw [dump, Node.getData_restores.list.dumped read]

end DigitTrie

namespace MultiTrieNode

def getData : MultiTrieNode T → MultiTrieNodeData T
  | .leaf l => .leaf l.dump
  | .node n => .node n.dump

def fromData : MultiTrieNodeData T → Option (MultiTrieNode T)
  | .leaf l => (DigitTrie.fromDump l).map Node.leaf
  | .node n => (DigitTrie.fromDump n).map Node.node

theorem getData_restores : Restores (getData (T := T)) fromData where
  restored n := by
    cases n with
    | leaf l => rw [getData, fromData, DigitTrie.dump_restores.restored, Option.map_some]
    | node n => rw [getData, fromData, DigitTrie.dump_restores.restored, Option.map_some]
  dumped := by
    intro d n whole
    cases d with
    | leaf l =>
        obtain ⟨t, read, rfl⟩ := Option.map_eq_some_iff.mp whole
        rw [getData, DigitTrie.dump_restores.dumped read]
    | node n =>
        obtain ⟨t, read, rfl⟩ := Option.map_eq_some_iff.mp whole
        rw [getData, DigitTrie.dump_restores.dumped read]

end MultiTrieNode

namespace MultiTrie

def dump (t : MultiTrie T) : MultiTrieDump T where
  nodeData := t.store.map MultiTrieNode.getData
  nbTries := t.nbTries
  nbRequired := t.nbRequired
  minSupportExp := t.minSupportExp
  maxErrorExp := t.maxErrorExp
  maximizeCoverage := t.maximizeCoverage
  oracleNumericInfos := t.oracleNumericInfos

def fromDump (d : MultiTrieDump T) : Option (MultiTrie T) := do
  let store ← d.nodeData.mapM MultiTrieNode.fromData
  return {
    store, nbTries := d.nbTries, nbRequired := d.nbRequired, minSupportExp := d.minSupportExp,
    maxErrorExp := d.maxErrorExp, maximizeCoverage := d.maximizeCoverage,
    oracleNumericInfos := d.oracleNumericInfos }

theorem dump_restores : Restores (dump (T := T)) fromDump where
  restored t := by
    rw [fromDump, dump, MultiTrieNode.getData_restores.list.restored]
    rfl
  dumped := by
    intro d t whole
    obtain ⟨store, read, rest⟩ := Option.bind_eq_some_iff.mp whole
    cases rest
    rw [dump, MultiTrieNode.getData_restores.list.dumped read]

end MultiTrie

namespace MultiOracleTrie

def dump (t : MultiOracleTrie) : MultiOracleTrieDump where
  digitTrieDump := t.digitTrie.dump
  threshold := t.threshold
  oracleNumericInfos := t.oracleNumericInfos
  extraCoverTrieDump := t.extraCoverTrie.map MultiTrie.dump

def fromDump (d : MultiOracleTrieDump) : Option MultiOracleTrie := do
  let digitTrie ← DigitTrie.fromDump d.digitTrieDump
  let extraCoverTrie ← d.extraCoverTrieDump.elim (some none) fun t => some <$> MultiTrie.fromDump t
  return {
    digitTrie, threshold := d.threshold, oracleNumericInfos := d.oracleNumericInfos,
    extraCoverTrie }

theorem dump_restores : Restores dump fromDump where
  restored t := by
    have extra := MultiTrie.dump_restores.option.restored t.extraCoverTrie
    rw [fromDump, dump, DigitTrie.dump_restores.restored, extra]
    rfl
  dumped := by
    intro d t whole
    obtain ⟨digitTrie, read, rest⟩ := Option.bind_eq_some_iff.mp whole
    obtain ⟨extra, readExtra, last⟩ := Option.bind_eq_some_iff.mp rest
    cases last
    rw [dump, DigitTrie.dump_restores.dumped read, MultiTrie.dump_restores.option.dumped readExtra]

end MultiOracleTrie

namespace MultiOracleTrieWithDiff

def dump (t : MultiOracleTrieWithDiff) : MultiOracleTrieWithDiffDump where
  multiTrieDump := t.multiTrie.dump
  oracleNumericInfos := t.oracleNumericInfos

def fromDump (d : MultiOracleTrieWithDiffDump) : Option MultiOracleTrieWithDiff := do
  let multiTrie ← MultiTrie.fromDump d.multiTrieDump
  return { multiTrie, oracleNumericInfos := d.oracleNumericInfos }

theorem dump_restores : Restores dump fromDump where
  restored t := by
    rw [fromDump, dump, MultiTrie.dump_restores.restored]
    rfl
  dumped := by
    intro d t whole
    obtain ⟨multiTrie, read, rest⟩ := Option.bind_eq_some_iff.mp whole
    cases rest
    rw [dump, MultiTrie.dump_restores.dumped read]

end MultiOracleTrieWithDiff

/-! The encodings: the fields one after the other. -/

namespace RangeInfo

def wire : Wire RangeInfo :=
  (usize.pair usize).map (fun r => (r.cetIndex, r.adaptorIndex))
    fun (cetIndex, adaptorIndex) => { cetIndex, adaptorIndex }

theorem exact : wire.Exact fun _ => True :=
  ((usize_exact.pair usize_exact).mapped (fun _ => rfl) fun _ => rfl).iff fun _ => by simp

end RangeInfo

namespace TrieNodeInfo

def wire : Wire TrieNodeInfo :=
  (usize.pair usize).map (fun i => (i.trieIndex, i.storeIndex))
    fun (trieIndex, storeIndex) => { trieIndex, storeIndex }

theorem exact : wire.Exact fun _ => True :=
  ((usize_exact.pair usize_exact).mapped (fun _ => rfl) fun _ => rfl).iff fun _ => by simp

end TrieNodeInfo

namespace OracleNumericInfo

def wire : Wire OracleNumericInfo :=
  (usize.pair (vec usize)).map (fun i => (i.base, i.nbDigits))
    fun (base, nbDigits) => { base, nbDigits }

def Fits (i : OracleNumericInfo) : Prop := ShortList i.nbDigits

theorem exact : wire.Exact Fits :=
  ((usize_exact.pair (vec_exact_plain usize_exact)).mapped (fun _ => rfl) fun _ => rfl).iff
    fun _ => by simp [Fits]

end OracleNumericInfo

namespace DigitNodeData

def wire (c : Wire T) : Wire (DigitNodeData T) :=
  ((option c).pair <| (vec usize).pair <| option (vec (option usize))).map
    (fun d => (d.data, d.nodePrefix, d.children))
    fun (data, nodePrefix, children) => { data, nodePrefix, children }

structure Fits (fits : T → Prop) (d : DigitNodeData T) : Prop where
  data : ∀ a ∈ d.data, fits a
  nodePrefix : ShortList d.nodePrefix
  children : ∀ l ∈ d.children, ShortList l

theorem exact {c : Wire T} {fits : T → Prop} (each : c.Exact fits) : (wire c).Exact (Fits fits) := by
  have children : (option usize).Exact fun _ => True :=
    (option_exact usize_exact).iff fun _ => by simp
  exact (((option_exact each).pair <| (vec_exact_plain usize_exact).pair <|
    option_exact (vec_exact_plain children)).mapped (fun _ => rfl) fun _ => rfl).iff
    fun _ => ⟨fun h => ⟨h.1, h.2.1, h.2.2⟩, fun h => ⟨h.1, h.2, h.3⟩⟩

end DigitNodeData

namespace DigitTrieDump

def wire (c : Wire T) : Wire (DigitTrieDump T) :=
  ((vec (DigitNodeData.wire c)).pair <| (option usize).pair usize).map
    (fun d => (d.nodeData, d.root, d.base)) fun (nodeData, root, base) => { nodeData, root, base }

def Fits (fits : T → Prop) (d : DigitTrieDump T) : Prop :=
  VecFits (DigitNodeData.Fits fits) d.nodeData

theorem exact {c : Wire T} {fits : T → Prop} (each : c.Exact fits) : (wire c).Exact (Fits fits) :=
  (((vec_exact (DigitNodeData.exact each)).pair <| (option_exact usize_exact).pair
    usize_exact).mapped (fun _ => rfl) fun _ => rfl).iff fun _ => by simp [Fits]

end DigitTrieDump

/-- `digit_trie_dump_vec_range` -/
def digitTrieDumpVecRange : Wire (DigitTrieDump (List RangeInfo)) :=
  DigitTrieDump.wire (vec RangeInfo.wire)

/-- `digit_trie_dump_range` -/
def digitTrieDumpRange : Wire (DigitTrieDump RangeInfo) := DigitTrieDump.wire RangeInfo.wire

/-- `digit_trie_dump_trie` -/
def digitTrieDumpTrie : Wire (DigitTrieDump (List TrieNodeInfo)) :=
  DigitTrieDump.wire (vec TrieNodeInfo.wire)

theorem digitTrieDumpVecRange_exact : digitTrieDumpVecRange.Exact (DigitTrieDump.Fits ShortList) :=
  DigitTrieDump.exact (vec_exact_plain RangeInfo.exact)

theorem digitTrieDumpRange_exact :
    digitTrieDumpRange.Exact (DigitTrieDump.Fits fun _ => True) :=
  DigitTrieDump.exact RangeInfo.exact

theorem digitTrieDumpTrie_exact : digitTrieDumpTrie.Exact (DigitTrieDump.Fits ShortList) :=
  DigitTrieDump.exact (vec_exact_plain TrieNodeInfo.exact)

namespace MultiTrieNodeData

def wire : Wire (MultiTrieNodeData RangeInfo) where
  write
    | leaf l => u8.write 0 ++ digitTrieDumpRange.write l
    | node n => u8.write 1 ++ digitTrieDumpTrie.write n
  read := do
    let id ← u8.read
    if id = 0 then leaf <$> digitTrieDumpRange.read
    else if id = 1 then node <$> digitTrieDumpTrie.read
    else throw .unknownRequiredFeature

def Fits : MultiTrieNodeData RangeInfo → Prop
  | leaf l => l.Fits fun _ => True
  | node n => n.Fits ShortList

theorem exact : wire.Exact Fits where
  roundTrips := by
    intro d fits
    cases d with
    | leaf l => exact (u8_roundTrips 0).bind (digitTrieDumpRange_exact.roundTrips fits).map
    | node n => exact (u8_roundTrips 1).bind (digitTrieDumpTrie_exact.roundTrips fits).map
  yields := Yields.skip fun _ =>
    Yields.ite (fun _ => Yields.map digitTrieDumpRange_exact.yields) fun _ =>
    Yields.ite (fun _ => Yields.map digitTrieDumpTrie_exact.yields) fun _ => .throw _

end MultiTrieNodeData

namespace MultiTrieDump

def wire : Wire (MultiTrieDump RangeInfo) :=
  ((vec MultiTrieNodeData.wire).pair <| usize.pair <| usize.pair <| usize.pair <| usize.pair <|
    bool.pair OracleNumericInfo.wire).map
    (fun d => (d.nodeData, d.nbTries, d.nbRequired, d.minSupportExp, d.maxErrorExp,
      d.maximizeCoverage, d.oracleNumericInfos))
    fun (nodeData, nbTries, nbRequired, minSupportExp, maxErrorExp, maximizeCoverage,
      oracleNumericInfos) =>
    { nodeData, nbTries, nbRequired, minSupportExp, maxErrorExp, maximizeCoverage,
      oracleNumericInfos }

structure Fits (d : MultiTrieDump RangeInfo) : Prop where
  nodeData : VecFits MultiTrieNodeData.Fits d.nodeData
  oracleNumericInfos : d.oracleNumericInfos.Fits

theorem exact : wire.Exact Fits :=
  (((vec_exact MultiTrieNodeData.exact).pair <| usize_exact.pair <| usize_exact.pair <|
    usize_exact.pair <| usize_exact.pair <| bool_exact.pair OracleNumericInfo.exact).mapped
    (fun _ => rfl) fun _ => rfl).iff fun _ =>
    ⟨fun h => ⟨h.1, h.2.2.2.2.2.2⟩, fun h =>
      ⟨h.1, trivial, trivial, trivial, trivial, trivial, h.2⟩⟩

end MultiTrieDump

namespace MultiOracleTrieDump

def wire : Wire MultiOracleTrieDump :=
  (digitTrieDumpVecRange.pair <| usize.pair <| OracleNumericInfo.wire.pair <|
    option MultiTrieDump.wire).map
    (fun d => (d.digitTrieDump, d.threshold, d.oracleNumericInfos, d.extraCoverTrieDump))
    fun (digitTrieDump, threshold, oracleNumericInfos, extraCoverTrieDump) =>
    { digitTrieDump, threshold, oracleNumericInfos, extraCoverTrieDump }

structure Fits (d : MultiOracleTrieDump) : Prop where
  digitTrieDump : d.digitTrieDump.Fits ShortList
  oracleNumericInfos : d.oracleNumericInfos.Fits
  extraCoverTrieDump : ∀ t ∈ d.extraCoverTrieDump, t.Fits

theorem exact : wire.Exact Fits :=
  ((digitTrieDumpVecRange_exact.pair <| usize_exact.pair <| OracleNumericInfo.exact.pair <|
    option_exact MultiTrieDump.exact).mapped (fun _ => rfl) fun _ => rfl).iff fun _ =>
    ⟨fun h => ⟨h.1, h.2.2.1, h.2.2.2⟩, fun h => ⟨h.1, trivial, h.2, h.3⟩⟩

end MultiOracleTrieDump

namespace MultiOracleTrieWithDiffDump

def wire : Wire MultiOracleTrieWithDiffDump :=
  (MultiTrieDump.wire.pair OracleNumericInfo.wire).map
    (fun d => (d.multiTrieDump, d.oracleNumericInfos))
    fun (multiTrieDump, oracleNumericInfos) => { multiTrieDump, oracleNumericInfos }

structure Fits (d : MultiOracleTrieWithDiffDump) : Prop where
  multiTrieDump : d.multiTrieDump.Fits
  oracleNumericInfos : d.oracleNumericInfos.Fits

theorem exact : wire.Exact Fits :=
  ((MultiTrieDump.exact.pair OracleNumericInfo.exact).mapped (fun _ => rfl) fun _ => rfl).iff
    fun _ => ⟨fun h => ⟨h.1, h.2⟩, fun h => ⟨h.1, h.2⟩⟩

end MultiOracleTrieWithDiffDump

/-- `write_multi_oracle_trie`, `read_multi_oracle_trie`. What is read is put together at once;
the panic there is a value that is not read. -/
def multiOracleTrie : Wire MultiOracleTrie :=
  MultiOracleTrieDump.wire.through MultiOracleTrie.dump MultiOracleTrie.fromDump .invalidValue

/-- `write_multi_oracle_trie_with_diff`, `read_multi_oracle_trie_with_diff` -/
def multiOracleTrieWithDiff : Wire MultiOracleTrieWithDiff :=
  MultiOracleTrieWithDiffDump.wire.through MultiOracleTrieWithDiff.dump
    MultiOracleTrieWithDiff.fromDump .invalidValue

theorem multiOracleTrie_exact : multiOracleTrie.Exact fun t => t.dump.Fits :=
  MultiOracleTrieDump.exact.through MultiOracleTrie.dump_restores _

theorem multiOracleTrieWithDiff_exact : multiOracleTrieWithDiff.Exact fun t => t.dump.Fits :=
  MultiOracleTrieWithDiffDump.exact.through MultiOracleTrieWithDiff.dump_restores _

end P2PLending.Storage
