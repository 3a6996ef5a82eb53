import P2PLending.Manager.ContractDescriptors
import P2PLending.Trie.MultiTrieIter

/-! The tries over the outcomes of several oracles. When they have to agree, a trie of digits
holds the infos of all selections at once, and a trie of tries covers the values past those of the
oracle with the fewest digits; when they may differ, a trie of tries holds everything. -/

namespace P2PLending.Trie

open Dlc (Result Fault)
open Manager (RangeInfo)
open Manager.Infos (RangePayout TrieIterInfo)

/-- The adaptor index that is next and the infos so far. -/
structure Progress where
  adaptorIndex : ℕ
  trieInfos : List TrieIterInfo

def Progress.start (adaptorIndexStart : ℕ) : Progress where
  adaptorIndex := adaptorIndexStart
  trieInfos := []

def getValueCallback (cetIndex : ℕ) : GetValue Progress RangeInfo := fun paths oracleIndexes p => do
  let rangeInfo : RangeInfo := { cetIndex := cetIndex, adaptorIndex := p.adaptorIndex }
  let iterInfo : TrieIterInfo := { indexes := oracleIndexes, paths := paths, value := rangeInfo }
  let adaptorIndex ← usizeAdd p.adaptorIndex 1
  return (rangeInfo, { adaptorIndex := adaptorIndex, trieInfos := p.trieInfos ++ [iterInfo] })

/-- The callback for the values past the largest range. -/
def getLastValue (outcomes : List RangePayout) : GetValue Progress RangeInfo :=
  fun paths oracleIndexes p => do
    let cetIndex ← usizeSub outcomes.length 1
    getValueCallback cetIndex paths oracleIndexes p

/-- The prefixes of the digits that the values of a range start with. -/
def rangeGroups (info : OracleNumericInfo) (outcome : RangePayout) : Result (List (List ℕ)) :=
  if outcome.count = 0 then .error (.err .invalidArgument)
  else do
    let minNbDigits ← info.getMinNbDigits
    let past ← usizeAdd outcome.start outcome.count
    let stop ← usizeSub past 1
    groupByIgnoringDigits outcome.start stop info.base minNbDigits

structure MultiOracleTrie where
  digitTrie : DigitNode (List RangeInfo)
  threshold : ℕ
  oracleNumericInfos : OracleNumericInfo
  extraCoverTrie : Option (MultiTrie RangeInfo)

namespace MultiOracleTrie

/-- The support and the error do not matter for the values that are out of bounds. -/
def newExtraCoverTrie (info : OracleNumericInfo) (threshold : ℕ) :
    Result (Option (MultiTrie RangeInfo)) :=
  if info.hasDiffNbDigits then do return some (← MultiTrie.new info threshold 1 2 true)
  else .ok none

def new (info : OracleNumericInfo) (threshold : ℕ) : Result MultiOracleTrie := do
  Checked.ensure (info.nbDigits ≠ []) (.err .invalidArgument)
  let extra ← newExtraCoverTrie info threshold
  return {
    digitTrie := .none
    threshold := threshold
    oracleNumericInfos := info
    extraCoverTrie := extra }

/-- The path of a group for each oracle of a selection. -/
def groupPaths (info : OracleNumericInfo) (group selector : List ℕ) :
    Result (List (List ℕ)) := do
  let minNbDigits ← info.getMinNbDigits
  (info.selected selector).mapM fun nbDigits => do
    let expectedLen ← usizeSub (group.length + nbDigits) minNbDigits
    prePadVec group expectedLen

/-- `get_value`, for one selection. -/
def coverSelector (info : OracleNumericInfo) (cetIndex : ℕ) (group : List ℕ)
    (s : List RangeInfo × Progress) (selector : List ℕ) : Result (List RangeInfo × Progress) := do
  let rangeInfo : RangeInfo := { cetIndex := cetIndex, adaptorIndex := s.2.adaptorIndex }
  let adaptorIndex ← usizeAdd s.2.adaptorIndex 1
  let paths ← groupPaths info group selector
  let trieInfo : TrieIterInfo := { indexes := selector, paths := paths, value := rangeInfo }
  return (s.1 ++ [rangeInfo],
    { adaptorIndex := adaptorIndex, trieInfos := s.2.trieInfos ++ [trieInfo] })

def insertGroup (cetIndex : ℕ) (s : MultiOracleTrie × Progress) (group : List ℕ) :
    Result (MultiOracleTrie × Progress) := do
  let info := s.1.oracleNumericInfos
  let selectors ← Dlc.combinations info.nbDigits.length s.1.threshold
  let (rangeInfos, p) ← selectors.foldlM (coverSelector info cetIndex group) ([], s.2)
  let digitTrie ← s.1.digitTrie.insert info.base group fun _ => .ok rangeInfos
  return ({ s.1 with digitTrie := digitTrie }, p)

def insertRange (s : MultiOracleTrie × Progress) (outcome : RangePayout × ℕ) :
    Result (MultiOracleTrie × Progress) := do
  let groups ← rangeGroups s.1.oracleNumericInfos outcome.1
  groups.foldlM (insertGroup outcome.2) s

def coverLastValues (outcomes : List RangePayout) (s : MultiOracleTrie × Progress) :
    Result (MultiOracleTrie × Progress) :=
  match s.1.extraCoverTrie with
  | none => .ok s
  | some extra => do
      let (extra, p) ← extra.insertMaxPaths (getLastValue outcomes) s.2
      return ({ s.1 with extraCoverTrie := some extra }, p)

def generate (t : MultiOracleTrie) (adaptorIndexStart : ℕ) (outcomes : List RangePayout) :
    Result (MultiOracleTrie × List TrieIterInfo) := do
  let s ← outcomes.zipIdx.foldlM insertRange (t, .start adaptorIndexStart)
  let (t, p) ← coverLastValues outcomes s
  return (t, p.trieInfos)

end MultiOracleTrie

structure MultiOracleTrieWithDiff where
  multiTrie : MultiTrie RangeInfo
  oracleNumericInfos : OracleNumericInfo

namespace MultiOracleTrieWithDiff

def new (info : OracleNumericInfo) (threshold minSupportExp maxErrorExp : ℕ) :
    Result MultiOracleTrieWithDiff := do
  let nbOracles := info.nbDigits.length
  Checked.ensure (1 ≤ nbOracles ∧ threshold ≤ nbOracles ∧ minSupportExp < maxErrorExp)
    (.err .invalidArgument)
  let multiTrie ← MultiTrie.new info threshold minSupportExp maxErrorExp true
  return { multiTrie := multiTrie, oracleNumericInfos := info }

def insertRange (info : OracleNumericInfo) (s : MultiTrie RangeInfo × Progress)
    (outcome : RangePayout × ℕ) : Result (MultiTrie RangeInfo × Progress) := do
  let groups ← rangeGroups info outcome.1
  groups.foldlM (fun s group => s.1.insert (getValueCallback outcome.2) group s.2) s

def coverLastValues (info : OracleNumericInfo) (outcomes : List RangePayout)
    (s : MultiTrie RangeInfo × Progress) : Result (MultiTrie RangeInfo × Progress) :=
  if info.hasDiffNbDigits then s.1.insertMaxPaths (getLastValue outcomes) s.2 else .ok s

def generate (t : MultiOracleTrieWithDiff) (adaptorIndexStart : ℕ) (outcomes : List RangePayout) :
    Result (MultiOracleTrieWithDiff × List TrieIterInfo) := do
  let s ← outcomes.zipIdx.foldlM (insertRange t.oracleNumericInfos)
    (t.multiTrie, .start adaptorIndexStart)
  let (multiTrie, p) ← coverLastValues t.oracleNumericInfos outcomes s
  return ({ t with multiTrie := multiTrie }, p.trieInfos)

end MultiOracleTrieWithDiff

end P2PLending.Trie
