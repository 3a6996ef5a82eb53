import P2PLending.Trie.Decomposition

/-! The combinations of digit prefixes of several oracles whose outcomes are close enough to that
of the first, the one with the fewest digits. Intervals are computed in base two. -/

namespace P2PLending.Trie

open Dlc (Result Fault u64Limit)

/-- `1 << exp` -/
def usizeShl (exp : ℕ) : Result ℕ :=
  if exp < 64 then .ok (2 ^ exp) else .error (.panic "attempt to shift left with overflow")

def prePadVec (input : List ℕ) (expectedSize : ℕ) : Result (List ℕ) :=
  if input.length = expectedSize then .ok input
  else do
    let zeros ← usizeSub expectedSize input.length
    return List.replicate zeros 0 ++ input

def adjustPrefixSize (pre : List ℕ) (nbDigits suffixLen : ℕ) : Result (Option (List ℕ)) := do
  let expectedLen ← usizeSub nbDigits suffixLen
  if pre.length ≤ expectedLen then return some (← prePadVec pre expectedLen)
  else
    let extra := pre.length - expectedLen
    if ∀ x ∈ pre.take extra, x = 0 then return some (pre.drop extra) else return none

def computeIntervalFromPrefix (pre : List ℕ) (numDigits base : ℕ) : Result (ℕ × ℕ) := do
  let suffixLen ← usizeSub numDigits pre.length
  let start ← composeValue base (pre ++ List.replicate suffixLen 0)
  let stop ← composeValue base (pre ++ List.replicate suffixLen (base - 1))
  return (start, stop)

def numToVec (input nbDigits ignoredDigits base : ℕ) : Result (List ℕ) := do
  let decomposed ← decomposeValue input base nbDigits
  let toTake ← usizeSub decomposed.length ignoredDigits
  return decomposed.take toTake

def computeMinSupportCoveringPrefix (start stop minSupport minNbDigits : ℕ) :
    Result (List ℕ) := do
  let leftBound ← usizeSub start minSupport
  let rightBound ← usizeAdd stop minSupport
  let leftBound ← decomposeValue leftBound 2 minNbDigits
  let rightBound ← decomposeValue rightBound 2 minNbDigits
  return ((leftBound.zip rightBound).takeWhile fun x => x.1 = x.2).map Prod.fst

/-- The prefix without the digits of the error, with those of them that are `digit`. -/
def coveringPrefix (bound maxErrorExp nbDigits digit : ℕ) : Result (List ℕ) := do
  let bound ← decomposeValue bound 2 nbDigits
  let at' ← usizeSub nbDigits maxErrorExp
  return bound.take at' ++ (bound.drop at').takeWhile fun x => x = digit

def computeLeftCoveringPrefix (start maxErrorExp minSupport nbDigits : ℕ) : Result (List ℕ) := do
  let leftBound ← usizeSub start minSupport
  coveringPrefix leftBound maxErrorExp nbDigits 1

def computeRightCoveringPrefix (stop maxErrorExp minSupport nbDigits : ℕ) : Result (List ℕ) := do
  let leftBound ← usizeAdd stop minSupport
  coveringPrefix leftBound maxErrorExp nbDigits 0

def unwrapAdjusted (adjusted : Option (List ℕ)) : Result (List ℕ) :=
  match adjusted with
  | some pre => .ok pre
  | none => .error (.panic Dlc.unwrapPanic)

def singleCoveringPrefixCombinations (mainOutcomePrefix secondaryOutcomesPrefix : List ℕ)
    (oracleDigitsInfos : List ℕ) (suffixLen : ℕ) : Result (List (List ℕ)) := do
  let secondary ← (oracleDigitsInfos.drop 1).mapM fun nbDigits => do
    let longer ← usizeSub mainOutcomePrefix.length secondaryOutcomesPrefix.length
    let suffix ← usizeAdd longer suffixLen
    unwrapAdjusted (← adjustPrefixSize secondaryOutcomesPrefix nbDigits suffix)
  match oracleDigitsInfos with
  | [] => .error (.panic "index out of bounds")
  | nbDigits :: _ =>
      let main ← unwrapAdjusted (← adjustPrefixSize mainOutcomePrefix nbDigits suffixLen)
      return main :: secondary

/-- The sizes are adjusted up to the first that cannot be. -/
def adjustAll (outcomeLen : ℕ) : List (List ℕ × ℕ) → Result (Option (List (List ℕ)))
  | [] => .ok (some [])
  | (x, nbDigits) :: rest => do
      let suffix ← usizeSub outcomeLen x.length
      match ← adjustPrefixSize x nbDigits suffix with
      | none => return none
      | some adjusted => return (← adjustAll outcomeLen rest).map (adjusted :: ·)

/-- The numbers below `1 << (nb_oracles - 1)`, which is negative for its greatest argument. -/
def coveringChoices (nbOthers : ℕ) : Result (List ℕ) :=
  if nbOthers < 31 then .ok (List.range (2 ^ nbOthers))
  else if nbOthers = 31 then .ok []
  else .error (.panic "attempt to shift left with overflow")

def doubleCoveringPrefixCombinations (mainOutcomePrefix leftIntervalPrefix rightIntervalPrefix :
    List ℕ) (oracleDigitsInfos : List ℕ) (suffixLen : ℕ) : Result (List (List (List ℕ))) := do
  let nbOthers ← usizeSub oracleDigitsInfos.length 1
  let (first, second) :=
    if rightIntervalPrefix < leftIntervalPrefix then (rightIntervalPrefix, leftIntervalPrefix)
    else (leftIntervalPrefix, rightIntervalPrefix)
  let choices ← coveringChoices nbOthers
  let res ← choices.mapM fun i => do
    let others := (List.range nbOthers).map fun j => if i.testBit j then second else first
    let outcomeLen ← usizeAdd mainOutcomePrefix.length suffixLen
    adjustAll outcomeLen ((mainOutcomePrefix :: others.reverse).zip oracleDigitsInfos)
  return res.filterMap id

def doubleCoveringRestrictedPrefixCombinations (mainOutcomePrefix otherIntervalPrefix : List ℕ)
    (oracleDigitsInfos : List ℕ) (suffixLen : ℕ) : Result (List (List (List ℕ))) := do
  let combinations ← doubleCoveringPrefixCombinations mainOutcomePrefix mainOutcomePrefix
    otherIntervalPrefix oracleDigitsInfos suffixLen
  if otherIntervalPrefix < mainOutcomePrefix then
    let _ ← usizeSub combinations.length 1
    return combinations.dropLast
  else return combinations.drop 1

/-- The parameters of one selection of oracles. -/
structure Coverage where
  oracleDigitsInfos : List ℕ
  mainOutcomePrefix : List ℕ
  minNumDigits : ℕ
  maxNum : ℕ
  maxErrorExp : ℕ
  minSupportExp : ℕ
  suffixLen : ℕ
  start : ℕ
  stop : ℕ
  maximizeCoverage : Bool

namespace Coverage
variable (c : Coverage)

/-- The prefix for the most coverage, or for no more than the support. -/
def covering (most least : Result (List ℕ)) : Result (List ℕ) :=
  if c.maximizeCoverage then most else least

def single (secondary : List ℕ) : Result (List (List (List ℕ))) := do
  let combination ← singleCoveringPrefixCombinations c.mainOutcomePrefix secondary
    c.oracleDigitsInfos c.suffixLen
  return [combination]

/-- The interval is smaller than the error that is allowed. -/
def withinError (maxError halfMaxError minSupport : ℕ) : Result (List (List (List ℕ))) := do
  let startMaxErrorSuffix := c.start &&& (maxError - 1)
  let leftBound := c.start >>> c.maxErrorExp <<< c.maxErrorExp
  let rightBound := leftBound ||| (maxError - 1)
  let errorIntervalPrefix ← numToVec leftBound c.minNumDigits c.maxErrorExp 2
  let rightLimit ← usizeSub rightBound minSupport
  if minSupport ≤ startMaxErrorSuffix ∧ c.stop ≤ rightLimit then do
    let supportIntervalPrefix ← c.covering (.ok errorIntervalPrefix)
      (computeMinSupportCoveringPrefix c.start c.stop minSupport c.minNumDigits)
    c.single supportIntervalPrefix
  else if startMaxErrorSuffix < minSupport then do
    let rightIntervalPrefix ← c.covering (.ok errorIntervalPrefix)
      (computeRightCoveringPrefix c.stop c.maxErrorExp minSupport c.minNumDigits)
    if leftBound = 0 then c.single rightIntervalPrefix
    else do
      let leftIntervalPrefix ← c.covering
        (do numToVec (← usizeSub leftBound halfMaxError) c.minNumDigits (c.maxErrorExp - 1) 2)
        (computeLeftCoveringPrefix c.start c.maxErrorExp minSupport c.minNumDigits)
      doubleCoveringPrefixCombinations c.mainOutcomePrefix rightIntervalPrefix leftIntervalPrefix
        c.oracleDigitsInfos c.suffixLen
  else if rightLimit < c.stop then do
    let leftIntervalPrefix ← c.covering (.ok errorIntervalPrefix)
      (computeLeftCoveringPrefix c.start c.maxErrorExp minSupport c.minNumDigits)
    if rightBound = c.maxNum then c.single leftIntervalPrefix
    else do
      let rightIntervalPrefix ← c.covering
        (do numToVec (← usizeAdd rightBound 1) c.minNumDigits (c.maxErrorExp - 1) 2)
        (computeRightCoveringPrefix c.stop c.maxErrorExp minSupport c.minNumDigits)
      doubleCoveringPrefixCombinations c.mainOutcomePrefix leftIntervalPrefix rightIntervalPrefix
        c.oracleDigitsInfos c.suffixLen
  else .error (.panic "internal error: entered unreachable code")

/-- The outcomes of the interval with those of the one before it or after it. -/
def beside (ownBound otherBound ignoredDigits : ℕ) : Result (List (List (List ℕ))) := do
  let rightIntervalPrefix ← numToVec ownBound c.minNumDigits ignoredDigits 2
  let leftIntervalPrefix ← numToVec otherBound c.minNumDigits ignoredDigits 2
  let suffixLen ← usizeSub c.minNumDigits rightIntervalPrefix.length
  doubleCoveringRestrictedPrefixCombinations rightIntervalPrefix leftIntervalPrefix
    c.oracleDigitsInfos suffixLen

def before (width ignoredDigits : ℕ) : Result (List (List (List ℕ))) :=
  if c.start = 0 then .ok []
  else do c.beside c.start (← usizeSub c.start width) ignoredDigits

def after (width ignoredDigits : ℕ) : Result (List (List (List ℕ))) :=
  if c.stop = c.maxNum then .ok []
  else do
    let last ← usizeSub c.stop width
    let last ← usizeAdd last 1
    let next ← usizeAdd c.stop 1
    c.beside last next ignoredDigits

/-- The interval is at least as large as the error that is allowed. -/
def pastError (halfMaxError minSupport : ℕ) : Result (List (List (List ℕ))) := do
  let width := if c.maximizeCoverage then halfMaxError else minSupport
  let ignoredDigits := if c.maximizeCoverage then c.maxErrorExp - 1 else c.minSupportExp
  let before ← c.before width ignoredDigits
  let same ← c.single c.mainOutcomePrefix
  let after ← c.after width ignoredDigits
  return before ++ same ++ after

end Coverage

def computeOutcomeCombinations (oracleDigitsInfos mainOutcomePrefix : List ℕ)
    (maxErrorExp minSupportExp : ℕ) (maximizeCoverage : Bool) :
    Result (List (List (List ℕ))) := do
  Checked.ensure (1 < oracleDigitsInfos.length ∧ minSupportExp < maxErrorExp)
    (.panic "assertion failed: nb_oracles > 1 && max_error_exp > min_support_exp")
  match oracleDigitsInfos with
  | [] => .error (.panic "index out of bounds")
  | minNumDigits :: others => do
      let same := others.all fun x => x = minNumDigits
      let minNumDigits ← usizeAdd minNumDigits (if same then 0 else 1)
      let mainOutcomePrefix := if same then mainOutcomePrefix else 0 :: mainOutcomePrefix
      let maxNum ← usizeShl minNumDigits
      let maxError ← usizeShl maxErrorExp
      let minSupport ← usizeShl minSupportExp
      let suffixLen ← usizeSub minNumDigits mainOutcomePrefix.length
      let (start, stop) ← computeIntervalFromPrefix mainOutcomePrefix minNumDigits 2
      let c : Coverage :=
        { oracleDigitsInfos := oracleDigitsInfos
          mainOutcomePrefix := mainOutcomePrefix
          minNumDigits := minNumDigits
          maxNum := maxNum - 1
          maxErrorExp := maxErrorExp
          minSupportExp := minSupportExp
          suffixLen := suffixLen
          start := start
          stop := stop
          maximizeCoverage := maximizeCoverage }
      if suffixLen < maxErrorExp then c.withinError maxError (maxError / 2) minSupport
      else c.pastError (maxError / 2) minSupport

end P2PLending.Trie
