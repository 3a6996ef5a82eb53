import P2PLending.Manager.ContractMessages

/-! Payout curves of numerical contracts: pieces between points, evaluated at every outcome
in double precision, rounded by intervals and gathered into ranges of one payout. The
arithmetic of doubles and the tries over digits are parameters. -/

namespace P2PLending.Manager.Infos
open Dlc Checked

/-- Double-precision numbers, as far as a curve is evaluated with them. -/
structure Floats where
  F64 : Type
  ofU64 : ℕ → F64
  toU64 : F64 → ℕ
  add : F64 → F64 → F64
  sub : F64 → F64 → F64
  mul : F64 → F64 → F64
  div : F64 → F64 → F64
  rem : F64 → F64 → F64
  neg : F64 → F64
  sqrt : F64 → F64
  powi : F64 → ℕ → F64
  round : F64 → F64
  isSignNegative : F64 → Bool
  isNormal : F64 → Bool
  eq : F64 → F64 → Bool
  lt : F64 → F64 → Bool
  ge : F64 → F64 → Bool
  display : F64 → String

structure PayoutPoint where
  eventOutcome : ℕ
  outcomePayout : ℕ
  extraPrecision : ℕ
  deriving DecidableEq, Repr

structure RoundingInterval where
  beginInterval : ℕ
  roundingMod : ℕ
  deriving DecidableEq, Repr

abbrev RoundingIntervals := List RoundingInterval

/-- `expect` of an option. -/
def expectSome {α : Type} (message : String) : Option α → Result α
  | some a => .ok a
  | none => .error (.panic message)

@[simp] theorem expectSome_eq_ok {α : Type} {message : String} {o : Option α} {a : α} :
    expectSome message o = .ok a ↔ o = some a := by
  cases o <;> simp [expectSome]

section Curve
variable (F : Floats)

structure HyperbolaPayoutCurvePiece where
  leftEndPoint : PayoutPoint
  rightEndPoint : PayoutPoint
  usePositivePiece : Bool
  translateOutcome : F.F64
  translatePayout : F.F64
  a : F.F64
  b : F.F64
  c : F.F64
  d : F.F64

inductive PayoutFunctionPiece
  | polynomialPayoutCurvePiece (payoutPoints : List PayoutPoint)
  | hyperbolaPayoutCurvePiece (piece : HyperbolaPayoutCurvePiece F)

abbrev PayoutFunction := List (PayoutFunctionPiece F)

structure NumericalDescriptor where
  payoutFunction : PayoutFunction F
  roundingIntervals : RoundingIntervals
  differenceParams : Option DifferenceParams
  oracleNumericInfos : OracleNumericInfo

end Curve

variable {F : Floats}

namespace PayoutFunctionPiece

def getFirstPoint : PayoutFunctionPiece F → Result PayoutPoint
  | polynomialPayoutCurvePiece points => index points 0
  | hyperbolaPayoutCurvePiece h => .ok h.leftEndPoint

def getLastPoint : PayoutFunctionPiece F → Result PayoutPoint
  | polynomialPayoutCurvePiece points => unwrapSome points.getLast?
  | hyperbolaPayoutCurvePiece h => .ok h.rightEndPoint

end PayoutFunctionPiece

/-- The ends of neighbouring pieces are compared up to the first that differ. -/
def isContinuous : PayoutFunction F → Result Bool
  | cur :: next :: pieces => do
      let last ← cur.getLastPoint
      let first ← next.getFirstPoint
      if last = first then isContinuous (next :: pieces) else .ok false
  | _ => .ok true

/-- A curve that starts with a hyperbola may start anywhere. -/
def startsAtZero : PayoutFunctionPiece F → Result Bool
  | .polynomialPayoutCurvePiece points => do
      let first ← expectSome "to have at least a point" points.head?
      .ok (first.eventOutcome = 0)
  | .hyperbolaPayoutCurvePiece _ => .ok true

def finishesAtMax (maxValue : ℕ) : PayoutFunctionPiece F → Result Bool
  | .polynomialPayoutCurvePiece points => do
      let last ← expectSome "to have at least a point" points.getLast?
      .ok (last.eventOutcome = maxValue)
  | .hyperbolaPayoutCurvePiece h => .ok (h.rightEndPoint.eventOutcome = maxValue)

def PayoutFunction.validate (f : PayoutFunction F) (maxValue : ℕ) : Result Unit := do
  let continuous ← isContinuous f
  ensure (continuous = true) (.err (.invalidParameters "Payout function is not continuous."))
  let first ← expectSome "to have at least one piece" f.head?
  let starts ← startsAtZero first
  let last ← expectSome "to have at least one piece" f.getLast?
  let finishes ← finishesAtMax maxValue last
  ensure ((starts && finishes) = true)
    (.err (.invalidParameters "Payout function doesn't cover all the possible outcomes."))

namespace RoundingIntervals

/-- Whether each interval begins after the one before it. -/
def increasing : (cur : ℕ) → RoundingIntervals → Bool
  | _, [] => true
  | cur, x :: rest => cur < x.beginInterval && increasing x.beginInterval rest

def validate (intervals : RoundingIntervals) : Result Unit :=
  match intervals with
  | [] => .error (.err (.invalidParameters "Empty rounding intervals."))
  | first :: rest => do
      ensure (first.beginInterval = 0)
        (.err (.invalidParameters "Rounding interval doesn't start at 0."))
      ensure (increasing first.beginInterval rest = true)
        (.err (.invalidParameters
          "Rounding intervals being value are not strictly increasing"))

/-- The modulus of the last interval that begins at or before the outcome. -/
def modulus (intervals : RoundingIntervals) (outcome : ℕ) : Result ℕ :=
  match (intervals.takeWhile fun x => x.beginInterval ≤ outcome).getLast? with
  | some interval => .ok interval.roundingMod
  | none => unreachable

def round (F : Floats) (intervals : RoundingIntervals) (outcome : ℕ) (payout : F.F64) :
    Result ℕ := do
  let modulus ← intervals.modulus outcome
  let roundingMod := F.ofU64 modulus
  let m := if F.ge payout (F.ofU64 0) then F.rem payout roundingMod
    else F.add (F.rem payout roundingMod) roundingMod
  .ok (if F.ge m (F.div roundingMod (F.ofU64 2)) then
      F.toU64 (F.round (F.sub (F.add payout roundingMod) m))
    else F.toU64 (F.round (F.sub payout m)))

end RoundingIntervals

/-- A subtraction of outcomes. -/
def outcomeSub (a b : ℕ) : Result ℕ :=
  Checked.sub (.panic "attempt to subtract with overflow") a b

/-- An addition of outcomes or of their number. -/
def outcomeAdd (a b : ℕ) : Result ℕ :=
  Checked.add u64Limit (.panic "attempt to add with overflow") a b

def PayoutPoint.getOutcomePayout (F : Floats) (p : PayoutPoint) : F.F64 :=
  F.add (F.ofU64 p.outcomePayout) (F.div (F.ofU64 p.extraPrecision) (F.ofU64 (2 ^ 16)))

/-- The line through two points; it is constant without any subtraction. -/
def evaluateLine (F : Floats) (left right : PayoutPoint) (outcome : ℕ) : Result F.F64 :=
  if left.outcomePayout = right.outcomePayout then .ok (F.ofU64 right.outcomePayout) else do
    let width ← outcomeSub right.eventOutcome left.eventOutcome
    let slope := F.div (F.sub (F.ofU64 right.outcomePayout) (F.ofU64 left.outcomePayout))
      (F.ofU64 width)
    let distance ← outcomeSub outcome left.eventOutcome
    .ok (F.add (F.mul (F.ofU64 distance) slope) (F.ofU64 left.outcomePayout))

/-- One factor of the term of point `i`. -/
def lagrangeFactor (F : Floats) (outcome : ℕ) (i : ℕ × PayoutPoint) (l : F.F64)
    (j : ℕ × PayoutPoint) : Result F.F64 :=
  if i.1 = j.1 then .ok l else do
    ensure (i.2.eventOutcome ≠ j.2.eventOutcome) (.panic
      "assertion failed: self.payout_points[i].event_outcome != self.payout_points[j].event_outcome")
    let jOutcome := F.ofU64 j.2.eventOutcome
    let denominator := F.sub (F.ofU64 i.2.eventOutcome) jOutcome
    let numerator := F.sub (F.ofU64 outcome) jOutcome
    .ok (F.mul l (F.div numerator denominator))

/-- The polynomial through all the points, whose outcomes are asserted to differ. -/
def evaluateLagrange (F : Floats) (points : List PayoutPoint) (outcome : ℕ) : Result F.F64 :=
  let indexed := points.zipIdx.map Prod.swap
  indexed.foldlM (fun result i => do
    let l ← indexed.foldlM (lagrangeFactor F outcome i) (i.2.getOutcomePayout F)
    .ok (F.add result l)) (F.ofU64 0)

def HyperbolaPayoutCurvePiece.evaluate (h : HyperbolaPayoutCurvePiece F) (outcome : ℕ) : F.F64 :=
  let translatedOutcome := F.sub (F.ofU64 outcome) h.translateOutcome
  let sqrtTermAbsVal := F.sqrt (F.sub (F.powi translatedOutcome 2)
    (F.mul (F.mul (F.ofU64 4) h.a) h.b))
  let sqrtTerm := if h.usePositivePiece then sqrtTermAbsVal else F.neg sqrtTermAbsVal
  let firstTerm := F.div (F.mul h.c (F.add translatedOutcome sqrtTerm)) (F.mul (F.ofU64 2) h.a)
  let secondTerm := F.div (F.mul (F.mul (F.ofU64 2) h.a) h.d) (F.add translatedOutcome sqrtTerm)
  F.add (F.add firstTerm secondTerm) h.translatePayout

namespace PayoutFunctionPiece

def evaluate (piece : PayoutFunctionPiece F) (outcome : ℕ) : Result F.F64 :=
  match piece with
  | polynomialPayoutCurvePiece [left, right] => evaluateLine F left right outcome
  | polynomialPayoutCurvePiece points => evaluateLagrange F points outcome
  | hyperbolaPayoutCurvePiece h => .ok (h.evaluate outcome)

def getFirstOutcome (piece : PayoutFunctionPiece F) : Result ℕ := do
  let first ← piece.getFirstPoint
  .ok first.eventOutcome

def getLastOutcome (piece : PayoutFunctionPiece F) : Result ℕ := do
  let last ← piece.getLastPoint
  .ok last.eventOutcome

variable (piece : PayoutFunctionPiece F) (rounding : RoundingIntervals) (totalCollateral : ℕ)

/-- The payout is never more than the total, whatever the rounding. -/
def getRoundedPayout (outcome : ℕ) : Result ℕ := do
  let payout ← piece.evaluate outcome
  ensure (F.isSignNegative payout = false ∧
      (F.eq payout (F.ofU64 0) = true ∨ F.isNormal payout = true))
    (.err (.invalidParameters ("Could not evaluate function for outcome " ++ toString outcome ++
      ", result was: " ++ F.display payout)))
  ensure (F.lt (F.ofU64 totalCollateral) (F.round payout) = false)
    (.err (.invalidParameters "Computed payout is greater than total collateral"))
  let rounded ← rounding.round F outcome payout
  .ok (min rounded totalCollateral)

/-- A range of one outcome. -/
def newRange (outcome payout : ℕ) : Result RangePayout := do
  let accept ← ofDlc (amountSub totalCollateral payout)
  .ok ⟨outcome, 1, ⟨payout, accept⟩⟩

/-- The last range so far, or a first one, with the ranges before it. -/
def getCurRange (ranges : List RangePayout) : Result (RangePayout × List RangePayout) :=
  match ranges.getLast? with
  | some cur => .ok (cur, ranges.dropLast)
  | none => do
      let firstOutcome ← piece.getFirstOutcome
      let firstPayout ← piece.getRoundedPayout rounding totalCollateral firstOutcome
      let cur ← newRange totalCollateral firstOutcome firstPayout
      .ok (cur, [])

/-- An outcome of the payout of the current range belongs to it. -/
def extendRanges (ranges : RangePayout × List RangePayout) (outcome : ℕ) :
    Result (RangePayout × List RangePayout) := do
  let payout ← piece.getRoundedPayout rounding totalCollateral outcome
  ensure (payout ≤ totalCollateral)
    (.err (.invalidParameters "Computed payout is greater than total collateral."))
  if ranges.1.payout.offer = payout then do
    let count ← outcomeAdd ranges.1.count 1
    .ok ({ ranges.1 with count }, ranges.2)
  else do
    let cur ← newRange totalCollateral outcome payout
    .ok (cur, ranges.2 ++ [ranges.1])

def computeRangePayouts (ranges : List RangePayout) : Result (List RangePayout) := do
  let firstOutcome ← piece.getFirstOutcome
  let cur ← piece.getCurRange rounding totalCollateral ranges
  let lastOutcome ← piece.getLastOutcome
  let rangeEnd := if lastOutcome + 1 < u64Limit then lastOutcome + 1 else u64Limit - 1
  let second ← outcomeAdd firstOutcome 1
  let (cur, ranges) ← (List.range' second (rangeEnd - second)).foldlM
    (piece.extendRanges rounding totalCollateral) cur
  .ok (ranges ++ [cur])

/-- Between two points of one payout nothing is evaluated beyond the first. -/
def toRangePayouts (ranges : List RangePayout) : Result (List RangePayout) :=
  match piece with
  | polynomialPayoutCurvePiece [left, right] =>
      if left.outcomePayout = right.outcomePayout then do
        let (cur, ranges) ← piece.getCurRange rounding totalCollateral ranges
        let width ← outcomeSub right.eventOutcome left.eventOutcome
        let count ← outcomeAdd cur.count width
        .ok (ranges ++ [{ cur with count }])
      else piece.computeRangePayouts rounding totalCollateral ranges
  | _ => piece.computeRangePayouts rounding totalCollateral ranges

end PayoutFunctionPiece

def PayoutFunction.toRangePayouts (f : PayoutFunction F) (totalCollateral : ℕ)
    (rounding : RoundingIntervals) : Result (List RangePayout) :=
  f.foldlM (fun ranges piece => piece.toRangePayouts rounding totalCollateral ranges) []

namespace OracleNumericInfo

def getMinNbDigits (info : OracleNumericInfo) : Result ℕ := unwrapSome info.nbDigits.min?

/-- The largest outcome that all oracles can attest; the number of digits is cut to 32
bits. -/
def maxValue (info : OracleNumericInfo) : Result ℕ := do
  let minNbDigits ← info.getMinNbDigits
  let values := info.base ^ (minNbDigits % 2 ^ 32)
  ensure (values < u64Limit) (.err (.invalidParameters "Could not compute max value"))
  outcomeSub values 1

end OracleNumericInfo

namespace NumericalDescriptor

def validate (n : NumericalDescriptor F) (maxValue : ℕ) : Result Unit := do
  n.roundingIntervals.validate
  n.payoutFunction.validate maxValue

def getRangePayouts (n : NumericalDescriptor F) (totalCollateral : ℕ) :
    Result (List RangePayout) :=
  n.payoutFunction.toRangePayouts totalCollateral n.roundingIntervals

end NumericalDescriptor

/-- The tries over the digits of the outcomes. -/
structure Tries (F : Floats) where
  Trie : Type
  newTrie : NumericalDescriptor F → (threshold : ℕ) → Dlc.Result Trie
  generate : Trie → (adaptorIndexStart : ℕ) → List RangePayout →
    Dlc.Result (Trie × List TrieIterInfo)
  iter : Trie → List TrieIterInfo
  lookUp : Trie → List (ℕ × List ℕ) → Option (RangeInfo × List (ℕ × List ℕ))

/-- Numerical contracts with their curves. -/
def curves (T : Tries F) : Numerics where
  Descriptor := NumericalDescriptor F
  Trie := T.Trie
  validate := fun n => do
    let maxValue ← n.oracleNumericInfos.maxValue
    n.validate maxValue
  getRangePayouts := NumericalDescriptor.getRangePayouts
  newTrie := T.newTrie
  generate := T.generate
  iter := T.iter
  lookUp := T.lookUp

/-! The ranges share the total. -/

/-- Ranges whose payouts make up the total. -/
def Shares (totalCollateral : ℕ) (ranges : List RangePayout) : Prop :=
  ∀ r ∈ ranges, r.payout.accept + r.payout.offer = totalCollateral

theorem Shares.push {totalCollateral : ℕ} {ranges : List RangePayout} {cur : RangePayout}
    (shares : Shares totalCollateral ranges)
    (own : cur.payout.accept + cur.payout.offer = totalCollateral) :
    Shares totalCollateral (ranges ++ [cur]) := by
  intro r listed
  rcases List.mem_append.mp listed with earlier | last
  · exact shares r earlier
  · exact List.mem_singleton.mp last ▸ own

/-- A current range with those before it. -/
def SharesFrom (totalCollateral : ℕ) (ranges : RangePayout × List RangePayout) : Prop :=
  Shares totalCollateral ranges.2 ∧
    ranges.1.payout.accept + ranges.1.payout.offer = totalCollateral

namespace PayoutFunctionPiece
variable {piece : PayoutFunctionPiece F} {rounding : RoundingIntervals} {totalCollateral : ℕ}

theorem newRange_shares {outcome payout : ℕ} {range : RangePayout}
    (made : newRange totalCollateral outcome payout = .ok range) :
    range.payout.accept + range.payout.offer = totalCollateral := by
  simp only [newRange, bind_eq_ok, ofDlc_eq_ok, amountSub, sub_eq_ok, Except.ok.injEq] at made
  obtain ⟨_, ⟨covered, rfl⟩, rfl⟩ := made
  exact Nat.sub_add_cancel covered

theorem getCurRange_shares {ranges : List RangePayout} {cur : RangePayout × List RangePayout}
    (shares : Shares totalCollateral ranges)
    (taken : piece.getCurRange rounding totalCollateral ranges = .ok cur) :
    SharesFrom totalCollateral cur := by
  unfold getCurRange at taken
  split at taken
  next last found =>
    obtain rfl := Except.ok.inj taken
    obtain ⟨before, rfl⟩ := List.getLast?_eq_some_iff.mp found
    refine ⟨fun r listed => ?_, shares last (by simp)⟩
    rw [List.dropLast_concat] at listed
    exact shares r (List.mem_append_left _ listed)
  next none =>
    simp only [bind_eq_ok, Except.ok.injEq] at taken
    obtain ⟨_, _, _, _, range, made, rfl⟩ := taken
    exact ⟨by simp [Shares], newRange_shares made⟩

theorem extendRanges_shares {ranges next : RangePayout × List RangePayout} {outcome : ℕ}
    (shares : SharesFrom totalCollateral ranges)
    (extended : piece.extendRanges rounding totalCollateral ranges outcome = .ok next) :
    SharesFrom totalCollateral next := by
  simp only [extendRanges, bind_eq_ok] at extended
  obtain ⟨payout, _, _, _, rest⟩ := extended
  split at rest
  next same =>
    simp only [bind_eq_ok, Except.ok.injEq] at rest
    obtain ⟨count, _, rfl⟩ := rest
    exact shares
  next other =>
    simp only [bind_eq_ok, Except.ok.injEq] at rest
    obtain ⟨range, made, rfl⟩ := rest
    exact ⟨shares.1.push shares.2, newRange_shares made⟩

theorem computeRangePayouts_shares {ranges all : List RangePayout}
    (shares : Shares totalCollateral ranges)
    (computed : piece.computeRangePayouts rounding totalCollateral ranges = .ok all) :
    Shares totalCollateral all := by
  simp only [computeRangePayouts, bind_eq_ok, Prod.exists, Except.ok.injEq] at computed
  obtain ⟨first, _, cur, before, taken, last, _, second, _, cur', before', ran, rfl⟩ := computed
  obtain ⟨others, own⟩ := foldlM_keeps extendRanges_shares (getCurRange_shares shares taken) ran
  exact others.push own

theorem toRangePayouts_shares {ranges all : List RangePayout}
    (shares : Shares totalCollateral ranges)
    (computed : piece.toRangePayouts rounding totalCollateral ranges = .ok all) :
    Shares totalCollateral all := by
  unfold toRangePayouts at computed
  split at computed
  next left right =>
    split at computed
    next same =>
      simp only [bind_eq_ok, Prod.exists, Except.ok.injEq] at computed
      obtain ⟨cur, before, taken, _, _, count, _, rfl⟩ := computed
      obtain ⟨others, own⟩ := getCurRange_shares shares taken
      exact others.push own
    next other => exact computeRangePayouts_shares shares computed
  next => exact computeRangePayouts_shares shares computed

end PayoutFunctionPiece

theorem PayoutFunction.toRangePayouts_shares {f : PayoutFunction F} {totalCollateral : ℕ}
    {rounding : RoundingIntervals} {ranges : List RangePayout}
    (computed : f.toRangePayouts totalCollateral rounding = .ok ranges) :
    Shares totalCollateral ranges :=
  foldlM_keeps (P := Shares totalCollateral) PayoutFunctionPiece.toRangePayouts_shares
    (by simp [Shares]) computed

end P2PLending.Manager.Infos
