import P2PLending.Messages.OracleMsgs

/-! Contracts in messages: the payouts of an event's outcomes, as a list or as a curve in
pieces, with the oracles of the event. A curve lists the left end of each piece and the right
end of the last one. -/

namespace P2PLending.Messages

structure ContractOutcome where
  outcome : String
  offerPayout : UInt64
  deriving DecidableEq, Repr

structure EnumeratedContractDescriptor where
  payouts : List ContractOutcome
  deriving DecidableEq, Repr

structure PayoutPoint where
  eventOutcome : UInt64
  outcomePayout : UInt64
  extraPrecision : UInt16
  deriving DecidableEq, Repr

structure PolynomialPayoutCurvePiece where
  payoutPoints : List PayoutPoint
  deriving DecidableEq, Repr

structure HyperbolaPayoutCurvePiece where
  usePositivePiece : Bool
  translateOutcome : F64
  translatePayout : F64
  a : F64
  b : F64
  c : F64
  d : F64
  deriving DecidableEq, Repr

inductive PayoutCurvePiece
  | polynomialPayoutCurvePiece (piece : PolynomialPayoutCurvePiece)
  | hyperbolaPayoutCurvePiece (piece : HyperbolaPayoutCurvePiece)
  deriving DecidableEq, Repr

structure PayoutFunctionPiece where
  endPoint : PayoutPoint
  payoutCurvePiece : PayoutCurvePiece
  deriving DecidableEq, Repr

structure PayoutFunction where
  payoutFunctionPieces : List PayoutFunctionPiece
  lastEndpoint : PayoutPoint
  deriving DecidableEq, Repr

structure RoundingInterval where
  beginInterval : UInt64
  roundingMod : UInt64
  deriving DecidableEq, Repr

structure RoundingIntervals where
  intervals : List RoundingInterval
  deriving DecidableEq, Repr

structure NumericOutcomeContractDescriptor where
  numDigits : UInt16
  payoutFunction : PayoutFunction
  roundingIntervals : RoundingIntervals
  deriving DecidableEq, Repr

inductive ContractDescriptor
  | enumeratedContractDescriptor (d : EnumeratedContractDescriptor)
  | numericOutcomeContractDescriptor (d : NumericOutcomeContractDescriptor)
  deriving DecidableEq, Repr

section Contracts
variable (P : Primitives)

structure ContractInfoInner where
  contractDescriptor : ContractDescriptor
  oracleInfo : OracleInfo P

structure SingleContractInfo where
  totalCollateral : UInt64
  contractInfo : ContractInfoInner P

structure DisjointContractInfo where
  totalCollateral : UInt64
  contractInfos : List (ContractInfoInner P)

inductive ContractInfo
  | singleContractInfo (info : SingleContractInfo P)
  | disjointContractInfo (info : DisjointContractInfo P)

end Contracts

namespace ContractOutcome

def wire : Wire ContractOutcome where
  write m := List.flatten [string.write m.outcome, u64.write m.offerPayout]
  read := do
    let outcome ← string.read
    let offerPayout ← u64.read
    return { outcome, offerPayout }

theorem roundTrips {m : ContractOutcome} (fits : StringFits m.outcome) : wire.RoundTrips m := by
  apply Reads.field (string_roundTrips fits)
  apply Reads.field (u64_roundTrips _)
  exact .done _

end ContractOutcome

namespace EnumeratedContractDescriptor

def wire : Wire EnumeratedContractDescriptor where
  write m := List.flatten [(vec ContractOutcome.wire).write m.payouts]
  read := do
    let payouts ← (vec ContractOutcome.wire).read
    return { payouts }

theorem roundTrips {m : EnumeratedContractDescriptor}
    (fits : VecFits (fun x => StringFits x.outcome) m.payouts) : wire.RoundTrips m := by
  apply Reads.field (fits.roundTrips ContractOutcome.roundTrips)
  exact .done _

end EnumeratedContractDescriptor

namespace PayoutPoint

def wire : Wire PayoutPoint where
  write m := List.flatten [u64.write m.eventOutcome, u64.write m.outcomePayout,
    u16.write m.extraPrecision]
  read := do
    let eventOutcome ← u64.read
    let outcomePayout ← u64.read
    let extraPrecision ← u16.read
    return { eventOutcome, outcomePayout, extraPrecision }

theorem roundTrips (m : PayoutPoint) : wire.RoundTrips m := by
  apply Reads.field (u64_roundTrips _)
  apply Reads.field (u64_roundTrips _)
  apply Reads.field (u16_roundTrips _)
  exact .done _

end PayoutPoint

namespace PolynomialPayoutCurvePiece

def wire : Wire PolynomialPayoutCurvePiece where
  write m := List.flatten [(vec PayoutPoint.wire).write m.payoutPoints]
  read := do
    let payoutPoints ← (vec PayoutPoint.wire).read
    return { payoutPoints }

theorem roundTrips {m : PolynomialPayoutCurvePiece}
    (fits : m.payoutPoints.length ≤ maxVecSize.toNat) : wire.RoundTrips m := by
  apply Reads.field (vec_roundTrips fits fun p _ => PayoutPoint.roundTrips p)
  exact .done _

end PolynomialPayoutCurvePiece

namespace HyperbolaPayoutCurvePiece

def wire : Wire HyperbolaPayoutCurvePiece where
  write m := List.flatten [bool.write m.usePositivePiece, f64.write m.translateOutcome,
    f64.write m.translatePayout, f64.write m.a, f64.write m.b, f64.write m.c, f64.write m.d]
  read := do
    let usePositivePiece ← bool.read
    let translateOutcome ← f64.read
    let translatePayout ← f64.read
    let a ← f64.read
    let b ← f64.read
    let c ← f64.read
    let d ← f64.read
    return { usePositivePiece, translateOutcome, translatePayout, a, b, c, d }

theorem roundTrips (m : HyperbolaPayoutCurvePiece) : wire.RoundTrips m := by
  apply Reads.field (bool_roundTrips _)
  apply Reads.field (f64_roundTrips _)
  apply Reads.field (f64_roundTrips _)
  apply Reads.field (f64_roundTrips _)
  apply Reads.field (f64_roundTrips _)
  apply Reads.field (f64_roundTrips _)
  apply Reads.field (f64_roundTrips _)
  exact .done _

end HyperbolaPayoutCurvePiece

namespace PayoutCurvePiece

def wire : Wire PayoutCurvePiece where
  write
    | polynomialPayoutCurvePiece piece =>
        List.flatten [u8.write 0, PolynomialPayoutCurvePiece.wire.write piece]
    | hyperbolaPayoutCurvePiece piece =>
        List.flatten [u8.write 1, HyperbolaPayoutCurvePiece.wire.write piece]
  read := do
    let id ← u8.read
    if id = 0 then polynomialPayoutCurvePiece <$> PolynomialPayoutCurvePiece.wire.read
    else if id = 1 then hyperbolaPayoutCurvePiece <$> HyperbolaPayoutCurvePiece.wire.read
    else throw .unknownRequiredFeature

def Fits : PayoutCurvePiece → Prop
  | polynomialPayoutCurvePiece piece => piece.payoutPoints.length ≤ maxVecSize.toNat
  | hyperbolaPayoutCurvePiece _ => True

theorem roundTrips {m : PayoutCurvePiece} (fits : m.Fits) : wire.RoundTrips m := by
  cases m with
  | polynomialPayoutCurvePiece piece =>
      apply Reads.field (u8_roundTrips 0)
      exact .last (PolynomialPayoutCurvePiece.roundTrips fits).map
  | hyperbolaPayoutCurvePiece piece =>
      apply Reads.field (u8_roundTrips 1)
      exact .last (HyperbolaPayoutCurvePiece.roundTrips piece).map

end PayoutCurvePiece

namespace PayoutFunctionPiece

def wire : Wire PayoutFunctionPiece where
  write m := List.flatten [PayoutPoint.wire.write m.endPoint,
    PayoutCurvePiece.wire.write m.payoutCurvePiece]
  read := do
    let endPoint ← PayoutPoint.wire.read
    let payoutCurvePiece ← PayoutCurvePiece.wire.read
    return { endPoint, payoutCurvePiece }

theorem roundTrips {m : PayoutFunctionPiece} (fits : m.payoutCurvePiece.Fits) :
    wire.RoundTrips m := by
  apply Reads.field (PayoutPoint.roundTrips _)
  apply Reads.field (PayoutCurvePiece.roundTrips fits)
  exact .done _

end PayoutFunctionPiece

namespace PayoutFunction

def wire : Wire PayoutFunction where
  write m := List.flatten [(vec PayoutFunctionPiece.wire).write m.payoutFunctionPieces,
    PayoutPoint.wire.write m.lastEndpoint]
  read := do
    let payoutFunctionPieces ← (vec PayoutFunctionPiece.wire).read
    let lastEndpoint ← PayoutPoint.wire.read
    return { payoutFunctionPieces, lastEndpoint }

def Fits (m : PayoutFunction) : Prop :=
  VecFits (fun piece => piece.payoutCurvePiece.Fits) m.payoutFunctionPieces

theorem roundTrips {m : PayoutFunction} (fits : m.Fits) : wire.RoundTrips m := by
  apply Reads.field (VecFits.roundTrips fits PayoutFunctionPiece.roundTrips)
  apply Reads.field (PayoutPoint.roundTrips _)
  exact .done _

end PayoutFunction

namespace RoundingInterval

def wire : Wire RoundingInterval where
  write m := List.flatten [u64.write m.beginInterval, u64.write m.roundingMod]
  read := do
    let beginInterval ← u64.read
    let roundingMod ← u64.read
    return { beginInterval, roundingMod }

theorem roundTrips (m : RoundingInterval) : wire.RoundTrips m := by
  apply Reads.field (u64_roundTrips _)
  apply Reads.field (u64_roundTrips _)
  exact .done _

end RoundingInterval

namespace RoundingIntervals

def wire : Wire RoundingIntervals where
  write m := List.flatten [(vec RoundingInterval.wire).write m.intervals]
  read := do
    let intervals ← (vec RoundingInterval.wire).read
    return { intervals }

def Fits (m : RoundingIntervals) : Prop := m.intervals.length ≤ maxVecSize.toNat

theorem roundTrips {m : RoundingIntervals} (fits : m.Fits) : wire.RoundTrips m := by
  apply Reads.field (vec_roundTrips fits fun i _ => RoundingInterval.roundTrips i)
  exact .done _

end RoundingIntervals

namespace NumericOutcomeContractDescriptor

def wire : Wire NumericOutcomeContractDescriptor where
  write m := List.flatten [u16.write m.numDigits, PayoutFunction.wire.write m.payoutFunction,
    RoundingIntervals.wire.write m.roundingIntervals]
  read := do
    let numDigits ← u16.read
    let payoutFunction ← PayoutFunction.wire.read
    let roundingIntervals ← RoundingIntervals.wire.read
    return { numDigits, payoutFunction, roundingIntervals }

structure Fits (m : NumericOutcomeContractDescriptor) : Prop where
  payoutFunction : m.payoutFunction.Fits
  roundingIntervals : m.roundingIntervals.Fits

theorem roundTrips {m : NumericOutcomeContractDescriptor} (fits : m.Fits) :
    wire.RoundTrips m := by
  apply Reads.field (u16_roundTrips _)
  apply Reads.field (PayoutFunction.roundTrips fits.payoutFunction)
  apply Reads.field (RoundingIntervals.roundTrips fits.roundingIntervals)
  exact .done _

end NumericOutcomeContractDescriptor

namespace ContractDescriptor

def wire : Wire ContractDescriptor where
  write
    | enumeratedContractDescriptor d =>
        List.flatten [u8.write 0, EnumeratedContractDescriptor.wire.write d]
    | numericOutcomeContractDescriptor d =>
        List.flatten [u8.write 1, NumericOutcomeContractDescriptor.wire.write d]
  read := do
    let id ← u8.read
    if id = 0 then enumeratedContractDescriptor <$> EnumeratedContractDescriptor.wire.read
    else if id = 1 then
      numericOutcomeContractDescriptor <$> NumericOutcomeContractDescriptor.wire.read
    else throw .unknownRequiredFeature

def Fits : ContractDescriptor → Prop
  | enumeratedContractDescriptor d => VecFits (fun x => StringFits x.outcome) d.payouts
  | numericOutcomeContractDescriptor d => d.Fits

theorem roundTrips {m : ContractDescriptor} (fits : m.Fits) : wire.RoundTrips m := by
  cases m with
  | enumeratedContractDescriptor d =>
      apply Reads.field (u8_roundTrips 0)
      exact .last (EnumeratedContractDescriptor.roundTrips fits).map
  | numericOutcomeContractDescriptor d =>
      apply Reads.field (u8_roundTrips 1)
      exact .last (NumericOutcomeContractDescriptor.roundTrips fits).map

end ContractDescriptor

variable {P : Primitives}

namespace ContractInfoInner

def wire : Wire (ContractInfoInner P) where
  write m := List.flatten [ContractDescriptor.wire.write m.contractDescriptor,
    OracleInfo.wire.write m.oracleInfo]
  read := do
    let contractDescriptor ← ContractDescriptor.wire.read
    let oracleInfo ← OracleInfo.wire.read
    return { contractDescriptor, oracleInfo }

structure Fits (m : ContractInfoInner P) : Prop where
  contractDescriptor : m.contractDescriptor.Fits
  oracleInfo : m.oracleInfo.Fits

theorem roundTrips {m : ContractInfoInner P} (fits : m.Fits) : wire.RoundTrips m := by
  apply Reads.field (ContractDescriptor.roundTrips fits.contractDescriptor)
  apply Reads.field (OracleInfo.roundTrips fits.oracleInfo)
  exact .done _

end ContractInfoInner

namespace SingleContractInfo

def wire : Wire (SingleContractInfo P) where
  write m := List.flatten [u64.write m.totalCollateral,
    ContractInfoInner.wire.write m.contractInfo]
  read := do
    let totalCollateral ← u64.read
    let contractInfo ← ContractInfoInner.wire.read
    return { totalCollateral, contractInfo }

theorem roundTrips {m : SingleContractInfo P} (fits : m.contractInfo.Fits) :
    wire.RoundTrips m := by
  apply Reads.field (u64_roundTrips _)
  apply Reads.field (ContractInfoInner.roundTrips fits)
  exact .done _

end SingleContractInfo

namespace DisjointContractInfo

def wire : Wire (DisjointContractInfo P) where
  write m := List.flatten [u64.write m.totalCollateral,
    (vec ContractInfoInner.wire).write m.contractInfos]
  read := do
    let totalCollateral ← u64.read
    let contractInfos ← (vec ContractInfoInner.wire).read
    return { totalCollateral, contractInfos }

theorem roundTrips {m : DisjointContractInfo P}
    (fits : VecFits ContractInfoInner.Fits m.contractInfos) : wire.RoundTrips m := by
  apply Reads.field (u64_roundTrips _)
  apply Reads.field (fits.roundTrips ContractInfoInner.roundTrips)
  exact .done _

end DisjointContractInfo

namespace ContractInfo

def wire : Wire (ContractInfo P) where
  write
    | singleContractInfo info => List.flatten [u8.write 0, SingleContractInfo.wire.write info]
    | disjointContractInfo info => List.flatten [u8.write 1, DisjointContractInfo.wire.write info]
  read := do
    let id ← u8.read
    if id = 0 then singleContractInfo <$> SingleContractInfo.wire.read
    else if id = 1 then disjointContractInfo <$> DisjointContractInfo.wire.read
    else throw .unknownRequiredFeature

def Fits : ContractInfo P → Prop
  | singleContractInfo info => info.contractInfo.Fits
  | disjointContractInfo info => VecFits ContractInfoInner.Fits info.contractInfos

theorem roundTrips {m : ContractInfo P} (fits : m.Fits) : wire.RoundTrips m := by
  cases m with
  | singleContractInfo info =>
      apply Reads.field (u8_roundTrips 0)
      exact .last (SingleContractInfo.roundTrips fits).map
  | disjointContractInfo info =>
      apply Reads.field (u8_roundTrips 1)
      exact .last (DisjointContractInfo.roundTrips fits).map

end ContractInfo

end P2PLending.Messages
