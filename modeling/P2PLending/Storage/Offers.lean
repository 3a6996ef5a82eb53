import P2PLending.Storage.Tries

/-! Offers as they are stored. The points and roundings of a curve, announcements and funding
inputs are written as they are in messages. -/

namespace P2PLending.Storage

open Messages

/-! The payouts of an offer. -/

structure HyperbolaPayoutCurvePiece where
  leftEndPoint : PayoutPoint
  rightEndPoint : PayoutPoint
  usePositivePiece : Bool
  translateOutcome : F64
  translatePayout : F64
  a : F64
  b : F64
  c : F64
  d : F64
  deriving DecidableEq, Repr

inductive PayoutFunctionPiece
  | polynomialPayoutCurvePiece (piece : PolynomialPayoutCurvePiece)
  | hyperbolaPayoutCurvePiece (piece : HyperbolaPayoutCurvePiece)
  deriving DecidableEq, Repr

structure PayoutFunction where
  payoutFunctionPieces : List PayoutFunctionPiece
  deriving DecidableEq, Repr

structure DifferenceParams where
  maxErrorExp : UInt64
  minSupportExp : UInt64
  maximizeCoverage : Bool
  deriving DecidableEq, Repr

structure NumericalDescriptor where
  payoutFunction : PayoutFunction
  roundingIntervals : RoundingIntervals
  differenceParams : Option DifferenceParams
  oracleNumericInfos : OracleNumericInfo
  deriving DecidableEq, Repr

structure Payout where
  offer : UInt64
  accept : UInt64
  deriving DecidableEq, Repr

structure EnumerationPayout where
  outcome : String
  payout : Payout
  deriving DecidableEq, Repr

structure EnumDescriptor where
  outcomePayouts : List EnumerationPayout
  deriving DecidableEq, Repr

inductive ContractDescriptor
  | enum (d : EnumDescriptor)
  | numerical (d : NumericalDescriptor)
  deriving DecidableEq, Repr

theorem payoutPoint_exact : PayoutPoint.wire.Exact fun _ => True := .of_all PayoutPoint.roundTrips

namespace HyperbolaPayoutCurvePiece

def wire : Wire HyperbolaPayoutCurvePiece :=
  (PayoutPoint.wire.pair <| PayoutPoint.wire.pair <| bool.pair <| f64.pair <| f64.pair <|
    f64.pair <| f64.pair <| f64.pair f64).map
    (fun p => (p.leftEndPoint, p.rightEndPoint, p.usePositivePiece, p.translateOutcome,
      p.translatePayout, p.a, p.b, p.c, p.d))
    fun (leftEndPoint, rightEndPoint, usePositivePiece, translateOutcome, translatePayout, a, b, c,
      d) =>
    { leftEndPoint, rightEndPoint, usePositivePiece, translateOutcome, translatePayout, a, b, c, d }

theorem exact : wire.Exact fun _ => True :=
  ((payoutPoint_exact.pair <| payoutPoint_exact.pair <| bool_exact.pair <| f64_exact.pair <|
    f64_exact.pair <| f64_exact.pair <| f64_exact.pair <| f64_exact.pair f64_exact).mapped
    (fun _ => rfl) fun _ => rfl).iff fun _ => by simp

end HyperbolaPayoutCurvePiece

theorem polynomialPayoutCurvePiece_exact :
    PolynomialPayoutCurvePiece.wire.Exact fun p => ShortList p.payoutPoints where
  roundTrips := PolynomialPayoutCurvePiece.roundTrips
  yields := (vec_exact_plain payoutPoint_exact).yields.bind fun _ points => .pure points

namespace PayoutFunctionPiece

def wire : Wire PayoutFunctionPiece where
  write
    | polynomialPayoutCurvePiece p => u8.write 0 ++ PolynomialPayoutCurvePiece.wire.write p
    | hyperbolaPayoutCurvePiece p => u8.write 1 ++ HyperbolaPayoutCurvePiece.wire.write p
  read := do
    let id ← u8.read
    if id = 0 then polynomialPayoutCurvePiece <$> PolynomialPayoutCurvePiece.wire.read
    else if id = 1 then hyperbolaPayoutCurvePiece <$> HyperbolaPayoutCurvePiece.wire.read
    else throw .unknownRequiredFeature

def Fits : PayoutFunctionPiece → Prop
  | polynomialPayoutCurvePiece p => ShortList p.payoutPoints
  | hyperbolaPayoutCurvePiece _ => True

theorem exact : wire.Exact Fits where
  roundTrips := by
    intro p fits
    cases p with
    | polynomialPayoutCurvePiece p =>
        exact (u8_roundTrips 0).bind (polynomialPayoutCurvePiece_exact.roundTrips fits).map
    | hyperbolaPayoutCurvePiece p =>
        exact (u8_roundTrips 1).bind (HyperbolaPayoutCurvePiece.exact.roundTrips fits).map
  yields := Yields.skip fun _ =>
    Yields.ite (fun _ => Yields.map polynomialPayoutCurvePiece_exact.yields) fun _ =>
    Yields.ite (fun _ => Yields.map HyperbolaPayoutCurvePiece.exact.yields) fun _ => .throw _

end PayoutFunctionPiece

namespace PayoutFunction

def wire : Wire PayoutFunction :=
  (vec PayoutFunctionPiece.wire).map payoutFunctionPieces mk

def Fits (f : PayoutFunction) : Prop := VecFits PayoutFunctionPiece.Fits f.payoutFunctionPieces

theorem exact : wire.Exact Fits :=
  (vec_exact PayoutFunctionPiece.exact).mapped (fun _ => rfl) fun _ => rfl

end PayoutFunction

namespace DifferenceParams

def wire : Wire DifferenceParams :=
  (usize.pair <| usize.pair bool).map
    (fun p => (p.maxErrorExp, p.minSupportExp, p.maximizeCoverage))
    fun (maxErrorExp, minSupportExp, maximizeCoverage) =>
    { maxErrorExp, minSupportExp, maximizeCoverage }

theorem exact : wire.Exact fun _ => True :=
  ((usize_exact.pair <| usize_exact.pair bool_exact).mapped (fun _ => rfl) fun _ => rfl).iff
    fun _ => by simp

end DifferenceParams

namespace NumericalDescriptor

def wire : Wire NumericalDescriptor :=
  (PayoutFunction.wire.pair <| RoundingIntervals.wire.pair <|
    (option DifferenceParams.wire).pair OracleNumericInfo.wire).map
    (fun d => (d.payoutFunction, d.roundingIntervals, d.differenceParams, d.oracleNumericInfos))
    fun (payoutFunction, roundingIntervals, differenceParams, oracleNumericInfos) =>
    { payoutFunction, roundingIntervals, differenceParams, oracleNumericInfos }

structure Fits (d : NumericalDescriptor) : Prop where
  payoutFunction : d.payoutFunction.Fits
  roundingIntervals : d.roundingIntervals.Fits
  oracleNumericInfos : d.oracleNumericInfos.Fits

theorem exact : wire.Exact Fits :=
  ((PayoutFunction.exact.pair <| RoundingIntervals.exact.pair <|
    (option_exact DifferenceParams.exact).pair OracleNumericInfo.exact).mapped (fun _ => rfl)
    fun _ => rfl).iff fun _ =>
    ⟨fun h => ⟨h.1, h.2.1, h.2.2.2⟩, fun h => ⟨h.1, h.2, fun _ _ => trivial, h.3⟩⟩

end NumericalDescriptor

namespace Payout

def wire : Wire Payout :=
  (u64.pair u64).map (fun p => (p.offer, p.accept)) fun (offer, accept) => { offer, accept }

theorem exact : wire.Exact fun _ => True :=
  ((u64_exact.pair u64_exact).mapped (fun _ => rfl) fun _ => rfl).iff fun _ => by simp

end Payout

namespace EnumerationPayout

def wire : Wire EnumerationPayout :=
  (string.pair Payout.wire).map (fun p => (p.outcome, p.payout))
    fun (outcome, payout) => { outcome, payout }

theorem exact : wire.Exact fun p => StringFits p.outcome :=
  ((string_exact.pair Payout.exact).mapped (fun _ => rfl) fun _ => rfl).iff fun _ => by simp

end EnumerationPayout

namespace EnumDescriptor

def wire : Wire EnumDescriptor := (vec EnumerationPayout.wire).map outcomePayouts mk

def Fits (d : EnumDescriptor) : Prop := VecFits (fun p => StringFits p.outcome) d.outcomePayouts

theorem exact : wire.Exact Fits :=
  (vec_exact EnumerationPayout.exact).mapped (fun _ => rfl) fun _ => rfl

end EnumDescriptor

namespace ContractDescriptor

def wire : Wire ContractDescriptor where
  write
    | enum d => u8.write 0 ++ EnumDescriptor.wire.write d
    | numerical d => u8.write 1 ++ NumericalDescriptor.wire.write d
  read := do
    let id ← u8.read
    if id = 0 then enum <$> EnumDescriptor.wire.read
    else if id = 1 then numerical <$> NumericalDescriptor.wire.read
    else throw .unknownRequiredFeature

def Fits : ContractDescriptor → Prop
  | enum d => d.Fits
  | numerical d => d.Fits

theorem exact : wire.Exact Fits where
  roundTrips := by
    intro d fits
    cases d with
    | enum d => exact (u8_roundTrips 0).bind (EnumDescriptor.exact.roundTrips fits).map
    | numerical d => exact (u8_roundTrips 1).bind (NumericalDescriptor.exact.roundTrips fits).map
  yields := Yields.skip fun _ =>
    Yields.ite (fun _ => Yields.map EnumDescriptor.exact.yields) fun _ =>
    Yields.ite (fun _ => Yields.map NumericalDescriptor.exact.yields) fun _ => .throw _

end ContractDescriptor

/-! The inputs of a party. -/

structure OutPoint where
  txid : Bytes32
  vout : UInt32
  deriving DecidableEq, Repr

structure TxInputInfo where
  outpoint : OutPoint
  maxWitnessLen : UInt64
  redeemScript : Bytes
  serialId : UInt64
  deriving DecidableEq, Repr

namespace OutPoint

def wire : Wire OutPoint :=
  (bytes32.pair u32).map (fun o => (o.txid, o.vout)) fun (txid, vout) => { txid, vout }

theorem exact : wire.Exact fun _ => True :=
  ((bytes32_exact.pair u32_exact).mapped (fun _ => rfl) fun _ => rfl).iff fun _ => by simp

end OutPoint

namespace TxInputInfo

def wire : Wire TxInputInfo :=
  (OutPoint.wire.pair <| usize.pair <| script.pair u64).map
    (fun i => (i.outpoint, i.maxWitnessLen, i.redeemScript, i.serialId))
    fun (outpoint, maxWitnessLen, redeemScript, serialId) =>
    { outpoint, maxWitnessLen, redeemScript, serialId }

theorem exact : wire.Exact fun i => ScriptFits i.redeemScript :=
  ((OutPoint.exact.pair <| usize_exact.pair <| script_exact.pair u64_exact).mapped (fun _ => rfl)
    fun _ => rfl).iff fun _ => by simp

end TxInputInfo

section Records
variable (P : Primitives)

structure ContractInfo where
  contractDescriptor : ContractDescriptor
  oracleAnnouncements : List (OracleAnnouncement P)
  threshold : UInt64

structure PartyParams where
  fundPubkey : P.PublicKey
  changeScriptPubkey : Bytes
  changeSerialId : UInt64
  payoutScriptPubkey : Bytes
  payoutSerialId : UInt64
  inputs : List TxInputInfo
  inputAmount : UInt64
  collateral : UInt64

structure OfferedContract where
  id : Bytes32
  isOfferParty : Bool
  contractInfo : List (ContractInfo P)
  counterParty : P.PublicKey
  offerParams : PartyParams P
  totalCollateral : UInt64
  fundingInputs : List FundingInput
  fundOutputSerialId : UInt64
  feeRatePerVb : UInt64
  cetLocktime : UInt32
  refundLocktime : UInt32
  keysId : Bytes32

structure OfferedLoanContract where
  offeredContract : OfferedContract P
  collateralRatio : UInt64
  liquidationRatio : UInt64
  interestRate : UInt64
  duration : UInt64
  lenderHash : Bytes32

end Records

variable {P : Primitives}

theorem publicKey_exact : P.publicKey.Exact fun _ => True := .of_all P.publicKey.roundTrips

namespace ContractInfo

def wire : Wire (ContractInfo P) :=
  (ContractDescriptor.wire.pair <| (vec OracleAnnouncement.wire).pair usize).map
    (fun i => (i.contractDescriptor, i.oracleAnnouncements, i.threshold))
    fun (contractDescriptor, oracleAnnouncements, threshold) =>
    { contractDescriptor, oracleAnnouncements, threshold }

structure Fits (i : ContractInfo P) : Prop where
  contractDescriptor : i.contractDescriptor.Fits
  oracleAnnouncements : VecFits (fun a => a.oracleEvent.Fits) i.oracleAnnouncements

theorem exact : (wire (P := P)).Exact Fits :=
  ((ContractDescriptor.exact.pair <| (vec_exact OracleAnnouncement.exact).pair usize_exact).mapped
    (fun _ => rfl) fun _ => rfl).iff fun _ =>
    ⟨fun h => ⟨h.1, h.2.1⟩, fun h => ⟨h.1, h.2, trivial⟩⟩

end ContractInfo

namespace PartyParams

def wire : Wire (PartyParams P) :=
  (P.publicKey.pair <| script.pair <| u64.pair <| script.pair <| u64.pair <|
    (vec TxInputInfo.wire).pair <| u64.pair u64).map
    (fun p => (p.fundPubkey, p.changeScriptPubkey, p.changeSerialId, p.payoutScriptPubkey,
      p.payoutSerialId, p.inputs, p.inputAmount, p.collateral))
    fun (fundPubkey, changeScriptPubkey, changeSerialId, payoutScriptPubkey, payoutSerialId, inputs,
      inputAmount, collateral) =>
    { fundPubkey, changeScriptPubkey, changeSerialId, payoutScriptPubkey, payoutSerialId, inputs,
      inputAmount, collateral }

structure Fits (p : PartyParams P) : Prop where
  changeScriptPubkey : ScriptFits p.changeScriptPubkey
  payoutScriptPubkey : ScriptFits p.payoutScriptPubkey
  inputs : VecFits (fun i => ScriptFits i.redeemScript) p.inputs

theorem exact : (wire (P := P)).Exact Fits :=
  ((publicKey_exact.pair <| script_exact.pair <| u64_exact.pair <| script_exact.pair <|
    u64_exact.pair <| (vec_exact TxInputInfo.exact).pair <| u64_exact.pair u64_exact).mapped
    (fun _ => rfl) fun _ => rfl).iff fun _ =>
    ⟨fun h => ⟨h.2.1, h.2.2.2.1, h.2.2.2.2.2.1⟩, fun h =>
      ⟨trivial, h.1, trivial, h.2, trivial, h.3, trivial, trivial⟩⟩

end PartyParams

namespace OfferedContract

def wire : Wire (OfferedContract P) :=
  (bytes32.pair <| bool.pair <| (vec ContractInfo.wire).pair <| PartyParams.wire.pair <|
    u64.pair <| (vec FundingInput.wire).pair <| u64.pair <| u64.pair <| u32.pair <| u32.pair <|
    P.publicKey.pair bytes32).map
    (fun o => (o.id, o.isOfferParty, o.contractInfo, o.offerParams, o.totalCollateral,
      o.fundingInputs, o.fundOutputSerialId, o.feeRatePerVb, o.cetLocktime, o.refundLocktime,
      o.counterParty, o.keysId))
    fun (id, isOfferParty, contractInfo, offerParams, totalCollateral, fundingInputs,
      fundOutputSerialId, feeRatePerVb, cetLocktime, refundLocktime, counterParty, keysId) =>
    { id, isOfferParty, contractInfo, offerParams, totalCollateral, fundingInputs,
      fundOutputSerialId, feeRatePerVb, cetLocktime, refundLocktime, counterParty, keysId }

structure Fits (o : OfferedContract P) : Prop where
  contractInfo : VecFits ContractInfo.Fits o.contractInfo
  offerParams : o.offerParams.Fits
  fundingInputs : VecFits FundingInput.Fits o.fundingInputs

theorem exact : (wire (P := P)).Exact Fits :=
  ((bytes32_exact.pair <| bool_exact.pair <| (vec_exact ContractInfo.exact).pair <|
    PartyParams.exact.pair <| u64_exact.pair <| (vec_exact FundingInput.exact).pair <|
    u64_exact.pair <| u64_exact.pair <| u32_exact.pair <| u32_exact.pair <|
    publicKey_exact.pair bytes32_exact).mapped (fun _ => rfl) fun _ => rfl).iff fun _ =>
    ⟨fun h => ⟨h.2.2.1, h.2.2.2.1, h.2.2.2.2.2.1⟩, fun h =>
      ⟨trivial, trivial, h.1, h.2, trivial, h.3, trivial, trivial, trivial, trivial, trivial,
        trivial⟩⟩

end OfferedContract

namespace OfferedLoanContract

def wire : Wire (OfferedLoanContract P) :=
  (OfferedContract.wire.pair <| u64.pair <| u64.pair <| u64.pair <| u64.pair bytes32).map
    (fun o => (o.offeredContract, o.collateralRatio, o.liquidationRatio, o.interestRate,
      o.duration, o.lenderHash))
    fun (offeredContract, collateralRatio, liquidationRatio, interestRate, duration, lenderHash) =>
    { offeredContract, collateralRatio, liquidationRatio, interestRate, duration, lenderHash }

def Fits (o : OfferedLoanContract P) : Prop := o.offeredContract.Fits

theorem exact : (wire (P := P)).Exact Fits :=
  ((OfferedContract.exact.pair <| u64_exact.pair <| u64_exact.pair <| u64_exact.pair <|
    u64_exact.pair bytes32_exact).mapped (fun _ => rfl) fun _ => rfl).iff fun _ => by simp [Fits]

end OfferedLoanContract

end P2PLending.Storage
