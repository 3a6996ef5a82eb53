import P2PLending.Manager.PayoutCurve
import P2PLending.Manager.ContractUpdater

/-! Offers as messages. The sender's contract is written with its curves' ends left out and
its numbers cut to the widths of the message; the receiver reads a contract of its own from
it. -/

namespace P2PLending.Manager.Infos
open Dlc Checked

section Messages
variable (F : Floats)

/-- A hyperbola without its ends. -/
structure SerHyperbolaPayoutCurvePiece where
  usePositivePiece : Bool
  translateOutcome : F.F64
  translatePayout : F.F64
  a : F.F64
  b : F.F64
  c : F.F64
  d : F.F64

inductive SerPayoutCurvePiece
  | polynomialPayoutCurvePiece (payoutPoints : List PayoutPoint)
  | hyperbolaPayoutCurvePiece (piece : SerHyperbolaPayoutCurvePiece F)

structure SerPayoutFunctionPiece where
  endPoint : PayoutPoint
  payoutCurvePiece : SerPayoutCurvePiece F

structure SerPayoutFunction where
  payoutFunctionPieces : List (SerPayoutFunctionPiece F)
  lastEndpoint : PayoutPoint

structure NumericOutcomeContractDescriptor where
  numDigits : ℕ
  payoutFunction : SerPayoutFunction F
  roundingIntervals : RoundingIntervals

end Messages

variable {F : Floats}

def PayoutFunctionPiece.toSer : PayoutFunctionPiece F → Result (SerPayoutFunctionPiece F)
  | polynomialPayoutCurvePiece points => do
      let left ← index points 0
      let inner ← outcomeSub points.length 2
      .ok ⟨left, .polynomialPayoutCurvePiece ((points.drop 1).take inner)⟩
  | hyperbolaPayoutCurvePiece h =>
      .ok ⟨h.leftEndPoint, .hyperbolaPayoutCurvePiece
        ⟨h.usePositivePiece, h.translateOutcome, h.translatePayout, h.a, h.b, h.c, h.d⟩⟩

def PayoutFunction.toSer (f : PayoutFunction F) : Result (SerPayoutFunction F) := do
  let payoutFunctionPieces ← f.mapM PayoutFunctionPiece.toSer
  let lastPiece ← unwrapSome f.getLast?
  let lastEndpoint ← lastPiece.getLastPoint
  .ok { payoutFunctionPieces, lastEndpoint }

def fromSerPayoutFunctionPiece (piece : SerPayoutFunctionPiece F) (rightEndPoint : PayoutPoint) :
    PayoutFunctionPiece F :=
  match piece.payoutCurvePiece with
  | .polynomialPayoutCurvePiece points =>
      .polynomialPayoutCurvePiece (piece.endPoint :: points ++ [rightEndPoint])
  | .hyperbolaPayoutCurvePiece h => .hyperbolaPayoutCurvePiece
      { leftEndPoint := piece.endPoint
        rightEndPoint
        usePositivePiece := h.usePositivePiece
        translateOutcome := h.translateOutcome
        translatePayout := h.translatePayout
        a := h.a
        b := h.b
        c := h.c
        d := h.d }

/-- Each piece ends where the next begins. -/
def SerPayoutFunction.toPayoutFunction (f : SerPayoutFunction F) : PayoutFunction F :=
  List.zipWith fromSerPayoutFunctionPiece f.payoutFunctionPieces
    (f.payoutFunctionPieces.tail.map SerPayoutFunctionPiece.endPoint ++ [f.lastEndpoint])

def NumericalDescriptor.toSer (n : NumericalDescriptor F) :
    Result (NumericOutcomeContractDescriptor F) := do
  let numDigits ← expectSome "to have at least a value" n.oracleNumericInfos.nbDigits.min?
  let payoutFunction ← n.payoutFunction.toSer
  .ok ⟨numDigits % 2 ^ 16, payoutFunction, n.roundingIntervals⟩

/-- Curves in messages. What panics when it is written has no message of its own. -/
def curveMessages (T : Tries F) : MessageNumerics (curves T) where
  Descriptor := NumericOutcomeContractDescriptor F
  toNumerical := fun d params numbers =>
    ⟨d.payoutFunction.toPayoutFunction, d.roundingIntervals, params, numbers⟩
  ofNumerical := fun n => match n.toSer with
    | .ok d => d
    | .error _ => ⟨0, ⟨[], ⟨0, 0, 0⟩⟩, []⟩
  differenceParams := NumericalDescriptor.differenceParams

variable {T : Tries F}

theorem curveMessages_toNumerical (d : NumericOutcomeContractDescriptor F)
    (params : Option DifferenceParams) (numbers : OracleNumericInfo) :
    (curveMessages T).toNumerical d params numbers =
      (⟨d.payoutFunction.toPayoutFunction, d.roundingIntervals, params, numbers⟩ :
        NumericalDescriptor F) := rfl

def ContractDescriptor.toSer : ContractDescriptor (curves T) →
    Result (SerContractDescriptor (curveMessages T))
  | .enum e => .ok (.enumerated (e.map fun x => ⟨x.outcome, x.payout.offer⟩))
  | .numerical n => do
      let d ← NumericalDescriptor.toSer n
      .ok (.numericOutcome d)

def ContractInfo.toSer (info : ContractInfo (curves T)) :
    Result (ContractInfoInner (curveMessages T)) := do
  let contractDescriptor ← info.contractDescriptor.toSer
  .ok ⟨contractDescriptor, writeOracleInfo (curveMessages T) info⟩

section Offers
variable {N : Numerics}

/-- One event stands alone, none or several stand in a list. -/
def SerContractInfo.ofInfos {M : MessageNumerics N} (totalCollateral : ℕ) :
    List (ContractInfoInner M) → SerContractInfo M
  | [c] => .single totalCollateral c
  | cs => .disjoint totalCollateral cs

structure OfferDlc (M : MessageNumerics N) where
  protocolVersion : ℕ
  contractFlags : ℕ
  chainHash : Bytes32
  temporaryContractId : ContractId
  contractInfo : SerContractInfo M
  fundingPubkey : PublicKey
  payoutSpk : Bytes
  payoutSerialId : ℕ
  offerCollateral : ℕ
  fundingInputs : List FundingInput
  changeSpk : Bytes
  changeSerialId : ℕ
  fundOutputSerialId : ℕ
  feeRatePerVb : ℕ
  cetLocktime : ℕ
  refundLocktime : ℕ

structure OfferLoanDlc (M : MessageNumerics N) where
  collateralRatio : ℕ
  liquidationRatio : ℕ
  interestRate : ℕ
  duration : ℕ
  lenderHash : Bytes32
  offerDlc : OfferDlc M

end Offers

def protocolVersion : ℕ := 1

def bitcoinChainhash : Bytes32 :=
  0x06226e46111a0b59caaf126043eb5bbf28c34f3a5e332a1fc7b2b73cf188910f

section Convert
variable {K : AdaptorCrypto}
  {order : List (List String × List ℕ) → List (List String × List ℕ)}

abbrev Offered (K : AdaptorCrypto) (T : Tries F)
    (order : List (List String × List ℕ) → List (List String × List ℕ)) :=
  OfferedContract (contractDescriptors K (curves T) order)

abbrev OfferedLoan (K : AdaptorCrypto) (T : Tries F)
    (order : List (List String × List ℕ) → List (List String × List ℕ)) :=
  OfferedLoanContract (contractDescriptors K (curves T) order)

def toOfferDlc (c : Offered K T order) : Result (OfferDlc (curveMessages T)) := do
  let contractInfos ← List.mapM ContractInfo.toSer c.contractInfo
  .ok
    { protocolVersion
      contractFlags := 0
      chainHash := bitcoinChainhash
      temporaryContractId := c.id
      contractInfo := .ofInfos c.totalCollateral contractInfos
      fundingPubkey := c.offerParams.fundPubkey
      payoutSpk := c.offerParams.payoutScriptPubkey
      payoutSerialId := c.offerParams.payoutSerialId
      offerCollateral := c.offerParams.collateral
      fundingInputs := c.fundingInputs
      changeSpk := c.offerParams.changeScriptPubkey
      changeSerialId := c.offerParams.changeSerialId
      fundOutputSerialId := c.fundOutputSerialId
      feeRatePerVb := c.feeRatePerVb
      cetLocktime := c.cetLocktime
      refundLocktime := c.refundLocktime }

def toOfferLoanDlc (c : OfferedLoan K T order) : Result (OfferLoanDlc (curveMessages T)) := do
  let offerDlc ← toOfferDlc c.offeredContract
  .ok
    { collateralRatio := c.collateralRatio
      liquidationRatio := c.liquidationRatio
      interestRate := c.interestRate
      duration := c.duration
      lenderHash := c.lenderHash
      offerDlc }

variable (C : Crypto) (decodeTransaction : Bytes → Option Transaction)

def tryFromOfferDlc (offer : OfferDlc (curveMessages T)) (counterParty : PublicKey)
    (keysId : KeysId) : Result (Offered K T order) := do
  let contractInfo ← offer.contractInfo.getContractInfoAndAnnouncements
  let (inputs, inputAmount) ← getTxInputInfos C decodeTransaction offer.fundingInputs
  .ok
    { id := offer.temporaryContractId
      isOfferParty := false
      contractInfo
      counterParty
      offerParams :=
        { fundPubkey := offer.fundingPubkey
          changeScriptPubkey := offer.changeSpk
          changeSerialId := offer.changeSerialId
          payoutScriptPubkey := offer.payoutSpk
          payoutSerialId := offer.payoutSerialId
          inputs
          inputAmount
          collateral := offer.offerCollateral }
      totalCollateral := offer.contractInfo.totalCollateral
      fundingInputs := offer.fundingInputs
      fundOutputSerialId := offer.fundOutputSerialId
      feeRatePerVb := offer.feeRatePerVb
      cetLocktime := offer.cetLocktime
      refundLocktime := offer.refundLocktime
      keysId }

def tryFromOfferLoanDlc (offer : OfferLoanDlc (curveMessages T)) (counterParty : PublicKey)
    (keysId : KeysId) : Result (OfferedLoan K T order) := do
  let offeredContract ← tryFromOfferDlc C decodeTransaction offer.offerDlc counterParty keysId
  .ok
    { offeredContract
      collateralRatio := offer.collateralRatio
      liquidationRatio := offer.liquidationRatio
      interestRate := offer.interestRate
      duration := offer.duration
      lenderHash := offer.lenderHash }

end Convert

/-! What a message keeps of a curve. -/

section Curve

/-- The points between the ends stand between them again. -/
theorem ends_and_inner {points : List PayoutPoint} {first last : PayoutPoint} {inner : ℕ}
    (left : points[0]? = some first) (right : points.getLast? = some last)
    (length : points.length = inner + 2) :
    first :: (points.drop 1).take inner ++ [last] = points := by
  obtain ⟨a, rest, rfl⟩ : ∃ a rest, points = a :: rest := by
    cases points with
    | nil => cases left
    | cons a rest => exact ⟨a, rest, rfl⟩
  obtain rfl : a = first := Option.some.inj left
  have restLength : rest.length = inner + 1 := Nat.succ.inj length
  have nonempty : rest ≠ [] := List.ne_nil_of_length_eq_add_one restLength
  rw [List.getLast?_cons_of_ne_nil nonempty] at right
  obtain ⟨_, rfl⟩ : ∃ h, rest.getLast h = last := by
    rw [List.getLast?_eq_some_getLast nonempty] at right
    exact ⟨nonempty, Option.some.inj right⟩
  have inside : rest.take inner = rest.dropLast := by
    rw [List.dropLast_eq_take, restLength, Nat.add_sub_cancel]
  rw [List.drop_one, List.tail_cons, List.cons_append, inside, List.dropLast_append_getLast]

namespace PayoutFunctionPiece

theorem toSer_ok {piece : PayoutFunctionPiece F} {ser : SerPayoutFunctionPiece F}
    (written : piece.toSer = .ok ser) :
    piece.getFirstPoint = .ok ser.endPoint ∧
      ∀ last, piece.getLastPoint = .ok last → fromSerPayoutFunctionPiece ser last = piece := by
  cases piece with
  | hyperbolaPayoutCurvePiece h =>
      obtain rfl := Except.ok.inj written
      refine ⟨rfl, fun last right => ?_⟩
      obtain rfl := Except.ok.inj right
      rfl
  | polynomialPayoutCurvePiece points =>
      simp only [toSer, outcomeSub, bind_eq_ok, index_eq_ok, sub_eq_ok, Except.ok.injEq] at written
      obtain ⟨first, left, inner, ⟨two, rfl⟩, rfl⟩ := written
      refine ⟨index_eq_ok.mpr left, fun last right => ?_⟩
      have joined := ends_and_inner left (unwrapSome_eq_ok.mp right)
        (Nat.sub_add_cancel two).symm
      exact congrArg polynomialPayoutCurvePiece joined

/-- A piece with two points is written, and so is a hyperbola. -/
def Writable : PayoutFunctionPiece F → Prop
  | polynomialPayoutCurvePiece points => 2 ≤ points.length
  | hyperbolaPayoutCurvePiece _ => True

theorem toSer_iff {piece : PayoutFunctionPiece F} :
    (∃ ser, piece.toSer = .ok ser) ↔ piece.Writable := by
  cases piece with
  | hyperbolaPayoutCurvePiece h => exact ⟨fun _ => trivial, fun _ => ⟨_, rfl⟩⟩
  | polynomialPayoutCurvePiece points =>
      simp only [toSer, outcomeSub, bind_eq_ok, index_eq_ok, sub_eq_ok, Except.ok.injEq, Writable]
      constructor
      · intro written
        obtain ⟨_, _, _, _, ⟨two, _⟩, _⟩ := written
        exact two
      · intro two
        have first : points[0]? = some points[0] := List.getElem?_eq_getElem (by omega)
        exact ⟨_, _, first, _, ⟨two, rfl⟩, rfl⟩

end PayoutFunctionPiece

/-- The pieces of a continuous curve are read as they were written. -/
theorem pieces_read {f : PayoutFunction F} {pieces : List (SerPayoutFunctionPiece F)}
    {last : PayoutFunctionPiece F} {lastEndpoint : PayoutPoint}
    (continuous : isContinuous f = .ok true)
    (written : List.Forall₂ (fun piece ser => piece.toSer = .ok ser) f pieces)
    (lastPiece : f.getLast? = some last) (lastPoint : last.getLastPoint = .ok lastEndpoint) :
    List.zipWith fromSerPayoutFunctionPiece pieces
      (pieces.tail.map SerPayoutFunctionPiece.endPoint ++ [lastEndpoint]) = f := by
  induction written with
  | nil => rfl
  | cons head rest ih =>
      rename_i piece ser f pieces
      have joined := (PayoutFunctionPiece.toSer_ok head).2
      cases rest with
      | nil =>
          obtain rfl := Option.some.inj lastPiece
          exact congrArg (fun p => [p]) (joined _ lastPoint)
      | cons next rest =>
          rename_i piece' ser' f pieces
          simp only [isContinuous, bind_eq_ok] at continuous
          obtain ⟨left, leftEnd, right, rightEnd, same⟩ := continuous
          obtain rfl : right = ser'.endPoint :=
            Except.ok.inj (rightEnd.symm.trans (PayoutFunctionPiece.toSer_ok next).1)
          split at same
          next meet =>
            subst meet
            rw [List.getLast?_cons_cons] at lastPiece
            have later := ih same lastPiece
            rw [List.tail_cons, List.map_cons, List.cons_append, List.zipWith_cons_cons,
              joined _ leftEnd]
            exact congrArg (piece :: ·) later
          next => cases same

theorem PayoutFunction.toSer_read {f : PayoutFunction F} {ser : SerPayoutFunction F}
    (continuous : isContinuous f = .ok true) (written : f.toSer = .ok ser) :
    ser.toPayoutFunction = f := by
  simp only [PayoutFunction.toSer, bind_eq_ok, unwrapSome_eq_ok, Except.ok.injEq] at written
  obtain ⟨pieces, each, last, lastPiece, lastEndpoint, lastPoint, rfl⟩ := written
  exact pieces_read continuous (mapM_eq_ok.mp each) lastPiece lastPoint

theorem PayoutFunction.toSer_iff {f : PayoutFunction F} (nonempty : f ≠ []) :
    (∃ ser, f.toSer = .ok ser) ↔ ∀ piece ∈ f, piece.Writable := by
  simp only [PayoutFunction.toSer, bind_eq_ok, unwrapSome_eq_ok, Except.ok.injEq]
  constructor
  · intro written piece listed
    obtain ⟨_, pieces, each, _⟩ := written
    exact PayoutFunctionPiece.toSer_iff.mp (exists_mapM_ok.mp ⟨pieces, each⟩ piece listed)
  · intro writable
    obtain ⟨pieces, each⟩ := exists_mapM_ok.mpr fun piece listed =>
      PayoutFunctionPiece.toSer_iff.mpr (writable piece listed)
    have lastPiece := List.getLast?_eq_some_getLast nonempty
    have lastWritable := writable _ (List.getLast_mem nonempty)
    obtain ⟨lastPoint, ends⟩ : ∃ point, (f.getLast nonempty).getLastPoint = .ok point := by
      cases kind : f.getLast nonempty with
      | hyperbolaPayoutCurvePiece h => exact ⟨_, rfl⟩
      | polynomialPayoutCurvePiece points =>
          rw [kind] at lastWritable
          have some : points ≠ [] := by
            rintro rfl
            exact absurd lastWritable (by simp [PayoutFunctionPiece.Writable])
          exact ⟨_, unwrapSome_eq_ok.mpr (List.getLast?_eq_some_getLast some)⟩
    exact ⟨_, pieces, each, _, lastPiece, lastPoint, ends, rfl⟩

end Curve

end P2PLending.Manager.Infos
