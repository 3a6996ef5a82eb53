import P2PLending.Messages.Encoding

/-! Oracles in messages: their announcements with the events that they announce. Keys,
signatures and transactions have the encodings of the libraries that they come from. -/

namespace P2PLending.Messages

/-- Values of `secp256k1-zkp` and `bitcoin` with the encodings that `lightning` gives them. What a
key or a signature is written as is read back; so is a transaction within the limits of its
own encoding. -/
structure Primitives where
  PublicKey : Type
  SecretKey : Type
  Signature : Type
  AdaptorSignature : Type
  XOnlyPublicKey : Type
  SchnorrSignature : Type
  Transaction : Type
  publicKey : LawfulCodec DecodeError PublicKey
  secretKey : LawfulCodec DecodeError SecretKey
  signature : LawfulCodec DecodeError Signature
  adaptorSignature : LawfulCodec DecodeError AdaptorSignature
  xOnlyPublicKey : LawfulCodec DecodeError XOnlyPublicKey
  schnorrSignature : LawfulCodec DecodeError SchnorrSignature
  transaction : Wire Transaction
  TransactionFits : Transaction → Prop
  transaction_roundTrips : ∀ {tx}, TransactionFits tx → transaction.RoundTrips tx

/-- A list that is short enough to be read, of elements that fit. -/
def VecFits {α : Type} (fits : α → Prop) (l : List α) : Prop :=
  l.length ≤ maxVecSize.toNat ∧ ∀ a ∈ l, fits a

theorem VecFits.roundTrips {α : Type} {fits : α → Prop} {c : Wire α} {l : List α}
    (short : VecFits fits l) (each : ∀ {a}, fits a → c.RoundTrips a) : (vec c).RoundTrips l :=
  vec_roundTrips short.1 fun a listed => each (short.2 a listed)

def StringFits (s : String) : Prop := s.toByteArray.size ≤ maxVecSize.toNat

def ScriptFits (s : Bytes) : Prop := s.length < 2 ^ 16

structure EnumEventDescriptor where
  outcomes : List String
  deriving DecidableEq, Repr

structure DigitDecompositionEventDescriptor where
  base : UInt16
  isSigned : Bool
  unit : String
  precision : Int32
  nbDigits : UInt16
  deriving DecidableEq, Repr

inductive EventDescriptor
  | enumEvent (d : EnumEventDescriptor)
  | digitDecompositionEvent (d : DigitDecompositionEventDescriptor)
  deriving DecidableEq, Repr

namespace EnumEventDescriptor

def wire : Wire EnumEventDescriptor where
  write m := List.flatten [(vecU16 string).write m.outcomes]
  read := do
    let outcomes ← (vecU16 string).read
    return { outcomes }

structure Fits (m : EnumEventDescriptor) : Prop where
  outcomes : m.outcomes.length < 2 ^ 16
  outcome : ∀ s ∈ m.outcomes, StringFits s

theorem roundTrips {m : EnumEventDescriptor} (fits : m.Fits) : wire.RoundTrips m := by
  apply Reads.field (vecU16_roundTrips fits.outcomes fun s listed =>
    string_roundTrips (fits.outcome s listed))
  exact .done _

end EnumEventDescriptor

namespace DigitDecompositionEventDescriptor

def wire : Wire DigitDecompositionEventDescriptor where
  write m := List.flatten [u16.write m.base, bool.write m.isSigned, string.write m.unit,
    i32.write m.precision, u16.write m.nbDigits]
  read := do
    let base ← u16.read
    let isSigned ← bool.read
    let unit ← string.read
    let precision ← i32.read
    let nbDigits ← u16.read
    return { base, isSigned, unit, precision, nbDigits }

theorem roundTrips {m : DigitDecompositionEventDescriptor} (fits : StringFits m.unit) :
    wire.RoundTrips m := by
  apply Reads.field (u16_roundTrips _)
  apply Reads.field (bool_roundTrips _)
  apply Reads.field (string_roundTrips fits)
  apply Reads.field (i32_roundTrips _)
  apply Reads.field (u16_roundTrips _)
  exact .done _

end DigitDecompositionEventDescriptor

namespace EventDescriptor

def enumEventType : UInt64 := 55302
def digitDecompositionEventType : UInt64 := 55306

/-- An event as a record of its type and its length, which is read and not looked at. -/
def wire : Wire EventDescriptor where
  write
    | enumEvent d => List.flatten [bigSize.write enumEventType,
        bigSize.write (UInt64.ofNat (EnumEventDescriptor.wire.write d).length),
        EnumEventDescriptor.wire.write d]
    | digitDecompositionEvent d => List.flatten [bigSize.write digitDecompositionEventType,
        bigSize.write (UInt64.ofNat (DigitDecompositionEventDescriptor.wire.write d).length),
        DigitDecompositionEventDescriptor.wire.write d]
  read := do
    let id ← bigSize.read
    if id = enumEventType then
      let _ ← bigSize.read
      let d ← EnumEventDescriptor.wire.read
      return enumEvent d
    else if id = digitDecompositionEventType then
      let _ ← bigSize.read
      let d ← DigitDecompositionEventDescriptor.wire.read
      return digitDecompositionEvent d
    else throw .unknownRequiredFeature

def Fits : EventDescriptor → Prop
  | enumEvent d => d.Fits
  | digitDecompositionEvent d => StringFits d.unit

theorem roundTrips {m : EventDescriptor} (fits : m.Fits) : wire.RoundTrips m := by
  cases m with
  | enumEvent d =>
      apply Reads.field (bigSize_roundTrips _)
      apply Reads.field (bigSize_roundTrips _)
      apply Reads.field (EnumEventDescriptor.roundTrips fits)
      exact .done _
  | digitDecompositionEvent d =>
      apply Reads.field (bigSize_roundTrips _)
      apply Reads.field (bigSize_roundTrips _)
      apply Reads.field (DigitDecompositionEventDescriptor.roundTrips fits)
      exact .done _

end EventDescriptor

variable (P : Primitives)

structure OracleEvent where
  oracleNonces : List P.XOnlyPublicKey
  eventMaturityEpoch : UInt32
  eventDescriptor : EventDescriptor
  eventId : String

structure OracleAnnouncement where
  announcementSignature : P.SchnorrSignature
  oraclePublicKey : P.XOnlyPublicKey
  oracleEvent : OracleEvent P

structure OracleParams where
  maxErrorExp : UInt16
  minFailExp : UInt16
  maximizeCoverage : Bool
  deriving DecidableEq, Repr

structure SingleOracleInfo where
  oracleAnnouncement : OracleAnnouncement P

structure MultiOracleInfo where
  threshold : UInt16
  oracleAnnouncements : List (OracleAnnouncement P)
  oracleParams : Option OracleParams

inductive OracleInfo
  | single (info : SingleOracleInfo P)
  | multi (info : MultiOracleInfo P)

variable {P}

namespace OracleEvent

def typeId : UInt16 := 55330

def wire : Wire (OracleEvent P) where
  write m := List.flatten [(vecU16 P.xOnlyPublicKey.toCodec).write m.oracleNonces,
    u32.write m.eventMaturityEpoch, EventDescriptor.wire.write m.eventDescriptor,
    string.write m.eventId]
  read := do
    let oracleNonces ← (vecU16 P.xOnlyPublicKey.toCodec).read
    let eventMaturityEpoch ← u32.read
    let eventDescriptor ← EventDescriptor.wire.read
    let eventId ← string.read
    return { oracleNonces, eventMaturityEpoch, eventDescriptor, eventId }

structure Fits (m : OracleEvent P) : Prop where
  oracleNonces : m.oracleNonces.length < 2 ^ 16
  eventDescriptor : m.eventDescriptor.Fits
  eventId : StringFits m.eventId

theorem roundTrips {m : OracleEvent P} (fits : m.Fits) : wire.RoundTrips m := by
  apply Reads.field (vecU16_roundTrips fits.oracleNonces fun k _ => P.xOnlyPublicKey.roundTrips k)
  apply Reads.field (u32_roundTrips _)
  apply Reads.field (EventDescriptor.roundTrips fits.eventDescriptor)
  apply Reads.field (string_roundTrips fits.eventId)
  exact .done _

end OracleEvent

namespace OracleAnnouncement

def typeId : UInt16 := 55332

def wire : Wire (OracleAnnouncement P) where
  write m := List.flatten [P.schnorrSignature.write m.announcementSignature,
    P.xOnlyPublicKey.write m.oraclePublicKey,
    (asTlv OracleEvent.typeId OracleEvent.wire).write m.oracleEvent]
  read := do
    let announcementSignature ← P.schnorrSignature.read
    let oraclePublicKey ← P.xOnlyPublicKey.read
    let oracleEvent ← (asTlv OracleEvent.typeId OracleEvent.wire).read
    return { announcementSignature, oraclePublicKey, oracleEvent }

theorem roundTrips {m : OracleAnnouncement P} (fits : m.oracleEvent.Fits) :
    wire.RoundTrips m := by
  apply Reads.field (P.schnorrSignature.roundTrips _)
  apply Reads.field (P.xOnlyPublicKey.roundTrips _)
  apply Reads.field (asTlv_roundTrips (OracleEvent.roundTrips fits))
  exact .done _

end OracleAnnouncement

namespace OracleParams

def wire : Wire OracleParams where
  write m := List.flatten [u16.write m.maxErrorExp, u16.write m.minFailExp,
    bool.write m.maximizeCoverage]
  read := do
    let maxErrorExp ← u16.read
    let minFailExp ← u16.read
    let maximizeCoverage ← bool.read
    return { maxErrorExp, minFailExp, maximizeCoverage }

theorem roundTrips (m : OracleParams) : wire.RoundTrips m := by
  apply Reads.field (u16_roundTrips _)
  apply Reads.field (u16_roundTrips _)
  apply Reads.field (bool_roundTrips _)
  exact .done _

end OracleParams

/-- An announcement inside another record. -/
def announcementTlv : Wire (OracleAnnouncement P) :=
  asTlv OracleAnnouncement.typeId OracleAnnouncement.wire

namespace SingleOracleInfo

def wire : Wire (SingleOracleInfo P) where
  write m := List.flatten [announcementTlv.write m.oracleAnnouncement]
  read := do
    let oracleAnnouncement ← announcementTlv.read
    return { oracleAnnouncement }

theorem roundTrips {m : SingleOracleInfo P} (fits : m.oracleAnnouncement.oracleEvent.Fits) :
    wire.RoundTrips m := by
  apply Reads.field (asTlv_roundTrips (OracleAnnouncement.roundTrips fits))
  exact .done _

end SingleOracleInfo

namespace MultiOracleInfo

def wire : Wire (MultiOracleInfo P) where
  write m := List.flatten [u16.write m.threshold,
    (vec announcementTlv).write m.oracleAnnouncements,
    (option OracleParams.wire).write m.oracleParams]
  read := do
    let threshold ← u16.read
    let oracleAnnouncements ← (vec announcementTlv).read
    let oracleParams ← (option OracleParams.wire).read
    return { threshold, oracleAnnouncements, oracleParams }

theorem roundTrips {m : MultiOracleInfo P}
    (fits : VecFits (fun a => a.oracleEvent.Fits) m.oracleAnnouncements) : wire.RoundTrips m := by
  apply Reads.field (u16_roundTrips _)
  apply Reads.field (fits.roundTrips fun event =>
    asTlv_roundTrips (OracleAnnouncement.roundTrips event))
  apply Reads.field (option_roundTrips fun params _ => OracleParams.roundTrips params)
  exact .done _

end MultiOracleInfo

namespace OracleInfo

def wire : Wire (OracleInfo P) where
  write
    | single info => List.flatten [u8.write 0, SingleOracleInfo.wire.write info]
    | multi info => List.flatten [u8.write 1, MultiOracleInfo.wire.write info]
  read := do
    let id ← u8.read
    if id = 0 then single <$> SingleOracleInfo.wire.read
    else if id = 1 then multi <$> MultiOracleInfo.wire.read
    else throw .unknownRequiredFeature

def Fits : OracleInfo P → Prop
  | single info => info.oracleAnnouncement.oracleEvent.Fits
  | multi info => VecFits (fun a => a.oracleEvent.Fits) info.oracleAnnouncements

theorem roundTrips {m : OracleInfo P} (fits : m.Fits) : wire.RoundTrips m := by
  cases m with
  | single info =>
      apply Reads.field (u8_roundTrips 0)
      exact .last (SingleOracleInfo.roundTrips fits).map
  | multi info =>
      apply Reads.field (u8_roundTrips 1)
      exact .last (MultiOracleInfo.roundTrips fits).map

end OracleInfo

end P2PLending.Messages
