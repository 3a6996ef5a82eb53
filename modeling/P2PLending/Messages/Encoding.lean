import P2PLending.Foundation.Codec

/-! The encodings that messages are made of: those of `lightning` for words and scripts and the
crate's own helpers for lengths, lists, options, strings and nested records. The length of a list
is written as it comes and checked when it is read. -/

namespace P2PLending.Messages

inductive DecodeError
  | unknownRequiredFeature
  | invalidValue
  | shortRead
  deriving DecidableEq, Repr

abbrev Reading (α : Type) := Reader DecodeError α
abbrev Wire (α : Type) := Codec DecodeError α

variable {α : Type}

def u8 : Wire UInt8 := Codec.u8 .shortRead
def u16 : Wire UInt16 := Codec.u16 .shortRead
def u32 : Wire UInt32 := Codec.u32 .shortRead
def u64 : Wire UInt64 := Codec.u64 .shortRead
def bytes32 : Wire Bytes32 := Codec.bytes32 .shortRead

theorem u8_roundTrips (x : UInt8) : u8.RoundTrips x := Codec.u8_roundTrips _ x
theorem u16_roundTrips (x : UInt16) : u16.RoundTrips x := Codec.u16_roundTrips _ x
theorem u32_roundTrips (x : UInt32) : u32.RoundTrips x := Codec.u32_roundTrips _ x
theorem u64_roundTrips (x : UInt64) : u64.RoundTrips x := Codec.u64_roundTrips _ x
theorem bytes32_roundTrips (x : Bytes32) : bytes32.RoundTrips x := Codec.bytes32_roundTrips _ x

-- so that no unification counts up to `2 ^ 256`
attribute [irreducible] bytes32

def bool : Wire Bool where
  write b := u8.write (if b then 1 else 0)
  read := do
    let x ← u8.read
    if x = 0 then return false
    else if x = 1 then return true
    else throw .invalidValue

theorem bool_roundTrips (b : Bool) : bool.RoundTrips b := by
  refine (u8_roundTrips (if b then 1 else 0)).bind_pure ?_
  cases b
  · exact .pure false
  · exact .pure true

/-- A double-precision number by its bits. -/
structure F64 where
  bits : UInt64
  deriving DecidableEq, Repr

/-- `write_f64`, `read_f64` -/
def f64 : Wire F64 := u64.map F64.bits F64.mk

theorem f64_roundTrips (x : F64) : f64.RoundTrips x := (u64_roundTrips x.bits).mapped rfl

/-- `write_i32`, `read_i32` -/
def i32 : Wire Int32 := u32.map Int32.toUInt32 UInt32.toInt32

theorem i32_roundTrips (x : Int32) : i32.RoundTrips x := (u32_roundTrips x.toUInt32).mapped rfl

/-- The script of an output, with its length in two bytes. -/
def script : Wire Bytes where
  write s := u16.write (UInt16.ofNat s.length) ++ s
  read := do
    let len ← u16.read
    readBytes .shortRead len.toNat

theorem script_roundTrips {s : Bytes} (fits : s.length < 2 ^ 16) : script.RoundTrips s := by
  have body := readBytes_reads DecodeError.shortRead s
  rw [← UInt16.toNat_ofNat_of_lt' fits] at body
  exact (u16_roundTrips _).bind body

/-! The helpers of `ser_impls`. -/

def bigSize : Wire UInt64 where
  write n :=
    if n ≤ 0xFC then u8.write n.toUInt8
    else if n ≤ 0xFFFF then u8.write 0xFD ++ u16.write n.toUInt16
    else if n ≤ 0xFFFFFFFF then u8.write 0xFE ++ u32.write n.toUInt32
    else u8.write 0xFF ++ u64.write n
  read := do
    let n ← u8.read
    if n = 0xFF then
      let x ← u64.read
      if x < 0x100000000 then throw .invalidValue else return x
    else if n = 0xFE then
      let x ← u32.read
      if x < 0x10000 then throw .invalidValue else return x.toUInt64
    else if n = 0xFD then
      let x ← u16.read
      if x < 0xFD then throw .invalidValue else return x.toUInt64
    else return n.toUInt64

/-- The marker says how many bytes the number has, and the number needs them all. -/
theorem bigSize_roundTrips (n : UInt64) : bigSize.RoundTrips n := by
  unfold Codec.RoundTrips bigSize
  dsimp only
  split
  next small =>
    rw [UInt64.le_iff_toNat_le] at small
    have byte : n.toUInt8.toNat = n.toNat := by
      rw [UInt64.toNat_toUInt8]
      exact Nat.mod_eq_of_lt (small.trans_lt (by decide))
    have other : ∀ marker : UInt8, 0xFC < marker.toNat → n.toUInt8 ≠ marker := by
      rintro _ large rfl
      rw [byte] at large
      exact absurd small (Nat.not_le.mpr large)
    refine (u8_roundTrips _).bind_pure (.ite_neg (other _ (by decide))
      (.ite_neg (other _ (by decide)) (.ite_neg (other _ (by decide)) ?_)))
    rw [show n.toUInt8.toUInt64 = n from UInt64.toNat_inj.mp byte]
    exact .pure n
  next large =>
  rw [UInt64.not_le, UInt64.lt_iff_toNat_lt] at large
  split
  next small =>
    rw [UInt64.le_iff_toNat_le] at small
    have word : n.toUInt16.toNat = n.toNat := by
      rw [UInt64.toNat_toUInt16]
      exact Nat.mod_eq_of_lt (small.trans_lt (by decide))
    have needed : ¬ n.toUInt16 < 0xFD := by
      rw [UInt16.lt_iff_toNat_lt, word]
      exact Nat.not_lt.mpr large
    refine (u8_roundTrips _).bind ((u16_roundTrips _).bind_pure (.ite_neg needed ?_))
    rw [show n.toUInt16.toUInt64 = n from UInt64.toNat_inj.mp word]
    exact .pure n
  next large =>
  rw [UInt64.not_le, UInt64.lt_iff_toNat_lt] at large
  split
  next small =>
    rw [UInt64.le_iff_toNat_le] at small
    have word : n.toUInt32.toNat = n.toNat := by
      rw [UInt64.toNat_toUInt32]
      exact Nat.mod_eq_of_lt (small.trans_lt (by decide))
    have needed : ¬ n.toUInt32 < 0x10000 := by
      rw [UInt32.lt_iff_toNat_lt, word]
      exact Nat.not_lt.mpr large
    refine (u8_roundTrips _).bind ((u32_roundTrips _).bind_pure (.ite_neg needed ?_))
    rw [show n.toUInt32.toUInt64 = n from UInt64.toNat_inj.mp word]
    exact .pure n
  next large =>
    rw [UInt64.not_le, UInt64.lt_iff_toNat_lt] at large
    have needed : ¬ n < 0x100000000 := by
      rw [UInt64.lt_iff_toNat_lt]
      exact Nat.not_lt.mpr large
    exact (u8_roundTrips _).bind ((u64_roundTrips n).bind_pure (.ite_neg needed (.pure n)))

def maxVecSize : UInt64 := 1000000

def string : Wire String where
  write s := bigSize.write (UInt64.ofNat s.toByteArray.size) ++
    s.toByteArray.data.toList.flatMap u8.write
  read := do
    let len ← bigSize.read
    if maxVecSize < len then throw .invalidValue
    else
      let buf ← readMany u8.read len.toNat
      match String.fromUTF8? ⟨buf.toArray⟩ with
      | some s => return s
      | none => throw .invalidValue

theorem fromUTF8?_toByteArray (s : String) : String.fromUTF8? s.toByteArray = some s :=
  dif_pos s.isValidUTF8

theorem string_roundTrips {s : String} (fits : s.toByteArray.size ≤ maxVecSize.toNat) :
    string.RoundTrips s := by
  have small : s.toByteArray.size < 2 ^ 64 := fits.trans_lt (by decide)
  have counted : (UInt64.ofNat s.toByteArray.size).toNat = s.toByteArray.data.toList.length :=
    UInt64.toNat_ofNat_of_lt' small
  have body : Reads (readMany u8.read s.toByteArray.data.toList.length)
      (s.toByteArray.data.toList.flatMap u8.write) s.toByteArray.data.toList :=
    Codec.RoundTrips.readMany fun x _ => u8_roundTrips x
  rw [← counted] at body
  refine (bigSize_roundTrips _).bind (.ite_neg ?_ (body.bind_pure ?_))
  · rw [UInt64.not_lt, UInt64.le_iff_toNat_le, UInt64.toNat_ofNat_of_lt' small]
    exact fits
  · rw [Array.toArray_toList, fromUTF8?_toByteArray]
    exact .pure s

/-- `read_vec_cb` -/
def readVec (r : Reading α) : Reading (List α) := do
  let len ← bigSize.read
  if maxVecSize < len then throw .invalidValue else readMany r len.toNat

/-- `write_vec_cb`, `read_vec_cb` -/
def vec (c : Wire α) : Wire (List α) where
  write l := bigSize.write (UInt64.ofNat l.length) ++ l.flatMap c.write
  read := readVec c.read

theorem vec_roundTrips {c : Wire α} {l : List α} (fits : l.length ≤ maxVecSize.toNat)
    (each : ∀ a ∈ l, c.RoundTrips a) : (vec c).RoundTrips l := by
  have small : l.length < 2 ^ 64 := fits.trans_lt (by decide)
  have body := Codec.RoundTrips.readMany each
  rw [← UInt64.toNat_ofNat_of_lt' small] at body
  refine (bigSize_roundTrips _).bind (.ite_neg ?_ body)
  rw [UInt64.not_lt, UInt64.le_iff_toNat_le, UInt64.toNat_ofNat_of_lt' small]
  exact fits

/-- `write_vec_u16_cb`, `read_vec_u16_cb` -/
def vecU16 (c : Wire α) : Wire (List α) where
  write l := u16.write (UInt16.ofNat l.length) ++ l.flatMap c.write
  read := do
    let len ← u16.read
    readMany c.read len.toNat

theorem vecU16_roundTrips {c : Wire α} {l : List α} (fits : l.length < 2 ^ 16)
    (each : ∀ a ∈ l, c.RoundTrips a) : (vecU16 c).RoundTrips l := by
  have body := Codec.RoundTrips.readMany each
  rw [← UInt16.toNat_ofNat_of_lt' fits] at body
  exact (u16_roundTrips _).bind body

/-- `write_option_cb`, `read_option_cb` -/
def option (c : Wire α) : Wire (Option α) where
  write
    | some a => u8.write 1 ++ c.write a
    | none => u8.write 0
  read := do
    let tag ← u8.read
    if tag = 0 then return none
    else if tag = 1 then
      let a ← c.read
      return some a
    else throw .invalidValue

theorem option_roundTrips {c : Wire α} {o : Option α} (each : ∀ a ∈ o, c.RoundTrips a) :
    (option c).RoundTrips o := by
  cases o with
  | none => exact (u8_roundTrips 0).bind_pure (.pure none)
  | some a => exact (u8_roundTrips 1).bind ((each a rfl).bind_pure (.pure (some a)))

/-- `write_as_tlv`, `read_as_tlv`: the type and the length are read and not looked at. -/
def asTlv (typeId : UInt16) (c : Wire α) : Wire α where
  write a := bigSize.write typeId.toUInt64 ++
    (bigSize.write (UInt64.ofNat (c.write a).length) ++ c.write a)
  read := do
    let _ ← bigSize.read
    let _ ← bigSize.read
    c.read

theorem asTlv_roundTrips {typeId : UInt16} {c : Wire α} {a : α} (value : c.RoundTrips a) :
    (asTlv typeId c).RoundTrips a :=
  (bigSize_roundTrips _).bind ((bigSize_roundTrips _).bind value)

end P2PLending.Messages
