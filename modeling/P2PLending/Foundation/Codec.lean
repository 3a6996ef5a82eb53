import P2PLending.Foundation.Words
import P2PLending.Foundation.Checked

/-! Readers of byte strings, and codecs: a writer with the reader of what it writes. A reader
takes a value from the front of the bytes and leaves the others. -/

namespace P2PLending

abbrev Reader (ε α : Type) := StateT Bytes (Except ε) α

variable {ε α β : Type}

/-- On the bytes, whatever follows them, the reader gives the value and stops at their end. -/
def Reads (r : Reader ε α) (bytes : Bytes) (a : α) : Prop :=
  ∀ rest, r.run (bytes ++ rest) = .ok (a, rest)

namespace Reads

theorem pure (a : α) : Reads (ε := ε) (Pure.pure a) [] a := fun _ => rfl

theorem bind {r : Reader ε α} {f : α → Reader ε β} {first last : Bytes} {a : α} {b : β}
    (head : Reads r first a) (tail : Reads (f a) last b) : Reads (r >>= f) (first ++ last) b := by
  intro rest
  rw [List.append_assoc, StateT.run_bind, head]
  exact tail rest

theorem map {r : Reader ε α} {f : α → β} {bytes : Bytes} {a : α} (read : Reads r bytes a) :
    Reads (f <$> r) bytes (f a) := by
  intro rest
  rw [StateT.run_map, read]
  rfl

theorem ite_pos {c : Prop} [Decidable c] {r s : Reader ε α} {bytes : Bytes} {a : α} (holds : c)
    (read : Reads r bytes a) : Reads (if c then r else s) bytes a := by
  rw [if_pos holds]
  exact read

theorem ite_neg {c : Prop} [Decidable c] {r s : Reader ε α} {bytes : Bytes} {a : α} (fails : ¬ c)
    (read : Reads s bytes a) : Reads (if c then r else s) bytes a := by
  rw [if_neg fails]
  exact read

/-- What is read before a value that takes no bytes. -/
theorem bind_pure {r : Reader ε α} {f : α → Reader ε β} {bytes : Bytes} {a : α} {b : β}
    (head : Reads r bytes a) (tail : Reads (f a) [] b) : Reads (r >>= f) bytes b := by
  have both := head.bind tail
  rw [List.append_nil] at both
  exact both

/-! A record is read field by field. -/

theorem done (a : α) : Reads (ε := ε) (Pure.pure a) ([] : List Bytes).flatten a := pure a

theorem last {r : Reader ε α} {bytes : Bytes} {a : α} (read : Reads r bytes a) :
    Reads r [bytes].flatten a := by
  rw [List.flatten_singleton]
  exact read

theorem field {r : Reader ε α} {f : α → Reader ε β} {first : Bytes} {others : List Bytes} {a : α}
    {b : β} (head : Reads r first a) (tail : Reads (f a) others.flatten b) :
    Reads (r >>= f) (first :: others).flatten b := by
  rw [List.flatten_cons]
  exact head.bind tail

end Reads

/-- Exactly so many bytes. -/
def readBytes (short : ε) (len : ℕ) : Reader ε Bytes := fun input =>
  if len ≤ input.length then .ok (input.take len, input.drop len) else .error short

theorem readBytes_reads (short : ε) (bytes : Bytes) :
    Reads (readBytes short bytes.length) bytes bytes := by
  intro rest
  have enough : bytes.length ≤ (bytes ++ rest).length := by simp
  have read : (readBytes short bytes.length).run (bytes ++ rest) =
      .ok ((bytes ++ rest).take bytes.length, (bytes ++ rest).drop bytes.length) := if_pos enough
  rw [read, List.take_left, List.drop_left]

/-- One value after the other. -/
def readMany (r : Reader ε α) : ℕ → Reader ε (List α)
  | 0 => pure []
  | n + 1 => do
      let a ← r
      let others ← readMany r n
      return a :: others

/-! A reader never leaves more than it was given. -/

namespace Reader

def Shrinks (r : Reader ε α) : Prop :=
  ∀ {input a rest}, r.run input = .ok (a, rest) → rest.length ≤ input.length

theorem shrinks_pure (a : α) : Shrinks (ε := ε) (Pure.pure a) := by
  intro input b rest read
  cases read
  exact Nat.le_refl _

theorem shrinks_throw (e : ε) : Shrinks (throw e : Reader ε α) := by
  intro input a rest read
  cases read

theorem shrinks_bind {r : Reader ε α} {f : α → Reader ε β} (head : Shrinks r)
    (tail : ∀ a, Shrinks (f a)) : Shrinks (r >>= f) := by
  intro input b rest read
  rw [StateT.run_bind] at read
  obtain ⟨⟨a, between⟩, first, last⟩ := Checked.bind_eq_ok.mp read
  exact (tail a last).trans (head first)

theorem shrinks_map {r : Reader ε α} {f : α → β} (inner : Shrinks r) : Shrinks (f <$> r) := by
  rw [map_eq_pure_bind]
  exact shrinks_bind inner fun a => shrinks_pure (f a)

theorem shrinks_ite {c : Prop} [Decidable c] {r s : Reader ε α} (yes : Shrinks r)
    (no : Shrinks s) : Shrinks (if c then r else s) := by
  split
  · exact yes
  · exact no

theorem shrinks_readBytes (short : ε) (len : ℕ) : Shrinks (readBytes short len) := by
  intro input a rest read
  have taken : (if len ≤ input.length then .ok (input.take len, input.drop len)
    else .error short : Except ε (Bytes × Bytes)) = .ok (a, rest) := read
  split at taken
  · cases taken
    simp
  · cases taken

theorem shrinks_readMany {r : Reader ε α} (each : Shrinks r) (n : ℕ) : Shrinks (readMany r n) := by
  induction n with
  | zero => exact shrinks_pure []
  | succ n ih => exact shrinks_bind each fun a => shrinks_bind ih fun others => shrinks_pure _

/-- The same result on every input of at most so many bytes. -/
def AgreeUpTo (bound : ℕ) (r s : Reader ε α) : Prop :=
  ∀ input : Bytes, input.length ≤ bound → r.run input = s.run input

theorem AgreeUpTo.bind {bound : ℕ} {r s : Reader ε α} {f g : α → Reader ε β}
    (head : AgreeUpTo bound r s) (shrinks : Shrinks r) (tail : ∀ a, AgreeUpTo bound (f a) (g a)) :
    AgreeUpTo bound (r >>= f) (s >>= g) := by
  intro input short
  rw [StateT.run_bind, StateT.run_bind, ← head input short]
  cases read : r.run input with
  | error e => rfl
  | ok result => exact tail result.1 result.2 ((shrinks read).trans short)

theorem AgreeUpTo.readMany {bound : ℕ} {r s : Reader ε α} (each : AgreeUpTo bound r s)
    (shrinks : Shrinks r) (n : ℕ) : AgreeUpTo bound (readMany r n) (readMany s n) := by
  induction n with
  | zero => exact fun _ _ => rfl
  | succ n ih =>
      exact each.bind shrinks fun a => ih.bind (shrinks_readMany shrinks n) fun others _ _ => rfl

end Reader

structure Codec (ε α : Type) where
  write : α → Bytes
  read : Reader ε α

namespace Codec

/-- The reader undoes the writer at this value. -/
def RoundTrips (c : Codec ε α) (a : α) : Prop := Reads c.read (c.write a) a

theorem RoundTrips.readMany {c : Codec ε α} {values : List α} (each : ∀ a ∈ values, c.RoundTrips a) :
    Reads (readMany c.read values.length) (values.flatMap c.write) values := by
  induction values with
  | nil => exact .pure []
  | cons a values ih =>
      obtain ⟨head, tail⟩ := List.forall_mem_cons.mp each
      rw [List.flatMap_cons]
      exact head.bind ((ih tail).bind_pure (.pure _))

/-- The same bytes for the values of another type. -/
def map (c : Codec ε α) (out : β → α) (back : α → β) : Codec ε β where
  write b := c.write (out b)
  read := back <$> c.read

theorem RoundTrips.mapped {c : Codec ε α} {out : β → α} {back : α → β} {b : β}
    (inner : c.RoundTrips (out b)) (inverse : back (out b) = b) : (c.map out back).RoundTrips b := by
  have read := inner.map (f := back)
  rw [inverse] at read
  exact read

section Words
variable (short : ε)

/-- A number in big-endian bytes. -/
def word (len : ℕ) : Codec ε ℕ where
  write := beBytes len
  read := beValue <$> readBytes short len

theorem word_roundTrips (len : ℕ) {n : ℕ} (fits : n < 256 ^ len) : (word short len).RoundTrips n := by
  have read := readBytes_reads short (beBytes len n)
  rw [beBytes_length] at read
  have valued := Reads.map (f := beValue) read
  rw [beValue_beBytes fits] at valued
  exact valued

def u8 : Codec ε UInt8 := (word short 1).map UInt8.toNat UInt8.ofNat
def u16 : Codec ε UInt16 := (word short 2).map UInt16.toNat UInt16.ofNat
def u32 : Codec ε UInt32 := (word short 4).map UInt32.toNat UInt32.ofNat
def u64 : Codec ε UInt64 := (word short 8).map UInt64.toNat UInt64.ofNat
def bytes32 : Codec ε Bytes32 := (word short 32).map Fin.val (Fin.ofNat _)

theorem u8_roundTrips (x : UInt8) : (u8 short).RoundTrips x :=
  (word_roundTrips short 1 x.toNat_lt).mapped UInt8.ofNat_toNat

theorem u16_roundTrips (x : UInt16) : (u16 short).RoundTrips x :=
  (word_roundTrips short 2 x.toNat_lt).mapped UInt16.ofNat_toNat

theorem u32_roundTrips (x : UInt32) : (u32 short).RoundTrips x :=
  (word_roundTrips short 4 x.toNat_lt).mapped UInt32.ofNat_toNat

theorem u64_roundTrips (x : UInt64) : (u64 short).RoundTrips x :=
  (word_roundTrips short 8 x.toNat_lt).mapped UInt64.ofNat_toNat

theorem bytes32_roundTrips (x : Bytes32) : (bytes32 short).RoundTrips x :=
  (word_roundTrips short 32 (x.isLt.trans_le (by decide))).mapped
    (Fin.ext (Nat.mod_eq_of_lt x.isLt))

end Words

end Codec

/-- A codec that undoes itself at every value. -/
structure LawfulCodec (ε α : Type) extends Codec ε α where
  roundTrips : ∀ a, toCodec.RoundTrips a

end P2PLending
