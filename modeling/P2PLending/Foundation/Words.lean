import Mathlib.Data.Nat.Basic
import Mathlib.Data.UInt

/-! Byte strings and the fixed-width words the two programs exchange. A 32-byte
array and a 16-byte integer are kept as bounded numbers; their byte strings are
big-endian. -/

namespace P2PLending

abbrev Bytes := List UInt8

/-- A 32-byte array (`bytes32`, `[u8; 32]`) read as a big-endian number. -/
abbrev Bytes32 := Fin (2 ^ 256)

abbrev Uint128 := Fin (2 ^ 128)

/-! Named instances for the literals of the bounded numbers. -/

instance neZero_bytes32 : NeZero (2 ^ 256) := ⟨by decide⟩

instance neZero_uint128 : NeZero (2 ^ 128) := ⟨by decide⟩

/-- The `len` low bytes of `n`, most significant first. -/
def beBytes : (len : ℕ) → (n : ℕ) → Bytes
  | 0, _ => []
  | len + 1, n => beBytes len (n / 256) ++ [UInt8.ofNat (n % 256)]

@[simp] theorem beBytes_length (len n : ℕ) : (beBytes len n).length = len := by
  induction len generalizing n with
  | zero => rfl
  | succ len ih => simp [beBytes, ih]

/-- The number that big-endian bytes write. -/
def beValue (b : Bytes) : ℕ := b.foldl (fun n x => 256 * n + x.toNat) 0

theorem beValue_beBytes {len n : ℕ} (hn : n < 256 ^ len) : beValue (beBytes len n) = n := by
  induction len generalizing n with
  | zero => rw [pow_zero, Nat.lt_one_iff] at hn; rw [hn]; rfl
  | succ len ih =>
      have high : n / 256 < 256 ^ len := Nat.div_lt_of_lt_mul (by rw [pow_succ] at hn; omega)
      have quotient := ih high
      simp only [beValue, beBytes, List.foldl_append, List.foldl_cons, List.foldl_nil] at quotient ⊢
      have byte : n % 256 < UInt8.size := Nat.mod_lt n (by decide)
      rw [quotient, UInt8.toNat_ofNat_of_lt' byte]
      exact Nat.div_add_mod n 256

/-- Two numbers below `256 ^ len` with the same big-endian bytes are equal. -/
theorem beBytes_injective {len m n : ℕ} (hm : m < 256 ^ len) (hn : n < 256 ^ len)
    (same : beBytes len m = beBytes len n) : m = n := by
  rw [← beValue_beBytes hm, same, beValue_beBytes hn]

def Uint128.toBeBytes (p : Uint128) : Bytes := beBytes 16 p.val

@[simp] theorem Uint128.toBeBytes_length (p : Uint128) : p.toBeBytes.length = 16 :=
  beBytes_length 16 p.val

def Bytes32.toBytes (h : Bytes32) : Bytes := beBytes 32 h.val

theorem Bytes32.toBytes_injective {g h : Bytes32} (same : g.toBytes = h.toBytes) : g = h :=
  Fin.ext (beBytes_injective (g.isLt.trans_le (by decide)) (h.isLt.trans_le (by decide)) same)

end P2PLending
