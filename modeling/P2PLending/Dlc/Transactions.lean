import P2PLending.Foundation.Checked
import P2PLending.Foundation.Script
import Mathlib.Data.List.Sort
import Mathlib.Order.Basic

/-! Transactions and the utility functions of the `dlc` crate. A call returns,
fails with an error, or panics; amounts are checked against `2 ^ 64`. Hashing and
secp256k1 are outside the repository and enter as parameters. Identifiers and
signature hashes never cover a witness. -/

namespace P2PLending.Dlc

/-- A failed call: an error of the crate, or a panic. -/
inductive Fault (ε : Type)
  | err (e : ε)
  | panic (message : String)
  deriving DecidableEq, Repr

/-- The crate's errors, without the causes they wrap. -/
inductive Error
  | secp256k1
  | p2wpkh
  | invalidArgument
  | miniscript
  | inputsIndex
  deriving DecidableEq, Repr

abbrev Result (α : Type) := Except (Fault Error) α

def u64Limit : ℕ := 2 ^ 64

/-- The `checked_add!` of the crate, at amounts and sizes alike. -/
def checkedAdd (a b : ℕ) : Result ℕ := Checked.add u64Limit (.err .invalidArgument) a b

def checkedMul (a b : ℕ) : Result ℕ := Checked.mul u64Limit (.err .invalidArgument) a b

/-- Addition of amounts, which panics. -/
def amountAdd (a b : ℕ) : Result ℕ := Checked.add u64Limit (.panic "Amount addition error") a b

/-- Subtraction of amounts, which panics. -/
def amountSub (a b : ℕ) : Result ℕ := Checked.sub (.panic "Amount subtraction error") a b

def unwrapPanic : String := "called `Result::unwrap()` on an `Err` value"

def assertEq (a b : ℕ) : Result Unit :=
  Checked.ensure (a = b) (.panic "assertion `left == right` failed")

def dustLimit : ℕ := 1000
def fundTxBaseWeight : ℕ := 400
def cetBaseWeight : ℕ := 500
def txInputBaseWeight : ℕ := 164
def disableLocktime : ℕ := 0xffffffff
def enableLocktime : ℕ := 0xfffffffe

structure OutPoint where
  txid : Bytes32
  vout : ℕ
  deriving DecidableEq, Repr

structure TxIn where
  previousOutput : OutPoint
  scriptSig : Bytes
  sequence : ℕ
  witness : List Bytes
  deriving DecidableEq, Repr

structure TxOut where
  value : ℕ
  scriptPubkey : Bytes
  deriving DecidableEq, Repr

/-- A transaction; the crate builds version 2 only. -/
structure Transaction where
  version : ℕ := 2
  lockTime : ℕ
  input : List TxIn
  output : List TxOut
  deriving DecidableEq, Repr

namespace Transaction

/-- The part of a transaction that its identifier and signatures commit to. -/
def unsigned (tx : Transaction) : Transaction :=
  { tx with input := tx.input.map fun i => { i with witness := [] } }

def setWitness (tx : Transaction) (index : ℕ) (witness : List Bytes) : Transaction :=
  { tx with input := tx.input.modify index fun i => { i with witness } }

@[simp] theorem setWitness_unsigned (tx : Transaction) (index : ℕ) (witness : List Bytes) :
    (tx.setWitness index witness).unsigned = tx.unsigned := by
  have cleared : ∀ (l : List TxIn) (n : ℕ),
      (l.modify n fun i => { i with witness }).map (fun i => { i with witness := [] }) =
        l.map fun i => { i with witness := [] } := by
    intro l
    induction l with
    | nil => intro n; simp
    | cons i l ih =>
        intro n
        cases n with
        | zero => simp
        | succ n => simp [ih n]
  simp only [unsigned, setWitness, cleared]

theorem output_eq_of_unsigned {a b : Transaction} (same : a.unsigned = b.unsigned) :
    a.output = b.output := by
  have outputs : a.unsigned.output = b.unsigned.output := congrArg output same
  exact outputs

theorem setWitness_setWitness (tx : Transaction) (index : ℕ) (first second : List Bytes) :
    (tx.setWitness index first).setWitness index second = tx.setWitness index second := by
  simp only [setWitness, List.modify_modify_eq]
  rfl

theorem setWitness_previousOutput (tx : Transaction) (index : ℕ) (witness : List Bytes) :
    (tx.setWitness index witness).input.map TxIn.previousOutput =
      tx.input.map TxIn.previousOutput := by
  have cleared := congrArg (fun tx => tx.input.map TxIn.previousOutput)
    (setWitness_unsigned tx index witness)
  simpa [unsigned, Function.comp_def] using cleared

@[simp] theorem setWitness_length (tx : Transaction) (index : ℕ) (witness : List Bytes) :
    (tx.setWitness index witness).input.length = tx.input.length := by
  simp [setWitness]

end Transaction

instance neZero_publicKey : NeZero (256 ^ 33) := ⟨by decide⟩

instance neZero_signature : NeZero (256 ^ 64) := ⟨by decide⟩

/-- A compressed public key as the number its 33 bytes write; keys are ordered
by these bytes. -/
structure PublicKey where
  code : Fin (256 ^ 33)
  deriving DecidableEq, Repr

instance : LinearOrder PublicKey :=
  LinearOrder.lift' PublicKey.code fun a b same => by cases a; cases b; exact congrArg _ same

def PublicKey.serialize (k : PublicKey) : Bytes := beBytes 33 k.code.val

/-- A word fits in the bytes of a key. -/
theorem bytes32_lt_publicKey (w : Bytes32) : w.val < 256 ^ 33 := by omega

abbrev SecretKey := Bytes32
abbrev Message := Bytes32
/-- The 64 bytes of a compact signature. -/
abbrev Signature := Fin (256 ^ 64)
abbrev AdaptorSignature := Bytes

/-- An oracle's Schnorr signature: its nonce and its scalar. -/
structure OracleSignature where
  nonce : Bytes32
  scalar : Bytes32
  deriving DecidableEq, Repr

/-- What the code takes from `bitcoin` and `secp256k1-zkp`. -/
structure Crypto where
  sha256 : Bytes → Bytes32
  txid : Transaction → Bytes32
  p2wshSignatureHash : (hashType : UInt8) → Transaction → (index : ℕ) → (script : Bytes) →
    (value : ℕ) → Message
  publicKey : SecretKey → PublicKey
  parsePublicKey : Bytes → Option PublicKey
  signEcdsa : Message → SecretKey → Signature
  verifyEcdsa : Message → Signature → PublicKey → Bool
  serializeDer : Signature → Bytes
  parseDer : Bytes → Option Signature
  decrypt : AdaptorSignature → SecretKey → Option Signature
  validNonce : Bytes32 → Bool

variable (C : Crypto)

def Transaction.computeTxid (tx : Transaction) : Bytes32 := C.txid tx.unsigned

def toP2wsh (script : Bytes) : Bytes := [0x00, 0x20] ++ (C.sha256 script).toBytes

/-- The byte of `SIGHASH_ALL`. -/
def sighashAll : UInt8 := 0x01

/-- A double-precision integer nearest to a machine word, ties to even. -/
def f64OfUsize (n : ℕ) : ℕ :=
  let shift := Nat.log2 n - 52
  let quotient := n / 2 ^ shift
  let remainder := n % 2 ^ shift
  let up := 2 ^ shift < 2 * remainder ∨ (2 ^ shift = 2 * remainder ∧ quotient % 2 = 1)
  (if up then quotient + 1 else quotient) * 2 ^ shift

def weightToFee (weight feeRate : ℕ) : Result ℕ := checkedMul ((f64OfUsize weight + 3) / 4) feeRate

def redeemScriptToScriptSig (redeem : Bytes) : Result Bytes :=
  if redeem.length = 0 then pure []
  else if redeem.length = 20 ∨ redeem.length = 32 then
    pure ([0x00, UInt8.ofNat redeem.length] ++ redeem)
  else .error (.panic unwrapPanic)

/-- A stable sort of the inputs by the ids paired with them. -/
def orderBySerialIds {α : Type} (inputs : List α) (ids : List ℕ) : List α :=
  ((ids.zip inputs).mergeSort fun a b => a.1 ≤ b.1).map Prod.snd

/-- The first output with the script, with its index. -/
def getOutputForScriptPubkey (tx : Transaction) (scriptPubkey : Bytes) : Option (ℕ × TxOut) :=
  (tx.output.zipIdx.find? fun o => o.1.scriptPubkey = scriptPubkey).map Prod.swap

def discardDust (outputs : List TxOut) (limit : ℕ) : List TxOut :=
  outputs.filter fun o => limit ≤ o.value

def getSequence (lockTime : ℕ) : ℕ := if lockTime = 0 then disableLocktime else enableLocktime

def getSigHashMsg (tx : Transaction) (index : ℕ) (script : Bytes) (value : ℕ) :
    Result Message :=
  if index < tx.input.length then
    pure (C.p2wshSignatureHash sighashAll tx.unsigned index script value)
  else .error (.err .inputsIndex)

/-- The signature type appended to the DER bytes. -/
def finalizeSig (sig : Signature) : Bytes := C.serializeDer sig ++ [sighashAll]

def getRawSigForTxInput (tx : Transaction) (index : ℕ) (script : Bytes) (value : ℕ)
    (sk : SecretKey) : Result Signature := do
  let msg ← getSigHashMsg C tx index script value
  pure (C.signEcdsa msg sk)

def getSigForTxInput (tx : Transaction) (index : ℕ) (script : Bytes) (value : ℕ)
    (sk : SecretKey) : Result Bytes := do
  let sig ← getRawSigForTxInput C tx index script value sk
  pure (finalizeSig C sig)

/-- An input that exists can be signed. -/
theorem getSigForTxInput_exists (tx : Transaction) {index : ℕ} (script : Bytes) (value : ℕ)
    (sk : SecretKey) (exists_ : index < tx.input.length) :
    ∃ sig, getSigForTxInput C tx index script value sk = .ok sig := by
  rw [getSigForTxInput, getRawSigForTxInput, getSigHashMsg, if_pos exists_]
  exact ⟨_, rfl⟩

/-- The keys' order is not consulted: the own signature always stands first. -/
def signMultiSigInput (tx : Transaction) (otherSig : Signature) (_otherPk : PublicKey)
    (sk : SecretKey) (script : Bytes) (value : ℕ) (index : ℕ) : Result Transaction := do
  let ownSig ← getSigForTxInput C tx index script value sk
  pure (tx.setWitness index [[], ownSig, finalizeSig C otherSig, script])

/-- `verify_tx_input_sig`. -/
def verifyTxInputSig (sig : Signature) (tx : Transaction) (index : ℕ) (script : Bytes)
    (value : ℕ) (pk : PublicKey) : Result Unit := do
  let msg ← getSigHashMsg C tx index script value
  Checked.ensure (C.verifyEcdsa msg sig pk = true) (.err .secp256k1)

/-- The order of the secp256k1 group. -/
def curveOrder : ℕ := 0xfffffffffffffffffffffffffffffffebaaedce6af48a03bbfd25e8cd0364141

/-- `SecretKey::from_slice` of 32 bytes, failing as the caller says. -/
def secretKeyFromSlice (fault : Fault Error) (scalar : Bytes32) : Result SecretKey :=
  if 0 < scalar.val ∧ scalar.val < curveOrder then pure scalar else .error fault

/-- The sum of two secrets, which `unwrap`s: a zero sum panics. -/
def addTweak (secret tweak : SecretKey) : Result SecretKey := do
  let sum := (secret.val + tweak.val) % curveOrder
  if 0 < sum then pure (Fin.ofNat _ sum) else .error (.panic unwrapPanic)

/-- The secret that completes an adaptor signature: the sum of the scalars of
the oracles' signatures. -/
def signaturesToSecret (signatures : List (List OracleSignature)) : Result SecretKey := do
  let scalars ← signatures.flatten.mapM fun s =>
    if C.validNonce s.nonce = true then pure s.scalar else .error (.err .secp256k1)
  match scalars with
  | [] => .error (.panic "index out of bounds: the len is 0 but the index is 0")
  | first :: rest => do
      let secret ← secretKeyFromSlice (.err .secp256k1) first
      rest.foldlM (fun total scalar => do
        let tweak ← secretKeyFromSlice (.panic unwrapPanic) scalar
        addTweak total tweak) secret

/-- Adapt the counterparty's signature with the oracles' secret and sign input 0. -/
def signCet (cet : Transaction) (adaptorSignature : AdaptorSignature)
    (oracleSignatures : List (List OracleSignature)) (fundingSk : SecretKey)
    (otherPk : PublicKey) (fundingScript : Bytes) (fundOutputValue : ℕ) :
    Result Transaction := do
  let secret ← signaturesToSecret C oracleSignatures
  let adapted ← (C.decrypt adaptorSignature secret).elim (.error (.err .secp256k1)) .ok
  signMultiSigInput C cet adapted otherPk fundingSk fundingScript fundOutputValue 0

end P2PLending.Dlc
