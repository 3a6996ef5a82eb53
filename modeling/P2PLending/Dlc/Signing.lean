import P2PLending.Dlc.RedeemScripts
import Mathlib.Logic.Equiv.Fin.Basic

/-! Signatures at the inputs of transactions. The laws say what the code relies
on in the signature scheme; a spend is accepted when its witness satisfies the
script behind the output's hash. -/

namespace P2PLending.Dlc

/-- Signing verifies, a signature verifies under one key only, and the encodings
of signatures and keys can be read back and are short. -/
structure Crypto.Lawful (C : Crypto) : Prop where
  sign_verifies : ∀ m sk, C.verifyEcdsa m (C.signEcdsa m sk) (C.publicKey sk) = true
  own_key_only : ∀ {m s a b}, C.verifyEcdsa m s a = true → C.verifyEcdsa m s b = true → a = b
  der_round_trip : ∀ s, C.parseDer (C.serializeDer s) = some s
  der_length : ∀ s, (C.serializeDer s).length ≤ 72
  key_round_trip : ∀ k : PublicKey, C.parsePublicKey k.serialize = some k

variable (C : Crypto)

/-- The relative timelock rule for an input with the given sequence. -/
def sequenceReached (txSequence : ℕ) (n : ℤ) : Bool :=
  !txSequence.testBit 31 && (n.toNat.testBit 22 == txSequence.testBit 22) &&
    n.toNat % 2 ^ 16 ≤ txSequence % 2 ^ 16

/-- The script checks for one input of a transaction spending `value`. -/
def checker (tx : Transaction) (index value : ℕ) : Script.Checker where
  validEncoding sig := (C.parseDer sig.dropLast).isSome
  checkSig code sig key :=
    match C.parseDer sig.dropLast, sig.getLast?, C.parsePublicKey key with
    | some s, some hashType, some k =>
        C.verifyEcdsa (C.p2wshSignatureHash hashType tx.unsigned index code value) s k
    | _, _, _ => false
  sha256 b := (C.sha256 b).toBytes
  checkSequence n :=
    match tx.input[index]? with
    | some i => 2 ≤ tx.version && sequenceReached i.sequence n
    | none => false

/-- Input `index` of the transaction spends `prev`, whose hash is that of `script`. -/
def spends (tx : Transaction) (index : ℕ) (prev : TxOut) (script : List Script.Op) : Bool :=
  match tx.input[index]? with
  | some i =>
      prev.scriptPubkey = toP2wsh C (Script.toBytes script) &&
        i.witness.getLast? = some (Script.toBytes script) &&
        Script.accepts (checker C tx index prev.value) script i.witness.dropLast
  | none => false

/-- A signature of all of the transaction for one input, spending `value` under
the script code, verifies under the key. -/
def signatureValid (tx : Transaction) (index value : ℕ) (code : List Script.Op)
    (sig : Signature) (k : PublicKey) : Bool :=
  C.verifyEcdsa (C.p2wshSignatureHash sighashAll tx.unsigned index (Script.toBytes code) value)
    sig k

variable {C}

/-- Checking a finalized signature under a key is verifying the signature. -/
theorem checkOne_finalizeSig (lawful : C.Lawful) (tx : Transaction) (index value : ℕ)
    (code : List Script.Op) (sig : Signature) (k : PublicKey) :
    Script.checkOne (checker C tx index value) code (finalizeSig C sig) k.serialize =
      some (signatureValid C tx index value code sig k) := by
  have body : (finalizeSig C sig).dropLast = C.serializeDer sig := by
    rw [finalizeSig, List.dropLast_concat]
  have hashType : (finalizeSig C sig).getLast? = some sighashAll := by
    rw [finalizeSig, List.getLast?_concat]
  have nonempty : finalizeSig C sig ≠ [] := by simp [finalizeSig]
  simp only [Script.checkOne, checker, body, hashType, lawful.der_round_trip,
    lawful.key_round_trip, Option.isSome_some, or_true, if_true, ne_eq, nonempty,
    not_false_eq_true, decide_true, Bool.true_and, signatureValid]

theorem finalizeSig_length (lawful : C.Lawful) (sig : Signature) :
    (finalizeSig C sig).length ≤ 520 := by
  have short := lawful.der_length sig
  simp only [finalizeSig, List.length_append, List.length_singleton]
  omega

/-- A signature made with a secret key verifies under another key only if it is
the secret's own. -/
theorem verify_sign_iff (lawful : C.Lawful) (m : Message) (sk : SecretKey) (k : PublicKey) :
    C.verifyEcdsa m (C.signEcdsa m sk) k = true ↔ k = C.publicKey sk := by
  constructor
  · intro verified
    exact lawful.own_key_only verified (lawful.sign_verifies m sk)
  · rintro rfl
    exact lawful.sign_verifies m sk

/-- A signature known to verify under one key verifies under no other. -/
theorem verify_iff_of_verified (lawful : C.Lawful) {m : Message} {s : Signature}
    {own : PublicKey} (verified : C.verifyEcdsa m s own = true) (k : PublicKey) :
    C.verifyEcdsa m s k = true ↔ k = own := by
  constructor
  · intro other
    exact lawful.own_key_only other verified
  · rintro rfl
    exact verified

theorem signMultiSigInput_ok {tx signed : Transaction} {otherSig : Signature}
    {otherPk : PublicKey} {sk : SecretKey} {script : Bytes} {value index : ℕ}
    (h : signMultiSigInput C tx otherSig otherPk sk script value index = .ok signed) :
    index < tx.input.length ∧ signed = tx.setWitness index
      [[], finalizeSig C (C.signEcdsa
        (C.p2wshSignatureHash sighashAll tx.unsigned index script value) sk),
        finalizeSig C otherSig, script] := by
  simp only [signMultiSigInput, getSigForTxInput, getRawSigForTxInput, getSigHashMsg] at h
  split at h
  · rename_i within
    simp only [Checked.pure_eq_ok, Checked.ok_bind, Except.ok.injEq] at h
    exact ⟨within, h.symm⟩
  · cases h

/-! A signature scheme with the laws. A signature is a pairing of its key and
its message, except that on the sample refund it is the signature secp256k1
makes with the secret keys 1 and 2. -/

def signatureOf : SecretKey × Message ≃ Signature :=
  finProdFinEquiv.trans (finCongr (by decide))

def sampleKey₁ : PublicKey :=
  ⟨0x0279be667ef9dcbbac55a06295ce870b07029bfcdb2dce28d959f2815b16f81798⟩

def sampleKey₂ : PublicKey :=
  ⟨0x02c6047f9441ed7d6d3045406e95c07cd85c778e4b8cef3ca7abac09b95c709ee5⟩

def sampleSignature₁ : Signature :=
  0x4b666f93d356efd086b7eb6735bb1c687bbb106801482d9065d98e8bfd33cabf4311e7b83d654500b2b6e35978c4ba5e6be5fda6cc8385b194c12d1a8bea339c

def sampleSignature₂ : Signature :=
  0x2d70bb3b1d3c60caa9033127909c147db6a6441d1b8ef6c4cd830141374a014619d64aa8e8d055dfcda314e1aa71219082f14b5681da07f1a7a5bb6b3dbfab13

/-- The DER bytes of the two signatures: two integers of 32 bytes each. -/
def sampleDer (s : Signature) : Bytes :=
  [0x30, 0x44, 0x02, 0x20] ++ beBytes 32 (s.val / 2 ^ 256) ++ [0x02, 0x20] ++
    beBytes 32 (s.val % 2 ^ 256)

def sampleScript : Bytes := Script.toBytes (makeFundingRedeemscript sampleKey₁ sampleKey₂)

def sampleFundValue : ℕ := 200000500

def sampleSpk₁ : Bytes := [0x00, 0x14] ++ List.replicate 20 0xaa

def sampleSpk₂ : Bytes := [0x00, 0x14] ++ List.replicate 20 0xbb

def sampleFundTxid : Bytes32 :=
  0x1111111111111111111111111111111111111111111111111111111111111111

/-- The refund of a contract of 100000000 satoshi on each side. -/
def sampleRefund : Transaction where
  lockTime := 100
  input := [{
    previousOutput := ⟨sampleFundTxid, 0⟩
    scriptSig := []
    sequence := enableLocktime
    witness := [] }]
  output := [{ value := 100000000, scriptPubkey := sampleSpk₁ },
    { value := 100000000, scriptPubkey := sampleSpk₂ }]

def sampleDigest : Message :=
  0xcf98548a72d117fd4686093853087b1be6a8654deee8263ae3ae546e1f9c2fcc

/-- Exchange the paired signatures of the sample refund with secp256k1's. -/
def samplePermutation : Equiv.Perm Signature :=
  (Equiv.swap (signatureOf (1, sampleDigest)) sampleSignature₁).trans
    (Equiv.swap (signatureOf (2, sampleDigest)) sampleSignature₂)

def samplePublicKey (sk : SecretKey) : PublicKey :=
  if sk = 1 then sampleKey₁ else if sk = 2 then sampleKey₂ else ⟨⟨sk.val, bytes32_lt_publicKey sk⟩⟩

def sampleCrypto : Crypto where
  sha256 b := if b = sampleScript then
      0x9b984c7bae3efddc3a3f0a20ff81bfe89ed1fe07ff13e562149ee654bed845db
    else 0
  txid _ := sampleFundTxid
  p2wshSignatureHash hashType tx index script value :=
    if hashType = sighashAll ∧ tx = sampleRefund ∧ index = 0 ∧ script = sampleScript ∧
        value = sampleFundValue then sampleDigest
    else 0
  publicKey := samplePublicKey
  parsePublicKey b := some ⟨Fin.ofNat _ (beValue b)⟩
  signEcdsa m sk := samplePermutation (signatureOf (sk, m))
  verifyEcdsa m s k :=
    let (sk, signed) := signatureOf.symm (samplePermutation.symm s)
    signed = m ∧ samplePublicKey sk = k
  serializeDer s := if s = sampleSignature₁ ∨ s = sampleSignature₂ then sampleDer s
    else beBytes 64 s.val
  parseDer b := if b = sampleDer sampleSignature₁ then some sampleSignature₁
    else if b = sampleDer sampleSignature₂ then some sampleSignature₂
    else some (Fin.ofNat _ (beValue b))
  decrypt _ _ := none
  validNonce _ := true

@[simp] theorem sampleDer_length (s : Signature) : (sampleDer s).length = 70 := by
  simp [sampleDer]

theorem sampleCrypto_lawful : sampleCrypto.Lawful where
  sign_verifies m sk := by simp [sampleCrypto]
  own_key_only verified same := by
    simp only [sampleCrypto, decide_eq_true_eq] at verified same
    exact verified.2.symm.trans same.2
  der_round_trip s := by
    have long : ∀ s', beBytes 64 s.val ≠ sampleDer s' := by
      intro s' same
      simpa using congrArg List.length same
    have value : beValue (beBytes 64 s.val) = s.val := beValue_beBytes s.isLt
    have apart : sampleDer sampleSignature₂ ≠ sampleDer sampleSignature₁ := by decide
    by_cases first : s = sampleSignature₁
    · simp [sampleCrypto, first]
    · by_cases second : s = sampleSignature₂
      · simp [sampleCrypto, second, apart]
      · simp [sampleCrypto, first, second, long, value]
  der_length s := by
    simp only [sampleCrypto]
    split
    · rw [sampleDer_length]; omega
    · rw [beBytes_length]; omega
  key_round_trip k := by
    have code : beValue k.serialize = k.code.val := beValue_beBytes k.code.isLt
    simp [sampleCrypto, code]

/-! Schemes with given signatures, for the samples of other scripts: like the one
above, with secp256k1's signature wherever one is given. -/

/-- The signature that secp256k1 makes with a secret key on a digest. -/
structure MadeSignature where
  key : SecretKey
  digest : Message
  signature : Signature

def madePermutation (made : List MadeSignature) : Equiv.Perm Signature :=
  made.foldl (fun p e => p.trans (Equiv.swap (signatureOf (e.key, e.digest)) e.signature))
    (Equiv.refl Signature)

def writeDer (made : List MadeSignature) (s : Signature) : Bytes :=
  if made.any fun e => e.signature == s then sampleDer s else beBytes 64 s.val

def readDer (made : List MadeSignature) (b : Bytes) : Signature :=
  match made.find? fun e => sampleDer e.signature == b with
  | some e => e.signature
  | none => Fin.ofNat _ (beValue b)

def cryptoOf (made : List MadeSignature) (sha256 : Bytes → Bytes32)
    (p2wshSignatureHash : UInt8 → Transaction → ℕ → Bytes → ℕ → Message) : Crypto where
  sha256 := sha256
  txid _ := sampleFundTxid
  p2wshSignatureHash := p2wshSignatureHash
  publicKey := samplePublicKey
  parsePublicKey b := some ⟨Fin.ofNat _ (beValue b)⟩
  signEcdsa m sk := madePermutation made (signatureOf (sk, m))
  verifyEcdsa m s k :=
    let (sk, signed) := signatureOf.symm ((madePermutation made).symm s)
    signed = m ∧ samplePublicKey sk = k
  serializeDer := writeDer made
  parseDer b := some (readDer made b)
  decrypt _ _ := none
  validNonce _ := true

theorem sampleDer_injective {s t : Signature} (same : sampleDer s = sampleDer t) : s = t := by
  have halves : ∀ u : Signature, u.val / 2 ^ 256 < 256 ^ 32 ∧ u.val % 2 ^ 256 < 256 ^ 32 := by
    intro u
    have bound := u.isLt
    omega
  have parts := List.append_inj same (by simp)
  have high := List.append_inj_left' parts.1 rfl
  have high := beBytes_injective (halves s).1 (halves t).1 (List.append_cancel_left high)
  have low := beBytes_injective (halves s).2 (halves t).2 parts.2
  exact Fin.ext (by omega)

theorem readDer_writeDer (made : List MadeSignature) (s : Signature) :
    readDer made (writeDer made s) = s := by
  have value : beValue (beBytes 64 s.val) = s.val := beValue_beBytes s.isLt
  unfold writeDer
  split
  · rename_i given
    obtain ⟨e, listed, same⟩ := List.any_eq_true.mp given
    have there : (made.find? fun e => sampleDer e.signature == sampleDer s).isSome = true := by
      refine List.find?_isSome.mpr ⟨e, listed, ?_⟩
      rw [eq_of_beq same, beq_self_eq_true]
    obtain ⟨e', found⟩ := Option.isSome_iff_exists.mp there
    have read := List.find?_some found
    rw [readDer, found]
    exact sampleDer_injective (eq_of_beq read)
  · have long : made.find? (fun e => sampleDer e.signature == beBytes 64 s.val) = none := by
      refine List.find?_eq_none.mpr fun e _ same => ?_
      have lengths := congrArg List.length (eq_of_beq same)
      rw [sampleDer_length, beBytes_length] at lengths
      cases lengths
    rw [readDer, long, value]
    exact Fin.ofNat_val_eq_self s

theorem cryptoOf_lawful (made : List MadeSignature) (sha256 : Bytes → Bytes32)
    (p2wshSignatureHash : UInt8 → Transaction → ℕ → Bytes → ℕ → Message) :
    (cryptoOf made sha256 p2wshSignatureHash).Lawful where
  sign_verifies m sk := by simp [cryptoOf]
  own_key_only verified same := by
    simp only [cryptoOf, decide_eq_true_eq] at verified same
    exact verified.2.symm.trans same.2
  der_round_trip s := congrArg some (readDer_writeDer made s)
  der_length s := by
    simp only [cryptoOf, writeDer]
    split
    · rw [sampleDer_length]; omega
    · rw [beBytes_length]; omega
  key_round_trip k := by
    have code : beValue k.serialize = k.code.val := beValue_beBytes k.code.isLt
    simp [cryptoOf, code]

end P2PLending.Dlc
