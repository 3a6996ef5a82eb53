import P2PLending.Dlc.Combinations
import P2PLending.Dlc.Signing

/-! Adaptor signatures and the points they are made under. A point adds up the
signature points of the selected oracles; the signature of a transaction under it
covers the transaction's signature hash. -/

namespace P2PLending.Dlc
open Checked

/-- What the code takes from `secp256k1-zkp` about adaptor signatures. Encryption
is taken without auxiliary randomness. -/
structure AdaptorCrypto extends Crypto where
  encrypt : Message → SecretKey → (point : PublicKey) → AdaptorSignature
  verifyAdaptor : AdaptorSignature → Message → (signer point : PublicKey) → Bool
  sigPoint : (pubkey nonce : Bytes32) → Message → Option PublicKey
  combineKeys : List PublicKey → Option PublicKey

/-- Adaptor signing is complete, and bound to message, key and point. -/
structure AdaptorCrypto.Bound (K : AdaptorCrypto) : Prop where
  verifies : ∀ msg sk point msg' signer point',
    K.verifyAdaptor (K.encrypt msg sk point) msg' signer point' = true ↔
      msg' = msg ∧ signer = K.publicKey sk ∧ point' = point

theorem AdaptorCrypto.Bound.encrypt_inj {K : AdaptorCrypto} (bound : K.Bound) {msg msg' : Message}
    {sk sk' : SecretKey} {point point' : PublicKey} :
    K.encrypt msg sk point = K.encrypt msg' sk' point' →
      msg = msg' ∧ K.publicKey sk = K.publicKey sk' ∧ point = point' := by
  intro same
  have own := (bound.verifies msg sk point msg _ point).mpr ⟨rfl, rfl, rfl⟩
  rw [same] at own
  exact (bound.verifies msg' sk' point' msg _ point).mp own

theorem PublicKey.serialize_injective {k l : PublicKey} (same : k.serialize = l.serialize) :
    k = l := by
  have codes := beBytes_injective k.code.isLt l.code.isLt same
  cases k
  cases l
  exact congrArg _ (Fin.ext codes)

/-- Adaptor signatures as the message, the signer and the point they are bound to. -/
def sampleAdaptorCrypto : AdaptorCrypto where
  toCrypto := sampleCrypto
  encrypt msg sk point := msg.toBytes ++ ((samplePublicKey sk).serialize ++ point.serialize)
  verifyAdaptor sig msg signer point :=
    sig = msg.toBytes ++ (signer.serialize ++ point.serialize)
  sigPoint _ _ msg := some ⟨⟨msg.val, bytes32_lt_publicKey msg⟩⟩
  combineKeys keys := keys.head?

theorem sampleAdaptorCrypto_bound : sampleAdaptorCrypto.Bound where
  verifies msg sk point msg' signer point' := by
    simp only [sampleAdaptorCrypto, decide_eq_true_eq]
    constructor
    · intro same
      obtain ⟨messages, keys⟩ := List.append_inj same (by simp [Bytes32.toBytes])
      obtain ⟨signers, points⟩ := List.append_inj keys (by simp [PublicKey.serialize])
      exact ⟨(Bytes32.toBytes_injective messages).symm,
        (PublicKey.serialize_injective signers).symm,
        (PublicKey.serialize_injective points).symm⟩
    · rintro ⟨rfl, rfl, rfl⟩
      rfl

/-- An oracle's key and nonces for one event. -/
structure OracleInfo where
  publicKey : Bytes32
  nonces : List Bytes32
  deriving DecidableEq, Repr

variable (K : AdaptorCrypto)

def createCetAdaptorSigFromPoint (cet : Transaction) (adaptorPoint : PublicKey)
    (fundingSk : SecretKey) (script : Bytes) (value : ℕ) : Result AdaptorSignature := do
  let sigHash ← getSigHashMsg K.toCrypto cet 0 script value
  pure (K.encrypt sigHash fundingSk adaptorPoint)

def verifyCetAdaptorSigFromPoint (adaptorSig : AdaptorSignature) (cet : Transaction)
    (adaptorPoint pubkey : PublicKey) (script : Bytes) (value : ℕ) : Result Unit := do
  let sigHash ← getSigHashMsg K.toCrypto cet 0 script value
  ensure (K.verifyAdaptor adaptorSig sigHash pubkey adaptorPoint = true) (.err .secp256k1)

def ofOption {α : Type} (o : Option α) : Result α := o.elim (.error (.err .secp256k1)) .ok

@[simp] theorem ofOption_eq_ok {α : Type} {o : Option α} {a : α} :
    ofOption o = .ok a ↔ o = some a := by
  cases o <;> simp [ofOption]

def getOracleSigPoint (info : OracleInfo) (msgs : List Message) : Result PublicKey := do
  ensure (¬ info.nonces.length < msgs.length) (.err .invalidArgument)
  let sigPoints ← (info.nonces.zip msgs).mapM fun (nonce, msg) =>
    ofOption (K.sigPoint info.publicKey nonce msg)
  ofOption (K.combineKeys sigPoints)

/-- The messages are indexed in step with the oracles. -/
def getAdaptorPointFromOracleInfo (infos : List OracleInfo) (msgs : List (List Message)) :
    Result PublicKey := do
  ensure (¬ (infos.isEmpty = true ∨ msgs.isEmpty = true)) (.err .invalidArgument)
  let sigPoints ← infos.zipIdx.mapM fun (info, i) =>
    match msgs[i]? with
    | some msgs => getOracleSigPoint K info msgs
    | none => .error (.panic "index out of bounds")
  ofOption (K.combineKeys sigPoints)

/-- The point of the selected oracles' digits. -/
def getAdaptorPointForIndexedPaths (indexes : List ℕ) (paths : List (List ℕ))
    (precomputedPoints : List (List (List PublicKey))) : Result PublicKey := do
  ensure (¬ indexes.isEmpty = true) (.err .invalidArgument)
  let keys ← indexes.zipIdx.mapM fun (j, i) =>
    match paths[i]?, precomputedPoints[j]? with
    | some path, some digits => (digits.zip path).mapM fun (points, p) =>
        match points[p]? with
        | some point => .ok point
        | none => .error (.panic "index out of bounds")
    | _, _ => .error (.panic "index out of bounds")
  ofOption (K.combineKeys keys.flatten)

end P2PLending.Dlc
