import P2PLending.Dlc.AdaptorPoints
import P2PLending.Dlc.Funding

/-! The settle, close and punishment transactions of a channel. The settle output
of a party and the buffer output are locked by `miniscript` descriptors over the
revocation keys of both parties; their scripts and their satisfaction are
parameters. -/

namespace P2PLending.Dlc
open Checked

/-- A `miniscript` descriptor over some keys: its script public key, its script code,
and the witness that signatures of some keys give. -/
structure Descriptor (ι : Type) where
  scriptPubkey : ι → Bytes
  scriptCode : ι → Result Bytes
  satisfy : ι → List (PublicKey × Bytes) → Option (List Bytes)

/-- The keys of a settle output: the payee's, the other party's own key, and the
relative time lock. -/
structure SettleKeys where
  payee : RevokeParams
  counterPk : PublicKey
  csvTimelock : ℕ
  deriving DecidableEq, Repr

/-- What the code takes from lightning and `miniscript` for channels. -/
structure ChannelCrypto extends AdaptorCrypto where
  derivePublicKey : (perUpdatePoint basePoint : PublicKey) → PublicKey
  derivePublicRevocationKey : (perUpdatePoint countersignatoryBasepoint : PublicKey) → PublicKey
  derivePrivateKey : (perUpdatePoint : PublicKey) → (baseSecret : SecretKey) → SecretKey
  derivePrivateRevocationKey : (perUpdateSecret revocationBaseSecret : SecretKey) → SecretKey
  buildCommitmentSecret : (seed : SecretKey) → (idx : ℕ) → Bytes32
  recover : AdaptorSignature → Signature → (point : PublicKey) → Option SecretKey
  bufferDescriptor : Descriptor (RevokeParams × RevokeParams)
  settleDescriptor : Descriptor SettleKeys
  Secrets : Type
  provideSecret : Secrets → (idx : ℕ) → SecretKey → Option Secrets
  getSecret : Secrets → (idx : ℕ) → Option SecretKey

variable (X : ChannelCrypto)

/-- The buffer descriptor as the renewal transactions use it. -/
def ChannelCrypto.buffer : BufferDescriptor where
  scriptPubkey offer accept := X.bufferDescriptor.scriptPubkey (offer, accept)
  scriptCode offer accept := X.bufferDescriptor.scriptCode (offer, accept)

def getTxAdaptorSignature (tx : Transaction) (inputValue : ℕ) (scriptPubkey : Bytes)
    (ownFundSk : SecretKey) (otherPublishKey : PublicKey) : Result AdaptorSignature := do
  let sighash ← getSigHashMsg X.toCrypto tx 0 scriptPubkey inputValue
  pure (X.encrypt sighash ownFundSk otherPublishKey)

def verifyTxAdaptorSignature (tx : Transaction) (inputValue : ℕ) (scriptPubkey : Bytes)
    (otherFundPk ownPublishKey : PublicKey) (adaptorSig : AdaptorSignature) : Result Unit := do
  let sighash ← getSigHashMsg X.toCrypto tx 0 scriptPubkey inputValue
  ensure (X.verifyAdaptor adaptorSig sighash otherFundPk ownPublishKey = true)
    (.err .secp256k1)

def settleInputWeight : ℕ := 428
def settleOutputWeight : ℕ := 172
def punishBufferInputWeight : ℕ := 758
def punishSettleInputWeight : ℕ := 575
def nValueWeight : ℕ := 8 * 4

/-- The fee that closing in settled state saves is shared by the outputs that are
left. -/
def createSettleTransaction (fundTxIn : TxIn) (offerRevokeParams acceptRevokeParams : RevokeParams)
    (offerPayout acceptPayout csvTimelock lockTime fundOutputValue feeRatePerVb : ℕ) :
    Result Transaction := do
  let offerSpk := X.settleDescriptor.scriptPubkey
    ⟨offerRevokeParams, acceptRevokeParams.ownPk, csvTimelock⟩
  let acceptSpk := X.settleDescriptor.scriptPubkey
    ⟨acceptRevokeParams, offerRevokeParams.ownPk, csvTimelock⟩
  let output := discardDust [⟨offerPayout, offerSpk⟩, ⟨acceptPayout, acceptSpk⟩] dustLimit
  let left ← amountSub fundOutputValue offerPayout
  let left ← amountSub left acceptPayout
  let fee ← weightToFee (settleInputWeight + output.length * settleOutputWeight) feeRatePerVb
  let left ← amountSub left fee
  ensure (output.length ≠ 0) (.panic "attempt to divide by zero")
  let remainingFee := left / output.length
  pure
    { lockTime
      input := [fundTxIn]
      output := output.map fun o => { o with value := o.value + remainingFee } }

def createCollaborativeCloseTransaction (offerParams : PartyParams) (offerPayout : ℕ)
    (acceptParams : PartyParams) (acceptPayout : ℕ) (fundOutpoint : OutPoint) : Transaction :=
  let offerOutput : TxOut := ⟨offerPayout, offerParams.payoutScriptPubkey⟩
  let acceptOutput : TxOut := ⟨acceptPayout, acceptParams.payoutScriptPubkey⟩
  { lockTime := 0
    input := [⟨fundOutpoint, [], disableLocktime, []⟩]
    output := discardDust
      (if offerParams.payoutSerialId < acceptParams.payoutSerialId then [offerOutput, acceptOutput]
        else [acceptOutput, offerOutput]) dustLimit }

/-- A CET that spends the buffer output, signed by both parties. -/
def signChannelCet (cet : Transaction) (inputAmount : ℕ) (offerParams acceptParams : RevokeParams)
    (ownSk : SecretKey) (counterPubkey : PublicKey) (adaptorSignature : AdaptorSignature)
    (oracleSignatures : List (List OracleSignature)) : Result Transaction := do
  let adaptorSecret ← signaturesToSecret X.toCrypto oracleSignatures
  match X.decrypt adaptorSignature adaptorSecret with
  | none => .error (.err .secp256k1)
  | some adaptedSig => do
      let code ← X.bufferDescriptor.scriptCode (offerParams, acceptParams)
      let ownSig ← getSigForTxInput X.toCrypto cet 0 code inputAmount ownSk
      match X.bufferDescriptor.satisfy (offerParams, acceptParams)
          [(X.publicKey ownSk, ownSig), (counterPubkey, finalizeSig X.toCrypto adaptedSig)] with
      | none => .error (.err .invalidArgument)
      | some witness => pure (cet.setWitness 0 witness)

theorem signChannelCet_ok {cet signed : Transaction} {inputAmount : ℕ}
    {offerParams acceptParams : RevokeParams} {ownSk : SecretKey} {counterPubkey : PublicKey}
    {adaptorSignature : AdaptorSignature} {oracleSignatures : List (List OracleSignature)}
    (h : signChannelCet X cet inputAmount offerParams acceptParams ownSk counterPubkey
      adaptorSignature oracleSignatures = .ok signed) :
    ∃ witness, signed = cet.setWitness 0 witness := by
  obtain ⟨secret, -, h⟩ := bind_eq_ok.mp h
  split at h
  next => cases h
  next =>
    simp only [bind_eq_ok] at h
    obtain ⟨_, -, _, -, h⟩ := h
    split at h
    next => cases h
    next witness _ => exact ⟨witness, (Except.ok.inj h).symm⟩

/-- `compute_var_int_prefix_size` -/
def computeVarIntPrefixSize (len : ℕ) : ℕ :=
  if len ≤ 0xfc then 1 else if len ≤ 0xffff then 3 else if len ≤ 0xffffffff then 5 else 9

section Punish
variable (ownSk counterPublishSk counterRevokeSk : SecretKey) (prevTx : Transaction)
  (destSpk : Bytes) (lockTime feeRatePerVb : ℕ)

def punishFee (inputWeight : ℕ) : Result ℕ :=
  weightToFee
    (inputWeight + (nValueWeight + computeVarIntPrefixSize destSpk.length + destSpk.length * 4))
    feeRatePerVb

def outputAt (tx : Transaction) (vout : ℕ) : Result TxOut :=
  match tx.output[vout]? with
  | some output => .ok output
  | none => .error (.panic "index out of bounds")

/-- The spend of one output to a new address, signed with the three keys of the
punishing path. -/
def signPunishTransaction {ι : Type} (descriptor : Descriptor ι) (keys : ι) (vout inputValue
    txFee : ℕ) : Result Transaction := do
  let value ← amountSub inputValue txFee
  let tx : Transaction :=
    { lockTime
      input := [⟨⟨prevTx.computeTxid X.toCrypto, vout⟩, [], 0, []⟩]
      output := [⟨value, destSpk⟩] }
  let sigs ← [ownSk, counterPublishSk, counterRevokeSk].mapM fun sk => do
    let code ← descriptor.scriptCode keys
    let sig ← getSigForTxInput X.toCrypto tx 0 code inputValue sk
    pure (X.publicKey sk, sig)
  match descriptor.satisfy keys sigs with
  | none => .error (.err .invalidArgument)
  | some witness => pure (tx.setWitness 0 witness)

def createAndSignPunishBufferTransaction (offerParams acceptParams : RevokeParams) :
    Result Transaction := do
  let txFee ← punishFee destSpk feeRatePerVb punishBufferInputWeight
  let prev ← outputAt prevTx 0
  signPunishTransaction X ownSk counterPublishSk counterRevokeSk prevTx destSpk lockTime
    X.bufferDescriptor (offerParams, acceptParams) 0 prev.value txFee

def createAndSignPunishSettleTransaction (offerParams acceptParams : RevokeParams)
    (csvTimelock : ℕ) (isOffer : Bool) : Result Transaction := do
  let (ownParams, counterParams) :=
    if isOffer then (offerParams, acceptParams) else (acceptParams, offerParams)
  let prev ← outputAt prevTx isOffer.toNat
  let txFee ← punishFee destSpk feeRatePerVb punishSettleInputWeight
  signPunishTransaction X ownSk counterPublishSk counterRevokeSk prevTx destSpk lockTime
    X.settleDescriptor ⟨counterParams, ownParams.ownPk, csvTimelock⟩ isOffer.toNat prev.value txFee

end Punish

end P2PLending.Dlc
