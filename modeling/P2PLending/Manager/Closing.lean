import P2PLending.Manager.Contracts
import P2PLending.Dlc.WitnessOrder
import P2PLending.Dlc.FundValue

/-! The transactions that spend a contract's or a channel's fund output: the CET
and the refund of a signed contract, the buffer, settle and close transactions
of a channel. All of them get their witness from one helper. -/

namespace P2PLending.Manager
open Dlc Checked

variable {D : Descriptors} {C : Crypto}

section Source
variable (C)

def getSignedCet (contract : SignedContract D) (contractInfo : D.ContractInfo)
    (adaptorInfo : D.AdaptorInfo) (attestations : List (ℕ × D.OracleAttestation))
    (signer : ContractSigner) : Result Transaction := do
  let (rangeInfo, sigs) ← D.getRangeInfoAndOracleSigs contractInfo adaptorInfo attestations
  let accepted := contract.acceptedContract
  let cet ← index accepted.dlcTransactions.cets rangeInfo.cetIndex
  let (adaptorSigs, otherPubkey) :=
    if accepted.offeredContract.isOfferParty then
      (accepted.adaptorSignatures, accepted.acceptParams.fundPubkey)
    else (contract.adaptorSignatures, accepted.offeredContract.offerParams.fundPubkey)
  let adaptorSigs ← unwrapSome adaptorSigs
  let fundingSk ← signer.secretKey
  let adaptorSig ← index adaptorSigs rangeInfo.adaptorIndex
  let fundOutput ← ofDlc (accepted.dlcTransactions.getFundOutput C)
  ofDlc (signCet C cet adaptorSig sigs fundingSk otherPubkey
    accepted.dlcTransactions.fundingScriptPubkey fundOutput.value)

def getSignedRefund (contract : SignedContract D) (signer : ContractSigner) :
    Result Transaction := do
  let accepted := contract.acceptedContract
  let fundOutput ← ofDlc (accepted.dlcTransactions.getFundOutput C)
  let (otherFundPubkey, otherSig) :=
    if accepted.offeredContract.isOfferParty then
      (accepted.acceptParams.fundPubkey, accepted.acceptRefundSignature)
    else (accepted.offeredContract.offerParams.fundPubkey, contract.offerRefundSignature)
  let fundPrivKey ← signer.secretKey
  ofDlc (signMultiSigInput C accepted.dlcTransactions.refund otherSig otherFundPubkey fundPrivKey
    accepted.dlcTransactions.fundingScriptPubkey fundOutput.value 0)

/-- The states of a signed channel, with the data its closing functions read. -/
inductive SignedChannelState
  | established (signedContractId : ContractId)
  | settledOffered
  | settledReceived
  | settledAccepted
  | settledConfirmed
  | settled (settleTx : Transaction) (counterSettleAdaptorSignature : AdaptorSignature)
  | renewOffered (offeredContractId : ContractId)
  | renewAccepted (contractId : ContractId)
  | renewConfirmed (contractId : ContractId)
  | renewFinalized (contractId : ContractId)
  | closing (bufferTransaction : Transaction) (contractId : ContractId) (isInitiator : Bool)
      (keysId : KeysId)
  | collaborativeCloseOffered (offerSignature : Signature) (closeTx : Transaction)
  deriving DecidableEq, Repr

structure SignedChannel where
  channelId : Bytes32
  counterParty : PublicKey
  temporaryChannelId : Bytes32
  ownParams : PartyParams
  ownPublishBasepoint : PublicKey
  ownPerUpdatePoint : PublicKey
  counterParams : PartyParams
  state : SignedChannelState
  fundTx : Transaction
  fundScriptPubkey : Bytes
  fundOutputIndex : ℕ
  deriving DecidableEq, Repr

structure ClosedChannel where
  counterParty : PublicKey
  temporaryChannelId : Bytes32
  channelId : Bytes32
  deriving DecidableEq, Repr

inductive Channel
  | closed (c : ClosedChannel)
  | counterClosed (c : ClosedChannel)
  | collaborativelyClosed (c : ClosedChannel)
  deriving DecidableEq, Repr

/-- The keys of a channel: the wallet's secrets and lightning's derivation. -/
structure ChannelKeys where
  getSecretKeyForPubkey : PublicKey → Result SecretKey
  derivePrivateKey : (perUpdatePoint : PublicKey) → (baseSecret : SecretKey) → SecretKey

namespace SignedChannel
variable (ch : SignedChannel)

def getContractId : Option ContractId :=
  match ch.state with
  | .established id | .renewOffered id | .renewAccepted id | .renewConfirmed id
  | .renewFinalized id | .closing _ id _ _ => some id
  | _ => none

def closedChannel : ClosedChannel where
  counterParty := ch.counterParty
  temporaryChannelId := ch.temporaryChannelId
  channelId := ch.channelId

end SignedChannel

variable (keys : ChannelKeys)

def decryptAdaptor (sig : AdaptorSignature) (sk : SecretKey) : Result Signature :=
  (C.decrypt sig sk).elim (.error (.err .secpError)) .ok

def acceptCollaborativeCloseOffer (ch : SignedChannel) : Result (Transaction × Channel) := do
  match ch.state with
  | .collaborativeCloseOffered offerSignature closeTx =>
      let fundOut ← index ch.fundTx.output ch.fundOutputIndex
      let ownFundSk ← keys.getSecretKeyForPubkey ch.ownParams.fundPubkey
      let closeTx ← ofDlc (signMultiSigInput C closeTx offerSignature ch.counterParams.fundPubkey
        ownFundSk ch.fundScriptPubkey fundOut.value 0)
      .ok (closeTx, .collaborativelyClosed ch.closedChannel)
  | _ => .error (.err (.invalidState "Expected state CollaborativeCloseOffered"))

def initiateUnilateralCloseEstablishedChannel (ch : SignedChannel)
    (bufferAdaptorSignature : AdaptorSignature) (keysId : KeysId)
    (bufferTransaction : Transaction) (isInitiator : Bool) : Result SignedChannel := do
  let publishBaseSecret ← keys.getSecretKeyForPubkey ch.ownPublishBasepoint
  let publishSk := keys.derivePrivateKey ch.ownPerUpdatePoint publishBaseSecret
  let counterBufferSignature ← decryptAdaptor C bufferAdaptorSignature publishSk
  let bufferInputSk ← keys.getSecretKeyForPubkey ch.ownParams.fundPubkey
  let fundOut ← index ch.fundTx.output ch.fundOutputIndex
  let bufferTransaction ← ofDlc (signMultiSigInput C bufferTransaction counterBufferSignature
    ch.counterParams.fundPubkey bufferInputSk ch.fundScriptPubkey fundOut.value 0)
  match ch.getContractId with
  | none => .error (.err (.invalidState
      "Expected to be in a state with an associated contract id but was not."))
  | some contractId =>
      .ok { ch with state := .closing bufferTransaction contractId isInitiator keysId }

def closeSettledChannel (ch : SignedChannel) (isInitiator : Bool) :
    Result (Transaction × Channel) := do
  match ch.state with
  | .settled settleTx counterSettleAdaptorSignature =>
      let publishBaseSecret ← keys.getSecretKeyForPubkey ch.ownPublishBasepoint
      let publishSk := keys.derivePrivateKey ch.ownPerUpdatePoint publishBaseSecret
      let counterSettleSignature ← decryptAdaptor C counterSettleAdaptorSignature publishSk
      let fundSk ← keys.getSecretKeyForPubkey ch.ownParams.fundPubkey
      let fundOut ← index ch.fundTx.output ch.fundOutputIndex
      let settleTx ← ofDlc (signMultiSigInput C settleTx counterSettleSignature
        ch.counterParams.fundPubkey fundSk ch.fundScriptPubkey fundOut.value 0)
      .ok (settleTx, if isInitiator then .closed ch.closedChannel
        else .counterClosed ch.closedChannel)
  | _ => .error (.err (.invalidState "Expected state Settled"))

end Source

/-! What each of them hands to the helper. -/

namespace SignedContract
variable (contract : SignedContract D)

def otherFundPubkey : PublicKey :=
  if contract.acceptedContract.offeredContract.isOfferParty then
    contract.acceptedContract.acceptParams.fundPubkey
  else contract.acceptedContract.offeredContract.offerParams.fundPubkey

def otherRefundSignature : Signature :=
  if contract.acceptedContract.offeredContract.isOfferParty then
    contract.acceptedContract.acceptRefundSignature
  else contract.offerRefundSignature

def otherAdaptorSignatures : Option (List AdaptorSignature) :=
  if contract.acceptedContract.offeredContract.isOfferParty then
    contract.acceptedContract.adaptorSignatures
  else contract.adaptorSignatures

end SignedContract

theorem getSignedRefund_ok {contract : SignedContract D} {signer : ContractSigner}
    {refund : Transaction} (h : getSignedRefund C contract signer = .ok refund) :
    ∃ sk output, signer.secretKey = .ok sk ∧
      contract.acceptedContract.dlcTransactions.getFundOutput C = .ok output ∧
      signMultiSigInput C contract.acceptedContract.dlcTransactions.refund
        contract.otherRefundSignature contract.otherFundPubkey sk
        contract.acceptedContract.dlcTransactions.fundingScriptPubkey output.value 0 =
          .ok refund := by
  simp only [getSignedRefund, bind_eq_ok, ofDlc_eq_ok] at h
  obtain ⟨output, funded, sk, own, signed⟩ := h
  refine ⟨sk, output, own, funded, ?_⟩
  rw [← signed, SignedContract.otherRefundSignature, SignedContract.otherFundPubkey]
  split <;> rfl

theorem signCet_ok {cet signed : Transaction} {a : AdaptorSignature}
    {sigs : List (List OracleSignature)} {sk : SecretKey} {otherPk : PublicKey} {script : Bytes}
    {value : ℕ} (h : signCet C cet a sigs sk otherPk script value = .ok signed) :
    ∃ secret s, signaturesToSecret C sigs = .ok secret ∧ C.decrypt a secret = some s ∧
      signMultiSigInput C cet s otherPk sk script value 0 = .ok signed := by
  simp only [signCet, bind_eq_ok] at h
  obtain ⟨secret, opened, s, adapted, signed⟩ := h
  refine ⟨secret, s, opened, ?_, signed⟩
  cases decrypted : C.decrypt a secret with
  | none => simp [decrypted] at adapted
  | some s' => simpa [decrypted] using adapted

theorem decryptAdaptor_ok {a : AdaptorSignature} {sk : SecretKey} {s : Signature}
    (h : decryptAdaptor C a sk = .ok s) : C.decrypt a sk = some s := by
  cases decrypted : C.decrypt a sk with
  | none => simp [decryptAdaptor, decrypted] at h
  | some s' => simpa [decryptAdaptor, decrypted] using h

theorem getSignedCet_ok {contract : SignedContract D} {contractInfo : D.ContractInfo}
    {adaptorInfo : D.AdaptorInfo} {attestations : List (ℕ × D.OracleAttestation)}
    {signer : ContractSigner} {signed : Transaction}
    (h : getSignedCet C contract contractInfo adaptorInfo attestations signer = .ok signed) :
    ∃ rangeInfo sigs cet adaptorSigs a sk output,
      D.getRangeInfoAndOracleSigs contractInfo adaptorInfo attestations = .ok (rangeInfo, sigs) ∧
      contract.acceptedContract.dlcTransactions.cets[rangeInfo.cetIndex]? = some cet ∧
      contract.otherAdaptorSignatures = some adaptorSigs ∧
      adaptorSigs[rangeInfo.adaptorIndex]? = some a ∧ signer.secretKey = .ok sk ∧
      contract.acceptedContract.dlcTransactions.getFundOutput C = .ok output ∧
      signCet C cet a sigs sk contract.otherFundPubkey
        contract.acceptedContract.dlcTransactions.fundingScriptPubkey output.value = .ok signed := by
  simp only [getSignedCet, bind_eq_ok, ofDlc_eq_ok, index_eq_ok, unwrapSome_eq_ok] at h
  obtain ⟨⟨rangeInfo, sigs⟩, found, cet, cetAt, adaptorSigs, other, sk, own, a, adaptorAt,
    output, funded, signed⟩ := h
  refine ⟨rangeInfo, sigs, cet, adaptorSigs, a, sk, output, found, cetAt, ?_, adaptorAt, own,
    funded, ?_⟩
  · rw [← other, SignedContract.otherAdaptorSignatures]
    split <;> rfl
  · rw [← signed, SignedContract.otherFundPubkey]
    split <;> rfl

/-- The contract's fund output is locked by the script. -/
structure SignedContract.FundedBy (C : Crypto) (contract : SignedContract D)
    (script : ClosingScript) (output : TxOut) : Prop where
  scriptBytes : contract.acceptedContract.dlcTransactions.fundingScriptPubkey =
    Script.toBytes script.ops
  found : contract.acceptedContract.dlcTransactions.getFundOutput C = .ok output

theorem SignedContract.FundedBy.output_eq {contract : SignedContract D} {script : ClosingScript}
    {output : TxOut} (funded : contract.FundedBy C script output) :
    output = ⟨output.value, toP2wsh C (Script.toBytes script.ops)⟩ := by
  have search := funded.found
  rw [DlcTransactions.getFundOutput, funded.scriptBytes] at search
  split at search
  · rename_i position found located
    have same : found = output := Except.ok.inj search
    rw [getOutputForScriptPubkey, Option.map_eq_some_iff] at located
    obtain ⟨entry, first, swapped⟩ := located
    have locked : entry.1.scriptPubkey = toP2wsh C (Script.toBytes script.ops) := by
      simpa using List.find?_some first
    have entryIs : entry.1 = output := (congrArg Prod.snd swapped).trans same
    rw [← locked, ← entryIs]
  · cases search

/-- The counterparty's adaptor signature for a range has verified: the oracles'
secret completes it to a signature of the range's CET. -/
def SignedContract.CetVerified (C : Crypto) (contract : SignedContract D) (script : ClosingScript)
    (value : ℕ) (rangeInfo : RangeInfo) (sigs : List (List OracleSignature)) : Prop :=
  ∀ cet adaptorSigs a secret s,
    contract.acceptedContract.dlcTransactions.cets[rangeInfo.cetIndex]? = some cet →
    contract.otherAdaptorSignatures = some adaptorSigs →
    adaptorSigs[rangeInfo.adaptorIndex]? = some a →
    signaturesToSecret C sigs = .ok secret → C.decrypt a secret = some s →
    signatureValid C cet 0 value script.ops s contract.otherFundPubkey = true

/-- The channel's fund output is locked by the script. -/
structure SignedChannel.FundedBy (C : Crypto) (ch : SignedChannel) (script : ClosingScript)
    (output : TxOut) : Prop where
  scriptBytes : ch.fundScriptPubkey = Script.toBytes script.ops
  found : ch.fundTx.output[ch.fundOutputIndex]? = some output
  locked : output.scriptPubkey = toP2wsh C (Script.toBytes script.ops)

/-- The counterparty's adaptor signature for a channel transaction has verified:
the publish secret completes it. -/
def SignedChannel.PublishVerified (C : Crypto) (keys : ChannelKeys) (ch : SignedChannel)
    (script : ClosingScript) (value : ℕ) (tx : Transaction) (a : AdaptorSignature) : Prop :=
  ∀ base s, keys.getSecretKeyForPubkey ch.ownPublishBasepoint = .ok base →
    C.decrypt a (keys.derivePrivateKey ch.ownPerUpdatePoint base) = some s →
    signatureValid C tx 0 value script.ops s ch.counterParams.fundPubkey = true

section Spends
variable (lawful : C.Lawful) {script : ClosingScript} {own other : PublicKey} {sk : SecretKey}
  {output : TxOut} (between : script.Between own other) (distinct : own ≠ other)
  (ownKey : C.publicKey sk = own)
include lawful between distinct ownKey

theorem getSignedCet_spends_iff {contract : SignedContract D} {contractInfo : D.ContractInfo}
    {adaptorInfo : D.AdaptorInfo} {attestations : List (ℕ × D.OracleAttestation)}
    {rangeInfo : RangeInfo} {sigs : List (List OracleSignature)} {signer : ContractSigner}
    {cet : Transaction} (counter : contract.otherFundPubkey = other)
    (funded : contract.FundedBy C script output)
    (found : D.getRangeInfoAndOracleSigs contractInfo adaptorInfo attestations =
      .ok (rangeInfo, sigs))
    (verified : contract.CetVerified C script output.value rangeInfo sigs)
    (signs : signer.secretKey = .ok sk)
    (built : getSignedCet C contract contractInfo adaptorInfo attestations signer = .ok cet) :
    spends C cet 0 output script.ops = true ↔ own = script.first := by
  obtain ⟨_, _, unsignedCet, adaptorSigs, a, sk', output', found', cetAt, otherSigs, adaptorAt,
    signs', funded', signed⟩ := getSignedCet_ok built
  cases found.symm.trans found'
  cases signs.symm.trans signs'
  cases funded.found.symm.trans funded'
  obtain ⟨secret, s, opened, decrypted, signed⟩ := signCet_ok signed
  have valid := verified _ _ _ _ _ cetAt otherSigs adaptorAt opened decrypted
  rw [counter] at valid signed
  rw [funded.scriptBytes] at signed
  rw [funded.output_eq]
  exact signMultiSigInput_spends_iff lawful between distinct ownKey valid signed

theorem getSignedRefund_spends_iff {contract : SignedContract D} {signer : ContractSigner}
    {refund : Transaction} (counter : contract.otherFundPubkey = other)
    (funded : contract.FundedBy C script output)
    (verified : signatureValid C contract.acceptedContract.dlcTransactions.refund 0 output.value
      script.ops contract.otherRefundSignature other = true)
    (signs : signer.secretKey = .ok sk) (built : getSignedRefund C contract signer = .ok refund) :
    spends C refund 0 output script.ops = true ↔ own = script.first := by
  obtain ⟨sk', output', signs', funded', signed⟩ := getSignedRefund_ok built
  cases signs.symm.trans signs'
  cases funded.found.symm.trans funded'
  rw [counter, funded.scriptBytes] at signed
  rw [funded.output_eq]
  exact signMultiSigInput_spends_iff lawful between distinct ownKey verified signed

variable {keys : ChannelKeys} {ch : SignedChannel} (counter : ch.counterParams.fundPubkey = other)
  (funded : ch.FundedBy C script output)
  (signs : keys.getSecretKeyForPubkey ch.ownParams.fundPubkey = .ok sk)
include counter funded signs

theorem channel_spends_iff {tx signed : Transaction} {otherSig : Signature} {fundOut : TxOut}
    {sk' : SecretKey} (verified : signatureValid C tx 0 output.value script.ops otherSig other = true)
    (fundAt : ch.fundTx.output[ch.fundOutputIndex]? = some fundOut)
    (signs' : keys.getSecretKeyForPubkey ch.ownParams.fundPubkey = .ok sk')
    (built : signMultiSigInput C tx otherSig ch.counterParams.fundPubkey sk' ch.fundScriptPubkey
      fundOut.value 0 = .ok signed) :
    spends C signed 0 output script.ops = true ↔ own = script.first := by
  cases signs.symm.trans signs'
  cases funded.found.symm.trans fundAt
  rw [counter, funded.scriptBytes] at built
  have outputIs : output = ⟨output.value, toP2wsh C (Script.toBytes script.ops)⟩ := by
    rw [← funded.locked]
  rw [outputIs]
  exact signMultiSigInput_spends_iff lawful between distinct ownKey verified built

theorem acceptCollaborativeCloseOffer_spends_iff {offerSignature : Signature}
    {closeTx signed : Transaction} {closed : Channel}
    (offered : ch.state = .collaborativeCloseOffered offerSignature closeTx)
    (verified : signatureValid C closeTx 0 output.value script.ops offerSignature other = true)
    (built : acceptCollaborativeCloseOffer C keys ch = .ok (signed, closed)) :
    spends C signed 0 output script.ops = true ↔ own = script.first := by
  simp only [acceptCollaborativeCloseOffer, offered, bind_eq_ok, index_eq_ok, ofDlc_eq_ok,
    Except.ok.injEq, Prod.mk.injEq] at built
  obtain ⟨fundOut, fundAt, sk', signs', signed', built, rfl, _⟩ := built
  exact channel_spends_iff lawful between distinct ownKey counter funded signs verified fundAt
    signs' built

theorem closeSettledChannel_spends_iff {a : AdaptorSignature} {settleTx signed : Transaction}
    {isInitiator : Bool} {closed : Channel} (settled : ch.state = .settled settleTx a)
    (verified : ch.PublishVerified C keys script output.value settleTx a)
    (built : closeSettledChannel C keys ch isInitiator = .ok (signed, closed)) :
    spends C signed 0 output script.ops = true ↔ own = script.first := by
  simp only [closeSettledChannel, settled, bind_eq_ok, index_eq_ok, ofDlc_eq_ok,
    Except.ok.injEq, Prod.mk.injEq] at built
  obtain ⟨base, publish, s, adapted, sk', signs', fundOut, fundAt, signed', built, rfl, _⟩ := built
  have valid := verified base s publish (decryptAdaptor_ok adapted)
  rw [counter] at valid
  exact channel_spends_iff lawful between distinct ownKey counter funded signs valid fundAt
    signs' built

theorem initiateUnilateralClose_spends_iff {a : AdaptorSignature} {buffer signed : Transaction}
    {keysId : KeysId} {contractId : ContractId} {isInitiator : Bool} {ch' : SignedChannel}
    (verified : ch.PublishVerified C keys script output.value buffer a)
    (built : initiateUnilateralCloseEstablishedChannel C keys ch a keysId buffer isInitiator =
      .ok ch') (state : ch'.state = .closing signed contractId isInitiator keysId) :
    spends C signed 0 output script.ops = true ↔ own = script.first := by
  simp only [initiateUnilateralCloseEstablishedChannel, bind_eq_ok, index_eq_ok,
    ofDlc_eq_ok] at built
  obtain ⟨base, publish, s, adapted, sk', signs', fundOut, fundAt, signed', signedBy, built⟩ := built
  have valid := verified base s publish (decryptAdaptor_ok adapted)
  rw [counter] at valid
  have bufferIs : signed' = signed := by
    split at built
    · cases built
    · rw [← Except.ok.inj built] at state
      exact (SignedChannelState.closing.inj state).1
  rw [← bufferIs]
  exact channel_spends_iff lawful between distinct ownKey counter funded signs valid fundAt
    signs' signedBy

end Spends

/-- Every closing transaction of a contract or a channel is accepted by the
script it spends exactly when the script reads the own signature first: by the
order of the keys in the two-of-two, by the borrower's role in a loan. -/
theorem closing_witnesses_accepted_iff (lawful : C.Lawful) {script : ClosingScript}
    {own other : PublicKey} {sk : SecretKey} {output : TxOut} (between : script.Between own other)
    (distinct : own ≠ other) (ownKey : C.publicKey sk = own) :
    (∀ (contract : SignedContract D) (contractInfo : D.ContractInfo)
      (adaptorInfo : D.AdaptorInfo) (attestations : List (ℕ × D.OracleAttestation))
      (rangeInfo : RangeInfo) (sigs : List (List OracleSignature)) (signer : ContractSigner)
      (cet : Transaction), contract.otherFundPubkey = other →
      contract.FundedBy C script output →
      D.getRangeInfoAndOracleSigs contractInfo adaptorInfo attestations = .ok (rangeInfo, sigs) →
      contract.CetVerified C script output.value rangeInfo sigs → signer.secretKey = .ok sk →
      getSignedCet C contract contractInfo adaptorInfo attestations signer = .ok cet →
      (spends C cet 0 output script.ops = true ↔ own = script.first)) ∧
    (∀ (contract : SignedContract D) (signer : ContractSigner) (refund : Transaction),
      contract.otherFundPubkey = other → contract.FundedBy C script output →
      signatureValid C contract.acceptedContract.dlcTransactions.refund 0 output.value script.ops
        contract.otherRefundSignature other = true →
      signer.secretKey = .ok sk → getSignedRefund C contract signer = .ok refund →
      (spends C refund 0 output script.ops = true ↔ own = script.first)) ∧
    ∀ (keys : ChannelKeys) (ch : SignedChannel), ch.counterParams.fundPubkey = other →
      ch.FundedBy C script output →
      keys.getSecretKeyForPubkey ch.ownParams.fundPubkey = .ok sk →
      (∀ offerSignature closeTx signed closed,
        ch.state = .collaborativeCloseOffered offerSignature closeTx →
        signatureValid C closeTx 0 output.value script.ops offerSignature other = true →
        acceptCollaborativeCloseOffer C keys ch = .ok (signed, closed) →
        (spends C signed 0 output script.ops = true ↔ own = script.first)) ∧
      (∀ a settleTx signed isInitiator closed, ch.state = .settled settleTx a →
        ch.PublishVerified C keys script output.value settleTx a →
        closeSettledChannel C keys ch isInitiator = .ok (signed, closed) →
        (spends C signed 0 output script.ops = true ↔ own = script.first)) ∧
      ∀ a buffer signed keysId contractId isInitiator ch',
        ch.PublishVerified C keys script output.value buffer a →
        initiateUnilateralCloseEstablishedChannel C keys ch a keysId buffer isInitiator =
          .ok ch' → ch'.state = .closing signed contractId isInitiator keysId →
        (spends C signed 0 output script.ops = true ↔ own = script.first) := by
  refine ⟨?_, ?_, ?_⟩
  · intro contract info adaptor attestations rangeInfo sigs signer cet counter funded found
      verified signs built
    exact getSignedCet_spends_iff lawful between distinct ownKey counter funded found verified
      signs built
  · intro contract signer refund counter funded verified signs built
    exact getSignedRefund_spends_iff lawful between distinct ownKey counter funded verified
      signs built
  · intro keys ch counter funded signs
    refine ⟨?_, ?_, ?_⟩
    · intro offerSignature closeTx signed closed offered verified built
      exact acceptCollaborativeCloseOffer_spends_iff lawful between distinct ownKey counter
        funded signs offered verified built
    · intro a settleTx signed isInitiator closed settled verified built
      exact closeSettledChannel_spends_iff lawful between distinct ownKey counter funded signs
        settled verified built
    · intro a buffer signed keysId contractId isInitiator ch' verified built state
      exact initiateUnilateralClose_spends_iff lawful between distinct ownKey counter funded
        signs verified built state

def sampleClosingScript : ClosingScript := .funding sampleKey₁ sampleKey₂

def sampleFundOutput : TxOut := ⟨sampleFundValue, toP2wsh sampleCrypto sampleScript⟩

/-- A signed contract between the keys of the secrets 1 and 2, in the store of
the offering or of the accepting party. -/
def sampleSignedContract (isOfferParty : Bool) : SignedContract sampleDescriptors where
  acceptedContract := {
    offeredContract := {
      id := 7
      isOfferParty
      contractInfo := [[⟨200000000, 0⟩, ⟨0, 200000000⟩]]
      counterParty := if isOfferParty then sampleKey₂ else sampleKey₁
      offerParams := sampleOffer
      totalCollateral := 200000000
      fundingInputs := []
      fundOutputSerialId := 0
      feeRatePerVb := 1
      cetLocktime := 10
      refundLocktime := 100
      keysId := 3 }
    acceptParams := sampleAccept
    fundingInputs := []
    adaptorInfos := [()]
    adaptorSignatures := none
    acceptRefundSignature := sampleSignature₂
    dlcTransactions := {
      fund := { lockTime := 0, input := [], output := [sampleFundOutput] }
      cets := []
      refund := sampleRefund
      fundingScriptPubkey := sampleScript } }
  adaptorSignatures := none
  offerRefundSignature := sampleSignature₁
  fundingSignatures := []
  channelId := none

theorem closing_witnesses_accepted_first_key :
    ∃ refund, getSignedRefund sampleCrypto (sampleSignedContract true)
        ⟨.ok sampleKey₁, .ok 1⟩ = .ok refund ∧
      spends sampleCrypto refund 0 sampleFundOutput sampleClosingScript.ops = true := by
  have built : getSignedRefund sampleCrypto (sampleSignedContract true)
      ⟨.ok sampleKey₁, .ok 1⟩ = .ok (sampleRefund.setWitness 0
        [[], finalizeSig sampleCrypto sampleSignature₁,
          finalizeSig sampleCrypto sampleSignature₂, sampleScript]) := by
    decide +kernel
  refine ⟨_, built, ?_⟩
  have between : sampleClosingScript.Between sampleKey₁ sampleKey₂ :=
    .inl ⟨by decide, by decide⟩
  have distinct : sampleKey₁ ≠ sampleKey₂ := by decide
  have ownKey : sampleCrypto.publicKey 1 = sampleKey₁ := rfl
  have funded : (sampleSignedContract true).FundedBy sampleCrypto sampleClosingScript
      sampleFundOutput := ⟨rfl, by decide +kernel⟩
  have accepted := (closing_witnesses_accepted_iff sampleCrypto_lawful between distinct
    ownKey).2.1 (sampleSignedContract true) ⟨.ok sampleKey₁, .ok 1⟩ _ rfl funded
    (by decide +kernel) rfl built
  exact accepted.mpr (by decide)

/-- The party with the larger key gets a refund that its script rejects. -/
theorem larger_key_refund_rejected :
    ∃ refund, getSignedRefund sampleCrypto (sampleSignedContract false)
        ⟨.ok sampleKey₂, .ok 2⟩ = .ok refund ∧
      signatureValid sampleCrypto sampleRefund 0 sampleFundValue sampleClosingScript.ops
        sampleSignature₁ sampleKey₁ = true ∧
      spends sampleCrypto refund 0 sampleFundOutput sampleClosingScript.ops = false := by
  refine ⟨sampleRefund.setWitness 0 [[], finalizeSig sampleCrypto sampleSignature₂,
    finalizeSig sampleCrypto sampleSignature₁, sampleScript], ?_⟩
  decide +kernel

end P2PLending.Manager
