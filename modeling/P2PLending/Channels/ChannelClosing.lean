import P2PLending.Channels.Renewal
import P2PLending.Manager.Closing

/-! Closing a channel: by agreement, or by one party with the buffer transaction and
a CET or with the settle transaction. The completed transactions are those of the
manager's closing functions. -/

namespace P2PLending.Manager.Channels
open Dlc Checked

namespace SignedChannel
variable {X : ChannelCrypto} (ch : SignedChannel X)

def closedChannel : ClosedChannel where
  counterParty := ch.counterParty
  temporaryChannelId := ch.temporaryChannelId
  channelId := ch.channelId

end SignedChannel

section Source
variable (X : ChannelCrypto) (signer : Signer) (now : ℕ)

def collaborativeCloseTx (ch : SignedChannel X) (offerParams acceptParams : PartyParams)
    (offerPayout acceptPayout : ℕ) : Transaction :=
  createCollaborativeCloseTransaction offerParams offerPayout acceptParams acceptPayout
    ⟨ch.fundTx.computeTxid X.toCrypto, ch.fundOutputIndex⟩

def peerTimeout : ℕ := 3600

def offerCollaborativeClose (ch : SignedChannel X) (counterPayout : ℕ) :
    Result (SignedChannel X × CollaborativeCloseOffer × Transaction) := do
  let totalCollateral ← ch.totalCollateral
  ensure (counterPayout ≤ totalCollateral) (.err (.invalidParameters
    "Counter payout is greater than total collateral"))
  let fundOutput ← ch.fundOutput
  let closeTx := collaborativeCloseTx X ch ch.ownParams ch.counterParams
    (totalCollateral - counterPayout) counterPayout
  let contractSigner ← signer.deriveContractSigner ch.state.keysId
  let sk ← contractSigner.secretKey
  let closeSignature ← ofDlc (getRawSigForTxInput X.toCrypto closeTx 0 ch.fundScriptPubkey
    fundOutput.value sk)
  let state := .collaborativeCloseOffered
    { counterPayout
      offerSignature := closeSignature
      closeTx
      timeout := now + peerTimeout
      keysId := ch.state.keysId }
  .ok (ch.enter state, { channelId := ch.channelId, counterPayout, closeSignature }, closeTx)

def onCollaborativeCloseOffer (ch : SignedChannel X) (closeOffer : CollaborativeCloseOffer)
    (peerTimeout : ℕ) : Result (SignedChannel X) := do
  let totalCollateral ← ofDlc (amountAdd ch.ownParams.collateral ch.counterParams.collateral)
  ensure (closeOffer.counterPayout ≤ totalCollateral) (.err (.invalidParameters
    "Received collaborative close offer with counter payout greater than total collateral, ignoring."))
  ensure (ch.rollBackState.isSome = false) (.err (.invalidState
    "Received collaborative close offer in state with rollback, ignoring."))
  let _ ← ch.fundOutput
  let closeTx := collaborativeCloseTx X ch ch.counterParams ch.ownParams
    (totalCollateral - closeOffer.counterPayout) closeOffer.counterPayout
  .ok (ch.enter (.collaborativeCloseOffered
    { counterPayout := closeOffer.counterPayout
      offerSignature := closeOffer.closeSignature
      closeTx
      timeout := now + peerTimeout
      keysId := ch.state.keysId }))

/-- Whoever made the offer, the party completes the close transaction. -/
def acceptCollaborativeCloseOffer (ch : SignedChannel X) :
    Result (Transaction × ChannelRecord X) :=
  match ch.state with
  | .collaborativeCloseOffered s => do
      let fundOutput ← ch.fundOutput
      let ownFundSk ← signer.getSecretKeyForPubkey ch.ownParams.fundPubkey
      let closeTx ← ofDlc (signMultiSigInput X.toCrypto s.closeTx s.offerSignature
        ch.counterParams.fundPubkey ownFundSk ch.fundScriptPubkey fundOutput.value 0)
      .ok (closeTx, .collaborativelyClosed ch.closedChannel)
  | _ => expectedState "CollaborativeCloseOffered"

/-- An own offer that was rejected is taken back. -/
def onReject (ch : SignedChannel X) : Result (SignedChannel X) :=
  match ch.state with
  | .established _ | .settled _ => .ok ch
  | .renewOffered s => if s.isOffer then ch.rollBack else
      .error (.err (.invalidState "Not in a state adequate to receive a reject message"))
  | .settledOffered _ => ch.rollBack
  | _ => .error (.err (.invalidState "Not in a state adequate to receive a reject message"))

/-- The counterparty's signature, opened with the own publish key, and the own one
complete a transaction. -/
def completeTx (ch : SignedChannel X) (tx : Transaction) (adaptorSignature : AdaptorSignature) :
    Result Transaction := do
  let publishBaseSecret ← signer.getSecretKeyForPubkey ch.ownPoints.publishBasepoint
  let publishSk := X.derivePrivateKey ch.ownPerUpdatePoint publishBaseSecret
  let counterSignature ← decryptAdaptor X.toCrypto adaptorSignature publishSk
  let ownFundSk ← signer.getSecretKeyForPubkey ch.ownParams.fundPubkey
  let fundOutput ← ch.fundOutput
  ofDlc (signMultiSigInput X.toCrypto tx counterSignature ch.counterParams.fundPubkey ownFundSk
    ch.fundScriptPubkey fundOutput.value 0)

def initiateUnilateralCloseEstablishedChannel (ch : SignedChannel X)
    (bufferAdaptorSignature : AdaptorSignature) (keysId : KeysId)
    (bufferTransaction : Transaction) (isInitiator : Bool) :
    Result (SignedChannel X × Transaction) := do
  let bufferTransaction ← completeTx X signer ch bufferTransaction bufferAdaptorSignature
  match ch.state.contractId with
  | none => .error (.err (.invalidState
      "Expected to be in a state with an associated contract id but was not."))
  | some contractId =>
      .ok ({ ch with state := .closing { bufferTransaction, contractId, isInitiator, keysId } },
        bufferTransaction)

def closeSettledChannel (ch : SignedChannel X) (isInitiator : Bool) :
    Result (Transaction × ChannelRecord X) :=
  match ch.state with
  | .settled s => do
      let settleTx ← completeTx X signer ch s.settleTx s.counterSettleAdaptorSignature
      .ok (settleTx, if isInitiator then .closed ch.closedChannel
        else .counterClosed ch.closedChannel)
  | _ => expectedState "Settled"

section Cet
variable {D : Descriptors}

/-- The CET of the attested outcome, spending the buffer output. -/
def finalizeUnilateralCloseSettledChannel (ch : SignedChannel X) (contract : SignedContract D)
    (contractInfo : D.ContractInfo) (attestations : List (ℕ × D.OracleAttestation))
    (adaptorInfo : D.AdaptorInfo) (isInitiator : Bool) :
    Result (Transaction × ChannelRecord X) :=
  match ch.state with
  | .closing s => do
      let (rangeInfo, oracleSigs) ←
        D.getRangeInfoAndOracleSigs contractInfo adaptorInfo attestations
      let cet ← index contract.acceptedContract.dlcTransactions.cets rangeInfo.cetIndex
      let isOffer := contract.acceptedContract.offeredContract.isOfferParty
      let ownParams := ch.ownRevokeParams ch.ownPerUpdatePoint
      let counterParams := ch.counterRevokeParams ch.counterPerUpdatePoint
      let (offerParams, acceptParams) :=
        if isOffer then (ownParams, counterParams) else (counterParams, ownParams)
      let adaptorSigs ← expect "to have adaptor signatures"
        (unwrapSome (if isOffer then contract.acceptedContract.adaptorSignatures
          else contract.adaptorSignatures))
      let baseSecret ← signer.getSecretKeyForPubkey ch.ownPoints.ownBasepoint
      let ownSk := X.derivePrivateKey ch.ownPerUpdatePoint baseSecret
      let bufferOutput ← index s.bufferTransaction.output 0
      let adaptorSig ← index adaptorSigs rangeInfo.adaptorIndex
      let cet ← ofDlc (signChannelCet X cet bufferOutput.value offerParams acceptParams ownSk
        counterParams.ownPk adaptorSig oracleSigs)
      .ok (cet, if isInitiator then .closed ch.closedChannel else .counterClosed ch.closedChannel)
  | _ => expectedState "Closing"

end Cet

end Source

/-- A CET of a contract with a witness for its input. -/
def SignedCetOf {D : Descriptors} (contract : SignedContract D) (cet : Transaction) : Prop :=
  ∃ unsigned ∈ contract.acceptedContract.dlcTransactions.cets, ∃ witness,
    cet = unsigned.setWitness 0 witness

/-! What a successful call has computed. -/

section Results
variable {X : ChannelCrypto} {signer : Signer} {now : ℕ} {ch ch' : SignedChannel X}

theorem offerCollaborativeClose_ok {counterPayout : ℕ} {msg : CollaborativeCloseOffer}
    {closeTx : Transaction}
    (h : offerCollaborativeClose X signer now ch counterPayout = .ok (ch', msg, closeTx)) :
    ∃ sig, ch' = ch.enter (.collaborativeCloseOffered
        ⟨counterPayout, sig, closeTx, now + peerTimeout, ch.state.keysId⟩) ∧
      (∃ total, closeTx = collaborativeCloseTx X ch ch.ownParams ch.counterParams
        (total - counterPayout) counterPayout) ∧
      msg = ⟨ch.channelId, counterPayout, sig⟩ := by
  simp only [offerCollaborativeClose, bind_eq_ok, ensure_eq_ok, exists_const, Except.ok.injEq,
    Prod.mk.injEq] at h
  obtain ⟨total, _, _, _, _, _, _, _, _, sig, _, rfl, rfl, rfl⟩ := h
  exact ⟨sig, rfl, ⟨total, rfl⟩, rfl⟩

theorem onCollaborativeCloseOffer_ok {m : CollaborativeCloseOffer} {timeout : ℕ}
    (h : onCollaborativeCloseOffer X now ch m timeout = .ok ch') :
    ∃ closeTx, ch.rollBackState = none ∧
      ch' = ch.enter (.collaborativeCloseOffered
        ⟨m.counterPayout, m.closeSignature, closeTx, now + timeout, ch.state.keysId⟩) := by
  simp only [onCollaborativeCloseOffer, bind_eq_ok, ensure_eq_ok, exists_const, Except.ok.injEq] at h
  obtain ⟨_, _, _, unrolled, _, _, rfl⟩ := h
  exact ⟨_, by simpa using unrolled, rfl⟩

theorem acceptCollaborativeCloseOffer_ok {closeTx : Transaction} {closed : ChannelRecord X}
    (h : acceptCollaborativeCloseOffer X signer ch = .ok (closeTx, closed)) :
    (∃ s, ch.state = .collaborativeCloseOffered s) ∧
      closed = .collaborativelyClosed ch.closedChannel := by
  unfold acceptCollaborativeCloseOffer at h
  split at h
  next s offered =>
    simp only [bind_eq_ok, Except.ok.injEq, Prod.mk.injEq] at h
    obtain ⟨_, _, _, _, _, _, _, rfl⟩ := h
    exact ⟨⟨s, offered⟩, rfl⟩
  next => cases h

theorem onReject_ok (h : onReject X ch = .ok ch') :
    (ch' = ch ∧ ((∃ s, ch.state = .established s) ∨ ∃ s, ch.state = .settled s)) ∨
      (ch.rollBack = .ok ch' ∧ ((∃ s, ch.state = .renewOffered s ∧ s.isOffer = true) ∨
        ∃ s, ch.state = .settledOffered s)) := by
  unfold onReject at h
  split at h
  next s established => exact .inl ⟨(Except.ok.inj h).symm, .inl ⟨s, established⟩⟩
  next s settled => exact .inl ⟨(Except.ok.inj h).symm, .inr ⟨s, settled⟩⟩
  next s offers =>
    split at h
    next own => exact .inr ⟨h, .inl ⟨s, offers, own⟩⟩
    next => cases h
  next s offers => exact .inr ⟨h, .inr ⟨s, offers⟩⟩
  next => cases h

theorem initiateUnilateralClose_ok {sig : AdaptorSignature} {keysId : KeysId}
    {tx closing : Transaction} {isInitiator : Bool}
    (h : initiateUnilateralCloseEstablishedChannel X signer ch sig keysId tx isInitiator =
      .ok (ch', closing)) :
    ∃ contractId, ch.state.contractId = some contractId ∧
      completeTx X signer ch tx sig = .ok closing ∧
      ch' = { ch with state := .closing ⟨closing, contractId, isInitiator, keysId⟩ } := by
  obtain ⟨_, completed, h⟩ := bind_eq_ok.mp h
  split at h
  next => cases h
  next contractId id =>
    cases h
    exact ⟨contractId, id, completed, rfl⟩

theorem closeSettledChannel_ok {isInitiator : Bool} {tx : Transaction} {closed : ChannelRecord X}
    (h : closeSettledChannel X signer ch isInitiator = .ok (tx, closed)) :
    ∃ s, ch.state = .settled s ∧
      completeTx X signer ch s.settleTx s.counterSettleAdaptorSignature = .ok tx ∧
      closed = if isInitiator then .closed ch.closedChannel else .counterClosed ch.closedChannel := by
  unfold closeSettledChannel at h
  split at h
  next s settled =>
    obtain ⟨_, completed, h⟩ := bind_eq_ok.mp h
    cases h
    exact ⟨s, settled, completed, rfl⟩
  next => cases h

theorem finalizeUnilateralClose_ok {D : Descriptors} {contract : SignedContract D}
    {contractInfo : D.ContractInfo} {attestations : List (ℕ × D.OracleAttestation)}
    {adaptorInfo : D.AdaptorInfo} {isInitiator : Bool} {cet : Transaction} {closed : ChannelRecord X}
    (h : finalizeUnilateralCloseSettledChannel X signer ch contract contractInfo attestations
      adaptorInfo isInitiator = .ok (cet, closed)) :
    SignedCetOf contract cet ∧
      closed = if isInitiator then .closed ch.closedChannel else .counterClosed ch.closedChannel := by
  unfold finalizeUnilateralCloseSettledChannel at h
  split at h
  next =>
    simp only [bind_eq_ok, index_eq_ok, Except.ok.injEq, Prod.mk.injEq] at h
    obtain ⟨_, _, cet', listed, _, _, _, _, _, _, _, _, _, signs, rfl, rfl⟩ := h
    obtain ⟨witness, rfl⟩ := signChannelCet_ok X (ofDlc_eq_ok.mp signs)
    exact ⟨⟨cet', List.mem_of_getElem? listed, witness, rfl⟩, rfl⟩
  next => cases h

end Results

/-! The states and the keys that the manager's closing functions read. -/

section View

def SignedChannelState.view : SignedChannelState → Manager.SignedChannelState
  | .established s => .established s.signedContractId
  | .settledOffered _ => .settledOffered
  | .settledReceived _ => .settledReceived
  | .settledAccepted _ => .settledAccepted
  | .settledConfirmed _ => .settledConfirmed
  | .settled s => .settled s.settleTx s.counterSettleAdaptorSignature
  | .renewOffered s => .renewOffered s.offeredContractId
  | .renewAccepted s => .renewAccepted s.contractId
  | .renewConfirmed s => .renewConfirmed s.contractId
  | .renewFinalized s => .renewFinalized s.contractId
  | .closing s => .closing s.bufferTransaction s.contractId s.isInitiator s.keysId
  | .collaborativeCloseOffered s => .collaborativeCloseOffered s.offerSignature s.closeTx

variable {X : ChannelCrypto} {signer : Signer}

def SignedChannel.view (ch : SignedChannel X) : Manager.SignedChannel where
  channelId := ch.channelId
  counterParty := ch.counterParty
  temporaryChannelId := ch.temporaryChannelId
  ownParams := ch.ownParams
  ownPublishBasepoint := ch.ownPoints.publishBasepoint
  ownPerUpdatePoint := ch.ownPerUpdatePoint
  counterParams := ch.counterParams
  state := ch.state.view
  fundTx := ch.fundTx
  fundScriptPubkey := ch.fundScriptPubkey
  fundOutputIndex := ch.fundOutputIndex

variable (X signer) in
def channelKeys : ChannelKeys where
  getSecretKeyForPubkey := signer.getSecretKeyForPubkey
  derivePrivateKey := X.derivePrivateKey

def ChannelRecord.ofClosing : Manager.Channel → ChannelRecord X
  | .closed c => .closed ⟨c.counterParty, c.temporaryChannelId, c.channelId⟩
  | .counterClosed c => .counterClosed ⟨c.counterParty, c.temporaryChannelId, c.channelId⟩
  | .collaborativelyClosed c =>
      .collaborativelyClosed ⟨c.counterParty, c.temporaryChannelId, c.channelId⟩

theorem view_contractId (ch : SignedChannel X) : ch.view.getContractId = ch.state.contractId := by
  unfold Manager.SignedChannel.getContractId SignedChannel.view
  cases ch.state <;> rfl

theorem acceptCollaborativeCloseOffer_view (ch : SignedChannel X) :
    acceptCollaborativeCloseOffer X signer ch = (do
      let (tx, channel) ← Manager.acceptCollaborativeCloseOffer X.toCrypto (channelKeys X signer)
        ch.view
      .ok (tx, .ofClosing channel)) := by
  unfold acceptCollaborativeCloseOffer Manager.acceptCollaborativeCloseOffer
  match state : ch.state with
  | .collaborativeCloseOffered s =>
      simp only [SignedChannel.view, state, SignedChannelState.view, bind_assoc, ok_bind]
      rfl
  | .established _ | .settledOffered _ | .settledReceived _ | .settledAccepted _
  | .settledConfirmed _ | .settled _ | .renewOffered _ | .renewAccepted _ | .renewConfirmed _
  | .renewFinalized _ | .closing _ =>
      simp only [SignedChannel.view, state, SignedChannelState.view]
      rfl

theorem closeSettledChannel_view (ch : SignedChannel X) (isInitiator : Bool) :
    closeSettledChannel X signer ch isInitiator = (do
      let (tx, channel) ← Manager.closeSettledChannel X.toCrypto (channelKeys X signer) ch.view
        isInitiator
      .ok (tx, .ofClosing channel)) := by
  unfold closeSettledChannel Manager.closeSettledChannel
  match state : ch.state with
  | .settled s =>
      simp only [SignedChannel.view, state, SignedChannelState.view, completeTx, bind_assoc,
        ok_bind]
      cases isInitiator <;> rfl
  | .established _ | .settledOffered _ | .settledReceived _ | .settledAccepted _
  | .settledConfirmed _ | .collaborativeCloseOffered _ | .renewOffered _ | .renewAccepted _
  | .renewConfirmed _ | .renewFinalized _ | .closing _ =>
      simp only [SignedChannel.view, state, SignedChannelState.view]
      rfl

theorem initiateUnilateralClose_view (ch : SignedChannel X) (sig : AdaptorSignature)
    (keysId : KeysId) (tx : Transaction) (isInitiator : Bool) :
    (do
      let (ch', _) ← initiateUnilateralCloseEstablishedChannel X signer ch sig keysId tx isInitiator
      .ok ch'.view : Result Manager.SignedChannel) =
      Manager.initiateUnilateralCloseEstablishedChannel X.toCrypto (channelKeys X signer) ch.view sig
        keysId tx isInitiator := by
  unfold initiateUnilateralCloseEstablishedChannel
    Manager.initiateUnilateralCloseEstablishedChannel
  rw [view_contractId]
  simp only [completeTx, bind_assoc]
  cases ch.state.contractId <;> rfl

end View

end P2PLending.Manager.Channels
