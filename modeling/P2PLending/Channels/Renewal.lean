import P2PLending.Channels.Settling
import P2PLending.Manager.ContractSigning
import P2PLending.Manager.LoanOffer

/-! The renew protocol: an offered contract, its acceptance and confirmation, and the
exchange of the buffer transaction's signatures and of the secrets of the previous
state. The contract is signed at the script and the keys of the new buffer output. -/

namespace P2PLending.Manager.Channels
open Dlc Checked

/-- What a contract looks like in a message. -/
structure Wire (D : Descriptors) where
  ContractInfo : Type
  ofOffered : OfferedContract D → ContractInfo
  getContractInfo : ContractInfo → Result (List D.ContractInfo)

section Source
variable (X : ChannelCrypto) (signer : Signer) (now : ℕ)

/-- `generate_temporary_contract_id` -/
def generateTemporaryContractId (channelId : ChannelId) (updateIdx : ℕ) : ContractId :=
  X.sha256 (channelId.toBytes ++ beBytes 8 updateIdx)

section Offer
variable {D : Descriptors} (W : Wire D) {A : Type}

/-- The collaterals of a renewal are what the channel holds. -/
def checkRenewal (state : SignedChannelState) (contractInput : ContractInput D A) : Result Unit :=
  match state with
  | .established s => do
      let collateral ← ofDlc
        (amountAdd contractInput.acceptCollateral contractInput.offerCollateral)
      ensure (s.totalCollateral = collateral) (.err (.invalidParameters
        "Sum of collaterals in contract must equal total collateral in channel."))
  | .settled s =>
      ensure (contractInput.offerCollateral = s.ownPayout ∧
          contractInput.acceptCollateral = s.counterPayout) (.err (.invalidParameters
        "Contract collateral not equal to each party's balance in the channel"))
  | _ => .error (.err (.invalidState "Can only renewed established or closed channels."))

def renewOffer (ch : SignedChannel X) (contractInput : ContractInput D A)
    (oracleAnnouncements : List (List (OracleAnnouncement A)))
    (counterPayout refundDelay peerTimeout cetNsequence serialId : ℕ) :
    Result (SignedChannel X × RenewOffer W.ContractInfo × OfferedContract D) := do
  checkRenewal ch.state contractInput
  let temporaryContractId := generateTemporaryContractId X ch.channelId ch.updateIdx
  let keysId := ch.state.keysId
  let offered ← OfferedContract.new temporaryContractId contractInput oracleAnnouncements
    ch.ownParams [] ch.counterParty refundDelay (now % 2 ^ 32) keysId serialId
  let offered := { offered with fundOutputSerialId := 0, feeRatePerVb := ch.feeRatePerVb }
  let nextPerUpdatePoint ← nextPerUpdatePoint X signer validSecret ch
  let state := .renewOffered
    { offeredContractId := offered.id
      offerNextPerUpdatePoint := nextPerUpdatePoint
      isOffer := true
      counterPayout
      timeout := now + peerTimeout
      keysId }
  .ok (ch.enter state,
    { channelId := ch.channelId
      temporaryContractId := offered.id
      counterPayout, nextPerUpdatePoint
      contractInfo := W.ofOffered offered
      cetLocktime := offered.cetLocktime
      refundLocktime := offered.refundLocktime
      cetNsequence }, offered)

/-- Whatever the offer says, the party becomes the accepting one. -/
def receiveRenewOffer (ch : SignedChannel X) (renewOffer : RenewOffer W.ContractInfo)
    (peerTimeout : ℕ) (keysId : KeysId) : Result (SignedChannel X × OfferedContract D) := do
  let contractInfo ← W.getContractInfo renewOffer.contractInfo
  let totalCollateral ← ofDlc (amountAdd ch.ownParams.collateral ch.counterParams.collateral)
  let offered : OfferedContract D :=
    { id := renewOffer.temporaryContractId
      isOfferParty := false
      contractInfo
      counterParty := ch.counterParty
      offerParams := ch.counterParams
      totalCollateral
      fundingInputs := []
      fundOutputSerialId := 0
      feeRatePerVb := ch.feeRatePerVb
      cetLocktime := renewOffer.cetLocktime
      refundLocktime := renewOffer.refundLocktime
      keysId }
  let state := .renewOffered
    { offeredContractId := offered.id
      counterPayout := renewOffer.counterPayout
      offerNextPerUpdatePoint := renewOffer.nextPerUpdatePoint
      isOffer := false
      timeout := now + peerTimeout
      keysId }
  .ok (ch.enter state, offered)

def onRenewOffer (ch : SignedChannel X) (renewOffer : RenewOffer W.ContractInfo)
    (peerTimeout : ℕ) : Result (SignedChannel X × OfferedContract D) :=
  match ch.state with
  | .settled s => receiveRenewOffer X now W ch renewOffer peerTimeout s.keysId
  | .established s => receiveRenewOffer X now W ch renewOffer peerTimeout s.keysId
  | _ => .error (.err (.invalidState
      "Received renew offer while not in Settled or Established states."))

end Offer

section Contract
variable {E : SigningDescriptors}

/-- The transactions of a renewal between the offering party's parameters in the
contract and the given accepting party's. -/
def renewalTransactions (ch : SignedChannel X) (offered : OfferedContract E.toDescriptors)
    (acceptParams : PartyParams) (offerRevokeParams acceptRevokeParams : RevokeParams)
    (cetNsequence : ℕ) : Result DlcChannelTransactions := do
  let info ← index offered.contractInfo 0
  let payouts ← E.getPayouts info offered.totalCollateral
  ofDlc (createRenewalChannelTransactions X.toCrypto X.buffer offered.offerParams acceptParams
    offerRevokeParams acceptRevokeParams ch.fundTx ch.fundScriptPubkey payouts
    offered.refundLocktime offered.feeRatePerVb 0 cetNsequence)

/-- Whoever made the offer, the party becomes the accepting one. -/
def acceptChannelRenewal (ch : SignedChannel X) (offered : OfferedContract E.toDescriptors)
    (cetNsequence peerTimeout : ℕ) :
    Result (SignedChannel X × AcceptedContract E.toDescriptors × RenewAccept) :=
  match ch.state with
  | .renewOffered s => do
      let ownBaseSecretKey ← signer.getSecretKeyForPubkey ch.ownPoints.ownBasepoint
      let acceptPerUpdatePoint ← nextPerUpdatePoint X signer (.err .secpError) ch
      let txs ← renewalTransactions X ch offered ch.ownParams
        (ch.counterRevokeParams s.offerNextPerUpdatePoint)
        (ch.ownRevokeParams acceptPerUpdatePoint) cetNsequence
      let ownSecretKey := X.derivePrivateKey acceptPerUpdatePoint ownBaseSecretKey
      let bufferOutput ← index txs.bufferTransaction.output 0
      let (accepted, adaptorSigs) ← Internal.acceptContract X.toCrypto offered ch.ownParams []
        ownSecretKey bufferOutput.value (some txs.bufferScriptPubkey) txs.dlcTransactions
      let contractId ← accepted.getContractId X.toCrypto
      let state := .renewAccepted
        { contractId
          offerPerUpdatePoint := s.offerNextPerUpdatePoint
          acceptPerUpdatePoint
          bufferTransaction := txs.bufferTransaction
          bufferScriptPubkey := txs.bufferScriptPubkey
          timeout := now + peerTimeout
          ownPayout := s.counterPayout
          keysId := s.keysId }
      .ok ({ ch with state }, accepted,
        { channelId := ch.channelId
          nextPerUpdatePoint := acceptPerUpdatePoint
          cetAdaptorSignatures := adaptorSigs
          refundSignature := accepted.acceptRefundSignature })
  | _ => .error (.err (.invalidState
      "Signed channel was not in SettledOffered state as expected."))

/-- Whoever made the offer, the party becomes the offering one. -/
def verifyRenewAcceptAndConfirm (renewAccept : RenewAccept) (ch : SignedChannel X)
    (offered : OfferedContract E.toDescriptors) (cetNsequence peerTimeout : ℕ) :
    Result (SignedChannel X × SignedContract E.toDescriptors × RenewConfirm) := do
  let ownBaseSecretKey ← signer.getSecretKeyForPubkey ch.ownPoints.ownBasepoint
  match ch.state with
  | .renewOffered s => do
      let contractSigner ← signer.deriveContractSigner s.keysId
      let acceptRevokeParams := ch.counterRevokeParams renewAccept.nextPerUpdatePoint
      let totalCollateral := offered.totalCollateral
      let ownPayout ← ofDlc (amountSub totalCollateral s.counterPayout)
      let txs ← renewalTransactions X ch offered ch.counterParams
        (ch.ownRevokeParams s.offerNextPerUpdatePoint) acceptRevokeParams cetNsequence
      let offerOwnSk := X.derivePrivateKey s.offerNextPerUpdatePoint ownBaseSecretKey
      let bufferOutput ← index txs.bufferTransaction.output 0
      let (signed, cetAdaptorSignatures) ← Internal.verifyAcceptedAndSignContract X.toCrypto offered
        ch.counterParams [] renewAccept.refundSignature renewAccept.cetAdaptorSignatures
        bufferOutput.value ⟨.ok (X.publicKey offerOwnSk), .ok offerOwnSk⟩
        (some txs.bufferScriptPubkey) (some acceptRevokeParams.ownPk) txs.dlcTransactions
        (some ch.channelId)
      let fundOutput ← ofDlc (txs.dlcTransactions.getFundOutput X.toCrypto)
      let sk ← contractSigner.secretKey
      let ownBufferAdaptorSignature ← ofDlc (getTxAdaptorSignature X txs.bufferTransaction
        fundOutput.value txs.dlcTransactions.fundingScriptPubkey sk acceptRevokeParams.publishPk)
      let contractId ← signed.acceptedContract.getContractId X.toCrypto
      let state := .renewConfirmed
        { contractId
          offerPerUpdatePoint := s.offerNextPerUpdatePoint
          acceptPerUpdatePoint := renewAccept.nextPerUpdatePoint
          bufferTransaction := txs.bufferTransaction
          bufferScriptPubkey := txs.bufferScriptPubkey
          offerBufferAdaptorSignature := ownBufferAdaptorSignature
          timeout := now + peerTimeout
          ownPayout, totalCollateral
          keysId := s.keysId }
      .ok ({ ch with state }, signed,
        { channelId := ch.channelId
          bufferAdaptorSignature := ownBufferAdaptorSignature
          cetAdaptorSignatures
          refundSignature := signed.offerRefundSignature })
  | _ => expectedState "RenewOffered"

/-- The next state and the message of a finalization, with the signed contract and
the new buffer transaction. -/
def finalizedRenewal (ch : SignedChannel X) (accepted : AcceptedContract E.toDescriptors)
    (renewConfirm : RenewConfirm) (peerTimeout : ℕ) :
    Result (SignedChannel X × SignedContract E.toDescriptors × RenewFinalize × Transaction) :=
  match ch.state with
  | .renewAccepted s => do
      let ownPublishPk := ch.ownPoints.getPublishPk X s.acceptPerUpdatePoint
      let counterOwnPk := ch.counterPoints.getOwnPk X s.offerPerUpdatePoint
      let fundOutput ← ch.fundOutput
      ofDlc (verifyTxAdaptorSignature X s.bufferTransaction fundOutput.value ch.fundScriptPubkey
        accepted.offeredContract.offerParams.fundPubkey ownPublishPk
        renewConfirm.bufferAdaptorSignature)
      let bufferOutput ← index s.bufferTransaction.output 0
      let (signed, _) ← Internal.verifySignedContract X.toCrypto accepted
        renewConfirm.refundSignature renewConfirm.cetAdaptorSignatures [] bufferOutput.value
        (some s.bufferScriptPubkey) (some counterOwnPk) (some ch.channelId)
      let seed ← ch.seed signer
      let prevPerUpdateSecret ← commitmentSecret X (.err .secpError) seed ch.updateIdx
      let offerRevokeParams := ch.counterRevokeParams s.offerPerUpdatePoint
      let ownFundSk ← signer.getSecretKeyForPubkey ch.ownParams.fundPubkey
      let bufferAdaptorSignature ← ofDlc (getTxAdaptorSignature X s.bufferTransaction
        fundOutput.value ch.fundScriptPubkey ownFundSk offerRevokeParams.publishPk)
      let totalCollateral ← ofDlc (amountAdd ch.ownParams.collateral ch.counterParams.collateral)
      let contractId ← signed.acceptedContract.getContractId X.toCrypto
      let state := .renewFinalized
        { contractId
          prevOfferPerUpdatePoint := ch.counterPerUpdatePoint
          bufferTransaction := s.bufferTransaction
          bufferScriptPubkey := s.bufferScriptPubkey
          offerBufferAdaptorSignature := renewConfirm.bufferAdaptorSignature
          acceptBufferAdaptorSignature := bufferAdaptorSignature
          timeout := now + peerTimeout
          ownPayout := s.ownPayout
          totalCollateral
          keysId := s.keysId }
      .ok
        ({ ch with
            counterPerUpdatePoint := s.offerPerUpdatePoint
            ownPerUpdatePoint := s.acceptPerUpdatePoint
            state },
          signed,
          { channelId := ch.channelId, perUpdateSecret := prevPerUpdateSecret,
            bufferAdaptorSignature }, s.bufferTransaction)
  | _ => expectedState "RenewAccepted"

def verifyRenewConfirmAndFinalize (ch : SignedChannel X)
    (accepted : AcceptedContract E.toDescriptors) (renewConfirm : RenewConfirm)
    (peerTimeout : ℕ) :
    Handler ChainMonitor (Fault Error)
      (SignedChannel X × SignedContract E.toDescriptors × RenewFinalize) := do
  let (ch', signed, msg, bufferTx) ← Handler.lift
    (finalizedRenewal X signer now ch accepted renewConfirm peerTimeout)
  addTx (bufferTx.computeTxid X.toCrypto) ch.channelId .bufferTx
  pure (ch', signed, msg)

end Contract

/-- The offering party takes the counterparty's signature and secret. -/
def renewChannelOnFinalize (ch : SignedChannel X) (renewFinalize : RenewFinalize) :
    Result (SignedChannel X × RenewRevoke) :=
  match ch.state with
  | .renewConfirmed s => do
      let offerRevokeParams := ch.ownRevokeParams s.offerPerUpdatePoint
      let fundOutput ← ch.fundOutput
      ofDlc (verifyTxAdaptorSignature X s.bufferTransaction fundOutput.value ch.fundScriptPubkey
        ch.counterParams.fundPubkey offerRevokeParams.publishPk
        renewFinalize.bufferAdaptorSignature)
      let secrets ← receiveSecret X ch renewFinalize.perUpdateSecret ch.counterPerUpdatePoint
        "Invalid per update secret in channel renew finalize" "Provided secret was invalid"
      let prevPerUpdateSecret ← prevPerUpdateSecret X signer ch
      let updateIdx ← nextIdx ch.updateIdx
      .ok
        ({ ch with
            ownPerUpdatePoint := s.offerPerUpdatePoint
            counterPerUpdatePoint := s.acceptPerUpdatePoint
            state := .established
              { signedContractId := s.contractId
                counterBufferAdaptorSignature := renewFinalize.bufferAdaptorSignature
                ownBufferAdaptorSignature := s.offerBufferAdaptorSignature
                bufferTransaction := s.bufferTransaction
                isOffer := true
                totalCollateral := s.totalCollateral
                keysId := s.keysId }
            rollBackState := none
            updateIdx
            counterPartyCommitmentSecrets := secrets },
          { channelId := ch.channelId, perUpdateSecret := prevPerUpdateSecret })
  | _ => expectedState "RenewConfirmed"

/-- The accepting party takes the counterparty's secret; it is marked as offering and
keeps the state to go back to. -/
def renewChannelOnRevoke (ch : SignedChannel X) (renewRevoke : RenewRevoke) :
    Result (SignedChannel X) :=
  match ch.state with
  | .renewFinalized s => do
      let secrets ← receiveSecret X ch renewRevoke.perUpdateSecret s.prevOfferPerUpdatePoint
        "Invalid per update secret in channel renew revoke" "Provided secret was invalid"
      let updateIdx ← nextIdx ch.updateIdx
      .ok
        { ch with
          updateIdx
          state := .established
            { signedContractId := s.contractId
              counterBufferAdaptorSignature := s.offerBufferAdaptorSignature
              ownBufferAdaptorSignature := s.acceptBufferAdaptorSignature
              bufferTransaction := s.bufferTransaction
              isOffer := true
              totalCollateral := s.totalCollateral
              keysId := s.keysId }
          counterPartyCommitmentSecrets := secrets }
  | _ => expectedState "RenewFinalized"

def rejectRenewOffer (ch : SignedChannel X) : Result (SignedChannel X × Reject) :=
  match ch.state with
  | .renewOffered s => do
      ensure (s.isOffer = false) (.err (.invalidState "Cannot reject own renew offer."))
      let ch' ← ch.rollBack
      .ok (ch', { channelId := ch.channelId })
  | _ => expectedState "RenewOffered"

end Source

/-! What a successful call has computed. -/

section Results
variable {X : ChannelCrypto} {signer : Signer} {now : ℕ} {ch ch' : SignedChannel X}

section Offer
variable {D : Descriptors} {W : Wire D} {A : Type} {offered : OfferedContract D}

theorem renewOffer_ok {contractInput : ContractInput D A}
    {oracleAnnouncements : List (List (OracleAnnouncement A))}
    {counterPayout delay timeout cetNsequence serialId : ℕ} {msg : RenewOffer W.ContractInfo}
    (h : renewOffer X signer now W ch contractInput oracleAnnouncements counterPayout delay timeout
      cetNsequence serialId = .ok (ch', msg, offered)) :
    ∃ point, checkRenewal ch.state contractInput = .ok () ∧
      offered.id = generateTemporaryContractId X ch.channelId ch.updateIdx ∧
      nextPerUpdatePoint X signer validSecret ch = .ok point ∧
      ch' = ch.enter (.renewOffered
        ⟨offered.id, counterPayout, point, true, now + timeout, ch.state.keysId⟩) ∧
      msg.channelId = ch.channelId ∧ msg.temporaryContractId = offered.id ∧
      msg.nextPerUpdatePoint = point := by
  simp only [renewOffer, bind_eq_ok, Except.ok.injEq, Prod.mk.injEq] at h
  obtain ⟨_, checked, created, new, point, next, rfl, rfl, rfl⟩ := h
  have id := OfferedContract.new_id new
  exact ⟨point, checked, id, next, rfl, rfl, rfl, rfl⟩

/-- Only a channel at rest can be renewed. -/
theorem checkRenewal_state {state : SignedChannelState} {contractInput : ContractInput D A}
    (h : checkRenewal state contractInput = .ok ()) :
    (∃ s, state = .established s) ∨ ∃ s, state = .settled s := by
  unfold checkRenewal at h
  split at h
  next s => exact .inl ⟨s, rfl⟩
  next s => exact .inr ⟨s, rfl⟩
  next => cases h

theorem receiveRenewOffer_ok {m : RenewOffer W.ContractInfo} {timeout : ℕ} {keysId : KeysId}
    (h : receiveRenewOffer X now W ch m timeout keysId = .ok (ch', offered)) :
    offered.id = m.temporaryContractId ∧
      ch' = ch.enter (.renewOffered ⟨m.temporaryContractId, m.counterPayout,
        m.nextPerUpdatePoint, false, now + timeout, keysId⟩) := by
  simp only [receiveRenewOffer, bind_eq_ok, Except.ok.injEq, Prod.mk.injEq] at h
  obtain ⟨_, _, _, _, rfl, rfl⟩ := h
  exact ⟨rfl, rfl⟩

theorem onRenewOffer_ok {m : RenewOffer W.ContractInfo} {timeout : ℕ}
    (h : onRenewOffer X now W ch m timeout = .ok (ch', offered)) :
    ((∃ s, ch.state = .established s) ∨ ∃ s, ch.state = .settled s) ∧
      offered.id = m.temporaryContractId ∧
      ch' = ch.enter (.renewOffered ⟨m.temporaryContractId, m.counterPayout,
        m.nextPerUpdatePoint, false, now + timeout, ch.state.keysId⟩) := by
  unfold onRenewOffer at h
  split at h
  next s settled =>
    obtain ⟨id, entered⟩ := receiveRenewOffer_ok h
    rw [settled]
    exact ⟨.inr ⟨s, rfl⟩, id, entered⟩
  next s established =>
    obtain ⟨id, entered⟩ := receiveRenewOffer_ok h
    rw [established]
    exact ⟨.inl ⟨s, rfl⟩, id, entered⟩
  next => cases h

end Offer

section Contract
variable {E : SigningDescriptors} {cetNsequence timeout : ℕ}

theorem acceptChannelRenewal_ok {offered : OfferedContract E.toDescriptors}
    {accepted : AcceptedContract E.toDescriptors} {msg : RenewAccept}
    (h : acceptChannelRenewal X signer now ch offered cetNsequence timeout =
      .ok (ch', accepted, msg)) :
    ∃ s point txs contractId, ch.state = .renewOffered s ∧
      nextPerUpdatePoint X signer (.err .secpError) ch = .ok point ∧
      renewalTransactions X ch offered ch.ownParams
        (ch.counterRevokeParams s.offerNextPerUpdatePoint) (ch.ownRevokeParams point)
        cetNsequence = .ok txs ∧
      (∃ sk value sigs, Internal.acceptContract X.toCrypto offered ch.ownParams [] sk value
        (some txs.bufferScriptPubkey) txs.dlcTransactions = .ok (accepted, sigs)) ∧
      accepted.getContractId X.toCrypto = .ok contractId ∧
      ch' = { ch with state := .renewAccepted ⟨contractId, s.offerNextPerUpdatePoint, point,
        txs.bufferTransaction, txs.bufferScriptPubkey, now + timeout, s.counterPayout,
        s.keysId⟩ } ∧
      msg.channelId = ch.channelId ∧ msg.nextPerUpdatePoint = point := by
  unfold acceptChannelRenewal at h
  split at h
  next s received =>
    simp only [bind_eq_ok, Except.ok.injEq, Prod.mk.injEq] at h
    obtain ⟨_, _, point, next, txs, built, _, _, ⟨_, sigs⟩, signs, contractId, id, rfl, rfl,
      rfl⟩ := h
    exact ⟨s, point, txs, contractId, received, next, built, ⟨_, _, sigs, signs⟩, id, rfl, rfl, rfl⟩
  next => cases h

theorem verifyRenewAcceptAndConfirm_ok {m : RenewAccept} {offered : OfferedContract E.toDescriptors}
    {signed : SignedContract E.toDescriptors} {msg : RenewConfirm}
    (h : verifyRenewAcceptAndConfirm X signer now m ch offered cetNsequence timeout =
      .ok (ch', signed, msg)) :
    ∃ s txs sig ownPayout contractId, ch.state = .renewOffered s ∧
      renewalTransactions X ch offered ch.counterParams
        (ch.ownRevokeParams s.offerNextPerUpdatePoint)
        (ch.counterRevokeParams m.nextPerUpdatePoint) cetNsequence = .ok txs ∧
      (∃ value contractSigner counterPk sigs, Internal.verifyAcceptedAndSignContract X.toCrypto
        offered ch.counterParams [] m.refundSignature m.cetAdaptorSignatures value contractSigner
        (some txs.bufferScriptPubkey) counterPk txs.dlcTransactions (some ch.channelId) =
          .ok (signed, sigs)) ∧
      signed.acceptedContract.getContractId X.toCrypto = .ok contractId ∧
      ch' = { ch with state := .renewConfirmed ⟨contractId, s.offerNextPerUpdatePoint,
        m.nextPerUpdatePoint, txs.bufferTransaction, txs.bufferScriptPubkey, sig, now + timeout,
        ownPayout, offered.totalCollateral, s.keysId⟩ } ∧
      msg.channelId = ch.channelId ∧ msg.bufferAdaptorSignature = sig := by
  obtain ⟨_, _, h⟩ := bind_eq_ok.mp h
  split at h
  next s offers =>
    simp only [bind_eq_ok, Except.ok.injEq, Prod.mk.injEq] at h
    obtain ⟨_, _, ownPayout, _, txs, built, _, _, ⟨_, sigs⟩, signs, _, _, _, _, sig, _, contractId,
      id, rfl, rfl, rfl⟩ := h
    exact ⟨s, txs, sig, ownPayout, contractId, offers, built, ⟨_, _, _, sigs, signs⟩, id, rfl, rfl,
      rfl⟩
  next => cases h

theorem verifyRenewConfirmAndFinalize_ok {accepted : AcceptedContract E.toDescriptors}
    {renewConfirm : RenewConfirm} {signed : SignedContract E.toDescriptors} {msg : RenewFinalize}
    {m m' : ChainMonitor}
    (h : verifyRenewConfirmAndFinalize X signer now ch accepted renewConfirm timeout m =
      (.ok (ch', signed, msg), m')) :
    ∃ s sig secret total contractId, ch.state = .renewAccepted s ∧
      prevPerUpdateSecret X signer ch = .ok secret ∧
      (∃ value counterPk sigs, Internal.verifySignedContract X.toCrypto accepted
        renewConfirm.refundSignature renewConfirm.cetAdaptorSignatures [] value
        (some s.bufferScriptPubkey) counterPk (some ch.channelId) = .ok (signed, sigs)) ∧
      signed.acceptedContract.getContractId X.toCrypto = .ok contractId ∧
      m' = m.addTx (s.bufferTransaction.computeTxid X.toCrypto) ⟨ch.channelId, .bufferTx⟩ ∧
      ch' = { ch with
        counterPerUpdatePoint := s.offerPerUpdatePoint
        ownPerUpdatePoint := s.acceptPerUpdatePoint
        state := .renewFinalized ⟨contractId, ch.counterPerUpdatePoint, s.bufferTransaction,
          s.bufferScriptPubkey, renewConfirm.bufferAdaptorSignature, sig, now + timeout,
          s.ownPayout, total, s.keysId⟩ } ∧
      msg = ⟨ch.channelId, secret, sig⟩ := by
  simp only [verifyRenewConfirmAndFinalize, Handler.bind_ok, Handler.lift_ok, addTx,
    Handler.modify_ok, Handler.pure_ok] at h
  obtain ⟨⟨_, _, _, bufferTx⟩, _, ⟨finalized, rfl⟩, _, _, rfl, same, rfl⟩ := h
  simp only [Prod.mk.injEq] at same
  obtain ⟨rfl, rfl, rfl⟩ := same
  unfold finalizedRenewal at finalized
  split at finalized
  next s waiting =>
    simp only [bind_eq_ok, Except.ok.injEq, Prod.mk.injEq] at finalized
    obtain ⟨_, _, _, _, _, _, ⟨_, sigs⟩, verified, seed, seeded, secret, committed, _, _, sig, _,
      total, _, contractId, id, rfl, rfl, rfl, rfl⟩ := finalized
    exact ⟨s, sig, secret, total, contractId, waiting,
      bind_eq_ok.mpr ⟨seed, seeded, committed⟩, ⟨_, _, sigs, verified⟩, id, rfl, rfl, rfl⟩
  next => cases finalized

end Contract

theorem renewChannelOnFinalize_ok {m : RenewFinalize} {msg : RenewRevoke}
    (h : renewChannelOnFinalize X signer ch m = .ok (ch', msg)) :
    ∃ s secrets secret, ch.state = .renewConfirmed s ∧
      X.publicKey m.perUpdateSecret = ch.counterPerUpdatePoint ∧
      X.provideSecret ch.counterPartyCommitmentSecrets ch.updateIdx m.perUpdateSecret =
        some secrets ∧
      prevPerUpdateSecret X signer ch = .ok secret ∧ 1 ≤ ch.updateIdx ∧
      ch' = { ch with
        ownPerUpdatePoint := s.offerPerUpdatePoint
        counterPerUpdatePoint := s.acceptPerUpdatePoint
        state := .established ⟨s.contractId, m.bufferAdaptorSignature,
          s.offerBufferAdaptorSignature, s.bufferTransaction, true, s.totalCollateral, s.keysId⟩
        rollBackState := none
        updateIdx := ch.updateIdx - 1
        counterPartyCommitmentSecrets := secrets } ∧
      msg = ⟨ch.channelId, secret⟩ := by
  unfold renewChannelOnFinalize at h
  split at h
  next s confirmed =>
    simp only [bind_eq_ok, Except.ok.injEq, Prod.mk.injEq, nextIdx, sub_eq_ok] at h
    obtain ⟨_, _, _, _, secrets, received, secret, revealed, _, ⟨positive, rfl⟩, rfl, rfl⟩ := h
    obtain ⟨point, provided⟩ := receiveSecret_ok.mp received
    exact ⟨s, secrets, secret, confirmed, point, provided, revealed, positive, rfl, rfl⟩
  next => cases h

theorem renewChannelOnRevoke_ok {m : RenewRevoke}
    (h : renewChannelOnRevoke X ch m = .ok ch') :
    ∃ s secrets, ch.state = .renewFinalized s ∧
      X.publicKey m.perUpdateSecret = s.prevOfferPerUpdatePoint ∧
      X.provideSecret ch.counterPartyCommitmentSecrets ch.updateIdx m.perUpdateSecret =
        some secrets ∧ 1 ≤ ch.updateIdx ∧
      ch' = { ch with
        updateIdx := ch.updateIdx - 1
        state := .established ⟨s.contractId, s.offerBufferAdaptorSignature,
          s.acceptBufferAdaptorSignature, s.bufferTransaction, true, s.totalCollateral, s.keysId⟩
        counterPartyCommitmentSecrets := secrets } := by
  unfold renewChannelOnRevoke at h
  split at h
  next s finalized =>
    simp only [bind_eq_ok, Except.ok.injEq, nextIdx, sub_eq_ok] at h
    obtain ⟨secrets, received, _, ⟨positive, rfl⟩, rfl⟩ := h
    obtain ⟨point, provided⟩ := receiveSecret_ok.mp received
    exact ⟨s, secrets, finalized, point, provided, positive, rfl⟩
  next => cases h

theorem rejectRenewOffer_ok {msg : Reject} (h : rejectRenewOffer X ch = .ok (ch', msg)) :
    (∃ s, ch.state = .renewOffered s ∧ s.isOffer = false) ∧ ch.rollBack = .ok ch' ∧
      msg = ⟨ch.channelId⟩ := by
  unfold rejectRenewOffer at h
  split at h
  next s received =>
    simp only [bind_eq_ok, ensure_eq_ok, exists_const, Except.ok.injEq, Prod.mk.injEq] at h
    obtain ⟨counter, _, back, rfl, rfl⟩ := h
    exact ⟨⟨s, received, counter⟩, back, rfl⟩
  next => cases h

end Results

end P2PLending.Manager.Channels
