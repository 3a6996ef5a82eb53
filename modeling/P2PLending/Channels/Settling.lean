import P2PLending.Channels.Monitor
import P2PLending.Foundation.Handler

/-! The settle protocol: an offer and its receipt, the acceptance with the settle
transaction, and the exchange of the secrets of the previous state. A function that
registers a transaction does so in the chain monitor before it can still fail. -/

namespace P2PLending.Manager.Channels
open Dlc Checked

/-- The wallet's secrets. -/
structure Signer where
  getSecretKeyForPubkey : PublicKey → Result SecretKey
  deriveContractSigner : KeysId → Result ContractSigner

def expectedState (name : String) {α : Type} : Result α :=
  .error (.err (.invalidState s!"Expected state {name}"))

def noRollBackState {α : Type} : Result α := .error (.panic "to have a rollback state")

/-- `SecretKey::from_slice`, failing as the caller says. -/
def secretKeyFromSlice (fault : Fault Error) (scalar : Bytes32) : Result SecretKey :=
  if 0 < scalar.val ∧ scalar.val < curveOrder then .ok scalar else .error fault

/-- The index of the next update. -/
def nextIdx (idx : ℕ) : Result ℕ := sub (.panic "attempt to subtract with overflow") idx 1

namespace SignedChannel
variable {X : ChannelCrypto} (ch : SignedChannel X)

def fundOutput : Result TxOut := index ch.fundTx.output ch.fundOutputIndex

def totalCollateral : Result ℕ :=
  ofDlc (amountAdd ch.counterParams.collateral ch.ownParams.collateral)

def seed (signer : Signer) : Result SecretKey := signer.getSecretKeyForPubkey ch.ownPerUpdateSeed

/-- A state and, to go back to, the one before it. -/
def enter (state : SignedChannelState) : SignedChannel X :=
  { ch with state, rollBackState := some ch.state }

/-- The channel back in the state before. -/
def rollBack : Result (SignedChannel X) :=
  match ch.rollBackState with
  | some state => .ok { ch with state, rollBackState := none }
  | none => noRollBackState

def ownRevokeParams (perUpdatePoint : PublicKey) : RevokeParams :=
  ch.ownPoints.getRevokableParams X perUpdatePoint ch.counterPoints.revocationBasepoint

def counterRevokeParams (perUpdatePoint : PublicKey) : RevokeParams :=
  ch.counterPoints.getRevokableParams X perUpdatePoint ch.ownPoints.revocationBasepoint

end SignedChannel

section Source
variable (X : ChannelCrypto) (signer : Signer) (now : ℕ)

/-- The secret of an update, from the seed. -/
def commitmentSecret (fault : Fault Error) (seed : SecretKey) (idx : ℕ) : Result SecretKey :=
  secretKeyFromSlice fault (X.buildCommitmentSecret seed idx)

/-- The own point of the next update. -/
def nextPerUpdatePoint (fault : Fault Error) (ch : SignedChannel X) : Result PublicKey := do
  let seed ← ch.seed signer
  let idx ← nextIdx ch.updateIdx
  let secret ← commitmentSecret X fault seed idx
  .ok (X.publicKey secret)

def validSecret : Fault Error := .panic "a valid secret key."

def settleChannelOffer (ch : SignedChannel X) (counterPayout peerTimeout : ℕ) :
    Result (SignedChannel X × SettleOffer) :=
  match ch.state with
  | .established s => do
      let nextPerUpdatePoint ← nextPerUpdatePoint X signer validSecret ch
      let state := .settledOffered
        { counterPayout, nextPerUpdatePoint, timeout := now + peerTimeout, keysId := s.keysId }
      .ok (ch.enter state, { channelId := ch.channelId, counterPayout, nextPerUpdatePoint })
  | _ => .error (.err (.invalidState
      "Signed channel was not in Established state as expected."))

def onSettleOffer (ch : SignedChannel X) (settleOffer : SettleOffer) : Result (SignedChannel X) :=
  match ch.state with
  | .established s => do
      let totalCollateral ← ofDlc (amountAdd ch.ownParams.collateral ch.counterParams.collateral)
      ensure (settleOffer.counterPayout ≤ totalCollateral)
        (.err (.invalidState "Proposed settle offer payout greater than total collateral"))
      .ok (ch.enter (.settledReceived
        { ownPayout := settleOffer.counterPayout
          counterPayout := totalCollateral - settleOffer.counterPayout
          counterNextPerUpdatePoint := settleOffer.nextPerUpdatePoint
          keysId := s.keysId }))
  | _ => .error (.err (.invalidState "Received settle offer while not in Established state."))

/-- With the counterparty's signature, the own points are those of the offer. -/
def getSettleTxAndAdaptorSig (ownNextPerUpdatePoint : PublicKey) (fundTx : Transaction)
    (fundVout : ℕ) (fundingScriptPubkey : Bytes) (ownFundSk : SecretKey)
    (offerPoints acceptPoints : PartyBasePoints) (counterPerUpdatePoint : PublicKey)
    (offerPayout acceptPayout csvTimelock lockTime : ℕ)
    (counterAdaptorSignature : Option (AdaptorSignature × PublicKey)) (feeRatePerVb : ℕ) :
    Result (Transaction × AdaptorSignature) := do
  let isOffer := counterAdaptorSignature.isSome
  let (offerPerUpdatePoint, acceptPerUpdatePoint) :=
    if isOffer then (ownNextPerUpdatePoint, counterPerUpdatePoint)
    else (counterPerUpdatePoint, ownNextPerUpdatePoint)
  let fundTxIn : TxIn :=
    ⟨⟨fundTx.computeTxid X.toCrypto, fundVout⟩, [], disableLocktime, []⟩
  let offerRevokeParams := offerPoints.getRevokableParams X offerPerUpdatePoint
    acceptPoints.revocationBasepoint
  let acceptRevokeParams := acceptPoints.getRevokableParams X acceptPerUpdatePoint
    offerPoints.revocationBasepoint
  let fundOutput ← index fundTx.output fundVout
  let settleTx ← ofDlc (createSettleTransaction X fundTxIn offerRevokeParams acceptRevokeParams
    offerPayout acceptPayout csvTimelock lockTime fundOutput.value feeRatePerVb)
  match counterAdaptorSignature with
  | some (adaptorSig, fundPk) => ofDlc (verifyTxAdaptorSignature X settleTx fundOutput.value
      fundingScriptPubkey fundPk offerRevokeParams.publishPk adaptorSig)
  | none => .ok ()
  let counterPk := if isOffer then acceptRevokeParams.publishPk else offerRevokeParams.publishPk
  let settleAdaptorSignature ← ofDlc (getTxAdaptorSignature X settleTx fundOutput.value
    fundingScriptPubkey ownFundSk counterPk)
  .ok (settleTx, settleAdaptorSignature)

/-- The next state and the message of an acceptance, and the settle transaction. -/
def acceptedSettlement (ch : SignedChannel X) (csvTimelock lockTime peerTimeout : ℕ) :
    Result (SignedChannel X × SettleAccept × Transaction) :=
  match ch.state with
  | .settledReceived s => do
      let ownNextPerUpdatePoint ← nextPerUpdatePoint X signer validSecret ch
      let totalCollateral ← ch.totalCollateral
      let finalOfferPayout ← ofDlc (amountSub totalCollateral s.ownPayout)
      let contractSigner ← signer.deriveContractSigner s.keysId
      let sk ← contractSigner.secretKey
      let (settleTx, settleAdaptorSignature) ← getSettleTxAndAdaptorSig X ownNextPerUpdatePoint
        ch.fundTx ch.fundOutputIndex ch.fundScriptPubkey sk ch.counterPoints ch.ownPoints
        s.counterNextPerUpdatePoint finalOfferPayout s.ownPayout csvTimelock lockTime none
        ch.feeRatePerVb
      let state := .settledAccepted
        { counterNextPerUpdatePoint := s.counterNextPerUpdatePoint
          ownNextPerUpdatePoint, settleTx
          ownSettleAdaptorSignature := settleAdaptorSignature
          timeout := now + peerTimeout
          ownPayout := s.ownPayout
          counterPayout := s.counterPayout
          keysId := s.keysId }
      .ok ({ ch with state },
        { channelId := ch.channelId, nextPerUpdatePoint := ownNextPerUpdatePoint,
          settleAdaptorSignature }, settleTx)
  | _ => .error (.err (.invalidState
      "Signed channel was not in SettledReceived state as expected."))

def addTx (txid : Bytes32) (channelId : ChannelId) (txType : TxType) :
    Handler ChainMonitor (Fault Error) Unit :=
  Handler.modify fun m => m.addTx txid ⟨channelId, txType⟩

def settleChannelAccept (ch : SignedChannel X) (csvTimelock lockTime peerTimeout : ℕ) :
    Handler ChainMonitor (Fault Error) (SignedChannel X × SettleAccept) := do
  let (ch', msg, settleTx) ← Handler.lift
    (acceptedSettlement X signer now ch csvTimelock lockTime peerTimeout)
  addTx (settleTx.computeTxid X.toCrypto) ch.channelId .settleTx
  pure (ch', msg)

/-- The settle transaction and the own signature for it, once the counterparty's has
been verified. -/
def confirmedSettlement (ch : SignedChannel X) (settleAccept : SettleAccept)
    (csvTimelock lockTime : ℕ) :
    Result (SignedChannelState.SettledOffered × ℕ × Transaction × AdaptorSignature) :=
  match ch.state with
  | .settledOffered s => do
      let totalCollateral ← ch.totalCollateral
      let finalOfferPayout ← ofDlc (amountSub totalCollateral s.counterPayout)
      let contractSigner ← signer.deriveContractSigner s.keysId
      let sk ← contractSigner.secretKey
      let (settleTx, settleAdaptorSignature) ← getSettleTxAndAdaptorSig X s.nextPerUpdatePoint
        ch.fundTx ch.fundOutputIndex ch.fundScriptPubkey sk ch.ownPoints ch.counterPoints
        settleAccept.nextPerUpdatePoint finalOfferPayout s.counterPayout csvTimelock lockTime
        (some (settleAccept.settleAdaptorSignature, ch.counterParams.fundPubkey)) ch.feeRatePerVb
      .ok (s, finalOfferPayout, settleTx, settleAdaptorSignature)
  | _ => .error (.err (.invalidState
      "Signed channel was not in SettledOffered state as expected."))

/-- The secret of the state that is left. -/
def prevPerUpdateSecret (ch : SignedChannel X) : Result SecretKey := do
  let seed ← ch.seed signer
  commitmentSecret X (.err .secpError) seed ch.updateIdx

def settleChannelConfirm (ch : SignedChannel X) (settleAccept : SettleAccept)
    (csvTimelock lockTime peerTimeout : ℕ) :
    Handler ChainMonitor (Fault Error) (SignedChannel X × SettleConfirm) := do
  let (s, ownPayout, settleTx, settleAdaptorSignature) ← Handler.lift
    (confirmedSettlement X signer ch settleAccept csvTimelock lockTime)
  addTx (settleTx.computeTxid X.toCrypto) ch.channelId .settleTx
  let prevPerUpdateSecret ← Handler.lift (prevPerUpdateSecret X signer ch)
  let state := .settledConfirmed
    { settleTx
      counterSettleAdaptorSignature := settleAccept.settleAdaptorSignature
      ownNextPerUpdatePoint := s.nextPerUpdatePoint
      counterNextPerUpdatePoint := settleAccept.nextPerUpdatePoint
      ownSettleAdaptorSignature := settleAdaptorSignature
      timeout := now + peerTimeout
      ownPayout
      counterPayout := s.counterPayout
      keysId := s.keysId }
  pure ({ ch with state },
    { channelId := ch.channelId, prevPerUpdateSecret, settleAdaptorSignature })

/-- The counterparty's secret of the state that is left, checked and kept. -/
def receiveSecret (ch : SignedChannel X) (secret : SecretKey) (point : PublicKey)
    (wrongPoint wrongSecret : String) : Result X.Secrets := do
  ensure (X.publicKey secret = point) (.err (.invalidParameters wrongPoint))
  match X.provideSecret ch.counterPartyCommitmentSecrets ch.updateIdx secret with
  | some secrets => .ok secrets
  | none => .error (.err (.invalidParameters wrongSecret))

def settleChannelFinalize (ch : SignedChannel X) (settleConfirm : SettleConfirm) :
    Result (SignedChannel X × SettleFinalize) :=
  match ch.state with
  | .settledAccepted s => do
      let seed ← ch.seed signer
      let acceptRevokeParams := ch.ownRevokeParams s.ownNextPerUpdatePoint
      let fundOutput ← ch.fundOutput
      ofDlc (verifyTxAdaptorSignature X s.settleTx fundOutput.value ch.fundScriptPubkey
        ch.counterParams.fundPubkey acceptRevokeParams.publishPk
        settleConfirm.settleAdaptorSignature)
      let secrets ← receiveSecret X ch settleConfirm.prevPerUpdateSecret ch.counterPerUpdatePoint
        "Invalid per update secret in channel confirm" "Received per update secret is invalid"
      let prevPerUpdateSecret ← commitmentSecret X (.err .secpError) seed ch.updateIdx
      let updateIdx ← nextIdx ch.updateIdx
      .ok
        ({ ch with
            ownPerUpdatePoint := s.ownNextPerUpdatePoint
            counterPerUpdatePoint := s.counterNextPerUpdatePoint
            state := .settled
              { settleTx := s.settleTx
                counterSettleAdaptorSignature := settleConfirm.settleAdaptorSignature
                ownSettleAdaptorSignature := s.ownSettleAdaptorSignature
                ownPayout := s.ownPayout
                counterPayout := s.counterPayout
                keysId := s.keysId }
            rollBackState := none
            updateIdx
            counterPartyCommitmentSecrets := secrets },
          { channelId := ch.channelId, prevPerUpdateSecret })
  | _ => .error (.err (.invalidState
      "Signed channel was not in SettledAccepted state as expected."))

def settleChannelOnFinalize (ch : SignedChannel X) (settleFinalize : SettleFinalize) :
    Result (SignedChannel X) :=
  match ch.state with
  | .settledConfirmed s => do
      let secrets ← receiveSecret X ch settleFinalize.prevPerUpdateSecret ch.counterPerUpdatePoint
        "Invalid per update secret in channel finalize" "Received per update secret is invalid"
      let updateIdx ← nextIdx ch.updateIdx
      .ok
        { ch with
          ownPerUpdatePoint := s.ownNextPerUpdatePoint
          counterPerUpdatePoint := s.counterNextPerUpdatePoint
          state := .settled
            { settleTx := s.settleTx
              counterSettleAdaptorSignature := s.counterSettleAdaptorSignature
              ownSettleAdaptorSignature := s.ownSettleAdaptorSignature
              ownPayout := s.ownPayout
              counterPayout := s.counterPayout
              keysId := s.keysId }
          rollBackState := none
          updateIdx
          counterPartyCommitmentSecrets := secrets }
  | _ => .error (.err (.invalidState
      "Signed channel was not in SettledConfirmed state as expected."))

def rejectSettleOffer (ch : SignedChannel X) : Result (SignedChannel X × Reject) :=
  match ch.state with
  | .settledReceived _ => do
      let ch' ← ch.rollBack
      .ok (ch', { channelId := ch.channelId })
  | _ => expectedState "SettledReceived"

end Source

/-! What a successful call has computed. -/

section Results
variable {X : ChannelCrypto} {signer : Signer} {now : ℕ} {ch ch' : SignedChannel X}

theorem commitmentSecret_ok {fault : Fault Error} {seed secret : SecretKey} {idx : ℕ}
    (h : commitmentSecret X fault seed idx = .ok secret) :
    secret = X.buildCommitmentSecret seed idx := by
  unfold commitmentSecret secretKeyFromSlice at h
  split_ifs at h
  exact (Except.ok.inj h).symm

theorem nextPerUpdatePoint_ok {fault : Fault Error} {point : PublicKey}
    (h : nextPerUpdatePoint X signer fault ch = .ok point) :
    ∃ seed, ch.seed signer = .ok seed ∧ 1 ≤ ch.updateIdx ∧
      point = X.publicKey (X.buildCommitmentSecret seed (ch.updateIdx - 1)) := by
  simp only [nextPerUpdatePoint, bind_eq_ok, nextIdx, sub_eq_ok, Except.ok.injEq] at h
  obtain ⟨seed, seeded, _, ⟨positive, rfl⟩, secret, committed, rfl⟩ := h
  exact ⟨seed, seeded, positive, by rw [commitmentSecret_ok committed]⟩

theorem prevPerUpdateSecret_ok {secret : SecretKey}
    (h : prevPerUpdateSecret X signer ch = .ok secret) :
    ∃ seed, ch.seed signer = .ok seed ∧ secret = X.buildCommitmentSecret seed ch.updateIdx := by
  obtain ⟨seed, seeded, committed⟩ := bind_eq_ok.mp h
  exact ⟨seed, seeded, commitmentSecret_ok committed⟩

theorem receiveSecret_ok {secret : SecretKey} {point : PublicKey} {wrongPoint wrongSecret : String}
    {secrets : X.Secrets} :
    receiveSecret X ch secret point wrongPoint wrongSecret = .ok secrets ↔
      X.publicKey secret = point ∧
        X.provideSecret ch.counterPartyCommitmentSecrets ch.updateIdx secret = some secrets := by
  simp only [receiveSecret, bind_eq_ok, ensure_eq_ok, exists_const]
  cases X.provideSecret ch.counterPartyCommitmentSecrets ch.updateIdx secret <;> simp

theorem rollBack_ok (h : ch.rollBack = .ok ch') :
    ∃ state, ch.rollBackState = some state ∧ ch' = { ch with state, rollBackState := none } := by
  unfold SignedChannel.rollBack at h
  split at h
  next state before => exact ⟨state, before, (Except.ok.inj h).symm⟩
  next => cases h

theorem settleChannelOffer_ok {counterPayout timeout : ℕ} {msg : SettleOffer}
    (h : settleChannelOffer X signer now ch counterPayout timeout = .ok (ch', msg)) :
    ∃ s point, ch.state = .established s ∧
      nextPerUpdatePoint X signer validSecret ch = .ok point ∧
      ch' = ch.enter (.settledOffered ⟨counterPayout, point, now + timeout, s.keysId⟩) ∧
      msg = ⟨ch.channelId, counterPayout, point⟩ := by
  unfold settleChannelOffer at h
  split at h
  next s established =>
    simp only [bind_eq_ok, Except.ok.injEq, Prod.mk.injEq] at h
    obtain ⟨point, next, rfl, rfl⟩ := h
    exact ⟨s, point, established, next, rfl, rfl⟩
  next => cases h

theorem onSettleOffer_ok {m : SettleOffer} (h : onSettleOffer X ch m = .ok ch') :
    ∃ s total, ch.state = .established s ∧
      ofDlc (amountAdd ch.ownParams.collateral ch.counterParams.collateral) = .ok total ∧
      m.counterPayout ≤ total ∧
      ch' = ch.enter (.settledReceived
        ⟨m.counterPayout, total - m.counterPayout, m.nextPerUpdatePoint, s.keysId⟩) := by
  unfold onSettleOffer at h
  split at h
  next s established =>
    simp only [bind_eq_ok, ensure_eq_ok, exists_const, Except.ok.injEq] at h
    obtain ⟨total, sum, enough, rfl⟩ := h
    exact ⟨s, total, established, sum, enough, rfl⟩
  next => cases h

theorem settleChannelAccept_ok {csv lock timeout : ℕ} {m m' : ChainMonitor} {msg : SettleAccept}
    (h : settleChannelAccept X signer now ch csv lock timeout m = (.ok (ch', msg), m')) :
    ∃ s point settleTx sig, ch.state = .settledReceived s ∧
      nextPerUpdatePoint X signer validSecret ch = .ok point ∧
      m' = m.addTx (settleTx.computeTxid X.toCrypto) ⟨ch.channelId, .settleTx⟩ ∧
      ch' = { ch with state := .settledAccepted ⟨s.counterNextPerUpdatePoint, point, sig, settleTx,
        now + timeout, s.ownPayout, s.counterPayout, s.keysId⟩ } ∧
      msg = ⟨ch.channelId, point, sig⟩ := by
  simp only [settleChannelAccept, Handler.bind_ok, Handler.lift_ok, addTx, Handler.modify_ok,
    Handler.pure_ok] at h
  obtain ⟨⟨_, _, settleTx⟩, _, ⟨accepted, rfl⟩, _, _, rfl, same, rfl⟩ := h
  obtain ⟨rfl, rfl⟩ := Prod.mk.inj same
  unfold acceptedSettlement at accepted
  split at accepted
  next s received =>
    simp only [bind_eq_ok, Except.ok.injEq, Prod.mk.injEq] at accepted
    obtain ⟨point, next, _, _, _, _, _, _, _, _, ⟨_, sig⟩, _, rfl, rfl, rfl⟩ := accepted
    exact ⟨s, point, _, sig, received, next, rfl, rfl, rfl⟩
  next => cases accepted

theorem confirmedSettlement_ok {m : SettleAccept} {csv lock : ℕ}
    {r : SignedChannelState.SettledOffered × ℕ × Transaction × AdaptorSignature}
    (h : confirmedSettlement X signer ch m csv lock = .ok r) :
    ch.state = .settledOffered r.1 := by
  unfold confirmedSettlement at h
  split at h
  next s offered =>
    simp only [bind_eq_ok, Except.ok.injEq] at h
    obtain ⟨_, _, _, _, _, _, _, _, _, _, rfl⟩ := h
    exact offered
  next => cases h

theorem settleChannelConfirm_ok {settleAccept : SettleAccept} {csv lock timeout : ℕ}
    {m m' : ChainMonitor} {msg : SettleConfirm}
    (h : settleChannelConfirm X signer now ch settleAccept csv lock timeout m =
      (.ok (ch', msg), m')) :
    ∃ s ownPayout settleTx sig secret, ch.state = .settledOffered s ∧
      prevPerUpdateSecret X signer ch = .ok secret ∧
      m' = m.addTx (settleTx.computeTxid X.toCrypto) ⟨ch.channelId, .settleTx⟩ ∧
      ch' = { ch with state := .settledConfirmed ⟨settleTx, settleAccept.settleAdaptorSignature,
        settleAccept.nextPerUpdatePoint, s.nextPerUpdatePoint, sig, now + timeout, ownPayout,
        s.counterPayout, s.keysId⟩ } ∧
      msg = ⟨ch.channelId, secret, sig⟩ := by
  simp only [settleChannelConfirm, Handler.bind_ok, Handler.lift_ok, addTx, Handler.modify_ok,
    Handler.pure_ok] at h
  obtain ⟨⟨s, ownPayout, settleTx, sig⟩, _, ⟨confirmed, rfl⟩, _, _, rfl, secret, _,
    ⟨revealed, rfl⟩, same, rfl⟩ := h
  obtain ⟨rfl, rfl⟩ := Prod.mk.inj same
  exact ⟨s, ownPayout, settleTx, sig, secret, confirmedSettlement_ok confirmed, revealed, rfl, rfl,
    rfl⟩

theorem settleChannelFinalize_ok {m : SettleConfirm} {msg : SettleFinalize}
    (h : settleChannelFinalize X signer ch m = .ok (ch', msg)) :
    ∃ s secrets secret, ch.state = .settledAccepted s ∧
      X.publicKey m.prevPerUpdateSecret = ch.counterPerUpdatePoint ∧
      X.provideSecret ch.counterPartyCommitmentSecrets ch.updateIdx m.prevPerUpdateSecret =
        some secrets ∧
      prevPerUpdateSecret X signer ch = .ok secret ∧ 1 ≤ ch.updateIdx ∧
      ch' = { ch with
        ownPerUpdatePoint := s.ownNextPerUpdatePoint
        counterPerUpdatePoint := s.counterNextPerUpdatePoint
        state := .settled ⟨s.settleTx, m.settleAdaptorSignature, s.ownSettleAdaptorSignature,
          s.ownPayout, s.counterPayout, s.keysId⟩
        rollBackState := none
        updateIdx := ch.updateIdx - 1
        counterPartyCommitmentSecrets := secrets } ∧
      msg = ⟨ch.channelId, secret⟩ := by
  unfold settleChannelFinalize at h
  split at h
  next s accepted =>
    simp only [bind_eq_ok, Except.ok.injEq, Prod.mk.injEq, nextIdx, sub_eq_ok] at h
    obtain ⟨seed, seeded, _, _, _, _, secrets, received, secret, committed, _, ⟨positive, rfl⟩,
      rfl, rfl⟩ := h
    obtain ⟨point, provided⟩ := receiveSecret_ok.mp received
    exact ⟨s, secrets, secret, accepted, point, provided, bind_eq_ok.mpr ⟨seed, seeded, committed⟩,
      positive, rfl, rfl⟩
  next => cases h

theorem settleChannelOnFinalize_ok {m : SettleFinalize}
    (h : settleChannelOnFinalize X ch m = .ok ch') :
    ∃ s secrets, ch.state = .settledConfirmed s ∧
      X.publicKey m.prevPerUpdateSecret = ch.counterPerUpdatePoint ∧
      X.provideSecret ch.counterPartyCommitmentSecrets ch.updateIdx m.prevPerUpdateSecret =
        some secrets ∧ 1 ≤ ch.updateIdx ∧
      ch' = { ch with
        ownPerUpdatePoint := s.ownNextPerUpdatePoint
        counterPerUpdatePoint := s.counterNextPerUpdatePoint
        state := .settled ⟨s.settleTx, s.counterSettleAdaptorSignature,
          s.ownSettleAdaptorSignature, s.ownPayout, s.counterPayout, s.keysId⟩
        rollBackState := none
        updateIdx := ch.updateIdx - 1
        counterPartyCommitmentSecrets := secrets } := by
  unfold settleChannelOnFinalize at h
  split at h
  next s confirmed =>
    simp only [bind_eq_ok, Except.ok.injEq, nextIdx, sub_eq_ok] at h
    obtain ⟨secrets, received, _, ⟨positive, rfl⟩, rfl⟩ := h
    obtain ⟨point, provided⟩ := receiveSecret_ok.mp received
    exact ⟨s, secrets, confirmed, point, provided, positive, rfl⟩
  next => cases h

theorem rejectSettleOffer_ok {msg : Reject} (h : rejectSettleOffer X ch = .ok (ch', msg)) :
    (∃ s, ch.state = .settledReceived s) ∧ ch.rollBack = .ok ch' ∧ msg = ⟨ch.channelId⟩ := by
  unfold rejectSettleOffer at h
  split at h
  next s received =>
    simp only [bind_eq_ok, Except.ok.injEq, Prod.mk.injEq] at h
    obtain ⟨_, back, rfl, rfl⟩ := h
    exact ⟨⟨s, received⟩, back, rfl⟩
  next => cases h

end Results

end P2PLending.Manager.Channels
