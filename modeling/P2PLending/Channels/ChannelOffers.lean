import P2PLending.Channels.FundingWitnesses
import P2PLending.Manager.OfferReplay

/-! The opening of a channel: its offer, the acceptance with the transactions of the first
contract, and the offering party's signatures. -/

namespace P2PLending.Manager.Channels
open Dlc Checked

structure OfferedChannel where
  offeredContractId : ContractId
  temporaryChannelId : ChannelId
  partyPoints : PartyBasePoints
  perUpdatePoint : PublicKey
  offerPerUpdateSeed : Option PublicKey
  isOfferParty : Bool
  counterParty : PublicKey
  cetNsequence : ℕ
  deriving DecidableEq, Repr

structure AcceptChannel where
  temporaryChannelId : ChannelId
  acceptCollateral : ℕ
  fundingPubkey : PublicKey
  revocationBasepoint : PublicKey
  publishBasepoint : PublicKey
  ownBasepoint : PublicKey
  firstPerUpdatePoint : PublicKey
  payoutSpk : Bytes
  payoutSerialId : ℕ
  fundingInputs : List FundingInput
  changeSpk : Bytes
  changeSerialId : ℕ
  cetAdaptorSignatures : List AdaptorSignature
  bufferAdaptorSignature : AdaptorSignature
  refundSignature : Signature
  deriving DecidableEq, Repr

structure FailedAccept where
  counterParty : PublicKey
  temporaryChannelId : ChannelId
  errorMessage : Error
  acceptMessage : AcceptChannel
  deriving DecidableEq, Repr

structure FailedSign where
  counterParty : PublicKey
  channelId : ChannelId
  errorMessage : Error
  signMessage : SignChannel
  deriving DecidableEq, Repr

/-- A channel, up to its signing and after it. -/
inductive Channel (X : ChannelCrypto)
  | offered (c : OfferedChannel)
  | accepted (c : AcceptedChannel)
  | failedAccept (c : FailedAccept)
  | failedSign (c : FailedSign)
  | cancelled (c : OfferedChannel)
  | established (c : ChannelRecord X)

namespace Channel
variable {X : ChannelCrypto}

def getId : Channel X → ChannelId
  | .offered o | .cancelled o => o.temporaryChannelId
  | .accepted a => a.channelId
  | .failedAccept f => f.temporaryChannelId
  | .failedSign f => f.channelId
  | .established c => c.getId

def getCounterPartyId : Channel X → PublicKey
  | .offered o | .cancelled o => o.counterParty
  | .accepted a => a.counterParty
  | .failedAccept f => f.counterParty
  | .failedSign f => f.counterParty
  | .established c => c.getCounterPartyId

/-- The id that `upsert_channel` removes before it inserts the channel. -/
def replaces : Channel X → Option ChannelId
  | .accepted a => some a.temporaryChannelId
  | .established (.signed ch) => some ch.temporaryChannelId
  | _ => none

end Channel

/-- The channels in the store. -/
abbrev ChannelTree (X : ChannelCrypto) := ChannelId → Option (Channel X)

namespace ChannelTree
variable {X : ChannelCrypto} (tree : ChannelTree X)

def upsert (channel : Channel X) : ChannelTree X :=
  Function.update (channel.replaces.elim tree fun id => Function.update tree id none)
    channel.getId (some channel)

/-- `get_channel_in_state!`. The texts are without the formatted keys, ids and states. -/
def getInState {α : Type} (state : String) (pick : Channel X → Option α) (id : ChannelId)
    (peer : Option PublicKey) : Result α :=
  match tree id with
  | none => .error (.err (.invalidParameters "Unknown Channel id."))
  | some c =>
      if peer.any (· ≠ c.getCounterPartyId) then
        .error (.err (.invalidParameters "Peer is not involved with Channel."))
      else match pick c with
        | some channel => .ok channel
        | none => .error (.err (.invalidState s!"Invalid state of Channel, expected {state}."))

end ChannelTree

def Channel.offered? {X : ChannelCrypto} : Channel X → Option OfferedChannel
  | .offered c => some c
  | _ => none

def Channel.accepted? {X : ChannelCrypto} : Channel X → Option AcceptedChannel
  | .accepted c => some c
  | _ => none

/-- The answers of one call that opens a channel; the new secret keys are numbered in the
order in which they are drawn. -/
structure OpeningAnswers where
  newTemporaryId : ContractId
  newTemporaryChannelId : ChannelId
  deriveSignerKeyId : (isOfferParty : Bool) → ContractId → KeysId
  deriveContractSigner : KeysId → Except Error ContractSigner
  getNewSecretKey : ℕ → Except Error SecretKey
  getSecretKeyForPubkey : PublicKey → Except Error SecretKey
  unixTimeNow : ℕ
  fundOutputSerialId : ℕ

section Source
variable (X : ChannelCrypto) (answers : OpeningAnswers)

/-- `get_party_base_points`, which draws three keys from the given number on. -/
def getPartyBasePoints (first : ℕ) : Result PartyBasePoints := do
  let own ← answered (answers.getNewSecretKey first)
  let publish ← answered (answers.getNewSecretKey (first + 1))
  let revocation ← answered (answers.getNewSecretKey (first + 2))
  .ok
    { ownBasepoint := X.publicKey own
      publishBasepoint := X.publicKey publish
      revocationBasepoint := X.publicKey revocation }

def firstPerUpdatePoint (perUpdateSeed : SecretKey) : Result PublicKey := do
  let secret ← commitmentSecret X (.panic "to have generated a valid secret key.") perUpdateSeed
    initialUpdateNumber
  .ok (X.publicKey secret)

/-- `offer_channel` with the party's coins. The contract is not validated. -/
def offerChannelWith {D : Descriptors} {A : Type} (contract : ContractInput D A)
    (counterParty : PublicKey) (oracleAnnouncements : List (List (OracleAnnouncement A)))
    (offerParams : PartyParams) (fundingInputs : List FundingInput) :
    Result (OfferedChannel × OfferedContract D) := do
  let keysId := answers.deriveSignerKeyId true answers.newTemporaryId
  let partyPoints ← getPartyBasePoints X answers 0
  let offered ← OfferedContract.new answers.newTemporaryId contract oracleAnnouncements
    offerParams fundingInputs counterParty refundDelay (answers.unixTimeNow % 2 ^ 32) keysId
    answers.fundOutputSerialId
  let perUpdateSeed ← answered (answers.getNewSecretKey 3)
  let perUpdatePoint ← firstPerUpdatePoint X perUpdateSeed
  .ok
    ({ offeredContractId := offered.id
       partyPoints
       temporaryChannelId := answers.newTemporaryChannelId
       perUpdatePoint
       offerPerUpdateSeed := some (X.publicKey perUpdateSeed)
       isOfferParty := true
       counterParty
       cetNsequence := cetNsequence }, offered)

section Contract
variable {E : SigningDescriptors} (offeredChannel : OfferedChannel)
  (offered : OfferedContract E.toDescriptors)

/-- The transactions of the first contract in the channel. -/
def openingTransactions (acceptParams : PartyParams)
    (offerRevokeParams acceptRevokeParams : RevokeParams) (cetNsequence : ℕ) :
    Result DlcChannelTransactions := do
  let info ← index offered.contractInfo 0
  let payouts ← E.getPayouts info offered.totalCollateral
  ofDlc (createChannelTransactions X.toCrypto X.buffer offered.offerParams acceptParams
    offerRevokeParams acceptRevokeParams payouts offered.refundLocktime offered.feeRatePerVb 0
    offered.cetLocktime offered.fundOutputSerialId cetNsequence)

def openingChannelId (txs : DlcTransactions) : Result ChannelId := do
  let fundOutputIndex ← getFundOutputIndex X.toCrypto txs
  .ok (computeId (txs.fund.computeTxid X.toCrypto) fundOutputIndex
    offeredChannel.temporaryChannelId)

def AcceptedChannel.getAcceptChannelMsg (c : AcceptedChannel)
    (contract : AcceptedContract E.toDescriptors) (bufferAdaptorSignature : AdaptorSignature)
    (cetAdaptorSignatures : List AdaptorSignature) : AcceptChannel where
  temporaryChannelId := c.temporaryChannelId
  acceptCollateral := contract.acceptParams.collateral
  fundingPubkey := contract.acceptParams.fundPubkey
  revocationBasepoint := c.acceptBasePoints.revocationBasepoint
  publishBasepoint := c.acceptBasePoints.publishBasepoint
  ownBasepoint := c.acceptBasePoints.ownBasepoint
  firstPerUpdatePoint := c.acceptPerUpdatePoint
  payoutSpk := contract.acceptParams.payoutScriptPubkey
  payoutSerialId := contract.acceptParams.payoutSerialId
  fundingInputs := contract.fundingInputs
  changeSpk := contract.acceptParams.changeScriptPubkey
  changeSerialId := contract.acceptParams.changeSerialId
  cetAdaptorSignatures := cetAdaptorSignatures
  bufferAdaptorSignature := bufferAdaptorSignature
  refundSignature := contract.acceptRefundSignature

/-- `accept_channel_offer` with the party's coins. -/
def acceptChannelOfferWith (signer : ContractSigner) (acceptParams : PartyParams)
    (fundingInputs : List FundingInput) :
    Result (AcceptedChannel × AcceptedContract E.toDescriptors × AcceptChannel) := do
  let perUpdateSeed ← answered (answers.getNewSecretKey 0)
  let firstPerUpdatePoint ← firstPerUpdatePoint X perUpdateSeed
  let acceptPoints ← getPartyBasePoints X answers 1
  let acceptRevokeParams := acceptPoints.getRevokableParams X firstPerUpdatePoint
    offeredChannel.partyPoints.revocationBasepoint
  let offerRevokeParams := offeredChannel.partyPoints.getRevokableParams X
    offeredChannel.perUpdatePoint acceptPoints.revocationBasepoint
  let txs ← openingTransactions X offered acceptParams offerRevokeParams acceptRevokeParams
    offeredChannel.cetNsequence
  let ownBaseSecretKey ← answered (answers.getSecretKeyForPubkey acceptPoints.ownBasepoint)
  let ownSecretKey := X.derivePrivateKey firstPerUpdatePoint ownBaseSecretKey
  let channelId ← openingChannelId X offeredChannel txs.dlcTransactions
  let fundOutput ← ofDlc (txs.dlcTransactions.getFundOutput X.toCrypto)
  let sk ← signer.secretKey
  let bufferAdaptorSignature ← ofDlc (getTxAdaptorSignature X txs.bufferTransaction
    fundOutput.value txs.dlcTransactions.fundingScriptPubkey sk offerRevokeParams.publishPk)
  let bufferOutput ← index txs.bufferTransaction.output 0
  let (accepted, adaptorSigs) ← Internal.acceptContract X.toCrypto offered acceptParams
    fundingInputs ownSecretKey bufferOutput.value (some txs.bufferScriptPubkey)
    txs.dlcTransactions
  let acceptedContractId ← accepted.getContractId X.toCrypto
  let acceptedChannel : AcceptedChannel :=
    { offerBasePoints := offeredChannel.partyPoints
      acceptBasePoints := acceptPoints
      acceptedContractId
      bufferTransaction := txs.bufferTransaction
      bufferScriptPubkey := txs.bufferScriptPubkey
      offerPerUpdatePoint := offeredChannel.perUpdatePoint
      acceptPerUpdatePoint := firstPerUpdatePoint
      temporaryChannelId := offeredChannel.temporaryChannelId
      channelId
      acceptPerUpdateSeed := X.publicKey perUpdateSeed
      acceptBufferAdaptorSignature := bufferAdaptorSignature
      counterParty := offered.counterParty }
  .ok (acceptedChannel, accepted,
    acceptedChannel.getAcceptChannelMsg accepted bufferAdaptorSignature adaptorSigs)

def AcceptChannel.toAcceptParams (acceptChannel : AcceptChannel) (inputs : List TxInputInfo)
    (inputAmount : ℕ) : PartyParams where
  fundPubkey := acceptChannel.fundingPubkey
  changeScriptPubkey := acceptChannel.changeSpk
  changeSerialId := acceptChannel.changeSerialId
  payoutScriptPubkey := acceptChannel.payoutSpk
  payoutSerialId := acceptChannel.payoutSerialId
  inputs := inputs
  inputAmount := inputAmount
  collateral := acceptChannel.acceptCollateral

/-- The buffer transaction is registered in the chain monitor before the offering party's seed
is looked for. -/
def verifyAndSignAcceptedChannel (decodeTransaction : Bytes → Option Transaction)
    (noSecrets : X.Secrets) (acceptChannel : AcceptChannel) (cetNsequence : ℕ) :
    Handler ChainMonitor (Fault Error)
      (SignedChannel X × SignedContract E.toDescriptors × SignChannel) := do
  let (inputs, inputAmount) ← Handler.lift
    (getTxInputInfos X.toCrypto decodeTransaction acceptChannel.fundingInputs)
  let acceptParams := acceptChannel.toAcceptParams inputs inputAmount
  let acceptPoints : PartyBasePoints :=
    { ownBasepoint := acceptChannel.ownBasepoint
      revocationBasepoint := acceptChannel.revocationBasepoint
      publishBasepoint := acceptChannel.publishBasepoint }
  let offerOwnBaseSecret ← Handler.lift
    (answered (answers.getSecretKeyForPubkey offeredChannel.partyPoints.ownBasepoint))
  let offerOwnSk := X.derivePrivateKey offeredChannel.perUpdatePoint offerOwnBaseSecret
  let offerFundSk ← Handler.lift (answered (answers.deriveContractSigner offered.keysId))
  let offerRevokeParams := offeredChannel.partyPoints.getRevokableParams X
    offeredChannel.perUpdatePoint acceptPoints.revocationBasepoint
  let acceptRevokeParams := acceptPoints.getRevokableParams X acceptChannel.firstPerUpdatePoint
    offeredChannel.partyPoints.revocationBasepoint
  let txs ← Handler.lift (openingTransactions X offered acceptParams offerRevokeParams
    acceptRevokeParams cetNsequence)
  let channelId ← Handler.lift (openingChannelId X offeredChannel txs.dlcTransactions)
  let bufferOutput ← Handler.lift (index txs.bufferTransaction.output 0)
  let (signedContract, cetAdaptorSignatures) ← Handler.lift
    (Internal.verifyAcceptedAndSignContract X.toCrypto offered acceptParams
      acceptChannel.fundingInputs acceptChannel.refundSignature acceptChannel.cetAdaptorSignatures
      bufferOutput.value ⟨.ok (X.publicKey offerOwnSk), .ok offerOwnSk⟩
      (some txs.bufferScriptPubkey) (some acceptRevokeParams.ownPk) txs.dlcTransactions
      (some channelId))
  let fundOutput ← Handler.lift (ofDlc (txs.dlcTransactions.getFundOutput X.toCrypto))
  let contract := signedContract.acceptedContract
  Handler.lift (ofDlc (verifyTxAdaptorSignature X txs.bufferTransaction fundOutput.value
    txs.dlcTransactions.fundingScriptPubkey contract.acceptParams.fundPubkey
    offerRevokeParams.publishPk acceptChannel.bufferAdaptorSignature))
  let sk ← Handler.lift offerFundSk.secretKey
  let ownBufferAdaptorSignature ← Handler.lift (ofDlc (getTxAdaptorSignature X
    txs.bufferTransaction fundOutput.value txs.dlcTransactions.fundingScriptPubkey sk
    acceptRevokeParams.publishPk))
  Handler.modify fun m => m.addTx (txs.bufferTransaction.computeTxid X.toCrypto)
    ⟨channelId, .bufferTx⟩
  let signedContractId ← Handler.lift (contract.getContractId X.toCrypto)
  let fundOutputIndex ← Handler.lift (getFundOutputIndex X.toCrypto txs.dlcTransactions)
  let ownPerUpdateSeed ← Handler.lift
    (offeredChannel.offerPerUpdateSeed.elim (.error (.panic "to have the offer update seed")) .ok)
  pure
    ({ counterParty := contract.offeredContract.counterParty
       ownPoints := offeredChannel.partyPoints
       counterPoints := acceptPoints
       counterParams := contract.acceptParams
       counterPerUpdatePoint := acceptChannel.firstPerUpdatePoint
       state := .established
        { signedContractId, ownBufferAdaptorSignature
          counterBufferAdaptorSignature := acceptChannel.bufferAdaptorSignature
          bufferTransaction := txs.bufferTransaction
          isOffer := true
          totalCollateral := offered.totalCollateral
          keysId := offered.keysId }
       updateIdx := initialUpdateNumber
       channelId
       temporaryChannelId := offeredChannel.temporaryChannelId
       rollBackState := none
       fundTx := txs.dlcTransactions.fund
       fundScriptPubkey := txs.dlcTransactions.fundingScriptPubkey
       fundOutputIndex
       ownParams := offered.offerParams
       ownPerUpdatePoint := offeredChannel.perUpdatePoint
       ownPerUpdateSeed
       counterPartyCommitmentSecrets := noSecrets
       feeRatePerVb := contract.offeredContract.feeRatePerVb }, signedContract,
     { channelId, cetAdaptorSignatures
       bufferAdaptorSignature := ownBufferAdaptorSignature
       refundSignature := signedContract.offerRefundSignature
       fundingSignatures := signedContract.fundingSignatures })

end Contract

end Source

/-! No channel is opened: the fund transaction of its first contract is never built. -/

section Never
variable {X : ChannelCrypto} {answers : OpeningAnswers} {E : SigningDescriptors}
  {offeredChannel : OfferedChannel} {offered : OfferedContract E.toDescriptors}

theorem openingTransactions_ne_ok {acceptParams : PartyParams}
    {offerRevokeParams acceptRevokeParams : RevokeParams} {cetNsequence : ℕ}
    {txs : DlcChannelTransactions} :
    openingTransactions X offered acceptParams offerRevokeParams acceptRevokeParams cetNsequence ≠
      .ok txs := by
  intro built
  obtain ⟨info, -, built⟩ := bind_eq_ok.mp built
  obtain ⟨payouts, -, built⟩ := bind_eq_ok.mp built
  exact createChannelTransactions_ne_ok X.toCrypto X.buffer _ _ _ _ payouts _ _ _ _ _ _ txs
    (ofDlc_eq_ok.mp built)

theorem acceptChannelOfferWith_ne_ok {signer : ContractSigner} {acceptParams : PartyParams}
    {fundingInputs : List FundingInput}
    {opened : AcceptedChannel × AcceptedContract E.toDescriptors × AcceptChannel} :
    acceptChannelOfferWith X answers offeredChannel offered signer acceptParams fundingInputs ≠
      .ok opened := by
  intro accepts
  simp only [acceptChannelOfferWith, bind_eq_ok] at accepts
  obtain ⟨_, _, _, _, _, _, txs, built, _⟩ := accepts
  exact openingTransactions_ne_ok built

/-- What fails has not reached the chain monitor. -/
theorem verifyAndSignAcceptedChannel_fails {decode : Bytes → Option Transaction}
    {noSecrets : X.Secrets} {acceptChannel : AcceptChannel} {cetNsequence : ℕ} (m : ChainMonitor) :
    ∃ e, verifyAndSignAcceptedChannel X answers offeredChannel offered decode noSecrets
      acceptChannel cetNsequence m = (.error e, m) := by
  unfold verifyAndSignAcceptedChannel
  rw [Handler.lift_bind]
  cases getTxInputInfos X.toCrypto decode acceptChannel.fundingInputs with
  | error e => exact ⟨e, rfl⟩
  | ok inputs =>
      dsimp only
      rw [Handler.lift_bind]
      cases answered (answers.getSecretKeyForPubkey offeredChannel.partyPoints.ownBasepoint) with
      | error e => exact ⟨e, rfl⟩
      | ok secret =>
          dsimp only
          rw [Handler.lift_bind]
          cases answered (answers.deriveContractSigner offered.keysId) with
          | error e => exact ⟨e, rfl⟩
          | ok signer =>
              dsimp only
              rw [Handler.lift_bind]
              cases built : openingTransactions X offered
                  (acceptChannel.toAcceptParams inputs.1 inputs.2) _ _ cetNsequence with
              | error e => exact ⟨e, rfl⟩
              | ok txs => exact absurd built openingTransactions_ne_ok

end Never

end P2PLending.Manager.Channels
