import P2PLending.Channels.ChannelRuns
import P2PLending.Manager.HonestSignatures

/-! The last stage of signing: the accepting party verifies the offering party's
signatures and goes on with the fund transaction. The witnesses of its inputs were to be
filled in here; that part of the source is commented out. -/

namespace P2PLending.Manager.Channels
open Dlc Checked

/-- A channel that the local party has accepted. -/
structure AcceptedChannel where
  counterParty : PublicKey
  acceptedContractId : ContractId
  offerBasePoints : PartyBasePoints
  acceptBasePoints : PartyBasePoints
  offerPerUpdatePoint : PublicKey
  acceptPerUpdatePoint : PublicKey
  bufferTransaction : Transaction
  bufferScriptPubkey : Bytes
  temporaryChannelId : ChannelId
  channelId : ChannelId
  acceptPerUpdateSeed : PublicKey
  acceptBufferAdaptorSignature : AdaptorSignature
  deriving DecidableEq, Repr

structure SignChannel where
  channelId : ChannelId
  cetAdaptorSignatures : List AdaptorSignature
  bufferAdaptorSignature : AdaptorSignature
  refundSignature : Signature
  fundingSignatures : FundingSignatures
  deriving DecidableEq, Repr

section Source
variable {E : SigningDescriptors}

/-- `verify_signed_contract`; its wallet is never asked. -/
def verifySignedContract (C : Crypto) (accepted : AcceptedContract E.toDescriptors)
    (signMsg : SignDlc) : Result (SignedContract E.toDescriptors × Transaction) := do
  let fundOutput ← ofDlc (accepted.dlcTransactions.getFundOutput C)
  Internal.verifySignedContract C accepted signMsg.refundSignature signMsg.cetAdaptorSignatures
    signMsg.fundingSignatures fundOutput.value none none none

/-- `get_fund_output_index`, which unwraps the search. -/
def getFundOutputIndex (C : Crypto) (txs : DlcTransactions) : Result ℕ := do
  let (position, _) ← unwrapSome
    (getOutputForScriptPubkey txs.fund (toP2wsh C txs.fundingScriptPubkey))
  .ok position

def initialUpdateNumber : ℕ := 2 ^ 48 - 1

/-- The channel as it starts, without any secret of the counterparty. -/
def verifySignedChannel (X : ChannelCrypto) (noSecrets : X.Secrets) (channel : AcceptedChannel)
    (accepted : AcceptedContract E.toDescriptors) (signChannel : SignChannel) :
    Handler ChainMonitor (Fault Error)
      (SignedChannel X × SignedContract E.toDescriptors × Transaction) := do
  let ownPublishPk := channel.acceptBasePoints.getPublishPk X channel.acceptPerUpdatePoint
  let counterOwnPk := channel.offerBasePoints.getOwnPk X channel.offerPerUpdatePoint
  let fundOutput ← Handler.lift (ofDlc (accepted.dlcTransactions.getFundOutput X.toCrypto))
  Handler.lift (ofDlc (verifyTxAdaptorSignature X channel.bufferTransaction fundOutput.value
    accepted.dlcTransactions.fundingScriptPubkey accepted.offeredContract.offerParams.fundPubkey
    ownPublishPk signChannel.bufferAdaptorSignature))
  let bufferOutput ← Handler.lift (index channel.bufferTransaction.output 0)
  let (signedContract, signedFundTx) ← Handler.lift (Internal.verifySignedContract X.toCrypto
    accepted signChannel.refundSignature signChannel.cetAdaptorSignatures
    signChannel.fundingSignatures bufferOutput.value (some channel.bufferScriptPubkey)
    (some counterOwnPk) (some channel.channelId))
  Handler.modify fun m => m.addTx (channel.bufferTransaction.computeTxid X.toCrypto)
    ⟨channel.channelId, .bufferTx⟩
  let contract := signedContract.acceptedContract
  let fundOutputIndex ← Handler.lift (getFundOutputIndex X.toCrypto accepted.dlcTransactions)
  let signedContractId ← Handler.lift (contract.getContractId X.toCrypto)
  pure
    ({ counterParty := contract.offeredContract.counterParty
       channelId := channel.channelId
       temporaryChannelId := channel.temporaryChannelId
       ownPoints := channel.acceptBasePoints
       counterPoints := channel.offerBasePoints
       counterPerUpdatePoint := channel.offerPerUpdatePoint
       counterParams := accepted.offeredContract.offerParams
       fundOutputIndex
       ownParams := accepted.acceptParams
       ownPerUpdatePoint := channel.acceptPerUpdatePoint
       state := .established
        { signedContractId
          ownBufferAdaptorSignature := channel.acceptBufferAdaptorSignature
          counterBufferAdaptorSignature := signChannel.bufferAdaptorSignature
          bufferTransaction := channel.bufferTransaction
          isOffer := false
          totalCollateral := accepted.offeredContract.totalCollateral
          keysId := contract.offeredContract.keysId }
       updateIdx := initialUpdateNumber
       fundTx := contract.dlcTransactions.fund
       fundScriptPubkey := accepted.dlcTransactions.fundingScriptPubkey
       rollBackState := none
       ownPerUpdateSeed := channel.acceptPerUpdateSeed
       counterPartyCommitmentSecrets := noSecrets
       feeRatePerVb := contract.offeredContract.feeRatePerVb }, signedContract, signedFundTx)

end Source

/-! What a signed fund transaction is. -/

/-- The contract's fund transaction spends the inputs of both parties in the order of
their serial ids, and nobody has signed it. -/
inductive FundBuilt {D : Descriptors} (C : Crypto) (accepted : AcceptedContract D) : Prop
  | intro (sequence : ℕ) {offerInputs acceptInputs : List TxIn} {offerIds acceptIds : List ℕ}
      (offers : accepted.offeredContract.offerParams.getUnsignedTxInputsAndSerialIds sequence =
        .ok (offerInputs, offerIds))
      (accepts : accepted.acceptParams.getUnsignedTxInputsAndSerialIds sequence =
        .ok (acceptInputs, acceptIds))
      (fundingScript : Bytes) (amount : ℕ) (offerChange : TxOut) (offerChangeId : ℕ)
      (acceptChange : TxOut) (acceptChangeId fundOutputId lockTime : ℕ)
      (fund : accepted.dlcTransactions.fund = createFundingTransaction C fundingScript amount
        offerInputs offerIds acceptInputs acceptIds offerChange offerChangeId acceptChange
        acceptChangeId fundOutputId lockTime)

/-- Every input has its witness: an input of the offering party the one that the message
has at its place, an input of the accepting party the one that its wallet makes. -/
structure FullySigned {D : Descriptors} (wallet : Transaction → ℕ → List Bytes)
    (accepted : AcceptedContract D) (fundingSignatures : FundingSignatures) (tx : Transaction) :
    Prop where
  offerer : ∀ (k : ℕ) (input : TxInputInfo), accepted.offeredContract.offerParams.inputs[k]? = some input →
    ∃ txIn witness, txIn ∈ tx.input ∧ txIn.previousOutput = input.outpoint ∧
      fundingSignatures[k]? = some witness ∧ txIn.witness = witness
  acceptor : ∀ input ∈ accepted.acceptParams.inputs, ∃ position txIn,
    tx.input[position]? = some txIn ∧ txIn.previousOutput = input.outpoint ∧
      txIn.witness = wallet tx.unsigned position
  complete : ∀ txIn ∈ tx.input, txIn.witness ≠ []

/-- Neither party puts in anything. -/
def WithoutInputs {D : Descriptors} (accepted : AcceptedContract D) : Prop :=
  accepted.offeredContract.offerParams.inputs = [] ∧ accepted.acceptParams.inputs = []

theorem orderBySerialIds_mem {α : Type} {inputs : List α} {ids : List ℕ} {a : α}
    (listed : a ∈ orderBySerialIds inputs ids) : a ∈ inputs := by
  rw [orderBySerialIds, List.mem_map] at listed
  obtain ⟨⟨id, _⟩, sorted, rfl⟩ := listed
  exact (List.of_mem_zip ((List.mergeSort_perm _ _).mem_iff.mp sorted)).2

theorem orderBySerialIds_length {α : Type} (inputs : List α) (ids : List ℕ) :
    (orderBySerialIds inputs ids).length = min ids.length inputs.length := by
  rw [orderBySerialIds, List.length_map, List.length_mergeSort, List.length_zip]

theorem unsignedInputs {p : PartyParams} {sequence : ℕ} {txIns : List TxIn} {ids : List ℕ}
    (listed : p.getUnsignedTxInputsAndSerialIds sequence = .ok (txIns, ids)) :
    (∀ txIn ∈ txIns, txIn.witness = []) ∧ txIns.length = p.inputs.length ∧
      ids.length = p.inputs.length := by
  simp only [PartyParams.getUnsignedTxInputsAndSerialIds, bind_eq_ok, pure_eq_ok] at listed
  obtain ⟨made, mapped, same⟩ := listed
  cases same
  have each := (forall_mapM_iff mapped (P := fun txIn => txIn.witness = []) (Q := fun _ => True)
    fun {_ txIn} built => by
      obtain ⟨_, _, made⟩ := bind_eq_ok.mp built
      cases made
      exact iff_of_true rfl trivial).mpr fun _ _ => trivial
  exact ⟨each, (mapM_eq_ok.mp mapped).length_eq.symm, List.length_map _⟩

section Signed
variable {D : Descriptors} {C : Crypto} {wallet : Transaction → ℕ → List Bytes}
  {accepted : AcceptedContract D} {fundingSignatures : FundingSignatures}

theorem FundBuilt.unsigned (built : FundBuilt C accepted) :
    ∀ txIn ∈ accepted.dlcTransactions.fund.input, txIn.witness = [] := by
  obtain ⟨sequence, offers, accepts, _, _, _, _, _, _, _, _, fund⟩ := built
  intro txIn listed
  rw [fund] at listed
  rcases List.mem_append.mp (orderBySerialIds_mem listed) with own | other
  · exact (unsignedInputs offers).1 txIn own
  · exact (unsignedInputs accepts).1 txIn other

theorem FundBuilt.inputs_nil_iff (built : FundBuilt C accepted) :
    accepted.dlcTransactions.fund.input = [] ↔ WithoutInputs accepted := by
  obtain ⟨sequence, offers, accepts, _, _, _, _, _, _, _, _, fund⟩ := built
  obtain ⟨-, offerInputs, offerIds⟩ := unsignedInputs offers
  obtain ⟨-, acceptInputs, acceptIds⟩ := unsignedInputs accepts
  rw [fund, createFundingTransaction, ← List.length_eq_zero_iff, orderBySerialIds_length,
    List.length_append, List.length_append, offerInputs, offerIds, acceptInputs, acceptIds,
    min_self, Nat.add_eq_zero_iff, List.length_eq_zero_iff, List.length_eq_zero_iff, WithoutInputs]

/-- A fund transaction without witnesses is fully signed when nothing has to be signed. -/
theorem FundBuilt.fullySigned_iff (built : FundBuilt C accepted) :
    FullySigned wallet accepted fundingSignatures accepted.dlcTransactions.fund ↔
      WithoutInputs accepted := by
  constructor
  · intro signed
    rw [← built.inputs_nil_iff, List.eq_nil_iff_forall_not_mem]
    intro txIn listed
    exact signed.complete txIn listed (built.unsigned txIn listed)
  · intro without
    refine ⟨?_, ?_, ?_⟩
    · intro k input listed
      rw [without.1] at listed
      cases listed
    · rw [without.2]
      exact nofun
    · rw [built.inputs_nil_iff.mpr without]
      exact nofun

end Signed

section Verified
variable {E : SigningDescriptors} {accepted : AcceptedContract E.toDescriptors}

theorem Internal_verifySignedContract_fund {C : Crypto} {refundSignature : Signature}
    {adaptorSigs : List AdaptorSignature} {fundingSignatures : FundingSignatures}
    {inputValue : ℕ} {script : Option Bytes} {counterPk : Option PublicKey}
    {channelId : Option Bytes32} {signed : SignedContract E.toDescriptors} {tx : Transaction}
    (verified : Internal.verifySignedContract C accepted refundSignature adaptorSigs
      fundingSignatures inputValue script counterPk channelId = .ok (signed, tx)) :
    tx = accepted.dlcTransactions.fund := by
  simp only [Internal.verifySignedContract, bind_eq_ok, Except.ok.injEq, Prod.mk.injEq] at verified
  obtain ⟨_, _, _, _, _, rfl⟩ := verified
  rfl

theorem verifySignedContract_fund {C : Crypto} {signMsg : SignDlc}
    {signed : SignedContract E.toDescriptors} {tx : Transaction}
    (verified : verifySignedContract C accepted signMsg = .ok (signed, tx)) :
    tx = accepted.dlcTransactions.fund := by
  obtain ⟨_, _, verified⟩ := bind_eq_ok.mp verified
  exact Internal_verifySignedContract_fund verified

theorem verifySignedChannel_fund {X : ChannelCrypto} {noSecrets : X.Secrets}
    {channel : AcceptedChannel} {signChannel : SignChannel} {m m' : ChainMonitor}
    {ch : SignedChannel X} {signed : SignedContract E.toDescriptors} {tx : Transaction}
    (verified : verifySignedChannel X noSecrets channel accepted signChannel m =
      (.ok (ch, signed, tx), m')) :
    tx = accepted.dlcTransactions.fund := by
  simp only [verifySignedChannel, Handler.bind_ok, Handler.lift_ok, Handler.pure_ok,
    Handler.modify_ok, Prod.mk.injEq] at verified
  obtain ⟨_, _, _, _, _, _, _, _, _, ⟨_, _⟩, _, ⟨checked, -⟩, _, _, _, _, _, _, _, _, _,
    ⟨-, -, rfl⟩, -⟩ := verified
  exact Internal_verifySignedContract_fund checked

end Verified

/-- What verification returns is the unsigned transaction: it is fully signed only if the
fund transaction has no input. -/
theorem returned_fund_signed_iff {E : SigningDescriptors} (X : ChannelCrypto)
    (noSecrets : X.Secrets) (wallet : Transaction → ℕ → List Bytes)
    {accepted : AcceptedContract E.toDescriptors} (built : FundBuilt X.toCrypto accepted) :
    (∀ signMsg signed tx, verifySignedContract X.toCrypto accepted signMsg = .ok (signed, tx) →
      (FullySigned wallet accepted signMsg.fundingSignatures tx ↔ WithoutInputs accepted)) ∧
    ∀ channel signChannel m ch signed tx m',
      verifySignedChannel X noSecrets channel accepted signChannel m =
        (.ok (ch, signed, tx), m') →
      (FullySigned wallet accepted signChannel.fundingSignatures tx ↔ WithoutInputs accepted) := by
  constructor
  · intro signMsg signed tx verified
    rw [verifySignedContract_fund verified]
    exact built.fullySigned_iff
  · intro channel signChannel m ch signed tx m' verified
    rw [verifySignedChannel_fund verified]
    exact built.fullySigned_iff

def sampleInputs (p : PartyParams) : List TxIn :=
  p.inputs.map fun input => ⟨input.outpoint, [], disableLocktime, []⟩

def sampleAcceptor : PartyParams :=
  { samplePartyParams 2 with
    inputs := [{
      outpoint := ⟨sampleFundTxid, 0⟩
      maxWitnessLen := 108
      redeemScript := []
      serialId := 2 }] }

/-- Two parties with one input each fund a contract between them. -/
def sampleFunding : DlcTransactions where
  fund := {
    lockTime := 0
    input := sampleInputs (samplePartyParams 1) ++ sampleInputs sampleAcceptor
    output := [⟨200010000, lockedBy sampleScript⟩, ⟨5000, sampleSpk₁⟩, ⟨5000, sampleSpk₂⟩] }
  cets := createCets ⟨⟨sampleFundTxid, 0⟩, [], 288, []⟩ sampleSpk₁ 1 sampleSpk₂ 2
    [⟨200000000, 0⟩, ⟨0, 200000000⟩] 10
  refund := sampleRefund
  fundingScriptPubkey := sampleScript

/-- The accepting party's contract and the offering party's signatures for it. -/
def sampleSigned : Result (AcceptedContract channelSigning.toDescriptors × SignDlc) := do
  let offered := (sampleChannelContract 1).acceptedContract.offeredContract
  let (accepted, sigs) ← Internal.acceptContract channelAdaptor.toCrypto offered sampleAcceptor []
    (partySecret 2 1) 200010000 none sampleFunding
  let (signed, ownSigs) ← Internal.verifyAcceptedAndSignContract channelAdaptor.toCrypto offered
    sampleAcceptor [] accepted.acceptRefundSignature sigs 200010000
    ⟨.ok (publicKeyOf (partySecret 1 1)), .ok (partySecret 1 1)⟩ none none sampleFunding none
  .ok (accepted, ⟨7, ownSigs, signed.offerRefundSignature, signed.fundingSignatures⟩)

theorem sampleFunding_built : sampleFunding.fund =
    createFundingTransaction channelAdaptor.toCrypto sampleScript 200010000
      (sampleInputs (samplePartyParams 1)) [1] (sampleInputs sampleAcceptor) [2]
      ⟨5000, sampleSpk₁⟩ 2 ⟨5000, sampleSpk₂⟩ 3 0 0 := by
  rw [createFundingTransaction, orderBySerialIds, orderBySerialIds,
    List.mergeSort_of_pairwise (by decide), List.mergeSort_of_pairwise (by decide)]
  rfl

theorem sampleSigned_built {accepted : AcceptedContract channelSigning.toDescriptors}
    (offered : accepted.offeredContract.offerParams = samplePartyParams 1)
    (acceptor : accepted.acceptParams = sampleAcceptor)
    (fund : accepted.dlcTransactions.fund = sampleFunding.fund) :
    FundBuilt channelAdaptor.toCrypto accepted := by
  have offers : accepted.offeredContract.offerParams.getUnsignedTxInputsAndSerialIds
      disableLocktime = .ok (sampleInputs (samplePartyParams 1), [1]) := by
    rw [offered]
    rfl
  have accepts : accepted.acceptParams.getUnsignedTxInputsAndSerialIds disableLocktime =
      .ok (sampleInputs sampleAcceptor, [2]) := by
    rw [acceptor]
    rfl
  exact .intro disableLocktime offers accepts _ _ _ _ _ _ _ _
    (fund.trans sampleFunding_built)

theorem sampleSigned_verified : ∃ accepted signMsg signed tx,
    FundBuilt channelAdaptor.toCrypto accepted ∧ ¬ WithoutInputs accepted ∧
      verifySignedContract (E := channelSigning) channelAdaptor.toCrypto accepted signMsg =
        .ok (signed, tx) := by
  have verifies : (match sampleSigned with
      | .ok (accepted, signMsg) =>
          decide (accepted.offeredContract.offerParams = samplePartyParams 1 ∧
            accepted.acceptParams = sampleAcceptor ∧
            accepted.dlcTransactions.fund = sampleFunding.fund) &&
          (verifySignedContract channelAdaptor.toCrypto accepted signMsg).toBool
      | .error _ => false) = true := by decide +kernel
  split at verifies
  next accepted signMsg _ =>
    obtain ⟨same, verified⟩ := Bool.and_eq_true_iff.mp verifies
    obtain ⟨offered, acceptor, fund⟩ := of_decide_eq_true same
    obtain ⟨⟨signed, tx⟩, verified⟩ := toBool_ok verified
    refine ⟨accepted, signMsg, signed, tx, sampleSigned_built offered acceptor fund, ?_, verified⟩
    rintro ⟨nothing, -⟩
    rw [offered] at nothing
    cases nothing
  next => cases verifies

/-- The signatures of both parties verify and the transaction has none of them. -/
theorem verified_fund_unsigned : ∃ accepted signMsg signed tx,
    FundBuilt channelAdaptor.toCrypto accepted ∧
      verifySignedContract (E := channelSigning) channelAdaptor.toCrypto accepted signMsg =
        .ok (signed, tx) ∧
      ∀ wallet, ¬ FullySigned wallet accepted signMsg.fundingSignatures tx := by
  obtain ⟨accepted, signMsg, signed, tx, built, funds, verified⟩ := sampleSigned_verified
  refine ⟨accepted, signMsg, signed, tx, built, verified, fun wallet signs => funds ?_⟩
  rw [verifySignedContract_fund verified] at signs
  exact built.fullySigned_iff.mp signs

theorem returned_fund_signed_sample : ∃ accepted signMsg signed tx,
    verifySignedContract (E := channelSigning) channelAdaptor.toCrypto accepted signMsg =
        .ok (signed, tx) ∧
      ∀ wallet, (FullySigned wallet accepted signMsg.fundingSignatures tx ↔
        WithoutInputs accepted) := by
  obtain ⟨accepted, signMsg, signed, tx, built, -, verified⟩ := sampleSigned_verified
  refine ⟨accepted, signMsg, signed, tx, verified, fun wallet => ?_⟩
  exact (returned_fund_signed_iff sampleChannelCrypto ([] : List (ℕ × SecretKey)) wallet
    built).1 signMsg signed tx verified

end P2PLending.Manager.Channels
