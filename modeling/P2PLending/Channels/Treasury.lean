import P2PLending.Channels.ChannelOffers
import P2PLending.Manager.WalletCoins

/-! The manager's calls and messages up to the signing of an agreement, with the wallet that
its calls ask for coins. Six calls do so, each after the checks that need no coins and before
everything else that can fail. -/

namespace P2PLending.Manager
open Dlc Checked

/-- `ContractInput::validate` -/
def ContractInput.validate {D : Descriptors} {A : Type} (input : ContractInput D A) :
    Result Unit := do
  ensure (input.contractInfos.isEmpty = false)
    (.err (.invalidParameters "Need at least one contract info"))
  input.contractInfos.forM fun info => info.oracles.validate
  validateFeeRate input.feeRate "Fee rate too high."

section Source
variable {D : Descriptors} (C : Crypto)

/-- `accept_contract` with the party's coins. -/
def acceptContractWith (offered : OfferedContract D) (signer : ContractSigner)
    (acceptParams : PartyParams) (fundingInputs : List FundingInput) :
    Result (AcceptedContract D × AcceptDlc) := do
  let txs ← contractTransactions C offered acceptParams
  let fundOutput ← ofDlc (txs.getFundOutput C)
  let sk ← signer.secretKey
  let (accepted, adaptorSigs) ← Internal.acceptContract C offered acceptParams fundingInputs sk
    fundOutput.value none txs
  .ok (accepted, accepted.getAcceptContractMsg adaptorSigs)

/-- `send_escrow_transaction` with the party's coins. -/
def sendEscrowWith (env : AcceptEnvironment) (offered : OfferedContract D)
    (borrowerPreimage : Uint128) (acceptParams : PartyParams) :
    Result (Transaction × Transaction) := do
  let (escrowTx, _) ← ofDlc (createEscrowTransaction C offered.offerParams acceptParams
    offered.feeRatePerVb offered.refundLocktime offered.fundOutputSerialId 300 borrowerPreimage)
  let signed ← answered (env.signRawTransaction escrowTx)
  answered (env.sendTransaction signed.val)
  .ok (escrowTx, signed.val)

/-- What the second stage of a loan's acceptance starts from. -/
structure ConfirmedEscrow (D : Descriptors) where
  offered : OfferedLoanContract D
  escrowTxid : Bytes32
  borrowerHash : Bytes32
  collateralTx : Transaction
  collateralScript : Bytes
  escrowAmount : ℕ

/-- `accept_loan_contract` with the party's coins. -/
def acceptLoanContractWith (escrow : ConfirmedEscrow D) (signer : ContractSigner)
    (acceptParams : PartyParams) (fundingInputs : List FundingInput) :
    Result (AcceptedLoanContract D × AcceptLoanDlc) := do
  let txs ← loanTransactions C escrow.offered.offeredContract acceptParams escrow.collateralTx
    escrow.collateralScript
  let collateralOutput ← ofDlc (txs.getFundOutput C)
  let sk ← signer.secretKey
  let (accepted, adaptorSigs) ← acceptLoanContractInternal C escrow.offered escrow.escrowTxid
    escrow.borrowerHash acceptParams fundingInputs sk collateralOutput.value txs
    escrow.collateralTx
  .ok (accepted, accepted.getAcceptContractMsg adaptorSigs escrow.escrowAmount
    (Script.toBytes (makeLoanEscrowAfterCodesepScript
      escrow.offered.offeredContract.offerParams.fundPubkey escrow.borrowerHash))
    escrow.collateralScript)

end Source

/-! The calls, cut where the wallet is asked, are the calls that ask it. -/

section Cut
variable {D : Descriptors} {C : Crypto} (env : AcceptEnvironment)

theorem acceptContract_eq (offered : OfferedContract D) :
    acceptContract env C offered = (do
      let signer ← answered (env.deriveContractSigner offered.keysId)
      let ownCollateral ← ofDlc (amountSub offered.totalCollateral offered.offerParams.collateral)
      let (params, inputs) ← getPartyParams env C ownCollateral offered.feeRatePerVb signer
      acceptContractWith C offered signer params inputs) := rfl

theorem sentEscrow_eq (offered : OfferedContract D) (borrowerPreimage : Uint128) :
    sentEscrow env C offered borrowerPreimage = (do
      let signer ← answered (env.deriveContractSigner offered.keysId)
      let ownCollateral ← ofDlc (amountSub offered.totalCollateral offered.offerParams.collateral)
      let (params, _) ← getPartyParams env C ownCollateral offered.feeRatePerVb signer
      sendEscrowWith C env offered borrowerPreimage params) := by
  simp only [sentEscrow, escrowTransaction, sendEscrowWith, bind_assoc, ok_bind]

theorem acceptLoanContract_eq (offered : OfferedLoanContract D) (escrowTxid borrowerHash : Bytes32)
    (borrowerPreimageBytes : Bytes) :
    acceptLoanContract env C offered escrowTxid borrowerHash borrowerPreimageBytes = (do
      let signer ← answered (env.deriveContractSigner offered.offeredContract.keysId)
      let (collateralTx, collateralScript, escrowAmount) ← borrowerCollateral env C offered
        escrowTxid borrowerHash borrowerPreimageBytes signer
      let (params, inputs) ← getPartyParams env C offered.offeredContract.totalCollateral
        offered.offeredContract.feeRatePerVb signer
      acceptLoanContractWith C
        { offered, escrowTxid, borrowerHash, collateralTx, collateralScript, escrowAmount } signer
        params inputs) := by
  simp only [acceptLoanContract, acceptLoanTransactions, acceptLoanContractWith, bind_assoc,
    ok_bind]

theorem acceptContractWith_ne_ok {offered : OfferedContract D} {signer : ContractSigner}
    {acceptParams : PartyParams} {fundingInputs : List FundingInput}
    {accepted : AcceptedContract D × AcceptDlc} :
    acceptContractWith C offered signer acceptParams fundingInputs ≠ .ok accepted := by
  intro accepts
  obtain ⟨txs, built, -⟩ := bind_eq_ok.mp accepts
  obtain ⟨info, -, built⟩ := bind_eq_ok.mp built
  obtain ⟨payouts, -, built⟩ := bind_eq_ok.mp built
  exact createDlcTransactions_ne_ok C _ _ payouts _ _ _ _ _ txs (ofDlc_eq_ok.mp built)

end Cut

namespace Channels

/-- What a node keeps, its wallet included. -/
structure Treasury (X : ChannelCrypto) (D : Descriptors) extends Borrower D where
  wallet : Wallet
  channels : ChannelTree X
  chainMonitor : ChainMonitor

abbrev TreasuryHandler (X : ChannelCrypto) (D : Descriptors) := Handler (Treasury X D) (Fault Error)

/-- A request for coins. -/
structure FundingRequest where
  signer : ContractSigner
  ownCollateral : ℕ
  feeRate : ℕ

namespace Treasury
variable {X : ChannelCrypto} {D : Descriptors} {α β : Type}

def start (wallet : Wallet) : Treasury X D where
  toBorrower := .start ⟨fun _ => none, fun _ => none, fun _ => none⟩
  wallet := wallet
  channels _ := none
  chainMonitor := ⟨fun _ => none, fun _ => none, 0⟩

def setContracts (t : Treasury X D) (contracts : Store D) : Treasury X D :=
  { t with store := { t.store with contracts } }

def onWallet (h : Handler Wallet (Fault Error) α) : TreasuryHandler X D α := fun t =>
  ((h t.wallet).1, { t with wallet := (h t.wallet).2 })

def onContracts (h : Handling D α) : TreasuryHandler X D α := fun t =>
  ((h ⟨t.store.contracts, [], []⟩).1, t.setContracts (h ⟨t.store.contracts, [], []⟩).2.store)

def onStore (h : Handler (LoanStore D) (Fault Error) α) : TreasuryHandler X D α := fun t =>
  ((h t.store).1, { t with store := (h t.store).2 })

def onBorrower (h : Handler (Borrower D) (Fault Error) α) : TreasuryHandler X D α := fun t =>
  ((h t.toBorrower).1, { t with toBorrower := (h t.toBorrower).2 })

/-- `unwrap` of a call's result. -/
def unwrapping (h : TreasuryHandler X D α) : TreasuryHandler X D α := fun t =>
  (unwrap (h t).1, (h t).2)

/-- What is verified over the chain monitor: its answer, with the monitor as it leaves it. -/
def attempting (h : Handler ChainMonitor (Fault Error) α) :
    TreasuryHandler X D (Result α) := fun t =>
  (.ok (h t.chainMonitor).1, { t with chainMonitor := (h t.chainMonitor).2 })

section Funded
variable (wallet : AcceptEnvironment) (answers : WalletAnswers)

/-- A call that asks for coins: what comes before, the request, and what comes after. -/
def funded (gate : Treasury X D → Result (FundingRequest × β))
    (finish : FundingRequest → β → PartyParams → List FundingInput → TreasuryHandler X D α) :
    TreasuryHandler X D α := do
  let (request, b) ← Handler.read gate
  let (params, inputs) ← onWallet (Wallet.getPartyParams answers wallet X.toCrypto
    request.ownCollateral request.feeRate request.signer)
  finish request b params inputs

end Funded

section Plain
variable (env : Manager.Environment) (wallet : AcceptEnvironment) (answers : WalletAnswers)

def offerGate {A : Type} (opening : OpeningAnswers) (input : ContractInput D A)
    (_ : Treasury X D) : Result (FundingRequest × KeysId) := do
  input.validate
  let keysId := opening.deriveSignerKeyId true opening.newTemporaryId
  let signer ← answered (opening.deriveContractSigner keysId)
  .ok (⟨signer, input.offerCollateral, input.feeRate⟩, keysId)

/-- `send_offer`, with the announcements that the oracles have given. -/
def sendOffer {A M : Type} (opening : OpeningAnswers) (toMessage : OfferedContract D → Result M)
    (input : ContractInput D A) (counterParty : PublicKey)
    (oracleAnnouncements : List (List (OracleAnnouncement A))) : TreasuryHandler X D M :=
  funded wallet answers (offerGate opening input)
    fun _ keysId params inputs => do
      let offered ← Handler.lift (OfferedContract.new opening.newTemporaryId input
        oracleAnnouncements params inputs counterParty refundDelay (opening.unixTimeNow % 2 ^ 32)
        keysId opening.fundOutputSerialId)
      let msg ← Handler.lift (toMessage offered)
      Handler.lift offered.validate
      Handler.lift (answered env.writeStore)
      Handler.modify fun t =>
        t.setContracts (t.store.contracts.insert offered.id (.offered offered))
      pure msg

def acceptGate (id : ContractId) (t : Treasury X D) :
    Result (FundingRequest × OfferedContract D) := do
  answered env.readStore
  let offered ← t.store.contracts.getOffered id none
  let signer ← answered (wallet.deriveContractSigner offered.keysId)
  let ownCollateral ← ofDlc (amountSub offered.totalCollateral offered.offerParams.collateral)
  .ok (⟨signer, ownCollateral, offered.feeRatePerVb⟩, offered)

def acceptContractOffer (id : ContractId) :
    TreasuryHandler X D (ContractId × PublicKey × AcceptDlc) :=
  funded wallet answers (acceptGate env wallet id)
    fun request offered params inputs => do
      let (accepted, msg) ← Handler.lift
        (acceptContractWith X.toCrypto offered request.signer params inputs)
      let contractId ← onContracts (storeAccepted env X.toCrypto accepted)
      pure (contractId, offered.counterParty, msg)

/-- `accept_loan_contract_offer` up to its coins. -/
def confirmedEscrow (id : ContractId) (t : Treasury X D) :
    Result (FundingRequest × ConfirmedEscrow D) := do
  answered env.readStore
  let offered ← t.store.contracts.getInState "OfferedLoanEscrowConfirmed"
    Contract.offeredLoanEscrowConfirmed? id none
  let escrowTxid ← unwrapSome (t.store.escrowTxid id)
  let borrowerPreimage ← unwrapSome (t.store.loanPreimage id)
  let borrowerHash := X.sha256 borrowerPreimage.toBeBytes
  let signer ← answered (wallet.deriveContractSigner offered.offeredContract.keysId)
  let (collateralTx, collateralScript, escrowAmount) ← borrowerCollateral wallet X.toCrypto
    offered escrowTxid borrowerHash borrowerPreimage.toBeBytes signer
  .ok (⟨signer, offered.offeredContract.totalCollateral, offered.offeredContract.feeRatePerVb⟩,
    { offered, escrowTxid, borrowerHash, collateralTx, collateralScript, escrowAmount })

def acceptLoanContractOffer (id : ContractId) :
    TreasuryHandler X D (ContractId × PublicKey × AcceptLoanDlc) :=
  funded wallet answers (confirmedEscrow env wallet id)
    fun request escrow params inputs => do
      let (accepted, msg) ← Handler.lift
        (acceptLoanContractWith X.toCrypto escrow request.signer params inputs)
      let contractId ← onContracts (storeAccepted env X.toCrypto accepted.toAcceptedContract)
      pure (contractId, escrow.offered.offeredContract.counterParty, msg)

end Plain

section Escrow
variable (env : InitiateEnvironment) (answers : WalletAnswers)

def escrowGate (offered : OfferedContract D) (_ : Treasury X D) : Result (FundingRequest × Unit) := do
  let signer ← answered (env.deriveContractSigner offered.keysId)
  let ownCollateral ← ofDlc (amountSub offered.totalCollateral offered.offerParams.collateral)
  .ok (⟨signer, ownCollateral, offered.feeRatePerVb⟩, ())

def sendEscrowTransaction (offered : OfferedContract D) :
    TreasuryHandler X D (Transaction × Transaction) :=
  funded env.toAcceptEnvironment answers (escrowGate env offered)
    fun _ _ params _ => Handler.lift
      (sendEscrowWith X.toCrypto env.toAcceptEnvironment offered env.borrowerPreimage params)

/-- What the call keeps of an escrow that is broadcast; the results of both writes are
dropped. -/
def recordEscrow (id : ContractId) (escrowTxid : Bytes32) (signed : Transaction) (b : Borrower D) :
    Borrower D :=
  let store := written env.setEscrowTxid b.store (b.store.setEscrowTxid id escrowTxid)
  { b with
    escrows := b.escrows ++ [⟨id, signed, env.borrowerPreimage⟩]
    store := written env.setLoanPreimage store (store.setLoanPreimage id env.borrowerPreimage) }

def initiateAcceptLoanContractOffer (id : ContractId) :
    TreasuryHandler X D (PublicKey × InitiateAcceptLoanDlc) := do
  let offered ← Handler.read fun t => do
    answered env.readStore
    t.store.contracts.getOfferedLoan id none
  let (escrowTx, signed) ← unwrapping (sendEscrowTransaction env answers offered.offeredContract)
  let escrowTxid := escrowTx.computeTxid X.toCrypto
  onBorrower (Handler.modify (recordEscrow env id escrowTxid signed))
  let borrowerHash := X.sha256 env.borrowerPreimage.toBeBytes
  pure (offered.offeredContract.counterParty, { contractId := id, borrowerHash, escrowTxid })

end Escrow

section Channel
variable {E : SigningDescriptors} (env : Manager.Environment)

/-- `upsert_channel`: one transaction over both trees. -/
def upsertChannel (channel : Channel X) (contract : Option (Contract D)) :
    TreasuryHandler X D Unit := do
  let contracts ← Handler.read fun t =>
    contract.elim (.ok t.store.contracts) (t.store.contracts.updateContract X.toCrypto)
  Handler.lift (answered env.writeStore)
  Handler.modify fun t => { t.setContracts contracts with channels := t.channels.upsert channel }

section Funded
variable (wallet : AcceptEnvironment) (answers : WalletAnswers) (opening : OpeningAnswers)

def offerChannelGate {A : Type} (input : ContractInput D A) (_ : Treasury X D) :
    Result (FundingRequest × Unit) := do
  let signer ← answered (opening.deriveContractSigner
    (opening.deriveSignerKeyId true opening.newTemporaryId))
  .ok (⟨signer, input.offerCollateral, input.feeRate⟩, ())

/-- `offer_channel`, with the announcements that the oracles have given. -/
def offerChannel {A M : Type} (toMessage : OfferedChannel → OfferedContract D → Result M)
    (input : ContractInput D A) (counterParty : PublicKey)
    (oracleAnnouncements : List (List (OracleAnnouncement A))) : TreasuryHandler X D M :=
  funded wallet answers (offerChannelGate opening input)
    fun _ _ params inputs => do
      let (channel, contract) ← Handler.lift
        (offerChannelWith X opening input counterParty oracleAnnouncements params inputs)
      let msg ← Handler.lift (toMessage channel contract)
      upsertChannel env (.offered channel) (some (.offered contract))
      pure msg

def acceptChannelGate (channelId : ChannelId) (t : Treasury X D) :
    Result (FundingRequest × OfferedChannel × OfferedContract D) := do
  answered env.readStore
  let channel ← t.channels.getInState "Offered" Channel.offered? channelId none
  ensure (channel.isOfferParty = false)
    (.err (.invalidState "Cannot accept channel initiated by us."))
  let offered ← t.store.contracts.getOffered channel.offeredContractId none
  ensure (channel.offeredContractId = offered.id) (.panic "assertion `left == right` failed")
  let signer ← answered (wallet.deriveContractSigner offered.keysId)
  let ownCollateral ← ofDlc (amountSub offered.totalCollateral offered.offerParams.collateral)
  .ok (⟨signer, ownCollateral, offered.feeRatePerVb⟩, channel, offered)

def acceptChannel (channelId : ChannelId) :
    TreasuryHandler X E.toDescriptors (AcceptChannel × ChannelId × ContractId × PublicKey) :=
  funded wallet answers (acceptChannelGate env wallet channelId)
    fun request b params inputs => do
      let (accepted, contract, msg) ← Handler.lift
        (acceptChannelOfferWith X opening b.1 b.2 request.signer params inputs)
      Handler.lift (answered env.getNetwork)
      Handler.lift (answered (env.importAddress contract.dlcTransactions.fundingScriptPubkey))
      let contractId ← Handler.lift (contract.getContractId X.toCrypto)
      upsertChannel env (.accepted accepted) (some (.accepted contract))
      pure (msg, accepted.channelId, contractId, contract.offeredContract.counterParty)

end Funded

def rejectChannel (channelId : ChannelId) : TreasuryHandler X D (Reject × PublicKey) := do
  let (channel, offered) ← Handler.read fun t => do
    answered env.readStore
    let channel ← t.channels.getInState "Offered" Channel.offered? channelId none
    ensure (channel.isOfferParty = false)
      (.err (.invalidState "Cannot reject channel initiated by us."))
    let offered ← t.store.contracts.getOffered channel.offeredContractId none
    .ok (channel, offered)
  upsertChannel env (.cancelled channel) (some (.rejected offered))
  pure (⟨channelId⟩, channel.counterParty)

/-- A peer's channel offer after its validation and conversion. -/
structure ReceivedChannel (D : Descriptors) where
  channel : OfferedChannel
  contract : OfferedContract D
  channelReceived : channel.isOfferParty = false
  contractReceived : contract.isOfferParty = false
  offers : channel.offeredContractId = contract.id

/-- Only the id of the channel is looked for in the store. -/
def onOfferChannel (converted : Result (ReceivedChannel D)) : TreasuryHandler X D Unit := do
  let received ← Handler.lift converted
  Handler.read fun t => do
    answered env.readStore
    ensure ((t.channels received.channel.temporaryChannelId).isNone = true)
      (.err (.invalidParameters "Channel with identical idea already in store"))
  upsertChannel env (.offered received.channel) (some (.offered received.contract))

section Signing
variable (persistChainMonitor : Except Error Unit) (noSecrets : X.Secrets)

/-- The buffer transaction of a channel that is now established is registered once more. -/
def registerBuffer (ch : SignedChannel X) : TreasuryHandler X D Unit :=
  match ch.state with
  | .established s => Handler.modify fun t =>
      let txid := s.bufferTransaction.computeTxid X.toCrypto
      { t with chainMonitor := t.chainMonitor.addTx txid ⟨ch.channelId, .bufferTx⟩ }
  | _ => Handler.lift (.error (.panic "internal error: entered unreachable code"))

def onAcceptChannel (opening : OpeningAnswers) (acceptChannel : AcceptChannel)
    (peer : PublicKey) : TreasuryHandler X E.toDescriptors SignChannel := do
  let (channel, offered) ← Handler.read fun t => do
    answered env.readStore
    let channel ← t.channels.getInState "Offered" Channel.offered?
      acceptChannel.temporaryChannelId (some peer)
    let offered ← t.store.contracts.getOffered channel.offeredContractId (some peer)
    .ok (channel, offered)
  match ← attempting (verifyAndSignAcceptedChannel X opening channel offered
    env.decodeTransaction noSecrets acceptChannel cetNsequence) with
  | .error (.panic message) => Handler.lift (.error (.panic message))
  | .error (.err e) => do
      upsertChannel env (.failedAccept ⟨peer, acceptChannel.temporaryChannelId, e, acceptChannel⟩)
        none
      Handler.lift (.error (.err e))
  | .ok (signedChannel, signedContract, msg) => do
      Handler.lift (answered env.getNetwork)
      Handler.lift (answered
        (env.importAddress signedContract.acceptedContract.dlcTransactions.fundingScriptPubkey))
      registerBuffer signedChannel
      upsertChannel env (.established (.signed signedChannel)) (some (.signed signedContract))
      Handler.lift (answered persistChainMonitor)
      pure msg

def onSignChannel (signChannel : SignChannel) (peer : PublicKey) :
    TreasuryHandler X E.toDescriptors Unit := do
  let (channel, accepted) ← Handler.read fun t => do
    answered env.readStore
    let channel ← t.channels.getInState "Accepted" Channel.accepted? signChannel.channelId
      (some peer)
    let accepted ← t.store.contracts.getAccepted channel.acceptedContractId (some peer)
    .ok (channel, accepted)
  match ← attempting (verifySignedChannel X noSecrets channel accepted signChannel) with
  | .error (.panic message) => Handler.lift (.error (.panic message))
  | .error (.err e) => do
      upsertChannel env (.failedSign ⟨peer, signChannel.channelId, e, signChannel⟩) none
      Handler.lift (.error (.err e))
  | .ok (signedChannel, signedContract, fundTx) => do
      registerBuffer signedChannel
      Handler.lift (answered (env.sendTransaction fundTx))
      upsertChannel env (.established (.signed signedChannel)) (some (.signed signedContract))
      Handler.lift (answered persistChainMonitor)

end Signing

/-- The own renewal offer that a reject takes back. -/
def rejectedRenewal (ch : SignedChannel X) : TreasuryHandler X D (Option (Contract D)) :=
  match ch.state with
  | .renewOffered s => do
      let offered ← Handler.read fun t => do
        answered env.readStore
        t.store.contracts.getOffered s.offeredContractId none
      pure (some (.rejected offered))
  | _ => pure none

/-- The coins that a contract's funding inputs spend. -/
def fundingOutpoints (fundingInputs : List FundingInput) : Result (List OutPoint) :=
  fundingInputs.mapM fun fundingInput =>
    (fundingInput.spends X.toCrypto env.decodeTransaction).elim
      (.error (.panic "Transaction Decode Error")) .ok

/-- The coins of an offered channel are given back, whoever has offered it. -/
def onReject (answers : WalletAnswers) (reject : Reject) (counterParty : PublicKey) :
    TreasuryHandler X D Unit := do
  let stored ← Handler.read fun t => do
    answered env.readStore
    .ok (t.channels reject.channelId)
  match stored with
  | none => pure ()
  | some channel => do
      Handler.lift (ensure (channel.getCounterPartyId = counterParty)
        (.err (.invalidParameters "Peer is not involved with Channel.")))
      match channel with
      | .offered ch => do
          let offered ← Handler.read fun t => do
            answered env.readStore
            t.store.contracts.getOffered ch.offeredContractId none
          let utxos ← Handler.lift (fundingOutpoints (X := X) env offered.fundingInputs)
          onWallet (Wallet.unreserveUtxos answers utxos)
          upsertChannel env (.cancelled ch) (some (.rejected offered))
      | .established (.signed ch) => do
          let contract ← rejectedRenewal env ch
          let ch' ← Handler.lift (Channels.onReject X ch)
          upsertChannel env (.established (.signed ch')) contract
      | _ => Handler.lift (.error (.err (.invalidState
          "Not in a state adequate to receive a reject message.")))

end Channel

end Treasury

end Channels

end P2PLending.Manager
