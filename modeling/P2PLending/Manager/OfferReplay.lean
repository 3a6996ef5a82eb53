import P2PLending.Manager.EscrowCheck
import P2PLending.Manager.LoanSecrets
import P2PLending.Channels.FundingWitnesses

/-! Offers, acceptances and signatures over time. An offer is refused while a contract is
stored under its temporary id; an acceptance moves the contract to its final id and
leaves the temporary one free, with the preimage and the escrow recorded under it. -/

namespace P2PLending.Manager
open Dlc Checked

variable {D : Descriptors}

section Source
variable (env : Environment) (wallet : AcceptEnvironment) (C : Crypto)

/-- A contract is created unless one is stored under its temporary id. -/
def createFresh (id : ContractId) (contract : Contract D) : Handling D Unit := do
  Handler.read fun node => do
    answered env.readStore
    ensure ((node.store id).isNone = true)
      (.err (.invalidParameters "Contract with identical id already exists"))
  Handler.lift (answered env.writeStore)
  Handler.modify fun node => { node with store := node.store.insert id contract }

/-- `converted` is the offer after its validation and conversion. -/
def onOfferMessage (converted : Result (OfferedContract D)) : Handling D Unit := do
  let contract ← Handler.lift converted
  createFresh env contract.id (.offered contract)

theorem onOfferLoanMessage_eq (converted : Result (OfferedLoanContract D)) :
    onOfferLoanMessage env converted = (do
      let contract ← Handler.lift converted
      createFresh env contract.offeredContract.id (.offeredLoan contract)) := rfl

/-! The accepting party. -/

def AcceptedContract.getAcceptContractMsg (c : AcceptedContract D)
    (adaptorSignatures : List AdaptorSignature) : AcceptDlc where
  temporaryContractId := c.offeredContract.id
  acceptCollateral := c.acceptParams.collateral
  fundingPubkey := c.acceptParams.fundPubkey
  payoutSpk := c.acceptParams.payoutScriptPubkey
  payoutSerialId := c.acceptParams.payoutSerialId
  fundingInputs := c.fundingInputs
  changeSpk := c.acceptParams.changeScriptPubkey
  changeSerialId := c.acceptParams.changeSerialId
  cetAdaptorSignatures := adaptorSignatures
  refundSignature := c.acceptRefundSignature

/-- The transactions of a plain contract. -/
def contractTransactions (offered : OfferedContract D) (acceptParams : PartyParams) :
    Result DlcTransactions := do
  let info ← index offered.contractInfo 0
  let payouts ← D.getPayouts info offered.totalCollateral
  ofDlc (createDlcTransactions C offered.offerParams acceptParams payouts offered.refundLocktime
    offered.feeRatePerVb 0 offered.cetLocktime offered.fundOutputSerialId)

def acceptContract (offered : OfferedContract D) : Result (AcceptedContract D × AcceptDlc) := do
  let signer ← answered (wallet.deriveContractSigner offered.keysId)
  let ownCollateral ← ofDlc (amountSub offered.totalCollateral offered.offerParams.collateral)
  let (acceptParams, fundingInputs) ← getPartyParams wallet C ownCollateral offered.feeRatePerVb
    signer
  let txs ← contractTransactions C offered acceptParams
  let fundOutput ← ofDlc (txs.getFundOutput C)
  let sk ← signer.secretKey
  let (accepted, adaptorSigs) ← Internal.acceptContract C offered acceptParams fundingInputs sk
    fundOutput.value none txs
  .ok (accepted, accepted.getAcceptContractMsg adaptorSigs)

/-- The wallet learns the funding script, then the contract is stored. -/
def storeAccepted (accepted : AcceptedContract D) : Handling D ContractId := do
  Handler.lift (answered env.getNetwork)
  Handler.lift (answered (env.importAddress accepted.dlcTransactions.fundingScriptPubkey))
  let contractId ← Handler.lift (accepted.getContractId C)
  storeContract env C (.accepted accepted)
  pure contractId

def acceptContractOffer (id : ContractId) : Handling D (ContractId × PublicKey × AcceptDlc) := do
  let offered ← Handler.read fun node => do
    answered env.readStore
    node.store.getOffered id none
  let (accepted, msg) ← Handler.lift (acceptContract wallet C offered)
  let contractId ← storeAccepted env C accepted
  pure (contractId, offered.counterParty, msg)

def Contract.offeredLoanEscrowConfirmed? : Contract D → Option (OfferedLoanContract D)
  | .offeredLoanEscrowConfirmed c => some c
  | _ => none

def AcceptedLoanContract.toAcceptedContract (c : AcceptedLoanContract D) : AcceptedContract D where
  offeredContract := c.offeredLoanContract.offeredContract
  acceptParams := c.acceptParams
  fundingInputs := c.fundingInputs
  adaptorInfos := c.adaptorInfos
  adaptorSignatures := c.adaptorSignatures
  acceptRefundSignature := c.acceptRefundSignature
  dlcTransactions := c.dlcTransactions

/-- The acceptance of the offer that is stored, with the escrow and the preimage that are
recorded under its id. -/
def acceptedLoan (id : ContractId) (store : LoanStore D) :
    Result (OfferedLoanContract D × AcceptedLoanContract D × AcceptLoanDlc) := do
  answered env.readStore
  let offered ← store.contracts.getInState "OfferedLoanEscrowConfirmed"
    Contract.offeredLoanEscrowConfirmed? id none
  let escrowTxid ← unwrapSome (store.escrowTxid id)
  let borrowerPreimage ← unwrapSome (store.loanPreimage id)
  let (accepted, msg) ← acceptLoanContract wallet C offered escrowTxid
    (C.sha256 borrowerPreimage.toBeBytes) borrowerPreimage.toBeBytes
  .ok (offered, accepted, msg)

def acceptLoanContractOffer (id : ContractId) (store : LoanStore D) :
    Handling D (ContractId × PublicKey × AcceptLoanDlc) := do
  let (offered, accepted, msg) ← Handler.lift (acceptedLoan env wallet C id store)
  let contractId ← storeAccepted env C accepted.toAcceptedContract
  pure (contractId, offered.offeredContract.counterParty, msg)

/-! The offering party. -/

def verifyAcceptedAndSignContract (offered : OfferedContract D) (acceptMsg : AcceptDlc) :
    Result (SignedContract D × SignDlc) := do
  let acceptParams ← acceptParamsOf C env.decodeTransaction acceptMsg
  let txs ← contractTransactions C offered acceptParams
  let fundOutput ← ofDlc (txs.getFundOutput C)
  let signer ← answered (env.deriveContractSigner offered.keysId)
  let (signedContract, adaptorSigs) ← verifyAcceptedAndSignContractInternal C offered acceptParams
    acceptMsg.fundingInputs acceptMsg.refundSignature acceptMsg.cetAdaptorSignatures
    fundOutput.value signer txs
  let contractId ← signedContract.acceptedContract.getContractId C
  .ok (signedContract,
    { contractId
      cetAdaptorSignatures := adaptorSigs
      refundSignature := signedContract.offerRefundSignature
      fundingSignatures := signedContract.fundingSignatures })

def onAcceptMessage (msg : AcceptDlc) (counterParty : PublicKey) : Handling D SignDlc := do
  let offered ← Handler.read fun node => do
    answered env.readStore
    node.store.getOffered msg.temporaryContractId (some counterParty)
  match verifyAcceptedAndSignContract env C offered msg with
  | .error (.panic message) => Handler.lift (.error (.panic message))
  | .error (.err e) => acceptFailOnError env C offered msg e
  | .ok (signedContract, signedMsg) => do
      Handler.lift (answered env.getNetwork)
      Handler.lift (answered
        (env.importAddress signedContract.acceptedContract.dlcTransactions.fundingScriptPubkey))
      storeContract env C (.signed signedContract)
      pure signedMsg

end Source

section Sign
variable {E : SigningDescriptors} (env : Environment) (C : Crypto)

def signFailOnError (acceptedContract : AcceptedContract E.toDescriptors) (signMessage : SignDlc)
    (e : Error) : Handling E.toDescriptors Unit := do
  storeContract env C (.failedSign { acceptedContract, signMessage, errorMessage := e })
  Handler.lift (.error (.err e))

def onSignMessage (msg : SignDlc) (peer : PublicKey) : Handling E.toDescriptors Unit := do
  let accepted ← Handler.read fun node => do
    answered env.readStore
    node.store.getAccepted msg.contractId (some peer)
  match Channels.verifySignedContract C accepted msg with
  | .error (.panic message) => Handler.lift (.error (.panic message))
  | .error (.err e) => signFailOnError env C accepted msg e
  | .ok (signedContract, _) => storeContract env C (.signed signedContract)

end Sign

/-! What a handler writes. -/

theorem updateContract_keeps_keys {C : Crypto} {store store' : Store D} {c : Contract D}
    (updated : store.updateContract C c = .ok store') {id : ContractId} (stored : store id ≠ none) :
    store' id ≠ none ∨ id = c.getTemporaryId := by
  obtain ⟨key, _, written⟩ := bind_eq_ok.mp updated
  have inserted : ∀ base : Store D, (base id ≠ none ∨ id = c.getTemporaryId) →
      base.insert key c id ≠ none ∨ id = c.getTemporaryId := by
    intro base kept
    by_cases same : id = key
    · simp [Store.insert, same]
    · rw [Store.insert, Function.update_of_ne same]
      exact kept
  have removed : (store.remove c.getTemporaryId) id ≠ none ∨ id = c.getTemporaryId := by
    by_cases same : id = c.getTemporaryId
    · exact .inr same
    · rw [Store.remove, Function.update_of_ne same]
      exact .inl stored
  split at written
  · cases written
    exact inserted _ removed
  · cases written
    exact inserted _ removed
  · cases written
    exact inserted _ (.inl stored)

/-- From the given contracts, the handler writes at most one of them: one that has the
temporary id. -/
def UpdatesAs (C : Crypto) (store : Store D) (temporaryId : ContractId) {α : Type}
    (h : Handling D α) : Prop :=
  ∀ node, node.store = store → (h node).2.store = store ∨
    ∃ c : Contract D, c.getTemporaryId = temporaryId ∧
      store.updateContract C c = .ok (h node).2.store

namespace UpdatesAs
variable {C : Crypto} {store : Store D} {temporaryId : ContractId} {α β : Type}

theorem of_same {h : Handling D α} (same : h.Keeps (Same Node.store)) :
    UpdatesAs C store temporaryId h :=
  fun node at_ => .inl ((same node).trans at_)

theorem bind {m : Handling D α} {f : α → Handling D β} (same : m.Keeps (Same Node.store))
    (next : ∀ node a node', node.store = store → m node = (.ok a, node') →
      UpdatesAs C store temporaryId (f a)) : UpdatesAs C store temporaryId (m >>= f) := by
  intro node at_
  have before := same node
  rw [Handler.bind_apply]
  match ran : m node with
  | (.error e, node') =>
      rw [ran] at before
      exact .inl (before.trans at_)
  | (.ok a, node') =>
      rw [ran] at before
      exact next node a node' at_ ran node' (before.trans at_)

theorem stores (env : Environment) {c : Contract D} (named : c.getTemporaryId = temporaryId) :
    UpdatesAs C store temporaryId (storeContract env C c) := by
  intro node at_
  subst at_
  simp only [storeContract, Handler.bind_apply, Handler.read, Handler.lift, Handler.modify]
  cases updated : node.store.updateContract C c with
  | error e => exact .inl rfl
  | ok store =>
      cases answered env.writeStore with
      | error e => exact .inl rfl
      | ok u => exact .inr ⟨c, named, updated⟩

theorem before {m : Handling D α} {f : α → Handling D β} (updates : UpdatesAs C store temporaryId m)
    (same : ∀ a, (f a).Keeps (Same Node.store)) : UpdatesAs C store temporaryId (m >>= f) := by
  intro node at_
  have written := updates node at_
  rw [Handler.bind_apply]
  match ran : m node with
  | (.error e, node') =>
      rw [ran] at written
      exact written
  | (.ok a, node') =>
      rw [ran] at written
      have after : (f a node').2.store = node'.store := same a node'
      rwa [after]

end UpdatesAs

/-- The contract stored under the key, if one is, is written with its temporary id. -/
def Moves (C : Crypto) (key : ContractId) (store store' : Store D) : Prop :=
  store' = store ∨ ∃ c c' : Contract D, store key = some c ∧
    c'.getTemporaryId = c.getTemporaryId ∧ store.updateContract C c' = .ok store'

section Handlers
variable {C : Crypto} {env : Environment} {α β : Type}

theorem moves_of_read {g : Node D → Result α} {f : α → Handling D β} {key : ContractId}
    (found : ∀ node a, g node = .ok a → ∃ c, node.store key = some c ∧
      UpdatesAs C node.store c.getTemporaryId (f a)) (node : Node D) :
    Moves C key node.store ((Handler.read g >>= f) node).2.store := by
  rw [Handler.read_bind]
  match read : g node with
  | .error e => exact .inl rfl
  | .ok a =>
      obtain ⟨c, stored, updates⟩ := found node a read
      exact (updates node rfl).imp id fun ⟨c', named, updated⟩ => ⟨c, c', stored, named, updated⟩

/-- A contract that is read in a state is the one stored under the id. -/
theorem read_inState {γ : Type} {store : Store D} {state : String} {pick : Contract D → Option γ}
    {id : ContractId} {peer : Option PublicKey} {contract : γ}
    (read : (do answered env.readStore; store.getInState state pick id peer) = .ok contract) :
    ∃ c, store id = some c ∧ pick c = some contract := by
  obtain ⟨_, _, read⟩ := bind_eq_ok.mp read
  obtain ⟨c, stored, -, picked⟩ := Store.getInState_ok.mp read
  exact ⟨c, stored, picked⟩

theorem acceptFailOnError_updates (store : Store D) (offered : OfferedContract D) (msg : AcceptDlc)
    (e : Error) :
    UpdatesAs C store offered.id (acceptFailOnError env C offered msg e : Handling D β) :=
  (UpdatesAs.stores env rfl).before fun _ => Handler.keeps_lift _

theorem storeSigned_updates (store : Store D) {signed : SignedContract D} (msg : SignDlc)
    {offered : OfferedContract D} (accepted : signed.acceptedContract.offeredContract = offered) :
    UpdatesAs C store offered.id (do
      Handler.lift (answered env.getNetwork)
      Handler.lift (answered
        (env.importAddress signed.acceptedContract.dlcTransactions.fundingScriptPubkey))
      storeContract env C (.signed signed)
      pure msg) := by
  refine .bind (Handler.keeps_lift _) fun _ _ _ _ _ => ?_
  refine .bind (Handler.keeps_lift _) fun _ _ _ _ _ => ?_
  refine (UpdatesAs.stores env ?_).before fun _ => Handler.keeps_pure _
  rw [← accepted]
  rfl

theorem storeAccepted_updates (store : Store D) {accepted : AcceptedContract D} :
    UpdatesAs C store accepted.offeredContract.id (storeAccepted env C accepted) := by
  refine .bind (Handler.keeps_lift _) fun _ _ _ _ _ => ?_
  refine .bind (Handler.keeps_lift _) fun _ _ _ _ _ => ?_
  refine .bind (Handler.keeps_lift _) fun _ _ _ _ _ => ?_
  exact (UpdatesAs.stores env rfl).before fun _ => Handler.keeps_pure _

/-! The accepted or signed contract is that of the offer. -/

theorem internal_acceptContract_offered {offered : OfferedContract D} {acceptParams : PartyParams}
    {fundingInputs : List FundingInput} {sk : SecretKey} {value : ℕ} {script : Option Bytes}
    {txs : DlcTransactions} {accepted : AcceptedContract D} {sigs : List AdaptorSignature}
    (accepts : Internal.acceptContract C offered acceptParams fundingInputs sk value script txs =
      .ok (accepted, sigs)) : accepted.offeredContract = offered := by
  simp only [Internal.acceptContract, bind_eq_ok, Prod.exists, Except.ok.injEq,
    Prod.mk.injEq] at accepts
  obtain ⟨_, _, _, _, _, _, _, _, _, _, _, _, _, _, _, rfl, _⟩ := accepts
  rfl

theorem acceptContract_offered {wallet : AcceptEnvironment} {offered : OfferedContract D}
    {accepted : AcceptedContract D} {msg : AcceptDlc}
    (accepts : acceptContract wallet C offered = .ok (accepted, msg)) :
    accepted.offeredContract = offered := by
  simp only [acceptContract, bind_eq_ok, Prod.exists, Except.ok.injEq, Prod.mk.injEq] at accepts
  obtain ⟨_, _, _, _, _, _, _, _, _, _, _, _, _, _, _, accepts, rfl, -⟩ := accepts
  exact internal_acceptContract_offered accepts

theorem acceptLoanContract_offered {wallet : AcceptEnvironment} {offered : OfferedLoanContract D}
    {escrowTxid borrowerHash : Bytes32} {preimage : Bytes} {accepted : AcceptedLoanContract D}
    {msg : AcceptLoanDlc}
    (accepts : acceptLoanContract wallet C offered escrowTxid borrowerHash preimage =
      .ok (accepted, msg)) : accepted.offeredLoanContract = offered := by
  simp only [acceptLoanContract, acceptLoanContractInternal, bind_eq_ok, Prod.exists,
    Except.ok.injEq, Prod.mk.injEq] at accepts
  obtain ⟨_, _, _, _, _, _, _, _, _, _, _, _, _, _, _, built, rfl, -⟩ := accepts
  obtain ⟨_, _, _, _, _, _, _, _, _, _, _, _, _, _, _, rfl, -⟩ := built
  rfl

theorem verifyInternal_offered {offered : OfferedContract D} {acceptParams : PartyParams}
    {fundingInputs : List FundingInput} {refundSignature : Signature}
    {adaptorSigs : List AdaptorSignature} {inputValue : ℕ} {signer : ContractSigner}
    {txs : DlcTransactions} {signed : SignedContract D} {sigs : List AdaptorSignature}
    (verified : verifyAcceptedAndSignContractInternal C offered acceptParams fundingInputs
      refundSignature adaptorSigs inputValue signer txs = .ok (signed, sigs)) :
    signed.acceptedContract.offeredContract = offered := by
  simp only [verifyAcceptedAndSignContractInternal, bind_eq_ok, Prod.exists, Except.ok.injEq,
    Prod.mk.injEq] at verified
  obtain ⟨_, _, _, _, _, _, _, _, _, rfl, -⟩ := verified
  rfl

theorem verifyAcceptedAndSignContract_offered {offered : OfferedContract D} {msg : AcceptDlc}
    {signed : SignedContract D} {signedMsg : SignDlc}
    (verified : verifyAcceptedAndSignContract env C offered msg = .ok (signed, signedMsg)) :
    signed.acceptedContract.offeredContract = offered := by
  simp only [verifyAcceptedAndSignContract, bind_eq_ok, Prod.exists, Except.ok.injEq,
    Prod.mk.injEq] at verified
  obtain ⟨_, _, _, _, _, _, _, _, _, _, checked, _, _, rfl, -⟩ := verified
  exact verifyInternal_offered checked

theorem verifyAcceptedAndSignLoanContract_offered {decode : Bytes → Option Transaction}
    {derive : KeysId → Result ContractSigner} {offered : OfferedContract D} {msg : AcceptDlc}
    {collateralTx : Transaction} {script : Bytes} {signed : SignedContract D} {signedMsg : SignDlc}
    (verified : verifyAcceptedAndSignLoanContract C decode derive offered msg collateralTx script =
      .ok (signed, signedMsg)) : signed.acceptedContract.offeredContract = offered := by
  simp only [verifyAcceptedAndSignLoanContract, bind_eq_ok, Prod.exists, Except.ok.injEq,
    Prod.mk.injEq] at verified
  obtain ⟨_, _, _, _, _, _, _, _, _, _, checked, _, _, rfl, -⟩ := verified
  exact verifyInternal_offered checked

/-! Each handler moves the contract that it reads, or none. -/

theorem onAcceptMessage_moves (msg : AcceptDlc) (peer : PublicKey) (node : Node D) :
    Moves C msg.temporaryContractId node.store (onAcceptMessage env C msg peer node).2.store := by
  refine moves_of_read (fun node offered read => ?_) node
  obtain ⟨c, stored, picked⟩ := read_inState read
  obtain rfl := Contract.offered?_eq_some.mp picked
  refine ⟨_, stored, ?_⟩
  split
  · exact .of_same (Handler.keeps_lift _)
  · exact acceptFailOnError_updates _ _ _ _
  · next signed signedMsg verified =>
      exact storeSigned_updates _ _ (verifyAcceptedAndSignContract_offered verified)

theorem recordAcceptedLoan_updates (store : Store D) (msg : AcceptLoanDlc)
    (offered : OfferedLoanContract D) (collateralTx : Transaction) :
    UpdatesAs C store offered.offeredContract.id
      (recordAcceptedLoan env C msg offered collateralTx) := by
  unfold recordAcceptedLoan
  split
  · exact .of_same (Handler.keeps_lift _)
  · exact acceptFailOnError_updates _ _ _ _
  · next signed signedMsg verified =>
      exact storeSigned_updates _ _ (verifyAcceptedAndSignLoanContract_offered verified)

theorem signCollateral_stored {msg : AcceptLoanDlc} {peer : PublicKey} {node : Node D}
    {offered : OfferedLoanContract D} {tx : Transaction}
    (signed : signCollateral env C msg peer node = .ok (offered, tx)) :
    node.store msg.temporaryContractId = some (.offeredLoan offered) := by
  simp only [signCollateral, loanGates, getContractInOfferedLoan, bind_eq_ok, Prod.exists,
    Except.ok.injEq, Prod.mk.injEq] at signed
  obtain ⟨_, _, _, ⟨_, ⟨_, _, read⟩, _, _, _, _, _, _, _, _, _, _, rfl, _⟩, _, _, _, _, _, _, _, _,
    rfl, _⟩ := signed
  exact (Store.getOfferedLoan_ok read).1

theorem onAcceptLoanMessage_moves (msg : AcceptLoanDlc) (peer : PublicKey) (node : Node D) :
    Moves C msg.temporaryContractId node.store
      (onAcceptLoanMessage env C msg peer node).2.store := by
  refine moves_of_read (fun node (offered, tx) read => ?_) node
  refine ⟨_, signCollateral_stored read, ?_⟩
  refine .bind ?_ fun _ _ _ _ _ => recordAcceptedLoan_updates _ _ _ _
  refine Handler.keeps_bind (Handler.keeps_lift _) fun _ => ?_
  exact Handler.keeps_modify fun _ => rfl

theorem acceptContractOffer_moves (wallet : AcceptEnvironment) (id : ContractId) (node : Node D) :
    Moves C id node.store (acceptContractOffer env wallet C id node).2.store := by
  refine moves_of_read (fun node offered read => ?_) node
  obtain ⟨c, stored, picked⟩ := read_inState read
  obtain rfl := Contract.offered?_eq_some.mp picked
  refine ⟨_, stored, .bind (Handler.keeps_lift _) fun _ (accepted, msg) _ _ accepts => ?_⟩
  have same := acceptContract_offered (Handler.lift_ok.mp accepts).1
  have updates : UpdatesAs C node.store accepted.offeredContract.id
      (storeAccepted env C accepted) := storeAccepted_updates _
  rw [same] at updates
  exact updates.before fun _ => Handler.keeps_pure _

theorem acceptLoanContractOffer_moves (wallet : AcceptEnvironment) (id : ContractId)
    (store : LoanStore D) (lent : List (Bytes32 × ℕ)) (broadcast : List Transaction) :
    Moves C id store.contracts
      (acceptLoanContractOffer env wallet C id store ⟨store.contracts, lent, broadcast⟩).2.store := by
  rw [acceptLoanContractOffer, Handler.lift_bind]
  match accepts : acceptedLoan env wallet C id store with
  | .error e => exact .inl rfl
  | .ok (_, _, _) =>
      simp only [acceptedLoan, bind_eq_ok, Prod.exists, Except.ok.injEq, Prod.mk.injEq] at accepts
      obtain ⟨_, _, offered, read, _, _, _, _, accepted, msg, loan, rfl, rfl, rfl⟩ := accepts
      obtain ⟨c, stored, -, picked⟩ := Store.getInState_ok.mp read
      have confirmed : c = .offeredLoanEscrowConfirmed offered := by
        cases c <;> simp_all [Contract.offeredLoanEscrowConfirmed?]
      have same : accepted.toAcceptedContract.offeredContract = offered.offeredContract :=
        congrArg OfferedLoanContract.offeredContract (acceptLoanContract_offered loan)
      have updates : UpdatesAs C store.contracts accepted.toAcceptedContract.offeredContract.id
          (storeAccepted env C accepted.toAcceptedContract) := storeAccepted_updates _
      rw [same] at updates
      have finished := updates.before (β := ContractId × PublicKey × AcceptLoanDlc)
        (f := fun contractId => pure (contractId, offered.offeredContract.counterParty, msg))
        fun _ => Handler.keeps_pure _
      refine (finished ⟨store.contracts, lent, broadcast⟩ rfl).imp (fun same => same)
        fun ⟨c', named, updated⟩ => ?_
      exact ⟨c, c', stored, by rw [named, confirmed]; rfl, updated⟩

end Handlers

theorem onSignMessage_moves {E : SigningDescriptors} {C : Crypto} (env : Environment)
    (msg : SignDlc) (peer : PublicKey) (node : Node E.toDescriptors) :
    Moves C msg.contractId node.store (onSignMessage env C msg peer node).2.store := by
  refine moves_of_read (fun node accepted read => ?_) node
  obtain ⟨c, stored, picked⟩ := read_inState read
  obtain rfl := Contract.accepted?_eq_some.mp picked
  refine ⟨_, stored, ?_⟩
  split
  · exact .of_same (Handler.keeps_lift _)
  · exact (UpdatesAs.stores env rfl).before fun _ => Handler.keeps_lift _
  · next signed tx verified =>
      have same : signed.acceptedContract = accepted := by
        obtain ⟨_, _, verified⟩ := bind_eq_ok.mp verified
        simp only [Internal.verifySignedContract, bind_eq_ok, Except.ok.injEq,
          Prod.mk.injEq] at verified
        obtain ⟨_, _, _, _, rfl, _⟩ := verified
        rfl
      refine UpdatesAs.stores env ?_
      rw [← same]
      rfl

/-! Histories of a node from its first start. -/

/-- What happens at a node: messages, with those that are sent again, and local calls. -/
inductive OfferEvent (E : SigningDescriptors) (A : Type)
  | offer (env : Environment) (converted : Result (OfferedContract E.toDescriptors))
  | offerLoan (env : Environment) (converted : Result (OfferedLoanContract E.toDescriptors))
  | accept (env : Environment) (msg : AcceptDlc) (peer : PublicKey)
  | acceptLoan (env : Environment) (msg : AcceptLoanDlc) (peer : PublicKey)
  | sign (env : Environment) (msg : SignDlc) (peer : PublicKey)
  | acceptContractOffer (env : Environment) (wallet : AcceptEnvironment) (id : ContractId)
  | initiateAcceptLoan (env : InitiateEnvironment) (id : ContractId)
  | acceptLoanContractOffer (env : Environment) (wallet : AcceptEnvironment) (id : ContractId)
  | checkEscrows (poll : Poll E.toDescriptors) (evmPk : String)
  | sendOfferLoan (env : OfferEnvironment) (input : LoanContractInput E.toDescriptors A)
      (peer : PublicKey) (announcements : List (List (OracleAnnouncement A)))

namespace OfferEvent
variable {E : SigningDescriptors} {A : Type} (C : Crypto)

/-- The contracts as a handler of the manager leaves them. -/
def onContracts {α : Type} (h : Handling E.toDescriptors α) (store : LoanStore E.toDescriptors) :
    Except (Fault Error) α × LoanStore E.toDescriptors :=
  ((h ⟨store.contracts, [], []⟩).1,
    { store with contracts := (h ⟨store.contracts, [], []⟩).2.store })

def handle (store : LoanStore E.toDescriptors) :
    OfferEvent E A → LoanStore E.toDescriptors
  | offer env converted => (onContracts (onOfferMessage env converted) store).2
  | offerLoan env converted => (onContracts (onOfferLoanMessage env converted) store).2
  | accept env msg peer => (onContracts (onAcceptMessage env C msg peer) store).2
  | acceptLoan env msg peer => (onContracts (onAcceptLoanMessage env C msg peer) store).2
  | sign env msg peer => (onContracts (onSignMessage env C msg peer) store).2
  | acceptContractOffer env wallet id =>
      (onContracts (P2PLending.Manager.acceptContractOffer env wallet C id) store).2
  | initiateAcceptLoan env id =>
      (initiateAcceptLoanContractOffer env C id (Borrower.start store)).2.store
  | acceptLoanContractOffer env wallet id =>
      (onContracts (P2PLending.Manager.acceptLoanContractOffer env wallet C id store) store).2
  | checkEscrows poll evmPk =>
      (checkOfferedLoanContractsForEscrow C poll evmPk (Borrower.start store)).2.store
  | sendOfferLoan env input peer announcements =>
      (sendOfferLoanWithAnnouncements env C input peer announcements store).2

/-- The contract that an offer message creates, when the handler returns. -/
def creates (store : LoanStore E.toDescriptors) :
    OfferEvent E A → Option (Contract E.toDescriptors)
  | offer env converted =>
      match (onContracts (onOfferMessage env converted) store).1, converted with
      | .ok _, .ok c => some (.offered c)
      | _, _ => none
  | offerLoan env converted =>
      match (onContracts (onOfferLoanMessage env converted) store).1, converted with
      | .ok _, .ok c => some (.offeredLoan c)
      | _, _ => none
  | _ => none

/-- The key under which an acceptance or a signature looks for its contract. -/
def key : OfferEvent E A → Option ContractId
  | accept _ msg _ => some msg.temporaryContractId
  | acceptLoan _ msg _ => some msg.temporaryContractId
  | sign _ msg _ => some msg.contractId
  | acceptContractOffer _ _ id | acceptLoanContractOffer _ _ id => some id
  | _ => none

end OfferEvent

/-- Something is recorded under the id. -/
def LoanStore.Records (store : LoanStore D) (id : ContractId) : Prop :=
  store.loanPreimage id ≠ none ∨ store.escrowTxid id ≠ none

instance (store : LoanStore D) (id : ContractId) : Decidable (store.Records id) :=
  inferInstanceAs (Decidable (_ ∨ _))

/-- A node's trees, the temporary ids of the contracts that offer messages have created,
those of new loan offers that found a record, and the ids that were used and are free. -/
structure OfferHistory (D : Descriptors) where
  store : LoanStore D
  created : List ContractId
  reused : List ContractId
  vacant : List ContractId

namespace OfferHistory
variable {E : SigningDescriptors} {A : Type} (C : Crypto)

def start : OfferHistory D := ⟨⟨fun _ => none, fun _ => none, fun _ => none⟩, [], [], []⟩

/-- A temporary id becomes free when its contract moves on, or when the preimage of an own
loan offer is written that is then not stored. -/
def vacates (store store' : LoanStore E.toDescriptors) : OfferEvent E A → List ContractId
  | .sendOfferLoan env _ _ _ =>
      if store'.contracts env.newTemporaryId = none ∧ store'.Records env.newTemporaryId then
        [env.newTemporaryId]
      else []
  | event => ((event.key.bind store.contracts).map Contract.getTemporaryId).toList

/-- The new loan offers under whose id something is recorded. -/
def finds (store : LoanStore E.toDescriptors) (created : List ContractId) :
    OfferEvent E A → List ContractId
  | .offerLoan _ _ => created.filter fun id => store.Records id
  | _ => []

def next (h : OfferHistory E.toDescriptors) (event : OfferEvent E A) :
    OfferHistory E.toDescriptors :=
  let store := event.handle C h.store
  let created := ((event.creates h.store).map Contract.getTemporaryId).toList
  { store
    created := h.created ++ created
    reused := h.reused ++ finds h.store created event
    vacant := h.vacant ++ vacates h.store store event }

def Step (h : OfferHistory E.toDescriptors) (event : OfferEvent E A)
    (h' : OfferHistory E.toDescriptors) : Prop := h' = h.next C event

/-- No offer message comes for a temporary id that was used and is free again. -/
def Admits (h : OfferHistory E.toDescriptors) : OfferEvent E A → Prop
  | .offer _ converted => ∀ c, converted = .ok c → c.id ∈ h.vacant → h.store.contracts c.id ≠ none
  | .offerLoan _ converted => ∀ c, converted = .ok c → c.offeredContract.id ∈ h.vacant →
      h.store.contracts c.offeredContract.id ≠ none
  | _ => True

/-- A used id has its contract or is free. -/
structure Kept (h : OfferHistory D) : Prop where
  created : ∀ id ∈ h.created, h.store.contracts id ≠ none ∨ id ∈ h.vacant
  recorded : ∀ id, h.store.Records id → h.store.contracts id ≠ none ∨ id ∈ h.vacant

/-- Each temporary id names one contract, and no loan offer starts with a record. -/
structure Once (h : OfferHistory D) : Prop where
  once : h.created.Nodup
  clean : h.reused = []

/-! What a step leaves of the keys and the records. -/

theorem moves_keys {C : Crypto} {key id : ContractId} {store store' : Store D}
    (moves : Moves C key store store') (stored : store id ≠ none) :
    store' id ≠ none ∨ id ∈ ((store key).map Contract.getTemporaryId).toList := by
  rcases moves with rfl | ⟨c, c', found, named, updated⟩
  · exact .inl stored
  · refine (updateContract_keeps_keys updated stored).imp_right fun same => ?_
    rw [found, same, named]
    exact List.mem_singleton_self _

/-- The contracts stay under their keys and nothing is recorded. -/
def KeepsKeys (b b' : Borrower D) : Prop :=
  (∀ id, b.store.contracts id ≠ none → b'.store.contracts id ≠ none) ∧
    ∀ id, b'.store.Records id ↔ b.store.Records id

instance : Std.Refl (KeepsKeys (D := D)) := ⟨fun _ => ⟨fun _ => id, fun _ => .rfl⟩⟩

instance : IsTrans (Borrower D) KeepsKeys :=
  ⟨fun _ _ _ first next => ⟨fun id stored => next.1 id (first.1 id stored),
    fun id => (next.2 id).trans (first.2 id)⟩⟩

theorem insert_keeps {store : Store D} {key id : ContractId} {c : Contract D}
    (stored : store id ≠ none) : store.insert key c id ≠ none := by
  by_cases same : id = key
  · simp [Store.insert, same]
  · rwa [Store.insert, Function.update_of_ne same]

section Checks
variable {C : Crypto}

theorem confirmEscrow_keepsKeys (env : CheckEnvironment) (contract : OfferedLoanContract D)
    (r : EscrowRecord) : (confirmEscrow env C contract r).Keeps KeepsKeys := by
  intro b
  unfold confirmEscrow
  cases written : env.writeStore with
  | ok => exact ⟨fun _ stored => insert_keeps stored, fun _ => .rfl⟩
  | error => exact ⟨fun _ stored => stored, fun _ => .rfl⟩

theorem checkOffer_keepsKeys (env : CheckEnvironment) (contract : OfferedLoanContract D) :
    (checkOffer env C contract).Keeps KeepsKeys := by
  have confirms : ∀ r, (confirmWhenFinal env C contract r).Keeps KeepsKeys := by
    intro r
    refine Handler.keeps_bind (Handler.keeps_lift _) fun confirmations => ?_
    split
    · exact confirmEscrow_keepsKeys env contract r
    · exact Handler.keeps_pure _
  have claims : ∀ r, (claimStable env contract r).Keeps KeepsKeys := by
    intro r
    refine Handler.keeps_bind (Handler.keeps_lift _) fun _ => ?_
    refine Handler.keeps_bind ?_ fun _ => Handler.keeps_lift _
    exact Handler.keeps_modify fun _ => ⟨fun _ stored => stored, fun _ => .rfl⟩
  refine Handler.keeps_bind (Handler.keeps_read _) fun record => ?_
  match record with
  | none => exact Handler.keeps_pure _
  | some r =>
      dsimp only
      split
      · exact Handler.keeps_bind (claims r) fun _ => confirms r
      · exact confirms r

theorem checkOffers_keepsKeys (poll : Poll D) (offers : List (OfferedLoanContract D)) :
    (checkOffers C poll offers).Keeps KeepsKeys := by
  induction offers with
  | nil => exact Handler.keeps_pure _
  | cons contract rest ih => exact Handler.keeps_bind (checkOffer_keepsKeys _ _) fun _ => ih

theorem checkEscrows_keepsKeys (poll : Poll D) (evmPk : String) :
    (checkOfferedLoanContractsForEscrow C poll evmPk).Keeps KeepsKeys := by
  refine Handler.keeps_bind (Handler.keeps_lift _) fun _ => ?_
  refine Handler.keeps_bind (Handler.keeps_lift _) fun _ => ?_
  exact checkOffers_keepsKeys poll _

theorem persisted_contracts (env : InitiateEnvironment) (id : ContractId) (escrowTxid : Bytes32)
    (store : LoanStore D) : (persisted env id escrowTxid store).contracts = store.contracts := by
  rw [persisted]
  cases env.setEscrowTxid with
  | ok => cases env.setLoanPreimage with | ok => rfl | error => rfl
  | error => cases env.setLoanPreimage with | ok => rfl | error => rfl

/-- The escrow and the preimage are recorded under the id of a stored offer. -/
theorem initiate_records (env : InitiateEnvironment) (id : ContractId) (b : Borrower D) :
    (initiateAcceptLoanContractOffer env C id b).2.store.contracts = b.store.contracts ∧
      ∀ other, (initiateAcceptLoanContractOffer env C id b).2.store.Records other →
        b.store.Records other ∨ b.store.contracts other ≠ none := by
  match sent : broadcastEscrow env C id b with
  | none =>
      rw [broadcastEscrow_none sent]
      exact ⟨rfl, fun _ recorded => .inl recorded⟩
  | some e =>
      rw [(broadcastEscrow_some sent).2.2]
      refine ⟨persisted_contracts _ _ _ _, fun other recorded => ?_⟩
      by_cases same : other = id
      · refine .inr fun nothing => ?_
        rw [broadcastEscrow] at sent
        split at sent
        · next offered escrowTx signed initiated =>
            simp only [initiatedEscrow, bind_eq_ok] at initiated
            obtain ⟨_, _, _, read, -⟩ := initiated
            rw [Store.getOfferedLoan, ← same, nothing] at read
            cases read
        · cases sent
      · rw [LoanStore.Records, persisted_loanPreimage, persisted_escrowTxid] at recorded
        simp only [same, false_and, if_false] at recorded
        exact .inl recorded

/-- The preimage is recorded under the drawn id. -/
theorem sendOfferLoan_records {A : Type} (env : OfferEnvironment)
    (input : LoanContractInput D A) (peer : PublicKey)
    (announcements : List (List (OracleAnnouncement A))) (store : LoanStore D) :
    (∀ id, store.contracts id ≠ none →
      (sendOfferLoanWithAnnouncements env C input peer announcements store).2.contracts id ≠ none) ∧
    ∀ id, (sendOfferLoanWithAnnouncements env C input peer announcements store).2.Records id →
      store.Records id ∨ id = env.newTemporaryId := by
  unfold sendOfferLoanWithAnnouncements
  rw [Handler.lift_bind]
  match offers : offerLoanContract env C input peer announcements with
  | .error e => exact ⟨fun _ stored => stored, fun _ recorded => .inl recorded⟩
  | .ok offered =>
      dsimp only
      have drawn := (offerLoanContract_ok offers).1
      let written' := written env.setLoanPreimage store
        (store.setLoanPreimage offered.offeredContract.id env.lenderPreimage)
      have contracts : written'.contracts = store.contracts := by
        unfold written'
        cases env.setLoanPreimage with
        | ok => rfl
        | error => rfl
      have records : ∀ id, written'.Records id → store.Records id ∨ id = env.newTemporaryId := by
        intro id recorded
        by_cases same : id = env.newTemporaryId
        · exact .inr same
        · rw [LoanStore.Records, written_setLoanPreimage, written_setLoanPreimage_escrowTxid,
            drawn] at recorded
          simp only [same, false_and, if_false] at recorded
          exact .inl recorded
      rw [Handler.modify_bind, Handler.lift_bind]
      split
      · rw [Handler.lift_bind]
        split
        · refine ⟨fun id stored => ?_, records⟩
          rw [← contracts] at stored
          exact insert_keeps stored
        · exact ⟨fun id stored => contracts ▸ stored, records⟩
      · exact ⟨fun id stored => contracts ▸ stored, records⟩

end Checks

section Steps
variable {C}

theorem createFresh_ok {env : Environment} {id : ContractId} {contract : Contract D}
    {node node' : Node D} {u : Unit} (ran : createFresh env id contract node = (.ok u, node')) :
    node.store id = none ∧ node'.store = node.store.insert id contract := by
  simp only [createFresh, Handler.bind_ok, Handler.read_ok, Handler.lift_ok, Handler.modify_ok,
    bind_eq_ok, ensure_eq_ok, Option.isNone_iff_eq_none] at ran
  obtain ⟨_, _, ⟨⟨_, _, free⟩, rfl⟩, _, _, ⟨_, rfl⟩, rfl⟩ := ran
  exact ⟨free, rfl⟩

theorem createFresh_error {env : Environment} {id : ContractId} {contract : Contract D}
    {node node' : Node D} {e : Fault Error}
    (ran : createFresh env id contract node = (.error e, node')) : node' = node := by
  rw [createFresh, Handler.read_bind] at ran
  split at ran
  · rw [Handler.lift_bind] at ran
    split at ran
    · cases ran
    · cases ran
      rfl
  · cases ran
    rfl

/-- An offer message creates its contract under a free id, or changes nothing. -/
theorem offer_outcome (env : Environment) {α : Type} (converted : Result α) (idOf : α → ContractId)
    (contract : α → Contract D) (node : Node D) :
    (∃ a, converted = .ok a ∧ node.store (idOf a) = none ∧
      ∃ node', (Handler.lift converted >>= fun a => createFresh env (idOf a) (contract a)) node =
        (.ok (), node') ∧ node'.store = node.store.insert (idOf a) (contract a)) ∨
    ∃ e, (Handler.lift converted >>= fun a => createFresh env (idOf a) (contract a)) node =
      (.error e, node) := by
  rw [Handler.lift_bind]
  match converted with
  | .error e => exact .inr ⟨e, rfl⟩
  | .ok a =>
      dsimp only
      match ran : createFresh env (idOf a) (contract a) node with
      | (.ok (), node') =>
          obtain ⟨free, stored⟩ := createFresh_ok ran
          exact .inl ⟨a, rfl, free, node', rfl, stored⟩
      | (.error e, node') =>
          obtain rfl := createFresh_error ran
          exact .inr ⟨e, rfl⟩

variable (store : LoanStore E.toDescriptors)

theorem offer_cases (env : Environment) (converted : Result (OfferedContract E.toDescriptors)) :
    (∃ o, converted = .ok o ∧ store.contracts o.id = none ∧
      (OfferEvent.offer (A := A) env converted).creates store = some (.offered o) ∧
      (OfferEvent.offer (A := A) env converted).handle C store =
        { store with contracts := store.contracts.insert o.id (.offered o) }) ∨
    (OfferEvent.offer (A := A) env converted).creates store = none ∧
      (OfferEvent.offer (A := A) env converted).handle C store = store := by
  have outcome := offer_outcome env converted OfferedContract.id Contract.offered
    ⟨store.contracts, [], []⟩
  rcases outcome with ⟨o, rfl, free, node', ran, after⟩ | ⟨e, ran⟩
  · have ran : onOfferMessage env (.ok o) ⟨store.contracts, [], []⟩ = (.ok (), node') := ran
    refine .inl ⟨o, rfl, free, ?_, ?_⟩
    · simp only [OfferEvent.creates, OfferEvent.onContracts, ran]
    · rw [OfferEvent.handle, OfferEvent.onContracts, ran, after]
  · have ran : onOfferMessage env converted ⟨store.contracts, [], []⟩ = (.error e, _) := ran
    refine .inr ⟨?_, ?_⟩
    · simp only [OfferEvent.creates, OfferEvent.onContracts, ran]
    · rw [OfferEvent.handle, OfferEvent.onContracts, ran]

theorem offerLoan_cases (env : Environment)
    (converted : Result (OfferedLoanContract E.toDescriptors)) :
    (∃ o, converted = .ok o ∧ store.contracts o.offeredContract.id = none ∧
      (OfferEvent.offerLoan (A := A) env converted).creates store = some (.offeredLoan o) ∧
      (OfferEvent.offerLoan (A := A) env converted).handle C store =
        { store with
          contracts := store.contracts.insert o.offeredContract.id (.offeredLoan o) }) ∨
    (OfferEvent.offerLoan (A := A) env converted).creates store = none ∧
      (OfferEvent.offerLoan (A := A) env converted).handle C store = store := by
  have outcome := offer_outcome env converted (fun o => o.offeredContract.id)
    Contract.offeredLoan ⟨store.contracts, [], []⟩
  rcases outcome with ⟨o, rfl, free, node', ran, after⟩ | ⟨e, ran⟩
  · have ran : onOfferLoanMessage env (.ok o) ⟨store.contracts, [], []⟩ = (.ok (), node') := ran
    refine .inl ⟨o, rfl, free, ?_, ?_⟩
    · simp only [OfferEvent.creates, OfferEvent.onContracts, ran]
    · rw [OfferEvent.handle, OfferEvent.onContracts, ran, after]
  · have ran : onOfferLoanMessage env converted ⟨store.contracts, [], []⟩ = (.error e, _) := ran
    refine .inr ⟨?_, ?_⟩
    · simp only [OfferEvent.creates, OfferEvent.onContracts, ran]
    · rw [OfferEvent.handle, OfferEvent.onContracts, ran]

/-- A contract leaves its key only for the one that the event moves on. -/
theorem handle_keys (event : OfferEvent E A) {id : ContractId}
    (stored : store.contracts id ≠ none) :
    (event.handle C store).contracts id ≠ none ∨
      id ∈ vacates store (event.handle C store) event := by
  cases event with
  | offer env converted =>
      rcases offer_cases store env converted with ⟨o, _, _, _, after⟩ | ⟨-, after⟩
      · exact .inl (by rw [after]; exact insert_keeps stored)
      · exact .inl (by rw [after]; exact stored)
  | offerLoan env converted =>
      rcases offerLoan_cases store env converted with ⟨o, _, _, _, after⟩ | ⟨-, after⟩
      · exact .inl (by rw [after]; exact insert_keeps stored)
      · exact .inl (by rw [after]; exact stored)
  | accept env msg peer => exact moves_keys (onAcceptMessage_moves _ _ _) stored
  | acceptLoan env msg peer => exact moves_keys (onAcceptLoanMessage_moves _ _ _) stored
  | sign env msg peer => exact moves_keys (onSignMessage_moves _ _ _ _) stored
  | acceptContractOffer env wallet id' =>
      exact moves_keys (acceptContractOffer_moves _ _ _) stored
  | acceptLoanContractOffer env wallet id' =>
      exact moves_keys (acceptLoanContractOffer_moves _ _ _ _ _) stored
  | initiateAcceptLoan env id' =>
      exact .inl ((initiate_records env id' (Borrower.start store)).1 ▸ stored)
  | checkEscrows poll evmPk =>
      exact .inl ((checkEscrows_keepsKeys poll evmPk (Borrower.start store)).1 id stored)
  | sendOfferLoan env input peer announcements =>
      exact .inl ((sendOfferLoan_records env input peer announcements store).1 id stored)

/-- What is recorded is recorded under the id of a contract, or under a drawn one. -/
theorem handle_records (event : OfferEvent E A) {id : ContractId}
    (recorded : (event.handle C store).Records id) :
    store.Records id ∨ (event.handle C store).contracts id ≠ none ∨
      id ∈ vacates store (event.handle C store) event := by
  cases event with
  | offer env converted =>
      rcases offer_cases store env converted with ⟨o, _, _, _, after⟩ | ⟨-, after⟩
      · exact .inl (by rw [after] at recorded; exact recorded)
      · exact .inl (by rw [after] at recorded; exact recorded)
  | offerLoan env converted =>
      rcases offerLoan_cases store env converted with ⟨o, _, _, _, after⟩ | ⟨-, after⟩
      · exact .inl (by rw [after] at recorded; exact recorded)
      · exact .inl (by rw [after] at recorded; exact recorded)
  | accept | acceptLoan | sign | acceptContractOffer | acceptLoanContractOffer =>
      exact .inl recorded
  | initiateAcceptLoan env id' =>
      obtain ⟨same, records⟩ := initiate_records (C := C) env id' (Borrower.start store)
      exact (records id recorded).imp_right fun stored => .inl (same ▸ stored)
  | checkEscrows poll evmPk =>
      exact .inl (((checkEscrows_keepsKeys poll evmPk (Borrower.start store)).2 id).mp recorded)
  | sendOfferLoan env input peer announcements =>
      have records := (sendOfferLoan_records env input peer announcements store).2 id recorded
      refine records.imp_right fun drawn => ?_
      subst drawn
      by_cases stored : ((OfferEvent.sendOfferLoan env input peer announcements).handle C
          store).contracts env.newTemporaryId = none
      · refine .inr ?_
        rw [vacates, if_pos ⟨stored, recorded⟩]
        exact List.mem_singleton_self _
      · exact .inl stored

end Steps

variable {C} {h h' : OfferHistory E.toDescriptors} {event : OfferEvent E A}

/-- What an offer message creates was not stored, and is stored afterwards. -/
theorem creates_some {store : LoanStore E.toDescriptors} {c : Contract E.toDescriptors}
    (made : event.creates store = some c) :
    store.contracts c.getTemporaryId = none ∧
      (event.handle C store).contracts c.getTemporaryId ≠ none ∧
      ((∃ env o, event = .offer env (.ok o) ∧ c = .offered o) ∨
        ∃ env o, event = .offerLoan env (.ok o) ∧ c = .offeredLoan o) := by
  cases event with
  | offer env converted =>
      rcases offer_cases (C := C) store env converted with ⟨o, rfl, free, makes, after⟩ | ⟨none, -⟩
      · obtain rfl := Option.some.inj (makes.symm.trans made)
        refine ⟨free, ?_, .inl ⟨env, o, rfl, rfl⟩⟩
        rw [after]
        simp [Store.insert, Contract.getTemporaryId]
      · cases none.symm.trans made
  | offerLoan env converted =>
      rcases offerLoan_cases (C := C) store env converted with ⟨o, rfl, free, makes, after⟩ | ⟨none, -⟩
      · obtain rfl := Option.some.inj (makes.symm.trans made)
        refine ⟨free, ?_, .inr ⟨env, o, rfl, rfl⟩⟩
        rw [after]
        simp [Store.insert, Contract.getTemporaryId]
      · cases none.symm.trans made
  | accept | acceptLoan | sign | acceptContractOffer | initiateAcceptLoan | acceptLoanContractOffer
  | checkEscrows | sendOfferLoan => cases made

theorem Kept.next (kept : Kept h) (event : OfferEvent E A) : Kept (h.next C event) where
  created id listed := by
    rcases List.mem_append.mp listed with earlier | new
    · rcases kept.created id earlier with stored | free
      · exact (handle_keys h.store event stored).imp_right fun left => List.mem_append_right _ left
      · exact .inr (List.mem_append_left _ free)
    · obtain ⟨c, made, rfl⟩ := Option.map_eq_some_iff.mp (Option.mem_toList.mp new)
      exact .inl (creates_some made).2.1
  recorded id recorded := by
    rcases handle_records h.store event recorded with earlier | stored | left
    · rcases kept.recorded id earlier with stored | free
      · exact (handle_keys h.store event stored).imp_right fun left => List.mem_append_right _ left
      · exact .inr (List.mem_append_left _ free)
    · exact .inl stored
    · exact .inr (List.mem_append_right _ left)

/-- A created contract's id was never used. -/
theorem fresh_of_admits (C : Crypto) (kept : Kept h) (admits : h.Admits event) {c : Contract E.toDescriptors}
    (made : event.creates h.store = some c) :
    c.getTemporaryId ∉ h.created ∧ ¬ h.store.Records c.getTemporaryId := by
  obtain ⟨free, -, offers⟩ := creates_some (C := C) made
  have unused : c.getTemporaryId ∉ h.vacant := by
    intro left
    rcases offers with ⟨env, o, rfl, rfl⟩ | ⟨env, o, rfl, rfl⟩
    · exact admits o rfl left free
    · exact admits o rfl left free
  refine ⟨fun listed => ?_, fun recorded => ?_⟩
  · exact (kept.created _ listed).elim (fun stored => stored free) unused
  · exact (kept.recorded _ recorded).elim (fun stored => stored free) unused

theorem finds_nil {store : LoanStore E.toDescriptors} {created : List ContractId}
    (clean : ∀ id ∈ created, ¬ store.Records id) : finds store created event = [] := by
  cases event with
  | offerLoan env converted =>
      refine List.filter_eq_nil_iff.mpr fun id listed recorded => ?_
      exact clean id listed (of_decide_eq_true recorded)
  | offer | accept | acceptLoan | sign | acceptContractOffer | initiateAcceptLoan
  | acceptLoanContractOffer | checkEscrows | sendOfferLoan => rfl

theorem Once.next (kept : Kept h) (once : Once h) (admits : h.Admits event) :
    Once (h.next C event) := by
  have fresh : ∀ id ∈ ((event.creates h.store).map Contract.getTemporaryId).toList,
      id ∉ h.created ∧ ¬ h.store.Records id := by
    intro id new
    obtain ⟨c, made, rfl⟩ := Option.map_eq_some_iff.mp (Option.mem_toList.mp new)
    exact fresh_of_admits C kept admits made
  have single : ∀ made : Option ContractId, made.toList.Nodup := by
    intro made
    cases made with
    | none => exact List.nodup_nil
    | some id => exact List.nodup_singleton id
  constructor
  · refine List.nodup_append.mpr ⟨once.once, single _, ?_⟩
    rintro id earlier _ new rfl
    exact (fresh id new).1 earlier
  · show h.reused ++ finds h.store _ event = []
    rw [once.clean, List.nil_append]
    exact finds_nil fun id new => (fresh id new).2

/-- In a run without an offer for an id that was used and is free again, each temporary id
names one contract and no new loan offer finds a record. -/
theorem temporary_ids_used_once {events : List (OfferEvent E A)}
    (run : Run (guarded (Step C) Admits) start events h) : h.created.Nodup ∧ h.reused = [] := by
  have initial : Kept (start : OfferHistory E.toDescriptors) ∧
      Once (start : OfferHistory E.toDescriptors) :=
    ⟨⟨nofun, fun _ recorded => absurd recorded (by simp [start, LoanStore.Records])⟩,
      ⟨List.nodup_nil, rfl⟩⟩
  have both := run.invariant (fun h => Kept h ∧ Once h) initial fun h event h' ⟨kept, once⟩
    ⟨admits, stepped⟩ => by
      rw [stepped]
      exact ⟨kept.next event, once.next kept admits⟩
  exact ⟨both.2.once, both.2.clean⟩

/-- The sample descriptors, whose signature messages all verify. -/
def replaySigning : SigningDescriptors :=
  { sampleDescriptors with
    verifyAdaptorInfo := fun _ _ _ _ _ _ adaptorSigStart _ => .ok adaptorSigStart }

abbrev ReplayEvent := OfferEvent replaySigning Unit

/-- The sample offer as the borrower receives it. -/
def receivedLoanOffer : OfferedLoanContract sampleDescriptors :=
  { sampleLoanOffer with
    offeredContract := { sampleLoanOffer.offeredContract with
      isOfferParty := false
      counterParty := sampleKey₁ } }

def sampleOfferMessage : ReplayEvent := .offerLoan sampleEnvironment (.ok receivedLoanOffer)

/-- The borrower's part of a loan, up to the acceptance. -/
def sampleLoanCalls : List ReplayEvent :=
  [.initiateAcceptLoan (sampleInitiate sampleCoin 0 0 (.ok ())) 7,
    .checkEscrows { samplePoll 100000000 6 with loanContractOffers := .ok [receivedLoanOffer] }
      sampleEvmKey,
    .acceptLoanContractOffer sampleEnvironment
      (sampleAcceptEnvironment (sampleEscrow 100000000) 1 500000000) 7]

def sampleReplay (events : List ReplayEvent) : OfferHistory replaySigning.toDescriptors :=
  events.foldl (fun h event => h.next sampleCrypto event) start

theorem sampleReplay_run (events : List ReplayEvent) :
    Run (Step sampleCrypto) start events (sampleReplay events) := by
  induction events using List.reverseRecOn with
  | nil => exact .nil
  | append_singleton events event ih =>
      refine ih.snoc ?_
      rw [Step, sampleReplay, List.foldl_append]
      rfl

theorem temporary_ids_used_once_loan :
    (sampleReplay (sampleOfferMessage :: sampleLoanCalls)).created.Nodup ∧
      (sampleReplay (sampleOfferMessage :: sampleLoanCalls)).reused = [] := by
  have offered : Run (guarded (Step sampleCrypto) Admits) start [sampleOfferMessage]
      (sampleReplay [sampleOfferMessage]) :=
    Run.nil.snoc (a := sampleOfferMessage) ⟨fun _ _ => nofun, rfl⟩
  have run : Run (guarded (Step sampleCrypto) Admits) start (sampleOfferMessage :: sampleLoanCalls)
      (sampleReplay (sampleOfferMessage :: sampleLoanCalls)) :=
    ((offered.snoc (a := sampleLoanCalls[0]) ⟨trivial, rfl⟩).snoc (a := sampleLoanCalls[1])
      ⟨trivial, rfl⟩).snoc (a := sampleLoanCalls[2]) ⟨trivial, rfl⟩
  exact temporary_ids_used_once run

/-- The offer comes again after the acceptance: a second contract is created under its id
and finds the first one's preimage and escrow. -/
theorem accepted_offer_replayed : ∃ h,
    Run (Step sampleCrypto) start (sampleOfferMessage :: sampleLoanCalls ++ [sampleOfferMessage]) h ∧
      h.created = [7, 7] ∧ h.reused = [7] ∧ ¬ h.created.Nodup := by
  refine ⟨_, sampleReplay_run _, ?_⟩
  decide +kernel

end OfferHistory

end P2PLending.Manager
