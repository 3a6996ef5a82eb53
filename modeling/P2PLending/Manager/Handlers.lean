import P2PLending.Foundation.Handler
import P2PLending.Manager.ContractUpdater
import P2PLending.Dlc.Signing

/-! The manager's handlers for the messages of a loan. Everything outside the
manager answers as an environment says; what a handler stored, broadcast or sent
to the lending contract before it failed stays done. -/

namespace P2PLending.Manager
open Dlc Checked

/-- Answers of the store, the wallet, the node, the process environment and the
lending contract while one message is handled. -/
structure Environment where
  readStore : Except Error Unit
  writeStore : Except Error Unit
  parsesEvmKey : String → Bool
  citreaRpc : Option String
  connects : String → Bool
  lendingContractAddress : Option String
  parseChecksummed : String → Option ℕ
  acceptsLendStable : (contract : ℕ) → (borrowerHash : Bytes32) → (collateralSat : ℕ) → Bool
  receiptError : Option String
  stableLoanPreimage : (contract : ℕ) → (borrowerHash : Bytes32) → Option Uint128
  deriveContractSigner : KeysId → Except Error ContractSigner
  decodeTransaction : Bytes → Option Transaction
  sendTransaction : Transaction → Except Error Unit
  getTransaction : (txid : Bytes32) → Option Transaction
  getTransactionConfirmations : (txid : Bytes32) → ℕ
  getNetwork : Except Error Unit
  importAddress : (script : Bytes) → Except Error Unit

/-- The number of confirmations after which a transaction counts as final. -/
def nbConfirmations : ℕ := 6

/-- An answer that fails without a panic. -/
def answered {α : Type} : Except Error α → Result α
  | .ok a => .ok a
  | .error e => .error (.err e)

@[simp] theorem answered_eq_ok {α : Type} {r : Except Error α} {a : α} :
    answered r = .ok a ↔ r = .ok a := by
  cases r <;> simp [answered]

/-- What a node keeps and has sent: `lent` are the `lendStable` calls and
`broadcast` the Bitcoin transactions, in order. -/
structure Node (D : Descriptors) where
  store : Store D
  lent : List (Bytes32 × ℕ)
  broadcast : List Transaction

variable {D : Descriptors}

abbrev Handling (D : Descriptors) := Handler (Node D) (Fault Error)

section Stages
variable (env : Environment)

def getContractInOfferedLoan (id : ContractId) (peer : PublicKey) (node : Node D) :
    Result (OfferedLoanContract D) := do
  answered env.readStore
  node.store.getOfferedLoan id (some peer)

/-- The connection to the lending contract. -/
def lendingContract : Result ℕ := do
  let citreaRpcUrl ← env.citreaRpc.elim (.error (.err (.invalidParameters
    "CITREA_RPC environment variable not set"))) .ok
  ensure (env.connects citreaRpcUrl = true) (.panic unwrapPanic)
  let address ← env.lendingContractAddress.elim (.error (.err (.invalidParameters
    "LENDING_CONTRACT_ADDRESS environment variable not set"))) .ok
  (env.parseChecksummed address).elim (.error (.panic unwrapPanic)) .ok

variable (C : Crypto)

def storeContract (c : Contract D) : Handling D Unit := do
  let store ← Handler.read fun node => node.store.updateContract C c
  Handler.lift (answered env.writeStore)
  Handler.modify fun node => { node with store }

def sendTransaction (tx : Transaction) : Handling D Unit := do
  Handler.lift (answered (env.sendTransaction tx))
  Handler.modify fun node => { node with broadcast := node.broadcast ++ [tx] }

/-- `accept_fail_on_error`. -/
def acceptFailOnError {α : Type} (offeredContract : OfferedContract D) (acceptMessage : AcceptDlc)
    (e : Error) : Handling D α := do
  storeContract env C (.failedAccept { offeredContract, acceptMessage, errorMessage := e })
  Handler.lift (.error (.err e))

/-- Whatever a function of the node says, it says the same before and after. -/
def Same {β : Type} (f : Node D → β) (before after : Node D) : Prop := f after = f before

instance {β : Type} (f : Node D → β) : Std.Refl (Same f) := ⟨fun _ => rfl⟩

instance {β : Type} (f : Node D → β) : IsTrans (Node D) (Same f) :=
  ⟨fun _ _ _ first next => Eq.trans next first⟩

theorem storeContract_same {β : Type} {f : Node D → β}
    (frame : ∀ node store, f { node with store } = f node) (c : Contract D) :
    (storeContract env C c).Keeps (Same f) := by
  refine Handler.keeps_bind (Handler.keeps_read _) ?_
  intro store
  refine Handler.keeps_bind (Handler.keeps_lift _) ?_
  intro _ node
  exact frame node store

theorem acceptFailOnError_same {α β : Type} {f : Node D → β}
    (frame : ∀ node store, f { node with store } = f node) (offered : OfferedContract D)
    (acceptMessage : AcceptDlc) (e : Error) :
    (acceptFailOnError env C offered acceptMessage e : Handling D α).Keeps (Same f) := by
  refine Handler.keeps_bind (storeContract_same env C frame _) ?_
  exact fun _ => Handler.keeps_lift _

end Stages

/-! The lender's answer to the borrower's first acceptance. -/

section InitiateAccept
variable (env : Environment) (msg : InitiateAcceptLoanDlc) (counterParty : PublicKey)
  (evmPk : String)

/-- The call that the handler sends: its contract, hash and amount in satoshi. -/
def lendStableCall (node : Node D) : Result (ℕ × Bytes32 × ℕ) := do
  ensure (env.parsesEvmKey evmPk = true) (.err (.invalidParameters "Invalid EVM private key"))
  let offered ← getContractInOfferedLoan env msg.contractId counterParty node
  let contract ← lendingContract env
  .ok (contract, msg.borrowerHash, offered.offeredContract.totalCollateral)

def onInitiateAcceptLoanMessage : Handling D Unit := do
  let (contract, borrowerHash, collateralSat) ← Handler.read
    (lendStableCall env msg counterParty evmPk)
  Handler.lift (ensure (env.acceptsLendStable contract borrowerHash collateralSat = true)
    (.err (.blockchainError "Failed to send lendStable transaction")))
  Handler.modify fun node => { node with lent := node.lent ++ [(borrowerHash, collateralSat)] }
  Handler.lift (env.receiptError.elim (.ok ()) fun e =>
    .error (.err (.blockchainError s!"Failed to get transaction receipt: {e}")))

end InitiateAccept

/-- `converted` is the offer after its validation and conversion. -/
def onOfferLoanMessage (env : Environment) (converted : Result (OfferedLoanContract D)) :
    Handling D Unit := do
  let contract ← Handler.lift converted
  Handler.read fun node => do
    answered env.readStore
    ensure ((node.store contract.offeredContract.id).isNone = true)
      (.err (.invalidParameters "Contract with identical id already exists"))
  Handler.lift (answered env.writeStore)
  Handler.modify fun node => { node with store := node.store.createLoanContract contract }

/-! The lender's answer to the borrower's final acceptance. -/

section AcceptLoan
variable (env : Environment) (C : Crypto) (msg : AcceptLoanDlc) (counterParty : PublicKey)

/-- Assignment to an element of a vector. -/
def setItem {α : Type} (l : List α) (i : ℕ) (a : α) : Result (List α) :=
  if i < l.length then .ok (l.set i a) else .error (.panic "index out of bounds")

/-- What the handler collects before it looks at the transaction: the stored
offer, the preimage that the lending contract shows and the lender's key. -/
def loanGates (node : Node D) : Result (OfferedLoanContract D × Uint128 × SecretKey) := do
  let offered ← getContractInOfferedLoan env msg.temporaryContractId counterParty node
  let signer ← answered (env.deriveContractSigner offered.offeredContract.keysId)
  let _ ← unwrap signer.publicKey
  let contract ← lendingContract env
  let borrowerPreimage ← (env.stableLoanPreimage contract msg.borrowerHash).elim
    (.error (.panic unwrapPanic)) .ok
  let sk ← unwrap signer.secretKey
  .ok (offered, borrowerPreimage, sk)

/-- The collateral transaction with the lender's signature and the borrower's
preimage, which is what the handler broadcasts. -/
def signCollateral (node : Node D) : Result (OfferedLoanContract D × Transaction) := do
  let (offered, borrowerPreimage, sk) ← loanGates env msg counterParty node
  let lenderSignature ← unwrap (ofDlc (getSigForTxInput C msg.signedEscrowSpendTx 0 msg.escrowSpk
    msg.escrowAmount sk))
  let input ← index msg.signedEscrowSpendTx.input 0
  let witness ← setItem input.witness 0 lenderSignature
  let witness ← setItem witness 1 borrowerPreimage.toBeBytes
  .ok (offered, msg.signedEscrowSpendTx.setWitness 0 witness)

/-- The handler's steps after the broadcast. -/
def recordAcceptedLoan (offered : OfferedLoanContract D) (collateralTx : Transaction) :
    Handling D SignDlc := do
  match verifyAcceptedAndSignLoanContract C env.decodeTransaction
      (fun keysId => answered (env.deriveContractSigner keysId)) offered.offeredContract
      msg.toAcceptDlc collateralTx msg.collateralSpk with
  | .error (.panic message) => Handler.lift (.error (.panic message))
  | .error (.err e) => acceptFailOnError env C offered.offeredContract msg.toAcceptDlc e
  | .ok (signedContract, signedMsg) => do
      Handler.lift (answered env.getNetwork)
      Handler.lift (answered
        (env.importAddress signedContract.acceptedContract.dlcTransactions.fundingScriptPubkey))
      storeContract env C (.signed signedContract)
      pure signedMsg

/-- The transaction is broadcast before anything of the message is verified. -/
def onAcceptLoanMessage : Handling D SignDlc := do
  let (offered, collateralTx) ← Handler.read (signCollateral env C msg counterParty)
  sendTransaction env collateralTx
  recordAcceptedLoan env C msg offered collateralTx

theorem recordAcceptedLoan_same {β : Type} {f : Node D → β}
    (frame : ∀ node store, f { node with store } = f node) (offered : OfferedLoanContract D)
    (collateralTx : Transaction) :
    (recordAcceptedLoan env C msg offered collateralTx).Keeps (Same f) := by
  unfold recordAcceptedLoan
  split
  · exact Handler.keeps_lift _
  · exact acceptFailOnError_same env C frame _ _ _
  · refine Handler.keeps_bind (Handler.keeps_lift _) ?_
    intro _
    refine Handler.keeps_bind (Handler.keeps_lift _) ?_
    intro _
    refine Handler.keeps_bind (storeContract_same env C frame _) ?_
    exact fun _ => Handler.keeps_pure _

end AcceptLoan

/-! A lender's node with one loan offer, where everything outside answers. -/

def sampleEnvironment : Environment where
  readStore := .ok ()
  writeStore := .ok ()
  parsesEvmKey _ := true
  citreaRpc := some "https://rpc.testnet.citrea.xyz"
  connects _ := true
  lendingContractAddress := some "0x5FbDB2315678afecb367f032d93F642f64180aa3"
  parseChecksummed _ := some 0x5FbDB2315678afecb367f032d93F642f64180aa3
  acceptsLendStable _ _ _ := true
  receiptError := none
  stableLoanPreimage _ _ := some 0
  deriveContractSigner _ := .ok ⟨.ok sampleKey₁, .ok 1⟩
  decodeTransaction _ := none
  sendTransaction _ := .ok ()
  getTransaction _ := none
  getTransactionConfirmations _ := 0
  getNetwork := .ok ()
  importAddress _ := .ok ()

def sampleEvmKey : String := "0xac0974bec39a17e36ba4a6b4d238ff944bacb478cbed5efcae784d7bf4f2ff80"

/-- A lender's parameters: no inputs and no collateral. -/
def sampleLender : PartyParams where
  fundPubkey := sampleKey₁
  changeScriptPubkey := sampleSpk₁
  changeSerialId := 0
  payoutScriptPubkey := sampleSpk₁
  payoutSerialId := 1
  inputs := []
  inputAmount := 0
  collateral := 0

def sampleLoanOffer : OfferedLoanContract sampleDescriptors where
  offeredContract := {
    id := 7
    isOfferParty := true
    contractInfo := [[⟨100000000, 0⟩, ⟨0, 100000000⟩]]
    counterParty := sampleKey₂
    offerParams := sampleLender
    totalCollateral := 100000000
    fundingInputs := []
    fundOutputSerialId := 0
    feeRatePerVb := 1
    cetLocktime := 10
    refundLocktime := 100
    keysId := 3 }
  collateralRatio := 150
  liquidationRatio := 125
  interestRate := 10
  duration := 31536000
  lenderHash := 5

def sampleNode : Node sampleDescriptors where
  store id := if id = 7 then some (.offeredLoan sampleLoanOffer) else none
  lent := []
  broadcast := []

end P2PLending.Manager
