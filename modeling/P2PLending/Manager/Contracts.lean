import P2PLending.Dlc.Funding

/-! The manager's contracts, its messages for loans and its contract store. What
a descriptor computes over payout curves and tries is a parameter of every
record. The store keeps one record per key and moves an accepted or signed
contract from its temporary id to its contract id. -/

namespace P2PLending.Manager
open Dlc

abbrev ContractId := Bytes32
abbrev KeysId := Bytes32

/-- The manager's errors, with their texts where the manager writes them. -/
inductive Error
  | conversion
  | ioError
  | deserialize
  | invalidParameters (message : String)
  | invalidState (message : String)
  | walletError
  | blockchainError (message : String)
  | storageError (message : String)
  | oracleError (message : String)
  | dlcError (e : Dlc.Error)
  | secpError
  | outOfRange
  deriving DecidableEq, Repr

abbrev Result (α : Type) := Except (Fault Error) α

variable {α : Type}

/-- The `?` on a result of the `dlc` crate. -/
def ofDlc : Dlc.Result α → Result α
  | .ok a => .ok a
  | .error (.err e) => .error (.err (.dlcError e))
  | .error (.panic message) => .error (.panic message)

/-- `unwrap` of a result. -/
def unwrap : Result α → Result α
  | .ok a => .ok a
  | .error _ => .error (.panic unwrapPanic)

/-- `unwrap` of an option. -/
def unwrapSome : Option α → Result α
  | some a => .ok a
  | none => .error (.panic "called `Option::unwrap()` on a `None` value")

/-- Indexing a vector. -/
def index (l : List α) (i : ℕ) : Result α :=
  match l[i]? with
  | some a => .ok a
  | none => .error (.panic "index out of bounds")

@[simp] theorem ofDlc_eq_ok {r : Dlc.Result α} {a : α} : ofDlc r = .ok a ↔ r = .ok a := by
  match r with
  | .ok b => simp [ofDlc]
  | .error (.err e) => simp [ofDlc]
  | .error (.panic message) => simp [ofDlc]

@[simp] theorem unwrap_eq_ok {r : Result α} {a : α} : unwrap r = .ok a ↔ r = .ok a := by
  cases r <;> simp [unwrap]

@[simp] theorem unwrapSome_eq_ok {o : Option α} {a : α} :
    unwrapSome o = .ok a ↔ o = some a := by
  cases o <;> simp [unwrapSome]

@[simp] theorem index_eq_ok {l : List α} {i : ℕ} {a : α} :
    index l i = .ok a ↔ l[i]? = some a := by
  unfold index
  split <;> simp_all

/-- Where the CET and the adaptor signature of an outcome stand. -/
structure RangeInfo where
  cetIndex : ℕ
  adaptorIndex : ℕ
  deriving DecidableEq, Repr

structure ContractSigner where
  publicKey : Result PublicKey
  secretKey : Result SecretKey

/-- Contract infos and what the manager computes from them. -/
structure Descriptors where
  ContractInfo : Type
  AdaptorInfo : Type
  OracleAttestation : Type
  validate : ContractInfo → Result Unit
  getPayouts : ContractInfo → (totalCollateral : ℕ) → Result (List Payout)
  verifyAndGetAdaptorInfo : ContractInfo → (totalCollateral : ℕ) → (fundPubkey : PublicKey) →
    (fundingScriptPubkey : Bytes) → (fundOutputValue : ℕ) → (cets : List Transaction) →
    (adaptorSigs : List AdaptorSignature) → (adaptorSigStart : ℕ) → Result (AdaptorInfo × ℕ)
  getAdaptorInfo : ContractInfo → (totalCollateral : ℕ) → (fundPrivKey : SecretKey) →
    (fundingScriptPubkey : Bytes) → (fundOutputValue : ℕ) → (cets : List Transaction) →
    (adaptorIndexStart : ℕ) → Result (AdaptorInfo × List AdaptorSignature)
  getAdaptorSignatures : ContractInfo → AdaptorInfo → ContractSigner →
    (fundingScriptPubkey : Bytes) → (fundOutputValue : ℕ) → (cets : List Transaction) →
    Result (List AdaptorSignature)
  getRangeInfoAndOracleSigs : ContractInfo → AdaptorInfo → List (ℕ × OracleAttestation) →
    Result (RangeInfo × List (List OracleSignature))

/-- Enumerated contracts, by their payouts, that no oracle has attested. -/
def sampleDescriptors : Descriptors where
  ContractInfo := List Payout
  AdaptorInfo := Unit
  OracleAttestation := Unit
  validate _ := .ok ()
  getPayouts payouts _ := .ok payouts
  verifyAndGetAdaptorInfo _ _ _ _ _ cets _ start := .ok ((), start + cets.length)
  getAdaptorInfo _ _ _ _ _ _ _ := .ok ((), [])
  getAdaptorSignatures _ _ _ _ _ _ := .ok []
  getRangeInfoAndOracleSigs _ _ _ :=
    .error (.err (.invalidState "Could not find closing info for given outcomes"))

structure FundingInput where
  inputSerialId : ℕ
  prevTx : Bytes
  prevTxVout : ℕ
  sequence : ℕ
  maxWitnessLen : ℕ
  redeemScript : Bytes
  deriving DecidableEq, Repr

structure OfferedContract (D : Descriptors) where
  id : ContractId
  isOfferParty : Bool
  contractInfo : List D.ContractInfo
  counterParty : PublicKey
  offerParams : PartyParams
  totalCollateral : ℕ
  fundingInputs : List FundingInput
  fundOutputSerialId : ℕ
  feeRatePerVb : ℕ
  cetLocktime : ℕ
  refundLocktime : ℕ
  keysId : KeysId

structure OfferedLoanContract (D : Descriptors) where
  offeredContract : OfferedContract D
  collateralRatio : ℕ
  liquidationRatio : ℕ
  interestRate : ℕ
  duration : ℕ
  lenderHash : Bytes32

/-- The sums are compared one after the other, up to the first that differs. -/
def payoutsSumTo (totalCollateral : ℕ) : List Payout → Result Bool
  | [] => .ok true
  | p :: payouts => do
      let sum ← ofDlc (amountAdd p.accept p.offer)
      if sum = totalCollateral then payoutsSumTo totalCollateral payouts else .ok false

/-- `validate_fee_rate` with the manager's text. -/
def validateFeeRate (feeRate : ℕ) (message : String) : Result Unit :=
  Checked.ensure (feeRate ≤ 25 * 250) (.err (.invalidParameters message))

def OfferedContract.validate {D : Descriptors} (c : OfferedContract D) : Result Unit := do
  validateFeeRate c.feeRatePerVb "Fee rate is too high"
  c.contractInfo.forM fun info => do
    D.validate info
    let payouts ← D.getPayouts info c.totalCollateral
    let valid ← payoutsSumTo c.totalCollateral payouts
    Checked.ensure (valid = true)
      (.err (.invalidParameters "Sum of payout doesn't equal total collateral"))

def OfferedLoanContract.validate {D : Descriptors} (c : OfferedLoanContract D) : Result Unit := do
  c.offeredContract.validate
  Checked.ensure (c.liquidationRatio < c.collateralRatio)
    (.err (.invalidParameters "Collateral ratio must be greater than liquidation ratio"))

structure AcceptedContract (D : Descriptors) where
  offeredContract : OfferedContract D
  acceptParams : PartyParams
  fundingInputs : List FundingInput
  adaptorInfos : List D.AdaptorInfo
  adaptorSignatures : Option (List AdaptorSignature)
  acceptRefundSignature : Signature
  dlcTransactions : DlcTransactions

abbrev FundingSignatures := List (List Bytes)

structure SignedContract (D : Descriptors) where
  acceptedContract : AcceptedContract D
  adaptorSignatures : Option (List AdaptorSignature)
  offerRefundSignature : Signature
  fundingSignatures : FundingSignatures
  channelId : Option Bytes32

structure AcceptDlc where
  temporaryContractId : ContractId
  acceptCollateral : ℕ
  fundingPubkey : PublicKey
  payoutSpk : Bytes
  payoutSerialId : ℕ
  fundingInputs : List FundingInput
  changeSpk : Bytes
  changeSerialId : ℕ
  cetAdaptorSignatures : List AdaptorSignature
  refundSignature : Signature
  deriving DecidableEq, Repr

structure AcceptLoanDlc extends AcceptDlc where
  escrowTxid : Bytes32
  borrowerHash : Bytes32
  signedEscrowSpendTx : Transaction
  escrowAmount : ℕ
  escrowSpk : Bytes
  collateralSpk : Bytes
  deriving DecidableEq, Repr

structure InitiateAcceptLoanDlc where
  contractId : ContractId
  borrowerHash : Bytes32
  escrowTxid : Bytes32
  deriving DecidableEq, Repr

structure SignDlc where
  contractId : ContractId
  cetAdaptorSignatures : List AdaptorSignature
  refundSignature : Signature
  fundingSignatures : FundingSignatures
  deriving DecidableEq, Repr

structure FailedAcceptContract (D : Descriptors) where
  offeredContract : OfferedContract D
  acceptMessage : AcceptDlc
  errorMessage : Error

structure FailedSignContract (D : Descriptors) where
  acceptedContract : AcceptedContract D
  signMessage : SignDlc
  errorMessage : Error

structure PreClosedContract (D : Descriptors) where
  signedContract : SignedContract D
  signedCet : Transaction

structure ClosedContract where
  signedCet : Option Transaction
  contractId : ContractId
  temporaryContractId : ContractId
  counterPartyId : PublicKey

inductive Contract (D : Descriptors)
  | offered (c : OfferedContract D)
  | offeredLoan (c : OfferedLoanContract D)
  | offeredLoanEscrowConfirmed (c : OfferedLoanContract D)
  | accepted (c : AcceptedContract D)
  | signed (c : SignedContract D)
  | confirmed (c : SignedContract D)
  | preClosed (c : PreClosedContract D)
  | closed (c : ClosedContract)
  | refunded (c : SignedContract D)
  | failedAccept (c : FailedAcceptContract D)
  | failedSign (c : FailedSignContract D)
  | rejected (c : OfferedContract D)

/-- The id of a contract: its funding transaction mixed with the temporary id. -/
def computeId (fundTxId : Bytes32) (fundOutputIndex : ℕ) (temporaryId : ContractId) : ContractId :=
  let mixed := List.zipWith (· ^^^ ·) fundTxId.toBytes.reverse temporaryId.toBytes
  let position := List.replicate 30 0 ++ beBytes 2 fundOutputIndex
  Fin.ofNat _ (beValue (List.zipWith (· ^^^ ·) mixed position))

variable {D : Descriptors} (C : Crypto)

def AcceptedContract.getContractId (c : AcceptedContract D) : Result ContractId :=
  match getOutputForScriptPubkey c.dlcTransactions.fund
      (toP2wsh C c.dlcTransactions.fundingScriptPubkey) with
  | some (fundOutputIndex, _) =>
      .ok (computeId (c.dlcTransactions.fund.computeTxid C) fundOutputIndex c.offeredContract.id)
  | none => .error (.panic "called `Option::unwrap()` on a `None` value")

namespace Contract

def getId : Contract D → Result ContractId
  | .offered o | .rejected o => .ok o.id
  | .offeredLoan o | .offeredLoanEscrowConfirmed o => .ok o.offeredContract.id
  | .accepted o => o.getContractId C
  | .signed o | .confirmed o | .refunded o => o.acceptedContract.getContractId C
  | .failedAccept c => .ok c.offeredContract.id
  | .failedSign c => c.acceptedContract.getContractId C
  | .preClosed c => c.signedContract.acceptedContract.getContractId C
  | .closed c => .ok c.contractId

def getTemporaryId : Contract D → ContractId
  | .offered o | .rejected o => o.id
  | .offeredLoan o | .offeredLoanEscrowConfirmed o => o.offeredContract.id
  | .accepted o => o.offeredContract.id
  | .signed o | .confirmed o | .refunded o => o.acceptedContract.offeredContract.id
  | .failedAccept c => c.offeredContract.id
  | .failedSign c => c.acceptedContract.offeredContract.id
  | .preClosed c => c.signedContract.acceptedContract.offeredContract.id
  | .closed c => c.temporaryContractId

def getCounterPartyId : Contract D → PublicKey
  | .offered o | .rejected o => o.counterParty
  | .offeredLoan o | .offeredLoanEscrowConfirmed o => o.offeredContract.counterParty
  | .accepted a => a.offeredContract.counterParty
  | .signed s | .confirmed s | .refunded s => s.acceptedContract.offeredContract.counterParty
  | .preClosed c => c.signedContract.acceptedContract.offeredContract.counterParty
  | .closed c => c.counterPartyId
  | .failedAccept f => f.offeredContract.counterParty
  | .failedSign f => f.acceptedContract.offeredContract.counterParty

def state : Contract D → String
  | .offered _ => "offered"
  | .offeredLoan _ => "offered loan"
  | .offeredLoanEscrowConfirmed _ => "offered loan escrow confirmed"
  | .accepted _ => "accepted"
  | .signed _ => "signed"
  | .confirmed _ => "confirmed"
  | .preClosed _ => "pre-closed"
  | .closed _ => "closed"
  | .refunded _ => "refunded"
  | .failedAccept _ => "failed accept"
  | .failedSign _ => "failed sign"
  | .rejected _ => "rejected"

end Contract

/-- The contract tree of the store. -/
abbrev Store (D : Descriptors) := ContractId → Option (Contract D)

namespace Store
variable (store : Store D)

def insert (id : ContractId) (c : Contract D) : Store D := Function.update store id (some c)

def remove (id : ContractId) : Store D := Function.update store id none

def createLoanContract (c : OfferedLoanContract D) : Store D :=
  store.insert c.offeredContract.id (.offeredLoan c)

/-- `update_contract`: one transaction of the tree. -/
def updateContract (c : Contract D) : Result (Store D) := do
  let id ← c.getId C
  match c with
  | .accepted _ | .signed _ => .ok ((store.remove c.getTemporaryId).insert id c)
  | _ => .ok (store.insert id c)

/-- `get_contract_in_state!` for the state `OfferedLoan`. The text about the peer is
without the formatted key and id. -/
def getOfferedLoan (id : ContractId) (peer : Option PublicKey) :
    Result (OfferedLoanContract D) :=
  match store id with
  | none => .error (.err (.invalidParameters "Unknown Contract id."))
  | some c =>
      if peer.any (· ≠ c.getCounterPartyId) then
        .error (.err (.invalidParameters "Peer is not involved with Contract."))
      else match c with
        | .offeredLoan o => .ok o
        | c => .error (.err (.invalidState
            s!"Invalid state Contract \x7b state: \"{c.state}\" \x7d expected OfferedLoan."))

theorem getOfferedLoan_ok {store : Store D} {id : ContractId} {peer : PublicKey}
    {c : OfferedLoanContract D} (h : store.getOfferedLoan id (some peer) = .ok c) :
    store id = some (.offeredLoan c) ∧ c.offeredContract.counterParty = peer := by
  unfold getOfferedLoan at h
  split at h
  · cases h
  · rename_i stored found
    by_cases involved : peer = stored.getCounterPartyId
    · rw [if_neg (by simp [involved])] at h
      cases stored with
      | offeredLoan o =>
          cases h
          exact ⟨found, involved.symm⟩
      | _ => cases h
    · rw [if_pos (by simp [involved])] at h
      cases h

end Store

end P2PLending.Manager
