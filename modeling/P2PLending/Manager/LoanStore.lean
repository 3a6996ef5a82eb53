import P2PLending.Manager.Handlers

/-! The store's trees for loans and what a borrower has done outside its store: the
escrows it has broadcast, the claims it has sent and the loans it has moved on. -/

namespace P2PLending.Manager
open Dlc

variable {D : Descriptors}

/-- The contracts, the preimages and the escrow transactions, by contract id. -/
structure LoanStore (D : Descriptors) where
  contracts : Store D
  loanPreimage : ContractId → Option Uint128
  escrowTxid : ContractId → Option Bytes32

namespace LoanStore
variable (store : LoanStore D)

def setLoanPreimage (id : ContractId) (preimage : Uint128) : LoanStore D :=
  { store with loanPreimage := Function.update store.loanPreimage id (some preimage) }

def setEscrowTxid (id : ContractId) (txid : Bytes32) : LoanStore D :=
  { store with escrowTxid := Function.update store.escrowTxid id (some txid) }

end LoanStore

/-- A write to one of the trees: done, or failed without effect. -/
def written (answer : Except Error Unit) (store store' : LoanStore D) : LoanStore D :=
  match answer with
  | .ok _ => store'
  | .error _ => store

section Written
variable (answer : Except Error Unit) (store : LoanStore D) (id : ContractId)

@[simp] theorem written_setLoanPreimage_escrowTxid (preimage : Uint128) :
    (written answer store (store.setLoanPreimage id preimage)).escrowTxid = store.escrowTxid := by
  cases answer with
  | ok => rfl
  | error => rfl

@[simp] theorem written_setEscrowTxid_loanPreimage (txid : Bytes32) :
    (written answer store (store.setEscrowTxid id txid)).loanPreimage = store.loanPreimage := by
  cases answer with
  | ok => rfl
  | error => rfl

theorem written_setLoanPreimage (preimage : Uint128) (other : ContractId) :
    (written answer store (store.setLoanPreimage id preimage)).loanPreimage other =
      if other = id ∧ answer = .ok () then some preimage else store.loanPreimage other := by
  cases answer with
  | ok => simp [written, LoanStore.setLoanPreimage, Function.update_apply]
  | error => simp [written]

theorem written_setEscrowTxid (txid : Bytes32) (other : ContractId) :
    (written answer store (store.setEscrowTxid id txid)).escrowTxid other =
      if other = id ∧ answer = .ok () then some txid else store.escrowTxid other := by
  cases answer with
  | ok => simp [written, LoanStore.setEscrowTxid, Function.update_apply]
  | error => simp [written]

end Written

/-- A broadcast escrow: the offer, the transaction and the drawn preimage. -/
structure SentEscrow where
  contractId : ContractId
  tx : Transaction
  borrowerPreimage : Uint128
  deriving DecidableEq, Repr

/-- A `claimStable` call: the loan, its collateral and the recorded amount. -/
structure Claim where
  contractId : ContractId
  borrowerPreimage : Uint128
  agreed : ℕ
  recorded : ℕ
  deriving DecidableEq, Repr

/-- A borrower's store, the escrows and the calls it has sent and the loans it has
moved to `OfferedLoanEscrowConfirmed`, in order. -/
structure Borrower (D : Descriptors) where
  store : LoanStore D
  escrows : List SentEscrow
  claimed : List Claim
  escrowConfirmed : List Claim

def Borrower.start (store : LoanStore D) : Borrower D := ⟨store, [], [], []⟩

end P2PLending.Manager
