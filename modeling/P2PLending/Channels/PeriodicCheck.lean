import P2PLending.Channels.ChannelHub
import P2PLending.Channels.ContractChecks
import P2PLending.Manager.EscrowCheck

/-! The whole periodic check: the loan offers, the contracts and the channels. The first
error at a loan offer ends the check; later errors of contracts are logged. -/

namespace P2PLending.Manager.Channels
open Dlc Checked

/-- The manager's store, its dealings with the lending contract, and what it has sent for
each contract and for its channels. -/
structure Office (X : ChannelCrypto) (D : Descriptors) where
  borrower : Borrower D
  sent : List (ContractId × Transaction)
  channels : List (ChannelRecord X)
  keyed : (channels.map ChannelRecord.getId).Nodup
  chainMonitor : ChainMonitor
  persistedChainMonitor : ChainMonitor
  channelsSent : List Sent

abbrev OfficeHandler (X : ChannelCrypto) (D : Descriptors) := Handler (Office X D) (Fault Error)

namespace Office
variable {X : ChannelCrypto} {D : Descriptors}

def contracts (o : Office X D) : Store D := o.borrower.store.contracts

def putContracts (o : Office X D) (contracts : Store D) : Office X D :=
  { o with borrower := { o.borrower with store := { o.borrower.store with contracts } } }

def hub (o : Office X D) : Hub X D where
  channels := o.channels
  keyed := o.keyed
  contracts := o.contracts
  chainMonitor := o.chainMonitor
  persistedChainMonitor := o.persistedChainMonitor
  sent := o.channelsSent

def onBorrower (m : Handler (Borrower D) (Fault Error) Unit) : OfficeHandler X D Unit := fun o =>
  ((m o.borrower).1, { o with borrower := (m o.borrower).2 })

/-- What is sent for a contract is kept under its id. -/
def onDesk (id : ContractId) (m : DeskHandler D Unit) : OfficeHandler X D Unit := fun o =>
  ((m ⟨o.contracts, []⟩).1,
    { o.putContracts (m ⟨o.contracts, []⟩).2.contracts with
      sent := o.sent ++ (m ⟨o.contracts, []⟩).2.sent.map (Prod.mk id) })

def onHub (m : HubHandler X D Unit) : OfficeHandler X D Unit := fun o =>
  ((m o.hub).1,
    { o.putContracts (m o.hub).2.contracts with
      channels := (m o.hub).2.channels
      keyed := (m o.hub).2.keyed
      chainMonitor := (m o.hub).2.chainMonitor
      persistedChainMonitor := (m o.hub).2.persistedChainMonitor
      channelsSent := (m o.hub).2.sent })

end Office

/-- A loop over the stored contracts of a kind. -/
structure Stage (X : ChannelCrypto) (D : Descriptors) where
  Kind : Type
  pick : Contract D → Option Kind
  handle : ContractId → Kind → OfficeHandler X D Unit

namespace Stage
variable {X : ChannelCrypto} {D : Descriptors} (S : Stage X D)

/-- The contracts of the kind, in the order of the tree. -/
def listed (keys : List ContractId) (o : Office X D) : List (ContractId × S.Kind) :=
  keys.filterMap fun id => ((o.contracts id).bind S.pick).map (Prod.mk id)

def loop (keys : List ContractId) : OfficeHandler X D Unit := fun o =>
  Handler.forEach (fun entry => S.handle entry.1 entry.2) (S.listed keys o) o

/-- The loop as far as it concerns one contract. -/
def turn (id : ContractId) : OfficeHandler X D Unit := fun o =>
  match (o.contracts id).bind S.pick with
  | some c => S.handle id c o
  | none => (.ok (), o)

end Stage

def Contract.offeredLoan? {D : Descriptors} : Contract D → Option (OfferedLoanContract D)
  | .offeredLoan c => some c
  | _ => none

def Contract.signed? {D : Descriptors} : Contract D → Option (SignedContract D)
  | .signed c => some c
  | _ => none

def Contract.preClosed? {D : Descriptors} : Contract D → Option (PreClosedContract D)
  | .preClosed c => some c
  | _ => none

/-- The answers of one periodic check, and the keys of the contract tree in its order. -/
structure Round (D : Descriptors) extends CheckAnswers D where
  poll : Poll D
  keys : List ContractId

section Source
variable (X : ChannelCrypto) (signer : Signer) {E : SigningDescriptors}
  (round : Round E.toDescriptors)

def offers : Stage X E.toDescriptors where
  Kind := OfferedLoanContract E.toDescriptors
  pick := Contract.offeredLoan?
  handle _ c := Office.onBorrower
    (checkOffer (round.poll.answers c.offeredContract.id) X.toCrypto c)

def signedContracts : Stage X E.toDescriptors where
  Kind := SignedContract E.toDescriptors
  pick := Contract.signed?
  handle id c := Office.onDesk id
    (logErrors (Desk.checkSignedContract X.toCrypto round.toCheckAnswers c))

def confirmedContracts : Stage X E.toDescriptors where
  Kind := SignedContract E.toDescriptors
  pick := Contract.confirmed?
  handle id c := Office.onDesk id (Desk.checkConfirmed X.toCrypto signer round.toCheckAnswers c)

def preClosedContracts : Stage X E.toDescriptors where
  Kind := PreClosedContract E.toDescriptors
  pick := Contract.preClosed?
  handle id c := Office.onDesk id
    (logErrors (Desk.checkPreclosedContract X.toCrypto round.toCheckAnswers c))

/-- `check_offered_loan_contracts_for_escrow` with the offers of the store. -/
def checkLoanOffers (evmPk : String) : OfficeHandler X E.toDescriptors Unit := fun o =>
  Office.onBorrower (checkOfferedLoanContractsForEscrow X.toCrypto
    { round.poll with
      loanContractOffers := .ok (((offers X round).listed round.keys o).map Prod.snd) } evmPk) o

def checkContracts (evmPk : String) : OfficeHandler X E.toDescriptors Unit := do
  checkLoanOffers X round evmPk
  (signedContracts X round).loop round.keys
  (confirmedContracts X signer round).loop round.keys
  (preClosedContracts X round).loop round.keys

def periodicCheck (withChannels : Bool) (evmPk : String) : OfficeHandler X E.toDescriptors Unit := do
  checkContracts X signer round evmPk
  if withChannels then Office.onHub (Hub.channelChecks X signer round.toEnvironment) else pure ()

end Source

end P2PLending.Manager.Channels
