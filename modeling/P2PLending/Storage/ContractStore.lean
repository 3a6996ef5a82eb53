import P2PLending.Dlc.Transactions
import P2PLending.Messages.Message
import P2PLending.Storage.Contracts

/-! The tree of contracts of the sled storage, with the writes of the manager and the queries for
the contracts of one state. A write does not look at what it writes; a query leaves out what it
cannot read. -/

namespace P2PLending.Storage

open Messages

/-- A tree of `sled`, in the order of its keys. -/
abbrev Tree (V : Type) := List (Bytes32 × V)

namespace Tree
variable {V W : Type}

def insert (key : Bytes32) (value : V) : Tree V → Tree V
  | [] => [(key, value)]
  | entry :: entries =>
      if key < entry.1 then (key, value) :: entry :: entries
      else if key = entry.1 then (key, value) :: entries
      else entry :: insert key value entries

def remove (key : Bytes32) (tree : Tree V) : Tree V := tree.filter fun entry => entry.1 ≠ key

def values (tree : Tree V) : List V := tree.map Prod.snd

def mapValues (f : V → W) (tree : Tree V) : Tree W := tree.map fun entry => (entry.1, f entry.2)

theorem insert_mapValues (f : V → W) (key : Bytes32) (value : V) (tree : Tree V) :
    insert key (f value) (mapValues f tree) = mapValues f (insert key value tree) := by
  induction tree with
  | nil => rfl
  | cons entry entries ih =>
      have mapped : mapValues f (entry :: entries) =
          (entry.1, f entry.2) :: mapValues f entries := rfl
      rw [mapped, insert, insert]
      split
      · rfl
      · split
        · rfl
        · rw [ih]
          rfl

theorem remove_mapValues (f : V → W) (key : Bytes32) (tree : Tree V) :
    remove key (mapValues f tree) = mapValues f (remove key tree) := by
  rw [remove, mapValues, List.filter_map]
  rfl

theorem values_mapValues (f : V → W) (tree : Tree V) :
    values (mapValues f tree) = (values tree).map f := by
  simp [values, mapValues]

end Tree

variable {P : Primitives}

inductive Contract (P : Primitives)
  | offered (c : OfferedContract P)
  | offeredLoan (c : OfferedLoanContract P)
  | offeredLoanEscrowConfirmed (c : OfferedLoanContract P)
  | accepted (c : AcceptedContract P)
  | signed (c : SignedContract P)
  | confirmed (c : SignedContract P)
  | preClosed (c : PreClosedContract P)
  | closed (c : ClosedContract P)
  | refunded (c : SignedContract P)
  | failedAccept (c : FailedAcceptContract P)
  | failedSign (c : FailedSignContract P)
  | rejected (c : OfferedContract P)

inductive ContractPrefix
  | offered
  | offeredLoan
  | offeredLoanEscrowConfirmed
  | accepted
  | signed
  | confirmed
  | preClosed
  | closed
  | failedAccept
  | failedSign
  | refunded
  | rejected
  deriving DecidableEq, Repr

inductive StorageError
  | ioError
  | unknownPrefix
  | decode (e : DecodeError)
  deriving DecidableEq, Repr

namespace ContractPrefix

def toByte : ContractPrefix → UInt8
  | offered => 1
  | offeredLoan => 2
  | offeredLoanEscrowConfirmed => 3
  | accepted => 4
  | signed => 5
  | confirmed => 6
  | preClosed => 7
  | closed => 8
  | failedAccept => 9
  | failedSign => 10
  | refunded => 11
  | rejected => 12

def all : List ContractPrefix :=
  [offered, offeredLoan, offeredLoanEscrowConfirmed, accepted, signed, confirmed, preClosed, closed,
    failedAccept, failedSign, refunded, rejected]

def tryFrom (v : UInt8) : Except StorageError ContractPrefix :=
  (all.find? fun p => v = p.toByte).elim (.error .unknownPrefix) .ok

def getPrefix : Contract P → ContractPrefix
  | .offered _ => offered
  | .offeredLoan _ => offeredLoan
  | .offeredLoanEscrowConfirmed _ => offeredLoanEscrowConfirmed
  | .accepted _ => accepted
  | .signed _ => signed
  | .confirmed _ => confirmed
  | .preClosed _ => preClosed
  | .closed _ => closed
  | .refunded _ => refunded
  | .failedAccept _ => failedAccept
  | .failedSign _ => failedSign
  | .rejected _ => rejected

theorem tryFrom_toByte (p : ContractPrefix) : tryFrom p.toByte = .ok p := by
  cases p <;> rfl

theorem toByte_inj {p q : ContractPrefix} : p.toByte = q.toByte ↔ p = q := by
  constructor
  · intro same
    have both := tryFrom_toByte p
    rw [same, tryFrom_toByte q] at both
    cases both
    rfl
  · rintro rfl
    rfl

end ContractPrefix

section Encoding
variable (L : TransactionReaders P)

/-- A contract without the byte of its state. -/
def payload : Contract P → Bytes
  | .offered o | .rejected o => OfferedContract.wire.write o
  | .offeredLoan o | .offeredLoanEscrowConfirmed o => OfferedLoanContract.wire.write o
  | .accepted o => AcceptedContract.wire.write o
  | .signed o | .confirmed o | .refunded o => SignedContract.wire.write o
  | .failedAccept c => FailedAcceptContract.wire.write c
  | .failedSign c => FailedSignContract.wire.write c
  | .preClosed c => PreClosedContract.wire.write c
  | .closed c => (ClosedContract.wire L).write c

def serializeContract (contract : Contract P) : Bytes :=
  (ContractPrefix.getPrefix contract).toByte :: payload L contract

def readPayload : ContractPrefix → Reading (Contract P)
  | .offered => Contract.offered <$> OfferedContract.wire.read
  | .offeredLoan => Contract.offeredLoan <$> OfferedLoanContract.wire.read
  | .offeredLoanEscrowConfirmed =>
      Contract.offeredLoanEscrowConfirmed <$> OfferedLoanContract.wire.read
  | .accepted => Contract.accepted <$> AcceptedContract.wire.read
  | .signed => Contract.signed <$> SignedContract.wire.read
  | .confirmed => Contract.confirmed <$> SignedContract.wire.read
  | .preClosed => Contract.preClosed <$> PreClosedContract.wire.read
  | .closed => Contract.closed <$> (ClosedContract.wire L).read
  | .failedAccept => Contract.failedAccept <$> FailedAcceptContract.wire.read
  | .failedSign => Contract.failedSign <$> FailedSignContract.wire.read
  | .refunded => Contract.refunded <$> SignedContract.wire.read
  | .rejected => Contract.rejected <$> OfferedContract.wire.read

/-- `deserialize`: what follows the record is not looked at. -/
def deserialize {T : Type} (r : Reading T) (bytes : Bytes) : Except DecodeError T :=
  (r.run bytes).map Prod.fst

def deserializeContract : Bytes → Except StorageError (Contract P)
  | [] => .error .ioError
  | byte :: bytes => do
      let contractPrefix ← ContractPrefix.tryFrom byte
      (deserialize (readPayload L contractPrefix) bytes).mapError .decode

end Encoding

namespace Contract

/-- What the lists, scripts and strings of a contract have to keep to. -/
def Fits : Contract P → Prop
  | offered c | rejected c => c.Fits
  | offeredLoan c | offeredLoanEscrowConfirmed c => c.Fits
  | accepted c => c.Fits
  | signed c | confirmed c | refunded c => c.Fits
  | preClosed c => c.Fits
  | closed c => c.Fits
  | failedAccept c => c.Fits
  | failedSign c => c.Fits

variable (L : TransactionReaders P)

theorem readPayload_reads {c : Contract P} (fits : c.Fits) :
    Reads (readPayload L (ContractPrefix.getPrefix c)) (payload L c) c := by
  cases c with
  | offered c => exact (OfferedContract.exact.roundTrips fits).map
  | rejected c => exact (OfferedContract.exact.roundTrips fits).map
  | offeredLoan c => exact (OfferedLoanContract.exact.roundTrips fits).map
  | offeredLoanEscrowConfirmed c => exact (OfferedLoanContract.exact.roundTrips fits).map
  | accepted c => exact ((AcceptedContract.exact L).roundTrips fits).map
  | signed c => exact ((SignedContract.exact L).roundTrips fits).map
  | confirmed c => exact ((SignedContract.exact L).roundTrips fits).map
  | refunded c => exact ((SignedContract.exact L).roundTrips fits).map
  | preClosed c => exact ((PreClosedContract.exact L).roundTrips fits).map
  | closed c => exact ((ClosedContract.exact L).roundTrips fits).map
  | failedAccept c => exact (FailedAcceptContract.exact.roundTrips fits).map
  | failedSign c => exact ((FailedSignContract.exact L).roundTrips fits).map

theorem readPayload_yields (p : ContractPrefix) : Yields (readPayload L p) Fits := by
  cases p with
  | offered => exact Yields.map OfferedContract.exact.yields
  | rejected => exact Yields.map OfferedContract.exact.yields
  | offeredLoan => exact Yields.map OfferedLoanContract.exact.yields
  | offeredLoanEscrowConfirmed => exact Yields.map OfferedLoanContract.exact.yields
  | accepted => exact Yields.map (AcceptedContract.exact L).yields
  | signed => exact Yields.map (SignedContract.exact L).yields
  | confirmed => exact Yields.map (SignedContract.exact L).yields
  | refunded => exact Yields.map (SignedContract.exact L).yields
  | preClosed => exact Yields.map (PreClosedContract.exact L).yields
  | closed => exact Yields.map (ClosedContract.exact L).yields
  | failedAccept => exact Yields.map FailedAcceptContract.exact.yields
  | failedSign => exact Yields.map (FailedSignContract.exact L).yields

/-- A contract comes back from its bytes just when it keeps to the limits. -/
theorem deserializeContract_iff (c : Contract P) :
    deserializeContract L (serializeContract L c) = .ok c ↔ c.Fits := by
  have read : deserializeContract L (serializeContract L c) =
      (deserialize (readPayload L (ContractPrefix.getPrefix c)) (payload L c)).mapError .decode := by
    rw [serializeContract, deserializeContract, ContractPrefix.tryFrom_toByte]
    rfl
  rw [read, deserialize]
  constructor
  · intro back
    cases result : (readPayload L (ContractPrefix.getPrefix c)).run (payload L c) with
    | error e =>
        rw [result] at back
        cases back
    | ok value =>
        rw [result] at back
        cases back
        exact readPayload_yields L _ _ _ _ result
  · intro fits
    have whole := readPayload_reads L fits []
    rw [List.append_nil] at whole
    rw [whole]
    rfl

end Contract

/-! The queries. -/

section Queries
variable {T : Type}

/-- What `get_data_with_prefix` makes of one value. -/
def selectWithPrefix (r : Reading T) (pre : Bytes) (consume : Option ℕ) (value : Bytes) :
    Except (Dlc.Fault StorageError) (Option T) :=
  if value.length < pre.length then .error (.panic "Error reading prefix")
  else if value.take pre.length = pre then
    -- the error is dropped, and with it the record
    .ok (deserialize r (value.drop (pre.length + consume.getD 0))).toOption
  else .ok none

def getDataWithPrefix (r : Reading T) (tree : Tree Bytes) (pre : Bytes) (consume : Option ℕ) :
    Except (Dlc.Fault StorageError) (List T) := do
  let selected ← tree.values.mapM (selectWithPrefix r pre consume)
  return selected.reduceOption

def getSignedContracts (tree : Tree Bytes) :
    Except (Dlc.Fault StorageError) (List (SignedContract P)) :=
  getDataWithPrefix SignedContract.wire.read tree [ContractPrefix.signed.toByte] none

def getConfirmedContracts (tree : Tree Bytes) :
    Except (Dlc.Fault StorageError) (List (SignedContract P)) :=
  getDataWithPrefix SignedContract.wire.read tree [ContractPrefix.confirmed.toByte] none

def getContractOffers (tree : Tree Bytes) :
    Except (Dlc.Fault StorageError) (List (OfferedContract P)) :=
  getDataWithPrefix OfferedContract.wire.read tree [ContractPrefix.offered.toByte] none

def getLoanContractOffers (tree : Tree Bytes) :
    Except (Dlc.Fault StorageError) (List (OfferedLoanContract P)) :=
  getDataWithPrefix OfferedLoanContract.wire.read tree [ContractPrefix.offeredLoan.toByte] none

def getPreclosedContracts (tree : Tree Bytes) :
    Except (Dlc.Fault StorageError) (List (PreClosedContract P)) :=
  getDataWithPrefix PreClosedContract.wire.read tree [ContractPrefix.preClosed.toByte] none

end Queries

/-! The contracts of a state, of those that are stored. -/

namespace Contract

def offered? : Contract P → Option (OfferedContract P)
  | offered c => some c
  | _ => none

def offeredLoan? : Contract P → Option (OfferedLoanContract P)
  | offeredLoan c => some c
  | _ => none

def signed? : Contract P → Option (SignedContract P)
  | signed c => some c
  | _ => none

def confirmed? : Contract P → Option (SignedContract P)
  | confirmed c => some c
  | _ => none

def preClosed? : Contract P → Option (PreClosedContract P)
  | preClosed c => some c
  | _ => none

end Contract

theorem filterMap_eq_self_iff {T : Type} {f : T → Option T} {l : List T} :
    l.filterMap f = l ↔ ∀ a ∈ l, f a = some a := by
  induction l with
  | nil => simp
  | cons a l ih =>
      cases image : f a with
      | none =>
          rw [List.filterMap_cons_none image, List.forall_mem_cons, image]
          refine iff_of_false (fun same => ?_) (by simp)
          have shorter := List.length_filterMap_le f l
          rw [same, List.length_cons] at shorter
          omega
      | some b =>
          rw [List.filterMap_cons_some image, List.forall_mem_cons, List.cons.injEq, ih, image,
            Option.some.injEq]

section Selection
variable {L : TransactionReaders P} {T : Type} {r : Reading T} {state : ContractPrefix}
  {pick : Contract P → Option T}

/-- What a query picks is what the state's byte stands for. -/
structure Picks (L : TransactionReaders P) (c : Codec DecodeError T) (state : ContractPrefix)
    (pick : Contract P → Option T) : Prop where
  picked : ∀ {contract a}, pick contract = some a →
    ContractPrefix.getPrefix contract = state ∧ payload L contract = c.write a
  others : ∀ {contract}, pick contract = none → ContractPrefix.getPrefix contract ≠ state

theorem selectWithPrefix_serialize {c : Wire T} (picks : Picks L c state pick)
    (contract : Contract P) :
    selectWithPrefix c.read [state.toByte] none (serializeContract L contract) =
      .ok ((pick contract).bind fun a => (deserialize c.read (c.write a)).toOption) := by
  have long : ¬ (serializeContract L contract).length < [state.toByte].length :=
    Nat.not_lt.mpr (Nat.succ_le_succ (Nat.zero_le _))
  rw [selectWithPrefix, if_neg long]
  cases found : pick contract with
  | none =>
      rw [if_neg]
      · rfl
      · intro same
        exact picks.others found (ContractPrefix.toByte_inj.mp (List.cons.inj same).1)
  | some a =>
      obtain ⟨kind, written⟩ := picks.picked found
      rw [if_pos (by rw [serializeContract, kind]; rfl), serializeContract, written]
      rfl

theorem getDataWithPrefix_serialize {c : Wire T} (picks : Picks L c state pick)
    (tree : Tree (Contract P)) :
    getDataWithPrefix c.read (tree.mapValues (serializeContract L)) [state.toByte] none =
      .ok ((tree.values.filterMap pick).filterMap fun a =>
        (deserialize c.read (c.write a)).toOption) := by
  rw [getDataWithPrefix, Tree.values_mapValues]
  generalize tree.values = stored
  have each : ∀ stored : List (Contract P),
      (stored.map (serializeContract L)).mapM (selectWithPrefix c.read [state.toByte] none) =
        .ok (stored.map fun contract =>
          (pick contract).bind fun a => (deserialize c.read (c.write a)).toOption) := by
    intro stored
    induction stored with
    | nil => rfl
    | cons contract stored ih =>
        rw [List.map_cons, List.mapM_cons, selectWithPrefix_serialize picks, ih]
        rfl
  rw [each, List.filterMap_filterMap]
  exact congrArg Except.ok (List.filterMap_map.trans rfl)

/-- A query gives every contract of its state, or an error. -/
def Complete (result : Except (Dlc.Fault StorageError) (List T)) (stored : List T) : Prop :=
  (∃ e, result = .error (.err e)) ∨ result = .ok stored

theorem getDataWithPrefix_complete {c : Wire T} {fits : T → Prop} (exact : c.Exact fits)
    (picks : Picks L c state pick) (tree : Tree (Contract P)) :
    Complete (getDataWithPrefix c.read (tree.mapValues (serializeContract L)) [state.toByte] none)
        (tree.values.filterMap pick) ↔
      ∀ contract ∈ tree.values, ∀ a, pick contract = some a → fits a := by
  have back : ∀ a, (deserialize c.read (c.write a)).toOption = some a ↔ fits a := by
    intro a
    rw [deserialize]
    constructor
    · intro read
      cases result : c.read.run (c.write a) with
      | error e =>
          rw [result] at read
          cases read
      | ok value =>
          rw [result] at read
          cases read
          exact exact.yields _ _ _ result
    · intro holds
      have whole := exact.roundTrips holds []
      rw [List.append_nil] at whole
      rw [whole]
      rfl
  have notError : ¬ ∃ e, (Except.ok ((tree.values.filterMap pick).filterMap fun a =>
      (deserialize c.read (c.write a)).toOption) : Except (Dlc.Fault StorageError) (List T)) =
      .error (.err e) := by
    rintro ⟨e, impossible⟩
    cases impossible
  rw [getDataWithPrefix_serialize picks, Complete, or_iff_right notError, Except.ok.injEq,
    filterMap_eq_self_iff]
  simp only [back, List.mem_filterMap]
  constructor
  · intro all contract listed a found
    exact all a ⟨contract, listed, found⟩
  · rintro all a ⟨contract, listed, found⟩
    exact all contract listed a found

end Selection

/-! The writes. -/

section Writes
variable (L : TransactionReaders P) (contractId : AcceptedContract P → Bytes32)

/-- `get_id`, given the identifier that follows from the transactions of an accepted contract. -/
def Contract.getId : Contract P → Bytes32
  | offered o | rejected o => o.id
  | offeredLoan o | offeredLoanEscrowConfirmed o => o.offeredContract.id
  | accepted o => contractId o
  | signed o | confirmed o | refunded o => contractId o.acceptedContract
  | failedAccept c => c.offeredContract.id
  | failedSign c => contractId c.acceptedContract
  | preClosed c => contractId c.signedContract.acceptedContract
  | closed c => c.contractId

def Contract.getTemporaryId : Contract P → Bytes32
  | offered o | rejected o => o.id
  | offeredLoan o | offeredLoanEscrowConfirmed o => o.offeredContract.id
  | accepted o => o.offeredContract.id
  | signed o | confirmed o | refunded o => o.acceptedContract.offeredContract.id
  | failedAccept c => c.offeredContract.id
  | failedSign c => c.acceptedContract.offeredContract.id
  | preClosed c => c.signedContract.acceptedContract.offeredContract.id
  | closed c => c.temporaryContractId

/-- The writes to the tree of contracts. That of a channel comes with a contract or without. -/
inductive Write (P : Primitives)
  | createContract (contract : OfferedContract P)
  | createLoanContract (contract : OfferedLoanContract P)
  | updateContract (contract : Contract P)
  | upsertChannel (contract : Option (Contract P))
  | deleteContract (contractId : Bytes32)

variable {V : Type} (stored : Contract P → V)

/-- `insert_contract`, and the same in `update_contract`. -/
def insertContract (tree : Tree V) (contract : Contract P) : Tree V :=
  match contract with
  | .accepted _ | .signed _ =>
      (tree.remove contract.getTemporaryId).insert (contract.getId contractId) (stored contract)
  | _ => tree.insert (contract.getId contractId) (stored contract)

def Write.perform (tree : Tree V) : Write P → Tree V
  | createContract o => tree.insert o.id (stored (.offered o))
  | createLoanContract o => tree.insert o.offeredContract.id (stored (.offeredLoan o))
  | updateContract c => insertContract contractId stored tree c
  | upsertChannel (some c) => insertContract contractId stored tree c
  | upsertChannel none => tree
  | deleteContract id => tree.remove id

/-- The tree of the storage after the writes. -/
def contractTree (writes : List (Write P)) : Tree Bytes :=
  writes.foldl (Write.perform contractId (serializeContract L)) []

/-- The contracts that are stored after the writes. -/
def storedContracts (writes : List (Write P)) : Tree (Contract P) :=
  writes.foldl (Write.perform contractId id) []

theorem insertContract_mapValues (f : Contract P → V) (tree : Tree (Contract P))
    (c : Contract P) :
    insertContract contractId f (tree.mapValues f) c =
      (insertContract contractId id tree c).mapValues f := by
  cases c with
  | accepted o => simp only [insertContract, Tree.remove_mapValues, Tree.insert_mapValues, id]
  | signed o => simp only [insertContract, Tree.remove_mapValues, Tree.insert_mapValues, id]
  | _ => simp only [insertContract, Tree.insert_mapValues, id]

theorem perform_mapValues (f : Contract P → V) (tree : Tree (Contract P)) (w : Write P) :
    Write.perform contractId f (tree.mapValues f) w =
      (Write.perform contractId id tree w).mapValues f := by
  cases w with
  | createContract o => exact Tree.insert_mapValues f _ _ tree
  | createLoanContract o => exact Tree.insert_mapValues f _ _ tree
  | updateContract c => exact insertContract_mapValues contractId f tree c
  | upsertChannel o =>
      cases o with
      | none => rfl
      | some c => exact insertContract_mapValues contractId f tree c
  | deleteContract key => exact Tree.remove_mapValues f key tree

/-- The tree holds the bytes of the stored contracts, in every run. -/
theorem contractTree_eq (writes : List (Write P)) :
    contractTree L contractId writes =
      (storedContracts contractId writes).mapValues (serializeContract L) := by
  have run : ∀ (writes : List (Write P)) (tree : Tree (Contract P)),
      writes.foldl (Write.perform contractId (serializeContract L))
          (tree.mapValues (serializeContract L)) =
        (writes.foldl (Write.perform contractId id) tree).mapValues (serializeContract L) := by
    intro writes
    induction writes with
    | nil => exact fun _ => rfl
    | cons w writes ih =>
        intro tree
        rw [List.foldl_cons, List.foldl_cons, perform_mapValues]
        exact ih _
  exact run writes []

/-- Every stored contract comes back from its bytes, and each query gives all those of its
state, or an error. -/
structure ReadsBack (writes : List (Write P)) : Prop where
  contracts : ∀ c ∈ (storedContracts contractId writes).values,
    deserializeContract L (serializeContract L c) = .ok c
  contractOffers : Complete (getContractOffers (contractTree L contractId writes))
    ((storedContracts contractId writes).values.filterMap Contract.offered?)
  loanContractOffers : Complete (getLoanContractOffers (contractTree L contractId writes))
    ((storedContracts contractId writes).values.filterMap Contract.offeredLoan?)
  signedContracts : Complete (getSignedContracts (contractTree L contractId writes))
    ((storedContracts contractId writes).values.filterMap Contract.signed?)
  confirmedContracts : Complete (getConfirmedContracts (contractTree L contractId writes))
    ((storedContracts contractId writes).values.filterMap Contract.confirmed?)
  preclosedContracts : Complete (getPreclosedContracts (contractTree L contractId writes))
    ((storedContracts contractId writes).values.filterMap Contract.preClosed?)

theorem picks_offered : Picks L OfferedContract.wire .offered Contract.offered? where
  picked {contract _} found := by cases contract <;> cases found; exact ⟨rfl, rfl⟩
  others {contract} missing := by
    cases contract <;> simp_all [Contract.offered?, ContractPrefix.getPrefix]

theorem picks_offeredLoan : Picks L OfferedLoanContract.wire .offeredLoan Contract.offeredLoan? where
  picked {contract _} found := by cases contract <;> cases found; exact ⟨rfl, rfl⟩
  others {contract} missing := by
    cases contract <;> simp_all [Contract.offeredLoan?, ContractPrefix.getPrefix]

theorem picks_signed : Picks L SignedContract.wire .signed Contract.signed? where
  picked {contract _} found := by cases contract <;> cases found; exact ⟨rfl, rfl⟩
  others {contract} missing := by
    cases contract <;> simp_all [Contract.signed?, ContractPrefix.getPrefix]

theorem picks_confirmed : Picks L SignedContract.wire .confirmed Contract.confirmed? where
  picked {contract _} found := by cases contract <;> cases found; exact ⟨rfl, rfl⟩
  others {contract} missing := by
    cases contract <;> simp_all [Contract.confirmed?, ContractPrefix.getPrefix]

theorem picks_preClosed : Picks L PreClosedContract.wire .preClosed Contract.preClosed? where
  picked {contract _} found := by cases contract <;> cases found; exact ⟨rfl, rfl⟩
  others {contract} missing := by
    cases contract <;> simp_all [Contract.preClosed?, ContractPrefix.getPrefix]

theorem getContractOffers_complete (writes : List (Write P)) :
    Complete (getContractOffers (contractTree L contractId writes))
        ((storedContracts contractId writes).values.filterMap Contract.offered?) ↔
      ∀ c ∈ (storedContracts contractId writes).values, ∀ a, c.offered? = some a → a.Fits := by
  rw [contractTree_eq]
  exact getDataWithPrefix_complete OfferedContract.exact (picks_offered L) _

theorem getLoanContractOffers_complete (writes : List (Write P)) :
    Complete (getLoanContractOffers (contractTree L contractId writes))
        ((storedContracts contractId writes).values.filterMap Contract.offeredLoan?) ↔
      ∀ c ∈ (storedContracts contractId writes).values, ∀ a, c.offeredLoan? = some a → a.Fits := by
  rw [contractTree_eq]
  exact getDataWithPrefix_complete OfferedLoanContract.exact (picks_offeredLoan L) _

theorem getSignedContracts_complete (writes : List (Write P)) :
    Complete (getSignedContracts (contractTree L contractId writes))
        ((storedContracts contractId writes).values.filterMap Contract.signed?) ↔
      ∀ c ∈ (storedContracts contractId writes).values, ∀ a, c.signed? = some a → a.Fits := by
  rw [contractTree_eq]
  exact getDataWithPrefix_complete (SignedContract.exact L) (picks_signed L) _

theorem getConfirmedContracts_complete (writes : List (Write P)) :
    Complete (getConfirmedContracts (contractTree L contractId writes))
        ((storedContracts contractId writes).values.filterMap Contract.confirmed?) ↔
      ∀ c ∈ (storedContracts contractId writes).values, ∀ a, c.confirmed? = some a → a.Fits := by
  rw [contractTree_eq]
  exact getDataWithPrefix_complete (SignedContract.exact L) (picks_confirmed L) _

theorem getPreclosedContracts_complete (writes : List (Write P)) :
    Complete (getPreclosedContracts (contractTree L contractId writes))
        ((storedContracts contractId writes).values.filterMap Contract.preClosed?) ↔
      ∀ c ∈ (storedContracts contractId writes).values, ∀ a, c.preClosed? = some a → a.Fits := by
  rw [contractTree_eq]
  exact getDataWithPrefix_complete (PreClosedContract.exact L) (picks_preClosed L) _

/-- What fits as a contract fits as what a query picks of it. -/
theorem Contract.fits_of_picked {c : Contract P} (fits : c.Fits) :
    (∀ a, c.offered? = some a → a.Fits) ∧ (∀ a, c.offeredLoan? = some a → a.Fits) ∧
      (∀ a, c.signed? = some a → a.Fits) ∧ (∀ a, c.confirmed? = some a → a.Fits) ∧
      ∀ a, c.preClosed? = some a → a.Fits := by
  refine ⟨?_, ?_, ?_, ?_, ?_⟩
  all_goals
    intro a found
    cases c <;> cases found
    exact fits

/-- The storage gives everything back just when all that is stored keeps to the limits of what
is read. -/
theorem readsBack_iff (writes : List (Write P)) :
    ReadsBack L contractId writes ↔
      ∀ c ∈ (storedContracts contractId writes).values, c.Fits := by
  constructor
  · intro back c listed
    exact (Contract.deserializeContract_iff L c).mp (back.contracts c listed)
  · intro fits
    exact {
      contracts := fun c listed => (Contract.deserializeContract_iff L c).mpr (fits c listed)
      contractOffers := (getContractOffers_complete L contractId writes).mpr
        fun c listed => (Contract.fits_of_picked (fits c listed)).1
      loanContractOffers := (getLoanContractOffers_complete L contractId writes).mpr
        fun c listed => (Contract.fits_of_picked (fits c listed)).2.1
      signedContracts := (getSignedContracts_complete L contractId writes).mpr
        fun c listed => (Contract.fits_of_picked (fits c listed)).2.2.1
      confirmedContracts := (getConfirmedContracts_complete L contractId writes).mpr
        fun c listed => (Contract.fits_of_picked (fits c listed)).2.2.2.1
      preclosedContracts := (getPreclosedContracts_complete L contractId writes).mpr
        fun c listed => (Contract.fits_of_picked (fits c listed)).2.2.2.2 }

end Writes

section Examples

def plainReaders : TransactionReaders plainPrimitives where
  transaction_yields := (vec_exact_plain u8_exact).yields
  optionTransaction := option (vec u8)
  optionTransaction_exact := option_exact (vec_exact_plain u8_exact)

def sampleStoredParams : PartyParams plainPrimitives where
  fundPubkey := ⟨List.replicate 33 4, List.length_replicate⟩
  changeScriptPubkey := []
  changeSerialId := 1
  payoutScriptPubkey := []
  payoutSerialId := 2
  inputs := []
  inputAmount := 100000
  collateral := 50000

def sampleStoredOffer : OfferedContract plainPrimitives where
  id := 7
  isOfferParty := true
  contractInfo := []
  counterParty := ⟨List.replicate 33 3, List.length_replicate⟩
  offerParams := sampleStoredParams
  totalCollateral := 100000
  fundingInputs := []
  fundOutputSerialId := 3
  feeRatePerVb := 2
  cetLocktime := 10
  refundLocktime := 20
  keysId := 9

/-- A contract with so many CETs. -/
def signedWith (cets : List Bytes) : SignedContract plainPrimitives where
  acceptedContract := {
    offeredContract := sampleStoredOffer
    acceptParams := sampleStoredParams
    fundingInputs := []
    adaptorInfos := []
    adaptorSignatures := none
    acceptRefundSignature := sampleClosing.closeSignature
    dlcTransactions := { fund := [], cets, refund := [], fundingScriptPubkey := [] } }
  adaptorSignatures := none
  offerRefundSignature := sampleClosing.closeSignature
  fundingSignatures := ⟨[]⟩
  channelId := none

theorem vecFits_nil {α : Type} (fits : α → Prop) : VecFits fits [] := ⟨Nat.zero_le _, by simp⟩

theorem sampleStoredParams_fits : sampleStoredParams.Fits :=
  ⟨Nat.two_pow_pos 16, Nat.two_pow_pos 16, vecFits_nil _⟩

theorem sampleStoredOffer_fits : sampleStoredOffer.Fits :=
  ⟨vecFits_nil _, sampleStoredParams_fits, vecFits_nil _⟩

theorem signedWith_refused {cets : List Bytes} (long : maxVecSize.toNat < cets.length)
    (counted : cets.length < 2 ^ 64) :
    Refuses (SignedContract.wire (P := plainPrimitives)).read
      (SignedContract.wire.write (signedWith cets)) := by
  have transactions : Refuses (DlcTransactions.wire (P := plainPrimitives)).read
      (DlcTransactions.wire.write (signedWith cets).acceptedContract.dlcTransactions) := by
    refine Refuses.mapped (Refuses.pair_right ?_ (Refuses.pair_left ?_))
    · exact vec_roundTrips (Nat.zero_le _) fun x _ => u8_roundTrips x
    · exact vec_refuses long counted
  have accepted : Refuses (AcceptedContract.wire (P := plainPrimitives)).read
      (AcceptedContract.wire.write (signedWith cets).acceptedContract) := by
    refine Refuses.mapped (Refuses.pair_right ?_ (Refuses.pair_right ?_ (Refuses.pair_right ?_
      (Refuses.pair_right ?_ (Refuses.pair_right ?_ (Refuses.pair_right ?_ transactions))))))
    · exact OfferedContract.exact.roundTrips sampleStoredOffer_fits
    · exact PartyParams.exact.roundTrips sampleStoredParams_fits
    · exact (vec_exact FundingInput.exact).roundTrips (vecFits_nil _)
    · exact (vec_exact AdaptorInfo.exact).roundTrips (vecFits_nil _)
    · exact (option_exact ecdsaAdaptorSignatures_exact).roundTrips (by simp [signedWith])
    · exact signature_exact.roundTrips trivial
  exact Refuses.mapped (Refuses.pair_left accepted)

/-- A price of twenty binary digits has `2 ^ 20` payouts when no two outcomes pay the same. The
confirmed contract on it is stored and is not among the confirmed contracts. -/
theorem confirmed_contract_left_out :
    ¬ ReadsBack plainReaders (fun _ => 8)
        [.updateContract (.confirmed (signedWith (List.replicate (2 ^ 20) [])))] ∧
      getConfirmedContracts (P := plainPrimitives) (contractTree plainReaders (fun _ => 8)
        [.updateContract (.confirmed (signedWith (List.replicate (2 ^ 20) [])))]) = .ok [] := by
  have long : maxVecSize.toNat < (List.replicate (2 ^ 20) ([] : Bytes)).length := by
    rw [List.length_replicate]
    decide
  have counted : (List.replicate (2 ^ 20) ([] : Bytes)).length < 2 ^ 64 := by
    rw [List.length_replicate]
    decide
  generalize List.replicate (2 ^ 20) ([] : Bytes) = cets at long counted
  have query : getConfirmedContracts (P := plainPrimitives) (contractTree plainReaders (fun _ => 8)
      [.updateContract (.confirmed (signedWith cets))]) = .ok [] := by
    obtain ⟨e, refused⟩ := signedWith_refused long counted []
    rw [List.append_nil] at refused
    rw [contractTree_eq, getConfirmedContracts,
      getDataWithPrefix_serialize (picks_confirmed plainReaders)]
    have one : (storedContracts (fun _ => 8) [Write.updateContract
        (.confirmed (signedWith cets))]).values.filterMap Contract.confirmed? =
        [signedWith cets] := rfl
    rw [one, List.filterMap_cons_none]
    · rfl
    · rw [deserialize, refused]
      rfl
  refine ⟨fun back => ?_, query⟩
  have complete := back.confirmedContracts
  rw [query] at complete
  rcases complete with ⟨e, failed⟩ | empty
  · cases failed
  · cases empty

end Examples

end P2PLending.Storage
