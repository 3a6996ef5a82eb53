import P2PLending.Foundation.LiveRecords
import P2PLending.Manager.OfferReplay

/-! One record for each contract. An offer is stored under its temporary id; what the
handlers write afterwards is under the contract id, once the contract has one, and clears the
temporary id for an accepted or signed contract only. -/

namespace P2PLending.Manager
open Dlc Checked

variable {D : Descriptors} {C : Crypto}

/-- A contract as its offer makes it. -/
def Contract.IsOffer : Contract D → Prop
  | .offered _ | .offeredLoan _ => True
  | _ => False

/-- What the handlers write of a contract that they have read under the id. -/
inductive Contract.Becomes (C : Crypto) (id : ContractId) : Contract D → Contract D → Prop
  | accepts {o a} (same : a.offeredContract = o) : Becomes C id (.offered o) (.accepted a)
  | acceptsLoan {l a} (same : a.offeredContract = l.offeredContract) :
      Becomes C id (.offeredLoanEscrowConfirmed l) (.accepted a)
  | signs {o s} (same : s.acceptedContract.offeredContract = o) :
      Becomes C id (.offered o) (.signed s)
  | signsLoan {l s} (same : s.acceptedContract.offeredContract = l.offeredContract) :
      Becomes C id (.offeredLoan l) (.signed s)
  | countersigns {a s} (same : s.acceptedContract = a) : Becomes C id (.accepted a) (.signed s)
  /-- `on_renew_accept` stores the contract as confirmed at once. -/
  | renews {o s} (same : s.acceptedContract.offeredContract = o) :
      Becomes C id (.offered o) (.confirmed s)
  /-- Every other handler keeps the id. -/
  | stays {c c'} (same : c'.getId C = c.getId C ∨ c'.getId C = .ok id)
      (final : (∀ a, c' ≠ .accepted a) ∧ ∀ s, c' ≠ .signed s) : Becomes C id c c'

/-- The writes of the handlers: a new contract, after a check that its id is free or without
one, and what becomes of the contract that was read under the id. -/
inductive RecordEvent (D : Descriptors)
  | creates (checked : Bool) (c : Contract D)
  | writes (id : ContractId) (c : Contract D)

/-- The store, with the record that was last written for each contract. -/
structure Records (D : Descriptors) where
  store : Store D
  live : List (ContractId × Contract D)

namespace Records

def start : Records D := ⟨fun _ => none, []⟩

def Step (C : Crypto) (r : Records D) : RecordEvent D → Records D → Prop
  | .creates checked c, r' => c.IsOffer ∧
      (checked = true → r.store c.getTemporaryId = none) ∧
      r' = ⟨r.store.insert c.getTemporaryId c, r.live ++ [(c.getTemporaryId, c)]⟩
  | .writes id c, r' => ∃ before k, r.store id = some before ∧ before.Becomes C id c ∧
      c.getId C = .ok k ∧ r.store.updateContract C c = .ok r'.store ∧
      r'.live = relocate r.live id (k, c)

/-- A new contract's id is free, so is the id of one that is accepted or signed, and the
temporary id of one that is signed after it was accepted; and no peer accepts a renewal, whose
contract would stay under its own id. -/
def Admits (C : Crypto) (r : Records D) : RecordEvent D → Prop
  | .creates _ c => r.store c.getTemporaryId = none
  | .writes id c =>
      (∀ o s, r.store id = some (.offered o) → c = .confirmed s → c.getId C = .ok id) ∧
      (∀ a s, r.store id = some (.accepted a) → c = .signed s →
        a.offeredContract.id = id ∨ r.store a.offeredContract.id = none) ∧
      ∀ k, c.getId C = .ok k → k = id ∨ r.store k = none

/-- The store holds the last record of each contract and no other, each under the id that the
contract has in its state. -/
structure OneEach (C : Crypto) (r : Records D) : Prop where
  mirrors : Mirrors r.store r.live
  keyed : ∀ e ∈ r.live, e.2.getId C = .ok e.1

/-- A step leaves the records of other contracts as they are. -/
def OthersKept (r : Records D) (event : RecordEvent D) (r' : Records D) : Prop :=
  ∀ e ∈ r.live, (∀ id c, event = .writes id c → e.1 ≠ id) → r'.store e.1 = some e.2

end Records

/-- What a write clears. -/
def Contract.cleared : Contract D → Option ContractId
  | .accepted a => some a.offeredContract.id
  | .signed s => some s.acceptedContract.offeredContract.id
  | _ => none

theorem Store.updateContract_rewritten {store store' : Store D} {c : Contract D} {k : ContractId}
    (own : c.getId C = .ok k) :
    store.updateContract C c = .ok store' ↔ store' = rewritten store c.cleared k c := by
  have removed : ∀ id, (store.remove id).insert k c = rewritten store (some id) k c := by
    intro id
    funext key
    by_cases same : key = k
    · subst same
      simp [Store.insert]
    · rw [rewritten_of_ne same, Store.insert, Function.update_of_ne same, Store.remove,
        Function.update_apply]
      simp [eq_comm]
  rw [Store.updateContract, own, ok_bind]
  cases c with
  | accepted a => exact ⟨fun ran => (Except.ok.inj ran).symm.trans (removed _),
      fun same => congrArg Except.ok ((removed _).trans same.symm)⟩
  | signed s => exact ⟨fun ran => (Except.ok.inj ran).symm.trans (removed _),
      fun same => congrArg Except.ok ((removed _).trans same.symm)⟩
  | offered _ | offeredLoan _ | offeredLoanEscrowConfirmed _ | confirmed _ | preClosed _
  | closed _ | refunded _ | failedAccept _ | failedSign _ | rejected _ =>
      change _ ↔ store' = rewritten store none k _
      rw [rewritten_none]
      exact ⟨fun ran => (Except.ok.inj ran).symm, fun same => congrArg Except.ok same.symm⟩

theorem Contract.IsOffer.getId {c : Contract D} (offer : c.IsOffer) :
    c.getId C = .ok c.getTemporaryId := by
  cases c with
  | offered | offeredLoan => rfl
  | _ => exact offer.elim

/-- Where a contract's record may go: a write keeps the id, or it is the first under the
contract id. -/
theorem Contract.Becomes.admitted_iff {store : Store D} {before c : Contract D} {id k : ContractId}
    (becomes : before.Becomes C id c) (stored : store id = some before)
    (keyed : before.getId C = .ok id) (own : c.getId C = .ok k) (live : List (ContractId × Contract D)) :
    ((k = id ∨ store k = none) ∧ (k = id ∨ c.cleared = some id) ∧
      ∀ t, c.cleared = some t → t = id ∨ t = k ∨ store t = none) ↔
      Records.Admits C ⟨store, live⟩ (.writes id c) := by
  unfold Records.Admits
  cases becomes with
  | accepts same =>
      obtain rfl : _ = id := Except.ok.inj keyed
      simp [cleared, stored, own, same]
  | acceptsLoan same =>
      obtain rfl : _ = id := Except.ok.inj keyed
      simp [cleared, stored, own, same]
  | signs same =>
      obtain rfl : _ = id := Except.ok.inj keyed
      simp [cleared, stored, own, same]
  | signsLoan same =>
      obtain rfl : _ = id := Except.ok.inj keyed
      simp [cleared, stored, own, same]
  | @countersigns a s same =>
      subst same
      obtain rfl : k = id := Except.ok.inj (own.symm.trans keyed)
      simp [cleared, stored, own]
  | renews same =>
      simp [cleared, stored, own]
      tauto
  | stays same final =>
      obtain rfl : k = id := Except.ok.inj
        (own.symm.trans (same.elim (fun same => same.trans keyed) fun same => same))
      have nothing : c.cleared = none := by
        cases c with
        | accepted a => exact absurd rfl (final.1 a)
        | signed s => exact absurd rfl (final.2 s)
        | _ => rfl
      simp [nothing, own, final.2]

namespace Records

theorem start_oneEach : OneEach C (start : Records D) :=
  ⟨Mirrors.empty, by simp [start]⟩

/-- A step keeps one record for each contract exactly if it is admitted. -/
theorem step_oneEach_iff {r r' : Records D} {event : RecordEvent D} (one : OneEach C r)
    (step : Step C r event r') : OthersKept r event r' ∧ OneEach C r' ↔ Admits C r event := by
  cases event with
  | creates checked c =>
      obtain ⟨offer, -, rfl⟩ := step
      rw [Admits, ← one.mirrors.create_iff (r := c)]
      constructor
      · exact fun kept => kept.2.mirrors
      · intro mirrors
        refine ⟨fun e member _ => (mirrors.holds _ _).mpr (List.mem_append_left _ member), mirrors,
          fun e member => ?_⟩
        rcases List.mem_append.mp member with earlier | new
        · exact one.keyed e earlier
        · obtain rfl := List.mem_singleton.mp new
          exact offer.getId
  | writes id c =>
      obtain ⟨before, k, stored, becomes, own, updated, moved⟩ := step
      have keyed := one.keyed _ ((one.mirrors.holds id before).mp stored)
      rw [← becomes.admitted_iff stored keyed own r.live,
        ← one.mirrors.rewrite_iff (r := c) stored]
      rw [Store.updateContract_rewritten own] at updated
      rw [← updated, ← moved]
      constructor
      · exact fun kept => kept.2.mirrors
      · intro mirrors
        refine ⟨fun e member other => ?_, mirrors, fun e member => ?_⟩
        · rw [moved] at mirrors
          exact one.mirrors.others_kept stored mirrors member (other id c rfl)
        · rw [moved, one.mirrors.mem_relocate stored] at member
          rcases member with rfl | ⟨earlier, _⟩
          · exact own
          · exact one.keyed e earlier

/-- The runs in which every step leaves one record for each contract, the last one written, and
the others as they were, are those whose steps are admitted. -/
theorem one_record_each_iff {events : List (RecordEvent D)} {r : Records D} :
    Run (fun r event r' => Step C r event r' ∧ OthersKept r event r' ∧ OneEach C r') start events r ↔
      Run (guarded (Step C) (Admits C)) start events r :=
  Run.through_steps_iff_guarded start_oneEach fun _ _ _ one step => step_oneEach_iff one step

end Records

/-! The handlers write so. -/

/-- From the one store to the other by such writes. -/
def Writes (C : Crypto) (store store' : Store D) : Prop :=
  ∀ live, ∃ events live', Run (Records.Step C) ⟨store, live⟩ events ⟨store', live'⟩

namespace Writes

instance : Std.Refl (Writes (D := D) C) := ⟨fun _ live => ⟨[], live, .nil⟩⟩

instance : IsTrans (Store D) (Writes C) where
  trans _ _ _ first next live := by
    obtain ⟨events, live', run⟩ := first live
    obtain ⟨events', live'', run'⟩ := next live'
    exact ⟨_, live'', run.append run'⟩

theorem create {store : Store D} {c : Contract D} (offer : c.IsOffer) (checked : Bool)
    (free : checked = true → store c.getTemporaryId = none) :
    Writes C store (store.insert c.getTemporaryId c) :=
  fun _ => ⟨[.creates checked c], _, Run.nil.snoc ⟨offer, free, rfl⟩⟩

theorem write {store store' : Store D} {id : ContractId} {before c : Contract D}
    (stored : store id = some before) (becomes : before.Becomes C id c)
    (updated : store.updateContract C c = .ok store') : Writes C store store' := by
  intro live
  obtain ⟨k, own, _⟩ := bind_eq_ok.mp updated
  exact ⟨[.writes id c], _, Run.nil.snoc ⟨before, k, stored, becomes, own, updated, rfl⟩⟩

end Writes

def SameUnder {σ β : Type} (f : σ → β) (s s' : σ) : Prop := f s' = f s

instance {σ β : Type} {f : σ → β} : Std.Refl (SameUnder f) := ⟨fun _ => rfl⟩

instance {σ β : Type} {f : σ → β} : IsTrans σ (SameUnder f) :=
  ⟨fun _ _ _ first next => Eq.trans next first⟩

/-- What the handler does to the given contracts. -/
def WritesFrom {σ ε α : Type} (C : Crypto) (contracts : σ → Store D) (store : Store D)
    (h : Handler σ ε α) : Prop :=
  ∀ s, contracts s = store → Writes C store (contracts (h s).2)

namespace WritesFrom
variable {σ ε α β : Type} {contracts : σ → Store D} {store : Store D}

theorem of_same {h : Handler σ ε α} (same : h.Keeps (SameUnder contracts)) :
    WritesFrom C contracts store h := by
  intro s at_
  rw [same s, at_]
  exact refl_of (Writes C) store

theorem bind {m : Handler σ ε α} {f : α → Handler σ ε β}
    (same : m.Keeps (SameUnder contracts))
    (next : ∀ s a s', contracts s = store → m s = (.ok a, s') →
      WritesFrom C contracts store (f a)) : WritesFrom C contracts store (m >>= f) := by
  intro s at_
  have before := same s
  rw [Handler.bind_apply]
  rcases ran : m s with ⟨_ | a, s'⟩
  · rw [ran] at before
    rw [show contracts s' = store from before.trans at_]
    exact refl_of (Writes C) store
  · rw [ran] at before
    exact next s a s' at_ ran s' (before.trans at_)

theorem before {m : Handler σ ε α} {f : α → Handler σ ε β} (writes : WritesFrom C contracts store m)
    (same : ∀ a, (f a).Keeps (SameUnder contracts)) :
    WritesFrom C contracts store (m >>= f) := by
  intro s at_
  have written := writes s at_
  rw [Handler.bind_apply]
  rcases ran : m s with ⟨_ | a, s'⟩
  · rw [ran] at written
    exact written
  · rw [ran] at written
    have after : contracts (f a s').2 = contracts s' := same a s'
    rwa [after]

/-- A stage that writes, then one that writes from there. -/
theorem next {m : Handler σ ε α} {f : α → Handler σ ε β} (writes : WritesFrom C contracts store m)
    (later : ∀ s a s', contracts s = store → m s = (.ok a, s') →
      WritesFrom C contracts (contracts s') (f a)) : WritesFrom C contracts store (m >>= f) := by
  intro s at_
  have written := writes s at_
  rw [Handler.bind_apply]
  rcases ran : m s with ⟨_ | a, s'⟩
  · rw [ran] at written
    exact written
  · rw [ran] at written
    exact trans_of (Writes C) written (later s a s' at_ ran s' rfl)

end WritesFrom

section Handlers
variable {env : Environment} {store : Store D} {id : ContractId}

theorem writesFrom_storeContract {before c : Contract D} (stored : store id = some before)
    (becomes : before.Becomes C id c) :
    WritesFrom C Node.store store (storeContract env C c) := by
  intro node at_
  subst at_
  simp only [storeContract, Handler.bind_apply, Handler.read, Handler.lift, Handler.modify]
  cases updated : node.store.updateContract C c with
  | error e => exact refl_of (Writes C) node.store
  | ok store =>
      cases answered env.writeStore with
      | error e => exact refl_of (Writes C) node.store
      | ok u => exact Writes.write stored becomes updated

theorem becomes_failedAccept {o : OfferedContract D} {before : Contract D} {msg : AcceptDlc} {e : Error}
    (same : before.getId C = .ok o.id) : before.Becomes C id (.failedAccept ⟨o, msg, e⟩) :=
  .stays (.inl same.symm) (by simp)

theorem writesFrom_signed {signed : SignedContract D} {before : Contract D} {msg : SignDlc}
    (stored : store id = some before) (becomes : before.Becomes C id (.signed signed)) :
    WritesFrom C Node.store store (do
      Handler.lift (answered env.getNetwork)
      Handler.lift (answered
        (env.importAddress signed.acceptedContract.dlcTransactions.fundingScriptPubkey))
      storeContract env C (.signed signed)
      pure msg) := by
  refine .bind (fun _ => rfl) fun _ _ _ _ _ => ?_
  refine .bind (fun _ => rfl) fun _ _ _ _ _ => ?_
  exact (writesFrom_storeContract stored becomes).before fun _ _ => rfl

theorem writesFrom_storeAccepted {accepted : AcceptedContract D} {before : Contract D}
    (stored : store id = some before) (becomes : before.Becomes C id (.accepted accepted)) :
    WritesFrom C Node.store store (storeAccepted env C accepted) := by
  refine .bind (fun _ => rfl) fun _ _ _ _ _ => ?_
  refine .bind (fun _ => rfl) fun _ _ _ _ _ => ?_
  refine .bind (fun _ => rfl) fun _ _ _ _ _ => ?_
  exact (writesFrom_storeContract stored becomes).before fun _ _ => rfl

theorem onAcceptMessage_writes (msg : AcceptDlc) (peer : PublicKey) :
    WritesFrom C Node.store store (onAcceptMessage env C msg peer) := by
  refine .bind (fun _ => rfl) fun node offered _ at_ read => ?_
  obtain ⟨read, -⟩ := Handler.read_ok.mp read
  obtain ⟨c, stored, picked⟩ := read_inState read
  obtain rfl := Contract.offered?_eq_some.mp picked
  rw [at_] at stored
  split
  · exact .of_same fun _ => rfl
  · exact (writesFrom_storeContract stored (becomes_failedAccept rfl)).before fun _ _ => rfl
  · next signed signedMsg verified =>
      exact writesFrom_signed stored (.signs (verifyAcceptedAndSignContract_offered verified))

theorem onAcceptLoanMessage_writes (msg : AcceptLoanDlc) (peer : PublicKey) :
    WritesFrom C Node.store store (onAcceptLoanMessage env C msg peer) := by
  refine .bind (fun _ => rfl) fun node read _ at_ ran => ?_
  obtain ⟨ran, -⟩ := Handler.read_ok.mp ran
  have stored := signCollateral_stored ran
  rw [at_] at stored
  refine .bind ?_ fun _ _ _ _ _ => ?_
  · refine Handler.keeps_bind (Handler.keeps_lift _) fun _ => ?_
    exact Handler.keeps_modify fun _ => rfl
  · unfold recordAcceptedLoan
    split
    · exact .of_same fun _ => rfl
    · exact (writesFrom_storeContract stored (becomes_failedAccept rfl)).before fun _ _ => rfl
    · next signed signedMsg verified =>
        exact writesFrom_signed stored
          (.signsLoan (verifyAcceptedAndSignLoanContract_offered verified))

theorem acceptContractOffer_writes (wallet : AcceptEnvironment) :
    WritesFrom C Node.store store (acceptContractOffer env wallet C id) := by
  refine .bind (fun _ => rfl) fun node offered _ at_ read => ?_
  obtain ⟨read, -⟩ := Handler.read_ok.mp read
  obtain ⟨c, stored, picked⟩ := read_inState read
  obtain rfl := Contract.offered?_eq_some.mp picked
  rw [at_] at stored
  refine .bind (fun _ => rfl) fun _ accepted _ _ accepts => ?_
  have same := acceptContract_offered (Handler.lift_ok.mp accepts).1
  exact (writesFrom_storeAccepted stored (.accepts same)).before fun _ _ => rfl

theorem acceptLoanContractOffer_writes (wallet : AcceptEnvironment) (trees : LoanStore D) :
    WritesFrom C Node.store trees.contracts (acceptLoanContractOffer env wallet C id trees) := by
  refine .bind (fun _ => rfl) fun node loan _ at_ accepts => ?_
  obtain ⟨accepts, -⟩ := Handler.lift_ok.mp accepts
  simp only [acceptedLoan, bind_eq_ok, Prod.exists, Except.ok.injEq] at accepts
  obtain ⟨_, _, offered, read, _, _, _, _, accepted, msg, loan, rfl⟩ := accepts
  obtain ⟨c, stored, -, picked⟩ := Store.getInState_ok.mp read
  have confirmed : c = .offeredLoanEscrowConfirmed offered := by
    cases c <;> simp_all [Contract.offeredLoanEscrowConfirmed?]
  subst confirmed
  have same : accepted.toAcceptedContract.offeredContract = offered.offeredContract :=
    congrArg OfferedLoanContract.offeredContract (acceptLoanContract_offered loan)
  exact (writesFrom_storeAccepted stored (.acceptsLoan same)).before fun _ _ => rfl

end Handlers

theorem onSignMessage_writes {E : SigningDescriptors} {env : Environment}
    {store : Store E.toDescriptors} (msg : SignDlc) (peer : PublicKey) :
    WritesFrom C Node.store store (onSignMessage env C msg peer) := by
  refine .bind (fun _ => rfl) fun node accepted _ at_ read => ?_
  obtain ⟨read, -⟩ := Handler.read_ok.mp read
  obtain ⟨c, stored, picked⟩ := read_inState read
  obtain rfl := Contract.accepted?_eq_some.mp picked
  rw [at_] at stored
  split
  · exact .of_same fun _ => rfl
  · refine (writesFrom_storeContract stored ?_).before fun _ _ => rfl
    exact .stays (.inl rfl) (by simp)
  · next signed tx verified =>
      refine writesFrom_storeContract stored (.countersigns ?_)
      obtain ⟨_, _, verified⟩ := bind_eq_ok.mp verified
      simp only [Internal.verifySignedContract, bind_eq_ok, Except.ok.injEq,
        Prod.mk.injEq] at verified
      obtain ⟨_, _, _, _, rfl, _⟩ := verified
      rfl

/-! The borrower's look at the loan offers. -/

section Escrows

/-- The offers are stored, some of them with their escrow confirmed. -/
def Listed (offers : List (OfferedLoanContract D)) (store : Store D) : Prop :=
  ∀ o ∈ offers, store o.offeredContract.id = some (.offeredLoan o) ∨
    store o.offeredContract.id = some (.offeredLoanEscrowConfirmed o)

def Confirms (C : Crypto) (offers : List (OfferedLoanContract D)) (b b' : Borrower D) : Prop :=
  Listed offers b.store.contracts →
    Writes C b.store.contracts b'.store.contracts ∧ Listed offers b'.store.contracts

instance {offers : List (OfferedLoanContract D)} : Std.Refl (Confirms C offers) :=
  ⟨fun b listed => ⟨refl_of (Writes C) b.store.contracts, listed⟩⟩

instance {offers : List (OfferedLoanContract D)} : IsTrans (Borrower D) (Confirms C offers) where
  trans _ _ _ first next listed := by
    obtain ⟨writes, between⟩ := first listed
    obtain ⟨further, after⟩ := next between
    exact ⟨trans_of (Writes C) writes further, after⟩

theorem Listed.confirm {offers : List (OfferedLoanContract D)} {store : Store D}
    {contract : OfferedLoanContract D} (listed : Listed offers store) (member : contract ∈ offers) :
    Listed offers (store.insert contract.offeredContract.id
      (.offeredLoanEscrowConfirmed contract)) := by
  intro o other
  by_cases same : o.offeredContract.id = contract.offeredContract.id
  · have stored := listed o other
    rw [same] at stored
    rcases stored with found | found
    · rcases listed contract member with found' | found'
      · cases found.symm.trans found'
        exact .inr (by simp [Store.insert])
      · cases found.symm.trans found'
    · rcases listed contract member with found' | found'
      · cases found.symm.trans found'
      · cases found.symm.trans found'
        exact .inr (by simp [Store.insert])
  · rw [Store.insert, Function.update_of_ne same]
    exact listed o other

theorem confirmEscrow_confirms {env : CheckEnvironment} {offers : List (OfferedLoanContract D)}
    {contract : OfferedLoanContract D} (member : contract ∈ offers) (r : EscrowRecord) :
    (confirmEscrow env C contract r).Keeps (Confirms C offers) := by
  intro b listed
  unfold confirmEscrow
  have updated : b.store.contracts.updateContract C (.offeredLoanEscrowConfirmed contract) =
    .ok (b.store.contracts.insert contract.offeredContract.id
      (.offeredLoanEscrowConfirmed contract)) := rfl
  have writes : Writes C b.store.contracts (b.store.contracts.insert contract.offeredContract.id
      (.offeredLoanEscrowConfirmed contract)) := by
    rcases listed contract member with found | found
    · exact Writes.write (c := .offeredLoanEscrowConfirmed contract) found
        (.stays (.inl rfl) (by simp)) updated
    · exact Writes.write found (.stays (.inl rfl) (by simp)) updated
  cases written : env.writeStore with
  | ok => exact ⟨writes, listed.confirm member⟩
  | error => exact ⟨refl_of (Writes C) b.store.contracts, listed⟩

theorem checkOffer_confirms {env : CheckEnvironment} {offers : List (OfferedLoanContract D)}
    {contract : OfferedLoanContract D} (member : contract ∈ offers) :
    (checkOffer env C contract).Keeps (Confirms C offers) := by
  have confirms : ∀ r, (confirmWhenFinal env C contract r).Keeps (Confirms C offers) := by
    intro r
    refine Handler.keeps_bind (Handler.keeps_lift _) fun confirmations => ?_
    split
    · exact confirmEscrow_confirms member r
    · exact Handler.keeps_pure _
  have claims : ∀ r, (claimStable env contract r).Keeps (Confirms C offers) := by
    intro r
    refine Handler.keeps_bind (Handler.keeps_lift _) fun _ => ?_
    refine Handler.keeps_bind ?_ fun _ => Handler.keeps_lift _
    exact Handler.keeps_modify fun b listed => ⟨refl_of (Writes C) b.store.contracts, listed⟩
  refine Handler.keeps_bind (Handler.keeps_read _) fun record => ?_
  cases record with
  | none => exact Handler.keeps_pure _
  | some r =>
      dsimp only
      split
      · exact Handler.keeps_bind (claims r) fun _ => confirms r
      · exact confirms r

theorem checkOffers_confirms (poll : Poll D) {offers rest : List (OfferedLoanContract D)}
    (members : ∀ contract ∈ rest, contract ∈ offers) :
    (checkOffers C poll rest).Keeps (Confirms C offers) := by
  induction rest with
  | nil => exact Handler.keeps_pure _
  | cons contract rest ih =>
      rw [List.forall_mem_cons] at members
      exact Handler.keeps_bind (checkOffer_confirms members.1) fun _ => ih members.2

end Escrows

namespace OfferEvent
variable {E : SigningDescriptors} {A : Type}

/-- The offers that the borrower looks at are those of the store. -/
def ListsStored (store : LoanStore E.toDescriptors) : OfferEvent E A → Prop
  | .checkEscrows poll _ => ∀ offers, poll.loanContractOffers = .ok offers →
      Listed offers store.contracts
  | _ => True

/-- What a message or a call does to the contracts are writes of records. -/
theorem handle_writes (store : LoanStore E.toDescriptors) (event : OfferEvent E A)
    (lists : event.ListsStored store) : Writes C store.contracts (event.handle C store).contracts := by
  cases event with
  | offer env converted =>
      rcases OfferHistory.offer_cases (C := C) (A := A) store env converted with ⟨o, -, free, -, after⟩ | ⟨-, after⟩
      · rw [after]
        exact Writes.create (c := .offered o) trivial true fun _ => free
      · rw [after]
        exact refl_of (Writes C) store.contracts
  | offerLoan env converted =>
      rcases OfferHistory.offerLoan_cases (C := C) (A := A) store env converted with
        ⟨o, -, free, -, after⟩ | ⟨-, after⟩
      · rw [after]
        exact Writes.create (c := .offeredLoan o) trivial true fun _ => free
      · rw [after]
        exact refl_of (Writes C) store.contracts
  | accept env msg peer => exact onAcceptMessage_writes msg peer _ rfl
  | acceptLoan env msg peer => exact onAcceptLoanMessage_writes msg peer _ rfl
  | sign env msg peer => exact onSignMessage_writes msg peer _ rfl
  | acceptContractOffer env wallet id => exact acceptContractOffer_writes wallet _ rfl
  | acceptLoanContractOffer env wallet id =>
      exact acceptLoanContractOffer_writes wallet store _ rfl
  | initiateAcceptLoan env id =>
      rw [handle, (OfferHistory.initiate_records env id (Borrower.start store)).1]
      exact refl_of (Writes C) store.contracts
  | checkEscrows poll evmPk =>
      rw [handle, checkOfferedLoanContractsForEscrow, Handler.lift_bind]
      split
      · rw [Handler.lift_bind]
        cases offered : poll.loanContractOffers with
        | error e => exact refl_of (Writes C) store.contracts
        | ok offers =>
            exact (checkOffers_confirms poll (fun _ member => member) (Borrower.start store)
              (lists offers offered)).1
      · exact refl_of (Writes C) store.contracts
  | sendOfferLoan env input peer announcements =>
      rw [handle, sendOfferLoanWithAnnouncements, Handler.lift_bind]
      split
      next offered offers =>
        have contracts : (written env.setLoanPreimage store (store.setLoanPreimage
            offered.offeredContract.id env.lenderPreimage)).contracts = store.contracts := by
          cases env.setLoanPreimage <;> rfl
        rw [Handler.modify_bind, Handler.lift_bind]
        split
        · rw [Handler.lift_bind]
          split
          · have creates : Writes C store.contracts
                (store.contracts.insert offered.offeredContract.id (.offeredLoan offered)) :=
              Writes.create (c := .offeredLoan offered) trivial false (by simp)
            rw [← contracts] at creates
            rw [← contracts]
            exact creates
          · rw [← contracts]
            exact refl_of (Writes C) _
        · rw [← contracts]
          exact refl_of (Writes C) _
      · exact refl_of (Writes C) store.contracts

end OfferEvent

end P2PLending.Manager
