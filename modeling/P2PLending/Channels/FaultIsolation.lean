import P2PLending.Channels.PeriodicCheck
import P2PLending.Channels.TimedOut
import P2PLending.Foundation.Confined

/-! How far a failure for one contract or channel reaches in the periodic check. What is
done for a contract keeps to what concerns the contract, so that the contracts of a check
that is not stopped are each treated as if they were alone. -/

namespace P2PLending.Manager.Channels
open Dlc Checked

/-! What concerns one contract. -/

/-- What the borrower's side keeps for a contract. -/
structure LoanPart (D : Descriptors) where
  contract : Option (Contract D)
  loanPreimage : Option Uint128
  escrowTxid : Option Bytes32
  claimed : List Claim
  escrowConfirmed : List Claim

/-- What is kept for a contract, and what has been sent for it. -/
structure View (D : Descriptors) where
  loan : LoanPart D
  sent : List Transaction

section Views
variable {X : ChannelCrypto} {D : Descriptors}

def loanPart (id : ContractId) (b : Borrower D) : LoanPart D where
  contract := b.store.contracts id
  loanPreimage := b.store.loanPreimage id
  escrowTxid := b.store.escrowTxid id
  claimed := b.claimed.filter (·.contractId = id)
  escrowConfirmed := b.escrowConfirmed.filter (·.contractId = id)

def view (id : ContractId) (o : Office X D) : View D where
  loan := loanPart id o.borrower
  sent := (o.sent.filter (·.1 = id)).map Prod.snd

/-- Every contract is stored under its own id. -/
def Keyed (C : Crypto) (contracts : Store D) : Prop :=
  ∀ id c, contracts id = some c → ∀ id', c.getId C = .ok id' → id' = id

end Views

/-! The handling of a contract keeps to what concerns it. -/

section Desk
variable {C : Crypto} {signer : Signer} {E : SigningDescriptors} {env : CheckAnswers E.toDescriptors}
  {id : ContractId}

/-- What a desk keeps and sends for one contract. -/
abbrev atDesk (id : ContractId) (d : Desk E.toDescriptors) :
    Option (Contract E.toDescriptors) × List Transaction := (d.contracts id, d.sent)

abbrev offDesk (id : ContractId) (d : Desk E.toDescriptors) (other : {k // k ≠ id}) :
    Option (Contract E.toDescriptors) := d.contracts other

abbrev AtDesk {α : Type} (id : ContractId) (m : Handler (Desk E.toDescriptors) (Fault Error) α) :
    Prop := Handler.Confined (atDesk id) (offDesk id) m

/-- A contract whose writing replaces at most what is stored under the id. -/
structure WrittenAt (C : Crypto) (id : ContractId) (c : Contract E.toDescriptors) : Prop where
  own : ∀ id', c.getId C = .ok id' → id' = id
  final : (∀ a, c ≠ .accepted a) ∧ ∀ s, c ≠ .signed s

theorem WrittenAt.update {c : Contract E.toDescriptors} (written : WrittenAt C id c)
    (store : Store E.toDescriptors) :
    store.updateContract C c = (c.getId C).map fun _ => store.insert id c := by
  rw [Store.updateContract]
  cases found : c.getId C with
  | error _ => rfl
  | ok id' =>
      obtain rfl := written.own id' found
      obtain ⟨accepted, signed⟩ := written.final
      cases c with
      | accepted a => exact absurd rfl (accepted a)
      | signed s => exact absurd rfl (signed s)
      | offered _ | offeredLoan _ | offeredLoanEscrowConfirmed _ | confirmed _ | preClosed _
      | closed _ | refunded _ | failedAccept _ | failedSign _ | rejected _ => rfl

theorem updateContract_confined {c : Contract E.toDescriptors} (written : WrittenAt C id c) :
    AtDesk id (Desk.updateContract C env c) := by
  have ran : ∀ d, Desk.updateContract C env c d =
      match (c.getId C), env.writeStore c with
      | .error e, _ => (.error e, d)
      | .ok _, .error e => (.error (.err e), d)
      | .ok _, .ok _ => (.ok (), { d with contracts := d.contracts.insert id c }) := by
    intro d
    rw [Desk.updateContract, Handler.read_bind, written.update]
    cases c.getId C <;> cases env.writeStore c <;> rfl
  refine ⟨fun d d' same => ?_, fun d d' same => ?_, fun d => ?_⟩
  · rw [ran, ran]
    cases c.getId C <;> cases env.writeStore c <;> rfl
  · rw [ran, ran]
    have sent : d.sent = d'.sent := congrArg Prod.snd same
    cases c.getId C <;> cases env.writeStore c <;>
      first | exact same | exact Prod.ext (by simp [Store.insert]) sent
  · rw [ran]
    funext other
    cases c.getId C <;> cases env.writeStore c <;>
      first | rfl | exact Function.update_of_ne other.2 _ _

theorem sendTransaction_confined (tx : Transaction) :
    AtDesk id (Desk.sendTransaction env tx) := by
  refine Handler.confined_bind (Handler.confined_modify (fun d d' same => ?_) fun _ => rfl)
    fun _ _ _ _ => Handler.confined_lift _
  have stored : d.contracts id = d'.contracts id := congrArg Prod.fst same
  have sent : d.sent = d'.sent := congrArg Prod.snd same
  exact Prod.ext stored (congrArg (· ++ [tx]) sent)

theorem logErrors_confined {m : DeskHandler E.toDescriptors Unit} (confined : AtDesk id m) :
    AtDesk id (logErrors m) := by
  refine ⟨fun d d' same => ?_, fun d d' same => ?_, fun d => ?_⟩
  · have returned := confined.result d d' same
    unfold logErrors
    match ran : m d, ran' : m d' with
    | (r, _), (r', _) =>
        rw [ran, ran'] at returned
        obtain rfl : r = r' := returned
        match r with
        | .ok _ | .error (.err _) | .error (.panic _) => rfl
  · rw [Desk.logErrors_state, Desk.logErrors_state]
    exact confined.kept d d' same
  · rw [Desk.logErrors_state]
    exact confined.rest d

section Signed
variable {contract : SignedContract E.toDescriptors}

theorem closeContract_confined (cet : Transaction) :
    AtDesk id (Desk.closeContract C env contract cet) := by
  refine Handler.confined_bind (Handler.confined_lift _) fun _ _ _ _ => ?_
  refine Handler.confined_ite ?_ ?_
  · exact Handler.confined_bind (sendTransaction_confined _) fun _ _ _ _ => Handler.confined_pure _
  · refine Handler.confined_ite ?_ ?_
    · exact Handler.confined_pure _
    · exact Handler.confined_lift _

variable (own : ∀ id', contract.acceptedContract.getContractId C = .ok id' → id' = id)
include own

theorem writtenAt_closed {cet : Transaction} {closed : Contract E.toDescriptors}
    (closes : Desk.closedContract C contract cet = .ok closed) : WrittenAt C id closed := by
  simp only [Desk.closedContract, bind_eq_ok, Except.ok.injEq] at closes
  obtain ⟨contractId, found, _, -, rfl⟩ := closes
  refine ⟨?_, fun _ => nofun, fun _ => nofun⟩
  rintro _ ⟨⟩
  exact own contractId found

theorem checkSignedContract_confined : AtDesk id (Desk.checkSignedContract C env contract) :=
  Handler.confined_bind (Handler.confined_lift _) fun _ _ _ _ =>
    Handler.confined_ite (updateContract_confined ⟨own, fun _ => nofun, fun _ => nofun⟩)
      (Handler.confined_pure _)

theorem checkRefund_confined : AtDesk id (Desk.checkRefund C signer env contract) := by
  unfold Desk.checkRefund
  refine Handler.confined_ite ?_ (Handler.confined_pure _)
  refine Handler.confined_bind (Handler.confined_lift _) fun _ _ _ _ => ?_
  have written : WrittenAt C id (.refunded contract) := ⟨own, fun _ => nofun, fun _ => nofun⟩
  have sends : AtDesk id (Desk.sendRefund C signer env contract) :=
    Handler.confined_bind (Handler.confined_lift _) fun _ _ _ _ =>
      Handler.confined_bind (Handler.confined_lift _) fun _ _ _ _ => sendTransaction_confined _
  refine Handler.confined_ite ?_ ?_
  · exact Handler.confined_bind sends fun _ _ _ _ => updateContract_confined written
  · exact updateContract_confined written

/-- The contract of a closing is the same one, in another state. -/
theorem closeContract_writtenAt {cet : Transaction} {closed : Contract E.toDescriptors}
    {d d' : Desk E.toDescriptors}
    (closes : Desk.closeContract C env contract cet d = (.ok closed, d')) :
    WrittenAt C id closed := by
  have preClosed : WrittenAt C id (.preClosed { signedContract := contract, signedCet := cet }) :=
    ⟨own, fun _ => nofun, fun _ => nofun⟩
  simp only [Desk.closeContract, Handler.bind_ok, Handler.lift_ok] at closes
  obtain ⟨confirmations, _, -, closes⟩ := closes
  split at closes
  · obtain ⟨_, _, -, closes⟩ := Handler.bind_ok.mp closes
    obtain ⟨rfl, -⟩ := Handler.pure_ok.mp closes
    exact preClosed
  · split at closes
    · obtain ⟨rfl, -⟩ := Handler.pure_ok.mp closes
      exact preClosed
    · exact writtenAt_closed own (Handler.lift_ok.mp closes).1

theorem checkConfirmed_confined : AtDesk id (Desk.checkConfirmed C signer env contract) := by
  unfold Desk.checkConfirmed
  refine Handler.confined_ite (Handler.confined_pure _) (logErrors_confined ?_)
  unfold Desk.checkConfirmedContract
  split
  next =>
    refine Handler.confined_bind (Handler.confined_lift _) fun _ _ _ _ => ?_
    refine Handler.confined_bind (Handler.confined_lift _) fun _ cet _ _ => ?_
    exact Handler.confined_bind (closeContract_confined cet) fun _ _ _ closes =>
      updateContract_confined (closeContract_writtenAt own closes)
  next => exact checkRefund_confined own

end Signed

theorem checkPreclosedContract_confined {contract : PreClosedContract E.toDescriptors}
    (own : ∀ id', contract.signedContract.acceptedContract.getContractId C = .ok id' → id' = id) :
    AtDesk id (Desk.checkPreclosedContract C env contract) := by
  refine Handler.confined_bind (Handler.confined_lift _) fun _ _ _ _ => ?_
  refine Handler.confined_ite ?_ (Handler.confined_pure _)
  exact Handler.confined_bind (Handler.confined_lift _) fun _ _ _ closes =>
    updateContract_confined (writtenAt_closed own (Handler.lift_ok.mp closes).1)

end Desk

/-! The borrower's look at an offer. -/

section Offer
variable {D : Descriptors} {C : Crypto} {env : CheckEnvironment} {contract : OfferedLoanContract D}

abbrev AtLoan {α : Type} (id : ContractId) (m : Handler (Borrower D) (Fault Error) α) : Prop :=
  Handler.Confined (loanPart id) (Handler.butAt loanPart id) m

theorem escrowRecord_part {b b' : Borrower D}
    (same : loanPart contract.offeredContract.id b = loanPart contract.offeredContract.id b') :
    escrowRecord env C contract b = escrowRecord env C contract b' := by
  have escrow : b.store.escrowTxid contract.offeredContract.id =
      b'.store.escrowTxid contract.offeredContract.id := congrArg LoanPart.escrowTxid same
  have preimage : b.store.loanPreimage contract.offeredContract.id =
      b'.store.loanPreimage contract.offeredContract.id := congrArg LoanPart.loanPreimage same
  rw [escrowRecord, escrowRecord, escrow, preimage]

/-- A claim is noted under the id of its contract. -/
theorem claimed_confined {r : EscrowRecord} :
    AtLoan contract.offeredContract.id (Handler.modify fun b : Borrower D =>
      { b with claimed := b.claimed ++ [r.claim contract] }) := by
  refine Handler.confined_modify (fun b b' same => ?_) fun b => funext fun other => ?_
  · have claimed := congrArg LoanPart.claimed same
    simp only [loanPart, LoanPart.mk.injEq, List.filter_append] at same claimed ⊢
    simp only [same, and_self]
  · have apart : contract.offeredContract.id ≠ other.1 := fun equal => other.2 equal.symm
    simp [Handler.butAt, loanPart, EscrowRecord.claim, apart]

theorem confirmEscrow_confined {r : EscrowRecord} :
    AtLoan contract.offeredContract.id (confirmEscrow env C contract r) := by
  have ran : ∀ b, confirmEscrow env C contract r b =
      match env.writeStore with
      | .error e => (.error (.err e), b)
      | .ok _ => (.ok (), { b with
          store := { b.store with
            contracts := b.store.contracts.insert contract.offeredContract.id
              (.offeredLoanEscrowConfirmed contract) }
          escrowConfirmed := b.escrowConfirmed ++ [r.claim contract] }) := by
    intro b
    unfold confirmEscrow
    cases env.writeStore <;> rfl
  refine ⟨fun b b' same => ?_, fun b b' same => ?_, fun b => funext fun other => ?_⟩
  · rw [ran, ran]
    cases env.writeStore <;> rfl
  · rw [ran, ran]
    cases env.writeStore with
    | error => exact same
    | ok =>
        simp only [loanPart, LoanPart.mk.injEq, List.filter_append] at same ⊢
        obtain ⟨-, preimage, escrow, claimed, confirmed⟩ := same
        exact ⟨by simp [Store.insert], preimage, escrow, claimed, by rw [confirmed]⟩
  · rw [ran]
    have apart : contract.offeredContract.id ≠ other.1 := fun equal => other.2 equal.symm
    cases env.writeStore with
    | error => rfl
    | ok => simp [Handler.butAt, loanPart, Store.insert, EscrowRecord.claim, apart, other.2]

theorem checkOffer_confined :
    AtLoan contract.offeredContract.id (checkOffer env C contract) := by
  refine Handler.confined_bind (Handler.confined_read fun _ _ => escrowRecord_part)
    fun _ found _ _ => ?_
  cases found with
  | none => exact Handler.confined_pure _
  | some r =>
      have confirms : AtLoan contract.offeredContract.id (confirmWhenFinal env C contract r) :=
        Handler.confined_bind (Handler.confined_lift _) fun _ _ _ _ =>
          Handler.confined_ite confirmEscrow_confined (Handler.confined_pure _)
      have claims : AtLoan contract.offeredContract.id (claimStable env contract r) :=
        Handler.confined_bind (Handler.confined_lift _) fun _ _ _ _ =>
          Handler.confined_bind claimed_confined fun _ _ _ _ => Handler.confined_lift _
      refine Handler.confined_ite ?_ ?_
      · exact Handler.confined_bind claims fun _ _ _ _ => confirms
      · exact confirms

end Offer

/-! Whatever the handling does, the contracts stay under their ids. -/

def KeepsKeyed {σ : Type} {D : Descriptors} (C : Crypto) (stored : σ → Store D) (s s' : σ) : Prop :=
  Keyed C (stored s) → Keyed C (stored s')

instance {σ : Type} {D : Descriptors} {C : Crypto} {stored : σ → Store D} :
    Std.Refl (KeepsKeyed C stored) where
  refl _ keyed := keyed

instance {σ : Type} {D : Descriptors} {C : Crypto} {stored : σ → Store D} :
    IsTrans σ (KeepsKeyed C stored) where
  trans _ _ _ first next keyed := next (first keyed)

section KeyKept
variable {D : Descriptors} {C : Crypto}

theorem Keyed.insert {store : Store D} {id : ContractId} {c : Contract D} (keyed : Keyed C store)
    (own : c.getId C = .ok id) : Keyed C (store.insert id c) := by
  intro k c' stored id' found
  by_cases same : k = id
  · subst same
    rw [Store.insert, Function.update_self, Option.some.injEq] at stored
    subst stored
    exact Except.ok.inj (found.symm.trans own)
  · rw [Store.insert, Function.update_of_ne same] at stored
    exact keyed k c' stored id' found

theorem Keyed.remove {store : Store D} {id : ContractId} (keyed : Keyed C store) :
    Keyed C (store.remove id) := by
  intro k c' stored id' found
  by_cases same : k = id
  · rw [same, Store.remove, Function.update_self] at stored
    cases stored
  · rw [Store.remove, Function.update_of_ne same] at stored
    exact keyed k c' stored id' found

theorem Keyed.updateContract {store store' : Store D} {c : Contract D} (keyed : Keyed C store)
    (updated : store.updateContract C c = .ok store') : Keyed C store' := by
  simp only [Store.updateContract, bind_eq_ok] at updated
  obtain ⟨id, own, updated⟩ := updated
  split at updated <;> cases updated
  · exact keyed.remove.insert own
  · exact keyed.remove.insert own
  · exact keyed.insert own

variable {signer : Signer} {E : SigningDescriptors} {env : CheckAnswers E.toDescriptors}

abbrev DeskKeeps {α : Type} (C : Crypto) (m : Handler (Desk E.toDescriptors) (Fault Error) α) :
    Prop := Handler.Keeps (KeepsKeyed C Desk.contracts) m

theorem updateContract_keyed {c : Contract E.toDescriptors} :
    DeskKeeps C (Desk.updateContract C env c) := by
  intro d keyed
  rw [Desk.updateContract, Handler.read_bind]
  cases updated : d.contracts.updateContract C c with
  | error _ => exact keyed
  | ok store =>
      dsimp only
      rw [Handler.lift_bind]
      cases env.writeStore c with
      | error => exact keyed
      | ok => exact keyed.updateContract updated

theorem sendTransaction_keyed {tx : Transaction} : DeskKeeps C (Desk.sendTransaction env tx) :=
  fun _ keyed => keyed

theorem logErrors_keyed {m : DeskHandler E.toDescriptors Unit} (keeps : DeskKeeps C m) :
    DeskKeeps C (logErrors m) := fun d keyed => by
  rw [Desk.logErrors_state]
  exact keeps d keyed

theorem checkSignedContract_keyed {contract : SignedContract E.toDescriptors} :
    DeskKeeps C (Desk.checkSignedContract C env contract) := by
  refine Handler.keeps_bind (Handler.keeps_lift _) fun _ => ?_
  split
  · exact updateContract_keyed
  · exact Handler.keeps_pure _

theorem checkRefund_keyed {contract : SignedContract E.toDescriptors} :
    DeskKeeps C (Desk.checkRefund C signer env contract) := by
  unfold Desk.checkRefund
  dsimp only
  have sends : DeskKeeps C (Desk.sendRefund C signer env contract) :=
    Handler.keeps_bind (Handler.keeps_lift _) fun _ =>
      Handler.keeps_bind (Handler.keeps_lift _) fun _ => sendTransaction_keyed
  split
  · refine Handler.keeps_bind (Handler.keeps_lift _) fun _ => ?_
    split
    · exact Handler.keeps_bind sends fun _ => updateContract_keyed
    · exact updateContract_keyed
  · exact Handler.keeps_pure _

theorem closeContract_keyed {contract : SignedContract E.toDescriptors} {cet : Transaction} :
    DeskKeeps C (Desk.closeContract C env contract cet) := by
  refine Handler.keeps_bind (Handler.keeps_lift _) fun _ => ?_
  split
  · exact Handler.keeps_bind sendTransaction_keyed fun _ => Handler.keeps_pure _
  · split
    · exact Handler.keeps_pure _
    · exact Handler.keeps_lift _

theorem checkConfirmed_keyed {contract : SignedContract E.toDescriptors} :
    DeskKeeps C (Desk.checkConfirmed C signer env contract) := by
  unfold Desk.checkConfirmed
  split
  · exact Handler.keeps_pure _
  · refine logErrors_keyed ?_
    unfold Desk.checkConfirmedContract
    split
    · exact Handler.keeps_bind (Handler.keeps_lift _) fun _ =>
        Handler.keeps_bind (Handler.keeps_lift _) fun _ =>
          Handler.keeps_bind closeContract_keyed fun _ => updateContract_keyed
    · exact checkRefund_keyed

theorem checkPreclosedContract_keyed {contract : PreClosedContract E.toDescriptors} :
    DeskKeeps C (Desk.checkPreclosedContract C env contract) := by
  refine Handler.keeps_bind (Handler.keeps_lift _) fun _ => ?_
  split
  · exact Handler.keeps_bind (Handler.keeps_lift _) fun _ => updateContract_keyed
  · exact Handler.keeps_pure _

abbrev LoanKeeps (C : Crypto) (m : Handler (Borrower D) (Fault Error) Unit) : Prop :=
  Handler.Keeps (KeepsKeyed C fun b : Borrower D => b.store.contracts) m

theorem confirmEscrow_keyed {answers : CheckEnvironment} {contract : OfferedLoanContract D}
    {r : EscrowRecord} : LoanKeeps C (confirmEscrow answers C contract r) := by
  intro b keyed
  unfold confirmEscrow
  cases answers.writeStore with
  | error => exact keyed
  | ok => exact keyed.insert rfl

theorem checkOffer_keyed {answers : CheckEnvironment} {contract : OfferedLoanContract D} :
    LoanKeeps C (checkOffer answers C contract) := by
  refine Handler.keeps_bind (Handler.keeps_read _) fun found => ?_
  cases found with
  | none => exact Handler.keeps_pure _
  | some r =>
      have confirms : LoanKeeps C (confirmWhenFinal answers C contract r) := by
        refine Handler.keeps_bind (Handler.keeps_lift _) fun _ => ?_
        split
        · exact confirmEscrow_keyed
        · exact Handler.keeps_pure _
      have claims : LoanKeeps C (claimStable answers contract r) :=
        Handler.keeps_bind (Handler.keeps_lift _) fun _ =>
          Handler.keeps_bind (Handler.keeps_modify fun _ keyed => keyed) fun _ =>
            Handler.keeps_lift _
      dsimp only
      split
      · exact Handler.keeps_bind claims fun _ => confirms
      · exact confirms

end KeyKept

/-! The same for the whole store. -/

section Stages
variable {X : ChannelCrypto} {D : Descriptors} {C : Crypto} {id : ContractId}

abbrev AtOffice (id : ContractId) (m : OfficeHandler X D Unit) : Prop :=
  Handler.Confined (view id) (Handler.butAt view id) m

theorem onBorrower_confined {m : Handler (Borrower D) (Fault Error) Unit} (confined : AtLoan id m) :
    AtOffice (X := X) id (Office.onBorrower m) := by
  refine ⟨fun o o' same => ?_, fun o o' same => ?_, fun o => funext fun other => ?_⟩
  · exact confined.result _ _ (congrArg View.loan same)
  · have part := confined.kept _ _ (congrArg View.loan same)
    exact View.mk.injEq .. |>.mpr ⟨part, congrArg View.sent same⟩
  · have part := congrFun (confined.rest o.borrower) other
    exact View.mk.injEq .. |>.mpr ⟨part, rfl⟩

theorem loanPart_putContracts {k : ContractId} {o : Office X D} {contracts : Store D} :
    loanPart k (o.putContracts contracts).borrower =
      { loanPart k o.borrower with contract := contracts k } := rfl

theorem onDesk_confined {E : SigningDescriptors} {m : DeskHandler E.toDescriptors Unit}
    (confined : AtDesk id m) : AtOffice (X := X) id (Office.onDesk id m) := by
  have own : ∀ l : List Transaction, ((l.map (Prod.mk id)).filter (·.1 = id)).map Prod.snd = l := by
    intro l
    simp [List.filter_map, Function.comp_def]
  have others : ∀ (l : List Transaction) k, k ≠ id →
      ((l.map (Prod.mk id)).filter (·.1 = k)).map Prod.snd = [] := by
    intro l k other
    simp [List.filter_map, Function.comp_def, other.symm]
  have start : ∀ o o' : Office X E.toDescriptors, view id o = view id o' →
      atDesk id ⟨o.contracts, []⟩ = atDesk id ⟨o'.contracts, []⟩ := fun o o' same =>
    Prod.ext (congrArg (fun v => v.loan.contract) same) rfl
  refine ⟨fun o o' same => ?_, fun o o' same => ?_, fun o => funext fun other => ?_⟩
  · exact confined.result _ _ (start o o' same)
  · have kept := confined.kept _ _ (start o o' same)
    have stored := congrArg Prod.fst kept
    have sent := congrArg Prod.snd kept
    have before := congrArg View.sent same
    have loan := congrArg View.loan same
    simp only [view, Office.onDesk, loanPart_putContracts, List.filter_append, List.map_append,
      own] at stored sent before loan ⊢
    rw [stored, sent, before, loan]
  · have stored := congrFun (confined.rest ⟨o.contracts, []⟩) other
    have stored : (m ⟨o.contracts, []⟩).2.contracts other.1 = o.contracts other.1 := stored
    simp only [Handler.butAt, view, Office.onDesk, loanPart_putContracts, List.filter_append,
      List.map_append, others _ _ other.2, List.append_nil, stored]
    rfl

/-- The handling of a contract keeps to what concerns it. -/
structure Stage.Sound (C : Crypto) (S : Stage X D) : Prop where
  confined : ∀ id c a, S.pick c = some a → (∀ id', c.getId C = .ok id' → id' = id) →
    AtOffice id (S.handle id a)
  keyed : ∀ id a, Handler.Keeps (KeepsKeyed C Office.contracts) (S.handle id a)

variable {S : Stage X D} {keys : List ContractId} {o o' : Office X D}

theorem Stage.mem_listed {entry : ContractId × S.Kind} :
    entry ∈ S.listed keys o ↔
      entry.1 ∈ keys ∧ (o.contracts entry.1).bind S.pick = some entry.2 := by
  simp only [Stage.listed, List.mem_filterMap, Option.map_eq_some_iff]
  constructor
  · rintro ⟨id, listed, a, picked, rfl⟩
    exact ⟨listed, picked⟩
  · rintro ⟨listed, picked⟩
    exact ⟨entry.1, listed, entry.2, picked, rfl⟩

/-- The listed entries have the keys of the tree, without repetition. -/
theorem Stage.listed_nodup (nodup : keys.Nodup) : ((S.listed keys o).map Prod.fst).Nodup := by
  have sublist : ((S.listed keys o).map Prod.fst).Sublist keys := by
    unfold Stage.listed
    induction keys with
    | nil => exact List.Sublist.refl _
    | cons id rest ih =>
        have shorter := ih (List.nodup_cons.mp nodup).2
        cases picked : (o.contracts id).bind S.pick with
        | none =>
            rw [List.filterMap_cons_none (by rw [picked]; rfl)]
            exact shorter.cons id
        | some a =>
            rw [List.filterMap_cons_some (by rw [picked]; rfl)]
            exact shorter.cons_cons id
  exact nodup.sublist sublist

theorem Stage.turn_some {a : S.Kind} (picked : (o.contracts id).bind S.pick = some a) :
    S.turn id o = S.handle id a o := by
  rw [Stage.turn, picked]

theorem Stage.turn_none (unpicked : (o.contracts id).bind S.pick = none) :
    S.turn id o = (.ok (), o) := by
  rw [Stage.turn, unpicked]

theorem contracts_of_view (same : view id o = view id o') : o.contracts id = o'.contracts id :=
  congrArg (fun v => v.loan.contract) same

theorem Stage.Sound.handles (sound : S.Sound C) (keyed : Keyed C o.contracts) {a : S.Kind}
    (picked : (o.contracts id).bind S.pick = some a) : AtOffice id (S.handle id a) := by
  obtain ⟨c, stored, kind⟩ := Option.bind_eq_some_iff.mp picked
  exact sound.confined id c a kind (keyed id c stored)

/-- A contract's turn depends on what concerns the contract alone. -/
theorem Stage.Sound.turn_same (sound : S.Sound C) (keyed : Keyed C o.contracts)
    (same : view id o = view id o') :
    (S.turn id o).1 = (S.turn id o').1 ∧ view id (S.turn id o).2 = view id (S.turn id o').2 := by
  have stored := contracts_of_view same
  cases picked : (o.contracts id).bind S.pick with
  | none =>
      rw [Stage.turn_none picked, Stage.turn_none (stored ▸ picked)]
      exact ⟨rfl, same⟩
  | some a =>
      have handles := sound.handles keyed picked
      rw [Stage.turn_some picked, Stage.turn_some (stored ▸ picked)]
      exact ⟨handles.result o o' same, handles.kept o o' same⟩

theorem Stage.Sound.turn_keyed (sound : S.Sound C) (keyed : Keyed C o.contracts) :
    Keyed C (S.turn id o).2.contracts := by
  cases picked : (o.contracts id).bind S.pick with
  | none =>
      rw [Stage.turn_none picked]
      exact keyed
  | some a =>
      rw [Stage.turn_some picked]
      exact sound.keyed id a o keyed

theorem Stage.Sound.loop_keyed (sound : S.Sound C) (keyed : Keyed C o.contracts) :
    Keyed C (S.loop keys o).2.contracts := by
  have each : ∀ entry ∈ S.listed keys o,
      Handler.Keeps (KeepsKeyed C Office.contracts) (S.handle entry.1 entry.2) :=
    fun entry _ => sound.keyed entry.1 entry.2
  exact Handler.keeps_forEach each o keyed

/-- When no turn stops the loop, it does for each contract what the contract's turn does. -/
theorem Stage.Sound.loop_turns (sound : S.Sound C) (nodup : keys.Nodup)
    (keyed : Keyed C o.contracts) (calm : ∀ id ∈ keys, (S.turn id o).1 = .ok ()) :
    (S.loop keys o).1 = .ok () ∧
      (∀ id ∈ keys, view id (S.loop keys o).2 = view id (S.turn id o).2) ∧
      ∀ id, id ∉ keys → view id (S.loop keys o).2 = view id o := by
  obtain ⟨returned, turns, untouched⟩ := Handler.forEach_confined view
    (h := fun entry => S.handle entry.1 entry.2) (s := o) (Stage.listed_nodup nodup)
    (fun entry listed => sound.handles keyed (Stage.mem_listed.mp listed).2)
    (fun entry listed => by
      obtain ⟨known, picked⟩ := Stage.mem_listed.mp listed
      rw [← Stage.turn_some picked]
      exact calm entry.1 known)
  refine ⟨returned, fun id known => ?_, fun id unknown => ?_⟩
  rotate_left
  · refine untouched id fun listed => unknown ?_
    obtain ⟨entry, member, rfl⟩ := List.mem_map.mp listed
    exact (Stage.mem_listed.mp member).1
  cases picked : (o.contracts id).bind S.pick with
  | none =>
      rw [Stage.turn_none picked]
      refine untouched id fun listed => ?_
      obtain ⟨entry, member, rfl⟩ := List.mem_map.mp listed
      rw [(Stage.mem_listed.mp member).2] at picked
      cases picked
  | some a =>
      rw [Stage.turn_some picked]
      exact turns (id, a) (Stage.mem_listed.mpr ⟨known, picked⟩)

theorem Stage.Sound.turns_of_loop (sound : S.Sound C) (nodup : keys.Nodup)
    (keyed : Keyed C o.contracts) (finished : (S.loop keys o).1 = .ok ()) :
    ∀ id ∈ keys, (S.turn id o).1 = .ok () := by
  intro id known
  cases picked : (o.contracts id).bind S.pick with
  | none => rw [Stage.turn_none picked]
  | some a =>
      rw [Stage.turn_some picked]
      exact Handler.calm_of_forEach (Stage.listed_nodup nodup)
        (fun entry listed => sound.handles keyed (Stage.mem_listed.mp listed).2) finished
        (id, a) (Stage.mem_listed.mpr ⟨known, picked⟩)

/-- The loops one after the other. -/
def loops (keys : List ContractId) : List (Stage X D) → OfficeHandler X D Unit
  | [] => pure ()
  | S :: later => do
      S.loop keys
      loops keys later

/-- What they do for one contract. -/
def turns (id : ContractId) : List (Stage X D) → OfficeHandler X D Unit
  | [] => pure ()
  | S :: later => do
      S.turn id
      turns id later

variable {stages : List (Stage X D)}

theorem turns_same (sound : ∀ S ∈ stages, S.Sound C) (keyed : Keyed C o.contracts)
    (same : view id o = view id o') :
    (turns id stages o).1 = (turns id stages o').1 ∧
      view id (turns id stages o).2 = view id (turns id stages o').2 := by
  induction stages generalizing o o' with
  | nil => exact ⟨rfl, same⟩
  | cons S later ih =>
      have first := sound S List.mem_cons_self
      obtain ⟨returned, left⟩ := first.turn_same keyed same
      rw [turns, Handler.bind_apply, Handler.bind_apply]
      match ran : S.turn id o, ran' : S.turn id o' with
      | (.ok _, t), (.ok _, t') =>
          rw [ran, ran'] at left
          have kept : Keyed C (S.turn id o).2.contracts := first.turn_keyed keyed
          rw [ran] at kept
          exact ih (fun S listed => sound S (List.mem_cons_of_mem _ listed)) kept left
      | (.error e, t), (.error e', t') =>
          rw [ran, ran'] at returned left
          exact ⟨returned, left⟩
      | (.ok _, t), (.error e, t') =>
          rw [ran, ran'] at returned
          cases returned
      | (.error e, t), (.ok _, t') =>
          rw [ran, ran'] at returned
          cases returned

theorem turns_absent (absent : o.contracts id = none) : turns id stages o = (.ok (), o) := by
  induction stages with
  | nil => rfl
  | cons S later ih =>
      rw [turns, Handler.bind_apply, Stage.turn_none (by rw [absent]; rfl)]
      exact ih

/-- When no contract stops the loops, each is treated as its turns alone treat it. -/
theorem loops_turns (sound : ∀ S ∈ stages, S.Sound C) (nodup : keys.Nodup)
    (keyed : Keyed C o.contracts) (calm : ∀ id ∈ keys, (turns id stages o).1 = .ok ()) :
    (loops keys stages o).1 = .ok () ∧
      (∀ id ∈ keys, view id (loops keys stages o).2 = view id (turns id stages o).2) ∧
      ∀ id, id ∉ keys → view id (loops keys stages o).2 = view id o := by
  induction stages generalizing o with
  | nil => exact ⟨rfl, fun _ _ => rfl, fun _ _ => rfl⟩
  | cons S later ih =>
      have first := sound S List.mem_cons_self
      have rest := fun S listed => sound S (List.mem_cons_of_mem _ listed)
      have began : ∀ id ∈ keys, S.turn id o = (.ok (), (S.turn id o).2) := by
        intro id known
        have finished := calm id known
        rw [turns, Handler.bind_apply] at finished
        match ran : S.turn id o with
        | (.ok _, _) => rfl
        | (.error e, _) =>
            rw [ran] at finished
            cases finished
      have each : ∀ id ∈ keys, turns id (S :: later) o = turns id later (S.turn id o).2 := by
        intro id known
        rw [turns, Handler.bind_apply, began id known]
      obtain ⟨returned, reached, untouched⟩ := first.loop_turns nodup keyed fun id known =>
        congrArg Prod.fst (began id known)
      have keyed' : Keyed C (S.loop keys o).2.contracts := first.loop_keyed keyed
      have same : ∀ id ∈ keys, _ := fun id known => turns_same rest keyed' (reached id known)
      obtain ⟨returned', reached', untouched'⟩ := ih rest keyed' fun id known => by
        rw [(same id known).1, ← each id known]
        exact calm id known
      have ran : loops keys (S :: later) o = loops keys later (S.loop keys o).2 := by
        have ok : S.loop keys o = (.ok (), (S.loop keys o).2) := Prod.ext returned rfl
        rw [loops, Handler.bind_apply, ok]
      rw [ran]
      refine ⟨returned', fun id known => ?_, fun id unknown => ?_⟩
      · rw [each id known]
        exact (reached' id known).trans (same id known).2
      · exact (untouched' id unknown).trans (untouched id unknown)

/-- Loops that are not stopped are stopped by no contract's turns. -/
theorem turns_of_loops (sound : ∀ S ∈ stages, S.Sound C) (nodup : keys.Nodup)
    (keyed : Keyed C o.contracts) (finished : (loops keys stages o).1 = .ok ()) :
    ∀ id ∈ keys, (turns id stages o).1 = .ok () := by
  induction stages generalizing o with
  | nil => exact fun _ _ => rfl
  | cons S later ih =>
      have first := sound S List.mem_cons_self
      have rest := fun S listed => sound S (List.mem_cons_of_mem _ listed)
      obtain ⟨_, o₁, ran, finished'⟩ := Handler.bind_ok.mp (Prod.ext finished rfl)
      have calm : ∀ id ∈ keys, (S.turn id o).1 = .ok () := first.turns_of_loop nodup keyed (by rw [ran])
      obtain ⟨-, reached, -⟩ := first.loop_turns nodup keyed calm
      have keyed' : Keyed C (S.loop keys o).2.contracts := first.loop_keyed keyed
      rw [ran] at reached keyed'
      intro id known
      have ok : S.turn id o = (.ok (), (S.turn id o).2) := Prod.ext (calm id known) rfl
      rw [turns, Handler.bind_apply, ok]
      dsimp only
      rw [← (turns_same rest keyed' (reached id known)).1]
      exact ih rest keyed' (congrArg Prod.fst finished') id known

def Office.without (absent : ContractId) (o : Office X D) : Office X D :=
  o.putContracts (o.contracts.remove absent)

theorem view_without {absent : ContractId} (other : id ≠ absent) :
    view id (o.without absent) = view id o := by
  have stored : (o.without absent).contracts id = o.contracts id :=
    Function.update_of_ne other _ _
  exact View.mk.injEq .. |>.mpr ⟨LoanPart.mk.injEq .. |>.mpr ⟨stored, rfl, rfl, rfl, rfl⟩, rfl⟩

/-- A contract that does not stop the loops may as well be absent, for all others. -/
theorem loops_without (sound : ∀ S ∈ stages, S.Sound C) (nodup : keys.Nodup)
    (keyed : Keyed C o.contracts) (calm : ∀ id ∈ keys, (turns id stages o).1 = .ok ())
    {absent : ContractId} (other : id ≠ absent) :
    view id (loops keys stages o).2 = view id (loops keys stages (o.without absent)).2 := by
  have keyed' : Keyed C (o.without absent).contracts := keyed.remove
  obtain ⟨-, reached, untouched⟩ := loops_turns sound nodup keyed calm
  have calm' : ∀ id ∈ keys, (turns id stages (o.without absent)).1 = .ok () := by
    intro id known
    by_cases same : id = absent
    · subst same
      have gone : (o.without id).contracts id = none := Function.update_self _ _ _
      rw [turns_absent gone]
    · rw [← (turns_same sound keyed (view_without same).symm).1]
      exact calm id known
  obtain ⟨-, reached', untouched'⟩ := loops_turns sound nodup keyed' calm'
  by_cases known : id ∈ keys
  · rw [reached id known, reached' id known]
    exact (turns_same sound keyed (view_without other).symm).2
  · rw [untouched id known, untouched' id known, view_without other]

end Stages

/-! The loops of the source. -/

section Check
variable {X : ChannelCrypto} {signer : Signer} {E : SigningDescriptors}
  {round : Round E.toDescriptors} {evmPk : String} {o : Office X E.toDescriptors}

def stages (X : ChannelCrypto) (signer : Signer) {E : SigningDescriptors}
    (round : Round E.toDescriptors) : List (Stage X E.toDescriptors) :=
  [offers X round, signedContracts X round, confirmedContracts X signer round,
    preClosedContracts X round]

theorem offers_sound : (offers X round).Sound X.toCrypto := by
  refine ⟨fun id c a picked own => ?_, fun id a o keyed => checkOffer_keyed o.borrower keyed⟩
  cases c <;> cases picked
  obtain rfl := own _ rfl
  exact onBorrower_confined checkOffer_confined

theorem stages_sound : ∀ S ∈ stages X signer round, S.Sound X.toCrypto := by
  intro S listed
  simp only [stages, List.mem_cons, List.not_mem_nil, or_false] at listed
  rcases listed with rfl | rfl | rfl | rfl
  · exact offers_sound
  · refine ⟨fun id c a picked own => ?_, fun id a o keyed =>
      logErrors_keyed checkSignedContract_keyed ⟨o.contracts, []⟩ keyed⟩
    cases c <;> cases picked
    exact onDesk_confined (logErrors_confined (checkSignedContract_confined own))
  · refine ⟨fun id c a picked own => ?_, fun id a o keyed =>
      checkConfirmed_keyed ⟨o.contracts, []⟩ keyed⟩
    obtain rfl := Contract.confirmed?_eq_some.mp picked
    exact onDesk_confined (checkConfirmed_confined own)
  · refine ⟨fun id c a picked own => ?_, fun id a o keyed =>
      logErrors_keyed checkPreclosedContract_keyed ⟨o.contracts, []⟩ keyed⟩
    cases c <;> cases picked
    exact onDesk_confined (logErrors_confined (checkPreclosedContract_confined own))

theorem onBorrower_bind {D : Descriptors} {m : Handler (Borrower D) (Fault Error) Unit}
    {f : Unit → Handler (Borrower D) (Fault Error) Unit} :
    Office.onBorrower (X := X) (m >>= f) =
      Office.onBorrower m >>= fun u => Office.onBorrower (f u) := by
  funext o
  rw [Handler.bind_apply]
  unfold Office.onBorrower
  rw [Handler.bind_apply]
  match ran : m o.borrower with
  | (.ok _, _) | (.error _, _) => rfl

theorem checkOffers_loop (entries : List (ContractId × OfferedLoanContract E.toDescriptors)) :
    Office.onBorrower (X := X) (checkOffers X.toCrypto round.poll (entries.map Prod.snd)) =
      Handler.forEach (fun entry => (offers X round).handle entry.1 entry.2) entries := by
  induction entries with
  | nil => rfl
  | cons entry rest ih =>
      rw [List.map_cons, checkOffers, onBorrower_bind, Handler.forEach, ih]
      rfl

theorem checkOffers_answers {D : Descriptors} {C : Crypto} {poll poll' : Poll D} (same : poll.answers = poll'.answers)
    (l : List (OfferedLoanContract D)) : checkOffers C poll l = checkOffers C poll' l := by
  induction l with
  | nil => rfl
  | cons c rest ih => rw [checkOffers, checkOffers, same, ih]

theorem loops_last {D : Descriptors} {S : Stage X D} {keys : List ContractId} :
    loops keys [S] = S.loop keys := by
  funext o
  rw [loops, loops, Handler.bind_apply]
  match S.loop keys o with
  | (.ok _, _) | (.error _, _) => rfl

theorem checkLoanOffers_eq (parses : round.poll.parsesEvmKey evmPk = true) :
    checkLoanOffers X round evmPk = (offers X round).loop round.keys := by
  funext o
  have asked : checkOfferedLoanContractsForEscrow X.toCrypto
      { round.poll with
        loanContractOffers := .ok (((offers X round).listed round.keys o).map Prod.snd) } evmPk =
      checkOffers X.toCrypto round.poll (((offers X round).listed round.keys o).map Prod.snd) := by
    rw [checkOfferedLoanContractsForEscrow, ensure, if_pos parses]
    refine checkOffers_answers ?_ _
    rfl
  rw [checkLoanOffers, asked]
  exact congrFun (checkOffers_loop ((offers X round).listed round.keys o)) o

theorem checkContracts_eq (parses : round.poll.parsesEvmKey evmPk = true) :
    checkContracts X signer round evmPk = loops round.keys (stages X signer round) := by
  have last : loops round.keys [preClosedContracts X round] =
      (preClosedContracts X round).loop round.keys := loops_last
  rw [checkContracts, checkLoanOffers_eq parses, ← last]
  rfl

/-- A handling of an offer that fails leaves everything but the offers as it is. -/
theorem checkLoanOffers_others {id : ContractId} (parses : round.poll.parsesEvmKey evmPk = true)
    (keyed : Keyed X.toCrypto o.contracts) (other : (o.contracts id).bind Contract.offeredLoan? = none) :
    view id (checkLoanOffers X round evmPk o).2 = view id o := by
  rw [checkLoanOffers_eq parses]
  have unlisted : id ∉ ((offers X round).listed round.keys o).map Prod.fst := by
    intro listed
    obtain ⟨entry, member, rfl⟩ := List.mem_map.mp listed
    exact absurd (other.symm.trans (Stage.mem_listed.mp member).2) nofun
  refine Handler.forEach_untouched view (fun entry listed => ?_) unlisted
  exact offers_sound.handles keyed (Stage.mem_listed.mp listed).2

end Check

/-! The watched transactions. -/

section Watched
variable {X : ChannelCrypto} {signer : Signer} {E : SigningDescriptors}
  {env : Environment E.toDescriptors}

/-- What becomes of a channel when one of its watched transactions has confirmed. -/
def Node.recordAfter (X : ChannelCrypto) (signer : Signer) {E : SigningDescriptors}
    (env : Environment E.toDescriptors) (ch : SignedChannel X) (tx : Transaction) :
    TxType → ChannelRecord X
  | .bufferTx =>
      match ch.state.contractId with
      | some contractId =>
          .signed (ch.enter (.closing ⟨tx, contractId, false, ch.state.keysId⟩))
      | none => .signed ch
  | .revoked updateIdx ownAdaptorSignature isOffer revokedTxType =>
      match punish X signer env ch tx updateIdx ownAdaptorSignature isOffer revokedTxType with
      | .ok signedTx => .closedPunished ch.closedChannel (signedTx.computeTxid X.toCrypto)
      | .error _ => .signed ch
  | .collaborativeClose => .collaborativelyClosed ch.closedChannel
  | .settleTx => .counterClosed ch.closedChannel
  | .cet =>
      let isInitiator := match ch.state with
        | .closing s => s.isInitiator
        | _ => true
      if isInitiator then .closed ch.closedChannel else .counterClosed ch.closedChannel

theorem Node.processSigned_record {n n' : Node X E.toDescriptors} {ch : SignedChannel X}
    {tx : Transaction} {txType : TxType} {u : Unit}
    (done : processSigned X signer env ch tx txType n = (.ok u, n')) :
    n'.channel = recordAfter X signer env ch tx txType := by
  cases txType with
  | bufferTx =>
      simp only [processSigned, onBufferTx, Handler.bind_ok, Handler.lift_ok,
        upsertChannel_none_ok] at done
      obtain ⟨contractId, _, ⟨named, rfl⟩, rfl⟩ := done
      rw [recordAfter]
      cases found : ch.state.contractId with
      | some id =>
          rw [found] at named
          cases named
          rfl
      | none =>
          rw [found] at named
          cases named
  | revoked =>
      simp only [processSigned, onRevoked, Handler.bind_ok, Handler.lift_ok, broadcast_ok,
        cleanupChannel_ok, upsertChannel_none_ok, persistChainMonitor_ok] at done
      obtain ⟨signedTx, _, ⟨made, rfl⟩, _, _, ⟨-, rfl⟩, _, _, rfl, _, _, rfl, rfl⟩ := done
      rw [recordAfter, made]
  | collaborativeClose =>
      simp only [processSigned, onCollaborativeClose, Handler.bind_ok, cleanupChannel_ok,
        upsertChannel_none_ok, persistChainMonitor_ok] at done
      obtain ⟨_, _, -, _, _, -, _, _, rfl, _, _, rfl, rfl⟩ := done
      rfl
  | settleTx =>
      simp only [processSigned, onSettleTx, Handler.bind_ok, cleanupChannel_ok,
        upsertChannel_none_ok, persistChainMonitor_ok] at done
      obtain ⟨_, _, rfl, _, _, rfl, rfl⟩ := done
      rfl
  | cet =>
      simp only [processSigned, onCet, Handler.bind_ok, cleanupChannel_ok, Handler.read_ok,
        persistChainMonitor_ok] at done
      obtain ⟨_, _, rfl, _, _, ⟨-, rfl⟩, _, _, upserted, rfl⟩ := done
      have stored := upsertChannel_channel upserted
      rw [stored]
      rfl

namespace Hub
variable {h h' : Hub X E.toDescriptors}

/-- What a confirmed watched transaction makes of a record: something only of its channel's. -/
def watchedRecord (X : ChannelCrypto) (signer : Signer) {E : SigningDescriptors}
    (env : Environment E.toDescriptors) (c : ChannelRecord X) (w : Transaction × ChannelInfo) :
    ChannelRecord X :=
  if c.getId = w.2.channelId then
    match c with
    | .signed ch => Node.recordAfter X signer env ch w.1 w.2.txType
    | .closed _ | .counterClosed _ | .collaborativelyClosed _ | .closedPunished _ _ => c
  else c

theorem watchedRecord_of_node {n n' : Node X E.toDescriptors} {w : Transaction × ChannelInfo}
    (named : n.channel.getId = w.2.channelId)
    (done : Node.processWatchedTx X signer env w n = (.ok (), n')) :
    n'.channel = watchedRecord X signer env n.channel w := by
  unfold watchedRecord
  rw [if_pos named]
  unfold Node.processWatchedTx at done
  match found : n.getSigned w.2.channelId none with
  | .ok ch =>
      rw [found] at done
      rw [(Node.getSigned_ok.mp found).1]
      exact Node.processSigned_record done
  | .error _ =>
      rw [found] at done
      cases done
      match signed : n.channel with
      | .signed ch =>
          have ok : n.getSigned w.2.channelId none = .ok ch :=
            Node.getSigned_ok.mpr ⟨signed, by rw [← named, signed]; rfl, rfl⟩
          rw [found] at ok
          cases ok
      | .closed _ | .counterClosed _ | .collaborativelyClosed _ | .closedPunished _ _ => rfl

theorem processWatchedTx_records {w : Transaction × ChannelInfo}
    (done : processWatchedTx X signer env w h = (.ok (), h')) :
    h'.channels = h.channels.map fun c => watchedRecord X signer env c w := by
  unfold processWatchedTx atId at done
  split at done
  next c found =>
    have stored := List.mem_of_find?_eq_some found
    have named : c.getId = w.2.channelId := by simpa using List.find?_some found
    obtain ⟨returned, rfl⟩ := Prod.mk.inj done
    have reached : (Node.processWatchedTx X signer env w (h.nodeOf c)).2.channel =
        watchedRecord X signer env c w := watchedRecord_of_node named (Prod.ext returned rfl)
    have id : (Node.processWatchedTx X signer env w (h.nodeOf c)).2.channel.getId = c.getId :=
      (Node.processWatchedTx_evolves w).getId
    refine List.map_congr_left fun c' member => ?_
    by_cases same : c'.getId = c.getId
    · obtain rfl := List.inj_on_of_nodup_map h.keyed member stored same
      rw [upsert, if_pos id.symm, reached]
    · unfold watchedRecord
      rw [upsert, if_neg fun equal => same (equal.trans id),
        if_neg fun equal => same (equal.trans named.symm)]
  next absent =>
    cases done
    have others : ∀ c ∈ h.channels, watchedRecord X signer env c w = c := by
      intro c stored
      have other := List.find?_eq_none.mp absent c stored
      exact if_neg (by simpa using other)
    rw [List.map_congr_left others, List.map_id']

/-- When no handling stops the loop, every channel is treated by its own transactions alone. -/
theorem watched_records {ws : List (Transaction × ChannelInfo)}
    (done : Handler.forEach (processWatchedTx X signer env) ws h = (.ok (), h')) :
    h'.channels = h.channels.map fun c => ws.foldl (watchedRecord X signer env) c := by
  induction ws generalizing h with
  | nil =>
      cases done
      exact (List.map_id' _).symm
  | cons w rest ih =>
      obtain ⟨_, h₁, first, later⟩ := Handler.bind_ok.mp done
      rw [ih later, processWatchedTx_records first, List.map_map]
      rfl

end Hub

end Watched

/-! Isolation. -/

section Isolation
variable {X : ChannelCrypto} {signer : Signer} {E : SigningDescriptors}
  {round : Round E.toDescriptors} {evmPk : String} {o : Office X E.toDescriptors}

/-- No contract's own handling stops the check. -/
def Calm (X : ChannelCrypto) (signer : Signer) {E : SigningDescriptors}
    (round : Round E.toDescriptors) (o : Office X E.toDescriptors) : Prop :=
  ∀ id ∈ round.keys, (turns id (stages X signer round) o).1 = .ok ()

/-- Every contract is treated as if any other were absent, and the check goes on to the
channels as they are stored. -/
structure Isolates (X : ChannelCrypto) (signer : Signer) {E : SigningDescriptors}
    (round : Round E.toDescriptors) (evmPk : String) (o : Office X E.toDescriptors) : Prop where
  contracts : ∀ absent id, id ≠ absent → view id (checkContracts X signer round evmPk o).2 =
    view id (checkContracts X signer round evmPk (o.without absent)).2
  channels : periodicCheck X signer round true evmPk o =
    Office.onHub (Hub.channelChecks X signer round.toEnvironment)
      (checkContracts X signer round evmPk o).2
  stored : (checkContracts X signer round evmPk o).2.hub =
    { o.hub with contracts := (checkContracts X signer round evmPk o).2.contracts }
  finished : (checkContracts X signer round evmPk o).1 = .ok ()

/-- The channels and what watches them stay as they are. -/
def KeepsChannels {D : Descriptors} (o o' : Office X D) : Prop :=
  o'.hub = { o.hub with contracts := o'.contracts }

instance {D : Descriptors} : Std.Refl (KeepsChannels (X := X) (D := D)) where
  refl _ := rfl

instance {D : Descriptors} : IsTrans (Office X D) KeepsChannels where
  trans a b c first next := by
    rw [KeepsChannels] at *
    rw [next, first]

theorem checkContracts_keepsChannels :
    Handler.Keeps KeepsChannels (checkContracts X signer round evmPk) := by
  have loops : ∀ S : Stage X E.toDescriptors, (∀ id a, Handler.Keeps KeepsChannels (S.handle id a)) →
      Handler.Keeps KeepsChannels (S.loop round.keys) := fun S each o =>
    Handler.keeps_forEach (fun entry _ => each entry.1 entry.2) o
  refine Handler.keeps_bind (fun _ => rfl) fun _ => ?_
  refine Handler.keeps_bind (loops _ fun _ _ _ => rfl) fun _ => ?_
  exact Handler.keeps_bind (loops _ fun _ _ _ => rfl) fun _ => loops _ fun _ _ _ => rfl

theorem isolates_iff_calm (parses : round.poll.parsesEvmKey evmPk = true)
    (nodup : round.keys.Nodup) (keyed : Keyed X.toCrypto o.contracts) :
    Isolates X signer round evmPk o ↔ Calm X signer round o := by
  constructor
  · intro isolates
    have finished := isolates.finished
    rw [checkContracts_eq parses] at finished
    exact turns_of_loops stages_sound nodup keyed finished
  · intro calm
    have finished : (checkContracts X signer round evmPk o).1 = .ok () := by
      rw [checkContracts_eq parses]
      exact (loops_turns stages_sound nodup keyed calm).1
    refine ⟨fun absent id other => ?_, ?_, checkContracts_keepsChannels o, finished⟩
    · rw [checkContracts_eq parses]
      exact loops_without stages_sound nodup keyed calm other
    · have ran : checkContracts X signer round evmPk o =
          (.ok (), (checkContracts X signer round evmPk o).2) := Prod.ext finished rfl
      rw [periodicCheck, Handler.bind_apply, ran]
      rfl

/-- The periodic check treats every contract as if any other were absent and goes on to the
channels exactly when no contract's own handling stops it. When that of an offer does, the
other contracts stay as they are. Of the watched transactions each channel is treated by
its own alone when no handling of one stops the loop, and one that does is the last. -/
theorem periodic_check_isolates_iff (parses : round.poll.parsesEvmKey evmPk = true)
    (nodup : round.keys.Nodup) (keyed : Keyed X.toCrypto o.contracts) :
    (Isolates X signer round evmPk o ↔ Calm X signer round o) ∧
    (∀ e, (checkLoanOffers X round evmPk o).1 = .error e → ∀ withChannels,
      (periodicCheck X signer round withChannels evmPk o).1 = .error e ∧
      ∀ id, (o.contracts id).bind Contract.offeredLoan? = none →
        view id (periodicCheck X signer round withChannels evmPk o).2 = view id o) ∧
    ∀ (env : Environment E.toDescriptors) (h h' : Hub X E.toDescriptors) watchedTxs,
      Handler.forEach (Hub.processWatchedTx X signer env) watchedTxs h = (.ok (), h') →
        (h'.channels = h.channels.map fun c =>
          watchedTxs.foldl (Hub.watchedRecord X signer env) c) ∧
        ∀ watched later e h'', Hub.processWatchedTx X signer env watched h' = (.error e, h'') →
          Handler.forEach (Hub.processWatchedTx X signer env) (watchedTxs ++ watched :: later) h =
            (.error e, h'') := by
  refine ⟨isolates_iff_calm parses nodup keyed, fun e failed withChannels => ?_,
    fun env h h' watchedTxs done =>
      ⟨Hub.watched_records done, fun _ _ _ _ stops => Handler.forEach_stops done stops⟩⟩
  have first : checkLoanOffers X round evmPk o =
      (.error e, (checkLoanOffers X round evmPk o).2) := Prod.ext failed rfl
  have stopped : periodicCheck X signer round withChannels evmPk o =
      (.error e, (checkLoanOffers X round evmPk o).2) := by
    rw [periodicCheck, checkContracts, Handler.bind_apply, Handler.bind_apply, first]
  rw [stopped]
  exact ⟨rfl, fun id other => checkLoanOffers_others parses keyed other⟩

end Isolation

/-! A borrower with an escrowed offer and a signed contract whose fund transaction is final. -/

def sampleSignedId : ContractId :=
  match (sampleSignedContract true).acceptedContract.getContractId sampleCrypto with
  | .ok id => id
  | .error _ => 0

def sampleContracts : Store refundSigning.toDescriptors := fun id =>
  if id = 7 then some (.offeredLoan sampleLoanOffer)
  else if id = sampleSignedId then some (.signed (sampleSignedContract true)) else none

def sampleOffice : Office refundCrypto refundSigning.toDescriptors where
  borrower := .start { sampleLoanStore with contracts := sampleContracts }
  sent := []
  channels := []
  keyed := List.nodup_nil
  chainMonitor := sampleMonitor
  persistedChainMonitor := sampleMonitor
  channelsSent := []

/-- A check in which the lending contract answers as given. -/
def sampleRound (recorded : Option ℕ) : Round refundSigning.toDescriptors :=
  { silentAnswers with
    unixTimeNow := 50
    getTransactionConfirmations := fun _ => .ok 6
    poll := { samplePoll 0 0 with
      answers := fun _ => { sampleCheckEnvironment 0 0 with
        stableLoanCollateral := fun _ _ => recorded } }
    keys := [7, sampleSignedId] }

theorem keyed_of_two {D : Descriptors} {C : Crypto} {a b : ContractId} {c c' : Contract D}
    (first : ∀ id, c.getId C = .ok id → id = a) (second : ∀ id, c'.getId C = .ok id → id = b) :
    Keyed C fun id => if id = a then some c else if id = b then some c' else none := by
  intro id found stored id' own
  dsimp only at stored
  split_ifs at stored with isFirst isSecond
  · cases stored
    exact (first id' own).trans isFirst.symm
  · cases stored
    exact (second id' own).trans isSecond.symm

theorem sampleSigned_id (id : ContractId)
    (own : (Contract.signed (sampleSignedContract true)).getId sampleCrypto = .ok id) :
    id = sampleSignedId := by
  have picked : ∀ r : Result ContractId, r = .ok id → id = match r with
      | .ok id => id
      | .error _ => 0 := by
    rintro _ rfl
    rfl
  exact picked _ own

theorem sampleOffice_keyed : Keyed refundCrypto.toCrypto sampleOffice.contracts :=
  keyed_of_two (fun _ own => (Except.ok.inj own).symm) sampleSigned_id

theorem empty_record_isolates :
    Isolates refundCrypto (refundSigner sampleKey₁ 1) (sampleRound (some 0)) sampleEvmKey
      sampleOffice := by
  have calm : (sampleRound (some 0)).keys.all (fun id => (turns id (stages refundCrypto
      (refundSigner sampleKey₁ 1) (sampleRound (some 0))) sampleOffice).1.isOk) = true := by
    decide +kernel
  refine (periodic_check_isolates_iff rfl (by decide +kernel) sampleOffice_keyed).1.mpr ?_
  intro id known
  have fine := List.all_eq_true.mp calm id known
  match ran : (turns id (stages refundCrypto (refundSigner sampleKey₁ 1) (sampleRound (some 0)))
      sampleOffice).1 with
  | .ok _ => rfl
  | .error _ =>
      rw [ran] at fine
      cases fine

/-- Without an answer of the lending contract about the offer, the signed contract stays
unconfirmed; without the offer it is confirmed. -/
theorem silent_lending_contract_stops_check :
    ((periodicCheck refundCrypto (refundSigner sampleKey₁ 1) (sampleRound none) true sampleEvmKey
      sampleOffice).2.contracts sampleSignedId).map Contract.state = some "signed" ∧
    ((periodicCheck refundCrypto (refundSigner sampleKey₁ 1) (sampleRound none) true sampleEvmKey
      (sampleOffice.without 7)).2.contracts sampleSignedId).map Contract.state =
        some "confirmed" := by
  constructor
  · decide +kernel
  · decide +kernel

end P2PLending.Manager.Channels
