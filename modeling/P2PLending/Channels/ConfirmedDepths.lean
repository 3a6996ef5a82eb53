import P2PLending.Channels.FaultIsolation
import P2PLending.Manager.Confirmations

/-! What the counts of a provider lead to. Each check tests the confirmations of one transaction
before it moves a contract or a channel on; over a run of checks every move is backed by the depth
of that transaction as long as the provider's answers are steady. -/

namespace P2PLending.Manager.Channels
open Dlc Checked

/-- The answers of a check, as far as they are numbers of confirmations those of a provider. -/
structure Answers (D : Descriptors) extends Round D where
  provider : Bytes32 → Answer
  about : ∀ txid, (provider txid).txid = txid
  counted : ∀ txid n, getTransactionConfirmations txid = .ok n →
    (provider txid).confirmations = .ok n
  polled : ∀ id txid n, (poll.answers id).confirmations txid = .ok n →
    (provider txid).confirmations = .ok n

namespace Answers
variable {D : Descriptors} (a : Answers D)

def depth (txid : Bytes32) : ℕ := (a.provider txid).depth

def Steady : Prop := ∀ txid, (a.provider txid).Steady

variable {a}

theorem Steady.counted (steady : a.Steady) {txid : Bytes32} {n : ℕ}
    (answered : a.getTransactionConfirmations txid = .ok n) : n ≤ a.depth txid :=
  (a.provider txid).le_depth_iff.mpr (steady txid) n (a.counted txid n answered)

theorem Steady.polled (steady : a.Steady) {id : ContractId} {txid : Bytes32} {n : ℕ}
    (answered : (a.poll.answers id).confirmations txid = .ok n) : n ≤ a.depth txid :=
  (a.provider txid).le_depth_iff.mpr (steady txid) n (a.polled id txid n answered)

end Answers

/-- The depth behind a contract that a closing stores. -/
def ClosingBacked {D : Descriptors} (C : Crypto) (depth : Bytes32 → ℕ)
    (broadcast : Transaction → Prop) : Contract D → Prop
  | .closed c => ∀ cet, c.signedCet = some cet → nbConfirmations ≤ depth (cet.computeTxid C)
  | .preClosed c => 1 ≤ depth (c.signedCet.computeTxid C) ∨ broadcast c.signedCet
  | _ => True

section Desks
variable {C : Crypto} {E : SigningDescriptors} {env : CheckAnswers E.toDescriptors}
  {depth : Bytes32 → ℕ} {d : Desk E.toDescriptors}

theorem updateContract_contracts (C : Crypto) (env : CheckAnswers E.toDescriptors)
    (c : Contract E.toDescriptors) (d : Desk E.toDescriptors) :
    (Desk.updateContract C env c d).2.contracts = d.contracts ∨
      d.contracts.updateContract C c = .ok (Desk.updateContract C env c d).2.contracts := by
  rw [Desk.updateContract, Handler.read_bind]
  split
  · next stored =>
    rw [Handler.lift_bind]
    split
    · exact .inr stored
    · exact .inl rfl
  · exact .inl rfl

theorem closedContract_ok {c : SignedContract E.toDescriptors} {cet : Transaction}
    {closed : Contract E.toDescriptors} (closes : Desk.closedContract C c cet = .ok closed) :
    ∃ record, closed = .closed record ∧ record.signedCet = some cet := by
  simp only [Desk.closedContract, bind_eq_ok, Except.ok.injEq] at closes
  obtain ⟨_, _, _, -, rfl⟩ := closes
  exact ⟨_, rfl, rfl⟩

/-- A closing that fails stores nothing. -/
theorem closeContract_contracts (C : Crypto) (env : CheckAnswers E.toDescriptors)
    (c : SignedContract E.toDescriptors) (cet : Transaction) (d : Desk E.toDescriptors) :
    (Desk.closeContract C env c cet d).2.contracts = d.contracts := by
  rw [Desk.closeContract, Handler.lift_bind]
  split
  · split
    · have kept : (Desk.sendTransaction env cet d).2.contracts = d.contracts := rfl
      rw [Handler.bind_apply]
      cases sends : Desk.sendTransaction env cet d with
      | mk answer d' =>
          rw [sends] at kept
          cases answer with
          | error _ => exact kept
          | ok _ => exact kept
    · split
      · rfl
      · rfl
  · rfl

variable (counted : ∀ txid n, env.getTransactionConfirmations txid = .ok n → n ≤ depth txid)
include counted

theorem checkSignedContract_backed (c : SignedContract E.toDescriptors)
    (moved : (Desk.checkSignedContract C env c d).2.contracts ≠ d.contracts) :
    nbConfirmations ≤ depth (c.acceptedContract.dlcTransactions.fund.computeTxid C) := by
  rw [Desk.checkSignedContract, Handler.lift_bind] at moved
  split at moved
  · next n answered =>
    split at moved
    · next enough => exact enough.trans (counted _ n answered)
    · exact absurd rfl moved
  · exact absurd rfl moved

theorem checkPreclosedContract_backed (c : PreClosedContract E.toDescriptors)
    (moved : (Desk.checkPreclosedContract C env c d).2.contracts ≠ d.contracts) :
    nbConfirmations ≤ depth (c.signedCet.computeTxid C) := by
  rw [Desk.checkPreclosedContract, Handler.lift_bind] at moved
  split at moved
  · next n answered =>
    split at moved
    · next enough => exact enough.trans (counted _ n answered)
    · exact absurd rfl moved
  · exact absurd rfl moved

/-- A contract is closed behind six confirmations, and closing behind one or with the
transaction sent now. -/
theorem closeContract_backed {c : SignedContract E.toDescriptors} {cet : Transaction}
    {closed : Contract E.toDescriptors} {d' : Desk E.toDescriptors}
    (closes : Desk.closeContract C env c cet d = (.ok closed, d')) :
    d'.contracts = d.contracts ∧ ClosingBacked C depth (· ∈ d'.sent) closed := by
  obtain ⟨n, _, lifted, closes⟩ := Handler.bind_ok.mp closes
  obtain ⟨answered, rfl⟩ := Handler.lift_ok.mp lifted
  have deep := counted _ n answered
  split at closes
  · obtain ⟨_, sent, sends, closes⟩ := Handler.bind_ok.mp closes
    obtain ⟨rfl, rfl⟩ := Handler.pure_ok.mp closes
    obtain ⟨_, _, moved, answered⟩ := Handler.bind_ok.mp sends
    obtain ⟨-, rfl⟩ := Handler.lift_ok.mp answered
    obtain rfl := Handler.modify_ok.mp moved
    exact ⟨rfl, .inr (List.mem_append_right _ List.mem_cons_self)⟩
  next mined =>
  split at closes
  · obtain ⟨rfl, rfl⟩ := Handler.pure_ok.mp closes
    exact ⟨rfl, .inl ((Nat.not_lt.mp mined).trans deep)⟩
  · next many =>
    obtain ⟨final, rfl⟩ := Handler.lift_ok.mp closes
    obtain ⟨record, rfl, signed⟩ := closedContract_ok final
    refine ⟨rfl, fun cet' is => ?_⟩
    rw [signed] at is
    cases is
    exact (Nat.not_lt.mp many).trans deep

/-- The callers of `close_contract` store what it returns. -/
def closeAndStore (C : Crypto) (env : CheckAnswers E.toDescriptors)
    (c : SignedContract E.toDescriptors) (cet : Transaction) :
    DeskHandler E.toDescriptors Unit := do
  let closed ← Desk.closeContract C env c cet
  Desk.updateContract C env closed

theorem closeAndStore_backed (c : SignedContract E.toDescriptors) (cet : Transaction)
    (moved : (closeAndStore C env c cet d).2.contracts ≠ d.contracts) :
    ∃ stored, d.contracts.updateContract C stored = .ok (closeAndStore C env c cet d).2.contracts ∧
      ClosingBacked C depth (· ∈ (closeAndStore C env c cet d).2.sent) stored := by
  rw [closeAndStore, Handler.bind_apply] at moved ⊢
  match closes : Desk.closeContract C env c cet d with
  | (.error e, d') =>
      have kept := closeContract_contracts C env c cet d
      rw [closes] at moved kept
      exact absurd kept moved
  | (.ok closed, d') =>
      rw [closes] at moved
      obtain ⟨same, backed⟩ := closeContract_backed counted closes
      dsimp only at moved ⊢
      rw [Desk.updateContract_sent]
      obtain unmoved | stored := updateContract_contracts C env closed d'
      · rw [unmoved, same] at moved
        exact absurd rfl moved
      · rw [same] at stored
        exact ⟨closed, stored, backed⟩

end Desks

section Offers
variable {C : Crypto} {D : Descriptors} {env : CheckEnvironment} {contract : OfferedLoanContract D}
  {b : Borrower D}

theorem escrowRecord_escrowTxid {r : EscrowRecord}
    (read : escrowRecord env C contract b = .ok (some r)) :
    b.store.escrowTxid contract.offeredContract.id = some r.escrowTxid := by
  obtain ⟨_, _, read⟩ := bind_eq_ok.mp read
  split at read
  · cases read
  next escrow stored =>
  obtain ⟨_, _, read⟩ := bind_eq_ok.mp read
  obtain ⟨_, _, read⟩ := bind_eq_ok.mp read
  obtain ⟨_, _, read⟩ := bind_eq_ok.mp read
  obtain ⟨_, _, read⟩ := bind_eq_ok.mp read
  cases read
  exact stored

theorem claimStable_store (env : CheckEnvironment) (contract : OfferedLoanContract D)
    (b : Borrower D) (r : EscrowRecord) : (claimStable env contract r b).2.store = b.store := by
  by_cases taken : env.acceptsClaimStable r.lendingContract r.borrowerPreimage = true
  · rw [claimStable_sent contract b taken]
  · rw [claimStable_refused contract b taken]

theorem confirmWhenFinal_moved {r : EscrowRecord}
    (moved : (confirmWhenFinal env C contract r b).2.store.contracts ≠ b.store.contracts) :
    ∃ n, env.confirmations r.escrowTxid = .ok n ∧ nbConfirmations ≤ n := by
  rw [confirmWhenFinal, Handler.lift_bind] at moved
  cases answered_ : env.confirmations r.escrowTxid with
  | error e =>
      rw [answered_] at moved
      exact absurd rfl moved
  | ok n =>
      rw [answered_] at moved
      dsimp only [answered] at moved
      split at moved
      · next final => exact ⟨n, rfl, final.1⟩
      · exact absurd rfl moved

theorem checkOffer_moved
    (moved : (checkOffer env C contract b).2.store.contracts ≠ b.store.contracts) :
    ∃ escrowTxid n, b.store.escrowTxid contract.offeredContract.id = some escrowTxid ∧
      env.confirmations escrowTxid = .ok n ∧ nbConfirmations ≤ n := by
  rw [checkOffer, Handler.read_bind] at moved
  cases read : escrowRecord env C contract b with
  | error e =>
      rw [read] at moved
      exact absurd rfl moved
  | ok record =>
      cases record with
      | none =>
          rw [read] at moved
          exact absurd rfl moved
      | some r =>
          rw [read] at moved
          dsimp only at moved
          have stored := escrowRecord_escrowTxid read
          split at moved
          · have kept := claimStable_store env contract b r
            rw [Handler.bind_apply] at moved
            cases claims : claimStable env contract r b with
            | mk answer b' =>
                rw [claims] at moved kept
                dsimp only at moved kept
                cases answer with
                | error e =>
                    dsimp only at moved
                    rw [kept] at moved
                    exact absurd rfl moved
                | ok _ =>
                    dsimp only at moved
                    rw [← kept] at moved
                    obtain ⟨n, answered, final⟩ := confirmWhenFinal_moved moved
                    exact ⟨_, n, stored, answered, final⟩
          · obtain ⟨n, answered, final⟩ := confirmWhenFinal_moved moved
            exact ⟨_, n, stored, answered, final⟩

end Offers

section Channels
variable {X : ChannelCrypto} {signer : Signer} {E : SigningDescriptors}
  {env : Environment E.toDescriptors} {depth : Bytes32 → ℕ} {n : Node X E.toDescriptors}

/-- The channel's record and the contracts are as they were. -/
def SameRecords (n n' : Node X E.toDescriptors) : Prop :=
  n'.channel = n.channel ∧ n'.contracts = n.contracts

instance : Std.Refl (SameRecords (X := X) (E := E)) := ⟨fun _ => ⟨rfl, rfl⟩⟩

instance : IsTrans (Node X E.toDescriptors) SameRecords :=
  ⟨fun _ _ _ first next => ⟨next.1.trans first.1, next.2.trans first.2⟩⟩

theorem closeContract_sameRecords (env : Environment E.toDescriptors)
    (c : SignedContract E.toDescriptors) (cet : Transaction) (n : Node X E.toDescriptors) :
    SameRecords n (Node.closeContract X env c cet n).2 := by
  rw [Node.closeContract, Handler.lift_bind]
  split
  · split
    · have kept : SameRecords n (broadcast env (.cet cet) n).2 := ⟨rfl, rfl⟩
      rw [Handler.bind_apply]
      cases sends : (broadcast env (.cet cet) : NodeHandler X E.toDescriptors Unit) n with
      | mk answer n' =>
          rw [sends] at kept
          cases answer with
          | error _ => exact kept
          | ok _ => exact kept
    · split
      · exact ⟨rfl, rfl⟩
      · rw [Handler.lift_bind]
        split
        · rw [Handler.lift_bind]
          split
          · exact ⟨rfl, rfl⟩
          · exact ⟨rfl, rfl⟩
        · exact ⟨rfl, rfl⟩
  · exact ⟨rfl, rfl⟩

/-- Nothing is stored before the last write. -/
theorem tryFinalize_failsIn (ch : SignedChannel X) :
    Handler.FailsIn SameRecords (Node.tryFinalizeClosingEstablishedChannel X signer env ch) := by
  refine Handler.failsIn_bind (Handler.keeps_lift _) fun _ closing _ _ => ?_
  refine Handler.failsIn_bind (Handler.keeps_lift _) fun _ k _ _ => ?_
  refine Handler.failsIn_ite ?_ (Handler.failsIn_of_keeps (Handler.keeps_pure ()))
  refine Handler.failsIn_bind (Handler.keeps_read _) fun _ contract _ _ => ?_
  refine Handler.failsIn_bind (Handler.keeps_lift _) fun _ info _ _ => ?_
  refine Handler.failsIn_bind (Handler.keeps_lift _) fun _ signed _ _ => ?_
  refine Handler.failsIn_bind (closeContract_sameRecords env contract signed.1)
    fun _ stored _ _ => ?_
  refine Handler.failsIn_bind (fun _ => ⟨rfl, rfl⟩) fun _ _ _ _ => ?_
  refine Handler.failsIn_bind (Handler.keeps_read _) fun _ contracts _ _ => ?_
  exact Handler.failsIn_of_never fun _ => rfl

variable (counted : ∀ txid n, env.getTransactionConfirmations txid = .ok n → n ≤ depth txid)
include counted

theorem node_closeContract_backed {c : SignedContract E.toDescriptors} {cet : Transaction}
    {closed : Contract E.toDescriptors} {n' : Node X E.toDescriptors}
    (closes : Node.closeContract X env c cet n = (.ok closed, n')) :
    ClosingBacked X.toCrypto depth (.cet · ∈ n'.sent) closed := by
  obtain ⟨k, _, lifted, closes⟩ := Handler.bind_ok.mp closes
  obtain ⟨answered, rfl⟩ := Handler.lift_ok.mp lifted
  have deep := counted _ k answered
  split at closes
  · obtain ⟨_, sent, sends, closes⟩ := Handler.bind_ok.mp closes
    obtain ⟨rfl, rfl⟩ := Handler.pure_ok.mp closes
    obtain ⟨_, _, moved, answered⟩ := Handler.bind_ok.mp sends
    obtain ⟨-, rfl⟩ := Handler.lift_ok.mp answered
    obtain rfl := Handler.modify_ok.mp moved
    exact .inr (List.mem_append_right _ List.mem_cons_self)
  next mined =>
  split at closes
  · obtain ⟨rfl, rfl⟩ := Handler.pure_ok.mp closes
    exact .inl ((Nat.not_lt.mp mined).trans deep)
  · next many =>
    obtain ⟨_, _, -, closes⟩ := Handler.bind_ok.mp closes
    obtain ⟨_, _, -, closes⟩ := Handler.bind_ok.mp closes
    obtain ⟨rfl, rfl⟩ := Handler.pure_ok.mp closes
    rintro _ ⟨⟩
    exact (Nat.not_lt.mp many).trans deep

theorem tryFinalize_backed {ch : SignedChannel X} {n' : Node X E.toDescriptors}
    (ran : Node.tryFinalizeClosingEstablishedChannel X signer env ch n = (.ok (), n')) :
    SameRecords n n' ∨ ∃ closing stored, ch.state = .closing closing ∧
      cetNsequence ≤ depth (closing.bufferTransaction.computeTxid X.toCrypto) ∧
      n.contracts.updateContract X.toCrypto stored = .ok n'.contracts ∧
      ClosingBacked X.toCrypto depth (.cet · ∈ n'.sent) stored := by
  obtain ⟨closing, _, lifted, ran⟩ := Handler.bind_ok.mp ran
  obtain ⟨isClosing, rfl⟩ := Handler.lift_ok.mp lifted
  obtain ⟨k, _, lifted, ran⟩ := Handler.bind_ok.mp ran
  obtain ⟨answered, rfl⟩ := Handler.lift_ok.mp lifted
  split at ran
  next enough =>
    obtain ⟨contract, _, found, ran⟩ := Handler.bind_ok.mp ran
    obtain ⟨-, rfl⟩ := Handler.read_ok.mp found
    obtain ⟨info, _, lifted, ran⟩ := Handler.bind_ok.mp ran
    obtain ⟨-, rfl⟩ := Handler.lift_ok.mp lifted
    obtain ⟨signed, _, lifted, ran⟩ := Handler.bind_ok.mp ran
    obtain ⟨-, rfl⟩ := Handler.lift_ok.mp lifted
    obtain ⟨stored, n₁, closes, ran⟩ := Handler.bind_ok.mp ran
    obtain ⟨_, n₂, cleans, ran⟩ := Handler.bind_ok.mp ran
    obtain ⟨contracts, _, updates, ran⟩ := Handler.bind_ok.mp ran
    obtain ⟨written, rfl⟩ := Handler.read_ok.mp updates
    obtain rfl := Handler.modify_ok.mp ran
    have same := closeContract_sameRecords env contract signed.1 n
    have backed := node_closeContract_backed counted closes
    rw [closes] at same
    cases cleans
    refine .inr ⟨closing, stored, ?_, enough.trans (counted _ k answered), ?_, backed⟩
    · split at isClosing
      next s state =>
        cases isClosing
        exact state
      next => cases isClosing
    · rw [← same.2]
      exact written
  next =>
    obtain ⟨-, rfl⟩ := Handler.pure_ok.mp ran
    exact .inl ⟨rfl, rfl⟩

end Channels

/-- The checks that test a number of confirmations, each of one contract or channel. -/
inductive Check (D : Descriptors)
  | signed (id : ContractId) (c : SignedContract D)
  | close (id : ContractId) (c : SignedContract D) (cet : Transaction)
  | preClosed (id : ContractId) (c : PreClosedContract D)
  | offer (c : OfferedLoanContract D)
  | closing (id : ChannelId)

section Checks
variable (X : ChannelCrypto) (signer : Signer) {E : SigningDescriptors}

def Check.act (a : Answers E.toDescriptors) :
    Check E.toDescriptors → OfficeHandler X E.toDescriptors Unit
  | signed id c => Office.onDesk id (Desk.checkSignedContract X.toCrypto a.toCheckAnswers c)
  | close id c cet => Office.onDesk id (closeAndStore X.toCrypto a.toCheckAnswers c cet)
  | preClosed id c => Office.onDesk id (Desk.checkPreclosedContract X.toCrypto a.toCheckAnswers c)
  | offer c => Office.onBorrower (checkOffer (a.poll.answers c.offeredContract.id) X.toCrypto c)
  | closing id => Office.onHub (Hub.atId id (Node.checkClosingChannels X signer a.toEnvironment))

def checkStep (o : Office X E.toDescriptors) (call : Answers E.toDescriptors × Check E.toDescriptors)
    (o' : Office X E.toDescriptors) : Prop := (call.2.act X signer call.1 o).2 = o'

variable {X}

/-- What is behind a move that a check has made. -/
def Check.Backed (depth : Bytes32 → ℕ) (o o' : Office X E.toDescriptors) :
    Check E.toDescriptors → Prop
  | signed _ c => o'.contracts ≠ o.contracts →
      nbConfirmations ≤ depth (c.acceptedContract.dlcTransactions.fund.computeTxid X.toCrypto)
  | close id _ _ => o'.contracts ≠ o.contracts →
      ∃ stored, o.contracts.updateContract X.toCrypto stored = .ok o'.contracts ∧
        ClosingBacked X.toCrypto depth (fun tx => (id, tx) ∈ o'.sent) stored
  | preClosed _ c => o'.contracts ≠ o.contracts →
      nbConfirmations ≤ depth (c.signedCet.computeTxid X.toCrypto)
  | offer c => o'.contracts ≠ o.contracts →
      ∃ escrowTxid, o.borrower.store.escrowTxid c.offeredContract.id = some escrowTxid ∧
        nbConfirmations ≤ depth escrowTxid
  | closing _ => o'.contracts ≠ o.contracts ∨ o'.channels ≠ o.channels →
      ∃ ch closing stored, .signed ch ∈ o.channels ∧ ch.state = .closing closing ∧
        cetNsequence ≤ depth (closing.bufferTransaction.computeTxid X.toCrypto) ∧
        o.contracts.updateContract X.toCrypto stored = .ok o'.contracts ∧
        ClosingBacked X.toCrypto depth (.cet · ∈ o'.channelsSent) stored

variable {signer}

theorem ClosingBacked.mono {D : Descriptors} {C : Crypto} {depth : Bytes32 → ℕ}
    {broadcast broadcast' : Transaction → Prop} {c : Contract D}
    (more : ∀ tx, broadcast tx → broadcast' tx) (backed : ClosingBacked C depth broadcast c) :
    ClosingBacked C depth broadcast' c := by
  cases c with
  | preClosed c => exact Or.imp_right (more _) backed
  | closed c => exact backed
  | _ => trivial

/-- A record that is written back unchanged changes nothing. -/
theorem put_sameRecords {h : Hub X E.toDescriptors} {c : ChannelRecord X}
    {n : Node X E.toDescriptors} (listed : c ∈ h.channels)
    (same : SameRecords (h.nodeOf c) n) :
    (h.put n).channels = h.channels ∧ (h.put n).contracts = h.contracts := by
  obtain ⟨before, after, split⟩ := List.append_of_mem listed
  have record : n.channel = c := same.1
  refine ⟨?_, same.2⟩
  rw [Hub.put_channels split (by rw [record]), record, split]

/-- The loop's body for a stored channel. -/
theorem checkClosingChannels_backed (signer : Signer) {env : Environment E.toDescriptors} {depth : Bytes32 → ℕ}
    (counted : ∀ txid n, env.getTransactionConfirmations txid = .ok n → n ≤ depth txid)
    (n : Node X E.toDescriptors) :
    SameRecords n (Node.checkClosingChannels X signer env n).2 ∨
      ∃ ch closing stored, n.channel = .signed ch ∧ ch.state = .closing closing ∧
        cetNsequence ≤ depth (closing.bufferTransaction.computeTxid X.toCrypto) ∧
        n.contracts.updateContract X.toCrypto stored =
          .ok (Node.checkClosingChannels X signer env n).2.contracts ∧
        ClosingBacked X.toCrypto depth
          (.cet · ∈ (Node.checkClosingChannels X signer env n).2.sent) stored := by
  rw [Node.checkClosingChannels]
  split
  next ch record =>
    split
    next state =>
      rw [Node.logged_snd]
      cases ran : Node.tryFinalizeClosingEstablishedChannel X signer env ch n with
      | mk answer n' =>
          cases answer with
          | error e => exact .inl (tryFinalize_failsIn ch n e n' ran)
          | ok _ =>
              obtain same | ⟨closing, stored, isClosing, deep, updated, backed⟩ :=
                tryFinalize_backed counted ran
              · exact .inl same
              · exact .inr ⟨ch, closing, stored, record, isClosing, deep, updated, backed⟩
    next => exact .inl ⟨rfl, rfl⟩
  next => exact .inl ⟨rfl, rfl⟩

theorem atId_backed {env : Environment E.toDescriptors} {depth : Bytes32 → ℕ}
    (counted : ∀ txid n, env.getTransactionConfirmations txid = .ok n → n ≤ depth txid)
    (id : ChannelId) (h : Hub X E.toDescriptors) :
    ((Hub.atId id (Node.checkClosingChannels X signer env) h).2.channels = h.channels ∧
      (Hub.atId id (Node.checkClosingChannels X signer env) h).2.contracts = h.contracts) ∨
    ∃ ch closing stored, .signed ch ∈ h.channels ∧ ch.state = .closing closing ∧
      cetNsequence ≤ depth (closing.bufferTransaction.computeTxid X.toCrypto) ∧
      h.contracts.updateContract X.toCrypto stored =
        .ok (Hub.atId id (Node.checkClosingChannels X signer env) h).2.contracts ∧
      ClosingBacked X.toCrypto depth
        (.cet · ∈ (Hub.atId id (Node.checkClosingChannels X signer env) h).2.sent) stored := by
  unfold Hub.atId
  split
  next c found =>
    have listed : c ∈ h.channels := List.mem_of_find?_eq_some found
    obtain same | ⟨ch, closing, stored, record, isClosing, deep, updated, backed⟩ :=
      checkClosingChannels_backed signer counted (h.nodeOf c)
    · exact .inl (put_sameRecords listed same)
    · have record : c = .signed ch := record
      have listed : .signed ch ∈ h.channels := record ▸ listed
      exact .inr ⟨ch, closing, stored, listed, isClosing, deep, updated, backed⟩
  next => exact .inl ⟨rfl, rfl⟩

theorem check_backed {a : Answers E.toDescriptors} (steady : a.Steady)
    (check : Check E.toDescriptors) (o : Office X E.toDescriptors) :
    check.Backed a.depth o (check.act X signer a o).2 := by
  cases check with
  | signed id c => exact checkSignedContract_backed (fun _ _ => steady.counted) c
  | preClosed id c => exact checkPreclosedContract_backed (fun _ _ => steady.counted) c
  | offer c =>
      intro moved
      obtain ⟨escrowTxid, n, stored, answered, final⟩ := checkOffer_moved moved
      exact ⟨escrowTxid, stored, final.trans (steady.polled answered)⟩
  | close id c cet =>
      intro moved
      obtain ⟨stored, updated, backed⟩ :=
        closeAndStore_backed (fun _ _ => steady.counted) c cet moved
      refine ⟨stored, updated, backed.mono fun tx sent => ?_⟩
      exact List.mem_append_right _ (List.mem_map_of_mem sent)
  | closing id =>
      intro moved
      obtain same | backed := atId_backed (fun _ _ => steady.counted) id o.hub
      · obtain other | other := moved
        · exact absurd same.2 other
        · exact absurd same.1 other
      · exact backed

/-- A provider returns no more than the depth exactly when its answer is steady: no conflict with
the chain, or a block that the chain of the second answer still has. In a run of checks with
steady answers each move has the depth that the check requires. -/
theorem confirmations_backed (X : ChannelCrypto) (signer : Signer) (E : SigningDescriptors) :
    (∀ a : Answer, (∀ n, a.confirmations = .ok n → n ≤ a.depth) ↔ a.Steady) ∧
    ∀ (start o : Office X E.toDescriptors) (calls : List (Answers E.toDescriptors × Check _)),
      Run (guarded (checkStep X signer) fun _ call => call.1.Steady) start calls o →
        Run (fun o call o' => checkStep X signer o call o' ∧ call.2.Backed call.1.depth o o')
          start calls o := by
  constructor
  · exact Answer.le_depth_iff
  · intro start o calls run
    apply run.mono
    rintro o call o' ⟨steady, stepped⟩
    refine ⟨stepped, ?_⟩
    rw [← stepped]
    exact check_backed steady call.2 o

end Checks

/-! A fund transaction six blocks deep, and one that conflicts with a block three blocks deep. -/

def minedAnswer (txid : Bytes32) : Answer :=
  .core
    { chain := ⟨[txid] :: List.replicate 5 [], by simp, by simp⟩
      txid
      answer := .ok 6
      counted := by
        rintro _ ⟨⟩
        simp [Chain.depth, Chain.blockHeight, Chain.height, List.findIdx?_cons] }

def conflictedAnswer (txid : Bytes32) : Answer :=
  .core
    { chain := ⟨List.replicate 6 [], by simp, by simp⟩
      txid
      answer := .ok (-3)
      counted := by
        rintro _ ⟨⟩
        simp [Chain.depth, Chain.blockHeight]
        rfl }

/-- The block of the status is no longer there when the height is read. -/
def reorganisedAnswer (txid : Bytes32) : Answer :=
  .electrs
    { overflowChecks := true
      before := ⟨[[], [txid]], by simp, by simp⟩
      chain := ⟨List.replicate 7 [], by simp, by simp⟩
      txid
      txStatus := .ok { confirmed := true, blockHeight := some 1 }
      blockchainHeight := .ok 6
      status := by
        rintro _ ⟨⟩
        simp [Chain.blockHeight, List.findIdx?_cons]
      height := by
        rintro _ ⟨⟩
        rfl }

def sampleAnswers (provider : Bytes32 → Answer) (about : ∀ txid, (provider txid).txid = txid) :
    Answers refundSigning.toDescriptors :=
  { sampleRound none with
    getTransactionConfirmations := fun txid => (provider txid).confirmations
    poll := { samplePoll 0 0 with
      answers := fun _ => { sampleCheckEnvironment 0 0 with
        confirmations := fun txid => match (provider txid).confirmations with
          | .ok n => .ok n
          | .error _ => .error .walletError } }
    provider
    about
    counted := fun _ _ answered => answered
    polled := by
      intro _ txid n answered
      dsimp only at answered
      split at answered
      · next counted =>
        cases answered
        exact counted
      · cases answered }

def sampleCheck : Check refundSigning.toDescriptors :=
  .signed sampleSignedId (sampleSignedContract true)

def sampleChecked (provider : Bytes32 → Answer) (about : ∀ txid, (provider txid).txid = txid) :
    Office refundCrypto refundSigning.toDescriptors :=
  (sampleCheck.act refundCrypto (refundSigner sampleKey₁ 1) (sampleAnswers provider about)
    sampleOffice).2

theorem mined_fund_backed :
    (∀ n, (minedAnswer 5).confirmations = .ok n → n ≤ (minedAnswer 5).depth) ∧
    Run (fun o call o' => checkStep refundCrypto (refundSigner sampleKey₁ 1) o call o' ∧
        call.2.Backed call.1.depth o o') sampleOffice
      [(sampleAnswers minedAnswer fun _ => rfl, sampleCheck)]
      (sampleChecked minedAnswer fun _ => rfl) := by
  have steady : ∀ txid, (minedAnswer txid).Steady := by
    rintro txid _ ⟨⟩
    decide
  have both := confirmations_backed refundCrypto (refundSigner sampleKey₁ 1) refundSigning
  constructor
  · exact (both.1 (minedAnswer 5)).mpr (steady 5)
  · exact both.2 _ _ _ (Run.nil.snoc ⟨steady, rfl⟩)

/-- A conflicting fund transaction counts as four thousand million times confirmed, and its
contract becomes a confirmed one. -/
theorem conflicting_fund_confirmed :
    (conflictedAnswer 5).confirmations = .ok 4294967293 ∧ (conflictedAnswer 5).depth = 0 ∧
    (reorganisedAnswer 5).confirmations = .ok 6 ∧ (reorganisedAnswer 5).depth = 0 ∧
    ¬ sampleCheck.Backed (sampleAnswers conflictedAnswer fun _ => rfl).depth sampleOffice
      (sampleChecked conflictedAnswer fun _ => rfl) := by
  refine ⟨rfl, by decide, rfl, by decide, fun backed => ?_⟩
  have before : (sampleOffice.contracts sampleSignedId).map Contract.state = some "signed" := by
    decide +kernel
  have after : ((sampleChecked conflictedAnswer fun _ => rfl).contracts sampleSignedId).map
      Contract.state = some "confirmed" := by
    decide +kernel
  have moved : (sampleChecked conflictedAnswer fun _ => rfl).contracts ≠ sampleOffice.contracts := by
    intro same
    rw [same, before] at after
    exact absurd after (by decide)
  have deep := backed moved
  exact absurd deep (by decide)

end P2PLending.Manager.Channels
