import P2PLending.Manager.LoanStore
import P2PLending.Foundation.Runs

/-! The borrower's periodic look at its loan offers. For an offer with an escrow
it asks the lending contract for the record under its hash, and claims whenever
the record is not empty: the amount is not compared with the offer's collateral,
and nothing but a later confirmation ends the claiming. -/

namespace P2PLending.Manager
open Dlc Checked

/-- The answers while one offer is looked at. -/
structure CheckEnvironment extends Environment where
  readEscrowTxid : Except Error Unit
  readLoanPreimage : Except Error Unit
  stableLoanCollateral : (contract : ℕ) → (borrowerHash : Bytes32) → Option ℕ
  acceptsClaimStable : (contract : ℕ) → (borrowerPreimage : Uint128) → Bool
  claimReceiptError : Option String
  confirmations : (txid : Bytes32) → Except Error ℕ

/-- What is read for an offer with an escrow. -/
structure EscrowRecord where
  escrowTxid : Bytes32
  borrowerPreimage : Uint128
  lendingContract : ℕ
  collateralAmount : ℕ

variable {D : Descriptors}

section Source
variable (env : CheckEnvironment) (C : Crypto) (contract : OfferedLoanContract D)

/-- The reads for one offer; none of them when it has no escrow. -/
def escrowRecord (b : Borrower D) : Result (Option EscrowRecord) := do
  answered env.readEscrowTxid
  match b.store.escrowTxid contract.offeredContract.id with
  | none => .ok none
  | some escrowTxid => do
      answered env.readLoanPreimage
      let borrowerPreimage ← unwrapSome (b.store.loanPreimage contract.offeredContract.id)
      let borrowerHash := C.sha256 borrowerPreimage.toBeBytes
      let lendingContract ← lendingContract env.toEnvironment
      let collateralAmount ← (env.stableLoanCollateral lendingContract borrowerHash).elim
        (.error (.err (.blockchainError "Failed to call stableLoans"))) .ok
      .ok (some { escrowTxid, borrowerPreimage, lendingContract, collateralAmount })

/-- The claim that a record leads to. -/
def EscrowRecord.claim (r : EscrowRecord) : Claim where
  contractId := contract.offeredContract.id
  borrowerPreimage := r.borrowerPreimage
  agreed := contract.offeredContract.totalCollateral
  recorded := r.collateralAmount

def claimStable (r : EscrowRecord) : Handler (Borrower D) (Fault Error) Unit := do
  Handler.lift (ensure (env.acceptsClaimStable r.lendingContract r.borrowerPreimage = true)
    (.err (.blockchainError "Failed to send claimStable transaction")))
  Handler.modify fun b => { b with claimed := b.claimed ++ [r.claim contract] }
  Handler.lift (env.claimReceiptError.elim (.ok ()) fun e =>
    .error (.err (.blockchainError s!"Failed to get transaction receipt: {e}")))

/-- `update_contract` to `OfferedLoanEscrowConfirmed`. -/
def confirmEscrow (r : EscrowRecord) : Handler (Borrower D) (Fault Error) Unit := do
  let contracts ← Handler.read fun b =>
    b.store.contracts.updateContract C (.offeredLoanEscrowConfirmed contract)
  Handler.lift (answered env.writeStore)
  Handler.modify fun b =>
    { b with
      store := { b.store with contracts }
      escrowConfirmed := b.escrowConfirmed ++ [r.claim contract] }

/-- The end of the loop's body: the move, once the escrow transaction is final. -/
def confirmWhenFinal (r : EscrowRecord) : Handler (Borrower D) (Fault Error) Unit := do
  let confirmations ← Handler.lift (answered (env.confirmations r.escrowTxid))
  if nbConfirmations ≤ confirmations ∧ 0 < r.collateralAmount then
    confirmEscrow env C contract r

/-- The loop's body. -/
def checkOffer : Handler (Borrower D) (Fault Error) Unit := do
  match ← Handler.read (escrowRecord env C contract) with
  | none => pure ()
  | some r => do
      if 0 < r.collateralAmount then claimStable env contract r
      confirmWhenFinal env C contract r

end Source

/-- The answers of one call. -/
structure Poll (D : Descriptors) where
  parsesEvmKey : String → Bool
  loanContractOffers : Except Error (List (OfferedLoanContract D))
  answers : ContractId → CheckEnvironment

section Source
variable (C : Crypto) (poll : Poll D)

def checkOffers : List (OfferedLoanContract D) → Handler (Borrower D) (Fault Error) Unit
  | [] => pure ()
  | contract :: rest => do
      checkOffer (poll.answers contract.offeredContract.id) C contract
      checkOffers rest

def checkOfferedLoanContractsForEscrow (evmPk : String) :
    Handler (Borrower D) (Fault Error) Unit := do
  Handler.lift (ensure (poll.parsesEvmKey evmPk = true)
    (.err (.invalidParameters "Invalid EVM private key")))
  let offers ← Handler.lift (answered poll.loanContractOffers)
  checkOffers C poll offers

end Source

/-! What the loop does to the claims. -/

/-- The claim of an offer is sent: its record is there and the call is taken. -/
def Claims (env : CheckEnvironment) (r : EscrowRecord) : Prop :=
  0 < r.collateralAmount ∧ env.acceptsClaimStable r.lendingContract r.borrowerPreimage = true

/-- What looking at one offer does: nothing, a claim, or a claim and the move. The
trees that are read stay as they are. -/
inductive CheckEffect (env : CheckEnvironment) (C : Crypto) (contract : OfferedLoanContract D)
    (b b' : Borrower D) : Prop
  | silent (unsent : ∀ r, escrowRecord env C contract b = .ok (some r) → ¬ Claims env r)
      (claimed : b'.claimed = b.claimed) (confirmed : b'.escrowConfirmed = b.escrowConfirmed)
  | claimed {r : EscrowRecord} (read : escrowRecord env C contract b = .ok (some r))
      (sent : Claims env r) (claimed : b'.claimed = b.claimed ++ [r.claim contract])
      (confirmed : b'.escrowConfirmed = b.escrowConfirmed ∨
        b'.escrowConfirmed = b.escrowConfirmed ++ [r.claim contract])

section Effects
variable (env : CheckEnvironment) (C : Crypto) (contract : OfferedLoanContract D)
  (b : Borrower D)

theorem confirmEscrow_effect (r : EscrowRecord) :
    (confirmEscrow env C contract r b).2.claimed = b.claimed ∧
      ((confirmEscrow env C contract r b).2.escrowConfirmed = b.escrowConfirmed ∨
        (confirmEscrow env C contract r b).2.escrowConfirmed =
          b.escrowConfirmed ++ [r.claim contract]) := by
  unfold confirmEscrow
  cases written : env.writeStore with
  | ok => exact ⟨rfl, .inr rfl⟩
  | error => exact ⟨rfl, .inl rfl⟩

theorem confirmWhenFinal_effect (r : EscrowRecord) :
    (confirmWhenFinal env C contract r b).2.claimed = b.claimed ∧
      ((confirmWhenFinal env C contract r b).2.escrowConfirmed = b.escrowConfirmed ∨
        0 < r.collateralAmount ∧ (confirmWhenFinal env C contract r b).2.escrowConfirmed =
          b.escrowConfirmed ++ [r.claim contract]) := by
  rw [confirmWhenFinal, Handler.lift_bind]
  split
  · split
    · rename_i final
      obtain ⟨claimed, confirmed⟩ := confirmEscrow_effect env C contract b r
      exact ⟨claimed, confirmed.imp_right fun moved => ⟨final.2, moved⟩⟩
    · exact ⟨rfl, .inl rfl⟩
  · exact ⟨rfl, .inl rfl⟩

variable {env} in
theorem claimStable_sent {r : EscrowRecord}
    (taken : env.acceptsClaimStable r.lendingContract r.borrowerPreimage = true) :
    (claimStable env contract r b).2 = { b with claimed := b.claimed ++ [r.claim contract] } := by
  simp only [claimStable, ensure, taken, if_true, Handler.lift_bind]
  rfl

variable {env} in
theorem claimStable_refused {r : EscrowRecord}
    (refused : ¬ env.acceptsClaimStable r.lendingContract r.borrowerPreimage = true) :
    claimStable env contract r b =
      (.error (.err (.blockchainError "Failed to send claimStable transaction")), b) := by
  rw [claimStable, Handler.lift_bind, ensure, if_neg refused]

theorem checkOffer_effect :
    CheckEffect env C contract b (checkOffer env C contract b).2 := by
  match read : escrowRecord env C contract b with
  | .error e =>
      have same : (checkOffer env C contract b).2 = b := by
        rw [checkOffer, Handler.read_bind, read]
      rw [same]
      exact .silent (fun r other => by rw [read] at other; cases other) rfl rfl
  | .ok none =>
      have same : (checkOffer env C contract b).2 = b := by
        rw [checkOffer, Handler.read_bind, read]
        rfl
      rw [same]
      exact .silent (fun r other => by rw [read] at other; cases other) rfl rfl
  | .ok (some r) =>
      have only : ∀ r', escrowRecord env C contract b = .ok (some r') → r' = r := by
        intro r' other
        rw [read] at other
        cases other
        rfl
      rw [checkOffer, Handler.read_bind, read]
      dsimp only
      by_cases recorded : 0 < r.collateralAmount
      · rw [if_pos recorded]
        by_cases taken : env.acceptsClaimStable r.lendingContract r.borrowerPreimage = true
        · have after := claimStable_sent contract b taken
          rw [Handler.bind_apply]
          match sent : claimStable env contract r b with
          | (.error e, b₁) =>
              rw [sent] at after
              obtain rfl : b₁ = _ := after
              exact .claimed read ⟨recorded, taken⟩ rfl (.inl rfl)
          | (.ok _, b₁) =>
              rw [sent] at after
              obtain rfl : b₁ = _ := after
              obtain ⟨claimed, confirmed⟩ := confirmWhenFinal_effect env C contract
                { b with claimed := b.claimed ++ [r.claim contract] } r
              exact .claimed read ⟨recorded, taken⟩ claimed (confirmed.imp_right And.right)
        · rw [Handler.bind_apply, claimStable_refused contract b taken]
          exact .silent (fun r' other claims => taken (only r' other ▸ claims.2)) rfl rfl
      · rw [if_neg recorded]
        obtain ⟨claimed, confirmed⟩ := confirmWhenFinal_effect env C contract b r
        refine .silent (fun r' other claims => recorded (only r' other ▸ claims.1)) claimed ?_
        exact confirmed.elim id fun moved => absurd moved.1 recorded

end Effects

/-- Each loan is claimed at most once, and claimed or moved only for a record of its
own collateral. -/
structure Sound (b : Borrower D) : Prop where
  once : (b.claimed.map Claim.contractId).Nodup
  claimed : ∀ c ∈ b.claimed, c.recorded = c.agreed
  confirmed : ∀ c ∈ b.escrowConfirmed, c.recorded = c.agreed

/-- If the record of an offer would be claimed, it is of the offer's collateral and
the offer was not claimed before. -/
def Agreed (env : CheckEnvironment) (C : Crypto) (contract : OfferedLoanContract D)
    (b : Borrower D) : Prop :=
  ∀ r, escrowRecord env C contract b = .ok (some r) → Claims env r →
    r.collateralAmount = contract.offeredContract.totalCollateral ∧
      contract.offeredContract.id ∉ b.claimed.map Claim.contractId

/-- The same for each offer that the loop comes to, where it comes to it. -/
def AgreedAll (C : Crypto) (poll : Poll D) : List (OfferedLoanContract D) → Borrower D → Prop
  | [], _ => True
  | contract :: rest, b =>
      let env := poll.answers contract.offeredContract.id
      Agreed env C contract b ∧
        ((checkOffer env C contract b).1 = .ok () →
          AgreedAll C poll rest (checkOffer env C contract b).2)

section Soundness
variable {env : CheckEnvironment} {C : Crypto} {contract : OfferedLoanContract D}
  {b b' : Borrower D}

/-- What was sent stays sent, so an unsound history stays unsound. -/
def Extends (b b' : Borrower D) : Prop :=
  b.claimed <+: b'.claimed ∧ b.escrowConfirmed <+: b'.escrowConfirmed

instance : Std.Refl (Extends (D := D)) := ⟨fun _ => ⟨List.prefix_rfl, List.prefix_rfl⟩⟩

instance : IsTrans (Borrower D) Extends :=
  ⟨fun _ _ _ first next => ⟨first.1.trans next.1, first.2.trans next.2⟩⟩

theorem Sound.of_extends (sound : Sound b') (extended : Extends b b') : Sound b where
  once := sound.once.sublist (extended.1.sublist.map _)
  claimed c listed := sound.claimed c (extended.1.subset listed)
  confirmed c listed := sound.confirmed c (extended.2.subset listed)

theorem checkOffer_extends :
    (checkOffer env C contract : Handler (Borrower D) (Fault Error) Unit).Keeps Extends := by
  intro b
  cases checkOffer_effect env C contract b with
  | silent unsent claimed confirmed =>
      exact ⟨claimed ▸ List.prefix_rfl, confirmed ▸ List.prefix_rfl⟩
  | claimed read sent claimed confirmed =>
      refine ⟨claimed ▸ List.prefix_append _ _, ?_⟩
      cases confirmed with
      | inl same => exact same ▸ List.prefix_rfl
      | inr more => exact more ▸ List.prefix_append _ _

theorem checkOffers_extends (poll : Poll D) (offers : List (OfferedLoanContract D)) :
    (checkOffers C poll offers).Keeps Extends := by
  induction offers with
  | nil => exact Handler.keeps_pure _
  | cons contract rest ih => exact Handler.keeps_bind checkOffer_extends fun _ => ih

variable (env C contract) in
theorem sound_checkOffer_iff (sound : Sound b) :
    Sound (checkOffer env C contract b).2 ↔ Agreed env C contract b := by
  cases checkOffer_effect env C contract b with
  | silent unsent claimed confirmed =>
      refine iff_of_true ⟨?_, ?_, ?_⟩ fun r read sent => absurd sent (unsent r read)
      · rw [claimed]
        exact sound.once
      · rw [claimed]
        exact sound.claimed
      · rw [confirmed]
        exact sound.confirmed
  | @claimed r read sent claimed confirmed =>
      constructor
      · intro after r' read' _
        rw [read] at read'
        cases read'
        have once := after.once
        rw [claimed, List.map_append, List.nodup_append] at once
        refine ⟨?_, ?_⟩
        · apply after.claimed (r.claim contract)
          rw [claimed]
          exact List.mem_append_right _ List.mem_cons_self
        · intro earlier
          exact once.2.2 _ earlier _ List.mem_cons_self rfl
      · intro agreed
        obtain ⟨amount, fresh⟩ := agreed r read sent
        have recorded : ∀ c ∈ [r.claim contract], c.recorded = c.agreed :=
          List.forall_mem_singleton.mpr amount
        refine ⟨?_, ?_, ?_⟩
        · rw [claimed, List.map_append]
          exact List.nodup_append_comm.mp (List.nodup_cons.mpr ⟨fresh, sound.once⟩)
        · rw [claimed]
          exact List.forall_mem_append.mpr ⟨sound.claimed, recorded⟩
        · cases confirmed with
          | inl same =>
              rw [same]
              exact sound.confirmed
          | inr more =>
              rw [more]
              exact List.forall_mem_append.mpr ⟨sound.confirmed, recorded⟩

/-- Along the loop, by induction over the offers that are left. -/
theorem sound_checkOffers_iff (poll : Poll D) {offers : List (OfferedLoanContract D)}
    (sound : Sound b) : Sound (checkOffers C poll offers b).2 ↔ AgreedAll C poll offers b := by
  induction offers generalizing b with
  | nil => exact iff_of_true sound trivial
  | cons contract rest ih =>
      have first := sound_checkOffer_iff (poll.answers contract.offeredContract.id) C contract sound
      rw [checkOffers, Handler.bind_apply, AgreedAll, ← first]
      match looked : checkOffer (poll.answers contract.offeredContract.id) C contract b with
      | (.error e, b₁) =>
          constructor
          · intro after
            exact ⟨after, fun passed => by cases passed⟩
          · exact And.left
      | (.ok (), b₁) =>
          constructor
          · intro after
            have sound₁ := after.of_extends (checkOffers_extends poll rest b₁)
            exact ⟨sound₁, fun _ => (ih sound₁).mp after⟩
          · intro ⟨sound₁, agreed⟩
            exact (ih sound₁).mpr (agreed rfl)

end Soundness

/-! Runs of periodic checks, with any change of the trees between them. -/

inductive Activity (D : Descriptors)
  | periodicCheck (poll : Poll D) (evmPk : String)
  | other (store : LoanStore D)

namespace Borrower

def next (C : Crypto) (b : Borrower D) : Activity D → Borrower D
  | .periodicCheck poll evmPk => (checkOfferedLoanContractsForEscrow C poll evmPk b).2
  | .other store => { b with store }

def step (C : Crypto) (b : Borrower D) (a : Activity D) (b' : Borrower D) : Prop :=
  b' = b.next C a

/-- Each time a check comes to an offer whose record it would claim, the record is
of the offer's collateral and no earlier check has claimed the loan. -/
def Agrees (C : Crypto) (b : Borrower D) : Activity D → Prop
  | .periodicCheck poll evmPk => poll.parsesEvmKey evmPk = true →
      ∀ offers, poll.loanContractOffers = .ok offers → AgreedAll C poll offers b
  | .other _ => True

theorem sound_next_iff (C : Crypto) {b : Borrower D} (sound : Sound b) (a : Activity D) :
    Sound (b.next C a) ↔ b.Agrees C a := by
  cases a with
  | other store => exact iff_of_true ⟨sound.once, sound.claimed, sound.confirmed⟩ trivial
  | periodicCheck poll evmPk =>
      by_cases parsed : poll.parsesEvmKey evmPk = true
      · match listed : poll.loanContractOffers with
        | .error e =>
            have same : b.next C (.periodicCheck poll evmPk) = b := by
              simp only [next, checkOfferedLoanContractsForEscrow, ensure, parsed, if_true,
                listed, answered, Handler.lift_bind]
            rw [same]
            exact iff_of_true sound fun _ offers other => by rw [listed] at other; cases other
        | .ok offers =>
            have looped : b.next C (.periodicCheck poll evmPk) = (checkOffers C poll offers b).2 := by
              simp only [next, checkOfferedLoanContractsForEscrow, ensure, parsed, if_true,
                listed, answered, Handler.lift_bind]
            rw [looped, sound_checkOffers_iff poll sound]
            constructor
            · intro agreed _ offers' other
              rw [listed] at other
              cases other
              exact agreed
            · intro agrees
              exact agrees parsed offers listed
      · have same : b.next C (.periodicCheck poll evmPk) = b := by
          rw [next, checkOfferedLoanContractsForEscrow, Handler.lift_bind, ensure, if_neg parsed]
        rw [same]
        exact iff_of_true sound fun yes => absurd yes parsed

/-- The runs in which each loan is claimed at most once, and claimed or moved only
for its own collateral, are the runs in which every record that is claimed is of
that collateral and not claimed before. -/
theorem claims_sound_iff_agrees (C : Crypto) (store : LoanStore D)
    (activities : List (Activity D)) (b : Borrower D) :
    Run (fun b a b' => step C b a b' ∧ Sound b') (start store) activities b ↔
      Run (guarded (step C) (Agrees C)) (start store) activities b := by
  apply Run.through_iff_guarded
  · exact ⟨List.nodup_nil, List.forall_mem_nil _, List.forall_mem_nil _⟩
  · intro b a b' sound moved
    rw [moved]
    exact sound_next_iff C sound a

end Borrower

/-! A borrower with one offer, whose escrow is announced and not yet confirmed. -/

def sampleCheckEnvironment (collateralAmount confirmations : ℕ) : CheckEnvironment :=
  { sampleEnvironment with
    readEscrowTxid := .ok ()
    readLoanPreimage := .ok ()
    stableLoanCollateral := fun _ _ => some collateralAmount
    acceptsClaimStable := fun _ _ => true
    claimReceiptError := none
    confirmations := fun _ => .ok confirmations }

def samplePoll (collateralAmount confirmations : ℕ) : Poll sampleDescriptors where
  parsesEvmKey _ := true
  loanContractOffers := .ok [sampleLoanOffer]
  answers _ := sampleCheckEnvironment collateralAmount confirmations

def sampleLoanStore : LoanStore sampleDescriptors where
  contracts := sampleNode.store
  loanPreimage id := if id = 7 then some 0 else none
  escrowTxid id := if id = 7 then some 9 else none

namespace Borrower

/-- A record of one satoshi is claimed twice, and the loan is moved. -/
theorem dust_record_claimed_twice :
    ∃ b, Run (step sampleCrypto) (start sampleLoanStore)
        [.periodicCheck (samplePoll 1 0) sampleEvmKey,
          .periodicCheck (samplePoll 1 6) sampleEvmKey] b ∧
      b.claimed = [⟨7, 0, 100000000, 1⟩, ⟨7, 0, 100000000, 1⟩] ∧
      b.escrowConfirmed = [⟨7, 0, 100000000, 1⟩] ∧ ¬ Sound b := by
  refine ⟨_, (Run.nil.snoc rfl).snoc rfl, rfl, rfl, ?_⟩
  intro sound
  exact absurd (sound.claimed ⟨7, 0, 100000000, 1⟩ List.mem_cons_self) (by decide)

end Borrower

end P2PLending.Manager
