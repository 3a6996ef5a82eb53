import P2PLending.Manager.LoanOffer
import P2PLending.Manager.StageAgreement
import P2PLending.Foundation.Runs

/-! What both parties keep of a loan's secrets. The borrower draws a new preimage
in every call and writes it, after the broadcast, over the one before; the lender
writes its preimage before it stores the offer. Neither looks at the outcome of
these writes. -/

namespace P2PLending.Manager
open Dlc Checked

variable {D : Descriptors}

/-! The borrower's first acceptance. -/

/-- The answers of one call of `initiate_accept_loan_contract_offer`, with the
preimage it draws. -/
structure InitiateEnvironment extends AcceptEnvironment where
  readStore : Except Error Unit
  borrowerPreimage : Uint128
  setEscrowTxid : Except Error Unit
  setLoanPreimage : Except Error Unit

section Initiate
variable (env : InitiateEnvironment) (C : Crypto) (id : ContractId)

/-- The offer of the call, and the escrow that its node takes. -/
def initiatedEscrow (b : Borrower D) : Result (OfferedLoanContract D × Transaction × Transaction) := do
  answered env.readStore
  let offered ← b.store.contracts.getOfferedLoan id none
  let (escrowTx, signed) ← unwrap (sentEscrow env.toAcceptEnvironment C offered.offeredContract
    env.borrowerPreimage)
  .ok (offered, escrowTx, signed)

/-- The results of both writes are dropped. -/
def initiateAcceptLoanContractOffer :
    Handler (Borrower D) (Fault Error) (PublicKey × InitiateAcceptLoanDlc) := do
  let (offered, escrowTx, signed) ← Handler.read (initiatedEscrow env C id)
  Handler.modify fun b =>
    { b with escrows := b.escrows ++ [⟨id, signed, env.borrowerPreimage⟩] }
  let escrowTxid := escrowTx.computeTxid C
  Handler.modify fun b =>
    { b with store := written env.setEscrowTxid b.store (b.store.setEscrowTxid id escrowTxid) }
  let borrowerHash := C.sha256 env.borrowerPreimage.toBeBytes
  Handler.modify fun b =>
    { b with
      store := written env.setLoanPreimage b.store
        (b.store.setLoanPreimage id env.borrowerPreimage) }
  pure (offered.offeredContract.counterParty, { contractId := id, borrowerHash, escrowTxid })

end Initiate

/-- The transaction's first output is the escrow under the preimage's hash. -/
def CommitsTo (C : Crypto) (tx : Transaction) (preimage : Uint128) : Prop :=
  ∃ output borrowerPubkey lenderPubkey, tx.output[0]? = some output ∧
    output.scriptPubkey = toP2wsh C (Script.toBytes (makeLoanFundingRedeemscript borrowerPubkey
      lenderPubkey escrowLocktime (C.sha256 preimage.toBeBytes)))

/-- The store knows the escrow and a preimage that opens it. -/
def Holds (C : Crypto) (store : LoanStore D) (e : SentEscrow) : Prop :=
  store.escrowTxid e.contractId = some (e.tx.computeTxid C) ∧
    ∃ p, store.loanPreimage e.contractId = some p ∧ CommitsTo C e.tx p

/-- The same transaction, apart from its witnesses, where the offer is the same. -/
def OneEscrow (e e' : SentEscrow) : Prop :=
  e.contractId = e'.contractId → e.tx.unsigned = e'.tx.unsigned

/-- One escrow for each offer at most, and the store holds what opens each. -/
structure Kept (C : Crypto) (b : Borrower D) : Prop where
  once : b.escrows.Pairwise OneEscrow
  held : ∀ e ∈ b.escrows, Holds C b.store e

section Keeping
variable {C : Crypto} {b : Borrower D} {store : LoanStore D} {e : SentEscrow}

theorem escrowTransaction_commits {env : AcceptEnvironment} {offered : OfferedContract D}
    {borrowerPreimage : Uint128} {tx : Transaction}
    (h : escrowTransaction env C offered borrowerPreimage = .ok tx) :
    CommitsTo C tx borrowerPreimage := by
  simp only [escrowTransaction, bind_eq_ok, ofDlc_eq_ok, Except.ok.injEq, Prod.exists] at h
  obtain ⟨_, _, _, _, params, _, _, escrow, script, built, rfl⟩ := h
  obtain ⟨scriptIs, _, _, _, value, _, outputs, _⟩ := createEscrowTransaction_ok built
  refine ⟨⟨value, toP2wsh C script⟩, params.fundPubkey, offered.offerParams.fundPubkey, ?_, ?_⟩
  · rw [outputs]
    rfl
  · exact congrArg (toP2wsh C) scriptIs

theorem sentEscrow_commits {env : AcceptEnvironment} {offered : OfferedContract D}
    {borrowerPreimage : Uint128} {tx signed : Transaction}
    (h : sentEscrow env C offered borrowerPreimage = .ok (tx, signed)) :
    signed.computeTxid C = tx.computeTxid C ∧ CommitsTo C signed borrowerPreimage := by
  obtain ⟨escrow, same, _⟩ := sentEscrow_ok h
  obtain ⟨output, borrower, lender, first, committed⟩ := escrowTransaction_commits escrow
  refine ⟨congrArg C.txid same, output, borrower, lender, ?_, committed⟩
  rw [Transaction.output_eq_of_unsigned same]
  exact first

theorem Holds.of_oneEscrow {e' : SentEscrow} (holds : Holds C store e)
    (same : e'.contractId = e.contractId) (one : OneEscrow e' e) : Holds C store e' := by
  have unsigned := one same
  obtain ⟨txid, p, preimage, output, borrower, lender, first, committed⟩ := holds
  rw [Holds, same]
  refine ⟨?_, p, preimage, output, borrower, lender, ?_, committed⟩
  · rw [txid, Transaction.computeTxid, Transaction.computeTxid, unsigned]
  · rw [Transaction.output_eq_of_unsigned unsigned]
    exact first

/-- A store that differs from the borrower's at the offer of a new escrow only keeps
everything exactly when the offer had no other escrow and the new one is held. -/
theorem kept_append_iff (kept : Kept C b)
    (others : ∀ id, id ≠ e.contractId → store.escrowTxid id = b.store.escrowTxid id ∧
      store.loanPreimage id = b.store.loanPreimage id) :
    Kept C { b with store, escrows := b.escrows ++ [e] } ↔
      (∀ e' ∈ b.escrows, OneEscrow e' e) ∧ Holds C store e := by
  constructor
  · intro after
    have once := List.pairwise_append.mp after.once
    refine ⟨fun e' listed => once.2.2 e' listed e List.mem_cons_self, ?_⟩
    exact after.held e (List.mem_append_right _ List.mem_cons_self)
  · intro ⟨one, held⟩
    refine ⟨List.pairwise_append.mpr ⟨kept.once, List.pairwise_singleton _ _, ?_⟩, ?_⟩
    · intro e' listed
      exact List.forall_mem_singleton.mpr (one e' listed)
    · show ∀ e' ∈ b.escrows ++ [e], Holds C store e'
      refine List.forall_mem_append.mpr ⟨fun e' listed => ?_, List.forall_mem_singleton.mpr held⟩
      by_cases same : e'.contractId = e.contractId
      · exact held.of_oneEscrow same (one e' listed)
      · obtain ⟨txid, preimage⟩ := others e'.contractId same
        have before := kept.held e' listed
        unfold Holds at before ⊢
        rw [txid, preimage]
        exact before

end Keeping

/-! One call, at the point after its broadcast and at its end. -/

section Call
variable (env : InitiateEnvironment) (C : Crypto) (id : ContractId)

/-- The store after both writes. -/
def persisted (escrowTxid : Bytes32) (store : LoanStore D) : LoanStore D :=
  let store := written env.setEscrowTxid store (store.setEscrowTxid id escrowTxid)
  written env.setLoanPreimage store (store.setLoanPreimage id env.borrowerPreimage)

/-- The escrow that a call broadcasts, if it comes to that. -/
def broadcastEscrow (b : Borrower D) : Option SentEscrow :=
  match initiatedEscrow env C id b with
  | .ok (_, _, signed) => some ⟨id, signed, env.borrowerPreimage⟩
  | .error _ => none

/-- The borrower right after the broadcast. -/
def afterBroadcast (b : Borrower D) : Borrower D :=
  match broadcastEscrow env C id b with
  | some e => { b with escrows := b.escrows ++ [e] }
  | none => b

/-- The borrower between the two writes. -/
def afterEscrowTxid (b : Borrower D) : Borrower D :=
  match broadcastEscrow env C id b with
  | some e =>
      { b with
        store := written env.setEscrowTxid b.store
          (b.store.setEscrowTxid id (e.tx.computeTxid C))
        escrows := b.escrows ++ [e] }
  | none => b

variable {env C id} {b : Borrower D} {e : SentEscrow}

theorem broadcastEscrow_some (sent : broadcastEscrow env C id b = some e) :
    e.contractId = id ∧ CommitsTo C e.tx env.borrowerPreimage ∧
      (initiateAcceptLoanContractOffer env C id b).2 =
        { b with
          store := persisted env id (e.tx.computeTxid C) b.store
          escrows := b.escrows ++ [e] } := by
  unfold broadcastEscrow at sent
  split at sent
  · rename_i offered tx signed built
    cases sent
    have stages := built
    simp only [initiatedEscrow, bind_eq_ok, unwrap_eq_ok, Except.ok.injEq, Prod.mk.injEq,
      Prod.exists] at stages
    obtain ⟨_, _, _, _, _, _, escrow, rfl, rfl, rfl⟩ := stages
    obtain ⟨txid, commits⟩ := sentEscrow_commits escrow
    refine ⟨rfl, commits, ?_⟩
    rw [initiateAcceptLoanContractOffer, Handler.read_bind, built]
    simp only [txid]
    rfl
  · cases sent

theorem broadcastEscrow_none (silent : broadcastEscrow env C id b = none) :
    (initiateAcceptLoanContractOffer env C id b).2 = b := by
  unfold broadcastEscrow at silent
  split at silent
  · cases silent
  · rename_i fault built
    rw [initiateAcceptLoanContractOffer, Handler.read_bind, built]

variable (env id) in
theorem persisted_escrowTxid (escrowTxid : Bytes32) (store : LoanStore D) (other : ContractId) :
    (persisted env id escrowTxid store).escrowTxid other =
      if other = id ∧ env.setEscrowTxid = .ok () then some escrowTxid
      else store.escrowTxid other := by
  simp only [persisted, written_setLoanPreimage_escrowTxid, written_setEscrowTxid]

variable (env id) in
theorem persisted_loanPreimage (escrowTxid : Bytes32) (store : LoanStore D) (other : ContractId) :
    (persisted env id escrowTxid store).loanPreimage other =
      if other = id ∧ env.setLoanPreimage = .ok () then some env.borrowerPreimage
      else store.loanPreimage other := by
  simp only [persisted, written_setLoanPreimage, written_setEscrowTxid_loanPreimage]

/-- After the writes the escrow is held exactly when each write went through or the
store already had what it would have written. -/
theorem holds_persisted_iff (same : e.contractId = id)
    (commits : CommitsTo C e.tx env.borrowerPreimage) (store : LoanStore D) :
    Holds C (persisted env id (e.tx.computeTxid C) store) e ↔
      (env.setEscrowTxid = .ok () ∨ store.escrowTxid id = some (e.tx.computeTxid C)) ∧
        (env.setLoanPreimage = .ok () ∨
          ∃ p, store.loanPreimage id = some p ∧ CommitsTo C e.tx p) := by
  rw [Holds, same, persisted_escrowTxid, persisted_loanPreimage]
  apply and_congr
  · by_cases wrote : env.setEscrowTxid = .ok ()
    · simp [wrote]
    · simp [wrote]
  · by_cases wrote : env.setLoanPreimage = .ok ()
    · simp [wrote, commits]
    · simp [wrote]

end Call

/-! Runs of calls, with any change of the contracts between them. -/

inductive LoanActivity (D : Descriptors)
  | initiate (env : InitiateEnvironment) (id : ContractId)
  | other (contracts : Store D)

namespace Borrower
variable (C : Crypto)

def activity (b : Borrower D) : LoanActivity D → Borrower D
  | .initiate env id => (initiateAcceptLoanContractOffer env C id b).2
  | .other contracts => { b with store := { b.store with contracts } }

/-- The borrower at the points of an activity: of a call, from its broadcast on. -/
def points (b : Borrower D) : LoanActivity D → List (Borrower D)
  | .initiate env id =>
      [afterBroadcast env C id b, afterEscrowTxid env C id b, b.activity C (.initiate env id)]
  | .other contracts => [b.activity C (.other contracts)]

def initiates (b : Borrower D) (a : LoanActivity D) (b' : Borrower D) : Prop := b' = b.activity C a

/-- A call broadcasts nothing but what was broadcast for its offer before. -/
def FirstEscrow (b : Borrower D) : LoanActivity D → Prop
  | .initiate env id => ∀ e, broadcastEscrow env C id b = some e → ∀ e' ∈ b.escrows, OneEscrow e' e
  | .other _ => True

/-- Each write of a call that broadcasts goes through, or finds there what it would write. -/
def Persists (b : Borrower D) : LoanActivity D → Prop
  | .initiate env id => ∀ e, broadcastEscrow env C id b = some e →
      (env.setEscrowTxid = .ok () ∨ b.store.escrowTxid id = some (e.tx.computeTxid C)) ∧
        (env.setLoanPreimage = .ok () ∨
          ∃ p, b.store.loanPreimage id = some p ∧ CommitsTo C e.tx p)
  | .other _ => True

/-- The store has everything about an escrow before it is broadcast. -/
def HeldBefore (b : Borrower D) : LoanActivity D → Prop
  | .initiate env id => ∀ e, broadcastEscrow env C id b = some e → Holds C b.store e
  | .other _ => True

variable {C}

theorem kept_activity_iff {b : Borrower D} (kept : Kept C b) (a : LoanActivity D) :
    Kept C (b.activity C a) ↔ b.FirstEscrow C a ∧ b.Persists C a := by
  cases a with
  | other contracts => exact iff_of_true ⟨kept.once, kept.held⟩ ⟨trivial, trivial⟩
  | initiate env id =>
      match sent : broadcastEscrow env C id b with
      | none =>
          rw [activity, broadcastEscrow_none sent]
          simp [FirstEscrow, Persists, sent, kept]
      | some e =>
          obtain ⟨same, commits, after⟩ := broadcastEscrow_some sent
          have others : ∀ other, other ≠ e.contractId →
              (persisted env id (e.tx.computeTxid C) b.store).escrowTxid other =
                  b.store.escrowTxid other ∧
                (persisted env id (e.tx.computeTxid C) b.store).loanPreimage other =
                  b.store.loanPreimage other := by
            intro other different
            rw [same] at different
            simp [persisted_escrowTxid, persisted_loanPreimage, different]
          rw [activity, after, kept_append_iff kept others, holds_persisted_iff same commits]
          simp [FirstEscrow, Persists, sent]

theorem Persists.of_heldBefore {b : Borrower D} {a : LoanActivity D}
    (held : b.HeldBefore C a) : b.Persists C a := by
  cases a with
  | other contracts => trivial
  | initiate env id =>
      intro e sent
      obtain ⟨same, _, _⟩ := broadcastEscrow_some sent
      obtain ⟨txid, preimage⟩ := held e sent
      rw [same] at txid preimage
      exact ⟨.inr txid, .inr preimage⟩

theorem kept_of_points {b : Borrower D} {a : LoanActivity D}
    (throughout : ∀ p ∈ b.points C a, Kept C p) : Kept C (b.activity C a) := by
  cases a with
  | initiate env id => exact throughout _ (by simp [points])
  | other contracts => exact throughout _ List.mem_cons_self

/-- At every point of a call everything is kept exactly when the call broadcasts no
second escrow and the store had everything about it before. -/
theorem kept_points_iff {b : Borrower D} (kept : Kept C b) (a : LoanActivity D) :
    (∀ p ∈ b.points C a, Kept C p) ↔ b.FirstEscrow C a ∧ b.HeldBefore C a := by
  cases a with
  | other contracts =>
      refine iff_of_true ?_ ⟨trivial, trivial⟩
      exact List.forall_mem_singleton.mpr ⟨kept.once, kept.held⟩
  | initiate env id =>
      match sent : broadcastEscrow env C id b with
      | none =>
          have same : b.points C (.initiate env id) = [b, b, b] := by
            rw [points, activity, broadcastEscrow_none sent, afterBroadcast, afterEscrowTxid, sent]
          rw [same]
          simp [FirstEscrow, HeldBefore, sent, kept]
      | some e =>
          obtain ⟨same, _, _⟩ := broadcastEscrow_some sent
          have appended : afterBroadcast env C id b =
              { b with store := b.store, escrows := b.escrows ++ [e] } := by
            rw [afterBroadcast, sent]
          have broadcast := kept_append_iff (e := e) kept fun _ _ => ⟨rfl, rfl⟩
          have condition : b.FirstEscrow C (.initiate env id) ∧ b.HeldBefore C (.initiate env id) ↔
              (∀ e' ∈ b.escrows, OneEscrow e' e) ∧ Holds C b.store e := by
            simp [FirstEscrow, HeldBefore, sent]
          constructor
          · intro throughout
            have first := throughout _ List.mem_cons_self
            rw [appended] at first
            exact condition.mpr (broadcast.mp first)
          · intro admitted
            have ⟨one, held⟩ := condition.mp admitted
            have ended := (kept_activity_iff kept (.initiate env id)).mpr
              ⟨admitted.1, .of_heldBefore admitted.2⟩
            refine List.forall_mem_cons.mpr ⟨?_, List.forall_mem_cons.mpr ⟨?_,
              List.forall_mem_singleton.mpr ended⟩⟩
            · rw [appended]
              exact broadcast.mpr ⟨one, held⟩
            · rw [afterEscrowTxid, sent]
              refine (kept_append_iff kept ?_).mpr ⟨one, ?_⟩
              · intro other different
                rw [same] at different
                simp [written_setEscrowTxid, different]
              · rw [Holds, written_setEscrowTxid, written_setEscrowTxid_loanPreimage, held.1,
                  ite_self]
                exact ⟨rfl, held.2⟩

end Borrower

/-! The lender's preimage. -/

section Lender
variable {C : Crypto} {E : Type} {env : OfferEnvironment} {input : LoanContractInput D E}
  {counterParty : PublicKey} {oracleAnnouncements : List (List (OracleAnnouncement E))}
  {store store' : LoanStore D} {msg : OfferLoanDlc D}

/-- The store has a preimage of the hash, for the contract id. -/
def HoldsPreimage (C : Crypto) (store : LoanStore D) (id : ContractId) (hash : Bytes32) : Prop :=
  ∃ p, store.loanPreimage id = some p ∧ C.sha256 p.toBeBytes = hash

theorem holdsPreimage_offer_iff
    (sent : sendOfferLoanWithAnnouncements env C input counterParty oracleAnnouncements store =
      (.ok msg, store')) :
    HoldsPreimage C store' msg.offerDlc.temporaryContractId msg.lenderHash ↔
      env.setLoanPreimage = .ok () ∨ HoldsPreimage C store env.newTemporaryId
        (C.sha256 env.lenderPreimage.toBeBytes) := by
  obtain ⟨id, hash, preimages⟩ := sendOfferLoanWithAnnouncements_ok sent
  unfold HoldsPreimage
  rw [id, hash, preimages, written_setLoanPreimage]
  by_cases wrote : env.setLoanPreimage = .ok ()
  · simp [wrote]
  · simp [wrote]

end Lender

/-- The runs after whose calls everything is kept are those in which no call
broadcasts a second escrow and each write goes through; the runs in which it is kept
at every point are those in which the store has everything before the broadcast. And
a lender's store has the preimage of a returned offer when its write went through. -/
theorem secrets_kept_iff (C : Crypto) (store : LoanStore D) (calls : List (LoanActivity D))
    (b : Borrower D) :
    (Run (fun b a b' => b.initiates C a b' ∧ Kept C b') (Borrower.start store) calls b ↔
      Run (guarded (Borrower.initiates C) fun b a => b.FirstEscrow C a ∧ b.Persists C a)
        (Borrower.start store) calls b) ∧
    (Run (fun b a b' => b.initiates C a b' ∧ ∀ p ∈ b.points C a, Kept C p)
        (Borrower.start store) calls b ↔
      Run (guarded (Borrower.initiates C) fun b a => b.FirstEscrow C a ∧ b.HeldBefore C a)
        (Borrower.start store) calls b) ∧
    ∀ (E : Type) (env : OfferEnvironment) (input : LoanContractInput D E)
      (counterParty : PublicKey) (oracleAnnouncements : List (List (OracleAnnouncement E)))
      (lender lender' : LoanStore D) (msg : OfferLoanDlc D),
      sendOfferLoanWithAnnouncements env C input counterParty oracleAnnouncements lender =
          (.ok msg, lender') →
        (HoldsPreimage C lender' msg.offerDlc.temporaryContractId msg.lenderHash ↔
          env.setLoanPreimage = .ok () ∨ HoldsPreimage C lender env.newTemporaryId
            (C.sha256 env.lenderPreimage.toBeBytes)) := by
  have start : Kept C (Borrower.start store) :=
    ⟨List.Pairwise.nil, List.forall_mem_nil _⟩
  refine ⟨?_, ?_, fun _ _ _ _ _ _ _ _ sent => holdsPreimage_offer_iff sent⟩
  · apply Run.through_iff_guarded start
    intro b a b' kept moved
    rw [moved]
    exact Borrower.kept_activity_iff kept a
  · have all_kept : ∀ (b : Borrower D) a b', Kept C b → b.initiates C a b' →
        ((∀ p ∈ b.points C a, Kept C p) ∧ Kept C b' ↔ b.FirstEscrow C a ∧ b.HeldBefore C a) := by
      intro b a b' kept moved
      rw [← Borrower.kept_points_iff kept a, moved]
      exact and_iff_left_of_imp Borrower.kept_of_points
    rw [← Run.through_steps_iff_guarded start all_kept]
    constructor
    · apply Run.mono
      intro b a b' ⟨moved, throughout⟩
      exact ⟨moved, throughout, moved ▸ Borrower.kept_of_points throughout⟩
    · apply Run.mono
      intro b a b' ⟨moved, throughout, _⟩
      exact ⟨moved, throughout⟩

/-! A borrower with one offer, and a lender that makes the same offer. -/

def freshLoanStore : LoanStore sampleDescriptors where
  contracts id := if id = 7 then some (.offeredLoan sampleLoanOffer) else none
  loanPreimage _ := none
  escrowTxid _ := none

/-- A call that finds its coin at output `coin` of a transaction. -/
def sampleInitiate (known : Transaction) (coin : ℕ) (borrowerPreimage : Uint128)
    (writes : Except Error Unit) : InitiateEnvironment :=
  { sampleAcceptEnvironment known coin 500000000 with
    readStore := .ok ()
    borrowerPreimage
    setEscrowTxid := writes
    setLoanPreimage := writes }

def sampleOfferEnvironment (setLoanPreimage : Except Error Unit) : OfferEnvironment where
  newTemporaryId := 7
  lenderPreimage := 11
  deriveSignerKeyId _ _ := 3
  deriveContractSigner _ := .ok ⟨.ok sampleKey₁, .ok 1⟩
  getNewAddress := .ok sampleSpk₁
  getNewChangeAddress := .ok sampleSpk₁
  getNewSerialId k := k
  unixTimeNow := 10
  setLoanPreimage := setLoanPreimage
  writeStore := .ok ()

def sampleLoanInput : LoanContractInput sampleDescriptors Unit where
  collateralRatio := 150
  liquidationRatio := 125
  interestRate := 10
  duration := 31536000
  collateral := 100000000
  feeRate := 1
  contractInfos := [⟨fun _ _ => [⟨100000000, 0⟩, ⟨0, 100000000⟩], ⟨[0], 1⟩⟩]

/-- The escrow that the first escrow's change funds. -/
def secondEscrow : Transaction where
  lockTime := 0
  input := [⟨⟨sampleFundTxid, 1⟩, [], enableLocktime, []⟩]
  output := [⟨100000314, toP2wsh sampleCrypto []⟩, ⟨799998504, sampleSpk₂⟩]

theorem initiates_sent {C : Crypto} {b : Borrower D} {env : InitiateEnvironment} {id : ContractId}
    {e : SentEscrow} (sent : broadcastEscrow env C id b = some e) :
    b.initiates C (.initiate env id)
      { b with
        store := persisted env id (e.tx.computeTxid C) b.store
        escrows := b.escrows ++ [e] } :=
  (broadcastEscrow_some sent).2.2.symm

theorem once_sent : broadcastEscrow (sampleInitiate sampleCoin 0 0 (.ok ())) sampleCrypto 7
    (Borrower.start freshLoanStore) = some ⟨7, sampleEscrow 100000000, 0⟩ := by
  decide +kernel

theorem secrets_kept_iff_answered_writes :
    (∃ b, Run (fun b a b' => b.initiates sampleCrypto a b' ∧ Kept sampleCrypto b')
      (Borrower.start freshLoanStore) [.initiate (sampleInitiate sampleCoin 0 0 (.ok ())) 7] b) ∧
    ∃ msg lender', sendOfferLoanWithAnnouncements (sampleOfferEnvironment (.ok ())) sampleCrypto
        sampleLoanInput sampleKey₂ [[⟨100, ()⟩]] freshLoanStore = (.ok msg, lender') ∧
      HoldsPreimage sampleCrypto lender' msg.offerDlc.temporaryContractId msg.lenderHash := by
  have admitted : ∃ b, Run (guarded (Borrower.initiates sampleCrypto) fun b a =>
        b.FirstEscrow sampleCrypto a ∧ b.Persists sampleCrypto a)
      (Borrower.start freshLoanStore) [.initiate (sampleInitiate sampleCoin 0 0 (.ok ())) 7] b :=
    ⟨_, Run.nil.snoc ⟨⟨fun _ _ => List.forall_mem_nil _, fun _ _ => ⟨.inl rfl, .inl rfl⟩⟩,
      initiates_sent once_sent⟩⟩
  obtain ⟨b, run⟩ := admitted
  obtain ⟨msg, lender', sent⟩ : ∃ msg lender', sendOfferLoanWithAnnouncements
      (sampleOfferEnvironment (.ok ())) sampleCrypto sampleLoanInput sampleKey₂ [[⟨100, ()⟩]]
      freshLoanStore = (.ok msg, lender') := ⟨_, _, rfl⟩
  obtain ⟨kept, _, lender⟩ := secrets_kept_iff sampleCrypto freshLoanStore _ b
  exact ⟨⟨b, kept.mpr run⟩, msg, lender', sent, (lender _ _ _ _ _ _ _ _ sent).mpr (.inl rfl)⟩

/-- Two calls for one offer, whose writes all go through, broadcast two escrows. A
call whose writes fail broadcasts an escrow of which the store knows nothing. A
lender whose write fails returns an offer whose preimage it does not have. -/
theorem secrets_lost :
    (∃ b, Run (Borrower.initiates sampleCrypto) (Borrower.start freshLoanStore)
        [.initiate (sampleInitiate sampleCoin 0 0 (.ok ())) 7,
          .initiate (sampleInitiate (sampleEscrow 100000000) 1 1 (.ok ())) 7] b ∧
      b.escrows = [⟨7, sampleEscrow 100000000, 0⟩, ⟨7, secondEscrow, 1⟩] ∧
      b.store.loanPreimage 7 = some 1 ∧ ¬ Kept sampleCrypto b) ∧
    (∃ b, Run (Borrower.initiates sampleCrypto) (Borrower.start freshLoanStore)
        [.initiate (sampleInitiate sampleCoin 0 0 (.error .ioError)) 7] b ∧
      b.escrows = [⟨7, sampleEscrow 100000000, 0⟩] ∧
      b.store.escrowTxid 7 = none ∧ b.store.loanPreimage 7 = none ∧ ¬ Kept sampleCrypto b) ∧
    ∃ msg lender', sendOfferLoanWithAnnouncements (sampleOfferEnvironment (.error .ioError))
        sampleCrypto sampleLoanInput sampleKey₂ [[⟨100, ()⟩]] freshLoanStore =
      (.ok msg, lender') ∧ lender'.loanPreimage msg.offerDlc.temporaryContractId = none := by
  have unwritten : broadcastEscrow (sampleInitiate sampleCoin 0 0 (.error .ioError)) sampleCrypto 7
      (Borrower.start freshLoanStore) = some ⟨7, sampleEscrow 100000000, 0⟩ := by decide +kernel
  have first := Run.nil.snoc (initiates_sent once_sent)
  have failed := Run.nil.snoc (initiates_sent unwritten)
  refine ⟨⟨_, first.snoc (initiates_sent ?_), rfl, rfl, ?_⟩, ⟨_, failed, rfl, rfl, rfl, ?_⟩,
    ⟨_, _, rfl, rfl⟩⟩
  · decide +kernel
  · intro kept
    have one : OneEscrow ⟨7, sampleEscrow 100000000, 0⟩ ⟨7, secondEscrow, 1⟩ :=
      (List.pairwise_cons.mp kept.once).1 _ List.mem_cons_self
    exact absurd (one rfl) (by decide)
  · intro kept
    have held : Holds sampleCrypto _ ⟨7, sampleEscrow 100000000, 0⟩ :=
      kept.held _ List.mem_cons_self
    cases held.1

end P2PLending.Manager
