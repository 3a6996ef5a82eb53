import P2PLending.Manager.Handlers
import P2PLending.Dlc.LoanValue

/-! The lender's answer to a final acceptance against the collateral transaction that
was agreed. The handler signs the transaction of the message, over the script and the
amount of the message, and broadcasts it; it verifies the signatures on the refund
and the CETs afterwards. -/

namespace P2PLending.Manager
open Dlc Checked

variable {D : Descriptors}

/-! The agreed collateral transaction. -/

section Agreed
variable (C : Crypto) (env : Environment) (msg : AcceptLoanDlc) (offered : OfferedLoanContract D)

/-- The collateral's script under the stored hash. -/
def agreedScript : Bytes :=
  Script.toBytes (makeCollateralRedeemscript msg.fundingPubkey
    offered.offeredContract.offerParams.fundPubkey offered.lenderHash)

/-- The counterparty's signatures hold on the refund and on the CETs of all contract
infos, which spend output 0 of the transaction. -/
def Backed (tx : Transaction) (value : ℕ) : Prop :=
  ∃ params txs verified,
    acceptParamsOf C env.decodeTransaction msg.toAcceptDlc = .ok params ∧
    loanTransactions C offered.offeredContract params tx (agreedScript msg offered) = .ok txs ∧
    verifySignatures C offered.offeredContract params msg.refundSignature
      msg.cetAdaptorSignatures value txs = .ok verified

/-- The transaction spends the announced escrow into the agreed collateral, over
which the counterparty has signed. -/
structure AgreedCollateral (tx : Transaction) : Prop where
  spendsEscrow : ⟨msg.escrowTxid, 0⟩ ∈ tx.input.map TxIn.previousOutput
  collateral : ∃ output, tx.output[0]? = some output ∧
    offered.offeredContract.totalCollateral ≤ output.value ∧
    output.scriptPubkey = toP2wsh C (agreedScript msg offered) ∧
    Backed C env msg offered tx output.value

end Agreed

/-! The transactions over the collateral do not depend on its witness. -/

section Witness
variable {C : Crypto} {env : Environment} {msg : AcceptLoanDlc} {offered : OfferedLoanContract D}
  (tx : Transaction) (witness : List Bytes)

theorem loanTransactions_setWitness (offered : OfferedContract D) (params : PartyParams)
    (script : Bytes) :
    loanTransactions C offered params (tx.setWitness 0 witness) script =
      loanTransactions C offered params tx script := by
  have fund : ({ tx.setWitness 0 witness with version := 2, lockTime := 0 }).setWitness 0 [] =
      ({ tx with version := 2, lockTime := 0 }).setWitness 0 [] :=
    Transaction.setWitness_setWitness { tx with version := 2, lockTime := 0 } 0 witness []
  simp only [loanTransactions, createLoanExpirationDlcTransactions, computeTxid_setWitness,
    Transaction.setWitness_length, fund]

theorem agreedCollateral_setWitness :
    AgreedCollateral C env msg offered (tx.setWitness 0 witness) ↔
      AgreedCollateral C env msg offered tx := by
  have backed : ∀ value, Backed C env msg offered (tx.setWitness 0 witness) value ↔
      Backed C env msg offered tx value := by
    intro value
    simp only [Backed, loanTransactions_setWitness]
  constructor
  · intro agreed
    obtain ⟨spends, output, first, value, script, signed⟩ := agreed
    rw [Transaction.setWitness_previousOutput] at spends
    exact ⟨spends, output, first, value, script, (backed _).mp signed⟩
  · intro agreed
    obtain ⟨spends, output, first, value, script, signed⟩ := agreed
    rw [← Transaction.setWitness_previousOutput tx 0 witness] at spends
    exact ⟨spends, output, first, value, script, (backed _).mpr signed⟩

end Witness

/-! The refund and the CETs, of all contract infos, spend output 0 of the collateral. -/

theorem verifyRemaining_spend {offered : OfferedContract D} {params : PartyParams}
    {adaptorSigs : List AdaptorSignature} {script : Bytes} {inputValue totalCollateral : ℕ}
    {cetInput : TxIn} {infos : List D.ContractInfo} {adaptorIndex : ℕ}
    {verified : List Transaction × List D.AdaptorInfo}
    (h : verifyRemaining offered params adaptorSigs script inputValue totalCollateral cetInput
      infos adaptorIndex = .ok verified) :
    ∀ cet ∈ verified.1, cet.input = [cetInput] := by
  induction infos generalizing adaptorIndex verified with
  | nil =>
      cases h
      exact List.forall_mem_nil _
  | cons info infos ih =>
      simp only [verifyRemaining, bind_eq_ok, Except.ok.injEq, Prod.exists] at h
      obtain ⟨payouts, _, _, next, _, cets, adaptorInfos, rest, rfl⟩ := h
      exact List.forall_mem_append.mpr ⟨fun cet listed => createCets_input listed, ih rest⟩

theorem backed_spend {C : Crypto} {offered : OfferedContract D} {params : PartyParams}
    {tx : Transaction} {script : Bytes} {txs : DlcTransactions} {refundSignature : Signature}
    {adaptorSigs : List AdaptorSignature} {value : ℕ}
    {verified : List Transaction × List D.AdaptorInfo}
    (built : loanTransactions C offered params tx script = .ok txs)
    (signed : verifySignatures C offered params refundSignature adaptorSigs value txs =
      .ok verified) :
    ∀ spending ∈ txs.refund :: verified.1,
      spending.input.map TxIn.previousOutput = [⟨tx.computeTxid C, 0⟩] := by
  simp only [loanTransactions, bind_eq_ok, ofDlc_eq_ok, createLoanExpirationDlcTransactions_eq_ok]
    at built
  obtain ⟨_, _, payouts, _, _, _, _, rfl⟩ := built
  simp only [verifySignatures, bind_eq_ok, index_eq_ok, Except.ok.injEq, Prod.exists] at signed
  obtain ⟨_, _, _, _, _, _, _, cet, first, cetInput, spends, _, _, cets, _, rest, rfl⟩ := signed
  rw [createCets_input (List.mem_of_getElem? first)] at spends
  refine List.forall_mem_cons.mpr ⟨rfl, List.forall_mem_append.mpr ⟨?_, ?_⟩⟩
  · intro cet listed
    rw [createCets_input listed]
    rfl
  · intro cet listed
    rw [verifyRemaining_spend rest cet listed]
    cases spends
    rfl

/-! What the handler does before its broadcast. -/

section Handler
variable {C : Crypto} {env : Environment} {msg : AcceptLoanDlc} {counterParty : PublicKey}
  {node : Node D} {offered : OfferedLoanContract D} {borrowerPreimage : Uint128} {sk : SecretKey}

/-- The transaction has an input whose witness has the two places that the handler
fills. -/
def HasRoom (tx : Transaction) : Prop :=
  ∃ input, tx.input[0]? = some input ∧ 2 ≤ input.witness.length

theorem loanGates_stored
    (gates : loanGates env msg counterParty node = .ok (offered, borrowerPreimage, sk)) :
    node.store msg.temporaryContractId = some (.offeredLoan offered) := by
  simp only [loanGates, getContractInOfferedLoan, bind_eq_ok, Except.ok.injEq, Prod.mk.injEq]
    at gates
  obtain ⟨_, ⟨_, _, gated⟩, _, _, _, _, _, _, _, _, _, _, rfl, _⟩ := gates
  exact (Store.getOfferedLoan_ok gated).1

theorem signCollateral_fault {fault : Fault Error}
    (gates : loanGates env msg counterParty node = .error fault) :
    signCollateral env C msg counterParty node = .error fault := by
  rw [signCollateral, gates, error_bind]

theorem signCollateral_room (room : HasRoom msg.signedEscrowSpendTx)
    (gates : loanGates env msg counterParty node = .ok (offered, borrowerPreimage, sk)) :
    ∃ witness, signCollateral env C msg counterParty node =
      .ok (offered, msg.signedEscrowSpendTx.setWitness 0 witness) := by
  obtain ⟨input, first, length⟩ := room
  have some : 0 < msg.signedEscrowSpendTx.input.length :=
    (List.getElem?_eq_some_iff.mp first).1
  obtain ⟨signature, signed⟩ := getSigForTxInput_exists C msg.signedEscrowSpendTx msg.escrowSpk
    msg.escrowAmount sk some
  have filled : setItem input.witness 0 signature = .ok (input.witness.set 0 signature) :=
    if_pos (by omega)
  have completed : setItem (input.witness.set 0 signature) 1 borrowerPreimage.toBeBytes =
      .ok ((input.witness.set 0 signature).set 1 borrowerPreimage.toBeBytes) :=
    if_pos (by rw [List.length_set]; omega)
  refine ⟨(input.witness.set 0 signature).set 1 borrowerPreimage.toBeBytes, ?_⟩
  simp only [signCollateral, gates, signed, ofDlc, unwrap, index, first, filled, completed, ok_bind]

theorem signCollateral_no_room (cramped : ¬ HasRoom msg.signedEscrowSpendTx)
    (gates : loanGates env msg counterParty node = .ok (offered, borrowerPreimage, sk)) :
    ∃ message, signCollateral env C msg counterParty node = .error (.panic message) := by
  match first : msg.signedEscrowSpendTx.input[0]? with
  | none =>
      have empty : ¬ 0 < msg.signedEscrowSpendTx.input.length :=
        Nat.not_lt.mpr (List.getElem?_eq_none_iff.mp first)
      have unsigned : getSigForTxInput C msg.signedEscrowSpendTx 0 msg.escrowSpk msg.escrowAmount sk =
          .error (.err .inputsIndex) := by
        rw [getSigForTxInput, getRawSigForTxInput, getSigHashMsg, if_neg empty]
        rfl
      refine ⟨unwrapPanic, ?_⟩
      simp only [signCollateral, gates, unsigned, ofDlc, unwrap, ok_bind, error_bind]
  | some input =>
      have short : input.witness.length < 2 :=
        Nat.lt_of_not_le fun enough => cramped ⟨input, first, enough⟩
      obtain ⟨signature, signed⟩ := getSigForTxInput_exists C msg.signedEscrowSpendTx msg.escrowSpk
        msg.escrowAmount sk (List.getElem?_eq_some_iff.mp first).1
      refine ⟨"index out of bounds", ?_⟩
      simp only [signCollateral, gates, signed, ofDlc, unwrap, index, first, ok_bind, setItem]
      by_cases empty : input.witness.length = 0
      · simp [empty]
      · have one : 0 < input.witness.length := by omega
        have full : ¬ 1 < (input.witness.set 0 signature).length := by
          rw [List.length_set]
          omega
        rw [if_pos one, ok_bind, if_neg full, error_bind]

/-- The handler stops without a trace when it stops before the broadcast. -/
theorem onAcceptLoanMessage_stopped {fault : Fault Error}
    (stopped : signCollateral env C msg counterParty node = .error fault) :
    onAcceptLoanMessage env C msg counterParty node = (.error fault, node) := by
  rw [onAcceptLoanMessage, Handler.read_bind, stopped]

theorem onAcceptLoanMessage_refused {tx : Transaction} {e : Error}
    (signed : signCollateral env C msg counterParty node = .ok (offered, tx))
    (refused : env.sendTransaction tx = .error e) :
    onAcceptLoanMessage env C msg counterParty node = (.error (.err e), node) := by
  rw [onAcceptLoanMessage, Handler.read_bind, signed]
  simp only [sendTransaction, Handler.bind_apply, Handler.lift, refused, answered]

theorem onAcceptLoanMessage_broadcast {tx : Transaction}
    (signed : signCollateral env C msg counterParty node = .ok (offered, tx))
    (taken : env.sendTransaction tx = .ok ()) :
    (onAcceptLoanMessage env C msg counterParty node).2.broadcast = node.broadcast ++ [tx] := by
  rw [onAcceptLoanMessage, Handler.read_bind, signed]
  simp only [sendTransaction, Handler.bind_apply, Handler.lift, taken, answered, Handler.modify]
  exact recordAcceptedLoan_same env C msg (f := Node.broadcast) (fun _ _ => rfl) offered tx _

/-- The broadcast does not wait for the signatures that are verified after it. -/
theorem onAcceptLoanMessage_ignores_signatures (refundSignature : Signature)
    (cetAdaptorSignatures : List AdaptorSignature) :
    (onAcceptLoanMessage env C { msg with refundSignature, cetAdaptorSignatures } counterParty
        node).2.broadcast =
      (onAcceptLoanMessage env C msg counterParty node).2.broadcast := by
  have same : signCollateral env C { msg with refundSignature, cetAdaptorSignatures } counterParty
      node = signCollateral env C msg counterParty node := rfl
  match signed : signCollateral env C msg counterParty node with
  | .error fault =>
      rw [onAcceptLoanMessage_stopped signed, onAcceptLoanMessage_stopped (same.trans signed)]
  | .ok (offered, tx) =>
      match taken : env.sendTransaction tx with
      | .ok () =>
          rw [onAcceptLoanMessage_broadcast signed taken,
            onAcceptLoanMessage_broadcast (same.trans signed) taken]
      | .error e =>
          rw [onAcceptLoanMessage_refused signed taken,
            onAcceptLoanMessage_refused (same.trans signed) taken]

end Handler

/-! The handler against the agreed collateral. -/

section Lawful
variable (C : Crypto) (env : Environment) (msg : AcceptLoanDlc) (counterParty : PublicKey)
  (node : Node D)

/-- The handler has broadcast the agreed collateral transaction, or has done nothing
but fail, without a panic, and at most record the failed acceptance. -/
def Lawful (outcome : Except (Fault Error) SignDlc × Node D) : Prop :=
  (∃ offered tx, node.store msg.temporaryContractId = some (.offeredLoan offered) ∧
    outcome.2.broadcast = node.broadcast ++ [tx] ∧ AgreedCollateral C env msg offered tx) ∨
  (outcome.2.broadcast = node.broadcast ∧ outcome.2.lent = node.lent ∧
    (∃ e, outcome.1 = .error (.err e)) ∧
    ∀ id, outcome.2.store id = node.store id ∨
      (id = msg.temporaryContractId ∧ ∃ c, outcome.2.store id = some (.failedAccept c)))

/-- The message's transaction has room for the lender's part of the witness, and
with it either is refused by the node or was the agreed one all along. -/
def Harmless (offered : OfferedLoanContract D) : Prop :=
  HasRoom msg.signedEscrowSpendTx ∧
    ((∀ tx, signCollateral env C msg counterParty node = .ok (offered, tx) →
        env.sendTransaction tx ≠ .ok ()) ∨
      AgreedCollateral C env msg offered msg.signedEscrowSpendTx)

variable {C env msg counterParty node}

theorem lawful_failed (e : Error) : Lawful C env msg node (.error (.err e), node) :=
  .inr ⟨rfl, rfl, ⟨e, rfl⟩, fun _ => .inl rfl⟩

theorem not_lawful_panic (message : String) :
    ¬ Lawful C env msg node (.error (.panic message), node) := by
  intro lawful
  cases lawful with
  | inl sent =>
      obtain ⟨_, _, _, broadcast, _⟩ := sent
      simp at broadcast
  | inr failed =>
      obtain ⟨_, _, ⟨e, panicked⟩, _⟩ := failed
      cases panicked

theorem lawful_broadcast_iff {offered : OfferedLoanContract D} {tx : Transaction}
    {outcome : Except (Fault Error) SignDlc × Node D}
    (stored : node.store msg.temporaryContractId = some (.offeredLoan offered))
    (sent : outcome.2.broadcast = node.broadcast ++ [tx]) :
    Lawful C env msg node outcome ↔ AgreedCollateral C env msg offered tx := by
  constructor
  · intro lawful
    cases lawful with
    | inl agreed =>
        obtain ⟨offered', tx', stored', sent', agreed⟩ := agreed
        rw [stored] at stored'
        rw [sent] at sent'
        cases stored'
        have same : tx = tx' := by simpa using sent'
        rw [same]
        exact agreed
    | inr silent =>
        rw [sent] at silent
        simp at silent
  · intro agreed
    exact .inl ⟨offered, tx, stored, sent, agreed⟩

end Lawful

/-! Messages for the sample offer. -/

/-- A message whose transaction has the given inputs and outputs. -/
def sampleAcceptance (input : List TxIn) (output : List TxOut) : AcceptLoanDlc where
  temporaryContractId := 7
  acceptCollateral := 100000000
  fundingPubkey := sampleKey₂
  payoutSpk := sampleSpk₂
  payoutSerialId := 2
  fundingInputs := []
  changeSpk := sampleSpk₂
  changeSerialId := 3
  cetAdaptorSignatures := []
  refundSignature := sampleCrypto.signEcdsa 0 2
  escrowTxid := sampleFundTxid
  borrowerHash := 0
  signedEscrowSpendTx := { lockTime := 0, input, output }
  escrowAmount := 100000314
  escrowSpk := []
  collateralSpk := []

/-- An input with two empty witness items. -/
def sampleInput (previousOutput : OutPoint) : TxIn where
  previousOutput := previousOutput
  scriptSig := []
  sequence := enableLocktime
  witness := [[], []]

example : AgreedCollateral sampleCrypto sampleEnvironment
    (sampleAcceptance [sampleInput ⟨sampleFundTxid, 0⟩] [⟨100000148, toP2wsh sampleCrypto []⟩])
    sampleLoanOffer
    { lockTime := 0
      input := [sampleInput ⟨sampleFundTxid, 0⟩]
      output := [⟨100000148, toP2wsh sampleCrypto []⟩] } where
  spendsEscrow := List.mem_cons_self
  collateral := ⟨_, rfl, by decide, by decide +kernel, _, _, _, rfl, rfl, by rfl⟩

/-- A transaction that spends something else and pays nothing. -/
def strayAcceptance : AcceptLoanDlc := sampleAcceptance [sampleInput ⟨12, 0⟩] []

def bareAcceptance : AcceptLoanDlc := sampleAcceptance [] []

end P2PLending.Manager
