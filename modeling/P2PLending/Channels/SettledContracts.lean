import P2PLending.Channels.ConfirmedDepths
import P2PLending.Channels.FundingWitnesses

/-! Contracts that are recorded as closed or refunded. The periodic check, the close with
given attestations and the report of a counterparty's close settle contracts; each stores what
it finds without a look at what is stored. -/

namespace P2PLending.Manager.Channels
open Dlc Checked

/-! The two other calls that settle a contract. -/

/-- What of contract infos and attestations is compared. -/
structure AnnouncedNonces (D : Descriptors) where
  oracleNonces : D.ContractInfo → List (List Bytes32)
  threshold : D.ContractInfo → ℕ
  nonces : D.OracleAttestation → Result (List Bytes32)

/-- The nonces of the manager's own infos; that of a signature has to be an x coordinate. -/
def announcedNonces (K : AdaptorCrypto) (N : Infos.Numerics)
    (order : List (List String × List ℕ) → List (List String × List ℕ))
    (isXOnly : Bytes32 → Bool) : AnnouncedNonces (Infos.contractDescriptors K N order) where
  oracleNonces := fun info : Infos.ContractInfo N =>
    info.oracleAnnouncements.map fun a => a.oracleEvent.oracleNonces
  threshold := fun info : Infos.ContractInfo N => info.threshold
  nonces := fun a : Infos.OracleAttestation => a.signatures.mapM fun s => do
    ensure (isXOnly s.nonce = true) (.panic "valid signature")
    .ok s.nonce

/-- The answers of `close_confirmed_contract`. -/
structure CloseAnswers (D : Descriptors) extends CheckAnswers D where
  getBlockchainHeight : Result ℕ

/-- Below this a lock time is a height. -/
def lockTimeThreshold : ℕ := 500000000

/-- `is_satisfied_by`, with the clock and the height cut to 32 bits. -/
def lockTimeSatisfied (lockTime unixTimeNow : ℕ) (blockchainHeight : Result ℕ) : Result Bool := do
  let time := unixTimeNow % 2 ^ 32
  ensure (lockTimeThreshold ≤ time)
    (.panic "Time is not in valid range. This should never happen.")
  let height ← blockchainHeight
  let height := height % 2 ^ 32
  ensure (height < lockTimeThreshold)
    (.panic "Height is not in valid range. This should never happen.")
  .ok (if lockTime < lockTimeThreshold then lockTime ≤ height else lockTime ≤ time)

namespace Desk
variable (C : Crypto) (signer : Signer) {E : SigningDescriptors}

section Close
variable (A : AnnouncedNonces E.toDescriptors) (env : CloseAnswers E.toDescriptors)

/-- The first info with enough announcements whose nonces the attestations have. -/
def attestedInfo (attestations : List (ℕ × E.OracleAttestation)) :
    List (E.ContractInfo × E.AdaptorInfo) → Result (Option (E.ContractInfo × E.AdaptorInfo))
  | [] => .ok none
  | info :: infos => do
      let same ← attestations.mapM fun attestation => do
        let announced ← index (A.oracleNonces info.1) attestation.1
        let nonces ← A.nonces attestation.2
        .ok (decide (announced = nonces))
      if A.threshold info.1 ≤ same.count true then .ok (some info)
      else attestedInfo attestations infos

def closeConfirmedContract (contractId : ContractId)
    (attestations : List (ℕ × E.OracleAttestation)) :
    DeskHandler E.toDescriptors (Contract E.toDescriptors) := do
  let contract ← Handler.read fun d => d.contracts.getConfirmed contractId none
  let accepted := contract.acceptedContract
  let found ← Handler.lift (attestedInfo A attestations
    (accepted.offeredContract.contractInfo.zip accepted.adaptorInfos))
  match found with
  | some (contractInfo, adaptorInfo) => do
      let contractSigner ← Handler.lift
        (signer.deriveContractSigner accepted.offeredContract.keysId)
      let cet ← Handler.lift
        (getSignedCet C contract contractInfo adaptorInfo attestations contractSigner)
      let satisfied ← Handler.lift
        (lockTimeSatisfied cet.lockTime env.unixTimeNow env.getBlockchainHeight)
      Handler.lift (ensure (satisfied = true)
        (.err (.invalidState "CET lock time has not passed yet")))
      let closed ← closeContract C env.toCheckAnswers contract cet
      updateContract C env.toCheckAnswers closed
      pure closed
  | none => Handler.lift (.error (.err (.invalidState
      "Attestations did not match contract infos")))

end Close

section Counterparty
variable (env : CheckAnswers E.toDescriptors) (contract : SignedContract E.toDescriptors)
  (closingTx : Transaction) (confirmations : ℕ)

/-- Whether an input spends the fund output, which is looked up for each input anew. -/
def spendsFund : List TxIn → Result Bool
  | [] => .ok false
  | input :: inputs => do
      let txs := contract.acceptedContract.dlcTransactions
      let vout ← getFundOutputIndex C txs
      if input.previousOutput = ⟨txs.fund.computeTxid C, vout % 2 ^ 32⟩ then .ok true
      else spendsFund inputs

/-- The state in which the counterparty's transaction leaves the contract. -/
def counterpartyClosed : Result (Contract E.toDescriptors) :=
  let accepted := contract.acceptedContract
  if accepted.dlcTransactions.refund.computeTxid C = closingTx.computeTxid C then
    .ok (.refunded contract)
  else if confirmations < nbConfirmations then
    .ok (.preClosed { signedContract := contract, signedCet := closingTx })
  else do
    let _pnl ← Node.computePnl accepted closingTx
    let contractId ← accepted.getContractId C
    .ok (.closed
      { signedCet := some closingTx
        contractId
        temporaryContractId := accepted.offeredContract.id
        counterPartyId := accepted.offeredContract.counterParty })

def onCounterpartyClose : DeskHandler E.toDescriptors (Contract E.toDescriptors) := do
  let spends ← Handler.lift (spendsFund C contract closingTx.input)
  Handler.lift (ensure (spends = true)
    (.err (.invalidParameters "Closing tx does not spend the funding tx")))
  let closed ← Handler.lift (counterpartyClosed C contract closingTx confirmations)
  updateContract C env closed
  pure closed

end Counterparty

end Desk

/-! Settled contracts. -/

section Settles
variable {D : Descriptors}

/-- Behind a closed contract is its CET, behind a refunded one its refund. -/
def SettledBy (C : Crypto) (final : Bytes32 → Prop) : Contract D → Prop
  | .closed c => ∃ cet, c.signedCet = some cet ∧ final (cet.computeTxid C)
  | .refunded c => final (c.acceptedContract.dlcTransactions.refund.computeTxid C)
  | _ => True

/-- What may become of what is stored for a contract: closed and refunded are final, and come
with a transaction that is. -/
structure Settles (C : Crypto) (final : Bytes32 → Prop) (before after : Option (Contract D)) :
    Prop where
  closed : ∀ c, before = some (.closed c) → ∃ c', after = some (.closed c')
  refunded : ∀ c, before = some (.refunded c) → ∃ c', after = some (.refunded c')
  settled : after = before ∨ ∀ c, after = some c → SettledBy C final c

variable {C : Crypto} {final final' : Bytes32 → Prop}

theorem SettledBy.mono {c : Contract D} (more : ∀ txid, final txid → final' txid)
    (settled : SettledBy C final c) : SettledBy C final' c := by
  cases c with
  | closed c =>
      obtain ⟨cet, signed, deep⟩ := settled
      exact ⟨cet, signed, more _ deep⟩
  | refunded c => exact more _ settled
  | _ => trivial

namespace Settles
variable {before between after : Option (Contract D)}

theorem same {stored : Option (Contract D)} : Settles C final stored stored :=
  ⟨fun c is => ⟨c, is⟩, fun c is => ⟨c, is⟩, .inl rfl⟩

theorem trans (first : Settles C final before between) (next : Settles C final between after) :
    Settles C final before after where
  closed c is := by
    obtain ⟨c', is'⟩ := first.closed c is
    exact next.closed c' is'
  refunded c is := by
    obtain ⟨c', is'⟩ := first.refunded c is
    exact next.refunded c' is'
  settled := by
    obtain unmoved | settled := next.settled
    · rw [unmoved]
      exact first.settled
    · exact .inr settled

theorem mono (more : ∀ txid, final txid → final' txid) (settles : Settles C final before after) :
    Settles C final' before after :=
  ⟨settles.closed, settles.refunded, settles.settled.imp_right fun settled c is =>
    (settled c is).mono more⟩

/-- A contract that is neither closed nor refunded may become one that is settled. -/
theorem of_open {c : Contract D} (notClosed : ∀ c, before ≠ some (.closed c))
    (notRefunded : ∀ c, before ≠ some (.refunded c)) (settled : SettledBy C final c) :
    Settles C final before (some c) where
  closed c is := absurd is (notClosed c)
  refunded c is := absurd is (notRefunded c)
  settled := by
    right
    rintro _ ⟨⟩
    exact settled

theorem of_signed {s : SignedContract D} {c : Contract D} (settled : SettledBy C final c) :
    Settles C final (some (.signed s)) (some c) := by
  apply of_open _ _ settled
  · rintro _ ⟨⟩
  · rintro _ ⟨⟩

theorem of_confirmed {s : SignedContract D} {c : Contract D} (settled : SettledBy C final c) :
    Settles C final (some (.confirmed s)) (some c) := by
  apply of_open _ _ settled
  · rintro _ ⟨⟩
  · rintro _ ⟨⟩

theorem of_preClosed {s : PreClosedContract D} {c : Contract D} (settled : SettledBy C final c) :
    Settles C final (some (.preClosed s)) (some c) := by
  apply of_open _ _ settled
  · rintro _ ⟨⟩
  · rintro _ ⟨⟩

end Settles

/-- Every contract of a store that is kept under their ids may become what is stored after. -/
def SettlesAll (C : Crypto) (final : Bytes32 → Prop) (store store' : Store D) : Prop :=
  Keyed C store → Keyed C store' ∧ ∀ id, Settles C final (store id) (store' id)

theorem SettlesAll.trans {store₀ store₁ store₂ : Store D} (first : SettlesAll C final store₀ store₁)
    (next : SettlesAll C final store₁ store₂) : SettlesAll C final store₀ store₂ := by
  intro keyed
  obtain ⟨keyed, former⟩ := first keyed
  obtain ⟨keyed, later⟩ := next keyed
  exact ⟨keyed, fun id => (former id).trans (later id)⟩

theorem SettlesAll.same {store : Store D} : SettlesAll C final store store :=
  fun keyed => ⟨keyed, fun _ => .same⟩

instance : Std.Refl (SettlesAll (D := D) C final) := ⟨fun _ => .same⟩

instance : IsTrans (Store D) (SettlesAll C final) := ⟨fun _ _ _ => SettlesAll.trans⟩

/-- A write of a contract that may stand under its id. -/
theorem settlesAll_update {store store' : Store D} {c : Contract D} {id : ContractId}
    (own : c.getId C = .ok id) (final_ : (∀ a, c ≠ .accepted a) ∧ ∀ s, c ≠ .signed s)
    (settles : Settles C final (store id) (some c))
    (updated : store.updateContract C c = .ok store') : SettlesAll C final store store' := by
  intro keyed
  have inserted : store.updateContract C c = .ok (store.insert id c) := by
    rw [Store.updateContract, own, ok_bind]
    obtain ⟨accepted, signed⟩ := final_
    cases c with
    | accepted a => exact absurd rfl (accepted a)
    | signed s => exact absurd rfl (signed s)
    | offered _ | offeredLoan _ | offeredLoanEscrowConfirmed _ | confirmed _ | preClosed _
    | closed _ | refunded _ | failedAccept _ | failedSign _ | rejected _ => rfl
  obtain rfl := Except.ok.inj (inserted.symm.trans updated)
  refine ⟨keyed.insert own, fun k => ?_⟩
  by_cases mine : k = id
  · rw [mine, Store.insert, Function.update_self]
    exact settles
  · rw [Store.insert, Function.update_of_ne mine]
    exact .same

end Settles

/-! One contract at a time. -/

/-- The transactions that a check counts as final. -/
def Counted {D : Descriptors} (env : Environment D) (txid : Bytes32) : Prop :=
  ∃ n, env.getTransactionConfirmations txid = .ok n ∧ nbConfirmations ≤ n

section Desks
variable (C : Crypto) (signer : Signer) {E : SigningDescriptors} (env : CheckAnswers E.toDescriptors)

/-- The own refund is built and taken by the network. -/
def RefundSent (c : SignedContract E.toDescriptors) : Prop :=
  ∃ contractSigner refund,
    signer.deriveContractSigner c.acceptedContract.offeredContract.keysId = .ok contractSigner ∧
    getSignedRefund C c contractSigner = .ok refund ∧ env.sendTransaction refund = .ok ()

/-- A refund that is due, where no oracle attests, and is recorded before it is final. -/
structure RefundsEarly (c : SignedContract E.toDescriptors) : Prop where
  silent : env.getClosableContractInfo c = none
  due : c.acceptedContract.dlcTransactions.refund.lockTime ≤ env.unixTimeNow
  early : ∃ n, env.getTransactionConfirmations
      (c.acceptedContract.dlcTransactions.refund.computeTxid C) = .ok n ∧ n < nbConfirmations ∧
    (n = 0 → RefundSent C signer env c)
  named : ∃ id, c.acceptedContract.getContractId C = .ok id
  written : env.writeStore (.refunded c) = .ok ()

variable {C signer env} {d : Desk E.toDescriptors} {id : ContractId} {final : Bytes32 → Prop}

theorem updateContract_settles {c : Contract E.toDescriptors} (written : WrittenAt C id c)
    (settles : Settles C final (d.contracts id) (some c)) :
    SettlesAll C final d.contracts (Desk.updateContract C env c d).2.contracts := by
  obtain unmoved | updated := updateContract_contracts C env c d
  · rw [unmoved]
    exact .same
  · obtain ⟨id', own, _⟩ := bind_eq_ok.mp updated
    obtain rfl := written.own id' own
    exact settlesAll_update own written.final settles updated

/-- A write that is refused, or of a contract without an id, changes nothing. -/
theorem updateContract_refused {c : Contract E.toDescriptors}
    (refused : ¬ ((∃ id, c.getId C = .ok id) ∧ env.writeStore c = .ok ())) :
    (Desk.updateContract C env c d).2.contracts = d.contracts := by
  rw [Desk.updateContract, Handler.read_bind]
  split
  · next updated =>
    obtain ⟨id, own, _⟩ := bind_eq_ok.mp updated
    rw [Handler.lift_bind]
    split
    · next wrote => exact absurd ⟨⟨id, own⟩, answered_eq_ok.mp wrote⟩ refused
    · rfl
  · rfl

/-- What a close makes of a contract is settled. -/
theorem closeContract_settled {c : SignedContract E.toDescriptors} {cet : Transaction}
    {closed : Contract E.toDescriptors} {d' : Desk E.toDescriptors}
    (closes : Desk.closeContract C env c cet d = (.ok closed, d')) :
    d'.contracts = d.contracts ∧ SettledBy C (Counted env.toEnvironment) closed := by
  have kept := closeContract_contracts C env c cet d
  rw [closes] at kept
  refine ⟨kept, ?_⟩
  obtain ⟨n, _, lifted, closes⟩ := Handler.bind_ok.mp closes
  obtain ⟨answered, -⟩ := Handler.lift_ok.mp lifted
  split at closes
  · obtain ⟨_, _, _, closes⟩ := Handler.bind_ok.mp closes
    obtain ⟨rfl, -⟩ := Handler.pure_ok.mp closes
    trivial
  · split at closes
    · obtain ⟨rfl, -⟩ := Handler.pure_ok.mp closes
      trivial
    · next many =>
      obtain ⟨finished, -⟩ := Handler.lift_ok.mp closes
      obtain ⟨record, rfl, signed⟩ := closedContract_ok finished
      exact ⟨cet, signed, n, answered, Nat.not_lt.mp many⟩

theorem writtenAt_confirmed {c : SignedContract E.toDescriptors}
    (own : ∀ id', (Contract.confirmed c).getId C = .ok id' → id' = id) :
    WrittenAt C id (.confirmed c) := by
  refine ⟨own, ?_, ?_⟩
  · rintro _ ⟨⟩
  · rintro _ ⟨⟩

theorem closeAndStore_settles {c : SignedContract E.toDescriptors} (cet : Transaction)
    (stored : d.contracts id = some (.confirmed c)) :
    SettlesAll C (Counted env.toEnvironment) d.contracts
      (closeAndStore C env c cet d).2.contracts := by
  intro keyed
  have own := keyed id (.confirmed c) stored
  rw [closeAndStore, Handler.bind_apply]
  cases closes : Desk.closeContract C env c cet d with
  | mk answer d' =>
      cases answer with
      | error e =>
          have kept := closeContract_contracts C env c cet d
          rw [closes] at kept
          dsimp only at kept ⊢
          rw [kept]
          exact SettlesAll.same keyed
      | ok closed =>
          obtain ⟨kept, settled⟩ := closeContract_settled closes
          have written := closeContract_writtenAt own closes
          dsimp only
          rw [← kept] at stored keyed ⊢
          refine updateContract_settles written ?_ keyed
          rw [stored]
          exact .of_confirmed settled

theorem checkSignedContract_settles {c : SignedContract E.toDescriptors}
    (stored : d.contracts id = some (.signed c)) :
    SettlesAll C (Counted env.toEnvironment) d.contracts
      (Desk.checkSignedContract C env c d).2.contracts := by
  intro keyed
  have own := keyed id (.signed c) stored
  rw [Desk.checkSignedContract, Handler.lift_bind]
  split
  · split
    · refine updateContract_settles (writtenAt_confirmed own) ?_ keyed
      rw [stored]
      exact .of_signed trivial
    · exact SettlesAll.same keyed
  · exact SettlesAll.same keyed

variable (C) in
/-- The contract is confirmed when the check comes to the confirmed ones. -/
def ComesConfirmed (env : CheckAnswers E.toDescriptors) (stored : Option (Contract E.toDescriptors))
    (c : SignedContract E.toDescriptors) : Prop :=
  stored = some (.confirmed c) ∨ stored = some (.signed c) ∧
    Counted env.toEnvironment
      (c.acceptedContract.dlcTransactions.fund.computeTxid C) ∧
    env.writeStore (.confirmed c) = .ok ()

theorem checkSignedContract_confirms {c c' : SignedContract E.toDescriptors}
    (keyed : Keyed C d.contracts) (stored : d.contracts id = some (.signed c))
    (confirmed : (Desk.checkSignedContract C env c d).2.contracts id = some (.confirmed c')) :
    ComesConfirmed C env (d.contracts id) c' := by
  have own := keyed id (.signed c) stored
  have written : WrittenAt C id (.confirmed c) := writtenAt_confirmed own
  have unmoved : d.contracts id ≠ some (.confirmed c') := by
    rw [stored]
    exact nofun
  rw [Desk.checkSignedContract, Handler.lift_bind] at confirmed
  split at confirmed
  next n answered =>
    split at confirmed
    next many =>
      rw [Desk.updateContract, Handler.read_bind, written.update] at confirmed
      cases named : (Contract.confirmed c).getId C with
      | error =>
          rw [named] at confirmed
          exact absurd confirmed unmoved
      | ok id' =>
          rw [named] at confirmed
          cases wrote : env.writeStore (.confirmed c) with
          | error =>
              simp only [Except.map, Handler.lift_bind, wrote, Manager.answered] at confirmed
              exact absurd confirmed unmoved
          | ok =>
              simp only [Except.map, Handler.lift_bind, wrote, Manager.answered] at confirmed
              have kept : d.contracts.insert id (.confirmed c) id = some (.confirmed c') := confirmed
              rw [Store.insert, Function.update_self] at kept
              cases kept
              exact .inr ⟨stored, ⟨n, answered, many⟩, wrote⟩
    next => exact absurd confirmed unmoved
  next => exact absurd confirmed unmoved

theorem checkPreclosedContract_settles {c : PreClosedContract E.toDescriptors}
    (stored : d.contracts id = some (.preClosed c)) :
    SettlesAll C (Counted env.toEnvironment) d.contracts
      (Desk.checkPreclosedContract C env c d).2.contracts := by
  intro keyed
  have own := keyed id (.preClosed c) stored
  rw [Desk.checkPreclosedContract, Handler.lift_bind]
  split
  · next n answered =>
    split
    · next many =>
      rw [Handler.lift_bind]
      split
      · next closed closes =>
        obtain ⟨record, rfl, signed⟩ := closedContract_ok closes
        refine updateContract_settles (writtenAt_closed own closes) ?_ keyed
        rw [stored]
        exact .of_preClosed ⟨c.signedCet, signed, n, answered, many⟩
      · exact SettlesAll.same keyed
    · exact SettlesAll.same keyed
  · exact SettlesAll.same keyed

variable (C signer env) in
theorem sendRefund_contracts (c : SignedContract E.toDescriptors) (d : Desk E.toDescriptors) :
    (Desk.sendRefund C signer env c d).2.contracts = d.contracts := by
  rw [Desk.sendRefund, Handler.lift_bind]
  split
  · rw [Handler.lift_bind]
    split
    · rfl
    · rfl
  · rfl

theorem sendRefund_ok {c : SignedContract E.toDescriptors} {d d' : Desk E.toDescriptors}
    (sends : Desk.sendRefund C signer env c d = (.ok (), d')) : RefundSent C signer env c := by
  obtain ⟨contractSigner, _, derived, sends⟩ := Handler.bind_ok.mp sends
  obtain ⟨refund, _, built, sends⟩ := Handler.bind_ok.mp sends
  obtain ⟨_, _, _, taken⟩ := Handler.bind_ok.mp sends
  exact ⟨contractSigner, refund, (Handler.lift_ok.mp derived).1, (Handler.lift_ok.mp built).1,
    (Handler.lift_ok.mp taken).1⟩

/-- A refund that is not recorded early is recorded when it is final. -/
theorem checkRefund_settles {c : SignedContract E.toDescriptors}
    (stored : d.contracts id = some (.confirmed c)) (silent : env.getClosableContractInfo c = none)
    (prompt : ¬ RefundsEarly C signer env c) :
    SettlesAll C (Counted env.toEnvironment) d.contracts
      (Desk.checkRefund C signer env c d).2.contracts := by
  intro keyed
  have own := keyed id (.confirmed c) stored
  unfold Desk.checkRefund
  dsimp only
  split
  next due =>
    rw [Handler.lift_bind]
    split
    next n answered =>
      -- the record, once the refund needs not be sent or has been sent
      have records : ∀ d' : Desk E.toDescriptors, d'.contracts = d.contracts →
          (n = 0 → RefundSent C signer env c) →
          SettlesAll C (Counted env.toEnvironment) d.contracts
            (Desk.updateContract C env (.refunded c) d').2.contracts := by
        intro d' same sent
        rw [← same] at stored ⊢
        by_cases many : nbConfirmations ≤ n
        · have written : WrittenAt C id (.refunded c) := ⟨own, fun _ => nofun, fun _ => nofun⟩
          refine updateContract_settles written ?_
          rw [stored]
          exact .of_confirmed ⟨n, answered, many⟩
        · rw [updateContract_refused fun ⟨named, written⟩ => prompt ⟨silent, due,
            ⟨n, answered, Nat.lt_of_not_le many, sent⟩, named, written⟩]
          exact .same
      split
      next none =>
        have kept := sendRefund_contracts C signer env c d
        rw [Handler.bind_apply]
        match sends : Desk.sendRefund C signer env c d with
        | (.ok _, d') =>
            rw [sends] at kept
            exact records d' kept (fun _ => sendRefund_ok sends) keyed
        | (.error e, d') =>
            rw [sends] at kept
            dsimp only at kept ⊢
            rw [kept]
            exact SettlesAll.same keyed
      next some => exact records d rfl (fun zero => absurd zero some) keyed
    next => exact SettlesAll.same keyed
  next => exact SettlesAll.same keyed

theorem checkConfirmed_settles {c : SignedContract E.toDescriptors}
    (stored : d.contracts id = some (.confirmed c))
    (prompt : c.channelId = none → ¬ RefundsEarly C signer env c) :
    SettlesAll C (Counted env.toEnvironment) d.contracts
      (Desk.checkConfirmed C signer env c d).2.contracts := by
  unfold Desk.checkConfirmed
  split
  next => exact .same
  next outside =>
    rw [Desk.logErrors_state]
    unfold Desk.checkConfirmedContract
    match attested : env.getClosableContractInfo c with
    | some (contractInfo, adaptorInfo, attestations) =>
        dsimp only
        rw [Handler.lift_bind]
        split
        · rw [Handler.lift_bind]
          split
          · exact closeAndStore_settles _ stored
          · exact .same
        · exact .same
    | none => exact checkRefund_settles stored attested (prompt (by simpa using outside))

end Desks

/-! The calls on one contract. -/

section Calls
variable {C : Crypto} {signer : Signer} {E : SigningDescriptors} {d : Desk E.toDescriptors}

theorem closeConfirmedContract_settles (A : AnnouncedNonces E.toDescriptors)
    (env : CloseAnswers E.toDescriptors) (contractId : ContractId)
    (attestations : List (ℕ × E.OracleAttestation)) :
    SettlesAll C (Counted env.toEnvironment) d.contracts
      (Desk.closeConfirmedContract C signer A env contractId attestations d).2.contracts := by
  rw [Desk.closeConfirmedContract, Handler.read_bind]
  cases found : d.contracts.getConfirmed contractId none with
  | error e => exact .same
  | ok contract =>
      have stored : d.contracts contractId = some (.confirmed contract) :=
        Node.getConfirmed_ok found
      dsimp only
      rw [Handler.lift_bind]
      split
      next matching _ =>
        cases matching with
        | none => exact .same
        | some info =>
            obtain ⟨contractInfo, adaptorInfo⟩ := info
            dsimp only
            simp only [Handler.lift_bind]
            split
            next =>
              split
              next cet _ =>
                split
                next =>
                  split
                  next =>
                    have closes : SettlesAll C (Counted env.toEnvironment) d.contracts
                        (closeAndStore C env.toCheckAnswers contract cet d).2.contracts :=
                      closeAndStore_settles cet stored
                    have same : ((do
                        let closed ← Desk.closeContract C env.toCheckAnswers contract cet
                        Desk.updateContract C env.toCheckAnswers closed
                        pure closed) d).2 =
                        (closeAndStore C env.toCheckAnswers contract cet d).2 := by
                      rw [closeAndStore, Handler.bind_apply, Handler.bind_apply]
                      rcases Desk.closeContract C env.toCheckAnswers contract cet d with
                        ⟨_ | closed, d'⟩
                      · rfl
                      · dsimp only
                        rw [Handler.bind_apply]
                        rcases Desk.updateContract C env.toCheckAnswers closed d' with ⟨_ | _, _⟩
                        · rfl
                        · rfl
                    rw [same]
                    exact closes
                  next => exact .same
                next => exact .same
              next => exact .same
            next => exact .same
      next => exact .same

variable (C) in
/-- What is stored lets a counterparty's close be recorded: nothing that is settled otherwise,
and the refund only once it is final. -/
structure CloseRecordable (contract : SignedContract E.toDescriptors) (closingTx : Transaction)
    (confirmations : ℕ) (stored : Option (Contract E.toDescriptors)) : Prop where
  refund : contract.acceptedContract.dlcTransactions.refund.computeTxid C =
    closingTx.computeTxid C → nbConfirmations ≤ confirmations ∧ ∀ c, stored ≠ some (.closed c)
  other : contract.acceptedContract.dlcTransactions.refund.computeTxid C ≠
    closingTx.computeTxid C → (∀ c, stored ≠ some (.refunded c)) ∧
      (confirmations < nbConfirmations → ∀ c, stored ≠ some (.closed c))

theorem CloseRecordable.settles {contract : SignedContract E.toDescriptors}
    {closingTx : Transaction} {confirmations : ℕ} {stored : Option (Contract E.toDescriptors)}
    {closed : Contract E.toDescriptors} {id : ContractId}
    (recordable : CloseRecordable C contract closingTx confirmations stored)
    (named : contract.acceptedContract.getContractId C = .ok id)
    (closes : Desk.counterpartyClosed C contract closingTx confirmations = .ok closed) :
    WrittenAt C id closed ∧ Settles C
      (fun txid => txid = closingTx.computeTxid C ∧ nbConfirmations ≤ confirmations)
      stored (some closed) := by
  have own : ∀ id', contract.acceptedContract.getContractId C = .ok id' → id' = id :=
    fun id' named' => Except.ok.inj (named'.symm.trans named)
  unfold Desk.counterpartyClosed at closes
  dsimp only at closes
  split at closes
  next isRefund =>
    obtain ⟨many, notClosed⟩ := recordable.refund isRefund
    obtain rfl := Except.ok.inj closes
    refine ⟨⟨own, fun _ => nofun, fun _ => nofun⟩, ?_⟩
    exact
      { closed := fun c is => absurd is (notClosed c)
        refunded := fun c _ => ⟨contract, rfl⟩
        settled := by
          right
          rintro _ ⟨⟩
          exact ⟨isRefund, many⟩ }
  next isOther =>
    obtain ⟨notRefunded, early⟩ := recordable.other isOther
    split at closes
    next few =>
      obtain rfl := Except.ok.inj closes
      exact ⟨⟨own, fun _ => nofun, fun _ => nofun⟩, .of_open (early few) notRefunded trivial⟩
    next many =>
      simp only [bind_eq_ok, Except.ok.injEq] at closes
      obtain ⟨_, _, id', named', rfl⟩ := closes
      obtain rfl := own id' named'
      refine ⟨⟨?_, fun _ => nofun, fun _ => nofun⟩, ?_⟩
      · rintro _ ⟨⟩
        rfl
      · exact
          { closed := fun c _ => ⟨_, rfl⟩
            refunded := fun c is => absurd is (notRefunded c)
            settled := by
              right
              rintro _ ⟨⟩
              exact ⟨closingTx, rfl, rfl, Nat.not_lt.mp many⟩ }

/-- The call gets to its write, which is taken. -/
def CloseReported (C : Crypto) (env : CheckAnswers E.toDescriptors)
    (contract : SignedContract E.toDescriptors) (closingTx : Transaction) (confirmations : ℕ)
    (id : ContractId) : Prop :=
  Desk.spendsFund C contract closingTx.input = .ok true ∧
    contract.acceptedContract.getContractId C = .ok id ∧
    ∃ closed, Desk.counterpartyClosed C contract closingTx confirmations = .ok closed ∧
      env.writeStore closed = .ok ()

theorem counterpartyClosed_getId {contract : SignedContract E.toDescriptors}
    {closingTx : Transaction} {confirmations : ℕ} {closed : Contract E.toDescriptors}
    {id : ContractId}
    (closes : Desk.counterpartyClosed C contract closingTx confirmations = .ok closed)
    (own : closed.getId C = .ok id) : contract.acceptedContract.getContractId C = .ok id := by
  unfold Desk.counterpartyClosed at closes
  dsimp only at closes
  split at closes
  next =>
    obtain rfl := Except.ok.inj closes
    exact own
  next =>
    split at closes
    next =>
      obtain rfl := Except.ok.inj closes
      exact own
    next =>
      simp only [bind_eq_ok, Except.ok.injEq] at closes
      obtain ⟨_, _, id', named, rfl⟩ := closes
      exact named.trans own

theorem onCounterpartyClose_settles {env : CheckAnswers E.toDescriptors}
    {contract : SignedContract E.toDescriptors} {closingTx : Transaction} {confirmations : ℕ}
    (recordable : ∀ id, CloseReported C env contract closingTx confirmations id →
      CloseRecordable C contract closingTx confirmations (d.contracts id)) :
    SettlesAll C (fun txid => txid = closingTx.computeTxid C ∧ nbConfirmations ≤ confirmations)
      d.contracts
      (Desk.onCounterpartyClose C env contract closingTx confirmations d).2.contracts := by
  have kept : ∀ closed, ((do
      Desk.updateContract C env closed
      pure closed) d).2 = (Desk.updateContract C env closed d).2 := by
    intro closed
    rw [Handler.bind_apply]
    match Desk.updateContract C env closed d with
    | (.error _, _) | (.ok _, _) => rfl
  rw [Desk.onCounterpartyClose]
  simp only [Handler.lift_bind]
  split
  next spends found =>
    split
    next _ holds =>
      split
      next closed closes =>
        obtain rfl := ensure_eq_ok.mp holds
        rw [kept]
        by_cases written : (∃ id, closed.getId C = .ok id) ∧ env.writeStore closed = .ok ()
        · obtain ⟨⟨id, own⟩, wrote⟩ := written
          have named := counterpartyClosed_getId closes own
          have open_ := recordable id ⟨found, named, closed, closes, wrote⟩
          obtain ⟨writtenAt, settles⟩ := open_.settles named closes
          exact updateContract_settles writtenAt settles
        · rw [updateContract_refused written]
          exact .same
      next => exact .same
    next => exact .same
  next => exact .same

end Calls

/-! The loops over the contracts. -/

section Loops
variable {X : ChannelCrypto} {signer : Signer} {E : SigningDescriptors}
  {round : Round E.toDescriptors} {o : Office X E.toDescriptors} {final : Bytes32 → Prop}

/-- Each contract is as it was or as its turn leaves it. -/
theorem Stage.Sound.loop_part {D : Descriptors} {C : Crypto} {S : Stage X D}
    {keys : List ContractId} {o : Office X D} (sound : S.Sound C) (nodup : keys.Nodup)
    (keyed : Keyed C o.contracts) (id : ContractId) :
    (S.loop keys o).2.contracts id = o.contracts id ∨
      id ∈ keys ∧ (S.loop keys o).2.contracts id = (S.turn id o).2.contracts id := by
  have each : ∀ entry ∈ S.listed keys o, AtOffice entry.1 (S.handle entry.1 entry.2) :=
    fun entry listed => sound.handles keyed (Stage.mem_listed.mp listed).2
  have parts := Handler.forEach_part (h := fun entry => S.handle entry.1 entry.2) (s := o)
    view (Stage.listed_nodup nodup) each id
  obtain unmoved | ⟨entry, listed, rfl, turned⟩ := parts
  · exact .inl (contracts_of_view unmoved)
  · obtain ⟨known, picked⟩ := Stage.mem_listed.mp listed
    refine .inr ⟨known, ?_⟩
    rw [Stage.turn_some picked]
    exact contracts_of_view turned

/-- A loop settles contracts when each turn does, from the state in which the loop starts. -/
theorem Stage.Sound.loop_settles {D : Descriptors} {C : Crypto} {S : Stage X D}
    {keys : List ContractId} {o : Office X D} (sound : S.Sound C) (nodup : keys.Nodup)
    (turns : ∀ id ∈ keys, SettlesAll C final o.contracts (S.turn id o).2.contracts) :
    SettlesAll C final o.contracts (S.loop keys o).2.contracts := by
  intro keyed
  refine ⟨sound.loop_keyed keyed, fun id => ?_⟩
  obtain unmoved | ⟨known, turned⟩ := sound.loop_part nodup keyed id
  · rw [unmoved]
    exact .same
  · rw [turned]
    exact (turns id known keyed).2 id

/-- A turn on a stored contract; without one it does nothing. -/
theorem Stage.turn_settles {D : Descriptors} {C : Crypto} {S : Stage X D} {id : ContractId}
    {o : Office X D} (handles : ∀ a c, o.contracts id = some c → S.pick c = some a →
      SettlesAll C final o.contracts (S.handle id a o).2.contracts) :
    SettlesAll C final o.contracts (S.turn id o).2.contracts := by
  cases picked : (o.contracts id).bind S.pick with
  | none =>
      rw [Stage.turn_none picked]
      exact .same
  | some a =>
      obtain ⟨c, stored, kind⟩ := Option.bind_eq_some_iff.mp picked
      rw [Stage.turn_some picked]
      exact handles a c stored kind

/-- The contract of an offer stays, or is confirmed to have its escrow. -/
def OfferKept {D : Descriptors} (c : OfferedLoanContract D) (b b' : Borrower D) : Prop :=
  ∀ id, b'.store.contracts id = b.store.contracts id ∨
    id = c.offeredContract.id ∧ b'.store.contracts id = some (.offeredLoanEscrowConfirmed c)

instance {D : Descriptors} {c : OfferedLoanContract D} : Std.Refl (OfferKept c) :=
  ⟨fun _ _ => .inl rfl⟩

instance {D : Descriptors} {c : OfferedLoanContract D} : IsTrans (Borrower D) (OfferKept c) where
  trans _ _ _ first next id := by
    obtain unmoved | confirmed := next id
    · rw [unmoved]
      exact first id
    · exact .inr confirmed

theorem checkOffer_kept {D : Descriptors} {C : Crypto} {env : CheckEnvironment}
    {c : OfferedLoanContract D} : Handler.Keeps (OfferKept c) (checkOffer env C c) := by
  have confirms : ∀ r, Handler.Keeps (OfferKept c) (confirmEscrow env C c r) := by
    intro r b id
    unfold confirmEscrow
    cases env.writeStore with
    | error => exact .inl rfl
    | ok =>
        by_cases mine : id = c.offeredContract.id
        · subst mine
          exact .inr ⟨rfl, Function.update_self _ _ _⟩
        · exact .inl (Function.update_of_ne mine _ _)
  refine Handler.keeps_bind (Handler.keeps_read _) fun found => ?_
  cases found with
  | none => exact Handler.keeps_pure _
  | some r =>
      have whenFinal : Handler.Keeps (OfferKept c) (confirmWhenFinal env C c r) := by
        refine Handler.keeps_bind (Handler.keeps_lift _) fun _ => ?_
        split
        · exact confirms r
        · exact Handler.keeps_pure _
      have claims : Handler.Keeps (OfferKept c) (claimStable env c r) :=
        Handler.keeps_bind (Handler.keeps_lift _) fun _ =>
          Handler.keeps_bind (Handler.keeps_modify fun _ _ => .inl rfl) fun _ =>
            Handler.keeps_lift _
      dsimp only
      split
      · exact Handler.keeps_bind claims fun _ => whenFinal
      · exact whenFinal

theorem offers_kept (keyed : Keyed X.toCrypto o.contracts) (id k : ContractId) :
    ((offers X round).turn id o).2.contracts k = o.contracts k ∨
      ∃ c, o.contracts k = some (.offeredLoan c) ∧
        ((offers X round).turn id o).2.contracts k = some (.offeredLoanEscrowConfirmed c) := by
  cases picked : (o.contracts id).bind (offers X round).pick with
  | none =>
      rw [Stage.turn_none picked]
      exact .inl rfl
  | some c =>
      rw [Stage.turn_some picked]
      obtain ⟨stored, holds, kind⟩ := Option.bind_eq_some_iff.mp picked
      cases stored with
      | offeredLoan c =>
          cases kind
          obtain rfl := keyed id _ holds _ rfl
          have kept : OfferKept c o.borrower (checkOffer
              (round.poll.answers c.offeredContract.id) X.toCrypto c o.borrower).2 :=
            checkOffer_kept o.borrower
          obtain unmoved | ⟨rfl, confirmed⟩ := kept k
          · exact .inl unmoved
          · exact .inr ⟨c, holds, confirmed⟩
      | _ => cases kind

theorem offers_settle (id : ContractId) :
    SettlesAll X.toCrypto final o.contracts ((offers X round).turn id o).2.contracts := by
  intro keyed
  refine ⟨offers_sound.turn_keyed keyed, fun k => ?_⟩
  have kept : ((offers X round).turn id o).2.contracts k = o.contracts k ∨
      ∃ c, o.contracts k = some (.offeredLoan c) ∧
        ((offers X round).turn id o).2.contracts k = some (.offeredLoanEscrowConfirmed c) :=
    offers_kept keyed id k
  obtain unmoved | ⟨c, before, confirmed⟩ := kept
  · rw [unmoved]
    exact .same
  · rw [before, confirmed]
    exact .of_open nofun nofun trivial

theorem signed_settle (id : ContractId) :
    SettlesAll X.toCrypto (Counted round.toEnvironment) o.contracts
      ((signedContracts X round).turn id o).2.contracts := by
  apply Stage.turn_settles
  intro c stored holds picked
  cases stored with
  | signed c =>
      cases picked
      show SettlesAll X.toCrypto _ o.contracts
        (logErrors (Desk.checkSignedContract X.toCrypto round.toCheckAnswers c)
          ⟨o.contracts, []⟩).2.contracts
      rw [Desk.logErrors_state]
      exact checkSignedContract_settles (d := ⟨o.contracts, []⟩) holds
  | _ => cases picked

theorem confirmed_settle (id : ContractId)
    (prompt : ∀ c, o.contracts id = some (.confirmed c) → c.channelId = none →
      ¬ RefundsEarly X.toCrypto signer round.toCheckAnswers c) :
    SettlesAll X.toCrypto (Counted round.toEnvironment) o.contracts
      ((confirmedContracts X signer round).turn id o).2.contracts := by
  apply Stage.turn_settles
  intro c stored holds picked
  obtain rfl := Contract.confirmed?_eq_some.mp picked
  exact checkConfirmed_settles (d := ⟨o.contracts, []⟩) holds (prompt c holds)

theorem preClosed_settle (id : ContractId) :
    SettlesAll X.toCrypto (Counted round.toEnvironment) o.contracts
      ((preClosedContracts X round).turn id o).2.contracts := by
  apply Stage.turn_settles
  intro c stored holds picked
  cases stored with
  | preClosed c =>
      cases picked
      show SettlesAll X.toCrypto _ o.contracts
        (logErrors (Desk.checkPreclosedContract X.toCrypto round.toCheckAnswers c)
          ⟨o.contracts, []⟩).2.contracts
      rw [Desk.logErrors_state]
      exact checkPreclosedContract_settles (d := ⟨o.contracts, []⟩) holds
  | _ => cases picked

theorem signed_confirms (keyed : Keyed X.toCrypto o.contracts) {id : ContractId}
    {c : SignedContract E.toDescriptors}
    (confirmed : ((signedContracts X round).turn id o).2.contracts id = some (.confirmed c)) :
    ComesConfirmed X.toCrypto round.toCheckAnswers (o.contracts id) c := by
  cases picked : (o.contracts id).bind (signedContracts X round).pick with
  | none =>
      rw [Stage.turn_none picked] at confirmed
      exact .inl confirmed
  | some c' =>
      rw [Stage.turn_some picked] at confirmed
      obtain ⟨stored, holds, kind⟩ := Option.bind_eq_some_iff.mp picked
      cases stored with
      | signed c' =>
          cases kind
          have kept : (logErrors (Desk.checkSignedContract X.toCrypto round.toCheckAnswers c')
              ⟨o.contracts, []⟩).2.contracts id = some (.confirmed c) := confirmed
          rw [Desk.logErrors_state] at kept
          exact checkSignedContract_confirms (d := ⟨o.contracts, []⟩) keyed holds kept
      | _ => cases kind

/-- What the next stage starts from is known. -/
theorem settlesAll_bind {D : Descriptors} {C : Crypto} {o : Office X D}
    {m : OfficeHandler X D Unit} {f : Unit → OfficeHandler X D Unit}
    (first : SettlesAll C final o.contracts (m o).2.contracts)
    (next : ∀ o', m o = (.ok (), o') → SettlesAll C final o'.contracts (f () o').2.contracts) :
    SettlesAll C final o.contracts ((m >>= f) o).2.contracts := by
  rw [Handler.bind_apply]
  match ran : m o with
  | (.ok _, o') =>
      rw [ran] at first
      exact first.trans (next o' ran)
  | (.error _, o') =>
      rw [ran] at first
      exact first

variable (X signer round) in
/-- When the check gets past the offers, no contract that it comes to is refunded early. -/
def RefundsPrompt (evmPk : String) (o : Office X E.toDescriptors) : Prop :=
  (checkLoanOffers X round evmPk o).1 = .ok () → ∀ id ∈ round.keys, ∀ c,
    ComesConfirmed X.toCrypto round.toCheckAnswers (o.contracts id) c → c.channelId = none →
      ¬ RefundsEarly X.toCrypto signer round.toCheckAnswers c

variable {evmPk : String}

theorem checkLoanOffers_stays (refused : ¬ round.poll.parsesEvmKey evmPk = true) :
    (checkLoanOffers X round evmPk o).2 = o := by
  have stopped : ∀ poll : Poll E.toDescriptors, ¬ poll.parsesEvmKey evmPk = true →
      ∀ b, (checkOfferedLoanContractsForEscrow X.toCrypto poll evmPk b).2 = b := by
    intro poll refused b
    rw [checkOfferedLoanContractsForEscrow, Handler.lift_bind, ensure, if_neg refused]
  have same := stopped
    { round.poll with
      loanContractOffers := .ok (((offers X round).listed round.keys o).map Prod.snd) }
    refused o.borrower
  rw [checkLoanOffers, Office.onBorrower, same]

theorem checkLoanOffers_settles (nodup : round.keys.Nodup) :
    SettlesAll X.toCrypto final o.contracts (checkLoanOffers X round evmPk o).2.contracts := by
  by_cases parses : round.poll.parsesEvmKey evmPk = true
  · rw [checkLoanOffers_eq parses]
    exact offers_sound.loop_settles nodup fun id _ => offers_settle id
  · rw [checkLoanOffers_stays parses]
    exact .same

theorem checkLoanOffers_kept (nodup : round.keys.Nodup) (keyed : Keyed X.toCrypto o.contracts)
    (id : ContractId) :
    (checkLoanOffers X round evmPk o).2.contracts id = o.contracts id ∨
      ∃ c, (checkLoanOffers X round evmPk o).2.contracts id =
        some (.offeredLoanEscrowConfirmed c) := by
  by_cases parses : round.poll.parsesEvmKey evmPk = true
  · rw [checkLoanOffers_eq parses]
    have sound : (offers X round).Sound X.toCrypto := offers_sound
    obtain unmoved | ⟨known, turned⟩ := sound.loop_part nodup keyed id
    · exact .inl unmoved
    · have kept : ((offers X round).turn id o).2.contracts id = o.contracts id ∨
          ∃ c, o.contracts id = some (.offeredLoan c) ∧
            ((offers X round).turn id o).2.contracts id =
              some (.offeredLoanEscrowConfirmed c) := offers_kept keyed id id
      rw [turned]
      obtain same | ⟨c, -, confirmed⟩ := kept
      · exact .inl same
      · exact .inr ⟨c, confirmed⟩
  · rw [checkLoanOffers_stays parses]
    exact .inl rfl

theorem ComesConfirmed.of_offers {env : CheckAnswers E.toDescriptors}
    (nodup : round.keys.Nodup) (keyed : Keyed X.toCrypto o.contracts) {id : ContractId}
    {c : SignedContract E.toDescriptors}
    (comes : ComesConfirmed X.toCrypto env ((checkLoanOffers X round evmPk o).2.contracts id) c) :
    ComesConfirmed X.toCrypto env (o.contracts id) c := by
  have kept : (checkLoanOffers X round evmPk o).2.contracts id = o.contracts id ∨
      ∃ c, (checkLoanOffers X round evmPk o).2.contracts id =
        some (.offeredLoanEscrowConfirmed c) := checkLoanOffers_kept nodup keyed id
  obtain same | ⟨offered, confirmed⟩ := kept
  · rw [same] at comes
    exact comes
  · rw [confirmed] at comes
    obtain is | ⟨is, -⟩ := comes
    · cases is
    · cases is

theorem checkContracts_settles (nodup : round.keys.Nodup)
    (prompt : RefundsPrompt X signer round evmPk o) :
    SettlesAll X.toCrypto (Counted round.toEnvironment) o.contracts
      (checkContracts X signer round evmPk o).2.contracts := by
  intro keyed
  have sound : ∀ S ∈ stages X signer round, S.Sound X.toCrypto := stages_sound
  have signedSound : (signedContracts X round).Sound X.toCrypto := sound _ (by simp [stages])
  have confirmedSound : (confirmedContracts X signer round).Sound X.toCrypto :=
    sound _ (by simp [stages])
  have preClosedSound : (preClosedContracts X round).Sound X.toCrypto := sound _ (by simp [stages])
  apply settlesAll_bind (checkLoanOffers_settles nodup) _ keyed
  intro o₁ offered keyed₁
  apply settlesAll_bind (signedSound.loop_settles nodup fun id _ => signed_settle id) _ keyed₁
  intro o₂ signed
  apply settlesAll_bind _ fun o₃ _ => preClosedSound.loop_settles nodup fun id _ =>
    preClosed_settle id
  apply confirmedSound.loop_settles nodup
  intro id known
  apply confirmed_settle id
  intro c stored outside
  -- the contract is traced back to what is stored before the check
  have reached : (checkLoanOffers X round evmPk o).2 = o₁ := by rw [offered]
  have comes : ComesConfirmed X.toCrypto round.toCheckAnswers (o₁.contracts id) c := by
    obtain unmoved | ⟨-, turned⟩ := signedSound.loop_part nodup keyed₁ id
    · rw [signed] at unmoved
      exact .inl (unmoved.symm.trans stored)
    · rw [signed] at turned
      exact signed_confirms keyed₁ (turned.symm.trans stored)
  rw [← reached] at comes
  exact prompt (by rw [offered]) id known c (comes.of_offers nodup keyed) outside

end Loops

end P2PLending.Manager.Channels
