import P2PLending.Channels.ChannelChecks

/-! The events of a node and what a message or a call of the local user does to it when
it succeeds: one of the moves, with the message that answers. -/

namespace P2PLending.Manager.Channels
open Dlc Checked

/-- The calls of the local user. -/
inductive Call (D : Descriptors) (A : Type)
  | settleOffer (counterPayout : ℕ)
  | acceptSettleOffer
  | renewOffer (counterPayout : ℕ) (contractInput : ContractInput D A)
      (oracleAnnouncements : Result (List (List (OracleAnnouncement A))))
  | acceptRenewOffer
  | rejectRenewOffer
  | rejectSettleOffer
  | offerCollaborativeClose (counterPayout : ℕ)
  | acceptCollaborativeClose
  | forceCloseChannel

inductive Event (D : Descriptors) (A M : Type)
  | message (peer : PublicKey) (msg : DlcMessage M)
  | call (channelId : ChannelId) (call : Call D A)
  | channelChecks
  | periodicChainMonitor (blocks : List (List Transaction))
  | restart

namespace Node

section Dispatch
variable (X : ChannelCrypto) (signer : Signer) {E : SigningDescriptors} (W : Wire E.toDescriptors)
  {A : Type} (env : Environment E.toDescriptors)

def onDlcMessage (peer : PublicKey) :
    DlcMessage W.ContractInfo → NodeHandler X E.toDescriptors (Option (DlcMessage W.ContractInfo))
  | .settleOffer m => do
      let reject ← onSettleOffer X m peer
      pure (reject.map .reject)
  | .settleAccept m => do
      let msg ← onSettleAccept X signer env m peer
      pure (some (.settleConfirm msg))
  | .settleConfirm m => do
      let msg ← onSettleConfirm X signer m peer
      pure (some (.settleFinalize msg))
  | .settleFinalize m => do
      onSettleFinalize X m peer
      pure none
  | .renewOffer m => do
      let reject ← onRenewOffer X env W m peer
      pure (reject.map .reject)
  | .renewAccept m => do
      let msg ← onRenewAccept X signer env m peer
      pure (some (.renewConfirm msg))
  | .renewConfirm m => do
      let msg ← onRenewConfirm X signer env m peer
      pure (some (.renewFinalize msg))
  | .renewFinalize m => do
      let msg ← onRenewFinalize X signer m peer
      pure (some (.renewRevoke msg))
  | .renewRevoke m => do
      onRenewRevoke X m peer
      pure none
  | .collaborativeCloseOffer m => do
      onCollaborativeCloseOffer X env m peer
      pure none
  | .reject m => do
      onReject X m peer
      pure none

def onCall (channelId : ChannelId) :
    Call E.toDescriptors A →
      NodeHandler X E.toDescriptors (Option (DlcMessage W.ContractInfo))
  | .settleOffer counterPayout => do
      let msg ← settleOffer X signer env channelId counterPayout
      pure (some (.settleOffer msg))
  | .acceptSettleOffer => do
      let msg ← acceptSettleOffer X signer env channelId
      pure (some (.settleAccept msg))
  | .renewOffer counterPayout contractInput oracleAnnouncements => do
      let msg ← renewOffer X signer env W channelId counterPayout contractInput oracleAnnouncements
      pure (some (.renewOffer msg))
  | .acceptRenewOffer => do
      let msg ← acceptRenewOffer X signer env channelId
      pure (some (.renewAccept msg))
  | .rejectRenewOffer => do
      let msg ← rejectRenewOffer X channelId
      pure (some (.reject msg))
  | .rejectSettleOffer => do
      let msg ← rejectSettleOffer X channelId
      pure (some (.reject msg))
  | .offerCollaborativeClose counterPayout => do
      let msg ← offerCollaborativeClose X signer env channelId counterPayout
      pure (some (.collaborativeCloseOffer msg))
  | .acceptCollaborativeClose => do
      acceptCollaborativeClose X signer env channelId
      pure none
  | .forceCloseChannel => do
      forceCloseChannel X signer env channelId
      pure none

def onEvent :
    Event E.toDescriptors A W.ContractInfo →
      NodeHandler X E.toDescriptors (Option (DlcMessage W.ContractInfo))
  | .message peer msg => onDlcMessage X signer W env peer msg
  | .call channelId call => onCall X signer W env channelId call
  | .channelChecks => do
      channelChecks X signer env
      pure none
  | .periodicChainMonitor blocks => do
      periodicChainMonitor X blocks
      pure none
  | .restart => do
      restart X
      pure none

end Dispatch

section Moves
variable (X : ChannelCrypto) (signer : Signer) {E : SigningDescriptors} (W : Wire E.toDescriptors)

/-- What a renewal revokes: the transaction of the state before, marked as not offering. -/
inductive Renews (ch : SignedChannel X) : TxType → Transaction → Prop
  | established {b : SignedChannelState.Established}
      (before : ch.rollBackState = some (.established b)) :
      Renews ch (.revoked ch.updateIdx b.ownBufferAdaptorSignature false .buffer)
        b.bufferTransaction
  | settled {b : SignedChannelState.Settled} (before : ch.rollBackState = some (.settled b)) :
      Renews ch (.revoked ch.updateIdx b.ownSettleAdaptorSignature false .settle) b.settleTx

/-- Contracts that are as before but for the closed contract of the state before. -/
def ClosesBefore (ch : SignedChannel X) (contracts contracts' : Store E.toDescriptors) : Prop :=
  (contracts' = contracts ∧ ∃ b, ch.rollBackState = some (.settled b)) ∨
    ∃ b c, ch.rollBackState = some (.established b) ∧
      contracts' = contracts.insert b.signedContractId (.closed c)

/-- The moves of a signed channel. -/
inductive Moves (n : Node X E.toDescriptors) :
    Option (DlcMessage W.ContractInfo) → Node X E.toDescriptors → Prop
  | rests : Moves n none n
  | refuses (channelId : ChannelId) : Moves n (some (.reject ⟨channelId⟩)) n
  | settleOffered {ch s point payout timeout}
      (signed : n.channel = .signed ch) (state : ch.state = .established s)
      (next : nextPerUpdatePoint X signer validSecret ch = .ok point) :
      Moves n (some (.settleOffer ⟨ch.channelId, payout, point⟩))
        { n with
          channel := .signed (ch.enter (.settledOffered ⟨payout, point, timeout, s.keysId⟩)) }
  | settleReceived {ch s payout counterPayout point}
      (signed : n.channel = .signed ch) (state : ch.state = .established s) :
      Moves n none
        { n with channel := .signed (ch.enter
            (.settledReceived ⟨payout, counterPayout, point, s.keysId⟩)) }
  | settleAccepted {ch s point settleTx sig timeout}
      (signed : n.channel = .signed ch) (state : ch.state = .settledReceived s)
      (next : nextPerUpdatePoint X signer validSecret ch = .ok point) :
      Moves n (some (.settleAccept ⟨ch.channelId, point, sig⟩))
        { n with
          channel := .signed { ch with state := .settledAccepted ⟨s.counterNextPerUpdatePoint,
            point, sig, settleTx, timeout, s.ownPayout, s.counterPayout, s.keysId⟩ }
          chainMonitor :=
            n.chainMonitor.addTx (settleTx.computeTxid X.toCrypto) ⟨ch.channelId, .settleTx⟩ }
  | settleConfirmed {ch s ownPayout settleTx sig secret counterSig counterPoint timeout}
      (signed : n.channel = .signed ch) (state : ch.state = .settledOffered s)
      (revealed : prevPerUpdateSecret X signer ch = .ok secret) :
      Moves n (some (.settleConfirm ⟨ch.channelId, secret, sig⟩))
        { n with
          channel := .signed { ch with state := .settledConfirmed ⟨settleTx, counterSig,
            counterPoint, s.nextPerUpdatePoint, sig, timeout, ownPayout, s.counterPayout,
            s.keysId⟩ }
          chainMonitor :=
            n.chainMonitor.addTx (settleTx.computeTxid X.toCrypto) ⟨ch.channelId, .settleTx⟩ }
  | settleFinalized {ch s b c secret counterSecret secrets counterSig m}
      (signed : n.channel = .signed ch) (state : ch.state = .settledAccepted s)
      (before : ch.rollBackState = some (.established b))
      (revealed : prevPerUpdateSecret X signer ch = .ok secret)
      (counterPoint : X.publicKey counterSecret = ch.counterPerUpdatePoint)
      (provided : X.provideSecret ch.counterPartyCommitmentSecrets ch.updateIdx counterSecret =
        some secrets) (positive : 1 ≤ ch.updateIdx)
      (watched : m = n.chainMonitor.addTx (b.bufferTransaction.computeTxid X.toCrypto)
          ⟨ch.channelId, .revoked ch.updateIdx b.ownBufferAdaptorSignature b.isOffer .buffer⟩) :
      Moves n (some (.settleFinalize ⟨ch.channelId, secret⟩))
        { n with
          channel := .signed { ch with
            ownPerUpdatePoint := s.ownNextPerUpdatePoint
            counterPerUpdatePoint := s.counterNextPerUpdatePoint
            state := .settled ⟨s.settleTx, counterSig, s.ownSettleAdaptorSignature, s.ownPayout,
              s.counterPayout, s.keysId⟩
            rollBackState := none
            updateIdx := ch.updateIdx - 1
            counterPartyCommitmentSecrets := secrets }
          contracts := n.contracts.insert b.signedContractId (.closed c)
          chainMonitor := m
          persistedChainMonitor := m }
  | settled {ch s b c counterSecret secrets m}
      (signed : n.channel = .signed ch) (state : ch.state = .settledConfirmed s)
      (before : ch.rollBackState = some (.established b))
      (counterPoint : X.publicKey counterSecret = ch.counterPerUpdatePoint)
      (provided : X.provideSecret ch.counterPartyCommitmentSecrets ch.updateIdx counterSecret =
        some secrets) (positive : 1 ≤ ch.updateIdx)
      (watched : m = n.chainMonitor.addTx (b.bufferTransaction.computeTxid X.toCrypto)
          ⟨ch.channelId, .revoked ch.updateIdx b.ownBufferAdaptorSignature b.isOffer .buffer⟩) :
      Moves n none
        { n with
          channel := .signed { ch with
            ownPerUpdatePoint := s.ownNextPerUpdatePoint
            counterPerUpdatePoint := s.counterNextPerUpdatePoint
            state := .settled ⟨s.settleTx, s.counterSettleAdaptorSignature,
              s.ownSettleAdaptorSignature, s.ownPayout, s.counterPayout, s.keysId⟩
            rollBackState := none
            updateIdx := ch.updateIdx - 1
            counterPartyCommitmentSecrets := secrets }
          contracts := n.contracts.insert b.signedContractId (.closed c)
          chainMonitor := m
          persistedChainMonitor := m }
  | renewOffered {ch point timeout payout msg} {offered : OfferedContract E.toDescriptors}
      (signed : n.channel = .signed ch)
      (state : (∃ s, ch.state = .established s) ∨ ∃ s, ch.state = .settled s)
      (next : nextPerUpdatePoint X signer validSecret ch = .ok point)
      (id : offered.id = generateTemporaryContractId X ch.channelId ch.updateIdx)
      (said : msg.temporaryContractId = offered.id ∧ msg.nextPerUpdatePoint = point) :
      Moves n (some (.renewOffer msg))
        { n with
          channel := .signed (ch.enter (.renewOffered
            ⟨offered.id, payout, point, true, timeout, ch.state.keysId⟩))
          contracts := n.contracts.insert offered.id (.offered offered) }
  | renewReceived {ch point timeout payout} {offered : OfferedContract E.toDescriptors}
      (signed : n.channel = .signed ch)
      (state : (∃ s, ch.state = .established s) ∨ ∃ s, ch.state = .settled s) :
      Moves n none
        { n with
          channel := .signed (ch.enter (.renewOffered
            ⟨offered.id, payout, point, false, timeout, ch.state.keysId⟩))
          contracts := n.contracts.insert offered.id (.offered offered) }
  | renewAccepted {ch s point txs contractId timeout msg}
      {offered : OfferedContract E.toDescriptors} {accepted : AcceptedContract E.toDescriptors}
      (signed : n.channel = .signed ch) (state : ch.state = .renewOffered s)
      (stored : n.contracts s.offeredContractId = some (.offered offered))
      (next : nextPerUpdatePoint X signer (.err .secpError) ch = .ok point)
      (built : renewalTransactions X ch offered ch.ownParams
        (ch.counterRevokeParams s.offerNextPerUpdatePoint) (ch.ownRevokeParams point)
        cetNsequence = .ok txs)
      (signs : ∃ sk value sigs, Internal.acceptContract X.toCrypto offered ch.ownParams [] sk
        value (some txs.bufferScriptPubkey) txs.dlcTransactions = .ok (accepted, sigs))
      (id : accepted.getContractId X.toCrypto = .ok contractId)
      (said : msg.nextPerUpdatePoint = point) :
      Moves n (some (.renewAccept msg))
        { n with
          channel := .signed { ch with state := .renewAccepted ⟨contractId,
            s.offerNextPerUpdatePoint, point, txs.bufferTransaction, txs.bufferScriptPubkey,
            timeout, s.counterPayout, s.keysId⟩ }
          contracts := (n.contracts.remove accepted.offeredContract.id).insert contractId
            (.accepted accepted) }
  | renewConfirmed {ch s txs sig ownPayout contractId timeout point msg}
      {offered : OfferedContract E.toDescriptors} {contract : SignedContract E.toDescriptors}
      (signed : n.channel = .signed ch) (state : ch.state = .renewOffered s)
      (stored : n.contracts s.offeredContractId = some (.offered offered))
      (built : renewalTransactions X ch offered ch.counterParams
        (ch.ownRevokeParams s.offerNextPerUpdatePoint) (ch.counterRevokeParams point)
        cetNsequence = .ok txs)
      (signs : ∃ refundSig adaptorSigs value contractSigner counterPk sigs,
        Internal.verifyAcceptedAndSignContract X.toCrypto offered ch.counterParams [] refundSig
          adaptorSigs value contractSigner (some txs.bufferScriptPubkey) counterPk
          txs.dlcTransactions (some ch.channelId) = .ok (contract, sigs))
      (id : contract.acceptedContract.getContractId X.toCrypto = .ok contractId)
      (bufferSig : msg.bufferAdaptorSignature = sig) :
      Moves n (some (.renewConfirm msg))
        { n with
          channel := .signed { ch with state := .renewConfirmed ⟨contractId,
            s.offerNextPerUpdatePoint, point, txs.bufferTransaction, txs.bufferScriptPubkey, sig,
            timeout, ownPayout, offered.totalCollateral, s.keysId⟩ }
          contracts := n.contracts.insert contractId (.confirmed contract) }
  | renewFinalized {ch s txType prevTx sig secret total contractId timeout contracts counterSig m}
      {accepted : AcceptedContract E.toDescriptors} {contract : SignedContract E.toDescriptors}
      (signed : n.channel = .signed ch) (state : ch.state = .renewAccepted s)
      (renews : Renews X ch txType prevTx)
      (stored : n.contracts s.contractId = some (.accepted accepted))
      (revealed : prevPerUpdateSecret X signer ch = .ok secret)
      (signs : ∃ refundSig adaptorSigs value counterPk sigs, Internal.verifySignedContract
        X.toCrypto accepted refundSig adaptorSigs [] value (some s.bufferScriptPubkey) counterPk
        (some ch.channelId) = .ok (contract, sigs))
      (id : contract.acceptedContract.getContractId X.toCrypto = .ok contractId)
      (closes : ClosesBefore X ch (n.contracts.insert contractId (.confirmed contract)) contracts)
      (watched : m = (n.chainMonitor.addTx (s.bufferTransaction.computeTxid X.toCrypto)
          ⟨ch.channelId, .bufferTx⟩).addTx (prevTx.computeTxid X.toCrypto) ⟨ch.channelId, txType⟩) :
      Moves n (some (.renewFinalize ⟨ch.channelId, secret, sig⟩))
        { n with
          channel := .signed { ch with
            counterPerUpdatePoint := s.offerPerUpdatePoint
            ownPerUpdatePoint := s.acceptPerUpdatePoint
            state := .renewFinalized ⟨contractId, ch.counterPerUpdatePoint, s.bufferTransaction,
              s.bufferScriptPubkey, counterSig, sig, timeout, s.ownPayout, total, s.keysId⟩ }
          contracts
          chainMonitor := m
          persistedChainMonitor := m }
  | renewRevoked {ch s txType prevTx secret counterSecret secrets contracts counterSig m}
      (signed : n.channel = .signed ch) (state : ch.state = .renewConfirmed s)
      (renews : Renews X ch txType prevTx)
      (revealed : prevPerUpdateSecret X signer ch = .ok secret)
      (counterPoint : X.publicKey counterSecret = ch.counterPerUpdatePoint)
      (provided : X.provideSecret ch.counterPartyCommitmentSecrets ch.updateIdx counterSecret =
        some secrets) (positive : 1 ≤ ch.updateIdx)
      (closes : ClosesBefore X ch n.contracts contracts)
      (watched : m = (n.chainMonitor.addTx (prevTx.computeTxid X.toCrypto) ⟨ch.channelId, txType⟩).addTx
          (s.bufferTransaction.computeTxid X.toCrypto) ⟨ch.channelId, .bufferTx⟩) :
      Moves n (some (.renewRevoke ⟨ch.channelId, secret⟩))
        { n with
          channel := .signed { ch with
            ownPerUpdatePoint := s.offerPerUpdatePoint
            counterPerUpdatePoint := s.acceptPerUpdatePoint
            state := .established ⟨s.contractId, counterSig, s.offerBufferAdaptorSignature,
              s.bufferTransaction, true, s.totalCollateral, s.keysId⟩
            rollBackState := none
            updateIdx := ch.updateIdx - 1
            counterPartyCommitmentSecrets := secrets }
          contracts
          chainMonitor := m
          persistedChainMonitor := m }
  | renewed {ch s counterSecret secrets}
      (signed : n.channel = .signed ch) (state : ch.state = .renewFinalized s)
      (counterPoint : X.publicKey counterSecret = s.prevOfferPerUpdatePoint)
      (provided : X.provideSecret ch.counterPartyCommitmentSecrets ch.updateIdx counterSecret =
        some secrets) (positive : 1 ≤ ch.updateIdx) :
      Moves n none
        { n with
          channel := .signed { ch with
            updateIdx := ch.updateIdx - 1
            state := .established ⟨s.contractId, s.offerBufferAdaptorSignature,
              s.acceptBufferAdaptorSignature, s.bufferTransaction, true, s.totalCollateral,
              s.keysId⟩
            counterPartyCommitmentSecrets := secrets } }
  | rollsBack {ch ch' contracts out}
      (signed : n.channel = .signed ch)
      (state : (∃ s, ch.state = .settledReceived s) ∨ (∃ s, ch.state = .settledOffered s) ∨
        ∃ s, ch.state = .renewOffered s)
      (back : ch.rollBack = .ok ch') (answer : out = none ∨ out = some (.reject ⟨ch.channelId⟩))
      (rejects : contracts = n.contracts ∨ ∃ s offered, ch.state = .renewOffered s ∧
        n.contracts s.offeredContractId = some (.offered offered) ∧
        contracts = n.contracts.insert offered.id (.rejected offered)) :
      Moves n out { n with channel := .signed ch', contracts }
  | closeReceived {ch sig payout closeTx timeout}
      (signed : n.channel = .signed ch) (unrolled : ch.rollBackState = none) :
      Moves n none
        { n with channel := .signed (ch.enter (.collaborativeCloseOffered
            ⟨payout, sig, closeTx, timeout, ch.state.keysId⟩)) }
  | closeOffered {ch sig payout closeTx timeout m}
      (signed : n.channel = .signed ch)
      (built : ∃ total, closeTx = collaborativeCloseTx X ch ch.ownParams ch.counterParams
        (total - payout) payout)
      (watched : m = n.chainMonitor.addTx (closeTx.computeTxid X.toCrypto)
          ⟨ch.channelId, .collaborativeClose⟩) :
      Moves n (some (.collaborativeCloseOffer ⟨ch.channelId, payout, sig⟩))
        { n with
          channel := .signed (ch.enter (.collaborativeCloseOffered
            ⟨payout, sig, closeTx, timeout, ch.state.keysId⟩))
          chainMonitor := m
          persistedChainMonitor := m }
  | closeAccepted {ch s closeTx contracts}
      (signed : n.channel = .signed ch) (state : ch.state = .collaborativeCloseOffered s)
      (completed : acceptCollaborativeCloseOffer X signer ch =
        .ok (closeTx, .collaborativelyClosed ch.closedChannel))
      (closes : contracts = n.contracts ∨ ∃ b c, ch.rollBackState = some (.established b) ∧
        contracts = n.contracts.insert b.signedContractId (.closed c)) :
      Moves n none
        { n with
          channel := .collaborativelyClosed ch.closedChannel
          contracts
          sent := n.sent ++ [.close closeTx] }

end Moves

section Success
variable {X : ChannelCrypto} {signer : Signer} {E : SigningDescriptors} {W : Wire E.toDescriptors}
  {A : Type} {env : Environment E.toDescriptors} {n n' : Node X E.toDescriptors}
  {ch : SignedChannel X}

theorem updateContract_closed (contracts : Store E.toDescriptors) (c : ClosedContract) :
    contracts.updateContract X.toCrypto (.closed c) = .ok (contracts.insert c.contractId (.closed c)) :=
  rfl

theorem getCollaborativelyClosedContract_ok {contractId : ContractId} {payout : ℕ} {own : Bool}
    {contract : Contract E.toDescriptors}
    (h : getCollaborativelyClosedContract contractId payout own n = (.ok contract, n')) :
    n = n' ∧ ∃ c : ClosedContract, contract = .closed c ∧ c.contractId = contractId := by
  simp only [getCollaborativelyClosedContract, Handler.bind_ok, Handler.read_ok, Handler.lift_ok,
    Handler.pure_ok] at h
  obtain ⟨_, _, ⟨_, rfl⟩, _, _, ⟨_, rfl⟩, rfl, rfl⟩ := h
  exact ⟨rfl, _, rfl, rfl⟩

theorem updateClosed_ok {closed : Option (Contract E.toDescriptors)} {u : Unit}
    (h : updateClosed X closed n = (.ok u, n')) :
    (closed = none ∧ n' = n) ∨ ∃ contract contracts, closed = some contract ∧
      n.contracts.updateContract X.toCrypto contract = .ok contracts ∧ n' = { n with contracts } := by
  cases closed with
  | none => exact .inl ⟨rfl, (Handler.pure_ok.mp h).2.symm⟩
  | some contract =>
      obtain ⟨contracts, updated, rfl⟩ := updateContract_ok.mp h
      exact .inr ⟨contract, contracts, rfl, updated, rfl⟩

theorem finishSettlement_ok {b : SignedChannelState.Established} {payout : ℕ} {u : Unit}
    (h : finishSettlement X ch b payout n = (.ok u, n')) :
    ∃ c m, m = n.chainMonitor.addTx (b.bufferTransaction.computeTxid X.toCrypto)
        ⟨ch.channelId, .revoked (ch.updateIdx + 1) b.ownBufferAdaptorSignature b.isOffer .buffer⟩ ∧
      n' = { n with
        channel := .signed ch
        contracts := n.contracts.insert b.signedContractId (.closed c)
        chainMonitor := m
        persistedChainMonitor := m } := by
  simp only [finishSettlement, addTx, Handler.bind_ok, onChainMonitor_ok, Handler.modify_ok,
    upsertChannel_some_ok, persistChainMonitor_ok] at h
  obtain ⟨_, _, ⟨m, watched, rfl⟩, _, _, closes, _, _, ⟨contracts, updated, rfl⟩, rfl⟩ := h
  obtain ⟨rfl, c, rfl, id⟩ := getCollaborativelyClosedContract_ok closes
  rw [updateContract_closed, Except.ok.injEq, id] at updated
  exact ⟨c, m, watched.symm, by rw [← updated]⟩

theorem renewedFrom_ok {payout : ℕ} {unexpected : String} {txType : TxType} {txid : Bytes32}
    {closed : Option (Contract E.toDescriptors)}
    (h : renewedFrom X ch payout unexpected n = (.ok (txType, txid, closed), n')) :
    n = n' ∧ ∃ tx, Renews X ch txType tx ∧ txid = tx.computeTxid X.toCrypto ∧
      ((closed = none ∧ ∃ b, ch.rollBackState = some (.settled b)) ∨
        ∃ b c, ch.rollBackState = some (.established b) ∧ closed = some (.closed c) ∧
          c.contractId = b.signedContractId) := by
  unfold renewedFrom at h
  match before : ch.rollBackState with
  | some (.established b) =>
      rw [before] at h
      simp only [Handler.bind_ok, Handler.pure_ok, Prod.mk.injEq] at h
      obtain ⟨_, _, closes, ⟨rfl, rfl, rfl⟩, rfl⟩ := h
      obtain ⟨rfl, c, rfl, id⟩ := getCollaborativelyClosedContract_ok closes
      exact ⟨rfl, _, .established before, rfl, .inr ⟨b, c, rfl, rfl, id⟩⟩
  | some (.settled b) =>
      rw [before] at h
      simp only [Handler.pure_ok, Prod.mk.injEq] at h
      obtain ⟨⟨rfl, rfl, rfl⟩, rfl⟩ := h
      exact ⟨rfl, _, .settled before, rfl, .inl ⟨rfl, b, rfl⟩⟩
  | none | some (.settledOffered _) | some (.settledReceived _) | some (.settledAccepted _)
  | some (.settledConfirmed _) | some (.renewOffered _) | some (.renewAccepted _)
  | some (.renewConfirmed _) | some (.renewFinalized _) | some (.closing _)
  | some (.collaborativeCloseOffered _) =>
      rw [before] at h
      cases h

/-- Closing the contract of the state before, when there is one, is all an update does to
the other contracts. -/
theorem closesBefore_of_updateClosed {closed : Option (Contract E.toDescriptors)} {u : Unit}
    (which : (closed = none ∧ ∃ b, ch.rollBackState = some (.settled b)) ∨
      ∃ b c, ch.rollBackState = some (.established b) ∧ closed = some (.closed c) ∧
        c.contractId = b.signedContractId)
    (h : updateClosed X closed n = (.ok u, n')) :
    ∃ contracts, ClosesBefore X ch n.contracts contracts ∧ n' = { n with contracts } := by
  rcases updateClosed_ok h with ⟨rfl, rfl⟩ | ⟨contract, contracts, rfl, updated, rfl⟩
  · rcases which with ⟨-, before⟩ | ⟨b, c, before, other, id⟩
    · exact ⟨_, .inl ⟨rfl, before⟩, rfl⟩
    · cases other
  · rcases which with ⟨other, -⟩ | ⟨b, c, before, same, id⟩
    · cases other
    · cases same
      rw [updateContract_closed, Except.ok.injEq, id] at updated
      exact ⟨contracts, .inr ⟨b, c, before, updated.symm⟩, rfl⟩

theorem getOffered_ok {contracts : Store E.toDescriptors} {id : ContractId}
    {peer : Option PublicKey} {offered : OfferedContract E.toDescriptors}
    (h : contracts.getOffered id peer = .ok offered) :
    contracts id = some (.offered offered) := by
  obtain ⟨c, stored, -, picked⟩ := Store.getInState_ok.mp h
  rw [stored, Contract.offered?_eq_some.mp picked]

theorem getAccepted_ok {contracts : Store E.toDescriptors} {id : ContractId}
    {peer : Option PublicKey} {accepted : AcceptedContract E.toDescriptors}
    (h : contracts.getAccepted id peer = .ok accepted) :
    contracts id = some (.accepted accepted) := by
  obtain ⟨c, stored, -, picked⟩ := Store.getInState_ok.mp h
  rw [stored, Contract.accepted?_eq_some.mp picked]

theorem associatedContractId_ok {message : String} {contractId : ContractId} :
    associatedContractId X ch message = .ok contractId ↔ ch.state.contractId = some contractId := by
  unfold associatedContractId
  cases ch.state.contractId <;> simp

/-- A contract with an id can be stored. -/
theorem updateContract_confirmed {contracts contracts' : Store E.toDescriptors}
    {contract : SignedContract E.toDescriptors} {id : ContractId}
    (known : contract.acceptedContract.getContractId X.toCrypto = .ok id)
    (h : contracts.updateContract X.toCrypto (.confirmed contract) = .ok contracts') :
    contracts' = contracts.insert id (.confirmed contract) := by
  simp only [Store.updateContract, Contract.getId, known, ok_bind, Except.ok.injEq] at h
  exact h.symm

theorem updateContract_accepted {contracts contracts' : Store E.toDescriptors}
    {contract : AcceptedContract E.toDescriptors} {id : ContractId}
    (known : contract.getContractId X.toCrypto = .ok id)
    (h : contracts.updateContract X.toCrypto (.accepted contract) = .ok contracts') :
    contracts' = (contracts.remove contract.offeredContract.id).insert id (.accepted contract) := by
  simp only [Store.updateContract, Contract.getId, known, ok_bind, Except.ok.injEq] at h
  exact h.symm

section Messages
variable {peer : PublicKey}

theorem onSettleOffer_moves {m : SettleOffer} {reject : Option Reject}
    (h : onSettleOffer X m peer n = (.ok reject, n')) :
    Moves X signer W n (reject.map .reject) n' := by
  simp only [onSettleOffer, Handler.bind_ok, getSignedChannel_ok] at h
  obtain ⟨ch, _, ⟨⟨signed, -, -⟩, rfl⟩, h⟩ := h
  rw [Handler.ite_apply] at h
  split at h
  next =>
    obtain ⟨rfl, rfl⟩ := Handler.pure_ok.mp h
    exact .refuses _
  next =>
    simp only [Handler.bind_ok, Handler.lift_ok, upsertChannel_none_ok, Handler.pure_ok] at h
    obtain ⟨ch', _, ⟨received, rfl⟩, _, _, rfl, rfl, rfl⟩ := h
    obtain ⟨s, total, state, -, -, rfl⟩ := onSettleOffer_ok received
    exact .settleReceived signed state

theorem onSettleAccept_moves {m : SettleAccept} {msg : SettleConfirm}
    (h : onSettleAccept X signer env m peer n = (.ok msg, n')) :
    Moves X signer W n (some (.settleConfirm msg)) n' := by
  simp only [onSettleAccept, Handler.bind_ok, getSignedChannel_ok, onChainMonitor_ok,
    upsertChannel_none_ok, Handler.pure_ok] at h
  obtain ⟨ch, _, ⟨⟨signed, -, -⟩, rfl⟩, ⟨ch', _⟩, _, ⟨mon, confirms, rfl⟩, _, _, rfl, rfl, rfl⟩ := h
  obtain ⟨s, _, _, _, _, state, revealed, rfl, rfl, rfl⟩ := settleChannelConfirm_ok confirms
  exact .settleConfirmed signed state revealed

theorem establishedBefore_ok {b : SignedChannelState.Established}
    (h : establishedBefore X ch = .ok b) : ch.rollBackState = some (.established b) := by
  unfold establishedBefore at h
  split at h
  next s before => rw [before, Except.ok.inj h]
  next => cases h

theorem onSettleConfirm_moves {m : SettleConfirm} {msg : SettleFinalize}
    (h : onSettleConfirm X signer m peer n = (.ok msg, n')) :
    Moves X signer W n (some (.settleFinalize msg)) n' := by
  simp only [onSettleConfirm, Handler.bind_ok, getSignedChannel_ok, Handler.lift_ok,
    Handler.pure_ok] at h
  obtain ⟨ch, _, ⟨⟨signed, -, -⟩, rfl⟩, _, _, ⟨-, rfl⟩, b, _, ⟨before, rfl⟩, ⟨ch', _⟩, _,
    ⟨finalizes, rfl⟩, _, _, finishes, rfl, rfl⟩ := h
  obtain ⟨s, secrets, secret, state, point, provided, revealed, positive, rfl, rfl⟩ :=
    settleChannelFinalize_ok finalizes
  obtain ⟨c, mon, watched, rfl⟩ := finishSettlement_ok finishes
  rw [Nat.sub_add_cancel positive] at watched
  exact .settleFinalized signed state (establishedBefore_ok before) revealed point provided positive
    watched

theorem onSettleFinalize_moves {m : SettleFinalize} {u : Unit}
    (h : onSettleFinalize X m peer n = (.ok u, n')) : Moves X signer W n none n' := by
  simp only [onSettleFinalize, Handler.bind_ok, getSignedChannel_ok, Handler.lift_ok] at h
  obtain ⟨ch, _, ⟨⟨signed, -, -⟩, rfl⟩, _, _, ⟨-, rfl⟩, b, _, ⟨before, rfl⟩, ch', _,
    ⟨finalized, rfl⟩, finishes⟩ := h
  obtain ⟨s, secrets, state, point, provided, positive, rfl⟩ :=
    settleChannelOnFinalize_ok finalized
  obtain ⟨c, mon, watched, rfl⟩ := finishSettlement_ok finishes
  rw [Nat.sub_add_cancel positive] at watched
  exact .settled signed state (establishedBefore_ok before) point provided positive watched

theorem onRenewOffer_moves {m : RenewOffer W.ContractInfo} {reject : Option Reject}
    (h : onRenewOffer X env W m peer n = (.ok reject, n')) :
    Moves X signer W n (reject.map .reject) n' := by
  simp only [onRenewOffer, Handler.bind_ok, getSignedChannel_ok] at h
  obtain ⟨ch, _, ⟨⟨signed, -, -⟩, rfl⟩, h⟩ := h
  rw [Handler.ite_apply] at h
  split at h
  next =>
    obtain ⟨rfl, rfl⟩ := Handler.pure_ok.mp h
    exact .refuses _
  next =>
    simp only [Handler.bind_ok, Handler.lift_ok, createContract_ok, upsertChannel_none_ok,
      Handler.pure_ok] at h
    obtain ⟨⟨ch', offered⟩, _, ⟨received, rfl⟩, _, _, rfl, _, _, rfl, rfl, rfl⟩ := h
    obtain ⟨state, id, rfl⟩ := onRenewOffer_ok received
    rw [← id]
    exact .renewReceived signed state

theorem onRenewAccept_moves {m : RenewAccept} {msg : RenewConfirm}
    (h : onRenewAccept X signer env m peer n = (.ok msg, n')) :
    Moves X signer W n (some (.renewConfirm msg)) n' := by
  simp only [onRenewAccept, Handler.bind_ok, getSignedChannel_ok, Handler.lift_ok, Handler.read_ok,
    upsertChannel_some_ok, Handler.pure_ok, associatedContractId_ok] at h
  obtain ⟨ch, _, ⟨⟨signed, -, -⟩, rfl⟩, contractId, _, ⟨associated, rfl⟩, offered, _,
    ⟨found, rfl⟩, ⟨ch', contract, _⟩, _, ⟨confirms, rfl⟩, _, _, ⟨contracts, updated, rfl⟩, rfl,
    rfl⟩ := h
  obtain ⟨s, txs, sig, payout, newId, state, built, ⟨_, _, _, _, signs⟩, id, rfl, -, bufferSig⟩ :=
    verifyRenewAcceptAndConfirm_ok confirms
  rw [state, SignedChannelState.contractId, Option.some.injEq] at associated
  obtain rfl := updateContract_confirmed id updated
  exact .renewConfirmed signed state (associated ▸ getOffered_ok found) built
    ⟨_, _, _, _, _, _, signs⟩ id bufferSig

theorem onRenewConfirm_moves {m : RenewConfirm} {msg : RenewFinalize}
    (h : onRenewConfirm X signer env m peer n = (.ok msg, n')) :
    Moves X signer W n (some (.renewFinalize msg)) n' := by
  simp only [onRenewConfirm, addTx, Handler.bind_ok, getSignedChannel_ok, Handler.lift_ok,
    Handler.read_ok, onChainMonitor_ok, Handler.modify_ok, upsertChannel_some_ok,
    persistChainMonitor_ok, Handler.pure_ok, associatedContractId_ok] at h
  obtain ⟨ch, _, ⟨⟨signed, -, -⟩, rfl⟩, _, _, ⟨-, rfl⟩, contractId, _, ⟨associated, rfl⟩,
    ⟨txType, txid, closed⟩, _, renewed, h⟩ := h
  obtain ⟨rfl, tx, renews, rfl, which⟩ := renewedFrom_ok renewed
  obtain ⟨accepted, _, ⟨found, rfl⟩, ⟨ch', contract, _⟩, _, ⟨mon, finalizes, rfl⟩, h⟩ := h
  obtain ⟨_, _, ⟨_, rfl, rfl⟩, _, _, ⟨contracts, updated, rfl⟩, _, _, rfl, _, _, closes, rfl,
    rfl⟩ := h
  obtain ⟨s, sig, secret, total, newId, state, revealed, ⟨_, _, _, signs⟩, id, rfl, rfl, rfl⟩ :=
    verifyRenewConfirmAndFinalize_ok finalizes
  rw [state, SignedChannelState.contractId, Option.some.injEq] at associated
  obtain rfl := updateContract_confirmed id updated
  obtain ⟨contracts', closing, rfl⟩ := closesBefore_of_updateClosed which closes
  exact .renewFinalized signed state renews (associated ▸ getAccepted_ok found) revealed
    ⟨_, _, _, _, _, signs⟩ id closing rfl

theorem onRenewFinalize_moves {m : RenewFinalize} {msg : RenewRevoke}
    (h : onRenewFinalize X signer m peer n = (.ok msg, n')) :
    Moves X signer W n (some (.renewRevoke msg)) n' := by
  simp only [onRenewFinalize, addTx, Handler.bind_ok, getSignedChannel_ok, Handler.lift_ok,
    onChainMonitor_ok, Handler.modify_ok, upsertChannel_none_ok, persistChainMonitor_ok,
    Handler.pure_ok] at h
  obtain ⟨ch, _, ⟨⟨signed, -, -⟩, rfl⟩, _, _, ⟨-, rfl⟩, ⟨txType, txid, closed⟩, _, renewed, h⟩ := h
  obtain ⟨rfl, tx, renews, rfl, which⟩ := renewedFrom_ok renewed
  obtain ⟨⟨ch', _⟩, _, ⟨finalized, rfl⟩, _, _, ⟨_, rfl, rfl⟩, h⟩ := h
  obtain ⟨bufferTx, _, ⟨established, rfl⟩, _, _, ⟨_, rfl, rfl⟩, _, _, rfl, _, _, rfl, _, _, closes,
    rfl, rfl⟩ := h
  obtain ⟨s, secrets, secret, state, point, provided, revealed, positive, rfl, rfl⟩ :=
    renewChannelOnFinalize_ok finalized
  obtain rfl := Except.ok.inj established
  obtain ⟨contracts', closing, rfl⟩ := closesBefore_of_updateClosed which closes
  exact .renewRevoked signed state renews revealed point provided positive closing rfl

theorem onRenewRevoke_moves {m : RenewRevoke} {u : Unit}
    (h : onRenewRevoke X m peer n = (.ok u, n')) : Moves X signer W n none n' := by
  simp only [onRenewRevoke, Handler.bind_ok, getSignedChannel_ok, Handler.lift_ok,
    upsertChannel_none_ok] at h
  obtain ⟨ch, _, ⟨⟨signed, -, -⟩, rfl⟩, ch', _, ⟨revoked, rfl⟩, rfl⟩ := h
  obtain ⟨s, secrets, state, point, provided, positive, rfl⟩ := renewChannelOnRevoke_ok revoked
  exact .renewed signed state point provided positive

theorem onCollaborativeCloseOffer_moves {m : CollaborativeCloseOffer} {u : Unit}
    (h : onCollaborativeCloseOffer X env m peer n = (.ok u, n')) : Moves X signer W n none n' := by
  simp only [onCollaborativeCloseOffer, Handler.bind_ok, getSignedChannel_ok, Handler.lift_ok,
    upsertChannel_none_ok] at h
  obtain ⟨ch, _, ⟨⟨signed, -, -⟩, rfl⟩, ch', _, ⟨received, rfl⟩, rfl⟩ := h
  obtain ⟨closeTx, unrolled, rfl⟩ := onCollaborativeCloseOffer_ok received
  exact .closeReceived signed unrolled

theorem rejectedContract_ok {contract : Option (Contract E.toDescriptors)}
    (h : rejectedContract X ch n = (.ok contract, n')) :
    n = n' ∧ (contract = none ∨ ∃ s offered, ch.state = .renewOffered s ∧
      n.contracts s.offeredContractId = some (.offered offered) ∧
      contract = some (.rejected offered)) := by
  unfold rejectedContract at h
  match state : ch.state with
  | .renewOffered s =>
      rw [state] at h
      simp only [Handler.bind_ok, Handler.read_ok, Handler.pure_ok] at h
      obtain ⟨offered, _, ⟨found, rfl⟩, rfl, rfl⟩ := h
      exact ⟨rfl, .inr ⟨s, offered, rfl, getOffered_ok found, rfl⟩⟩
  | .established _ | .settledOffered _ | .settledReceived _ | .settledAccepted _
  | .settledConfirmed _ | .settled _ | .renewAccepted _ | .renewConfirmed _ | .renewFinalized _
  | .closing _ | .collaborativeCloseOffered _ =>
      rw [state] at h
      obtain ⟨rfl, rfl⟩ := Handler.pure_ok.mp h
      exact ⟨rfl, .inl rfl⟩

theorem onReject_moves {m : Reject} {u : Unit} (h : onReject X m peer n = (.ok u, n')) :
    Moves X signer W n none n' := by
  simp only [onReject, Handler.bind_ok, Handler.read_ok, Except.ok.injEq] at h
  obtain ⟨stored, _, ⟨found, rfl⟩, h⟩ := h
  cases stored with
  | none => exact (Handler.pure_ok.mp h).2 ▸ .rests
  | some channel =>
      simp only [Handler.bind_ok, Handler.lift_ok] at h
      obtain ⟨_, _, ⟨-, rfl⟩, h⟩ := h
      cases channel with
      | signed ch =>
          have signed : n.channel = .signed ch := by
            split_ifs at found
            exact Option.some.inj found
          simp only [Handler.bind_ok, Handler.lift_ok] at h
          obtain ⟨contract, _, rejects, ch', _, ⟨rejected, rfl⟩, upserted⟩ := h
          obtain ⟨rfl, which⟩ := rejectedContract_ok rejects
          rcases onReject_ok rejected with ⟨rfl, rest⟩ | ⟨back, state⟩
          · rcases which with rfl | ⟨s, _, offers, -, -⟩
            · obtain rfl := upsertChannel_none_ok.mp upserted
              rw [← signed]
              exact .rests
            · rw [offers] at rest
              rcases rest with ⟨_, other⟩ | ⟨_, other⟩ <;> cases other
          · have state : (∃ s, ch.state = .settledReceived s) ∨ (∃ s, ch.state = .settledOffered s) ∨
                ∃ s, ch.state = .renewOffered s :=
              state.elim (fun offers => .inr (.inr (offers.imp fun _ => And.left))) (.inr ∘ .inl)
            rcases which with rfl | ⟨s, offered, offers, found, rfl⟩
            · obtain rfl := upsertChannel_none_ok.mp upserted
              exact .rollsBack signed state back (.inl rfl) (.inl rfl)
            · obtain ⟨contracts, updated, rfl⟩ := upsertChannel_some_ok.mp upserted
              exact .rollsBack signed state back (.inl rfl)
                (.inr ⟨s, offered, offers, found, (Except.ok.inj updated).symm⟩)
      | closed | counterClosed | collaborativelyClosed | closedPunished => cases h

theorem onDlcMessage_moves {m : DlcMessage W.ContractInfo}
    {out : Option (DlcMessage W.ContractInfo)}
    (h : onDlcMessage X signer W env peer m n = (.ok out, n')) : Moves X signer W n out n' := by
  cases m <;> simp only [onDlcMessage, Handler.bind_ok, Handler.pure_ok] at h <;>
    obtain ⟨_, _, handled, rfl, rfl⟩ := h
  case settleOffer => exact onSettleOffer_moves handled
  case settleAccept => exact onSettleAccept_moves handled
  case settleConfirm => exact onSettleConfirm_moves handled
  case settleFinalize => exact onSettleFinalize_moves handled
  case renewOffer => exact onRenewOffer_moves handled
  case renewAccept => exact onRenewAccept_moves handled
  case renewConfirm => exact onRenewConfirm_moves handled
  case renewFinalize => exact onRenewFinalize_moves handled
  case renewRevoke => exact onRenewRevoke_moves handled
  case collaborativeCloseOffer => exact onCollaborativeCloseOffer_moves handled
  case reject => exact onReject_moves handled

end Messages

section Calls
variable {channelId : ChannelId}

theorem settleOffer_moves {payout : ℕ} {msg : SettleOffer}
    (h : settleOffer X signer env channelId payout n = (.ok msg, n')) :
    Moves X signer W n (some (.settleOffer msg)) n' := by
  simp only [settleOffer, Handler.bind_ok, getSignedChannel_ok, Handler.lift_ok,
    upsertChannel_none_ok, Handler.pure_ok] at h
  obtain ⟨ch, _, ⟨⟨signed, -, -⟩, rfl⟩, ⟨ch', _⟩, _, ⟨offers, rfl⟩, _, _, rfl, rfl, rfl⟩ := h
  obtain ⟨s, point, state, next, rfl, rfl⟩ := settleChannelOffer_ok offers
  exact .settleOffered signed state next

theorem acceptSettleOffer_moves {msg : SettleAccept}
    (h : acceptSettleOffer X signer env channelId n = (.ok msg, n')) :
    Moves X signer W n (some (.settleAccept msg)) n' := by
  simp only [acceptSettleOffer, Handler.bind_ok, getSignedChannel_ok, onChainMonitor_ok,
    upsertChannel_none_ok, Handler.pure_ok] at h
  obtain ⟨ch, _, ⟨⟨signed, -, -⟩, rfl⟩, ⟨ch', _⟩, _, ⟨mon, accepts, rfl⟩, _, _, rfl, rfl, rfl⟩ := h
  obtain ⟨s, point, _, _, state, next, rfl, rfl, rfl⟩ := settleChannelAccept_ok accepts
  exact .settleAccepted signed state next

theorem renewOffer_moves {payout : ℕ} {input : ContractInput E.toDescriptors A}
    {announcements : Result (List (List (OracleAnnouncement A)))} {msg : RenewOffer W.ContractInfo}
    (h : renewOffer X signer env W channelId payout input announcements n = (.ok msg, n')) :
    Moves X signer W n (some (.renewOffer msg)) n' := by
  simp only [renewOffer, Handler.bind_ok, getSignedChannel_ok, Handler.lift_ok,
    upsertChannel_some_ok, Handler.pure_ok] at h
  obtain ⟨ch, _, ⟨⟨signed, -, -⟩, rfl⟩, _, _, ⟨-, rfl⟩, ⟨ch', _, offered⟩, _, ⟨offers, rfl⟩, _, _,
    ⟨contracts, updated, rfl⟩, rfl, rfl⟩ := h
  obtain ⟨point, checked, id, next, rfl, -, said⟩ := renewOffer_ok offers
  obtain rfl := Except.ok.inj updated
  exact .renewOffered signed (checkRenewal_state checked) next id said

theorem acceptRenewOffer_moves {msg : RenewAccept}
    (h : acceptRenewOffer X signer env channelId n = (.ok msg, n')) :
    Moves X signer W n (some (.renewAccept msg)) n' := by
  simp only [acceptRenewOffer, Handler.bind_ok, getSignedChannel_ok, Handler.lift_ok,
    Handler.read_ok, upsertChannel_some_ok, Handler.pure_ok, associatedContractId_ok] at h
  obtain ⟨ch, _, ⟨⟨signed, -, -⟩, rfl⟩, contractId, _, ⟨associated, rfl⟩, offered, _,
    ⟨found, rfl⟩, ⟨ch', accepted, _⟩, _, ⟨accepts, rfl⟩, _, _, ⟨contracts, updated, rfl⟩, rfl,
    rfl⟩ := h
  obtain ⟨s, point, txs, newId, state, next, built, signs, id, rfl, -, said⟩ :=
    acceptChannelRenewal_ok accepts
  rw [state, SignedChannelState.contractId, Option.some.injEq] at associated
  obtain rfl := updateContract_accepted id updated
  exact .renewAccepted signed state (associated ▸ getOffered_ok found) next built signs id said

theorem rejectRenewOffer_moves {msg : Reject}
    (h : rejectRenewOffer X channelId n = (.ok msg, n')) :
    Moves X signer W n (some (.reject msg)) n' := by
  simp only [rejectRenewOffer, Handler.bind_ok, getSignedChannel_ok, Handler.lift_ok,
    Handler.read_ok, upsertChannel_some_ok, Handler.pure_ok, associatedContractId_ok] at h
  obtain ⟨ch, _, ⟨⟨signed, -, -⟩, rfl⟩, contractId, _, ⟨associated, rfl⟩, offered, _,
    ⟨found, rfl⟩, ⟨ch', _⟩, _, ⟨rejects, rfl⟩, _, _, ⟨contracts, updated, rfl⟩, rfl, rfl⟩ := h
  obtain ⟨⟨s, state, -⟩, back, rfl⟩ := rejectRenewOffer_ok rejects
  rw [state, SignedChannelState.contractId, Option.some.injEq] at associated
  exact .rollsBack signed (.inr (.inr ⟨s, state⟩)) back (.inr rfl)
    (.inr ⟨s, offered, state, associated ▸ getOffered_ok found, (Except.ok.inj updated).symm⟩)

theorem rejectSettleOffer_moves {msg : Reject}
    (h : rejectSettleOffer X channelId n = (.ok msg, n')) :
    Moves X signer W n (some (.reject msg)) n' := by
  simp only [rejectSettleOffer, Handler.bind_ok, getSignedChannel_ok, Handler.lift_ok,
    upsertChannel_none_ok, Handler.pure_ok] at h
  obtain ⟨ch, _, ⟨⟨signed, -, -⟩, rfl⟩, ⟨ch', _⟩, _, ⟨rejects, rfl⟩, _, _, rfl, rfl, rfl⟩ := h
  obtain ⟨state, back, rfl⟩ := rejectSettleOffer_ok rejects
  exact .rollsBack signed (.inl state) back (.inr rfl) (.inl rfl)

theorem offerCollaborativeClose_moves {payout : ℕ} {msg : CollaborativeCloseOffer}
    (h : offerCollaborativeClose X signer env channelId payout n = (.ok msg, n')) :
    Moves X signer W n (some (.collaborativeCloseOffer msg)) n' := by
  simp only [offerCollaborativeClose, addTx, Handler.bind_ok, getSignedChannel_ok, Handler.lift_ok,
    onChainMonitor_ok, Handler.modify_ok, upsertChannel_none_ok, persistChainMonitor_ok,
    Handler.pure_ok] at h
  obtain ⟨ch, _, ⟨⟨signed, rfl, -⟩, rfl⟩, ⟨ch', _, closeTx⟩, _, ⟨offers, rfl⟩, _, _,
    ⟨_, rfl, rfl⟩, _, _, rfl, _, _, rfl, rfl, rfl⟩ := h
  obtain ⟨sig, rfl, built, rfl⟩ := offerCollaborativeClose_ok offers
  exact .closeOffered signed built rfl

theorem collaborativelyClosed_ok {own : Bool} {closed : Option (Contract E.toDescriptors)}
    (h : collaborativelyClosed X ch own n = (.ok closed, n')) :
    n = n' ∧ (closed = none ∨ ∃ b c, ch.rollBackState = some (.established b) ∧
      closed = some (.closed c) ∧ c.contractId = b.signedContractId) := by
  unfold collaborativelyClosed at h
  match before : ch.rollBackState with
  | some (.established b) =>
      rw [before] at h
      simp only [Handler.bind_ok, Handler.lift_ok, Handler.pure_ok] at h
      obtain ⟨_, _, ⟨-, rfl⟩, _, _, closes, rfl, rfl⟩ := h
      obtain ⟨rfl, c, rfl, id⟩ := getCollaborativelyClosedContract_ok closes
      exact ⟨rfl, .inr ⟨b, c, rfl, rfl, id⟩⟩
  | none | some (.settled _) | some (.settledOffered _) | some (.settledReceived _)
  | some (.settledAccepted _) | some (.settledConfirmed _) | some (.renewOffered _)
  | some (.renewAccepted _) | some (.renewConfirmed _) | some (.renewFinalized _)
  | some (.closing _) | some (.collaborativeCloseOffered _) =>
      rw [before] at h
      obtain ⟨rfl, rfl⟩ := Handler.pure_ok.mp h
      exact ⟨rfl, .inl rfl⟩

theorem acceptCollaborativeClose_moves {u : Unit}
    (h : acceptCollaborativeClose X signer env channelId n = (.ok u, n')) :
    Moves X signer W n none n' := by
  simp only [acceptCollaborativeClose, Handler.bind_ok, getSignedChannel_ok, Handler.lift_ok,
    broadcast_ok, upsertChannel_none_ok] at h
  obtain ⟨ch, _, ⟨⟨signed, -, -⟩, rfl⟩, closed, _, closes, ⟨closeTx, record⟩, _,
    ⟨accepts, rfl⟩, _, _, ⟨-, rfl⟩, _, _, rfl, updates⟩ := h
  obtain ⟨rfl, which⟩ := collaborativelyClosed_ok closes
  obtain ⟨⟨s, state⟩, rfl⟩ := acceptCollaborativeCloseOffer_ok accepts
  rcases updateClosed_ok updates with ⟨rfl, rfl⟩ | ⟨contract, contracts, rfl, updated, rfl⟩
  · exact .closeAccepted signed state accepts (.inl rfl)
  · rcases which with other | ⟨b, c, before, same, id⟩
    · cases other
    · cases same
      rw [updateContract_closed, Except.ok.injEq, id] at updated
      exact .closeAccepted signed state accepts (.inr ⟨b, c, before, updated.symm⟩)

theorem onCall_moves {call : Call E.toDescriptors A} {out : Option (DlcMessage W.ContractInfo)}
    (updates : call ≠ .forceCloseChannel)
    (h : onCall X signer W env channelId call n = (.ok out, n')) : Moves X signer W n out n' := by
  cases call <;> simp only [onCall, Handler.bind_ok, Handler.pure_ok] at h <;>
    obtain ⟨_, _, called, rfl, rfl⟩ := h
  case settleOffer => exact settleOffer_moves called
  case acceptSettleOffer => exact acceptSettleOffer_moves called
  case renewOffer => exact renewOffer_moves called
  case acceptRenewOffer => exact acceptRenewOffer_moves called
  case rejectRenewOffer => exact rejectRenewOffer_moves called
  case rejectSettleOffer => exact rejectSettleOffer_moves called
  case offerCollaborativeClose => exact offerCollaborativeClose_moves called
  case acceptCollaborativeClose => exact acceptCollaborativeClose_moves called
  case forceCloseChannel => exact absurd rfl updates

end Calls

end Success

end Node

end P2PLending.Manager.Channels
