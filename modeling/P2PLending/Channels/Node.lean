import P2PLending.Channels.ChannelClosing

/-! The manager as far as one channel concerns it: the stored channel, the contracts,
the chain monitor in memory and on disk, and the transactions that went to the
blockchain. A call reads, computes and then writes; what it wrote stays. -/

namespace P2PLending.Manager
open Dlc Checked

/-- A contract in one of its states; `pick` knows which. -/
def Store.getInState {D : Descriptors} {α : Type} (store : Store D) (state : String)
    (pick : Contract D → Option α) (id : ContractId) (peer : Option PublicKey) : Result α :=
  match store id with
  | none => .error (.err (.invalidParameters "Unknown Contract id."))
  | some c =>
      if peer.any (· ≠ c.getCounterPartyId) then
        .error (.err (.invalidParameters "Peer is not involved with Contract."))
      else match pick c with
        | some contract => .ok contract
        | none => .error (.err (.invalidState
            s!"Invalid state Contract \x7b state: \"{c.state}\" \x7d expected {state}."))

namespace Contract
variable {D : Descriptors}

def offered? : Contract D → Option (OfferedContract D)
  | .offered c => some c
  | _ => none

def accepted? : Contract D → Option (AcceptedContract D)
  | .accepted c => some c
  | _ => none

def confirmed? : Contract D → Option (SignedContract D)
  | .confirmed c => some c
  | _ => none

theorem offered?_eq_some {c : Contract D} {o : OfferedContract D} :
    c.offered? = some o ↔ c = .offered o := by
  cases c <;> simp [offered?]

theorem accepted?_eq_some {c : Contract D} {o : AcceptedContract D} :
    c.accepted? = some o ↔ c = .accepted o := by
  cases c <;> simp [accepted?]

theorem confirmed?_eq_some {c : Contract D} {o : SignedContract D} :
    c.confirmed? = some o ↔ c = .confirmed o := by
  cases c <;> simp [confirmed?]

end Contract

namespace Store
variable {D : Descriptors} (store : Store D)

def getOffered : ContractId → Option PublicKey → Result (OfferedContract D) :=
  store.getInState "Offered" Contract.offered?

def getAccepted : ContractId → Option PublicKey → Result (AcceptedContract D) :=
  store.getInState "Accepted" Contract.accepted?

def getConfirmed : ContractId → Option PublicKey → Result (SignedContract D) :=
  store.getInState "Confirmed" Contract.confirmed?

variable {store}

theorem getInState_ok {α : Type} {state : String} {pick : Contract D → Option α}
    {id : ContractId} {peer : Option PublicKey} {contract : α} :
    store.getInState state pick id peer = .ok contract ↔
      ∃ c, store id = some c ∧ peer.all (· = c.getCounterPartyId) ∧ pick c = some contract := by
  unfold getInState
  match store id with
  | none => simp
  | some c =>
      cases peer with
      | none => cases picked : pick c <;> simp [picked]
      | some p =>
          by_cases involved : p = c.getCounterPartyId
          · cases picked : pick c <;> simp [picked, involved]
          · simp [involved]

end Store

namespace Channels

/-- The answers that a call gets. -/
structure Environment (D : Descriptors) where
  unixTimeNow : ℕ
  sendTransaction : Transaction → Result Unit
  getTransactionConfirmations : Bytes32 → Result ℕ
  getClosableContractInfo : SignedContract D →
    Option (D.ContractInfo × D.AdaptorInfo × List (ℕ × D.OracleAttestation))
  confirmedTxs : ChainMonitor → List (Transaction × ChannelInfo)
  getNewAddress : Result Bytes
  getNewSerialId : ℕ
  getEstSatPer1000Weight : ℕ

/-- A transaction handed to the blockchain; a buffer or settle transaction with the own
per-update point whose key completed it. -/
inductive Sent
  | buffer (tx : Transaction) (ownPerUpdatePoint : PublicKey)
  | settle (tx : Transaction) (ownPerUpdatePoint : PublicKey)
  | close (tx : Transaction)
  | cet (tx : Transaction)
  | punishment (tx : Transaction)
  deriving DecidableEq, Repr

def Sent.tx : Sent → Transaction
  | buffer tx _ | settle tx _ | close tx | cet tx | punishment tx => tx

structure Node (X : ChannelCrypto) (D : Descriptors) where
  channel : ChannelRecord X
  contracts : Store D
  chainMonitor : ChainMonitor
  persistedChainMonitor : ChainMonitor
  sent : List Sent

abbrev NodeHandler (X : ChannelCrypto) (D : Descriptors) := Handler (Node X D) (Fault Error)

def cetNsequence : ℕ := 288

namespace Node
variable {X : ChannelCrypto} {D : Descriptors}

/-- `get_channel_in_state!` for the state `Signed`. The texts are without the formatted
keys, ids and states. -/
def getSigned (n : Node X D) (id : ChannelId) (peer : Option PublicKey) :
    Result (SignedChannel X) :=
  if n.channel.getId ≠ id then .error (.err (.invalidParameters "Unknown Channel id."))
  else if peer.any (· ≠ n.channel.getCounterPartyId) then
    .error (.err (.invalidParameters "Peer is not involved with Channel."))
  else match n.channel with
    | .signed ch => .ok ch
    | _ => .error (.err (.invalidState "Invalid state of Channel, expected Signed."))

@[simp] theorem getSigned_ok {n : Node X D} {id : ChannelId} {peer : Option PublicKey}
    {ch : SignedChannel X} :
    n.getSigned id peer = .ok ch ↔
      n.channel = .signed ch ∧ ch.channelId = id ∧ peer.all (· = ch.counterParty) := by
  unfold getSigned
  split_ifs with other stranger
  · simp only [false_iff]
    rintro ⟨signed, rfl, -⟩
    exact other (by rw [signed]; rfl)
  · simp only [false_iff]
    rintro ⟨signed, -, known⟩
    rw [signed] at stranger
    cases peer <;> simp_all [ChannelRecord.getCounterPartyId]
  · match channel : n.channel with
    | .signed c =>
        rw [channel] at other stranger
        have here : c.channelId = id := not_not.mp other
        have known : peer.all (· = c.counterParty) := by
          cases peer with
          | none => rfl
          | some p => exact decide_eq_true (not_not.mp fun unequal => stranger (decide_eq_true unequal))
        grind
    | .closed _ | .counterClosed _ | .collaborativelyClosed _ | .closedPunished _ _ => simp

end Node

section Effects
variable {X : ChannelCrypto} {D : Descriptors} {α : Type}

def getSignedChannel (id : ChannelId) (peer : Option PublicKey) :
    NodeHandler X D (SignedChannel X) :=
  Handler.read fun n => n.getSigned id peer

def onChainMonitor (h : Handler ChainMonitor (Fault Error) α) : NodeHandler X D α := fun n =>
  ((h n.chainMonitor).1, { n with chainMonitor := (h n.chainMonitor).2 })

/-- A contract is stored under its id, which may have to be computed, with the channel. -/
def upsertChannel (channel : ChannelRecord X) (contract : Option (Contract D)) :
    NodeHandler X D Unit := do
  let contracts ← Handler.read fun n => match contract with
    | some c => n.contracts.updateContract X.toCrypto c
    | none => .ok n.contracts
  Handler.modify fun n => { n with channel, contracts }

def updateContract (contract : Contract D) : NodeHandler X D Unit := do
  let contracts ← Handler.read fun n => n.contracts.updateContract X.toCrypto contract
  Handler.modify fun n => { n with contracts }

def createContract (offered : OfferedContract D) : NodeHandler X D Unit :=
  Handler.modify fun n => { n with contracts := n.contracts.insert offered.id (.offered offered) }

def persistChainMonitor : NodeHandler X D Unit :=
  Handler.modify fun n => { n with persistedChainMonitor := n.chainMonitor }

def broadcast (env : Environment D) (sent : Sent) : NodeHandler X D Unit := do
  Handler.modify fun n => { n with sent := n.sent ++ [sent] }
  Handler.lift (env.sendTransaction sent.tx)

def cleanupChannel (channelId : ChannelId) : NodeHandler X D Unit :=
  onChainMonitor (Handler.modify fun m => m.cleanupChannel channelId)

/-- The contract of a closing that both parties agreed on. -/
def getCollaborativelyClosedContract (contractId : ContractId) (payout : ℕ)
    (isOwnPayout : Bool) : NodeHandler X D (Contract D) := do
  let contract ← Handler.read fun n => n.contracts.getConfirmed contractId none
  let offered := contract.acceptedContract.offeredContract
  let _ownPayout ← Handler.lift
    (if isOwnPayout then .ok payout else ofDlc (amountSub offered.totalCollateral payout))
  pure (.closed
    { signedCet := none
      contractId
      temporaryContractId := offered.id
      counterPartyId := offered.counterParty })

@[simp] theorem getSignedChannel_ok {n n' : Node X D} {id : ChannelId} {peer : Option PublicKey}
    {ch : SignedChannel X} :
    getSignedChannel id peer n = (.ok ch, n') ↔
      (n.channel = .signed ch ∧ ch.channelId = id ∧ peer.all (· = ch.counterParty)) ∧ n = n' := by
  rw [getSignedChannel, Handler.read_ok, Node.getSigned_ok]

@[simp] theorem onChainMonitor_ok {h : Handler ChainMonitor (Fault Error) α} {n n' : Node X D}
    {a : α} :
    onChainMonitor h n = (.ok a, n') ↔
      ∃ m, h n.chainMonitor = (.ok a, m) ∧ { n with chainMonitor := m } = n' := by
  rw [onChainMonitor, Prod.mk.injEq]
  constructor
  · rintro ⟨value, rfl⟩
    exact ⟨_, Prod.ext value rfl, rfl⟩
  · rintro ⟨m, ran, rfl⟩
    rw [ran]
    exact ⟨rfl, rfl⟩

@[simp] theorem upsertChannel_none_ok {channel : ChannelRecord X} {n n' : Node X D} {u : Unit} :
    upsertChannel channel none n = (.ok u, n') ↔ { n with channel } = n' := by
  simp [upsertChannel]

theorem upsertChannel_some {channel : ChannelRecord X} {contract : Contract D} {n : Node X D} :
    upsertChannel channel (some contract) n =
      match n.contracts.updateContract X.toCrypto contract with
      | .ok contracts => (.ok (), { n with channel, contracts })
      | .error e => (.error e, n) := by
  rw [upsertChannel, Handler.read_bind]
  dsimp only
  cases n.contracts.updateContract X.toCrypto contract <;> rfl

@[simp] theorem upsertChannel_some_ok {channel : ChannelRecord X} {contract : Contract D}
    {n n' : Node X D} {u : Unit} :
    upsertChannel channel (some contract) n = (.ok u, n') ↔
      ∃ contracts, n.contracts.updateContract X.toCrypto contract = .ok contracts ∧
        { n with channel, contracts } = n' := by
  simp only [upsertChannel, Handler.bind_ok, Handler.read_ok, Handler.modify_ok]
  grind

theorem upsertChannel_channel {channel : ChannelRecord X} {contract : Option (Contract D)}
    {n n' : Node X D} {u : Unit} (stored : upsertChannel channel contract n = (.ok u, n')) :
    n'.channel = channel := by
  cases contract with
  | none => rw [← upsertChannel_none_ok.mp stored]
  | some contract =>
      obtain ⟨contracts, -, rfl⟩ := upsertChannel_some_ok.mp stored
      rfl

@[simp] theorem updateContract_ok {contract : Contract D} {n n' : Node X D} {u : Unit} :
    updateContract contract n = (.ok u, n') ↔
      ∃ contracts, n.contracts.updateContract X.toCrypto contract = .ok contracts ∧
        { n with contracts } = n' := by
  simp only [updateContract, Handler.bind_ok, Handler.read_ok, Handler.modify_ok]
  grind

@[simp] theorem createContract_ok {offered : OfferedContract D} {n n' : Node X D} {u : Unit} :
    createContract offered n = (.ok u, n') ↔
      { n with contracts := n.contracts.insert offered.id (.offered offered) } = n' := by
  simp [createContract]

@[simp] theorem persistChainMonitor_ok {n n' : Node X D} {u : Unit} :
    persistChainMonitor n = (.ok u, n') ↔
      { n with persistedChainMonitor := n.chainMonitor } = n' := by
  simp [persistChainMonitor]

@[simp] theorem broadcast_ok {env : Environment D} {sent : Sent} {n n' : Node X D} {u : Unit} :
    broadcast env sent n = (.ok u, n') ↔
      env.sendTransaction sent.tx = .ok u ∧ { n with sent := n.sent ++ [sent] } = n' := by
  simp [broadcast]

theorem broadcast_bind {env : Environment D} {sent : Sent} {f : Unit → NodeHandler X D α}
    {n : Node X D} :
    (broadcast env sent >>= f) n = match env.sendTransaction sent.tx with
      | .ok u => f u { n with sent := n.sent ++ [sent] }
      | .error e => (.error e, { n with sent := n.sent ++ [sent] }) := by
  rw [Handler.bind_apply, broadcast, Handler.modify_bind, Handler.lift]
  cases env.sendTransaction sent.tx <;> rfl

@[simp] theorem cleanupChannel_ok {channelId : ChannelId} {n n' : Node X D} {u : Unit} :
    cleanupChannel channelId n = (.ok u, n') ↔
      { n with chainMonitor := n.chainMonitor.cleanupChannel channelId } = n' := by
  simp [cleanupChannel]

end Effects

end Channels

end P2PLending.Manager
