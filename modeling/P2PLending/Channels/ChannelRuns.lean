import P2PLending.Channels.ChannelOutcomes
import P2PLending.Foundation.Runs

/-! The life of a node with its channel: one event after the other, and the messages
and transactions that have left the node. -/

namespace P2PLending.Manager.Channels
open Dlc Checked Relation

/-- An event, with the answers that the calls it makes get. -/
structure Turn (D : Descriptors) (A M : Type) where
  env : Environment D
  event : Event D A M

/-- What leaves a node. -/
inductive Output (M : Type)
  | message (msg : DlcMessage M)
  | broadcast (sent : Sent)

/-- A node and all that has left it, the newest last. Its own list of sent transactions
is that of the last event. -/
structure History (X : ChannelCrypto) (D : Descriptors) (M : Type) where
  node : Node X D
  log : List (Output M)

/-- The message that answers an event. -/
def answer {M : Type} : Result (Option M) → Option M
  | .ok out => out
  | .error _ => none

section Turns
variable (X : ChannelCrypto) (signer : Signer) {E : SigningDescriptors} (W : Wire E.toDescriptors)
  {A : Type}

namespace History
variable (turn : Turn E.toDescriptors A W.ContractInfo)
  (h : History X E.toDescriptors W.ContractInfo)

/-- The event happens to a node that has not sent anything yet. -/
def ran : Result (Option (DlcMessage W.ContractInfo)) × Node X E.toDescriptors :=
  Node.onEvent X signer W turn.env turn.event { h.node with sent := [] }

def next : History X E.toDescriptors W.ContractInfo where
  node := (h.ran X signer W turn).2
  log := h.log ++ (h.ran X signer W turn).2.sent.map .broadcast ++
    (answer (h.ran X signer W turn).1).toList.map .message

def Step (h : History X E.toDescriptors W.ContractInfo)
    (turn : Turn E.toDescriptors A W.ContractInfo)
    (h' : History X E.toDescriptors W.ContractInfo) : Prop :=
  h' = h.next X signer W turn

end History

/-- A channel that an event may force to close: by a call, or by its time-out. -/
def Turn.ForceCloses {X : ChannelCrypto} {D : Descriptors} {A M : Type} (turn : Turn D A M)
    (ch : SignedChannel X) : Prop :=
  (∃ channelId, turn.event = .call channelId .forceCloseChannel) ∨
    turn.event = .channelChecks ∧ ∃ t, ch.state.timeout? = some t ∧ t < turn.env.unixTimeNow

/-- The blocks of a chain monitor, one after the other. -/
def Follows (C : Crypto) : ChainMonitor → ChainMonitor → Prop :=
  ReflTransGen fun m m' => ∃ txdata height, m.processBlock C txdata height = .ok m'

/-- What an event does to a node. -/
inductive Node.Turns (env : Environment E.toDescriptors) (may : SignedChannel X → Prop)
    (n : Node X E.toDescriptors) :
    Option (DlcMessage W.ContractInfo) → Node X E.toDescriptors → Prop
  | moves {out n'} (moved : Moves X signer W n out n') : Turns env may n out n'
  | fails {n'} (same : SameRecords n n') : Turns env may n none n'
  | evolves {n'} (evolved : Evolves X signer env may n n') : Turns env may n none n'
  | follows {m} (blocks : Follows X.toCrypto n.chainMonitor m) :
      Turns env may n none { n with chainMonitor := m }
  | restarts : Turns env may n none { n with chainMonitor := n.persistedChainMonitor }

end Turns

namespace Node
variable {X : ChannelCrypto} {signer : Signer} {E : SigningDescriptors} {W : Wire E.toDescriptors}
  {A : Type} {env : Environment E.toDescriptors} {may : SignedChannel X → Prop}
  {n : Node X E.toDescriptors}

theorem then_none {M : Type} (h : NodeHandler X E.toDescriptors Unit) (n : Node X E.toDescriptors) :
    answer ((h >>= fun _ => (pure none : NodeHandler X E.toDescriptors (Option M))) n).1 = none ∧
      ((h >>= fun _ => (pure none : NodeHandler X E.toDescriptors (Option M))) n).2 = (h n).2 := by
  rw [Handler.bind_apply]
  match h n with
  | (.ok _, n') => exact ⟨rfl, rfl⟩
  | (.error _, n') => exact ⟨rfl, rfl⟩

theorem periodicChainMonitor_follows (blocks : List (List Transaction))
    (n : Node X E.toDescriptors) :
    ∃ m, Follows X.toCrypto n.chainMonitor m ∧
      (periodicChainMonitor X blocks n).2 = { n with chainMonitor := m } := by
  induction blocks generalizing n with
  | nil => exact ⟨n.chainMonitor, .refl, rfl⟩
  | cons txdata blocks ih =>
      rw [periodicChainMonitor, Handler.read_bind]
      match processed :
          n.chainMonitor.processBlock X.toCrypto txdata (n.chainMonitor.lastHeight + 1) with
      | .error e => exact ⟨n.chainMonitor, .refl, rfl⟩
      | .ok m =>
          dsimp only
          rw [Handler.modify_bind]
          obtain ⟨m', follows, same⟩ := ih { n with chainMonitor := m }
          exact ⟨m', .head ⟨txdata, _, processed⟩ follows, same⟩

/-- A handler whose successes are moves and whose faults leave the records. -/
theorem turns_of_moves {h : NodeHandler X E.toDescriptors (Option (DlcMessage W.ContractInfo))}
    (moves : ∀ out n', h n = (.ok out, n') → Moves X signer W n out n')
    (fails : Handler.FailsIn SameRecords h) :
    Turns X signer W env may n (answer (h n).1) (h n).2 := by
  match ran : h n with
  | (.ok out, n') => exact .moves (moves out n' ran)
  | (.error e, n') => exact .fails (fails n e n' ran)

theorem onEvent_turns (turn : Turn E.toDescriptors A W.ContractInfo)
    (allowed : ∀ ch, n.channel = .signed ch → turn.ForceCloses ch → may ch) :
    Turns X signer W turn.env may n (answer (onEvent X signer W turn.env turn.event n).1)
      (onEvent X signer W turn.env turn.event n).2 := by
  obtain ⟨env, event⟩ := turn
  cases event with
  | message peer msg =>
      exact turns_of_moves (fun _ _ ran => onDlcMessage_moves ran) onDlcMessage_fails
  | call channelId call =>
      by_cases closes : call = .forceCloseChannel
      · subst closes
        obtain ⟨none, same⟩ := then_none (M := DlcMessage W.ContractInfo)
          (forceCloseChannel X signer env channelId) n
        rw [onEvent, onCall, none, same]
        exact .evolves (forceCloseChannel_evolves fun ch signed =>
          allowed ch signed (.inl ⟨channelId, rfl⟩))
      · exact turns_of_moves (fun _ _ ran => onCall_moves closes ran) (onCall_fails closes)
  | channelChecks =>
      obtain ⟨none, same⟩ := then_none (M := DlcMessage W.ContractInfo)
        (channelChecks X signer env) n
      rw [onEvent, none, same]
      exact .evolves (channelChecks_evolves fun ch t signed timed passed =>
        allowed ch signed (.inr ⟨rfl, t, timed, passed⟩))
  | periodicChainMonitor blocks =>
      obtain ⟨none, same⟩ := then_none (M := DlcMessage W.ContractInfo)
        (periodicChainMonitor X blocks) n
      obtain ⟨m, follows, processed⟩ := periodicChainMonitor_follows blocks n
      rw [onEvent, none, same, processed]
      exact .follows follows
  | restart => exact .restarts

end Node

/-! Every update of a channel starts from a state at rest, which it keeps to go back to. -/

namespace SignedChannelState

def atRest : SignedChannelState → Bool
  | established _ | settled _ => true
  | _ => false

def inUpdate : SignedChannelState → Bool
  | settledOffered _ | settledReceived _ | settledAccepted _ | settledConfirmed _ | renewOffered _
  | renewAccepted _ | renewConfirmed _ | renewFinalized _ => true
  | _ => false

end SignedChannelState

def SignedChannel.Rested {X : ChannelCrypto} (ch : SignedChannel X) : Prop :=
  ch.state.inUpdate = true → ∃ b, ch.rollBackState = some b ∧ b.atRest = true

namespace Node
variable {X : ChannelCrypto} {signer : Signer} {E : SigningDescriptors} {W : Wire E.toDescriptors}
  {env : Environment E.toDescriptors} {may : SignedChannel X → Prop}
  {n n' : Node X E.toDescriptors} {ch : SignedChannel X} {out : Option (DlcMessage W.ContractInfo)}

def Rested (n : Node X E.toDescriptors) : Prop := ∀ ch, n.channel = .signed ch → ch.Rested

theorem rested_enter {state : SignedChannelState} (rest : ch.state.atRest = true) :
    (ch.enter state).Rested := fun _ => ⟨ch.state, rfl, rest⟩

/-- The next state of the same update keeps the state to go back to. -/
theorem rested_next {ch' : SignedChannel X} (before : ch.Rested) (update : ch.state.inUpdate = true)
    (kept : ch'.rollBackState = ch.rollBackState) : ch'.Rested :=
  fun _ => kept ▸ before update

theorem rollBack_atRest {ch' : SignedChannel X} (before : ch.Rested)
    (update : ch.state.inUpdate = true) (back : ch.rollBack = .ok ch') :
    ch'.state.atRest = true := by
  obtain ⟨b, kept, rest⟩ := before update
  obtain ⟨state, same, rfl⟩ := rollBack_ok back
  rw [kept, Option.some.injEq] at same
  exact same ▸ rest

theorem rested_of_atRest (rest : ch.state.atRest = true) : ch.Rested := by
  intro update
  cases state : ch.state <;>
    simp [state, SignedChannelState.atRest, SignedChannelState.inUpdate] at rest update

/-- A move sends at most the transaction of a close. -/
theorem Moves.sent (moved : Moves X signer W n out n') (b : Sent) (sent : b ∈ n'.sent) :
    b ∈ n.sent ∨ ∃ tx, b = .close tx := by
  cases moved with
  | closeAccepted =>
      rcases List.mem_append.mp sent with old | new
      · exact .inl old
      · exact .inr ⟨_, List.mem_singleton.mp new⟩
  | rests | refuses | settleOffered | settleReceived | settleAccepted | settleConfirmed
  | settleFinalized | settled | renewOffered | renewReceived | renewAccepted | renewConfirmed
  | renewFinalized | renewRevoked | renewed | rollsBack | closeReceived | closeOffered =>
      exact .inl sent

theorem Moves.rested (moved : Moves X signer W n out n') (before : n.Rested) : n'.Rested := by
  intro ch' signed'
  cases moved with
  | rests | refuses => exact before ch' signed'
  | settleOffered signed state | settleReceived signed state =>
      cases signed'
      exact rested_enter (by rw [state]; rfl)
  | renewOffered signed state | renewReceived signed state =>
      cases signed'
      rcases state with ⟨s, state⟩ | ⟨s, state⟩ <;> exact rested_enter (by rw [state]; rfl)
  | settleAccepted signed state | settleConfirmed signed state | renewAccepted signed state
  | renewConfirmed signed state | renewFinalized signed state =>
      cases signed'
      exact rested_next (before _ signed) (by rw [state]; rfl) rfl
  | settleFinalized | settled | renewRevoked | renewed =>
      cases signed'
      exact rested_of_atRest rfl
  | rollsBack signed state back =>
      cases signed'
      refine rested_of_atRest (rollBack_atRest (before _ signed) ?_ back)
      rcases state with ⟨s, state⟩ | ⟨s, state⟩ | ⟨s, state⟩ <;> rw [state] <;> rfl
  | closeReceived | closeOffered =>
      cases signed'
      intro update
      cases update
  | closeAccepted => cases signed'

theorem Ticks.rested (tick : Ticks X signer env may n n') (before : n.Rested) : n'.Rested := by
  intro ch' signed'
  cases tick with
  | sendsCet | sendsPunishment | attempts | cleans | persists => exact before ch' signed'
  | closing | bufferSeen =>
      cases signed'
      intro update
      cases update
  | settledClosed | finalized | cetSeen => exact absurd signed' (closedRecord_unsigned ch')
  | punished | collaborative | settleSeen => cases signed'

/-- The channel is as it was, or it is on its way to be closed. -/
theorem Evolves.still (evolved : Evolves X signer env may n n') :
    n'.channel = n.channel ∨ ∀ ch, n'.channel = .signed ch → ∃ s, ch.state = .closing s := by
  induction evolved with
  | refl => exact .inl rfl
  | tail _ tick ih =>
      cases tick with
      | sendsCet | sendsPunishment | attempts | cleans | persists => exact ih
      | closing | bufferSeen =>
          refine .inr fun ch' signed' => ?_
          cases signed'
          exact ⟨_, rfl⟩
      | settledClosed | finalized | cetSeen =>
          exact .inr fun ch' signed' => absurd signed' (closedRecord_unsigned ch')
      | punished | collaborative | settleSeen =>
          refine .inr fun ch' signed' => ?_
          cases signed'

theorem Evolves.rested (evolved : Evolves X signer env may n n') (before : n.Rested) :
    n'.Rested := by
  induction evolved with
  | refl => exact before
  | tail _ tick ih => exact tick.rested ih

theorem Turns.rested (turned : Turns X signer W env may n out n') (before : n.Rested) :
    n'.Rested := by
  cases turned with
  | moves moved => exact moved.rested before
  | fails same => exact fun ch signed => before ch (same.channel ▸ signed)
  | evolves evolved => exact evolved.rested before
  | follows | restarts => exact before

end Node

namespace History
variable {X : ChannelCrypto} {signer : Signer} {E : SigningDescriptors} {W : Wire E.toDescriptors}
  {A : Type} {may : SignedChannel X → Prop} {h h' : History X E.toDescriptors W.ContractInfo}

/-- A step of a history is a turn of its node, and what the turn sends and answers is
added to the log. -/
theorem Step.turns {turn : Turn E.toDescriptors A W.ContractInfo} (step : Step X signer W h turn h')
    (allowed : ∀ ch, h.node.channel = .signed ch → turn.ForceCloses ch → may ch) :
    ∃ out n, answer (h.ran X signer W turn).1 = out ∧
      Node.Turns X signer W turn.env may { h.node with sent := [] } out n ∧
      h' = ⟨n, h.log ++ n.sent.map .broadcast ++ out.toList.map .message⟩ := by
  obtain rfl : h' = h.next X signer W turn := step
  exact ⟨_, _, rfl, Node.onEvent_turns turn allowed, rfl⟩

theorem Step.rested {turn : Turn E.toDescriptors A W.ContractInfo}
    (step : Step X signer W h turn h') (before : h.node.Rested) : h'.node.Rested := by
  have free : ∀ ch, h.node.channel = .signed ch → turn.ForceCloses ch → True :=
    fun _ _ _ => trivial
  obtain ⟨out, n, -, turned, rfl⟩ := step.turns free
  exact turned.rested before

theorem rested_run {turns : List (Turn E.toDescriptors A W.ContractInfo)}
    (before : h.node.Rested) (run : Run (Step X signer W) h turns h') : h'.node.Rested :=
  run.invariant (fun h => h.node.Rested) before fun _ _ _ rested step => step.rested rested

end History

/-! Two parties in a channel, for the samples. A public key is its secret key, a
signature the pair of its key and its message, and a hash a number in base 257. -/

def numberOf (b : Bytes) : ℕ := b.foldl (fun n x => 257 * n + x.toNat + 1) 0

def publicKeyOf (sk : SecretKey) : PublicKey := ⟨⟨sk.val, Dlc.bytes32_lt_publicKey sk⟩⟩

def secretKeyOf (pk : PublicKey) : SecretKey := Fin.ofNat _ pk.code.val

def channelHash (b : Bytes) : Bytes32 := Fin.ofNat _ (numberOf b)

def numberOfTx (tx : Transaction) : ℕ :=
  let inputs := tx.input.foldl (fun n i =>
    257 * n + i.previousOutput.txid.val + i.previousOutput.vout + i.sequence) tx.lockTime
  tx.output.foldl (fun n o => 257 * (257 * n + o.value) + numberOf o.scriptPubkey) inputs

def channelSignatureHash (_hashType : UInt8) (tx : Transaction) (index : ℕ) (script : Bytes)
    (value : ℕ) : Message :=
  Fin.ofNat _ (257 * (257 * (257 * numberOfTx tx + index) + numberOf script) + value)

def channelAdaptor : AdaptorCrypto where
  sha256 := channelHash
  txid tx := Fin.ofNat _ (numberOfTx tx)
  p2wshSignatureHash := channelSignatureHash
  publicKey := publicKeyOf
  parsePublicKey b := some ⟨Fin.ofNat _ (beValue b)⟩
  signEcdsa m sk := signatureOf (sk, m)
  verifyEcdsa m s k := (signatureOf.symm s).2 = m ∧ publicKeyOf (signatureOf.symm s).1 = k
  serializeDer s := beBytes 64 s.val
  parseDer b := some (Fin.ofNat _ (beValue b))
  decrypt sig secret :=
    if sig.drop 65 = (publicKeyOf secret).serialize then
      some (signatureOf (Fin.ofNat _ (beValue ((sig.drop 32).take 33)),
        Fin.ofNat _ (beValue (sig.take 32))))
    else none
  validNonce _ := true
  encrypt msg sk point := msg.toBytes ++ ((publicKeyOf sk).serialize ++ point.serialize)
  verifyAdaptor sig msg signer point := sig = msg.toBytes ++ (signer.serialize ++ point.serialize)
  sigPoint _ _ msg := some ⟨⟨msg.val, Dlc.bytes32_lt_publicKey msg⟩⟩
  combineKeys keys := keys.head?

def revokeParamsBytes (p : RevokeParams) : Bytes :=
  p.ownPk.serialize ++ p.publishPk.serialize ++ p.revokePk.serialize

/-- The signatures of the first of some sets of keys that are all there, with the code. -/
def satisfyWith (code : Bytes) (paths : List (List PublicKey)) (sigs : List (PublicKey × Bytes)) :
    Option (List Bytes) :=
  (paths.findSome? fun path => path.mapM fun key => (sigs.find? (·.1 = key)).map Prod.snd).map
    (· ++ [code])

def lockedBy (code : Bytes) : Bytes := toP2wsh channelAdaptor.toCrypto code

def sampleBufferDescriptor : Descriptor (RevokeParams × RevokeParams) :=
  let code (keys : RevokeParams × RevokeParams) :=
    revokeParamsBytes keys.1 ++ revokeParamsBytes keys.2
  { scriptPubkey := fun keys => lockedBy (code keys)
    scriptCode := fun keys => .ok (code keys)
    satisfy := fun keys => satisfyWith (code keys)
      [[keys.1.ownPk, keys.2.ownPk], [keys.1.ownPk, keys.2.publishPk, keys.2.revokePk],
        [keys.2.ownPk, keys.1.publishPk, keys.1.revokePk]] }

def sampleSettleDescriptor : Descriptor SettleKeys :=
  let code (keys : SettleKeys) :=
    revokeParamsBytes keys.payee ++ keys.counterPk.serialize ++ beBytes 4 keys.csvTimelock
  { scriptPubkey := fun keys => lockedBy (code keys)
    scriptCode := fun keys => .ok (code keys)
    satisfy := fun keys => satisfyWith (code keys)
      [[keys.payee.ownPk], [keys.counterPk, keys.payee.publishPk, keys.payee.revokePk]] }

def sampleChannelCrypto : ChannelCrypto where
  toAdaptorCrypto := channelAdaptor
  derivePublicKey point base := publicKeyOf (Fin.ofNat _ (base.code.val + 1000 * point.code.val))
  derivePrivateKey point base := Fin.ofNat _ (base.val + 1000 * point.code.val)
  derivePublicRevocationKey point base :=
    publicKeyOf (Fin.ofNat _ (7 * base.code.val + 13 * point.code.val))
  derivePrivateRevocationKey secret base := Fin.ofNat _ (7 * base.val + 13 * secret.val)
  buildCommitmentSecret seed idx := Fin.ofNat _ (2 ^ 64 * seed.val + idx + 1)
  recover sig signature point :=
    if channelAdaptor.decrypt sig (secretKeyOf point) = some signature then some (secretKeyOf point)
    else none
  bufferDescriptor := sampleBufferDescriptor
  settleDescriptor := sampleSettleDescriptor
  Secrets := List (ℕ × SecretKey)
  provideSecret secrets idx secret := some ((idx, secret) :: secrets)
  getSecret secrets idx := (secrets.find? (·.1 = idx)).map Prod.snd

abbrev channelSigning : SigningDescriptors :=
  Infos.signingDescriptors channelAdaptor Infos.sampleNumerics id

/-- Contracts travel as they are. -/
def sampleWire : Wire channelSigning.toDescriptors where
  ContractInfo := List channelSigning.ContractInfo
  ofOffered offered := offered.contractInfo
  getContractInfo := .ok

/-- A party's secrets, numbered from its own number on. -/
def partySecret (party i : ℕ) : SecretKey := Fin.ofNat _ (100 * party + i)

def sampleSigner (party : ℕ) : Signer where
  getSecretKeyForPubkey pk :=
    if 100 * party ≤ pk.code.val ∧ pk.code.val < 100 * party + 10 then .ok (secretKeyOf pk)
    else .error (.err .secpError)
  deriveContractSigner _ :=
    .ok ⟨.ok (publicKeyOf (partySecret party 1)), .ok (partySecret party 1)⟩

def samplePartyParams (party : ℕ) : PartyParams :=
  { sampleParty (publicKeyOf (partySecret party 1)) (if party = 1 then sampleSpk₁ else sampleSpk₂)
    with payoutSerialId := party }

def samplePoints (party : ℕ) : PartyBasePoints where
  ownBasepoint := publicKeyOf (partySecret party 2)
  revocationBasepoint := publicKeyOf (partySecret party 3)
  publishBasepoint := publicKeyOf (partySecret party 4)

def initialUpdateIdx : ℕ := 2 ^ 48 - 1

def perUpdateSecret (party idx : ℕ) : SecretKey :=
  sampleChannelCrypto.buildCommitmentSecret (partySecret party 5) idx

def perUpdatePoint (party idx : ℕ) : PublicKey := publicKeyOf (perUpdateSecret party idx)

def sampleRevokeParams (party counter idx : ℕ) : RevokeParams :=
  (samplePoints party).getRevokableParams sampleChannelCrypto (perUpdatePoint party idx)
    (samplePoints counter).revocationBasepoint

def sampleChannelFund : Transaction where
  lockTime := 0
  input := []
  output := [⟨200010000, lockedBy sampleScript⟩]

/-- The buffer transaction that the first party has offered. -/
def sampleBuffer : Transaction where
  lockTime := 0
  input := [⟨⟨sampleChannelFund.computeTxid channelAdaptor.toCrypto, 0⟩, [], disableLocktime, []⟩]
  output := [⟨200005000, lockedBy (revokeParamsBytes (sampleRevokeParams 1 2 initialUpdateIdx) ++
    revokeParamsBytes (sampleRevokeParams 2 1 initialUpdateIdx))⟩]

/-- The adaptor signature of a party for the buffer transaction, which the other completes. -/
def sampleBufferSignature (party counter : ℕ) : AdaptorSignature :=
  channelAdaptor.encrypt (channelSignatureHash sighashAll sampleBuffer 0 sampleScript 200010000)
    (partySecret party 1) (sampleRevokeParams counter party initialUpdateIdx).publishPk

def sampleChannel (party counter : ℕ) : SignedChannel sampleChannelCrypto where
  channelId := 77
  counterParty := publicKeyOf (partySecret counter 0)
  temporaryChannelId := 76
  ownParams := samplePartyParams party
  ownPoints := samplePoints party
  ownPerUpdatePoint := perUpdatePoint party initialUpdateIdx
  ownPerUpdateSeed := publicKeyOf (partySecret party 5)
  counterPoints := samplePoints counter
  counterPerUpdatePoint := perUpdatePoint counter initialUpdateIdx
  counterParams := samplePartyParams counter
  state := .established
    { signedContractId := 5
      counterBufferAdaptorSignature := sampleBufferSignature counter party
      ownBufferAdaptorSignature := sampleBufferSignature party counter
      bufferTransaction := sampleBuffer
      isOffer := party = 1
      totalCollateral := 200000000
      keysId := 3 }
  updateIdx := initialUpdateIdx
  fundTx := sampleChannelFund
  fundScriptPubkey := sampleScript
  fundOutputIndex := 0
  rollBackState := none
  counterPartyCommitmentSecrets := ([] : List (ℕ × SecretKey))
  feeRatePerVb := 1

def sampleMonitor : ChainMonitor where
  watchedTx := Function.update (fun _ => none) (sampleBuffer.computeTxid channelAdaptor.toCrypto)
    (some (.registered ⟨77, .bufferTx⟩))
  watchedTxo := Function.update (fun _ => none) ⟨sampleBuffer.computeTxid channelAdaptor.toCrypto, 0⟩
    (some (.registered ⟨77, .cet⟩))
  lastHeight := 100

def sampleChannelEnv : Environment channelSigning.toDescriptors where
  unixTimeNow := 1000
  sendTransaction _ := .ok ()
  getTransactionConfirmations _ := .ok 0
  getClosableContractInfo _ := none
  confirmedTxs _ := []
  getNewAddress := .ok sampleSpk₁
  getNewSerialId := 9
  getEstSatPer1000Weight := 250

def sampleContractInfo : channelSigning.ContractInfo :=
  Infos.sampleEnumInfo 21 ⟨200000000, 0⟩ ⟨0, 200000000⟩

/-- The contract of the buffer transaction, in the store of a party. -/
def sampleChannelContract (party : ℕ) : SignedContract channelSigning.toDescriptors where
  acceptedContract := {
    offeredContract := {
      id := 4
      isOfferParty := party = 1
      contractInfo := [sampleContractInfo]
      counterParty := publicKeyOf (partySecret (3 - party) 0)
      offerParams := samplePartyParams 1
      totalCollateral := 200000000
      fundingInputs := []
      fundOutputSerialId := 0
      feeRatePerVb := 1
      cetLocktime := 10
      refundLocktime := 100
      keysId := 3 }
    acceptParams := samplePartyParams 2
    fundingInputs := []
    adaptorInfos := [.enum]
    adaptorSignatures := none
    acceptRefundSignature := 0
    dlcTransactions := ⟨sampleBuffer, [], sampleRefund, sampleScript⟩ }
  adaptorSignatures := none
  offerRefundSignature := 0
  fundingSignatures := []
  channelId := some 77

abbrev SampleHistory :=
  History sampleChannelCrypto channelSigning.toDescriptors sampleWire.ContractInfo

abbrev SampleEvent := Event channelSigning.toDescriptors Unit sampleWire.ContractInfo

/-- The channel as the party with the number has it. -/
def sampleStart (party : ℕ) : SampleHistory where
  node :=
    { channel := .signed (sampleChannel party (3 - party))
      contracts := Function.update (fun _ => none) 5 (some (.confirmed (sampleChannelContract party)))
      chainMonitor := sampleMonitor
      persistedChainMonitor := sampleMonitor
      sent := [] }
  log := []

def sampleTurn (event : SampleEvent) :
    Turn channelSigning.toDescriptors Unit sampleWire.ContractInfo :=
  ⟨sampleChannelEnv, event⟩

def sampleNext (party : ℕ) (event : SampleEvent) (h : SampleHistory) : SampleHistory :=
  h.next sampleChannelCrypto (sampleSigner party) sampleWire (sampleTurn event)

/-- A party's messages, after the first ones. -/
def sampleMessages (h : SampleHistory) (after : ℕ) : List (DlcMessage sampleWire.ContractInfo) :=
  (h.log.filterMap fun | .message m => some m | .broadcast _ => none).drop after

/-- The messages arrive from the other party. -/
def sampleHears (party : ℕ) (messages : List (DlcMessage sampleWire.ContractInfo))
    (h : SampleHistory) : SampleHistory :=
  messages.foldl (fun h m => sampleNext party (.message (publicKeyOf (partySecret (3 - party) 0)) m) h) h

abbrev SampleRun (party : ℕ) :=
  Run (History.Step sampleChannelCrypto (sampleSigner party) sampleWire (A := Unit)) (sampleStart party)

theorem sampleHears_run {party : ℕ} {h : SampleHistory}
    (messages : List (DlcMessage sampleWire.ContractInfo)) (run : ∃ turns, SampleRun party turns h) :
    ∃ turns, SampleRun party turns (sampleHears party messages h) := by
  induction messages generalizing h with
  | nil => exact run
  | cons m messages ih =>
      obtain ⟨turns, run⟩ := run
      exact ih ⟨_, run.snoc rfl⟩

end P2PLending.Manager.Channels
