import P2PLending.Channels.RevokedStates

/-! The refund of a renewed contract: it pays the collaterals with which the channel was
opened, whatever was settled and offered since. -/

namespace P2PLending.Manager.Channels
open Dlc Checked Relation

section Params
variable {X : ChannelCrypto} {signer : Signer} {E : SigningDescriptors} {W : Wire E.toDescriptors}
  {env : Environment E.toDescriptors} {may : SignedChannel X → Prop}
  {n n' : Node X E.toDescriptors} {out : Option (DlcMessage W.ContractInfo)}
  {own counter : PartyParams}

namespace Node

/-- The parties of the channel, as long as it is signed. -/
def HasParams (own counter : PartyParams) (n : Node X E.toDescriptors) : Prop :=
  ∀ ch, n.channel = .signed ch → ch.ownParams = own ∧ ch.counterParams = counter

theorem Moves.hasParams (moved : Moves X signer W n out n') (before : n.HasParams own counter) :
    n'.HasParams own counter := by
  intro ch' signed'
  cases moved with
  | rests | refuses => exact before ch' signed'
  | rollsBack signed state back =>
      cases signed'
      obtain ⟨_, -, rfl⟩ := rollBack_ok back
      have params := before _ signed
      exact params
  | closeAccepted => cases signed'
  | settleOffered signed | settleReceived signed | settleAccepted signed | settleConfirmed signed
  | settleFinalized signed | settled signed | renewOffered signed | renewReceived signed
  | renewAccepted signed | renewConfirmed signed | renewFinalized signed | renewRevoked signed
  | renewed signed | closeReceived signed | closeOffered signed =>
      cases signed'
      have params := before _ signed
      exact params

theorem Ticks.hasParams (tick : Ticks X signer env may n n') (before : n.HasParams own counter) :
    n'.HasParams own counter := by
  intro ch' signed'
  cases tick with
  | sendsCet | sendsPunishment | attempts | cleans | persists => exact before ch' signed'
  | closing signed _ start =>
      cases signed'
      cases start with
      | rest =>
          have params := before _ signed
          exact params
      | before _ back =>
          obtain ⟨_, -, rfl⟩ := rollBack_ok back
          have params := before _ signed
          exact params
  | bufferSeen signed =>
      cases signed'
      have params := before _ signed
      exact params
  | settledClosed | finalized | cetSeen => exact absurd signed' (closedRecord_unsigned ch')
  | punished | collaborative | settleSeen => cases signed'

theorem Turns.hasParams (turned : Turns X signer W env may n out n')
    (before : n.HasParams own counter) : n'.HasParams own counter := by
  cases turned with
  | moves moved => exact moved.hasParams before
  | fails same => exact fun ch signed => before ch (same.channel ▸ signed)
  | evolves evolved =>
      induction evolved with
      | refl => exact before
      | tail _ tick ih => exact tick.hasParams ih
  | follows | restarts => exact before

end Node

theorem History.run_hasParams {A : Type} {h h' : History X E.toDescriptors W.ContractInfo}
    {turns : List (Turn E.toDescriptors A W.ContractInfo)} (before : h.node.HasParams own counter)
    (run : Run (Step X signer W) h turns h') : h'.node.HasParams own counter := by
  refine run.invariant (fun h => h.node.HasParams own counter) before fun h turn h' before step => ?_
  have free : ∀ ch, h.node.channel = .signed ch → turn.ForceCloses ch → True :=
    fun _ _ _ => trivial
  obtain ⟨out, n, -, turned, rfl⟩ := step.turns free
  exact turned.hasParams before

end Params

section Refund
variable {X : ChannelCrypto} {signer : Signer} {E : SigningDescriptors} {W : Wire E.toDescriptors}
  {A : Type} {ch : SignedChannel X}

/-- What a refund pays to two parties, without dust. -/
def refundOutputs (offer accept : PartyParams) (offerCollateral acceptCollateral : ℕ) : List TxOut :=
  discardDust [⟨offerCollateral, offer.payoutScriptPubkey⟩,
    ⟨acceptCollateral, accept.payoutScriptPubkey⟩] dustLimit

theorem createCetsAndRefundTx_refund {offer accept : PartyParams} {outpoint : OutPoint}
    {payouts : List Payout} {refundLockTime cetLockTime : ℕ} {cetNsequence : Option ℕ}
    {cets : List Transaction} {refund : Transaction}
    (h : createCetsAndRefundTx offer accept outpoint payouts refundLockTime cetLockTime
      cetNsequence = .ok (cets, refund)) :
    refund.output = refundOutputs offer accept offer.collateral accept.collateral := by
  simp only [createCetsAndRefundTx, bind_eq_ok, pure_eq_ok] at h
  obtain ⟨_, _, _, _, rfl, rfl⟩ := h
  rfl

theorem renewalTransactions_refund {offered : OfferedContract E.toDescriptors}
    {acceptParams : PartyParams} {offerRevoke acceptRevoke : RevokeParams} {cetNsequence : ℕ}
    {txs : DlcChannelTransactions}
    (h : renewalTransactions X ch offered acceptParams offerRevoke acceptRevoke cetNsequence =
      .ok txs) :
    txs.dlcTransactions.refund.output = refundOutputs offered.offerParams acceptParams
      offered.offerParams.collateral acceptParams.collateral := by
  simp only [renewalTransactions, bind_eq_ok, ofDlc_eq_ok] at h
  obtain ⟨_, -, _, -, built⟩ := h
  obtain ⟨_, -, built⟩ := bind_eq_ok.mp built
  split at built
  next => cases built
  next =>
    simp only [bind_eq_ok, pure_eq_ok, Except.ok.injEq] at built
    obtain ⟨_, -, ⟨_, _⟩, paid, _, -, rfl⟩ := built
    exact createCetsAndRefundTx_refund paid

theorem acceptContract_refund {C : Crypto} {D : Descriptors} {offered : OfferedContract D}
    {acceptParams : PartyParams} {inputs : List FundingInput} {sk : SecretKey} {value : ℕ}
    {script : Option Bytes} {txs : DlcTransactions} {accepted : AcceptedContract D}
    {sigs : List AdaptorSignature}
    (h : Internal.acceptContract C offered acceptParams inputs sk value script txs =
      .ok (accepted, sigs)) : accepted.dlcTransactions.refund = txs.refund := by
  simp only [Internal.acceptContract, bind_eq_ok, Except.ok.injEq, Prod.mk.injEq] at h
  obtain ⟨_, -, _, -, _, -, _, -, _, -, _, -, rfl, -⟩ := h
  rfl

theorem verifyAcceptedAndSignContract_refund {C : Crypto} {D : Descriptors}
    {offered : OfferedContract D} {acceptParams : PartyParams} {inputs : List FundingInput}
    {refundSignature : Signature} {adaptorSigs : List AdaptorSignature} {value : ℕ}
    {contractSigner : ContractSigner} {script : Option Bytes} {counterPk : Option PublicKey}
    {txs : DlcTransactions} {channelId : Option Bytes32} {contract : SignedContract D}
    {sigs : List AdaptorSignature}
    (h : Internal.verifyAcceptedAndSignContract C offered acceptParams inputs refundSignature
      adaptorSigs value contractSigner script counterPk txs channelId = .ok (contract, sigs)) :
    contract.acceptedContract.dlcTransactions.refund = txs.refund := by
  simp only [Internal.verifyAcceptedAndSignContract, bind_eq_ok, Except.ok.injEq,
    Prod.mk.injEq] at h
  obtain ⟨_, -, _, -, _, -, _, -, rfl, -⟩ := h
  rfl

theorem renewOffer_params {offered : OfferedContract E.toDescriptors} {ch' : SignedChannel X}
    {now : ℕ} {input : ContractInput E.toDescriptors A}
    {announcements : List (List (OracleAnnouncement A))} {payout delay timeout nsequence serial : ℕ}
    {msg : RenewOffer W.ContractInfo}
    (h : renewOffer X signer now W ch input announcements payout delay timeout nsequence serial =
      .ok (ch', msg, offered)) : offered.offerParams = ch.ownParams := by
  simp only [renewOffer, OfferedContract.new, bind_eq_ok, Except.ok.injEq, Prod.mk.injEq] at h
  obtain ⟨_, -, _, ⟨_, -, _, -, _, -, _, -, rfl⟩, _, -, -, -, rfl⟩ := h
  rfl

theorem onRenewOffer_params {offered : OfferedContract E.toDescriptors} {ch' : SignedChannel X}
    {now timeout : ℕ} {msg : RenewOffer W.ContractInfo}
    (h : onRenewOffer X now W ch msg timeout = .ok (ch', offered)) :
    offered.offerParams = ch.counterParams := by
  unfold onRenewOffer receiveRenewOffer at h
  split at h
  next =>
    simp only [bind_eq_ok, Except.ok.injEq, Prod.mk.injEq] at h
    obtain ⟨_, -, _, -, -, rfl⟩ := h
    rfl
  next =>
    simp only [bind_eq_ok, Except.ok.injEq, Prod.mk.injEq] at h
    obtain ⟨_, -, _, -, -, rfl⟩ := h
    rfl
  next => cases h

end Refund

section Histories
variable (X : ChannelCrypto) {E : SigningDescriptors} (W : Wire E.toDescriptors) {A : Type}

/-- A channel that a party has reached. -/
def Reaches (signer : Signer) (start : History X E.toDescriptors W.ContractInfo)
    (ch : SignedChannel X) : Prop :=
  ∃ (turns : List (Turn E.toDescriptors A W.ContractInfo)) (h : History X E.toDescriptors _),
    Run (History.Step X signer W) start turns h ∧ h.node.channel = .signed ch

/-- A renewal between two parties: the one has proposed it with the input and has signed
the contract, the other one has accepted it, each at some points of its history. -/
inductive Renewed (proposing accepting : Signer)
    (start counterStart : History X E.toDescriptors W.ContractInfo)
    (input : ContractInput E.toDescriptors A) :
    SignedContract E.toDescriptors → AcceptedContract E.toDescriptors → Prop
  | mk {ch ch' chOffered chConfirmed counter counter' counterOffered counterAccepted offered
        received announcements payout delay timeout nsequence serial contract accepted
      offerTime receiptTime acceptTime confirmTime}
      {offer : RenewOffer W.ContractInfo} {accept : RenewAccept} {confirm : RenewConfirm}
      (reached : Reaches (A := A) X W proposing start ch)
      (offers : renewOffer X proposing offerTime W ch input announcements payout delay timeout
        nsequence serial = .ok (chOffered, offer, offered))
      (counterReached : Reaches (A := A) X W accepting counterStart counter)
      (receives : onRenewOffer X receiptTime W counter offer timeout = .ok (counterOffered, received))
      (counterReached' : Reaches (A := A) X W accepting counterStart counter')
      (accepts : acceptChannelRenewal X accepting acceptTime counter' received nsequence timeout =
        .ok (counterAccepted, accepted, accept))
      (reached' : Reaches (A := A) X W proposing start ch')
      (confirms : verifyRenewAcceptAndConfirm X proposing confirmTime accept ch' offered nsequence
        timeout = .ok (chConfirmed, contract, confirm)) :
      Renewed proposing accepting start counterStart input contract accepted

end Histories

section Pays
variable {X : ChannelCrypto} {E : SigningDescriptors} {W : Wire E.toDescriptors} {A : Type}
  {proposing accepting : Signer} {start counterStart : History X E.toDescriptors W.ContractInfo}
  {input : ContractInput E.toDescriptors A} {contract : SignedContract E.toDescriptors}
  {accepted : AcceptedContract E.toDescriptors} {own counter : PartyParams}

theorem Reaches.params {signer : Signer} {ch : SignedChannel X} (before : start.node.HasParams own counter)
    (reaches : Reaches (A := A) X W signer start ch) :
    ch.ownParams = own ∧ ch.counterParams = counter := by
  obtain ⟨turns, h, run, signed⟩ := reaches
  exact History.run_hasParams before run ch signed

/-- The refund that both sign pays the proposer and the other party the collaterals of the
input. -/
def PaysCollaterals (own counter : PartyParams) (input : ContractInput E.toDescriptors A)
    (contract : SignedContract E.toDescriptors) (accepted : AcceptedContract E.toDescriptors) : Prop :=
  contract.acceptedContract.dlcTransactions.refund.output =
      refundOutputs own counter input.offerCollateral input.acceptCollateral ∧
    accepted.dlcTransactions.refund.output =
      refundOutputs own counter input.offerCollateral input.acceptCollateral

/-- Between the parties of a channel the refund of every renewal pays what they put in when
the channel was opened. -/
theorem renewed_refund (before : start.node.HasParams own counter)
    (counterBefore : counterStart.node.HasParams counter own)
    (renewed : Renewed X W proposing accepting start counterStart input contract accepted) :
    contract.acceptedContract.dlcTransactions.refund.output =
        refundOutputs own counter own.collateral counter.collateral ∧
      accepted.dlcTransactions.refund.output =
        refundOutputs own counter own.collateral counter.collateral := by
  obtain ⟨reached, offers, counterReached, receives, counterReached', accepts, reached', confirms⟩ :=
    renewed
  constructor
  · obtain ⟨_, _, _, _, _, -, built, ⟨_, _, _, _, signs⟩, -⟩ := verifyRenewAcceptAndConfirm_ok confirms
    rw [verifyAcceptedAndSignContract_refund signs, renewalTransactions_refund built,
      renewOffer_params offers, (reached.params before).1, (reached'.params before).2]
  · obtain ⟨_, _, _, _, -, -, built, ⟨_, _, _, signs⟩, -⟩ := acceptChannelRenewal_ok accepts
    rw [acceptContract_refund signs, renewalTransactions_refund built, onRenewOffer_params receives,
      (counterReached.params counterBefore).2, (counterReached'.params counterBefore).1]

/-- So it pays the collaterals of the input exactly when, without dust, these are the
collaterals of the opening. -/
theorem renewed_refund_iff (before : start.node.HasParams own counter)
    (counterBefore : counterStart.node.HasParams counter own)
    (renewed : Renewed X W proposing accepting start counterStart input contract accepted) :
    PaysCollaterals own counter input contract accepted ↔
      refundOutputs own counter input.offerCollateral input.acceptCollateral =
        refundOutputs own counter own.collateral counter.collateral := by
  obtain ⟨signed, agreed⟩ := renewed_refund before counterBefore renewed
  rw [PaysCollaterals, signed, agreed, and_self]
  exact eq_comm

end Pays

section Sample
variable (input : ContractInput channelSigning.toDescriptors Unit)

/-- The four steps of a renewal, from the channels of the two parties before and after the
offer. -/
def sampleRenewal (ch counter counter' ch' : SignedChannel sampleChannelCrypto) :
    Result (SignedContract channelSigning.toDescriptors ×
      AcceptedContract channelSigning.toDescriptors) := do
  let (_, offer, offered) ← renewOffer sampleChannelCrypto (sampleSigner 1) 1000 sampleWire ch input
    [[⟨5000, ()⟩]] input.acceptCollateral refundDelay peerTimeout cetNsequence 9
  let (_, received) ← onRenewOffer sampleChannelCrypto 1000 sampleWire counter offer peerTimeout
  let (_, accepted, accept) ← acceptChannelRenewal sampleChannelCrypto (sampleSigner 2) 1000
    counter' received cetNsequence peerTimeout
  let (_, contract, _) ← verifyRenewAcceptAndConfirm sampleChannelCrypto (sampleSigner 1) 1000 accept
    ch' offered cetNsequence peerTimeout
  .ok (contract, accepted)

/-- The first party after its offer. -/
def sampleProposed (h : SampleHistory) : SampleHistory :=
  sampleNext 1 (.call 77 (.renewOffer input.acceptCollateral input (.ok [[⟨5000, ()⟩]]))) h

/-- The second party after it has received the last message of the first one. -/
def sampleHeardOffer (h k : SampleHistory) (after : ℕ) : SampleHistory :=
  sampleHears 2 (sampleMessages (sampleProposed input h) after) k

/-- The outcome of a renewal between two parties. -/
def sampleOutcome (h k : SampleHistory) (after : ℕ) :
    Result (SignedContract channelSigning.toDescriptors ×
      AcceptedContract channelSigning.toDescriptors) :=
  match h.node.channel, k.node.channel, (sampleHeardOffer input h k after).node.channel,
    (sampleProposed input h).node.channel with
  | .signed ch, .signed counter, .signed counter', .signed ch' =>
      sampleRenewal input ch counter counter' ch'
  | _, _, _, _ => .error (.panic "no channel")

variable {input}

theorem sample_renewed {h k : SampleHistory} {after : ℕ}
    {contract : SignedContract channelSigning.toDescriptors}
    {accepted : AcceptedContract channelSigning.toDescriptors}
    (run : ∃ turns, SampleRun 1 turns h) (counterRun : ∃ turns, SampleRun 2 turns k)
    (done : sampleOutcome input h k after = .ok (contract, accepted)) :
    Renewed sampleChannelCrypto sampleWire (sampleSigner 1) (sampleSigner 2) (sampleStart 1)
      (sampleStart 2) input contract accepted := by
  have proposed : ∃ turns, SampleRun 1 turns (sampleProposed input h) := by
    obtain ⟨turns, run⟩ := run
    exact ⟨_, run.snoc rfl⟩
  have received := sampleHears_run (sampleMessages (sampleProposed input h) after) counterRun
  have reaches : ∀ {party : ℕ} {h : SampleHistory} {ch : SignedChannel sampleChannelCrypto},
      (∃ turns, SampleRun party turns h) → h.node.channel = .signed ch →
        Reaches (A := Unit) sampleChannelCrypto sampleWire (sampleSigner party) (sampleStart party) ch :=
    fun ⟨turns, run⟩ signed => ⟨turns, _, run, signed⟩
  unfold sampleOutcome at done
  split at done
  next ch counter counter' ch' signed counterSigned counterSigned' signed' =>
    simp only [sampleRenewal, bind_eq_ok, Except.ok.injEq, Prod.mk.injEq] at done
    obtain ⟨⟨_, offer, offered⟩, offers, ⟨_, received'⟩, receives, ⟨_, accepted, accept⟩, accepts,
      ⟨_, contract, _⟩, confirms, rfl, rfl⟩ := done
    exact .mk (reaches run signed) offers (reaches counterRun counterSigned) receives
      (reaches received counterSigned') accepts (reaches proposed signed') confirms
  next => cases done

theorem sampleStart_params (party : ℕ) : (sampleStart party).node.HasParams (samplePartyParams party)
    (samplePartyParams (3 - party)) := by
  rintro ch ⟨⟩
  exact ⟨rfl, rfl⟩

end Sample

def sampleInput (offerCollateral acceptCollateral : ℕ) :
    ContractInput channelSigning.toDescriptors Unit where
  offerCollateral
  acceptCollateral
  feeRate := 1
  contractInfos := [⟨fun _ _ => sampleContractInfo, ⟨[], 1⟩⟩]

/-- A renewal at the collaterals of the opening has the refund that pays them. -/
theorem first_renewal_pays : ∃ contract accepted, PaysCollaterals (samplePartyParams 1)
    (samplePartyParams 2) (sampleInput 100000000 100000000) contract accepted := by
  have renews : (match sampleOutcome (sampleInput 100000000 100000000) (sampleStart 1)
      (sampleStart 2) 0 with
      | .ok _ => true
      | .error _ => false) = true := by decide +kernel
  split at renews
  next outcome done =>
    exact ⟨outcome.1, outcome.2, (renewed_refund_iff (sampleStart_params 1) (sampleStart_params 2)
      (sample_renewed ⟨_, .nil⟩ ⟨_, .nil⟩ done)).mpr rfl⟩
  next => cases renews

/-! A settlement moves 40 of the second party's 100 millions to the first one. -/

def sampleCounterSettled : SampleHistory :=
  sampleHears 2 (sampleMessages sampleSettling 1) sampleAccepted

def sampleSettled : SampleHistory :=
  sampleHears 1 (sampleMessages sampleCounterSettled 1) sampleSettling

/-- The refund of the renewal at the settled balances gives them back. -/
theorem refund_undoes_settlement : ∃ contract accepted,
    Renewed sampleChannelCrypto sampleWire (sampleSigner 1) (sampleSigner 2) (sampleStart 1)
      (sampleStart 2) (sampleInput 140000000 60000000) contract accepted ∧
      ¬ PaysCollaterals (samplePartyParams 1) (samplePartyParams 2)
        (sampleInput 140000000 60000000) contract accepted := by
  have renews : (match sampleOutcome (sampleInput 140000000 60000000) sampleSettled
      sampleCounterSettled 2 with
      | .ok (contract, _) => decide (contract.acceptedContract.dlcTransactions.refund.output ≠
          refundOutputs (samplePartyParams 1) (samplePartyParams 2) 140000000 60000000)
      | .error _ => false) = true := by decide +kernel
  have offered : ∃ turns, SampleRun 1 turns sampleOffered := ⟨_, Run.nil.snoc rfl⟩
  have settling := sampleHears_run (sampleMessages sampleAccepted 0) offered
  have settled := sampleHears_run (sampleMessages sampleCounterSettled 1) settling
  have begun : ∃ turns, SampleRun 2 turns (sampleStart 2) := ⟨_, Run.nil⟩
  have heard := sampleHears_run (sampleMessages sampleOffered 0) begun
  have accepted : ∃ turns, SampleRun 2 turns sampleAccepted := by
    obtain ⟨turns, run⟩ := heard
    exact ⟨_, run.snoc (a := sampleTurn (.call 77 .acceptSettleOffer)) rfl⟩
  have counterSettled := sampleHears_run (sampleMessages sampleSettling 1) accepted
  split at renews
  next contract accepted done =>
    exact ⟨contract, accepted, sample_renewed settled counterSettled done,
      fun pays => of_decide_eq_true renews pays.1⟩
  next => cases renews

end P2PLending.Manager.Channels
