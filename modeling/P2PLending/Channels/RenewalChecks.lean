import P2PLending.Channels.ChannelRuns
import P2PLending.Manager.ContractMessages

/-! What the receipt of a renewal offer checks. A channel's first contract goes through
the checks of the channel offer and of the offered contract; a renewal is stored as it
comes, so these hold of it only when the offer itself is fair. -/

namespace P2PLending.Manager.Channels
open Dlc Checked Infos

def SignedChannel.collaterals {X : ChannelCrypto} (ch : SignedChannel X) : ℕ :=
  ch.ownParams.collateral + ch.counterParams.collateral

/-- The checks of an offered contract. -/
theorem validate_ok {D : Descriptors} {c : OfferedContract D} :
    c.validate = .ok () ↔ c.feeRatePerVb ≤ 25 * 250 ∧ ∀ info ∈ c.contractInfo,
      D.validate info = .ok () ∧ ∃ payouts, D.getPayouts info c.totalCollateral = .ok payouts ∧
        payoutsSumTo c.totalCollateral payouts = .ok true := by
  simp only [OfferedContract.validate, validateFeeRate, bind_eq_ok, ensure_eq_ok, forM_eq_ok]
  constructor
  · rintro ⟨_, rate, each⟩
    refine ⟨rate, fun info listed => ?_⟩
    obtain ⟨_, valid, payouts, paid, sums, summed, rfl⟩ := each info listed
    exact ⟨valid, payouts, paid, summed⟩
  · rintro ⟨rate, each⟩
    refine ⟨(), rate, fun info listed => ?_⟩
    obtain ⟨valid, payouts, paid, summed⟩ := each info listed
    exact ⟨(), valid, payouts, paid, true, summed, rfl⟩

/-! An offer that is taken. -/

section Takes
variable {X : ChannelCrypto} {E : SigningDescriptors} {W : Wire E.toDescriptors}
  {env : Environment E.toDescriptors} {n n' : Node X E.toDescriptors} {ch ch' : SignedChannel X}
  {m : RenewOffer W.ContractInfo} {peer : PublicKey}

/-- The offered contract that the receipt makes of the message. -/
def RenewOffer.received (m : RenewOffer W.ContractInfo) (ch : SignedChannel X)
    (contractInfo : List E.ContractInfo) : OfferedContract E.toDescriptors where
  id := m.temporaryContractId
  isOfferParty := false
  contractInfo
  counterParty := ch.counterParty
  offerParams := ch.counterParams
  totalCollateral := ch.collaterals
  fundingInputs := []
  fundOutputSerialId := 0
  feeRatePerVb := ch.feeRatePerVb
  cetLocktime := m.cetLocktime
  refundLocktime := m.refundLocktime
  keysId := ch.state.keysId

/-- The channel with the offer pending. -/
def SignedChannel.withOffer (ch : SignedChannel X) (m : RenewOffer W.ContractInfo) (now : ℕ) :
    SignedChannel X :=
  ch.enter (.renewOffered ⟨m.temporaryContractId, m.counterPayout, m.nextPerUpdatePoint, false,
    now + peerTimeout, ch.state.keysId⟩)

/-- The node takes the offer: its channel with the sender is at rest and the contract
can be read. -/
structure Node.Takes (W : Wire E.toDescriptors) (n : Node X E.toDescriptors)
    (m : RenewOffer W.ContractInfo) (peer : PublicKey) (ch : SignedChannel X) : Prop where
  signed : n.channel = .signed ch
  channel : ch.channelId = m.channelId
  sender : peer = ch.counterParty
  atRest : ch.state.atRest = true
  total : ch.collaterals < u64Limit
  readable : ∃ infos, W.getContractInfo m.contractInfo = .ok infos

theorem receiveRenewOffer_iff {now : ℕ} {offered : OfferedContract E.toDescriptors} :
    receiveRenewOffer X now W ch m peerTimeout ch.state.keysId = .ok (ch', offered) ↔
      ch.collaterals < u64Limit ∧ ∃ infos, W.getContractInfo m.contractInfo = .ok infos ∧
        ch' = ch.withOffer m now ∧ offered = m.received ch infos := by
  simp only [receiveRenewOffer, bind_eq_ok, ofDlc_eq_ok, amountAdd, add_eq_ok,
    Except.ok.injEq, Prod.mk.injEq]
  constructor
  · rintro ⟨infos, read, total, ⟨fits, rfl⟩, rfl, rfl⟩
    exact ⟨fits, infos, read, rfl, rfl⟩
  · rintro ⟨fits, infos, read, rfl, rfl⟩
    exact ⟨infos, read, _, ⟨fits, rfl⟩, rfl, rfl⟩

theorem onRenewOffer_iff {now : ℕ} {offered : OfferedContract E.toDescriptors} :
    onRenewOffer X now W ch m peerTimeout = .ok (ch', offered) ↔
      ch.state.atRest = true ∧ ch.collaterals < u64Limit ∧
        ∃ infos, W.getContractInfo m.contractInfo = .ok infos ∧
          ch' = ch.withOffer m now ∧ offered = m.received ch infos := by
  rw [onRenewOffer, ← receiveRenewOffer_iff]
  cases state : ch.state <;> simp [SignedChannelState.atRest, SignedChannelState.keysId]

/-- The receipt stores the offer that it takes. -/
theorem onRenewOffer_takes (signed : n.channel = .signed ch) :
    Node.onRenewOffer X env W m peer n = (.ok none, n') ↔
      n.Takes W m peer ch ∧ ∃ infos, W.getContractInfo m.contractInfo = .ok infos ∧
        n' = { n with
          channel := .signed (ch.withOffer m env.unixTimeNow)
          contracts := n.contracts.insert m.temporaryContractId (.offered (m.received ch infos)) } := by
  simp only [Node.onRenewOffer, Handler.bind_ok, getSignedChannel_ok]
  constructor
  · rintro ⟨_, _, ⟨⟨signed', id, sender⟩, rfl⟩, h⟩
    obtain rfl := ChannelRecord.signed.inj (signed.symm.trans signed')
    rw [Handler.ite_apply] at h
    split at h
    next => cases (Handler.pure_ok.mp h).1
    next =>
      simp only [Handler.bind_ok, Handler.lift_ok, createContract_ok, upsertChannel_none_ok,
        Handler.pure_ok] at h
      obtain ⟨⟨ch', offered⟩, _, ⟨received, rfl⟩, _, _, rfl, _, _, rfl, -, rfl⟩ := h
      obtain ⟨rest, total, infos, read, rfl, rfl⟩ := onRenewOffer_iff.mp received
      exact ⟨⟨signed, id, of_decide_eq_true sender, rest, total, infos, read⟩, infos, read, rfl⟩
  · rintro ⟨takes, infos, read, rfl⟩
    refine ⟨ch, n, ⟨⟨signed, takes.channel, decide_eq_true takes.sender⟩, rfl⟩, ?_⟩
    have unoffered : ch.state.offersRenewal = false := by
      have rest := takes.atRest
      revert rest
      cases ch.state <;> simp [SignedChannelState.atRest, SignedChannelState.offersRenewal]
    rw [unoffered]
    simp only [Bool.false_eq_true, if_false, Handler.bind_ok, Handler.lift_ok, createContract_ok,
      upsertChannel_none_ok, Handler.pure_ok]
    exact ⟨_, _, ⟨onRenewOffer_iff.mpr ⟨takes.atRest, takes.total, infos, read, rfl, rfl⟩, rfl⟩,
      (), _, rfl, (), _, rfl, trivial, rfl⟩

end Takes

/-! An offer that is scrutinised. -/

section Wire
variable (K : AdaptorCrypto) {N : Numerics} (M : MessageNumerics N)
  (order : List (List String × List ℕ) → List (List String × List ℕ))

/-- Contracts as the messages have them. -/
def contractWire : Wire (signingDescriptors K N order).toDescriptors where
  ContractInfo := SerContractInfo M
  ofOffered offered := writeContract M offered.totalCollateral offered.contractInfo
  getContractInfo := SerContractInfo.getContractInfoAndAnnouncements

end Wire

section Checks
variable {X : ChannelCrypto} {N : Numerics} {M : MessageNumerics N}
  {order : List (List String × List ℕ) → List (List String × List ℕ)}
  {env : Environment (signingDescriptors X.toAdaptorCrypto N order).toDescriptors}
  {n n' : Node X (signingDescriptors X.toAdaptorCrypto N order).toDescriptors}
  {m : RenewOffer (SerContractInfo M)} {peer : PublicKey} {ch : SignedChannel X}

/-- The renewal as a channel offer: its CETs get the manager's own sequence number. -/
def RenewOffer.offerChannel (m : RenewOffer (SerContractInfo M)) : OfferChannel M where
  contractInfo := m.contractInfo
  cetLocktime := m.cetLocktime
  refundLocktime := m.refundLocktime
  cetNsequence := Channels.cetNsequence

/-- An offered renewal that has passed what a first contract passes. -/
structure Scrutinised (O : OracleCrypto) (m : RenewOffer (SerContractInfo M))
    (ch : SignedChannel X)
    (offered : OfferedContract (signingDescriptors X.toAdaptorCrypto N order).toDescriptors) :
    Prop where
  total : offered.totalCollateral = ch.collaterals
  validated : offered.validate = .ok ()
  offer : m.offerChannel.validate X.toCrypto O refundDelay (refundDelay * 2) cetNsequence
    (cetNsequence * 2) = .ok ()
  payout : m.counterPayout ≤ offered.totalCollateral

/-- Whatever the receipt of the offer stores and moves to has been checked. -/
def RenewalScrutinised (O : OracleCrypto)
    (env : Environment (signingDescriptors X.toAdaptorCrypto N order).toDescriptors)
    (m : RenewOffer (SerContractInfo M)) (peer : PublicKey)
    (n : Node X (signingDescriptors X.toAdaptorCrypto N order).toDescriptors) : Prop :=
  ∀ ch n', n.channel = .signed ch →
    Node.onRenewOffer X env (contractWire X.toAdaptorCrypto M order) m peer n = (.ok none, n') →
    ∃ offered ch' s, n'.contracts m.temporaryContractId = some (.offered offered) ∧
      n'.channel = .signed ch' ∧ ch'.state = .renewOffered s ∧ Scrutinised O m ch offered

/-- An offer for the channel's own total that is due in time, pays in every outcome that
honest oracles announce, and leaves the counterparty at most what there is. -/
structure RenewOffer.Fair (O : OracleCrypto) (m : RenewOffer (SerContractInfo M))
    (ch : SignedChannel X) : Prop where
  feeRate : ch.feeRatePerVb ≤ 25 * 250
  infos : ∀ c ∈ m.contractInfo.contractInfos,
    c.Fits m.contractInfo.totalCollateral ch.collaterals
  dates : ∃ closest, m.contractInfo.getClosestMaturityDate = .ok closest ∧
    m.cetLocktime ≤ closest ∧ closest + refundDelay ≤ m.refundLocktime ∧
      m.refundLocktime ≤ closest + refundDelay * 2 ∧ closest + refundDelay * 2 < 2 ^ 32
  oracles : ∀ c ∈ m.contractInfo.contractInfos, ∀ a ∈ c.oracleInfo.announcements,
    a.Valid X.toCrypto O
  payout : m.counterPayout ≤ ch.collaterals

/-- The checks of an offered contract say of a stored renewal that its fee rate is
bounded and that its infos fit the channel. -/
theorem received_validate {infos : List (ContractInfo N)} (total : ch.collaterals < u64Limit)
    (read : m.contractInfo.getContractInfoAndAnnouncements = .ok infos) :
    (RenewOffer.received (W := contractWire X.toAdaptorCrypto M order) m ch infos).validate = .ok () ↔
      ch.feeRatePerVb ≤ 25 * 250 ∧ ∀ c ∈ m.contractInfo.contractInfos,
        c.Fits m.contractInfo.totalCollateral ch.collaterals :=
  validate_ok.trans (and_congr_right fun _ =>
    forall_mapM_iff read (readContractInfo_fits total))

theorem received_scrutinised {O : OracleCrypto} {infos : List (ContractInfo N)}
    (total : ch.collaterals < u64Limit)
    (read : m.contractInfo.getContractInfoAndAnnouncements = .ok infos) :
    Scrutinised O m ch (RenewOffer.received (W := contractWire X.toAdaptorCrypto M order) m ch infos) ↔
      m.Fair O ch := by
  have offer : m.offerChannel.validate X.toCrypto O refundDelay (refundDelay * 2) cetNsequence
      (cetNsequence * 2) = .ok () ↔ _ :=
    OfferChannel.validate_ok (Nat.le_mul_of_pos_right refundDelay two_pos)
  constructor
  · rintro ⟨-, validated, checked, payout⟩
    obtain ⟨rate, infos⟩ := (received_validate total read).mp validated
    obtain ⟨⟨closest, dated, dates, -⟩, oracles⟩ := offer.mp checked
    exact ⟨rate, infos, ⟨closest, dated, dates⟩, oracles, payout⟩
  · rintro ⟨rate, infos, ⟨closest, dated, dates⟩, oracles, payout⟩
    refine ⟨rfl, (received_validate total read).mpr ⟨rate, infos⟩, offer.mpr ?_, payout⟩
    exact ⟨⟨closest, dated, dates, le_rfl, Nat.le_mul_of_pos_right _ two_pos⟩, oracles⟩

/-- A renewal gets the scrutiny of a first contract exactly when the node does not take
the offer or the offer is fair by itself. -/
theorem renewal_scrutinised_iff {O : OracleCrypto} :
    RenewalScrutinised O env m peer n ↔
      ∀ ch, n.Takes (contractWire X.toAdaptorCrypto M order) m peer ch → m.Fair O ch := by
  constructor
  · intro all ch takes
    obtain ⟨infos, read⟩ := takes.readable
    obtain ⟨offered, ch', s, stored, -, -, scrutinised⟩ := all ch _ takes.signed
      ((onRenewOffer_takes takes.signed).mpr ⟨takes, infos, read, rfl⟩)
    dsimp only at stored
    rw [Store.insert, Function.update_self] at stored
    cases stored
    exact (received_scrutinised takes.total read).mp scrutinised
  · intro fair ch n' signed handled
    obtain ⟨takes, infos, read, rfl⟩ := (onRenewOffer_takes signed).mp handled
    refine ⟨_, _, _, ?_, rfl, rfl, (received_scrutinised takes.total read).mpr (fair ch takes)⟩
    exact Function.update_self ..

end Checks

/-- No numerical contracts. -/
def sampleMessageNumerics : MessageNumerics sampleNumerics where
  Descriptor := Empty
  toNumerical := nofun
  ofNumerical := nofun
  differenceParams := nofun

/-- An oracle whose signatures are all valid. -/
def sampleOracleCrypto : OracleCrypto where
  write _ := []
  verifySchnorr _ _ _ := true

/-- An offer of a contract over one satoshi that pays in one of two outcomes, is due for
refund at once, and leaves the counterparty more than the channel holds. -/
def sampleUnfairOffer : RenewOffer (SerContractInfo sampleMessageNumerics) where
  channelId := 77
  temporaryContractId := 8
  counterPayout := 300000000
  nextPerUpdatePoint := perUpdatePoint 2 (initialUpdateIdx - 1)
  contractInfo := .single 1 ⟨.enumerated [⟨"up", 1⟩], .single (sampleAnnouncement 21)⟩
  cetLocktime := 4000000000
  refundLocktime := 0
  cetNsequence := 0

/-- The offer is stored in spite of that. -/
theorem unfair_offer_stored :
    ¬ @RenewalScrutinised sampleChannelCrypto _ _ id sampleOracleCrypto sampleChannelEnv
      sampleUnfairOffer (publicKeyOf (partySecret 2 0)) (sampleStart 1).node := by
  intro all
  have read : ∃ infos, (contractWire channelAdaptor sampleMessageNumerics id).getContractInfo
      sampleUnfairOffer.contractInfo = .ok infos := ⟨_, rfl⟩
  have takes : (sampleStart 1).node.Takes (contractWire channelAdaptor sampleMessageNumerics id)
      sampleUnfairOffer (publicKeyOf (partySecret 2 0)) (sampleChannel 1 2) :=
    ⟨rfl, rfl, rfl, rfl, by decide, read⟩
  obtain ⟨infos, read⟩ := read
  obtain ⟨offered, _, _, -, -, -, scrutinised⟩ := all _ _ rfl
    ((onRenewOffer_takes rfl).mpr ⟨takes, infos, read, rfl⟩)
  have payout := scrutinised.payout
  rw [scrutinised.total] at payout
  exact absurd payout (by decide)

end P2PLending.Manager.Channels
