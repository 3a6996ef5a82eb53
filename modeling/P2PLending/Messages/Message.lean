import P2PLending.Messages.ChannelMessages
import P2PLending.Messages.Segmentation

/-! The messages under their type ids. Each has a writer; `readDlcMessage` has a table of readers
of its own. -/

namespace P2PLending.Messages

def offerType : UInt16 := 42778
def offerLoanType : UInt16 := 42779
def acceptType : UInt16 := 42780
def acceptLoanType : UInt16 := 42781
def initiateAcceptLoanType : UInt16 := 42783
def signType : UInt16 := 42782
def offerChannelType : UInt16 := 43000
def acceptChannelType : UInt16 := 43002
def signChannelType : UInt16 := 43004
def settleChannelOfferType : UInt16 := 43006
def settleChannelAcceptType : UInt16 := 43008
def settleChannelConfirmType : UInt16 := 43010
def settleChannelFinalizeType : UInt16 := 43012
def renewChannelOfferType : UInt16 := 43014
def renewChannelAcceptType : UInt16 := 43016
def renewChannelConfirmType : UInt16 := 43018
def renewChannelFinalizeType : UInt16 := 43020
def renewChannelRevokeType : UInt16 := 43026
def collaborativeCloseOfferType : UInt16 := 43022
def rejectType : UInt16 := 43024

inductive Message (P : Primitives)
  | offer (m : OfferDlc P)
  | offerLoan (m : OfferLoanDlc P)
  | accept (m : AcceptDlc P)
  | acceptLoan (m : AcceptLoanDlc P)
  | initiateAcceptLoan (m : InitiateAcceptLoanDlc)
  | sign (m : SignDlc P)
  | offerChannel (m : OfferChannel P)
  | acceptChannel (m : AcceptChannel P)
  | signChannel (m : SignChannel P)
  | settleOffer (m : SettleOffer P)
  | settleAccept (m : SettleAccept P)
  | settleConfirm (m : SettleConfirm P)
  | settleFinalize (m : SettleFinalize P)
  | renewOffer (m : RenewOffer P)
  | renewAccept (m : RenewAccept P)
  | renewConfirm (m : RenewConfirm P)
  | renewFinalize (m : RenewFinalize P)
  | renewRevoke (m : RenewRevoke P)
  | collaborativeCloseOffer (m : CollaborativeCloseOffer P)
  | reject (m : Reject)

inductive WireMessage (P : Primitives)
  | message (m : Message P)
  | segmentStart (s : SegmentStart)
  | segmentChunk (s : SegmentChunk)

namespace Message
variable {P : Primitives}

def typeId : Message P → UInt16
  | offer _ => offerType
  | offerLoan _ => offerLoanType
  | accept _ => acceptType
  | acceptLoan _ => acceptLoanType
  | initiateAcceptLoan _ => initiateAcceptLoanType
  | sign _ => signType
  | offerChannel _ => offerChannelType
  | acceptChannel _ => acceptChannelType
  | signChannel _ => signChannelType
  | settleOffer _ => settleChannelOfferType
  | settleAccept _ => settleChannelAcceptType
  | settleConfirm _ => settleChannelConfirmType
  | settleFinalize _ => settleChannelFinalizeType
  | renewOffer _ => renewChannelOfferType
  | renewAccept _ => renewChannelAcceptType
  | renewConfirm _ => renewChannelConfirmType
  | renewFinalize _ => renewChannelFinalizeType
  | renewRevoke _ => renewChannelRevokeType
  | collaborativeCloseOffer _ => collaborativeCloseOfferType
  | reject _ => rejectType

def encode : Message P → Bytes
  | offer m => OfferDlc.wire.write m
  | offerLoan m => OfferLoanDlc.wire.write m
  | accept m => AcceptDlc.wire.write m
  | acceptLoan m => AcceptLoanDlc.wire.write m
  | initiateAcceptLoan m => InitiateAcceptLoanDlc.wire.write m
  | sign m => SignDlc.wire.write m
  | offerChannel m => OfferChannel.wire.write m
  | acceptChannel m => AcceptChannel.wire.write m
  | signChannel m => SignChannel.wire.write m
  | settleOffer m => SettleOffer.wire.write m
  | settleAccept m => SettleAccept.wire.write m
  | settleConfirm m => SettleConfirm.wire.write m
  | settleFinalize m => SettleFinalize.wire.write m
  | renewOffer m => RenewOffer.wire.write m
  | renewAccept m => RenewAccept.wire.write m
  | renewConfirm m => RenewConfirm.wire.write m
  | renewFinalize m => RenewFinalize.wire.write m
  | renewRevoke m => RenewRevoke.wire.write m
  | collaborativeCloseOffer m => CollaborativeCloseOffer.wire.write m
  | reject m => Reject.wire.write m

/-- The lengths of the fields are within the limits of the format. -/
def Fits : Message P → Prop
  | offer m => m.Fits
  | offerLoan m => m.Fits
  | accept m => m.Fits
  | acceptLoan m => m.Fits
  | sign m => m.Fits
  | offerChannel m => m.Fits
  | acceptChannel m => m.Fits
  | signChannel m => m.Fits
  | renewOffer m => m.Fits
  | renewAccept m => m.Fits
  | renewConfirm m => m.Fits
  | initiateAcceptLoan _ | settleOffer _ | settleAccept _ | settleConfirm _ | settleFinalize _
  | renewFinalize _ | renewRevoke _ | collaborativeCloseOffer _ | reject _ => True

end Message

section Reading
variable {P : Primitives}

/-- The table of `read_dlc_message`: the types that have a reader. -/
def readers : List (UInt16 × Reading (Message P)) := [
  (offerType, .offer <$> OfferDlc.wire.read),
  (offerLoanType, .offerLoan <$> OfferLoanDlc.wire.read),
  (acceptType, .accept <$> AcceptDlc.wire.read),
  (acceptLoanType, .acceptLoan <$> AcceptLoanDlc.wire.read),
  (initiateAcceptLoanType, .initiateAcceptLoan <$> InitiateAcceptLoanDlc.wire.read),
  (signType, .sign <$> SignDlc.wire.read),
  (offerChannelType, .offerChannel <$> OfferChannel.wire.read),
  (acceptChannelType, .acceptChannel <$> AcceptChannel.wire.read),
  (signChannelType, .signChannel <$> SignChannel.wire.read),
  (settleChannelOfferType, .settleOffer <$> SettleOffer.wire.read),
  (settleChannelAcceptType, .settleAccept <$> SettleAccept.wire.read),
  (settleChannelConfirmType, .settleConfirm <$> SettleConfirm.wire.read),
  (settleChannelFinalizeType, .settleFinalize <$> SettleFinalize.wire.read),
  (renewChannelOfferType, .renewOffer <$> RenewOffer.wire.read),
  (renewChannelAcceptType, .renewAccept <$> RenewAccept.wire.read),
  (renewChannelConfirmType, .renewConfirm <$> RenewConfirm.wire.read),
  (renewChannelFinalizeType, .renewFinalize <$> RenewFinalize.wire.read),
  (collaborativeCloseOfferType, .collaborativeCloseOffer <$> CollaborativeCloseOffer.wire.read),
  (rejectType, .reject <$> Reject.wire.read)]

/-- Nothing is read of a message whose type has no reader. -/
def readDlcMessage (msgType : UInt16) : Reading (Option (WireMessage P)) :=
  match readers.lookup msgType with
  | some read => (fun m => some (.message m)) <$> read
  | none => pure none

theorem readDlcMessage_reads {α : Type} {c : Wire α} {variant : α → Message P} {msgType : UInt16}
    {m : α} (listed : readers.lookup msgType = some (variant <$> c.read))
    (roundTrips : c.RoundTrips m) :
    Reads (readDlcMessage msgType) (c.write m) (some (.message (variant m))) := by
  unfold readDlcMessage
  rw [listed]
  exact (Reads.map roundTrips).map

theorem readDlcMessage_none (msgType : UInt16) (unlisted : readers (P := P).lookup msgType = none)
    (bytes : Bytes) : (readDlcMessage (P := P) msgType).run bytes = .ok (none, bytes) := by
  unfold readDlcMessage
  rw [unlisted]
  rfl

theorem readDlcMessage_encode {m : Message P} (fits : m.Fits) (sent : ∀ r, m ≠ .renewRevoke r) :
    Reads (readDlcMessage m.typeId) m.encode (some (.message m)) := by
  cases m with
  | offer m => exact readDlcMessage_reads rfl (OfferDlc.roundTrips fits)
  | offerLoan m => exact readDlcMessage_reads rfl (OfferLoanDlc.roundTrips fits)
  | accept m => exact readDlcMessage_reads rfl (AcceptDlc.roundTrips fits)
  | acceptLoan m => exact readDlcMessage_reads rfl (AcceptLoanDlc.roundTrips fits)
  | initiateAcceptLoan m => exact readDlcMessage_reads rfl (InitiateAcceptLoanDlc.roundTrips m)
  | sign m => exact readDlcMessage_reads rfl (SignDlc.roundTrips fits)
  | offerChannel m => exact readDlcMessage_reads rfl (OfferChannel.roundTrips fits)
  | acceptChannel m => exact readDlcMessage_reads rfl (AcceptChannel.roundTrips fits)
  | signChannel m => exact readDlcMessage_reads rfl (SignChannel.roundTrips fits)
  | settleOffer m => exact readDlcMessage_reads rfl (SettleOffer.roundTrips m)
  | settleAccept m => exact readDlcMessage_reads rfl (SettleAccept.roundTrips m)
  | settleConfirm m => exact readDlcMessage_reads rfl (SettleConfirm.roundTrips m)
  | settleFinalize m => exact readDlcMessage_reads rfl (SettleFinalize.roundTrips m)
  | renewOffer m => exact readDlcMessage_reads rfl (RenewOffer.roundTrips fits)
  | renewAccept m => exact readDlcMessage_reads rfl (RenewAccept.roundTrips fits)
  | renewConfirm m => exact readDlcMessage_reads rfl (RenewConfirm.roundTrips fits)
  | renewFinalize m => exact readDlcMessage_reads rfl (RenewFinalize.roundTrips m)
  | renewRevoke m => exact absurd rfl (sent m)
  | collaborativeCloseOffer m => exact readDlcMessage_reads rfl (CollaborativeCloseOffer.roundTrips m)
  | reject m => exact readDlcMessage_reads rfl (Reject.roundTrips m)

/-- A message is read back, and nothing is left, exactly when it is not a `RenewRevoke`: that
type is not in the table of the readers. -/
theorem readDlcMessage_iff (m : Message P) (fits : m.Fits) :
    (readDlcMessage m.typeId).run m.encode = .ok (some (.message m), []) ↔
      ∀ r, m ≠ .renewRevoke r := by
  constructor
  · rintro read r rfl
    have unread := readDlcMessage_none (P := P) renewChannelRevokeType rfl
      (RenewRevoke.wire.write r)
    have both : (Except.ok (none, RenewRevoke.wire.write r) :
        Except DecodeError (Option (WireMessage P) × Bytes)) = _ := unread.symm.trans read
    cases both
  · intro sent
    have read := readDlcMessage_encode fits sent []
    rw [List.append_nil] at read
    exact read

end Reading

section Examples

def fixedBytes (n : ℕ) : LawfulCodec DecodeError { b : Bytes // b.length = n } where
  write b := b.val
  read := do
    let b ← readBytes .shortRead n
    if size : b.length = n then return ⟨b, size⟩ else throw .invalidValue
  roundTrips := by
    rintro ⟨b, rfl⟩
    apply Reads.bind_pure (readBytes_reads _ b)
    rw [dif_pos rfl]
    exact .pure _

/-- Keys and signatures as the bytes that they are written in. -/
def plainPrimitives : Primitives where
  PublicKey := { b : Bytes // b.length = 33 }
  SecretKey := { b : Bytes // b.length = 32 }
  Signature := { b : Bytes // b.length = 64 }
  AdaptorSignature := { b : Bytes // b.length = 162 }
  XOnlyPublicKey := { b : Bytes // b.length = 32 }
  SchnorrSignature := { b : Bytes // b.length = 64 }
  Transaction := Bytes
  publicKey := fixedBytes 33
  secretKey := fixedBytes 32
  signature := fixedBytes 64
  adaptorSignature := fixedBytes 162
  xOnlyPublicKey := fixedBytes 32
  schnorrSignature := fixedBytes 64
  transaction := vec u8
  TransactionFits tx := tx.length ≤ maxVecSize.toNat
  transaction_roundTrips fits := vec_roundTrips fits fun x _ => u8_roundTrips x

def sampleRevocation : RenewRevoke plainPrimitives where
  channelId := 7
  perUpdateSecret := ⟨List.replicate 32 1, List.length_replicate⟩

def sampleClosing : CollaborativeCloseOffer plainPrimitives where
  channelId := 7
  counterPayout := 100000
  closeSignature := ⟨List.replicate 64 1, List.length_replicate⟩

theorem readDlcMessage_iff_closing :
    (readDlcMessage (Message.collaborativeCloseOffer sampleClosing).typeId).run
        (Message.collaborativeCloseOffer sampleClosing).encode =
      .ok (some (.message (.collaborativeCloseOffer sampleClosing)), []) :=
  (readDlcMessage_iff (.collaborativeCloseOffer sampleClosing) trivial).mpr fun _ => nofun

theorem readDlcMessage_not_revocation :
    ¬ ∀ m : Message plainPrimitives, m.Fits →
      (readDlcMessage m.typeId).run m.encode = .ok (some (.message m), []) := by
  intro read
  have unread := readDlcMessage_none (P := plainPrimitives) renewChannelRevokeType rfl
    (RenewRevoke.wire.write sampleRevocation)
  cases unread.symm.trans (read (.renewRevoke sampleRevocation) trivial)

end Examples

end P2PLending.Messages
