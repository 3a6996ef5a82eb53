import P2PLending.Messages.MessageHandler

/-! The sending side of the message handler. A message is sent whole unless its encoding exceeds
the buffer size of `lightning`; the type that goes before it is not counted. -/

namespace P2PLending.Messages

/-- What sending takes from `lightning` besides the encodings. -/
structure Sending extends Lightning where
  maxBufSize : ℕ

/-- `MAX_BUF_SIZE`, and the prefix of a byte vector that the segment sizes leave room for. -/
structure Sending.Documented (S : Sending) : Prop where
  maxBufSize : S.maxBufSize = 64 * 1024
  byteVec : ∀ data, data.length ≤ maxChunkSize → (S.byteVec.write data).length ≤ data.length + 5

namespace WireMessage
variable {P : Primitives}

def typeId : WireMessage P → UInt16
  | message m => m.typeId
  | segmentStart _ => segmentStartType
  | segmentChunk _ => segmentChunkType

def encode (L : Lightning) : WireMessage P → Bytes
  | message m => m.encode
  | segmentStart s => (SegmentStart.wire L).write s
  | segmentChunk s => (SegmentChunk.wire L).write s

/-- What the transport takes: the type and the encoding. -/
def packet (L : Lightning) (m : WireMessage P) : Bytes := u16.write m.typeId ++ m.encode L

/-- The part of a typed message that a wire message brings to its receiver. -/
def payload : WireMessage P → Bytes
  | message m => u16.write m.typeId ++ m.encode
  | segmentStart s => s.data
  | segmentChunk s => s.data

end WireMessage

/-- The lock `msg_events` of a message handler, which only the calls below take. -/
abbrev MsgEvents (P : Primitives) := Mutex (List (P.PublicKey × WireMessage P))

namespace MsgEvents
variable {P : Primitives}

def new : MsgEvents P := { value := [], poisoned := false }

def pushBack (nodeId : P.PublicKey) (events : List (WireMessage P)) :
    Handler (MsgEvents P) (Stop Empty) Unit := fun q =>
  if q.poisoned then (.error .panicked, q)
  else (.ok (), { q with value := q.value ++ events.map (Prod.mk nodeId) })

def sendMessage (S : Sending) (nodeId : P.PublicKey) (msg : Message P) :
    Handler (MsgEvents P) (Stop Empty) Unit :=
  if S.maxBufSize < msg.encode.length then do
    let (segStart, segChunks) ← .lift (getSegments msg.encode msg.typeId)
    pushBack nodeId (.segmentStart segStart :: segChunks.map .segmentChunk)
  else pushBack nodeId [.message msg]

def hasPendingMessages : Handler (MsgEvents P) (Stop Empty) Bool := fun q =>
  if q.poisoned then (.error .panicked, q) else (.ok !q.value.isEmpty, q)

def getAndClearPendingMsg :
    Handler (MsgEvents P) (Stop Empty) (List (P.PublicKey × WireMessage P)) := fun q =>
  if q.poisoned then (.error .panicked, q) else (.ok q.value, { q with value := [] })

inductive Call (P : Primitives)
  | sendMessage (nodeId : P.PublicKey) (msg : Message P)
  | hasPendingMessages
  | getAndClearPendingMsg

def step (S : Sending) (q : MsgEvents P) : Call P → MsgEvents P → Prop
  | .sendMessage nodeId msg, t => (MsgEvents.sendMessage S nodeId msg q).2 = t
  | .hasPendingMessages, t => (MsgEvents.hasPendingMessages q).2 = t
  | .getAndClearPendingMsg, t => (MsgEvents.getAndClearPendingMsg q).2 = t

theorem pushBack_unpoisoned {q : MsgEvents P} (unlocked : q.poisoned = false)
    (nodeId : P.PublicKey) (events : List (WireMessage P)) :
    pushBack nodeId events q =
      (.ok (), { q with value := q.value ++ events.map (Prod.mk nodeId) }) := by
  rw [pushBack, unlocked]
  rfl

/-- No call panics while it holds the lock. -/
theorem step_unpoisoned (S : Sending) {q t : MsgEvents P} {call : Call P}
    (unlocked : q.poisoned = false) (stepped : step S q call t) : t.poisoned = false := by
  cases call with
  | sendMessage nodeId msg =>
      have reached : (MsgEvents.sendMessage S nodeId msg q).2 = t := stepped
      rw [← reached, MsgEvents.sendMessage, Handler.ite_apply]
      split
      · rw [Handler.lift_bind]
        cases getSegments msg.encode msg.typeId with
        | error e => exact unlocked
        | ok segments =>
            dsimp only
            rw [pushBack_unpoisoned unlocked]
            exact unlocked
      · rw [pushBack_unpoisoned unlocked]
        exact unlocked
  | hasPendingMessages =>
      have reached : (MsgEvents.hasPendingMessages q).2 = t := stepped
      rw [← reached, MsgEvents.hasPendingMessages, unlocked]
      exact unlocked
  | getAndClearPendingMsg =>
      have reached : (MsgEvents.getAndClearPendingMsg q).2 = t := stepped
      rw [← reached, MsgEvents.getAndClearPendingMsg, unlocked]
      rfl

theorem run_unpoisoned (S : Sending) {calls : List (Call P)} {q : MsgEvents P}
    (run : Run (step S) new calls q) : q.poisoned = false :=
  run.invariant (fun q => q.poisoned = false) rfl fun _ _ _ unlocked stepped =>
    step_unpoisoned S unlocked stepped

end MsgEvents

/-! The chunks of a cut, together. -/

theorem drainChunks_data (n : ℕ) (data : Bytes) :
    (drainChunks n data).flatMap SegmentChunk.data = data.take (n * maxChunkSize) := by
  induction n generalizing data with
  | zero => simp [drainChunks]
  | succ n ih =>
      rw [drainChunks, List.flatMap_cons, ih, Nat.succ_mul, Nat.add_comm, List.take_add]
      rcases Nat.le_total data.length maxChunkSize with short | long
      · rw [Nat.min_eq_left short, List.take_of_length_le short, List.take_length,
          List.drop_of_length_le short, List.drop_length]
      · rw [Nat.min_eq_right long]

theorem drainChunks_short {n : ℕ} {data : Bytes} {chunk : SegmentChunk}
    (listed : chunk ∈ drainChunks n data) : chunk.data.length ≤ maxChunkSize := by
  induction n generalizing data with
  | zero => cases listed
  | succ n ih =>
      rw [drainChunks] at listed
      cases List.mem_cons.mp listed with
      | inl first =>
          rw [first, List.length_take]
          omega
      | inr later => exact ih later

/-- The most that a start and a count of 16 bits of segments hold. -/
def segmentsCapacity : ℕ := maxStartDataSize + 65534 * maxChunkSize

theorem nbSegments_lt {left nb : ℕ} (counted : nbSegments left = .ok nb) : nb < 2 ^ 16 := by
  unfold nbSegments at counted
  dsimp only at counted
  split_ifs at counted with rest
  · obtain ⟨fits, rfl⟩ := Checked.add_eq_ok.mp counted
    exact fits
  · cases counted
    exact Nat.mod_lt _ (by decide)

/-- Whatever the count is, it is less than `2 ^ 16`, and so is what the segments hold. -/
theorem getSegments_holds {data : Bytes} {msgType : UInt16} {start : SegmentStart}
    {chunks : List SegmentChunk} (cut : getSegments data msgType = .ok (start, chunks)) :
    (start.data ++ chunks.flatMap SegmentChunk.data).length ≤ segmentsCapacity := by
  simp only [getSegments, Checked.bind_eq_ok, Checked.ensure_eq_ok, Checked.pure_eq_ok,
    Except.ok.injEq, Prod.mk.injEq] at cut
  obtain ⟨_, _, nb, counted, _, _, _, filled, rfl, rfl⟩ := cut
  have few := nbSegments_lt counted
  have most : (nb - 1) * maxChunkSize ≤ 65534 * maxChunkSize :=
    Nat.mul_le_mul_right _ (by omega)
  rw [List.length_append, filled, drainChunks_data, List.length_take, segmentsCapacity]
  omega

/-- Segments that can hold a message do. -/
theorem getSegments_whole {data : Bytes} (msgType : UInt16) (long : maxDataSize < data.length)
    (fits : data.length + 2 ≤ segmentsCapacity) :
    ∃ start chunks, getSegments data msgType = .ok (start, chunks) ∧
      start.data.length = maxStartDataSize ∧
      (∀ chunk ∈ chunks, chunk.data.length ≤ maxChunkSize) ∧
      start.data ++ chunks.flatMap SegmentChunk.data = u16.write msgType ++ data := by
  obtain ⟨n, cut, _, _, below⟩ := getSegments_eq msgType long le_rfl fits
  refine ⟨_, _, cut, start_length msgType long, fun chunk => drainChunks_short, ?_⟩
  rw [drainChunks_data, List.take_of_length_le below, List.append_assoc, List.take_append_drop]

namespace MsgEvents
variable {P : Primitives} {S : Sending} {nodeId : P.PublicKey} {msg : Message P}
  {q : MsgEvents P}

/-- The call queues wire messages that the transport takes and that together bring
the type and the encoding of the message. -/
def Carries (S : Sending) (nodeId : P.PublicKey) (msg : Message P) (q : MsgEvents P) : Prop :=
  ∃ events : List (WireMessage P), sendMessage S nodeId msg q =
      (.ok (), { q with value := q.value ++ events.map (Prod.mk nodeId) }) ∧
    (∀ event ∈ events, (event.packet S.toLightning).length ≤ maxDataSize) ∧
    events.flatMap WireMessage.payload = u16.write msg.typeId ++ msg.encode

/-- The type leaves two bytes fewer for a message that is sent whole, and a longer one
has to be within what the segments hold. -/
def Sendable (msg : Message P) : Prop :=
  msg.encode.length + 2 ≤ maxDataSize ∨
    (64 * 1024 < msg.encode.length ∧ msg.encode.length + 2 ≤ segmentsCapacity)

/-- A queue that grows by events grows by these only. -/
theorem carries_iff {events : List (WireMessage P)} (unlocked : q.poisoned = false)
    (sent : sendMessage S nodeId msg q = pushBack nodeId events q) :
    Carries S nodeId msg q ↔
      (∀ event ∈ events, (event.packet S.toLightning).length ≤ maxDataSize) ∧
        events.flatMap WireMessage.payload = u16.write msg.typeId ++ msg.encode := by
  rw [pushBack_unpoisoned unlocked] at sent
  constructor
  · rintro ⟨queued, grown, fits, carried⟩
    rw [sent, Prod.mk.injEq, Mutex.mk.injEq] at grown
    have same : events = queued :=
      List.map_injective_iff.mpr (Prod.mk_right_injective nodeId)
        (List.append_cancel_left grown.2.1)
    rw [same]
    exact ⟨fits, carried⟩
  · rintro ⟨fits, carried⟩
    exact ⟨events, sent, fits, carried⟩

theorem carries_whole (unlocked : q.poisoned = false)
    (whole : msg.encode.length ≤ S.maxBufSize) :
    Carries S nodeId msg q ↔ msg.encode.length + 2 ≤ maxDataSize := by
  have sent : sendMessage S nodeId msg q = pushBack nodeId [.message msg] q := by
    rw [sendMessage, if_neg (Nat.not_lt.mpr whole)]
  have size : ((WireMessage.message msg).packet S.toLightning).length = msg.encode.length + 2 := by
    rw [WireMessage.packet, List.length_append, u16_length, Nat.add_comm]
    rfl
  rw [carries_iff unlocked sent, List.forall_mem_singleton, size, List.flatMap_singleton]
  exact and_iff_left rfl

theorem segmentStart_packet (documented : S.Documented) {start : SegmentStart}
    (filled : start.data.length = maxStartDataSize) :
    ((WireMessage.segmentStart start : WireMessage P).packet S.toLightning).length ≤
      maxDataSize := by
  have written := documented.byteVec start.data (by rw [filled]; decide)
  rw [filled] at written
  rw [WireMessage.packet, WireMessage.encode, SegmentStart.wire, List.length_append, u16_length]
  simp only [List.flatten_cons, List.flatten_nil, List.append_nil, List.length_append, u16_length]
  unfold maxStartDataSize at written
  unfold maxDataSize
  omega

theorem segmentChunk_packet (documented : S.Documented) {chunk : SegmentChunk}
    (short : chunk.data.length ≤ maxChunkSize) :
    ((WireMessage.segmentChunk chunk : WireMessage P).packet S.toLightning).length ≤
      maxDataSize := by
  have written := documented.byteVec chunk.data short
  rw [WireMessage.packet, WireMessage.encode, SegmentChunk.wire, List.length_append, u16_length]
  simp only [List.flatten_cons, List.flatten_nil, List.append_nil]
  unfold maxChunkSize at short
  unfold maxDataSize
  omega

theorem segments_payload (start : SegmentStart) (chunks : List SegmentChunk) :
    (WireMessage.segmentStart start :: chunks.map .segmentChunk : List (WireMessage P)).flatMap
      WireMessage.payload = start.data ++ chunks.flatMap SegmentChunk.data := by
  rw [List.flatMap_cons, List.flatMap_map]
  rfl

theorem carries_segmented (documented : S.Documented) (unlocked : q.poisoned = false)
    (segmented : S.maxBufSize < msg.encode.length) :
    Carries S nodeId msg q ↔ msg.encode.length + 2 ≤ segmentsCapacity := by
  have long : maxDataSize < msg.encode.length := by
    rw [documented.maxBufSize] at segmented
    exact lt_trans (by decide) segmented
  constructor
  · intro carries
    cases cut : getSegments msg.encode msg.typeId with
    | error e =>
        obtain ⟨events, sent, _⟩ := carries
        rw [sendMessage, if_pos segmented, Handler.lift_bind, cut] at sent
        cases sent
    | ok segments =>
        obtain ⟨start, chunks⟩ := segments
        have pushed : sendMessage S nodeId msg q =
            pushBack nodeId (.segmentStart start :: chunks.map .segmentChunk) q := by
          rw [sendMessage, if_pos segmented, Handler.lift_bind, cut]
        have whole := ((carries_iff unlocked pushed).mp carries).2
        have size := congrArg List.length whole
        rw [segments_payload, List.length_append, List.length_append, u16_length] at size
        have holds := getSegments_holds cut
        rw [List.length_append] at holds
        omega
  · intro fits
    obtain ⟨start, chunks, cut, filled, short, whole⟩ :=
      getSegments_whole msg.typeId long fits
    have pushed : sendMessage S nodeId msg q =
        pushBack nodeId (.segmentStart start :: chunks.map .segmentChunk) q := by
      rw [sendMessage, if_pos segmented, Handler.lift_bind, cut]
    rw [carries_iff unlocked pushed, segments_payload]
    refine ⟨List.forall_mem_cons.mpr ⟨segmentStart_packet documented filled, ?_⟩, whole⟩
    intro event listed
    obtain ⟨chunk, member, rfl⟩ := List.mem_map.mp listed
    exact segmentChunk_packet documented (short chunk member)

/-- In every queue that is reached, a message is carried whole in packets of at most
65535 bytes exactly when its type fits beside it, or it is long enough to be cut and not
too long for the segments. -/
theorem sendMessage_carries_iff (documented : S.Documented) {calls : List (Call P)}
    (run : Run (step S) new calls q) (nodeId : P.PublicKey) (msg : Message P) :
    Carries S nodeId msg q ↔ Sendable msg := by
  have unlocked := run_unpoisoned S run
  by_cases segmented : S.maxBufSize < msg.encode.length
  · rw [carries_segmented documented unlocked segmented, Sendable]
    rw [documented.maxBufSize] at segmented
    have long : ¬ msg.encode.length + 2 ≤ maxDataSize := by
      unfold maxDataSize
      omega
    simp only [long, segmented, false_or, true_and]
  · rw [carries_whole unlocked (Nat.not_lt.mp segmented), Sendable]
    rw [documented.maxBufSize] at segmented
    simp only [segmented, false_and, or_false]

section Examples
open MessageHandler (samplePeer)

def plainSending : Sending := { MessageHandler.plainLightning with maxBufSize := 65536 }

theorem plainSending_documented : plainSending.Documented where
  maxBufSize := rfl
  byteVec data _ := by
    have written : (plainSending.byteVec.write data).length = 2 + data.length := by
      rw [show plainSending.byteVec.write data = u16.write (UInt16.ofNat data.length) ++ data from rfl,
        List.length_append, u16_length]
    omega

def sampleAdaptorSignature : CetAdaptorSignature plainPrimitives where
  signature := ⟨List.replicate 162 1, List.length_replicate⟩

/-- The signatures of a contract with `cets` CETs, and a witness of 142 bytes. -/
def sampleSignatures (cets : ℕ) : SignDlc plainPrimitives where
  protocolVersion := 4
  contractId := 7
  cetAdaptorSignatures := ⟨List.replicate cets sampleAdaptorSignature⟩
  refundSignature := ⟨List.replicate 64 2, List.length_replicate⟩
  fundingSignatures := ⟨[⟨[⟨List.replicate 142 1⟩]⟩]⟩

theorem replicate_write_length {α : Type} (c : Wire α) (n : ℕ) (a : α) :
    ((vec c).write (List.replicate n a)).length =
      (bigSize.write (UInt64.ofNat n)).length + n * (c.write a).length := by
  rw [vec, List.length_append, List.length_replicate, List.length_flatMap, List.map_replicate,
    List.sum_replicate_nat]

theorem signatures_write (m : CetAdaptorSignatures plainPrimitives) :
    CetAdaptorSignatures.wire.write m =
      (vec CetAdaptorSignatures.CetAdaptorSignature.wire).write m.ecdsaAdaptorSignatures :=
  List.append_nil _

theorem sampleSignatures_length : (Message.sign (sampleSignatures 403)).encode.length = 65534 := by
  have one : (CetAdaptorSignatures.CetAdaptorSignature.wire.write
      sampleAdaptorSignature).length = 162 := by decide +kernel
  have count : (bigSize.write (UInt64.ofNat 403)).length = 3 := by decide +kernel
  have signatures : (CetAdaptorSignatures.wire.write
      (sampleSignatures 403).cetAdaptorSignatures).length = 3 + 403 * 162 := by
    rw [signatures_write, sampleSignatures, replicate_write_length, one, count]
  have witness : (FundingSignatures.wire.write
      (sampleSignatures 403).fundingSignatures).length = 145 := by decide +kernel
  have refund : (plainPrimitives.signature.write
      (sampleSignatures 403).refundSignature).length = 64 := List.length_replicate
  have header : (u32.write (4 : UInt32)).length = 4 ∧ (bytes32.write (7 : Bytes32)).length = 32 := by
    decide +kernel
  have parts : (Message.sign (sampleSignatures 403)).encode = List.flatten
      [u32.write 4, bytes32.write 7,
        CetAdaptorSignatures.wire.write (sampleSignatures 403).cetAdaptorSignatures,
        plainPrimitives.signature.write (sampleSignatures 403).refundSignature,
        FundingSignatures.wire.write (sampleSignatures 403).fundingSignatures] := rfl
  rw [parts]
  simp only [List.flatten_cons, List.flatten_nil, List.append_nil, List.length_append, signatures,
    witness, refund, header]

/-- A message that is sent whole, and with its type is one byte too long. -/
theorem signatures_exceed_packet :
    (sendMessage plainSending samplePeer (.sign (sampleSignatures 403)) new).2.value =
        [(samplePeer, .message (.sign (sampleSignatures 403)))] ∧
      ((WireMessage.message (.sign (sampleSignatures 403))).packet plainSending.toLightning).length =
        65536 ∧
      ¬ Carries plainSending samplePeer (.sign (sampleSignatures 403)) new := by
  have length := sampleSignatures_length
  have whole : (Message.sign (sampleSignatures 403)).encode.length ≤ plainSending.maxBufSize := by
    rw [length]
    exact Nat.le_add_right 65534 2
  refine ⟨?_, ?_, ?_⟩
  · rw [sendMessage, if_neg (Nat.not_lt.mpr whole), pushBack_unpoisoned rfl]
    rfl
  · rw [WireMessage.packet, List.length_append, u16_length, WireMessage.encode, length]
  · rw [carries_whole rfl whole, length]
    decide

theorem sendMessage_carries_closing :
    Carries plainSending samplePeer (.collaborativeCloseOffer sampleClosing) new ↔
      Sendable (.collaborativeCloseOffer sampleClosing) :=
  sendMessage_carries_iff plainSending_documented .nil samplePeer
    (.collaborativeCloseOffer sampleClosing)

end Examples

end MsgEvents

end P2PLending.Messages
