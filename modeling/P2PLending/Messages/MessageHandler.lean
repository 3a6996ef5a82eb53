import P2PLending.Messages.Message
import P2PLending.Foundation.Runs
import Mathlib.Logic.Function.Basic

/-! The handler of custom messages. It keeps a `SegmentReader` for each peer and the messages
received. A panic behind a lock poisons it for every later call. -/

namespace P2PLending.Messages

/-- A value behind a lock. -/
structure Mutex (α : Type) where
  value : α
  poisoned : Bool

/-- What the handler takes from `lightning`: the encoding of a byte vector and the texts of the
decoding errors. -/
structure Lightning where
  byteVec : Wire Bytes
  display : DecodeError → String

structure MessageHandler (P : Primitives) where
  msgReceived : Mutex (List (P.PublicKey × Message P))
  segmentReaders : Mutex (P.PublicKey → Option SegmentReader)

/-- Every error asks `lightning` to disconnect the peer. -/
structure LightningError where
  err : String
  deriving DecidableEq, Repr

def toLnError (e msg : String) : LightningError := { err := msg ++ " :" ++ e }

namespace SegmentStart

def wire (L : Lightning) : Wire SegmentStart where
  write m := List.flatten [u16.write m.nbSegments, L.byteVec.write m.data]
  read := do
    let nbSegments ← u16.read
    let data ← L.byteVec.read
    return { nbSegments, data }

end SegmentStart

namespace SegmentChunk

def wire (L : Lightning) : Wire SegmentChunk where
  write m := List.flatten [L.byteVec.write m.data]
  read := do
    let data ← L.byteVec.read
    return { data }

end SegmentChunk

namespace MessageHandler
variable {P : Primitives} (L : Lightning)

def new : MessageHandler P where
  msgReceived := { value := [], poisoned := false }
  segmentReaders := { value := fun _ => none, poisoned := false }

/-- The reader of custom messages. -/
def read (msgType : UInt16) : Reading (Option (WireMessage P)) :=
  if msgType = segmentStartType then do
    let s ← (SegmentStart.wire L).read
    return some (.segmentStart s)
  else if msgType = segmentChunkType then do
    let s ← (SegmentChunk.wire L).read
    return some (.segmentChunk s)
  else readDlcMessage msgType

/-- A panic with the readers locked. -/
def panic (h : MessageHandler P) :
    Except (Stop LightningError) Unit × MessageHandler P :=
  (.error .panicked, { h with segmentReaders := { h.segmentReaders with poisoned := true } })

/-- `self.msg_received.lock().unwrap().push((*org, m))`, with the readers locked -/
def push (h : MessageHandler P) (org : P.PublicKey) (m : Message P) :
    Except (Stop LightningError) Unit × MessageHandler P :=
  if h.msgReceived.poisoned then h.panic
  else (.ok (), { h with msgReceived :=
    { h.msgReceived with value := h.msgReceived.value ++ [(org, m)] } })

/-- The bytes of all segments: a type and the message of this type. -/
def reconstruct (h : MessageHandler P) (org : P.PublicKey) (bytes : Bytes) :
    Except (Stop LightningError) Unit × MessageHandler P :=
  let failed (e : DecodeError) : Except (Stop LightningError) Unit × MessageHandler P :=
    (.error (.failed
      (toLnError (L.display e) "Could not reconstruct message from segments")), h)
  match u16.read.run bytes with
  | .error e => failed e
  | .ok (messageType, buf) =>
      match (read (P := P) L messageType).run buf with
      | .error e => failed e
      -- `.expect("to have a message")`
      | .ok (none, _) => h.panic
      | .ok (some (.message m), _) => h.push org m
      | .ok (some _, _) => (.error (.failed
          (toLnError "Unexpected message type" (toString messageType.toNat))), h)

def getAndClearReceivedMessages :
    Handler (MessageHandler P) (Stop LightningError) (List (P.PublicKey × Message P)) := fun h =>
  if h.msgReceived.poisoned then (.error .panicked, h)
  else (.ok h.msgReceived.value, { h with msgReceived := { h.msgReceived with value := [] } })

section Readers
variable [DecidableEq P.PublicKey]

def setReader (h : MessageHandler P) (org : P.PublicKey) (r : SegmentReader) : MessageHandler P :=
  { h with segmentReaders :=
      { h.segmentReaders with value := Function.update h.segmentReaders.value org (some r) } }

def processChunk (h : MessageHandler P) (org : P.PublicKey) (r : SegmentReader) (s : SegmentChunk) :
    Except (Stop LightningError) Unit × MessageHandler P :=
  match SegmentReader.processSegmentChunk s r with
  | (.error (.failed e), next) => (.error (.failed
      (toLnError e.display "Error processing segment chunk")), h.setReader org next)
  | (.error .panicked, next) => (h.setReader org next).panic
  | (.ok none, next) => (.ok (), h.setReader org next)
  | (.ok (some bytes), next) => (h.setReader org next).reconstruct L org bytes

def receive (h : MessageHandler P) (org : P.PublicKey) (r : SegmentReader) :
    WireMessage P → Except (Stop LightningError) Unit × MessageHandler P
  | .message m => h.push org m
  | .segmentStart s =>
      match SegmentReader.processSegmentStart s r with
      | (.error (.failed e), next) => (.error (.failed
          (toLnError e.display "Error processing segment start")), h.setReader org next)
      | (.error .panicked, next) => (h.setReader org next).panic
      | (.ok (), next) => (.ok (), h.setReader org next)
  | .segmentChunk _ =>
      (.error (.failed { err := "Received a SegmentChunk while not expecting one." }), h)

def handleCustomMessage (msg : WireMessage P) (org : P.PublicKey) :
    Handler (MessageHandler P) (Stop LightningError) Unit := fun h =>
  if h.segmentReaders.poisoned then (.error .panicked, h)
  else
    let r := (h.segmentReaders.value org).getD .new
    let h := h.setReader org r
    if r.expectingChunk then
      match msg with
      | .segmentChunk s => h.processChunk L org r s
      | msg => (h.setReader org r.reset).receive org r.reset msg
    else h.receive org r msg

end Readers

/-- The type before a message. -/
def messageType (bytes : Bytes) : UInt16 := UInt16.ofNat (beValue (bytes.take 2))

/-- A type that `read` answers with no message. -/
def Unreadable (P : Primitives) (msgType : UInt16) : Prop :=
  msgType ≠ segmentStartType ∧ msgType ≠ segmentChunkType ∧
    (readers (P := P)).lookup msgType = none

/-- The last chunk of a message of such a type. -/
def CompletesUnreadable (h : MessageHandler P) (msg : WireMessage P) (org : P.PublicKey) : Prop :=
  ∃ s r, msg = .segmentChunk s ∧ h.segmentReaders.value org = some r ∧
    r.remainingSegments = 1 ∧ Unreadable P (messageType r.curData)

theorem read_unreadable {msgType : UInt16} (unreadable : Unreadable P msgType) (bytes : Bytes) :
    (read (P := P) L msgType).run bytes = .ok (none, bytes) := by
  unfold read
  rw [if_neg unreadable.1, if_neg unreadable.2.1]
  exact readDlcMessage_none msgType unreadable.2.2 bytes

theorem map_run_ne_none {α : Type} {r : Reading α} {variant : α → WireMessage P}
    {bytes rest : Bytes} : ((fun a => some (variant a)) <$> r).run bytes ≠ .ok (none, rest) := by
  intro read
  rw [StateT.run_map] at read
  match given : r.run bytes with
  | .error e =>
      rw [given] at read
      cases read
  | .ok result =>
      rw [given] at read
      cases read

theorem unreadable_of_read_none {msgType : UInt16} {bytes rest : Bytes}
    (nothing : (read (P := P) L msgType).run bytes = .ok (none, rest)) : Unreadable P msgType := by
  unfold read at nothing
  split at nothing
  · rw [bind_pure_comp] at nothing
    exact absurd nothing map_run_ne_none
  next start =>
  split at nothing
  · rw [bind_pure_comp] at nothing
    exact absurd nothing map_run_ne_none
  next chunk =>
  refine ⟨start, chunk, ?_⟩
  unfold readDlcMessage at nothing
  split at nothing
  · exact absurd nothing map_run_ne_none
  next unlisted => exact unlisted

end MessageHandler

namespace SegmentReader

/-- Partial data has at least the type of its message. -/
def Sound (r : SegmentReader) : Prop := r.Consistent ∧ (r.curData ≠ [] → 2 ≤ r.curData.length)

theorem new_sound : new.Sound := ⟨new_consistent, fun held => absurd rfl held⟩

theorem Sound.held {r : SegmentReader} (sound : r.Sound) (last : r.remainingSegments = 1) :
    r.curData ≠ [] := by
  intro empty
  have idle := sound.1.mpr empty
  rw [last] at idle
  cases idle

theorem processSegmentStart_sound (s : SegmentStart) {r : SegmentReader} (sound : r.Sound) :
    (processSegmentStart s r).2.Sound := by
  refine ⟨(processSegmentStart_spec s sound.1).2, ?_⟩
  unfold processSegmentStart
  split
  · exact sound.2
  split
  · exact sound.2
  split
  · exact sound.2
  next full =>
    intro _
    unfold maxStartDataSize at full
    dsimp only
    omega

theorem processSegmentChunk_sound (c : SegmentChunk) {r : SegmentReader} (sound : r.Sound) :
    (processSegmentChunk c r).2.Sound := by
  refine ⟨(processSegmentChunk_spec c sound.1).2, ?_⟩
  unfold processSegmentChunk
  split
  · exact sound.2
  next held =>
  have long := sound.2 held
  have longer : 2 ≤ (r.curData ++ c.data).length := by
    rw [List.length_append]
    omega
  split
  · exact sound.2
  dsimp only
  split
  · exact fun _ => longer
  split
  · exact fun empty => absurd rfl empty
  · exact fun _ => longer

/-- A reader returns all that it has, and only when one chunk is left. -/
theorem processSegmentChunk_some {c : SegmentChunk} {r next : SegmentReader} {bytes : Bytes}
    (completed : processSegmentChunk c r = (.ok (some bytes), next)) :
    r.remainingSegments = 1 ∧ r.curData ≠ [] ∧ bytes = r.curData ++ c.data := by
  unfold processSegmentChunk at completed
  split at completed
  · cases completed
  next held =>
  split at completed
  · cases completed
  dsimp only at completed
  split at completed
  · cases completed
  split at completed
  · next last =>
    cases completed
    exact ⟨by grind, held, rfl⟩
  · cases completed

end SegmentReader

namespace MessageHandler
variable {P : Primitives} (L : Lightning)

structure Sound (h : MessageHandler P) : Prop where
  received : h.msgReceived.poisoned = false
  unlocked : h.segmentReaders.poisoned = false
  readers : ∀ org r, h.segmentReaders.value org = some r → r.Sound

theorem new_sound : (new : MessageHandler P).Sound where
  received := rfl
  unlocked := rfl
  readers _ _ absent := by cases absent

theorem reader_sound {h : MessageHandler P} (sound : h.Sound) (org : P.PublicKey) :
    ((h.segmentReaders.value org).getD .new).Sound := by
  cases listed : h.segmentReaders.value org with
  | none => exact SegmentReader.new_sound
  | some r => exact sound.readers org r listed

/-- A call for a peer that does not panic, and when it fails leaves what it has of the others. -/
structure Harmless (h : MessageHandler P) (org : P.PublicKey)
    (outcome : Except (Stop LightningError) Unit × MessageHandler P) : Prop where
  answers : outcome.1 ≠ .error .panicked
  sound : outcome.2.Sound
  others : ∀ peer, peer ≠ org →
    outcome.2.segmentReaders.value peer = h.segmentReaders.value peer
  queued : ∀ e, outcome.1 = .error e → outcome.2.msgReceived = h.msgReceived

theorem failed_harmless {h : MessageHandler P} (sound : h.Sound) (org : P.PublicKey)
    (e : LightningError) : Harmless h org (.error (.failed e), h) where
  answers := by simp
  sound := sound
  others _ _ := rfl
  queued _ _ := rfl

theorem ok_harmless {h : MessageHandler P} (sound : h.Sound) (org : P.PublicKey) :
    Harmless h org (.ok (), h) where
  answers := by simp
  sound := sound
  others _ _ := rfl
  queued _ failed := by cases failed

theorem push_harmless {h : MessageHandler P} (sound : h.Sound) (org : P.PublicKey)
    (m : Message P) : Harmless h org (h.push org m) := by
  unfold push
  rw [sound.received]
  exact {
    answers := by simp
    sound := { received := sound.received, unlocked := sound.unlocked, readers := sound.readers }
    others := fun _ _ => rfl
    queued := fun e failed => by cases failed }

theorem getAndClear_sound {h : MessageHandler P} (sound : h.Sound) :
    (getAndClearReceivedMessages h).1 ≠ .error .panicked ∧
      (getAndClearReceivedMessages h).2.Sound := by
  unfold getAndClearReceivedMessages
  rw [sound.received]
  constructor
  · simp
  · exact { received := sound.received, unlocked := sound.unlocked, readers := sound.readers }

/-- A type is read of whatever has two bytes. -/
theorem u16_run {bytes : Bytes} (typed : 2 ≤ bytes.length) :
    u16.read.run bytes = .ok (messageType bytes, bytes.drop 2) := by
  have taken : (readBytes DecodeError.shortRead 2).run bytes =
      .ok (bytes.take 2, bytes.drop 2) := if_pos typed
  have value : u16.read = UInt16.ofNat <$> (beValue <$> readBytes .shortRead 2) := rfl
  rw [value, StateT.run_map, StateT.run_map, taken]
  rfl

theorem reconstruct_harmless {h : MessageHandler P} (sound : h.Sound) (org : P.PublicKey)
    {bytes : Bytes} (typed : 2 ≤ bytes.length) (readable : ¬ Unreadable P (messageType bytes)) :
    Harmless h org (h.reconstruct L org bytes) := by
  unfold reconstruct
  rw [u16_run typed]
  dsimp only
  match answer : (read (P := P) L (messageType bytes)).run (bytes.drop 2) with
  | .error e => exact failed_harmless sound org _
  | .ok (none, rest) => exact absurd (unreadable_of_read_none L answer) readable
  | .ok (some (.message m), rest) => exact push_harmless sound org m
  | .ok (some (.segmentStart s), rest) => exact failed_harmless sound org _
  | .ok (some (.segmentChunk s), rest) => exact failed_harmless sound org _

theorem reconstruct_panics {h : MessageHandler P} (org : P.PublicKey) {bytes : Bytes}
    (typed : 2 ≤ bytes.length) (unreadable : Unreadable P (messageType bytes)) :
    h.reconstruct L org bytes = h.panic := by
  unfold reconstruct
  rw [u16_run typed]
  dsimp only
  rw [read_unreadable L unreadable]

section Readers
variable [DecidableEq P.PublicKey]

theorem setReader_reader (h : MessageHandler P) (org : P.PublicKey) (r : SegmentReader) :
    (h.setReader org r).segmentReaders.value org = some r :=
  Function.update_self ..

theorem setReader_sound {h : MessageHandler P} (sound : h.Sound) (org : P.PublicKey)
    {r : SegmentReader} (reader : r.Sound) : (h.setReader org r).Sound where
  received := sound.received
  unlocked := sound.unlocked
  readers := by
    intro peer r' listed
    have listed : Function.update h.segmentReaders.value org (some r) peer = some r' := listed
    by_cases same : peer = org
    · rw [same, Function.update_self] at listed
      cases listed
      exact reader
    · rw [Function.update_of_ne same] at listed
      exact sound.readers peer r' listed

/-- A change to the peer's own reader comes before the call. -/
theorem Harmless.of_setReader {h : MessageHandler P} {org : P.PublicKey} {r : SegmentReader}
    {outcome : Except (Stop LightningError) Unit × MessageHandler P}
    (after : Harmless (h.setReader org r) org outcome) : Harmless h org outcome where
  answers := after.answers
  sound := after.sound
  others peer other := (after.others peer other).trans (Function.update_of_ne other _ _)
  queued := after.queued

theorem receive_harmless {h : MessageHandler P} (sound : h.Sound) (org : P.PublicKey)
    {r : SegmentReader} (reader : r.Sound) (msg : WireMessage P) :
    Harmless h org (h.receive org r msg) := by
  cases msg with
  | message m => exact push_harmless sound org m
  | segmentChunk s => exact failed_harmless sound org _
  | segmentStart s =>
      have next := setReader_sound sound org (SegmentReader.processSegmentStart_sound s reader)
      have answers := (SegmentReader.processSegmentStart_spec s reader.1).1
      unfold receive
      dsimp only
      match answer : SegmentReader.processSegmentStart s r with
      | (.error (.failed e), r') =>
          rw [answer] at next
          exact (failed_harmless next org _).of_setReader
      | (.error .panicked, r') =>
          rw [answer] at answers
          exact absurd rfl answers
      | (.ok (), r') =>
          rw [answer] at next
          exact (ok_harmless next org).of_setReader

theorem processChunk_harmless {h : MessageHandler P} (sound : h.Sound) (org : P.PublicKey)
    {r : SegmentReader} (reader : r.Sound) (s : SegmentChunk)
    (readable : r.remainingSegments = 1 → ¬ Unreadable P (messageType r.curData)) :
    Harmless h org (h.processChunk L org r s) := by
  have next := setReader_sound sound org (SegmentReader.processSegmentChunk_sound s reader)
  have answers := (SegmentReader.processSegmentChunk_spec s reader.1).1
  unfold processChunk
  match answer : SegmentReader.processSegmentChunk s r with
  | (.error (.failed e), r') =>
      rw [answer] at next
      exact (failed_harmless next org _).of_setReader
  | (.error .panicked, r') =>
      rw [answer] at answers
      exact absurd rfl answers
  | (.ok none, r') =>
      rw [answer] at next
      exact (ok_harmless next org).of_setReader
  | (.ok (some bytes), r') =>
      rw [answer] at next
      obtain ⟨last, held, rfl⟩ := SegmentReader.processSegmentChunk_some answer
      have typed := reader.2 held
      have same : messageType (r.curData ++ s.data) = messageType r.curData := by
        unfold messageType
        rw [List.take_append_of_le_length typed]
      apply Harmless.of_setReader
      apply reconstruct_harmless L next org
      · rw [List.length_append]
        omega
      · rw [same]
        exact readable last

theorem handleCustomMessage_harmless {h : MessageHandler P} (sound : h.Sound)
    {msg : WireMessage P} {org : P.PublicKey} (readable : ¬ CompletesUnreadable h msg org) :
    Harmless h org (handleCustomMessage L msg org h) := by
  have reader := reader_sound sound org
  have entered := setReader_sound sound org reader
  unfold handleCustomMessage
  rw [sound.unlocked]
  dsimp only
  rw [if_neg Bool.false_ne_true]
  split
  · next expecting =>
    split
    · next s =>
      refine (processChunk_harmless L entered org reader s fun last unreadable => ?_).of_setReader
      cases listed : h.segmentReaders.value org with
      | none =>
          rw [listed] at expecting
          cases expecting
      | some r =>
          rw [listed] at last unreadable
          exact readable ⟨s, r, rfl, listed, last, unreadable⟩
    · next other =>
      have cleared := setReader_sound entered org SegmentReader.new_sound
      exact (receive_harmless cleared org SegmentReader.new_sound msg).of_setReader.of_setReader
  · exact (receive_harmless entered org reader msg).of_setReader

theorem handleCustomMessage_first {h : MessageHandler P} {org : P.PublicKey} (msg : WireMessage P)
    (unlocked : h.segmentReaders.poisoned = false)
    (first : h.segmentReaders.value org = none) :
    handleCustomMessage L msg org h = (h.setReader org .new).receive org .new msg := by
  unfold handleCustomMessage
  rw [unlocked, first]
  rfl

theorem handleCustomMessage_panics {h : MessageHandler P} (sound : h.Sound)
    {msg : WireMessage P} {org : P.PublicKey} (unreadable : CompletesUnreadable h msg org) :
    (handleCustomMessage L msg org h).1 = .error .panicked ∧
      (handleCustomMessage L msg org h).2.segmentReaders.poisoned = true := by
  obtain ⟨s, r, rfl, listed, last, untyped⟩ := unreadable
  have reader := sound.readers org r listed
  have expecting : r.expectingChunk = true := by
    unfold SegmentReader.expectingChunk
    rw [last]
    rfl
  have held := reader.held last
  have typed := reader.2 held
  unfold handleCustomMessage
  rw [sound.unlocked, listed]
  dsimp only [Option.getD_some]
  rw [if_neg Bool.false_ne_true, if_pos expecting]
  unfold processChunk
  rw [SegmentReader.processSegmentChunk_last s held last]
  dsimp only
  rw [reconstruct_panics]
  · exact ⟨rfl, rfl⟩
  · rw [List.length_append]
    omega
  · unfold messageType
    rw [List.take_append_of_le_length typed]
    exact untyped

inductive Action (P : Primitives)
  | custom (msg : WireMessage P) (org : P.PublicKey)
  | getAndClear

def step (h : MessageHandler P) : Action P → MessageHandler P → Prop
  | .custom msg org, t => (handleCustomMessage L msg org h).2 = t
  | .getAndClear, t => (getAndClearReceivedMessages h).2 = t

def queued (h : MessageHandler P) (peer : P.PublicKey) : List (P.PublicKey × Message P) :=
  h.msgReceived.value.filter fun received => received.1 = peer

/-- No panic, and an error for one peer leaves the readers and the messages of the others. -/
def Safe (h : MessageHandler P) : Action P → MessageHandler P → Prop
  | .custom msg org, t =>
      (handleCustomMessage L msg org h).1 ≠ .error .panicked ∧
        ∀ e, (handleCustomMessage L msg org h).1 = .error e → ∀ peer, peer ≠ org →
          t.segmentReaders.value peer = h.segmentReaders.value peer ∧
            t.queued peer = h.queued peer
  | .getAndClear, _ => (getAndClearReceivedMessages h).1 ≠ .error .panicked

def Readable (h : MessageHandler P) : Action P → Prop
  | .custom msg org => ¬ CompletesUnreadable h msg org
  | .getAndClear => True

theorem safe_iff_readable {h t : MessageHandler P} (sound : h.Sound) {a : Action P}
    (stepped : step L h a t) : Safe L h a t ↔ Readable h a := by
  cases a with
  | getAndClear => exact iff_of_true (getAndClear_sound sound).1 trivial
  | custom msg org =>
      constructor
      · intro safe unreadable
        exact safe.1 (handleCustomMessage_panics L sound unreadable).1
      · intro readable
        have harmless := handleCustomMessage_harmless L sound readable
        have reached : (handleCustomMessage L msg org h).2 = t := stepped
        refine ⟨harmless.answers, fun e failed peer other => ?_⟩
        have same := harmless.queued e failed
        have apart := harmless.others peer other
        rw [reached] at same apart
        refine ⟨apart, ?_⟩
        unfold queued
        rw [same]

theorem step_sound {h t : MessageHandler P} {a : Action P} (sound : h.Sound)
    (stepped : step L h a t) (readable : Readable h a) : t.Sound := by
  cases a with
  | getAndClear =>
      have reached : (getAndClearReceivedMessages h).2 = t := stepped
      rw [← reached]
      exact (getAndClear_sound sound).2
  | custom msg org =>
      have reached : (handleCustomMessage L msg org h).2 = t := stepped
      rw [← reached]
      exact (handleCustomMessage_harmless L sound readable).sound

/-- The calls of a run are all safe exactly when no chunk completes a message of a type that has
no reader. -/
theorem safe_run_iff (actions : List (Action P)) (h : MessageHandler P) :
    Run (fun s a t => step L s a t ∧ Safe L s a t) new actions h ↔
      Run (guarded (step L) Readable) new actions h := by
  apply Run.steps_iff_guarded_of_admitted (I := Sound)
  · exact new_sound
  · intro s a t sound stepped readable
    exact step_sound L sound stepped readable
  · intro s a t sound stepped
    exact safe_iff_readable L sound stepped

/-- A poisoned lock stays poisoned, and whatever comes next panics on it. -/
theorem poisoned_run {actions : List (Action P)} {h t : MessageHandler P}
    (poisoned : h.segmentReaders.poisoned = true) (run : Run (step L) h actions t)
    (msg : WireMessage P) (org : P.PublicKey) :
    (handleCustomMessage L msg org t).1 = .error .panicked := by
  have kept : t.segmentReaders.poisoned = true := by
    apply run.invariant (fun s => s.segmentReaders.poisoned = true) poisoned
    intro s a s' locked stepped
    cases a with
    | custom msg org =>
        have reached : (handleCustomMessage L msg org s).2 = s' := stepped
        unfold handleCustomMessage at reached
        rw [if_pos locked] at reached
        rw [← reached]
        exact locked
    | getAndClear =>
        have reached : (getAndClearReceivedMessages s).2 = s' := stepped
        unfold getAndClearReceivedMessages at reached
        rw [← reached]
        split <;> exact locked
  unfold handleCustomMessage
  rw [if_pos kept]

end Readers

section Examples

def plainLightning : Lightning where
  byteVec := script
  display
    | .unknownRequiredFeature => "Unknown required feature preventing decode"
    | .invalidValue => "Nonsense bytes didn't map to the type they were interpreted as"
    | .shortRead => "Packet extended beyond the provided bytes"

instance : DecidableEq plainPrimitives.PublicKey :=
  inferInstanceAs (DecidableEq { b : Bytes // b.length = 33 })

def samplePeer : plainPrimitives.PublicKey := ⟨List.replicate 33 2, List.length_replicate⟩

/-- The type of a `RenewRevoke`, and two segments for it. -/
def sampleStart : SegmentStart where
  nbSegments := 2
  data := [168, 18] ++ List.replicate (maxStartDataSize - 2) 0

def sampleStarted : MessageHandler plainPrimitives :=
  (handleCustomMessage plainLightning (.segmentStart sampleStart) samplePeer new).2

theorem sampleStarted_reader : sampleStarted.segmentReaders.value samplePeer =
    some { curData := sampleStart.data, remainingSegments := 1 } := by
  have filled : sampleStart.data.length = maxStartDataSize := by
    unfold sampleStart
    rw [List.length_append, List.length_replicate]
    rfl
  have started := SegmentReader.processSegmentStart_new (s := sampleStart) (by decide) (by decide)
    filled
  rw [sampleStarted, handleCustomMessage_first plainLightning _ rfl rfl, receive, started]
  dsimp only
  rw [setReader_reader]
  rfl

/-- A start with this type and an empty chunk are enough, from any peer and for good. -/
theorem revocation_segments_panic :
    (handleCustomMessage plainLightning (.segmentChunk ⟨[]⟩) samplePeer sampleStarted).1 =
        .error .panicked ∧
      ∀ msg org, (handleCustomMessage plainLightning msg org
        (handleCustomMessage plainLightning (.segmentChunk ⟨[]⟩) samplePeer sampleStarted).2).1 =
          .error .panicked := by
  have sound : sampleStarted.Sound := by
    rw [sampleStarted]
    apply (handleCustomMessage_harmless plainLightning new_sound _).sound
    rintro ⟨s, r, chunk, _⟩
    cases chunk
  have unreadable : CompletesUnreadable sampleStarted (.segmentChunk ⟨[]⟩) samplePeer :=
    ⟨⟨[]⟩, _, rfl, sampleStarted_reader, rfl, by decide, by decide, rfl⟩
  have panicked := handleCustomMessage_panics plainLightning sound unreadable
  constructor
  · exact panicked.1
  · intro msg org
    exact poisoned_run plainLightning panicked.2 .nil msg org

end Examples

end MessageHandler

end P2PLending.Messages
