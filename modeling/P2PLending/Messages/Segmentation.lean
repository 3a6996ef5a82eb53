import P2PLending.Messages.Encoding
import P2PLending.Foundation.Handler

/-! Messages that are too long for one packet. `getSegments` cuts a message, behind its type,
into a start and chunks; a `SegmentReader` puts them together. -/

namespace P2PLending.Messages

def segmentStartType : UInt16 := 42900
def segmentChunkType : UInt16 := 42902

def maxDataSize : ℕ := 65535
def maxStartDataSize : ℕ := 65526
def maxChunkSize : ℕ := 65528
def maxSegments : UInt16 := 1000

structure SegmentStart where
  nbSegments : UInt16
  data : Bytes
  deriving DecidableEq, Repr

structure SegmentChunk where
  data : Bytes
  deriving DecidableEq, Repr

/-- How a call ends that returns no value. -/
inductive Stop (ε : Type)
  | failed (e : ε)
  | panicked
  deriving DecidableEq, Repr

theorem ofNat_succ_sub_one (n : ℕ) : UInt16.ofNat (n + 1) - 1 = UInt16.ofNat n := by
  rw [UInt16.ofNat_add]
  exact UInt16.add_sub_cancel _ 1

/-- The loop that takes a chunk at a time from the front of the data. -/
def drainChunks : ℕ → Bytes → List SegmentChunk
  | 0, _ => []
  | n + 1, data =>
      let toTake := min data.length maxChunkSize
      ⟨data.take toTake⟩ :: drainChunks n (data.drop toTake)

theorem drainChunks_length (n : ℕ) (data : Bytes) : (drainChunks n data).length = n := by
  induction n generalizing data with
  | zero => rfl
  | succ n ih =>
      rw [drainChunks, List.length_cons, ih]

/-- The first segments and chunks that are full, and one more for what is left. -/
def nbSegments (lenMinusStart : ℕ) : Except (Stop Empty) ℕ :=
  let nb := (lenMinusStart / maxChunkSize + 1) % 2 ^ 16
  if lenMinusStart % maxChunkSize ≠ 0 then Checked.add (2 ^ 16) .panicked nb 1 else .ok nb

/-- A debug build stops at the assertions and at the addition. -/
def getSegments (data : Bytes) (msgType : UInt16) :
    Except (Stop Empty) (SegmentStart × List SegmentChunk) := do
  Checked.ensure (maxDataSize < data.length) .panicked
  let nb ← nbSegments (data.length - maxStartDataSize + 2)
  Checked.ensure (1 < nb) .panicked
  let startData := u16.write msgType ++ data.take (maxStartDataSize - 2)
  Checked.ensure (startData.length = maxStartDataSize) .panicked
  return ({ nbSegments := UInt16.ofNat nb, data := startData },
    drainChunks (nb - 1) (data.drop (maxStartDataSize - 2)))

inductive SegmentationError
  | invalidState (s : String)
  | invalidParameter (s : String)
  deriving DecidableEq, Repr

def SegmentationError.display : SegmentationError → String
  | invalidState s => "Invalid state " ++ s
  | invalidParameter s => "Invalid parameters were provided: " ++ s

structure SegmentReader where
  curData : Bytes
  remainingSegments : UInt16
  deriving DecidableEq, Repr

namespace SegmentReader

def new : SegmentReader := { curData := [], remainingSegments := 0 }

def reset : SegmentReader → SegmentReader := fun _ => { curData := [], remainingSegments := 0 }

def expectingChunk (r : SegmentReader) : Bool := r.remainingSegments != 0

def processSegmentStart (s : SegmentStart) : Handler SegmentReader (Stop SegmentationError) Unit :=
  fun r =>
    if r.curData ≠ [] then
      (.error (.failed (.invalidState
        "Received segment start while cur data buffer is not empty.")), r)
    else if s.nbSegments < 2 ∨ maxSegments < s.nbSegments then
      (.error (.failed (.invalidParameter
        "Segment start must specify at least two chunks and maximum a thousand.")), r)
    else if s.data.length < maxStartDataSize then
      (.error (.failed (.invalidParameter
        "Segment start data should be filled to its maximum capacity.")), r)
    else (.ok (), { curData := s.data, remainingSegments := s.nbSegments - 1 })

def processSegmentChunk (c : SegmentChunk) :
    Handler SegmentReader (Stop SegmentationError) (Option Bytes) :=
  fun r =>
    if r.curData = [] then
      (.error (.failed (.invalidState
        "Received segment chunk while cur data buffer is empty.")), r)
    else if 1 < r.remainingSegments ∧ c.data.length ≠ maxChunkSize then
      (.error (.failed (.invalidParameter
        "Receive non final segment chunk that was not not filled.")), r)
    else
      let curData := r.curData ++ c.data
      -- the subtraction of `remaining_segments -= 1`
      if r.remainingSegments = 0 then (.error .panicked, { r with curData })
      else if r.remainingSegments - 1 = 0 then
        (.ok (some curData), { curData := [], remainingSegments := 0 })
      else (.ok none, { curData, remainingSegments := r.remainingSegments - 1 })

/-- No chunk is expected exactly when no partial data is held. -/
def Consistent (r : SegmentReader) : Prop := r.remainingSegments = 0 ↔ r.curData = []

theorem new_consistent : new.Consistent := by
  unfold Consistent new
  simp

theorem reset_eq_new (r : SegmentReader) : r.reset = new := rfl

theorem processSegmentStart_spec (s : SegmentStart) {r : SegmentReader} (consistent : r.Consistent) :
    (processSegmentStart s r).1 ≠ .error .panicked ∧ (processSegmentStart s r).2.Consistent := by
  unfold processSegmentStart
  split
  · simpa using consistent
  split
  · simpa using consistent
  next counted =>
  split
  · simpa using consistent
  next full =>
    have many : s.nbSegments - 1 ≠ 0 := by grind
    have held : s.data ≠ [] := by
      rintro empty
      rw [empty] at full
      exact full (by decide)
    constructor
    · simp
    · exact iff_of_false many held

theorem processSegmentStart_new {s : SegmentStart} (counted : 2 ≤ s.nbSegments)
    (allowed : s.nbSegments ≤ maxSegments) (filled : s.data.length = maxStartDataSize) :
    processSegmentStart s new =
      (.ok (), { curData := s.data, remainingSegments := s.nbSegments - 1 }) := by
  have fits : ¬ (s.nbSegments < 2 ∨ maxSegments < s.nbSegments) :=
    not_or.mpr ⟨UInt16.not_lt.mpr counted, UInt16.not_lt.mpr allowed⟩
  have idle : ¬ new.curData ≠ [] := fun held => held rfl
  unfold processSegmentStart
  rw [if_neg idle, if_neg fits, if_neg (by omega)]

theorem processSegmentChunk_spec (c : SegmentChunk) {r : SegmentReader} (consistent : r.Consistent) :
    (processSegmentChunk c r).1 ≠ .error .panicked ∧ (processSegmentChunk c r).2.Consistent := by
  unfold processSegmentChunk
  split
  · simpa using consistent
  next held =>
  split
  · simpa using consistent
  have expecting : r.remainingSegments ≠ 0 := fun idle => held (consistent.mp idle)
  dsimp only
  rw [if_neg expecting]
  split
  · exact ⟨by simp, new_consistent⟩
  next more =>
    have longer : r.curData ++ c.data ≠ [] := by simp [held]
    constructor
    · simp
    · exact iff_of_false more longer

end SegmentReader

inductive Segment
  | start (s : SegmentStart)
  | chunk (c : SegmentChunk)
  deriving DecidableEq, Repr

namespace SegmentReader

def process : Segment → Handler SegmentReader (Stop SegmentationError) (Option Bytes)
  | .start s => do
      processSegmentStart s
      return none
  | .chunk c => processSegmentChunk c

/-- The answers to segments in their order, and the reader after them. -/
def feed (r : SegmentReader) :
    List Segment → List (Except (Stop SegmentationError) (Option Bytes)) × SegmentReader
  | [] => ([], r)
  | s :: rest =>
      let (answer, next) := process s r
      let (answers, last) := feed next rest
      (answer :: answers, last)

theorem feed_cons (r : SegmentReader) (s : Segment) (rest : List Segment) :
    feed r (s :: rest) = ((process s r).1 :: (feed (process s r).2 rest).1,
      (feed (process s r).2 rest).2) := rfl

theorem process_spec (s : Segment) {r : SegmentReader} (consistent : r.Consistent) :
    (process s r).1 ≠ .error .panicked ∧ (process s r).2.Consistent := by
  cases s with
  | start s =>
      have started := processSegmentStart_spec s consistent
      rw [process, Handler.bind_apply]
      match answer : processSegmentStart s r with
      | (.ok u, next) =>
          rw [answer] at started
          exact ⟨by simp, started.2⟩
      | (.error e, next) =>
          rw [answer] at started
          exact ⟨by simpa using started.1, started.2⟩
  | chunk c => exact processSegmentChunk_spec c consistent

theorem feed_spec (segments : List Segment) {r : SegmentReader} (consistent : r.Consistent) :
    (∀ answer ∈ (feed r segments).1, answer ≠ .error .panicked) ∧
      (feed r segments).2.Consistent := by
  induction segments generalizing r with
  | nil => exact ⟨by simp [feed], consistent⟩
  | cons s rest ih =>
      have first := process_spec s consistent
      have others := ih first.2
      constructor
      · rw [feed_cons, List.forall_mem_cons]
        exact ⟨first.1, others.1⟩
      · exact others.2

/-- A chunk that is not the last one. -/
theorem processSegmentChunk_more {r : SegmentReader} {c : SegmentChunk} (held : r.curData ≠ [])
    (more : 1 < r.remainingSegments) (full : c.data.length = maxChunkSize) :
    processSegmentChunk c r = (.ok none,
      { curData := r.curData ++ c.data, remainingSegments := r.remainingSegments - 1 }) := by
  have expecting : r.remainingSegments ≠ 0 := by grind
  have later : r.remainingSegments - 1 ≠ 0 := by grind
  unfold processSegmentChunk
  rw [if_neg held, if_neg fun short => short.2 full]
  dsimp only
  rw [if_neg expecting, if_neg later]

theorem processSegmentChunk_last {r : SegmentReader} (c : SegmentChunk) (held : r.curData ≠ [])
    (last : r.remainingSegments = 1) :
    processSegmentChunk c r = (.ok (some (r.curData ++ c.data)), new) := by
  unfold processSegmentChunk
  rw [if_neg held, last]
  simp [new]

/-- So many chunks hold the data: all are full but the last one, which is not empty. -/
theorem feed_drainChunks {n : ℕ} (data : Bytes) {r : SegmentReader} (held : r.curData ≠ [])
    (expected : r.remainingSegments = UInt16.ofNat (n + 1)) (small : n + 1 < 2 ^ 16)
    (above : n * maxChunkSize < data.length) (below : data.length ≤ (n + 1) * maxChunkSize) :
    feed r ((drainChunks (n + 1) data).map .chunk) =
      (List.replicate n (.ok none) ++ [.ok (some (r.curData ++ data))], new) := by
  induction n generalizing data r with
  | zero =>
      have whole : min data.length maxChunkSize = data.length := by omega
      have only : process (.chunk ⟨data⟩) r = (.ok (some (r.curData ++ data)), new) :=
        processSegmentChunk_last ⟨data⟩ held expected
      simp only [drainChunks, whole, List.take_length, List.map_cons, List.map_nil]
      rw [feed_cons, only]
      rfl
  | succ n ih =>
      have capacity : maxChunkSize ≤ data.length := by
        rw [Nat.succ_mul] at above
        omega
      have full : min data.length maxChunkSize = maxChunkSize := Nat.min_eq_right capacity
      have first : (data.take maxChunkSize).length = maxChunkSize := by
        rw [List.length_take, Nat.min_comm]
        exact full
      have left : (data.drop maxChunkSize).length = data.length - maxChunkSize := List.length_drop
      have more : 1 < r.remainingSegments := by
        rw [expected, UInt16.lt_iff_toNat_lt, UInt16.toNat_ofNat_of_lt' small]
        exact Nat.lt_of_sub_pos n.succ_pos
      have next : process (.chunk ⟨data.take maxChunkSize⟩) r = (.ok none,
          { curData := r.curData ++ data.take maxChunkSize,
            remainingSegments := r.remainingSegments - 1 }) :=
        processSegmentChunk_more held more first
      have fewer : r.remainingSegments - 1 = UInt16.ofNat (n + 1) := by
        rw [expected]
        exact ofNat_succ_sub_one (n + 1)
      have rest := ih (data.drop maxChunkSize)
        (r := { curData := r.curData ++ data.take maxChunkSize,
                remainingSegments := r.remainingSegments - 1 })
        (by simp [held]) fewer (by omega) (by rw [Nat.succ_mul] at above; omega)
        (by rw [Nat.succ_mul] at below; omega)
      rw [drainChunks, full, List.map_cons, feed_cons, next, rest, List.append_assoc,
        List.take_append_drop]
      rfl

end SegmentReader

/-- The start and the chunks that the reader's count allows. -/
def Segmentable (data : Bytes) : Prop :=
  maxDataSize < data.length ∧
    data.length + 2 ≤ maxStartDataSize + (maxSegments.toNat - 1) * maxChunkSize

theorem u16_length (n : UInt16) : (u16.write n).length = 2 := beBytes_length 2 n.toNat

theorem start_length (msgType : UInt16) {data : Bytes} (long : maxDataSize < data.length) :
    (u16.write msgType ++ data.take (maxStartDataSize - 2)).length = maxStartDataSize := by
  unfold maxDataSize at long
  rw [List.length_append, u16_length, List.length_take]
  unfold maxStartDataSize
  omega

/-- As few chunks as hold what the start leaves, up to what a count of 16 bits allows. -/
theorem nbSegments_eq {left most : ℕ} (some_left : 0 < left) (allowed : most ≤ 65534)
    (fits : left ≤ most * maxChunkSize) :
    ∃ n, nbSegments left = .ok (n + 2) ∧ n < most ∧
      n * maxChunkSize < left ∧ left ≤ (n + 1) * maxChunkSize := by
  unfold maxChunkSize at fits
  have split : left / 65528 * 65528 + left % 65528 = left := Nat.div_add_mod' left 65528
  have short : left % 65528 < 65528 := Nat.mod_lt _ (by decide)
  have bounded : left / 65528 ≤ most := Nat.div_le_of_le_mul (by rwa [Nat.mul_comm])
  have whole : (left / 65528 + 1) % 2 ^ 16 = left / 65528 + 1 := Nat.mod_eq_of_lt (by omega)
  unfold nbSegments maxChunkSize
  rw [whole]
  clear whole
  generalize left / 65528 = full at *
  generalize left % 65528 = rest at *
  by_cases multiple : rest = 0
  · cases full with
    | zero => omega
    | succ fewer =>
        rw [multiple, Nat.add_zero] at split
        refine ⟨fewer, ?_, bounded, by omega, split.ge⟩
        rw [if_neg (not_not.mpr multiple)]
  · have fewer : full < most := by
      by_contra reached
      have exact : full = most := by omega
      rw [exact] at split
      omega
    refine ⟨full, ?_, fewer, by omega, ?_⟩
    · rw [if_pos multiple]
      exact Checked.fit_of_lt _ (by omega)
    · rw [Nat.succ_mul, ← split]
      exact Nat.add_le_add_left short.le _

theorem getSegments_eq (msgType : UInt16) {data : Bytes} {most : ℕ}
    (long : maxDataSize < data.length) (allowed : most ≤ 65534)
    (fits : data.length + 2 ≤ maxStartDataSize + most * maxChunkSize) :
    ∃ n, getSegments data msgType =
        .ok ({ nbSegments := UInt16.ofNat (n + 2),
               data := u16.write msgType ++ data.take (maxStartDataSize - 2) },
          drainChunks (n + 1) (data.drop (maxStartDataSize - 2))) ∧ n < most ∧
      n * maxChunkSize < (data.drop (maxStartDataSize - 2)).length ∧
      (data.drop (maxStartDataSize - 2)).length ≤ (n + 1) * maxChunkSize := by
  have filled := start_length msgType long
  have left : data.length - maxStartDataSize + 2 = (data.drop (maxStartDataSize - 2)).length := by
    rw [List.length_drop]
    simp only [maxDataSize, maxStartDataSize] at long ⊢
    omega
  have covered : data.length - maxStartDataSize + 2 ≤ most * maxChunkSize := by
    simp only [maxDataSize, maxStartDataSize] at long fits ⊢
    omega
  obtain ⟨n, counted, few, above, below⟩ := nbSegments_eq (by omega) allowed covered
  rw [left] at above below
  refine ⟨n, ?_, few, above, below⟩
  have several : 1 < n + 2 := by omega
  unfold getSegments Checked.ensure
  rw [if_pos long, counted]
  simp only [Checked.ok_bind, if_pos several, if_pos filled]
  rfl

/-- Nothing before the last chunk, and then the type with the payload; and no segments at all
let the count of a reader go below zero or leave data in an idle reader. -/
theorem segmentation :
    (∀ (msgType : UInt16) (data : Bytes), Segmentable data → ∃ start chunks,
      getSegments data msgType = .ok (start, chunks) ∧
        SegmentReader.new.feed (.start start :: chunks.map .chunk) =
          (List.replicate chunks.length (.ok none) ++ [.ok (some (u16.write msgType ++ data))],
            .new)) ∧
    ∀ segments : List Segment,
      (∀ answer ∈ (SegmentReader.new.feed segments).1, answer ≠ .error .panicked) ∧
        ((SegmentReader.new.feed segments).2.expectingChunk = false ↔
          (SegmentReader.new.feed segments).2.curData = []) := by
  constructor
  · intro msgType data segmentable
    have limit : maxSegments.toNat - 1 = 999 := by decide
    have fits := segmentable.2
    rw [limit] at fits
    obtain ⟨n, cut, few, above, below⟩ :=
      getSegments_eq msgType segmentable.1 (by decide) fits
    let start : SegmentStart :=
      { nbSegments := UInt16.ofNat (n + 2),
        data := u16.write msgType ++ data.take (maxStartDataSize - 2) }
    let left := data.drop (maxStartDataSize - 2)
    have filled : start.data.length = maxStartDataSize := start_length msgType segmentable.1
    have held : start.data ≠ [] := by
      intro empty
      rw [empty] at filled
      cases filled
    have started : SegmentReader.process (.start start) .new = (.ok none,
        { curData := start.data, remainingSegments := UInt16.ofNat (n + 1) }) := by
      have small : n + 2 < 2 ^ 16 := by omega
      have value : (UInt16.ofNat (n + 2)).toNat = n + 2 := UInt16.toNat_ofNat_of_lt' small
      have counted : 2 ≤ start.nbSegments := by
        rw [UInt16.le_iff_toNat_le, value]
        exact Nat.le_add_left 2 n
      have allowed : start.nbSegments ≤ maxSegments := by
        rw [UInt16.le_iff_toNat_le, value]
        exact Nat.le_of_lt_succ (by omega : n + 2 < 1001)
      have fewer : start.nbSegments - 1 = UInt16.ofNat (n + 1) := ofNat_succ_sub_one (n + 1)
      rw [SegmentReader.process, Handler.bind_apply,
        SegmentReader.processSegmentStart_new counted allowed filled, fewer]
      rfl
    have rest := SegmentReader.feed_drainChunks left
      (r := { curData := start.data, remainingSegments := UInt16.ofNat (n + 1) })
      held rfl (by omega) above below
    have count : (drainChunks (n + 1) left).length = n + 1 := drainChunks_length (n + 1) left
    have joined : start.data ++ left = u16.write msgType ++ data := by
      rw [List.append_assoc, List.take_append_drop]
    refine ⟨start, drainChunks (n + 1) left, cut, ?_⟩
    rw [SegmentReader.feed_cons, started, rest, count, joined]
    rfl
  · intro segments
    obtain ⟨counted, consistent⟩ := SegmentReader.feed_spec segments SegmentReader.new_consistent
    refine ⟨counted, Iff.trans ?_ consistent⟩
    simp [SegmentReader.expectingChunk]

theorem segmentation_of_a_long_message :
    ∃ start chunks, getSegments (List.replicate 70000 7) 42778 = .ok (start, chunks) ∧
      SegmentReader.new.feed (.start start :: chunks.map .chunk) =
        (List.replicate chunks.length (.ok none) ++
          [.ok (some (u16.write 42778 ++ List.replicate 70000 7))], .new) := by
  apply segmentation.1
  constructor
  · rw [List.length_replicate]
    decide
  · rw [List.length_replicate]
    decide

end P2PLending.Messages
