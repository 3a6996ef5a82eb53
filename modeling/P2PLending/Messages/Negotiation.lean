import P2PLending.Messages.ContractMsgs

/-! Negotiation fields, which nest: those of several events are a list of such fields. Each
level takes at least a byte, so a reader that goes as deep as the input is long reads what
one without a bound would. -/

namespace P2PLending.Messages

structure SingleNegotiationFields where
  roundingIntervals : RoundingIntervals
  deriving DecidableEq, Repr

inductive NegotiationFields
  | single (fields : SingleNegotiationFields)
  | disjoint (negotiationFields : List NegotiationFields)

def SingleNegotiationFields.wire : Wire SingleNegotiationFields where
  write m := List.flatten [RoundingIntervals.wire.write m.roundingIntervals]
  read := do
    let roundingIntervals ← RoundingIntervals.wire.read
    return { roundingIntervals }

theorem SingleNegotiationFields.roundTrips {m : SingleNegotiationFields}
    (fits : m.roundingIntervals.Fits) : wire.RoundTrips m := by
  apply Reads.field (RoundingIntervals.roundTrips fits)
  exact .done _

namespace NegotiationFields

mutual

def write : NegotiationFields → Bytes
  | single fields => List.flatten [u8.write 0, SingleNegotiationFields.wire.write fields]
  | disjoint fs =>
      List.flatten [u8.write 1, bigSize.write (UInt64.ofNat fs.length) ++ writeAll fs]

def writeAll : List NegotiationFields → Bytes
  | [] => []
  | f :: fs => write f ++ writeAll fs

end

/-- What follows the byte that names the kind, given the reader of the level below. -/
def readKind (below : Reading NegotiationFields) (id : UInt8) : Reading NegotiationFields :=
  if id = 0 then single <$> SingleNegotiationFields.wire.read
  else if id = 1 then disjoint <$> readVec below
  else throw .unknownRequiredFeature

def readNested : (depth : ℕ) → Reading NegotiationFields
  | 0 => throw .shortRead
  | depth + 1 => do
      let id ← u8.read
      readKind (readNested depth) id

def wire : Wire NegotiationFields where
  write := write
  read := fun input => readNested input.length input

mutual

def Fits : NegotiationFields → Prop
  | single fields => fields.roundingIntervals.Fits
  | disjoint fs => fs.length ≤ maxVecSize.toNat ∧ AllFit fs

def AllFit : List NegotiationFields → Prop
  | [] => True
  | f :: fs => Fits f ∧ AllFit fs

end

theorem writeAll_eq (fs : List NegotiationFields) : writeAll fs = fs.flatMap write := by
  induction fs with
  | nil => rfl
  | cons f fs ih => rw [writeAll, ih, List.flatMap_cons]

theorem allFit_iff (fs : List NegotiationFields) : AllFit fs ↔ ∀ f ∈ fs, Fits f := by
  induction fs with
  | nil => simp [AllFit]
  | cons f fs ih => rw [AllFit, ih, List.forall_mem_cons]

/-! The bound on the depth is none. -/

open Reader

theorem shrinks_u8 : Shrinks u8.read := shrinks_map (shrinks_map (shrinks_readBytes _ _))
theorem shrinks_u64 : Shrinks u64.read := shrinks_map (shrinks_map (shrinks_readBytes _ _))

theorem shrinks_bigSize : Shrinks bigSize.read := by
  refine shrinks_bind shrinks_u8 fun n => shrinks_ite ?_ (shrinks_ite ?_ (shrinks_ite ?_ ?_))
  · exact shrinks_bind shrinks_u64 fun x => shrinks_ite (shrinks_throw _) (shrinks_pure _)
  · exact shrinks_bind (shrinks_map (shrinks_map (shrinks_readBytes _ _))) fun x =>
      shrinks_ite (shrinks_throw _) (shrinks_pure _)
  · exact shrinks_bind (shrinks_map (shrinks_map (shrinks_readBytes _ _))) fun x =>
      shrinks_ite (shrinks_throw _) (shrinks_pure _)
  · exact shrinks_pure _

theorem shrinks_readVec {α : Type} {r : Reading α} (each : Shrinks r) : Shrinks (readVec r) :=
  shrinks_bind shrinks_bigSize fun _ => shrinks_ite (shrinks_throw _) (shrinks_readMany each _)

theorem shrinks_single : Shrinks SingleNegotiationFields.wire.read := by
  refine shrinks_bind (shrinks_bind (shrinks_readVec ?_) fun _ => shrinks_pure _) fun _ =>
    shrinks_pure _
  exact shrinks_bind shrinks_u64 fun _ => shrinks_bind shrinks_u64 fun _ => shrinks_pure _

theorem shrinks_readNested (depth : ℕ) : Shrinks (readNested depth) := by
  induction depth with
  | zero => exact shrinks_throw _
  | succ depth ih =>
      exact shrinks_bind shrinks_u8 fun id => shrinks_ite (shrinks_map shrinks_single)
        (shrinks_ite (shrinks_map (shrinks_readVec ih)) (shrinks_throw _))

theorem readKind_agree {bound : ℕ} {r s : Reading NegotiationFields} (below : AgreeUpTo bound r s)
    (shrinks : Shrinks r) (id : UInt8) : AgreeUpTo bound (readKind r id) (readKind s id) := by
  unfold readKind
  split
  · exact fun _ _ => rfl
  · split
    · rw [map_eq_pure_bind, map_eq_pure_bind]
      refine AgreeUpTo.bind ?_ (shrinks_readVec shrinks) fun _ _ _ => rfl
      refine AgreeUpTo.bind (fun _ _ => rfl) shrinks_bigSize fun len => ?_
      split
      · exact fun _ _ => rfl
      · exact below.readMany shrinks _
    · exact fun _ _ => rfl

/-- Any depth that is no less than the length of the input reads the same. -/
theorem readNested_agree (bound more : ℕ) :
    AgreeUpTo bound (readNested bound) (readNested (bound + more)) := by
  induction bound with
  | zero =>
      intro input empty
      rw [List.eq_nil_of_length_eq_zero (Nat.le_zero.mp empty)]
      cases more with
      | zero => rfl
      | succ more => rfl
  | succ bound ih =>
      intro input short
      rw [Nat.succ_add]
      cases input with
      | nil => rfl
      | cons byte input =>
          exact readKind_agree ih (shrinks_readNested bound) _ input (Nat.le_of_succ_le_succ short)

/-- The reader as the source has it, which calls itself for the level below. -/
theorem wire_read :
    wire.read = (do
      let id ← u8.read
      readKind wire.read id) := by
  have whole : ∀ bound, AgreeUpTo bound (readNested bound) wire.read := by
    intro bound input short
    obtain ⟨more, rfl⟩ := Nat.exists_eq_add_of_le short
    exact (readNested_agree input.length more input (Nat.le_refl _)).symm
  funext input
  cases input with
  | nil => rfl
  | cons byte input =>
      exact readKind_agree (whole input.length) (shrinks_readNested _) _ input (Nat.le_refl _)

mutual

theorem roundTrips : (m : NegotiationFields) → m.Fits → wire.RoundTrips m
  | single fields, fits => by
      rw [Codec.RoundTrips, wire_read]
      apply Reads.field (u8_roundTrips 0)
      exact .last (SingleNegotiationFields.roundTrips fits).map
  | disjoint fs, fits => by
      have levels : (vec wire).RoundTrips fs := vec_roundTrips fits.1 (allRoundTrip fs fits.2)
      have nested : Reads (readVec wire.read)
          (bigSize.write (UInt64.ofNat fs.length) ++ writeAll fs) fs := by
        rw [writeAll_eq]
        exact levels
      rw [Codec.RoundTrips, wire_read]
      apply Reads.field (u8_roundTrips 1)
      exact .last nested.map

theorem allRoundTrip :
    (fs : List NegotiationFields) → AllFit fs → ∀ f ∈ fs, wire.RoundTrips f
  | [], _ => fun _ listed => absurd listed List.not_mem_nil
  | f :: fs, fits => List.forall_mem_cons.mpr ⟨roundTrips f fits.1, allRoundTrip fs fits.2⟩

end

end NegotiationFields

end P2PLending.Messages
