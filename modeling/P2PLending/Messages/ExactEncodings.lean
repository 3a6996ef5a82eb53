import P2PLending.Foundation.ReadBack
import P2PLending.Messages.DlcMessages

/-! What the encodings of messages can hold. The limits on what they are given to write are the
limits on what they read: a list in `BigSize` is read up to `maxVecSize`, one in a word up to
`2 ^ 16`. -/

namespace P2PLending.Messages

variable {α : Type}

theorem u8_exact : u8.Exact fun _ => True := .of_all u8_roundTrips
theorem u16_exact : u16.Exact fun _ => True := .of_all u16_roundTrips
theorem u32_exact : u32.Exact fun _ => True := .of_all u32_roundTrips
theorem u64_exact : u64.Exact fun _ => True := .of_all u64_roundTrips
theorem bytes32_exact : bytes32.Exact fun _ => True := .of_all bytes32_roundTrips
theorem bool_exact : bool.Exact fun _ => True := .of_all bool_roundTrips
theorem f64_exact : f64.Exact fun _ => True := .of_all f64_roundTrips

theorem script_exact : script.Exact ScriptFits where
  roundTrips := script_roundTrips
  yields := Yields.skip fun len => (Yields.readBytes _ _).mono fun s whole => by
    rw [ScriptFits, whole]
    exact len.toNat_lt

theorem string_exact : string.Exact StringFits where
  roundTrips := string_roundTrips
  yields := by
    refine Yields.skip fun len => Yields.ite (fun _ => .throw _) fun short => ?_
    refine (Yields.readMany (Yields.any _) _).bind fun buf whole => ?_
    intro input s rest read
    cases decoded : String.fromUTF8? ⟨buf.toArray⟩ with
    | none =>
        rw [decoded] at read
        cases read
    | some t =>
        rw [decoded] at read
        cases read
        unfold String.fromUTF8? at decoded
        split at decoded
        next valid =>
          cases decoded
          rw [UInt64.not_lt, UInt64.le_iff_toNat_le, ← whole.1] at short
          exact short
        next => cases decoded

theorem readVec_yields {r : Reading α} {P : α → Prop} (each : Yields r P) :
    Yields (readVec r) (VecFits P) := by
  refine Yields.skip fun len => Yields.ite (fun _ => .throw _) fun short => ?_
  refine (Yields.readMany each _).mono fun l whole => ⟨?_, whole.2⟩
  rw [whole.1, ← UInt64.le_iff_toNat_le, ← UInt64.not_lt]
  exact short

theorem vec_exact {c : Wire α} {P : α → Prop} (each : c.Exact P) : (vec c).Exact (VecFits P) where
  roundTrips fits := VecFits.roundTrips fits each.roundTrips
  yields := readVec_yields each.yields

theorem vecU16_exact {c : Wire α} {P : α → Prop} (each : c.Exact P) :
    (vecU16 c).Exact fun l => l.length < 2 ^ 16 ∧ ∀ a ∈ l, P a where
  roundTrips fits := vecU16_roundTrips fits.1 fun a listed => each.roundTrips (fits.2 a listed)
  yields := Yields.skip fun len => (Yields.readMany each.yields _).mono fun _ whole =>
    ⟨whole.1 ▸ len.toNat_lt, whole.2⟩

theorem option_exact {c : Wire α} {P : α → Prop} (each : c.Exact P) :
    (option c).Exact fun o => ∀ a ∈ o, P a where
  roundTrips fits := option_roundTrips fun a is => each.roundTrips (fits a is)
  yields := by
    refine Yields.skip fun tag => Yields.ite (fun _ => .pure (by simp)) fun _ =>
      Yields.ite (fun _ => ?_) fun _ => .throw _
    exact each.yields.bind fun a holds => .pure (by simpa using holds)

theorem asTlv_exact {typeId : UInt16} {c : Wire α} {P : α → Prop} (value : c.Exact P) :
    (asTlv typeId c).Exact P where
  roundTrips fits := asTlv_roundTrips (value.roundTrips fits)
  yields := Yields.skip fun _ => Yields.skip fun _ => value.yields

/-- A list that is longer than what is read. -/
theorem vec_refuses {c : Wire α} {l : List α} (long : maxVecSize.toNat < l.length)
    (counted : l.length < 2 ^ 64) : Refuses (vec c).read ((vec c).write l) := by
  have longer : maxVecSize < UInt64.ofNat l.length := by
    rw [UInt64.lt_iff_toNat_lt, UInt64.toNat_ofNat_of_lt' counted]
    exact long
  refine Refuses.tail (bigSize_roundTrips _) fun rest => ⟨.invalidValue, ?_⟩
  rw [if_pos longer]
  rfl

/-! Announcements. -/

theorem EnumEventDescriptor.exact : EnumEventDescriptor.wire.Exact EnumEventDescriptor.Fits where
  roundTrips := EnumEventDescriptor.roundTrips
  yields := (vecU16_exact string_exact).yields.bind fun _ outcomes =>
    .pure ⟨outcomes.1, outcomes.2⟩

theorem DigitDecompositionEventDescriptor.exact :
    DigitDecompositionEventDescriptor.wire.Exact fun d => StringFits d.unit where
  roundTrips := DigitDecompositionEventDescriptor.roundTrips
  yields := Yields.skip fun _ => Yields.skip fun _ => string_exact.yields.bind fun _ unit =>
    Yields.skip fun _ => Yields.skip fun _ => .pure unit

theorem EventDescriptor.exact : EventDescriptor.wire.Exact EventDescriptor.Fits where
  roundTrips := EventDescriptor.roundTrips
  yields := by
    refine Yields.skip fun id => Yields.ite (fun _ => ?_) fun _ => Yields.ite (fun _ => ?_)
      fun _ => .throw _
    · exact Yields.skip fun _ => EnumEventDescriptor.exact.yields.bind fun _ fits => .pure fits
    · exact Yields.skip fun _ => DigitDecompositionEventDescriptor.exact.yields.bind fun _ fits =>
        .pure fits

variable {P : Primitives}

theorem OracleEvent.exact : (OracleEvent.wire (P := P)).Exact OracleEvent.Fits where
  roundTrips := OracleEvent.roundTrips
  yields := (vecU16_exact (.of_all P.xOnlyPublicKey.roundTrips)).yields.bind fun _ nonces =>
    Yields.skip fun _ => EventDescriptor.exact.yields.bind fun _ descriptor =>
    string_exact.yields.bind fun _ eventId => .pure ⟨nonces.1, descriptor, eventId⟩

theorem OracleAnnouncement.exact :
    (OracleAnnouncement.wire (P := P)).Exact fun a => a.oracleEvent.Fits where
  roundTrips := OracleAnnouncement.roundTrips
  yields := Yields.skip fun _ => Yields.skip fun _ =>
    (asTlv_exact OracleEvent.exact).yields.bind fun _ event => .pure event

/-! Messages that a failed contract is stored with. -/

theorem RoundingIntervals.exact : RoundingIntervals.wire.Exact RoundingIntervals.Fits where
  roundTrips := RoundingIntervals.roundTrips
  yields := (vec_exact (.of_all RoundingInterval.roundTrips)).yields.bind fun _ intervals =>
    .pure intervals.1

theorem SingleNegotiationFields.exact :
    SingleNegotiationFields.wire.Exact fun m => m.roundingIntervals.Fits where
  roundTrips := SingleNegotiationFields.roundTrips
  yields := RoundingIntervals.exact.yields.bind fun _ intervals => .pure intervals

/-- By induction on the depth, each level from the one below. -/
theorem NegotiationFields.readNested_yields (depth : ℕ) :
    Yields (readNested depth) NegotiationFields.Fits := by
  induction depth with
  | zero => exact .throw _
  | succ depth ih =>
      refine Yields.skip fun id => Yields.ite (fun _ => ?_) fun _ => Yields.ite (fun _ => ?_)
        fun _ => .throw _
      · exact Yields.map SingleNegotiationFields.exact.yields
      · refine Yields.map ((readVec_yields ih).mono fun fs fits => ?_)
        exact ⟨fits.1, (allFit_iff fs).mpr fits.2⟩

theorem NegotiationFields.exact : NegotiationFields.wire.Exact NegotiationFields.Fits where
  roundTrips := NegotiationFields.roundTrips _
  yields input := readNested_yields input.length input

theorem FundingInput.exact : FundingInput.wire.Exact FundingInput.Fits where
  roundTrips := FundingInput.roundTrips
  yields := Yields.skip fun _ => (vec_exact u8_exact).yields.bind fun _ prevTx =>
    Yields.skip fun _ => Yields.skip fun _ => Yields.skip fun _ =>
    script_exact.yields.bind fun _ redeemScript => .pure ⟨prevTx.1, redeemScript⟩

theorem FundingSignatures.exact : FundingSignatures.wire.Exact FundingSignatures.Fits where
  roundTrips := FundingSignatures.roundTrips
  yields := by
    have element : WitnessElement.wire.Exact WitnessElement.Fits := {
      roundTrips := WitnessElement.roundTrips
      yields := (vec_exact u8_exact).yields.bind fun _ witness => .pure witness.1 }
    have signature : FundingSignature.wire.Exact FundingSignature.Fits := {
      roundTrips := FundingSignature.roundTrips
      yields := (vec_exact element).yields.bind fun _ elements => .pure elements }
    exact (vec_exact signature).yields.bind fun _ signatures => .pure signatures

theorem CetAdaptorSignatures.exact :
    (CetAdaptorSignatures.wire (P := P)).Exact CetAdaptorSignatures.Fits where
  roundTrips := CetAdaptorSignatures.roundTrips
  yields := (vec_exact (.of_all CetAdaptorSignature.roundTrips)).yields.bind fun _ signatures =>
    .pure signatures.1

theorem AcceptDlc.exact : (AcceptDlc.wire (P := P)).Exact AcceptDlc.Fits where
  roundTrips := AcceptDlc.roundTrips
  yields := Yields.skip fun _ => Yields.skip fun _ => Yields.skip fun _ => Yields.skip fun _ =>
    script_exact.yields.bind fun _ payoutSpk => Yields.skip fun _ =>
    (vec_exact FundingInput.exact).yields.bind fun _ fundingInputs =>
    script_exact.yields.bind fun _ changeSpk => Yields.skip fun _ =>
    CetAdaptorSignatures.exact.yields.bind fun _ signatures => Yields.skip fun _ =>
    (option_exact NegotiationFields.exact).yields.bind fun _ negotiationFields =>
    .pure ⟨payoutSpk, fundingInputs, changeSpk, signatures, negotiationFields⟩

theorem SignDlc.exact : (SignDlc.wire (P := P)).Exact SignDlc.Fits where
  roundTrips := SignDlc.roundTrips
  yields := Yields.skip fun _ => Yields.skip fun _ =>
    CetAdaptorSignatures.exact.yields.bind fun _ signatures => Yields.skip fun _ =>
    FundingSignatures.exact.yields.bind fun _ fundingSignatures =>
    .pure ⟨signatures, fundingSignatures⟩

end P2PLending.Messages
