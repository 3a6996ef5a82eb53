import P2PLending.Dlc.Loans
import P2PLending.Dlc.Signing
import P2PLending.Foundation.ScriptNumbers

/-! Which witnesses the escrow script accepts. One element takes the borrower's
branch with its relative timelock; three elements take the branch of both
parties and the borrower's preimage; every other number of elements fails. The
operand of the timelock has its type flag clear, so it counts blocks. -/

namespace P2PLending.Dlc
open Script

section Signatures
variable (C : Crypto) (tx : Transaction) (index value : ℕ)

/-- The element is a DER signature and a hash type, and it verifies under the key
for the script code. -/
def ValidSignature (code : List Op) (sig : Bytes) (k : PublicKey) : Prop :=
  ∃ der hashType s, sig = der ++ [hashType] ∧ C.parseDer der = some s ∧
    C.verifyEcdsa (C.p2wshSignatureHash hashType tx.unsigned index (toBytes code) value) s k = true

variable {C tx index value}

theorem checkOne_eq_true_iff (lawful : C.Lawful) {code : List Op} {sig : Bytes} {k : PublicKey} :
    checkOne (checker C tx index value) code sig k.serialize = some true ↔
      ValidSignature C tx index value code sig k := by
  constructor
  · intro checked
    rcases List.eq_nil_or_concat' sig with rfl | ⟨der, hashType, rfl⟩
    · cases checked
    · have body : (der ++ [hashType]).dropLast = der := List.dropLast_concat
      have last : (der ++ [hashType]).getLast? = some hashType := List.getLast?_concat
      simp only [checkOne, checker, body, last, lawful.key_round_trip] at checked
      cases parsed : C.parseDer der with
      | none => simp [parsed] at checked
      | some s =>
          refine ⟨der, hashType, s, rfl, parsed, ?_⟩
          simpa [parsed] using checked
  · rintro ⟨der, hashType, s, rfl, parsed, verified⟩
    simp [checkOne, checker, parsed, lawful.key_round_trip, verified]

/-- What `getSigForTxInput` returns is a signature of its key's owner. -/
theorem validSignature_of_getSig (lawful : C.Lawful) {code : List Op} {sk : SecretKey}
    {sig : Bytes} (signed : getSigForTxInput C tx index (toBytes code) value sk = .ok sig) :
    ValidSignature C tx index value code sig (C.publicKey sk) ∧ sig.length ≤ 520 := by
  simp only [getSigForTxInput, getRawSigForTxInput, getSigHashMsg, Checked.bind_eq_ok,
    Checked.pure_eq_ok, Except.ok.injEq] at signed
  obtain ⟨s, ⟨digest, hashed, rfl⟩, rfl⟩ := signed
  split at hashed
  · cases hashed
    exact ⟨⟨_, sighashAll, _, rfl, lawful.der_round_trip _, lawful.sign_verifies _ sk⟩,
      finalizeSig_length lawful _⟩
  · cases hashed

end Signatures

/-! The relative timelock of an input. -/

section Timelock
variable (tx : Transaction) (index : ℕ)

/-- The input's sequence enforces a relative timelock of this many blocks. -/
def EnforcesBlocks (blocks : ℕ) : Prop :=
  2 ≤ tx.version ∧ ∃ i, tx.input[index]? = some i ∧ i.sequence.testBit 31 = false ∧
    i.sequence.testBit 22 = false ∧ blocks ≤ i.sequence % 2 ^ 16

/-- The input's sequence enforces a relative timelock of this many seconds, which
it counts in units of 512. -/
def EnforcesSeconds (seconds : ℕ) : Prop :=
  2 ≤ tx.version ∧ ∃ i, tx.input[index]? = some i ∧ i.sequence.testBit 31 = false ∧
    i.sequence.testBit 22 = true ∧ seconds ≤ 512 * (i.sequence % 2 ^ 16)

variable {tx index}

theorem not_blocks_and_seconds {blocks seconds : ℕ} (byBlocks : EnforcesBlocks tx index blocks) :
    ¬ EnforcesSeconds tx index seconds := by
  obtain ⟨_, i, present, _, blockType, _⟩ := byBlocks
  rintro ⟨_, j, found, _, timeType, _⟩
  cases present.symm.trans found
  rw [blockType] at timeType
  cases timeType

/-- The operand of the escrow asks for 16384 blocks. -/
theorem checkSequence_escrowLocktime {C : Crypto} {value : ℕ} :
    (checker C tx index value).checkSequence (escrowLocktime : ℤ) = true ↔
      EnforcesBlocks tx index 16384 := by
  have blockType : escrowLocktime.testBit 22 = false := by decide
  have blocks : escrowLocktime % 2 ^ 16 = 16384 := by decide
  simp only [checker, EnforcesBlocks]
  cases tx.input[index]? with
  | none => simp
  | some i =>
      simp only [sequenceReached, Int.toNat_natCast, blockType, blocks]
      cases type : i.sequence.testBit 22 <;> simp [type]

end Timelock

/-! The runs of the escrow script. -/

section Runs
variable {K : Checker} {borrower lender : PublicKey} {hash : Bytes32} {code : List Op}
  {s : List Bytes}

theorem decodeNum_escrowLocktime :
    decodeNum 5 (encodeNum (escrowLocktime : ℤ)) = some (escrowLocktime : ℤ) := by
  decide

/-- The branches are chosen by the number of elements alone. -/
theorem run_escrow_branch :
    run K (makeLoanFundingRedeemscript borrower lender escrowLocktime hash) ⟨s, [], code⟩ =
      if s.length = 1 then
        run K [.checkSigVerify, .push (encodeNum escrowLocktime), .checkSequenceVerify, .opElse,
          .codeSeparator, .checkSigVerify, .size, pushInt 16, .equalVerify, .sha256,
          .push hash.toBytes, .equalVerify, .push lender.serialize, .checkSig, .endIf]
          ⟨borrower.serialize :: s, [true], code⟩
      else
        run K (makeLoanEscrowAfterCodesepScript lender hash)
          ⟨borrower.serialize :: s, [true], makeLoanEscrowAfterCodesepScript lender hash⟩ := by
  have on : false ∉ ([] : List Bool) := List.not_mem_nil
  have counted : (encodeNum (2 : Fin 17).val = encodeNum (borrower.serialize :: s).length) ↔
      s.length = 1 := by
    rw [eq_comm, encodeNum_eq_small_iff (by decide) (by decide), List.length_cons]
    exact Nat.succ_inj
  rw [makeLoanFundingRedeemscript, run_push on, run_depth on, run_num on, run_equal on, run_if on,
    truthy_ofBool]
  by_cases single : s.length = 1
  · rw [if_pos single, decide_eq_true (counted.mpr single)]
    rfl
  · have off : false ∈ [false] := List.mem_cons_self
    have taken : false ∉ [!false] := by decide
    rw [if_neg single, decide_eq_false (fun same => single (counted.mp same)),
      run_skip off (by decide), run_skip off (by decide), run_skip off (by decide), run_else,
      run_codeSeparator taken]
    rfl

/-- The borrower alone: a valid signature and the timelock leave the operand. -/
theorem run_escrow_alone {sig : Bytes} {final : State} :
    run K (makeLoanFundingRedeemscript borrower lender escrowLocktime hash) ⟨[sig], [], code⟩ =
        some final ↔
      checkOne K code sig borrower.serialize = some true ∧
        K.checkSequence escrowLocktime = true ∧
        final = ⟨[encodeNum escrowLocktime], [], code⟩ := by
  have on : false ∉ [true] := by decide
  have off : false ∈ [!true] := by decide
  have skipped : run K ([.codeSeparator, .checkSigVerify, .size, pushInt 16, .equalVerify, .sha256,
      .push hash.toBytes, .equalVerify, .push lender.serialize, .checkSig] ++ [.endIf])
      ⟨[encodeNum escrowLocktime], [!true], code⟩ =
        some ⟨[encodeNum escrowLocktime], [], code⟩ := by
    rw [run_skipAll off (by simp [pushInt]), run_endIf, run_nil]
  have positive : (0 : ℤ) ≤ escrowLocktime := by decide
  have enabled : (escrowLocktime : ℤ).toNat.testBit 31 = false := by decide
  rw [run_escrow_branch, if_pos List.length_singleton]
  constructor
  · intro ran
    obtain ⟨_, _, same, checked, timed⟩ := of_run_checkSigVerify on ran
    cases same
    rw [run_push on, run_checkSequenceVerify on decodeNum_escrowLocktime positive enabled] at timed
    split at timed
    · rename_i reached
      rw [run_else] at timed
      exact ⟨checked, reached, Option.some.inj (timed.symm.trans skipped)⟩
    · cases timed
  · rintro ⟨checked, reached, rfl⟩
    rw [run_checkSigVerify on checked, if_pos rfl, run_push on,
      run_checkSequenceVerify on decodeNum_escrowLocktime positive enabled, if_pos reached, run_else]
    exact skipped

/-- Both parties: three elements are taken and the lender's signature decides. -/
theorem run_escrow_both {final : State} (several : s.length ≠ 1) :
    run K (makeLoanFundingRedeemscript borrower lender escrowLocktime hash) ⟨s, [], code⟩ =
        some final ↔
      ∃ borrowerSig preimage lenderSig rest ok, s = borrowerSig :: preimage :: lenderSig :: rest ∧
        checkOne K (makeLoanEscrowAfterCodesepScript lender hash) borrowerSig borrower.serialize =
          some true ∧
        preimage.length = 16 ∧ K.sha256 preimage = hash.toBytes ∧
        checkOne K (makeLoanEscrowAfterCodesepScript lender hash) lenderSig lender.serialize =
          some ok ∧
        final = ⟨ofBool ok :: rest, [], makeLoanEscrowAfterCodesepScript lender hash⟩ := by
  have on : false ∉ [true] := by decide
  have sixteen : ∀ n : ℕ, encodeNum (16 : Fin 17).val = encodeNum n ↔ n = 16 := by
    intro n
    rw [eq_comm]
    exact encodeNum_eq_small_iff (by decide) (by decide)
  rw [run_escrow_branch, if_neg several]
  constructor
  · intro ran
    obtain ⟨borrowerSig, s₁, rfl, borrowerOk, sized⟩ := of_run_checkSigVerify on ran
    obtain ⟨preimage, s₂, rfl, measured⟩ := of_run_size on sized
    rw [show pushInt 16 = .num 16 from rfl, run_num on] at measured
    obtain ⟨size, hashing⟩ := of_run_equalVerify on measured
    rw [run_sha256 on, run_push on] at hashing
    obtain ⟨hashed, signed⟩ := of_run_equalVerify on hashing
    rw [run_push on] at signed
    obtain ⟨lenderSig, rest, ok, rfl, lenderOk, ended⟩ := of_run_checkSig on signed
    rw [run_endIf, run_nil] at ended
    exact ⟨borrowerSig, preimage, lenderSig, rest, ok, rfl, borrowerOk, (sixteen _).mp size,
      hashed.symm, lenderOk, (Option.some.inj ended).symm⟩
  · rintro ⟨borrowerSig, preimage, lenderSig, rest, ok, rfl, borrowerOk, size, hashed, lenderOk, rfl⟩
    show run K (.checkSigVerify :: _) _ = _
    rw [run_checkSigVerify on borrowerOk, if_pos rfl, run_size on,
      show pushInt 16 = .num 16 from rfl, run_num on, run_equalVerify on,
      if_pos ((sixteen _).mpr size), run_sha256 on, run_push on, run_equalVerify on,
      if_pos hashed.symm, run_push on, run_checkSig on lenderOk, run_endIf, run_nil]

end Runs

/-! The spends of the escrow, against the seconds that the constant's comment names. -/

section Spends
variable (C : Crypto) (tx : Transaction) (index value : ℕ) (borrower lender : PublicKey)
  (borrowerHash : Bytes32) (witness : List Bytes)

/-- The script of the escrow that `createEscrowTransaction` pays. -/
def escrowScript : List Op :=
  makeLoanFundingRedeemscript borrower lender escrowLocktime borrowerHash

/-- The witness is a signature of the borrower over the whole script. -/
def SpendsAlone : Prop :=
  ∃ sig, witness = [sig] ∧
    ValidSignature C tx index value (escrowScript borrower lender borrowerHash) sig borrower

/-- The witness has both signatures, over the script after the separator, and the
borrower's preimage. -/
def SpendsTogether : Prop :=
  ∃ lenderSig preimage borrowerSig, witness = [lenderSig, preimage, borrowerSig] ∧
    preimage.length = 16 ∧ C.sha256 preimage = borrowerHash ∧
    ValidSignature C tx index value (makeLoanEscrowAfterCodesepScript lender borrowerHash)
      borrowerSig borrower ∧
    ValidSignature C tx index value (makeLoanEscrowAfterCodesepScript lender borrowerHash)
      lenderSig lender

/-- No element of the witness is longer than a script may push. -/
def ElementsFit : Prop := ∀ b ∈ witness, b.length ≤ 520

/-- The escrow as documented: the borrower alone after 51200 seconds, or both. -/
def EscrowSemantics : Prop :=
  accepts (checker C tx index value) (escrowScript borrower lender borrowerHash) witness = true ↔
    ElementsFit witness ∧
      ((SpendsAlone C tx index value borrower lender borrowerHash witness ∧
          EnforcesSeconds tx index 51200) ∨
        SpendsTogether C tx index value borrower lender borrowerHash witness)

variable {C tx index value borrower lender borrowerHash witness}

theorem accepts_escrow_single (lawful : C.Lawful) {sig : Bytes} :
    accepts (checker C tx index value) (escrowScript borrower lender borrowerHash) [sig] = true ↔
      ElementsFit [sig] ∧
        ValidSignature C tx index value (escrowScript borrower lender borrowerHash) sig borrower ∧
        EnforcesBlocks tx index 16384 := by
  rw [accepts_iff]
  refine and_congr Iff.rfl ?_
  rw [List.reverse_singleton]
  constructor
  · rintro ⟨top, code, ran, _⟩
    obtain ⟨checked, reached, _⟩ := run_escrow_alone.mp ran
    exact ⟨(checkOne_eq_true_iff lawful).mp checked, checkSequence_escrowLocktime.mp reached⟩
  · rintro ⟨valid, reached⟩
    have checked := (checkOne_eq_true_iff lawful).mpr valid
    exact ⟨_, _, run_escrow_alone.mpr ⟨checked, checkSequence_escrowLocktime.mpr reached, rfl⟩,
      by decide⟩

theorem accepts_escrow_several (lawful : C.Lawful) (several : witness.length ≠ 1) :
    accepts (checker C tx index value) (escrowScript borrower lender borrowerHash) witness = true ↔
      ElementsFit witness ∧
        SpendsTogether C tx index value borrower lender borrowerHash witness := by
  rw [accepts_iff]
  refine and_congr Iff.rfl ?_
  have reversed : witness.reverse.length ≠ 1 := by rwa [List.length_reverse]
  constructor
  · rintro ⟨top, code, ran, holds⟩
    obtain ⟨borrowerSig, preimage, lenderSig, rest, ok, shape, borrowerOk, size, hashed, lenderOk,
      ended⟩ := (run_escrow_both reversed).mp ran
    have stack : [top] = ofBool ok :: rest := congrArg State.stack ended
    obtain ⟨rfl, rfl⟩ := List.cons.inj stack
    rw [truthy_ofBool] at holds
    cases holds
    have order : witness = [lenderSig, preimage, borrowerSig] := List.reverse_eq_iff.mp shape
    exact ⟨lenderSig, preimage, borrowerSig, order, size, Bytes32.toBytes_injective hashed,
      (checkOne_eq_true_iff lawful).mp borrowerOk, (checkOne_eq_true_iff lawful).mp lenderOk⟩
  · rintro ⟨lenderSig, preimage, borrowerSig, rfl, size, hashed, borrowerValid, lenderValid⟩
    refine ⟨ofBool true, _, (run_escrow_both reversed).mpr ⟨borrowerSig, preimage, lenderSig, [],
      true, rfl, ?_, size, congrArg Bytes32.toBytes hashed, ?_, rfl⟩, rfl⟩
    · exact (checkOne_eq_true_iff lawful).mpr borrowerValid
    · exact (checkOne_eq_true_iff lawful).mpr lenderValid

/-- What the escrow script accepts: its timelock counts 16384 blocks. -/
theorem accepts_escrow_iff (lawful : C.Lawful) :
    accepts (checker C tx index value) (escrowScript borrower lender borrowerHash) witness = true ↔
      ElementsFit witness ∧
        ((SpendsAlone C tx index value borrower lender borrowerHash witness ∧
            EnforcesBlocks tx index 16384) ∨
          SpendsTogether C tx index value borrower lender borrowerHash witness) := by
  by_cases single : witness.length = 1
  · obtain ⟨sig, rfl⟩ := List.length_eq_one_iff.mp single
    rw [accepts_escrow_single lawful]
    simp [SpendsAlone, SpendsTogether]
  · have notAlone : ¬ SpendsAlone C tx index value borrower lender borrowerHash witness := by
      rintro ⟨sig, rfl, _⟩
      exact single rfl
    rw [accepts_escrow_several lawful single]
    simp [notAlone]

end Spends

/-! A borrower who waited for 51200 seconds: 100 units of 512. -/

def samplePreimage : Uint128 := 0x000102030405060708090a0b0c0d0e0f

def samplePreimageHash : Bytes32 :=
  0xbe45cb2605bf36bebde684841a28f0fd43c69850a3dce5fedba69928ee3a8991

def sampleEscrowSpend : Transaction where
  lockTime := 0
  input := [{
    previousOutput := ⟨sampleFundTxid, 0⟩
    scriptSig := []
    sequence := 0x00400064
    witness := [] }]
  output := [{ value := 99999000, scriptPubkey := sampleSpk₂ }]

def sampleEscrowDigest : Message :=
  0x9219e55ed3b3ee0d8ce82ab46b8101824c886572dae8125f81696616e573e62f

def sampleEscrowSignature : Signature :=
  0x6749bfd5c2dfec40ce6b8874488d2f2478adac9efbe799a979954e1e653473a123cb3956e879a38d6a96908d36150ac4edfddbb6218c992efcaf802c2171f296

/-- The scheme with the borrower's signature over this spend. -/
def escrowCrypto : Crypto :=
  cryptoOf [⟨2, sampleEscrowDigest, sampleEscrowSignature⟩]
    (fun b => if b = samplePreimage.toBeBytes then samplePreimageHash else 0)
    fun hashType tx index script value =>
      if hashType = sighashAll ∧ tx = sampleEscrowSpend ∧ index = 0 ∧
          script = toBytes (escrowScript sampleKey₂ sampleKey₁ samplePreimageHash) ∧
          value = 100000000 then sampleEscrowDigest
      else 0

end P2PLending.Dlc
