import P2PLending.Dlc.EscrowScript

/-! Which witnesses the collateral script accepts. The script takes exactly three
elements: a selector, the borrower's signature, and the lender's signature or
preimage. A false selector keeps the whole script as the signed code; any other
selector has to be a number and moves the code past the separator. -/

namespace P2PLending.Dlc
open Script

section Runs
variable {K : Checker} {borrower lender : PublicKey} {hash : Bytes32} {code : List Op}
  {s : List Bytes} {x borrowerSig selector : Bytes} {final : State}

theorem decodeNum_pushTwo : decodeNum 4 (encodeNum (2 : Fin 17).val) = some ((2 : ℕ) : ℤ) := by
  decide

/-- The selector is copied from below the two swapped pairs and chooses the branch. -/
theorem run_collateral_branch :
    run K (makeCollateralRedeemscript borrower lender hash)
        ⟨x :: borrowerSig :: selector :: s, [], code⟩ =
      if truthy selector = true then
        run K (makeCollateralAfterCodesepScript hash)
          ⟨borrower.serialize :: borrowerSig :: selector :: lender.serialize :: x :: s, [true],
            makeCollateralAfterCodesepScript hash⟩
      else
        run K ([.checkSigVerify, .drop, .checkSig, .opElse, .codeSeparator] ++
            makeCollateralAfterCodesepScript hash)
          ⟨borrower.serialize :: borrowerSig :: selector :: lender.serialize :: x :: s, [true],
            code⟩ := by
  have on : false ∉ ([] : List Bool) := List.not_mem_nil
  rw [makeCollateralRedeemscript, run_push on, run_twoSwap on, run_push on,
    show pushInt 2 = .num 2 from rfl, run_num on, run_pick on decodeNum_pushTwo rfl, run_notIf on]
  by_cases selected : truthy selector = true
  · have off : false ∈ [!truthy selector] := by rw [selected]; exact List.mem_cons_self
    have taken : false ∉ [!!truthy selector] := by rw [selected]; decide
    rw [if_pos selected, run_skip off (by decide), run_skip off (by decide),
      run_skip off (by decide), run_else, run_codeSeparator taken, selected]
    rfl
  · rw [if_neg selected, Bool.eq_false_of_not_eq_true selected]
    rfl

/-- A run that goes through found three elements. -/
theorem of_run_collateral
    (ran : run K (makeCollateralRedeemscript borrower lender hash) ⟨s, [], code⟩ = some final) :
    ∃ x borrowerSig selector s', s = x :: borrowerSig :: selector :: s' := by
  have on : false ∉ ([] : List Bool) := List.not_mem_nil
  rw [makeCollateralRedeemscript, run_push on] at ran
  obtain ⟨x, borrowerSig, selector, s', shape, _⟩ := of_run_twoSwap on ran
  exact ⟨x, borrowerSig, selector, s', shape⟩

/-- The branches that were not taken are skipped to the end. -/
theorem run_collateral_rest :
    run K ([.opElse, .codeSeparator] ++ makeCollateralAfterCodesepScript hash)
      ⟨s, [true], code⟩ = some ⟨s, [], code⟩ := by
  have off : false ∈ [!true] := by decide
  have inner : false ∈ [false, !true] := by decide
  have other : false ∈ [!false, !true] := by decide
  show run K (.opElse :: ([.codeSeparator, .checkSigVerify, .oneSub] ++ .notIf :: ([.checkSig] ++
    .opElse :: ([.drop, .size, pushInt 16, .equalVerify, .sha256, .push hash.toBytes, .equal] ++
      [.endIf, .endIf])))) _ = _
  rw [run_else, run_skipAll off (by decide), run_notIf_skip off, run_skipAll inner (by decide),
    run_else, run_skipAll other (by simp [pushInt]), run_endIf, run_endIf, run_nil]

/-- The cooperative branch: both signatures over the whole script. -/
theorem run_collateral_cooperative :
    run K ([.checkSigVerify, .drop, .checkSig, .opElse, .codeSeparator] ++
        makeCollateralAfterCodesepScript hash)
        ⟨borrower.serialize :: borrowerSig :: selector :: lender.serialize :: x :: s, [true],
          code⟩ = some final ↔
      checkOne K code borrowerSig borrower.serialize = some true ∧
        ∃ ok, checkOne K code x lender.serialize = some ok ∧
          final = ⟨ofBool ok :: s, [], code⟩ := by
  have on : false ∉ [true] := by decide
  have rest : ∀ ok : Bool, run K (.opElse :: .codeSeparator :: makeCollateralAfterCodesepScript hash)
      ⟨ofBool ok :: s, [true], code⟩ = some ⟨ofBool ok :: s, [], code⟩ :=
    fun ok => run_collateral_rest
  constructor
  · intro ran
    obtain ⟨_, _, same, borrowerOk, dropping⟩ := of_run_checkSigVerify on ran
    cases same
    rw [List.append_eq, List.cons_append, run_drop on] at dropping
    obtain ⟨_, _, ok, same, lenderOk, ended⟩ := of_run_checkSig on dropping
    cases same
    exact ⟨borrowerOk, ok, lenderOk, Option.some.inj (ended.symm.trans (rest ok))⟩
  · intro ⟨borrowerOk, ok, lenderOk, ended⟩
    rw [List.cons_append, run_checkSigVerify on borrowerOk, if_pos rfl, List.cons_append,
      run_drop on, List.cons_append, run_checkSig on lenderOk, ended]
    exact rest ok

/-- The lender's signature over the code after the separator. -/
theorem run_collateral_lender :
    run K [.checkSig, .opElse, .drop, .size, pushInt 16, .equalVerify, .sha256,
        .push hash.toBytes, .equal, .endIf, .endIf]
        ⟨lender.serialize :: x :: s, [true, true], code⟩ = some final ↔
      ∃ ok, checkOne K code x lender.serialize = some ok ∧
        final = ⟨ofBool ok :: s, [], code⟩ := by
  have on : false ∉ [true, true] := by decide
  have off : false ∈ [!true, true] := by decide
  have skipped : ∀ ok : Bool, run K (.opElse :: ([.drop, .size, pushInt 16, .equalVerify, .sha256,
      .push hash.toBytes, .equal] ++ [.endIf, .endIf])) ⟨ofBool ok :: s, [true, true], code⟩ =
        some ⟨ofBool ok :: s, [], code⟩ := by
    intro ok
    rw [run_else, run_skipAll off (by simp [pushInt]), run_endIf, run_endIf, run_nil]
  constructor
  · intro ran
    obtain ⟨_, _, ok, same, checked, ended⟩ := of_run_checkSig on ran
    cases same
    exact ⟨ok, checked, Option.some.inj (ended.symm.trans (skipped ok))⟩
  · rintro ⟨ok, checked, ended⟩
    rw [run_checkSig on checked, ended]
    exact skipped ok

/-- The lender's preimage. -/
theorem run_collateral_preimage :
    run K [.checkSig, .opElse, .drop, .size, pushInt 16, .equalVerify, .sha256,
        .push hash.toBytes, .equal, .endIf, .endIf]
        ⟨lender.serialize :: x :: s, [false, true], code⟩ = some final ↔
      x.length = 16 ∧ final = ⟨ofBool (hash.toBytes = K.sha256 x) :: s, [], code⟩ := by
  have off : false ∈ [false, true] := List.mem_cons_self
  have on : false ∉ [!false, true] := by decide
  have sixteen : encodeNum (16 : Fin 17).val = encodeNum x.length ↔ x.length = 16 := by
    rw [eq_comm]
    exact encodeNum_eq_small_iff (by decide) (by decide)
  rw [run_skip off (by decide), run_else, run_drop on, run_size on,
    show pushInt 16 = .num 16 from rfl, run_num on, run_equalVerify on]
  by_cases size : x.length = 16
  · rw [if_pos (sixteen.mpr size), run_sha256 on, run_push on, run_equal on, run_endIf, run_endIf,
      run_nil, Option.some.injEq, eq_comm]
    exact (and_iff_right size).symm
  · rw [if_neg fun same => size (sixteen.mp same)]
    refine ⟨fun ran => ?_, fun found => absurd found.1 size⟩
    cases ran

/-- The branch of a selector that is a number: the borrower's signature over the
code after the separator, and the lender's signature or preimage. -/
theorem run_collateral_selected :
    run K (makeCollateralAfterCodesepScript hash)
        ⟨borrower.serialize :: borrowerSig :: selector :: lender.serialize :: x :: s, [true],
          code⟩ = some final ↔
      checkOne K code borrowerSig borrower.serialize = some true ∧
        ∃ n, decodeNum 4 selector = some n ∧
          if n = 1 then
            ∃ ok, checkOne K code x lender.serialize = some ok ∧
              final = ⟨ofBool ok :: s, [], code⟩
          else x.length = 16 ∧ final = ⟨ofBool (hash.toBytes = K.sha256 x) :: s, [], code⟩ := by
  have on : false ∉ [true] := by decide
  have tested : ∀ n, decodeNum 4 selector = some n →
      (!truthy (encodeNum (n - 1))) = decide (n = 1) := by
    intro n read
    have bound := decodeNum_natAbs_lt read
    rw [truthy_encodeNum (by omega), ← decide_not]
    exact decide_eq_decide.mpr (by omega)
  have branches : ∀ n : ℤ, run K [.checkSig, .opElse, .drop, .size, pushInt 16, .equalVerify,
      .sha256, .push hash.toBytes, .equal, .endIf, .endIf]
      ⟨lender.serialize :: x :: s, [decide (n = 1), true], code⟩ = some final ↔
        if n = 1 then
          ∃ ok, checkOne K code x lender.serialize = some ok ∧
            final = ⟨ofBool ok :: s, [], code⟩
        else x.length = 16 ∧ final = ⟨ofBool (hash.toBytes = K.sha256 x) :: s, [], code⟩ := by
    intro n
    by_cases one : n = 1
    · rw [if_pos one, decide_eq_true one]
      exact run_collateral_lender
    · rw [if_neg one, decide_eq_false one]
      exact run_collateral_preimage
  constructor
  · intro ran
    obtain ⟨_, _, same, borrowerOk, subtracting⟩ := of_run_checkSigVerify on ran
    cases same
    obtain ⟨n, read, chosen⟩ := of_run_oneSub on subtracting
    rw [run_notIf on, tested n read] at chosen
    exact ⟨borrowerOk, n, read, (branches n).mp chosen⟩
  · intro ⟨borrowerOk, n, read, chosen⟩
    rw [makeCollateralAfterCodesepScript, run_checkSigVerify on borrowerOk, if_pos rfl,
      run_oneSub on read, run_notIf on, tested n read]
    exact (branches n).mpr chosen

end Runs

section Spends
variable (C : Crypto) (tx : Transaction) (index value : ℕ) (borrower lender : PublicKey)
  (lenderHash : Bytes32) (witness : List Bytes)

/-- The spends of the collateral output. A selector is numerically zero when its
bytes are, up to a sign; a selector that is not has to be a number. -/
def SpendsCollateral : Prop :=
  ∃ selector borrowerSig x, witness = [selector, borrowerSig, x] ∧
    ((truthy selector = false ∧
        ValidSignature C tx index value (makeCollateralRedeemscript borrower lender lenderHash)
          borrowerSig borrower ∧
        ValidSignature C tx index value (makeCollateralRedeemscript borrower lender lenderHash)
          x lender) ∨
      ∃ n, decodeNum 4 selector = some n ∧ n ≠ 0 ∧
        ValidSignature C tx index value (makeCollateralAfterCodesepScript lenderHash)
          borrowerSig borrower ∧
        if n = 1 then
          ValidSignature C tx index value (makeCollateralAfterCodesepScript lenderHash) x lender
        else x.length = 16 ∧ C.sha256 x = lenderHash)

variable {C tx index value borrower lender lenderHash witness}

/-- What a run of three elements leaves, by the kind of the selector. -/
theorem run_collateral_iff {K : Checker} {code : List Op} {s : List Bytes}
    {x borrowerSig selector : Bytes} {final : State} :
    run K (makeCollateralRedeemscript borrower lender lenderHash)
        ⟨x :: borrowerSig :: selector :: s, [], code⟩ = some final ↔
      (truthy selector = false ∧ checkOne K code borrowerSig borrower.serialize = some true ∧
          ∃ ok, checkOne K code x lender.serialize = some ok ∧ final = ⟨ofBool ok :: s, [], code⟩) ∨
        ∃ n, decodeNum 4 selector = some n ∧ n ≠ 0 ∧
          checkOne K (makeCollateralAfterCodesepScript lenderHash) borrowerSig
            borrower.serialize = some true ∧
          if n = 1 then
            ∃ ok, checkOne K (makeCollateralAfterCodesepScript lenderHash) x lender.serialize =
                some ok ∧
              final = ⟨ofBool ok :: s, [], makeCollateralAfterCodesepScript lenderHash⟩
          else x.length = 16 ∧ final = ⟨ofBool (lenderHash.toBytes = K.sha256 x) :: s, [],
            makeCollateralAfterCodesepScript lenderHash⟩ := by
  rw [run_collateral_branch]
  by_cases selected : truthy selector = true
  · rw [if_pos selected, run_collateral_selected]
    constructor
    · intro ⟨borrowerOk, n, read, chosen⟩
      have nonzero : n ≠ 0 := of_decide_eq_true ((truthy_of_decodeNum read).symm.trans selected)
      exact .inr ⟨n, read, nonzero, borrowerOk, chosen⟩
    · intro spend
      cases spend with
      | inl cooperative => exact absurd selected (by rw [cooperative.1]; decide)
      | inr numeric =>
          obtain ⟨n, read, _, borrowerOk, chosen⟩ := numeric
          exact ⟨borrowerOk, n, read, chosen⟩
  · have zero := Bool.eq_false_of_not_eq_true selected
    rw [if_neg selected, run_collateral_cooperative]
    constructor
    · intro cooperative
      exact .inl ⟨zero, cooperative⟩
    · intro spend
      cases spend with
      | inl cooperative => exact cooperative.2
      | inr numeric =>
          obtain ⟨n, read, nonzero, _⟩ := numeric
          exact absurd ((truthy_of_decodeNum read).trans (decide_eq_true nonzero)) selected

/-- A run ends in success exactly when its result is true and alone. -/
theorem ends_true_iff {code : List Op} {s : List Bytes} {ok : Bool} :
    (∃ top code', (⟨[top], [], code'⟩ : Script.State) = ⟨ofBool ok :: s, [], code⟩ ∧
      truthy top = true) ↔ s = [] ∧ ok = true := by
  constructor
  · intro ⟨top, code', same, holds⟩
    obtain ⟨rfl, rfl⟩ := List.cons.inj (congrArg State.stack same)
    exact ⟨rfl, (truthy_ofBool ok).symm.trans holds⟩
  · intro ⟨empty, success⟩
    rw [empty, success]
    exact ⟨_, _, rfl, rfl⟩

/-- A run of three elements ends in success when they are a spend and nothing is
below them. -/
theorem run_collateral_true_iff (lawful : C.Lawful) {s : List Bytes}
    {x borrowerSig selector : Bytes} :
    (∃ top code, run (checker C tx index value)
        (makeCollateralRedeemscript borrower lender lenderHash)
        ⟨x :: borrowerSig :: selector :: s, [],
          makeCollateralRedeemscript borrower lender lenderHash⟩ = some ⟨[top], [], code⟩ ∧
      truthy top = true) ↔
      s = [] ∧ SpendsCollateral C tx index value borrower lender lenderHash
        [selector, borrowerSig, x] := by
  simp only [run_collateral_iff, checkOne_eq_true_iff lawful]
  constructor
  · intro ⟨top, code, ran, holds⟩
    cases ran with
    | inl cooperative =>
        obtain ⟨zero, borrowerValid, ok, lenderOk, ended⟩ := cooperative
        obtain ⟨empty, rfl⟩ := ends_true_iff.mp ⟨top, code, ended, holds⟩
        have lenderValid := (checkOne_eq_true_iff lawful).mp lenderOk
        exact ⟨empty, _, _, _, rfl, .inl ⟨zero, borrowerValid, lenderValid⟩⟩
    | inr numeric =>
        obtain ⟨n, read, nonzero, borrowerValid, chosen⟩ := numeric
        by_cases one : n = 1
        · rw [if_pos one] at chosen
          obtain ⟨ok, lenderOk, ended⟩ := chosen
          obtain ⟨empty, rfl⟩ := ends_true_iff.mp ⟨top, code, ended, holds⟩
          have lenderValid := (checkOne_eq_true_iff lawful).mp lenderOk
          refine ⟨empty, _, _, _, rfl, .inr ⟨n, read, nonzero, borrowerValid, ?_⟩⟩
          rw [if_pos one]
          exact lenderValid
        · rw [if_neg one] at chosen
          obtain ⟨size, ended⟩ := chosen
          obtain ⟨empty, hashed⟩ := ends_true_iff.mp ⟨top, code, ended, holds⟩
          refine ⟨empty, _, _, _, rfl, .inr ⟨n, read, nonzero, borrowerValid, ?_⟩⟩
          rw [if_neg one]
          exact ⟨size, (Bytes32.toBytes_injective (of_decide_eq_true hashed)).symm⟩
  · intro ⟨empty, _, _, _, shape, spend⟩
    cases shape
    rw [empty]
    cases spend with
    | inl cooperative =>
        obtain ⟨zero, borrowerValid, lenderValid⟩ := cooperative
        have lenderOk := (checkOne_eq_true_iff lawful).mpr lenderValid
        exact ⟨_, _, .inl ⟨zero, borrowerValid, true, lenderOk, rfl⟩, rfl⟩
    | inr numeric =>
        obtain ⟨n, read, nonzero, borrowerValid, chosen⟩ := numeric
        refine ⟨ofBool true, makeCollateralAfterCodesepScript lenderHash,
          .inr ⟨n, read, nonzero, borrowerValid, ?_⟩, rfl⟩
        by_cases one : n = 1
        · rw [if_pos one] at chosen ⊢
          exact ⟨true, (checkOne_eq_true_iff lawful).mpr chosen, rfl⟩
        · rw [if_neg one] at chosen ⊢
          have hashed : decide (lenderHash.toBytes = (checker C tx index value).sha256 x) = true :=
            decide_eq_true (congrArg Bytes32.toBytes chosen.2).symm
          rw [hashed]
          exact ⟨chosen.1, rfl⟩

end Spends

/-! The borrower takes the collateral back with the lender's preimage. -/

def sampleLenderPreimage : Uint128 := 0x101112131415161718191a1b1c1d1e1f

def sampleLenderHash : Bytes32 :=
  0xfc2e2c73072bfa2bda03ff9307472debd3cc8105028a8a9e235e35ba8d2e37f4

def sampleCollateralSpend : Transaction where
  lockTime := 0
  input := [{
    previousOutput := ⟨sampleFundTxid, 0⟩
    scriptSig := []
    sequence := 0xffffffff
    witness := [] }]
  output := [{ value := 99999000, scriptPubkey := sampleSpk₂ }]

def sampleCollateralDigest : Message :=
  0x65732325dc41ff58f3e360ed6f15c3445bc691094eb4f1b1d8b84ce09d00ae62

def sampleCollateralSignature : Signature :=
  0x765c5ae16373e89619b67aa5c95d81ee962628d8f2f8b2b8c292bb7caf5b66f5339d151e8a7a183b6ab3bcad74d079979d66286fde684d6c3a4780a5a7acdcbc

/-- The scheme with the borrower's signature over this spend. -/
def collateralCrypto : Crypto :=
  cryptoOf [⟨2, sampleCollateralDigest, sampleCollateralSignature⟩]
    (fun b => if b = sampleLenderPreimage.toBeBytes then sampleLenderHash else 0)
    fun hashType tx index script value =>
      if hashType = sighashAll ∧ tx = sampleCollateralSpend ∧ index = 0 ∧
          script = toBytes (makeCollateralAfterCodesepScript sampleLenderHash) ∧
          value = 99999834 then sampleCollateralDigest
      else 0

end P2PLending.Dlc
