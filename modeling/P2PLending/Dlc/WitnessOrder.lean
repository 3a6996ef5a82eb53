import P2PLending.Dlc.Funding
import P2PLending.Dlc.CollateralScript

/-! Which spends the two-signature witnesses satisfy. The witness holds the own
signature before the counterparty's; the multisig script checks them in the
order of the keys, the collateral script the borrower's before the lender's. -/

namespace P2PLending.Dlc
open Script

variable {C : Crypto}

/-- The multisig part, whatever script code the signatures cover. -/
theorem run_multisig (lawful : C.Lawful) (tx : Transaction) (index value : ℕ)
    (a b : PublicKey) (s₁ s₂ : Signature) (code : List Op) :
    run (checker C tx index value)
        [.num 2, .push a.serialize, .push b.serialize, .num 2, .checkMultiSig]
        ⟨[finalizeSig C s₂, finalizeSig C s₁, []], [], code⟩ =
      some ⟨[ofBool (signatureValid C tx index value code s₁ a &&
        signatureValid C tx index value code s₂ b)], [], code⟩ := by
  have counted : checkMultiSig (checker C tx index value) code
      [encodeNum (2 : Fin 17).val, b.serialize, a.serialize, encodeNum (2 : Fin 17).val,
        finalizeSig C s₂, finalizeSig C s₁, []] =
        some (signatureValid C tx index value code s₁ a &&
          signatureValid C tx index value code s₂ b, []) := by
    have two : decodeNum 4 (encodeNum 2) = some 2 := decodeNum_pushTwo
    simp [checkMultiSig, takeCount, two, matchSigs, checkOne_finalizeSig lawful]
    cases signatureValid C tx index value code s₂ b with
    | false => simp
    | true => cases signatureValid C tx index value code s₁ a <;> simp
  have on : false ∉ ([] : List Bool) := List.not_mem_nil
  rw [run_num on, run_push on, run_push on, run_num on]
  exact (run_checkMultiSig on counted).trans (run_nil _)

theorem accepts_funding (lawful : C.Lawful) (tx : Transaction) (index value : ℕ)
    (a b : PublicKey) (s₁ s₂ : Signature) (ordered : a ≤ b) :
    accepts (checker C tx index value) (makeFundingRedeemscript a b)
        [[], finalizeSig C s₁, finalizeSig C s₂] =
      (signatureValid C tx index value (makeFundingRedeemscript a b) s₁ a &&
        signatureValid C tx index value (makeFundingRedeemscript a b) s₂ b) := by
  have l₁ := finalizeSig_length lawful s₁
  have l₂ := finalizeSig_length lawful s₂
  simp only [accepts, makeFundingRedeemscript, ordered, if_true]
  simp [run_multisig lawful, l₁, l₂]

/-- The collateral script takes the cooperative branch when the third element is
empty: the borrower's key checks the first signature. -/
theorem run_collateral (lawful : C.Lawful) (tx : Transaction) (index value : ℕ)
    (borrower lender : PublicKey) (lenderHash : Bytes32) (s₁ s₂ : Signature) (code : List Op) :
    run (checker C tx index value) (makeCollateralRedeemscript borrower lender lenderHash)
        ⟨[finalizeSig C s₂, finalizeSig C s₁, []], [], code⟩ =
      if signatureValid C tx index value code s₁ borrower then
        some ⟨[ofBool (signatureValid C tx index value code s₂ lender)], [], code⟩
      else none := by
  have on : false ∉ [true] := by decide
  have borrowerCheck := checkOne_finalizeSig lawful tx index value code s₁ borrower
  have lenderCheck := checkOne_finalizeSig lawful tx index value code s₂ lender
  rw [run_collateral_branch, if_neg (by decide), List.cons_append,
    run_checkSigVerify on borrowerCheck]
  congr 1
  rw [List.cons_append, run_drop on, List.cons_append, run_checkSig on lenderCheck]
  exact run_collateral_rest

theorem accepts_collateral (lawful : C.Lawful) (tx : Transaction) (index value : ℕ)
    (borrower lender : PublicKey) (lenderHash : Bytes32) (s₁ s₂ : Signature) :
    accepts (checker C tx index value) (makeCollateralRedeemscript borrower lender lenderHash)
        [[], finalizeSig C s₁, finalizeSig C s₂] =
      (signatureValid C tx index value (makeCollateralRedeemscript borrower lender lenderHash)
          s₁ borrower &&
        signatureValid C tx index value (makeCollateralRedeemscript borrower lender lenderHash)
          s₂ lender) := by
  have l₁ := finalizeSig_length lawful s₁
  have l₂ := finalizeSig_length lawful s₂
  simp only [accepts, List.reverse_cons, List.reverse_nil, List.nil_append, List.cons_append]
  rw [run_collateral lawful]
  cases signatureValid C tx index value (makeCollateralRedeemscript borrower lender lenderHash)
    s₁ borrower with
  | false => simp
  | true => simp [l₁, l₂]

/-- The two scripts that a pair of signatures closes. -/
inductive ClosingScript
  | funding (a b : PublicKey)
  | collateral (borrower lender : PublicKey) (lenderHash : Bytes32)
  deriving DecidableEq, Repr

namespace ClosingScript

def ops : ClosingScript → List Op
  | .funding a b => makeFundingRedeemscript a b
  | .collateral borrower lender lenderHash => makeCollateralRedeemscript borrower lender lenderHash

/-- The key that checks the first signature. -/
def first : ClosingScript → PublicKey
  | .funding a b => if a ≤ b then a else b
  | .collateral borrower _ _ => borrower

/-- The key that checks the second signature. -/
def second : ClosingScript → PublicKey
  | .funding a b => if a ≤ b then b else a
  | .collateral _ lender _ => lender

/-- The script is between these two parties, whatever their roles. -/
def Between (script : ClosingScript) (own other : PublicKey) : Prop :=
  (script.first = own ∧ script.second = other) ∨ (script.first = other ∧ script.second = own)

theorem accepts_ops (lawful : C.Lawful) (tx : Transaction) (index value : ℕ)
    (script : ClosingScript) (s₁ s₂ : Signature) :
    accepts (checker C tx index value) script.ops [[], finalizeSig C s₁, finalizeSig C s₂] =
      (signatureValid C tx index value script.ops s₁ script.first &&
        signatureValid C tx index value script.ops s₂ script.second) := by
  cases script with
  | funding a b =>
      by_cases ordered : a ≤ b
      · simp only [ops, first, second, ordered, if_true]
        exact accepts_funding lawful tx index value a b s₁ s₂ ordered
      · have swapped : b ≤ a := (le_total b a).resolve_right ordered
        have same : makeFundingRedeemscript a b = makeFundingRedeemscript b a := by
          simp only [makeFundingRedeemscript, ordered, swapped, if_true, if_false]
        simp only [ops, first, second, ordered, if_false]
        rw [same]
        exact accepts_funding lawful tx index value b a s₁ s₂ swapped
  | collateral borrower lender lenderHash =>
      exact accepts_collateral lawful tx index value borrower lender lenderHash s₁ s₂

end ClosingScript

/-- A spend with the four-element witness is accepted when the two signatures are. -/
theorem spends_setWitness (lawful : C.Lawful) {tx : Transaction} {index value : ℕ}
    {script : ClosingScript} {s₁ s₂ : Signature} (within : index < tx.input.length) :
    spends C (tx.setWitness index
        [[], finalizeSig C s₁, finalizeSig C s₂, Script.toBytes script.ops]) index
        ⟨value, toP2wsh C (Script.toBytes script.ops)⟩ script.ops =
      (signatureValid C tx index value script.ops s₁ script.first &&
        signatureValid C tx index value script.ops s₂ script.second) := by
  have present : (tx.setWitness index
      [[], finalizeSig C s₁, finalizeSig C s₂, Script.toBytes script.ops]).input[index]? =
        some { tx.input[index] with witness :=
          [[], finalizeSig C s₁, finalizeSig C s₂, Script.toBytes script.ops] } := by
    simp [Transaction.setWitness, within]
  simp only [spends, present]
  have accepted := script.accepts_ops lawful (tx.setWitness index
    [[], finalizeSig C s₁, finalizeSig C s₂, Script.toBytes script.ops]) index value s₁ s₂
  simpa [signatureValid] using accepted

/-- What the helper builds from the own key and the counterparty's verified
signature is accepted exactly when the script reads the own signature first. -/
theorem signMultiSigInput_spends_iff (lawful : C.Lawful) {tx signed : Transaction}
    {script : ClosingScript} {own other : PublicKey} {otherSig : Signature} {sk : SecretKey}
    {value : ℕ} (between : script.Between own other) (distinct : own ≠ other)
    (ownKey : C.publicKey sk = own)
    (verified : signatureValid C tx 0 value script.ops otherSig other = true)
    (built : signMultiSigInput C tx otherSig other sk (Script.toBytes script.ops) value 0 =
      .ok signed) :
    spends C signed 0 ⟨value, toP2wsh C (Script.toBytes script.ops)⟩ script.ops = true ↔
      own = script.first := by
  obtain ⟨within, rfl⟩ := signMultiSigInput_ok built
  rw [spends_setWitness lawful within, Bool.and_eq_true]
  have ownValid : ∀ k, signatureValid C tx 0 value script.ops (C.signEcdsa
      (C.p2wshSignatureHash sighashAll tx.unsigned 0 (Script.toBytes script.ops) value) sk) k =
        true ↔ k = own := by
    intro k
    rw [signatureValid, verify_sign_iff lawful, ownKey]
  have otherValid : ∀ k, signatureValid C tx 0 value script.ops otherSig k = true ↔ k = other :=
    fun k => verify_iff_of_verified lawful verified k
  rw [ownValid, otherValid]
  rcases between with ⟨first, second⟩ | ⟨first, second⟩
  · simp [first, second]
  · simp [first, second, distinct, distinct.symm]

end P2PLending.Dlc
