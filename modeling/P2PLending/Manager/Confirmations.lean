import P2PLending.Manager.Handlers
import Mathlib.Tactic.Common

/-! How the providers count the confirmations of a transaction. Bitcoin Core answers with a signed
number, which is negative for a transaction that conflicts with the chain. For electrs the count
is the distance between two heights that are read one after the other. -/

namespace P2PLending.Manager
open Checked

/-- The blocks of a chain with the ids of their transactions, the first block at height 0. -/
structure Chain where
  blocks : List (List Bytes32)
  genesis : blocks ≠ []
  bounded : blocks.length < 2 ^ 32

namespace Chain

def height (chain : Chain) : ℕ := chain.blocks.length - 1

def blockHeight (chain : Chain) (txid : Bytes32) : Option ℕ :=
  chain.blocks.findIdx? fun block => txid ∈ block

/-- The blocks from the one with the transaction to the tip. -/
def depth (chain : Chain) (txid : Bytes32) : ℕ :=
  match chain.blockHeight txid with
  | some block => chain.height - block + 1
  | none => 0

theorem height_bounded (chain : Chain) : chain.height + 1 < 2 ^ 32 := by
  have some_block := List.length_pos_of_ne_nil chain.genesis
  have bounded := chain.bounded
  unfold height
  omega

theorem depth_le (chain : Chain) (txid : Bytes32) : chain.depth txid ≤ chain.height + 1 := by
  unfold depth
  split
  · omega
  · omega

theorem blockHeight_le {chain : Chain} {txid : Bytes32} {block : ℕ}
    (found : chain.blockHeight txid = some block) : block ≤ chain.height := by
  obtain ⟨inside, -⟩ := List.findIdx?_eq_some_iff_getElem.mp found
  unfold height
  omega

/-- As many blocks as from one on are there exactly when the transaction is no higher. -/
theorem le_depth_iff {chain : Chain} (txid : Bytes32) {block : ℕ} (below : block ≤ chain.height) :
    chain.height - block + 1 ≤ chain.depth txid ↔
      ∃ now ≤ block, chain.blockHeight txid = some now := by
  unfold depth
  match found : chain.blockHeight txid with
  | none => simp
  | some now =>
      have inside := blockHeight_le found
      constructor
      · intro deep
        exact ⟨now, by dsimp only at deep; omega, rfl⟩
      · rintro ⟨_, lower, same⟩
        cases same
        dsimp only
        omega

end Chain

section BitcoinCore

/-- How a call of `gettransaction` fails. -/
inductive RpcCallError
  | rpc (code : Int32) (message : String)
  | other
  deriving DecidableEq, Repr

/-- `BitcoinCoreProvider::get_transaction_confirmations`, for the `confirmations` of the answer -/
def coreConfirmations (answer : Except RpcCallError Int32) : Result ℕ :=
  match answer with
  | .ok confirmations => .ok confirmations.toUInt32.toNat
  | .error (.rpc code message) =>
      if code = -5 ∧ message = "Invalid or non-wallet transaction id" then .ok 0
      else .error (.err .walletError)
  | .error .other => .error (.err .walletError)

/-- The count that Bitcoin Core gives: the depth, or, when the chain has another transaction in
its place, minus the depth of that one. -/
structure CoreAnswer where
  chain : Chain
  txid : Bytes32
  answer : Except RpcCallError Int32
  counted : ∀ confirmations, answer = .ok confirmations →
    chain.depth txid = confirmations.toInt.toNat

end BitcoinCore

section Electrs

structure TxStatus where
  confirmed : Bool
  blockHeight : Option UInt64
  deriving DecidableEq, Repr

/-- Arithmetic on `u64`, in a build that checks for overflows or in one that wraps. -/
def wordOp (overflowChecks : Bool) (fits : Prop) [Decidable fits] (wrapped : UInt64)
    (message : String) : Result UInt64 :=
  if overflowChecks ∧ ¬ fits then .error (.panic message) else .ok wrapped

theorem wordOp_ok {overflowChecks : Bool} {fits : Prop} [Decidable fits] {wrapped : UInt64}
    {message : String} (sound : overflowChecks = true → fits) :
    wordOp overflowChecks fits wrapped message = .ok wrapped :=
  if_neg fun overflows => overflows.2 (sound overflows.1)

/-- `ElectrsBlockchainProvider::get_transaction_confirmations` -/
def electrsConfirmations (overflowChecks : Bool) (txStatus : Except Error TxStatus)
    (blockchainHeight : Except Error UInt64) : Result ℕ := do
  let txStatus ← answered txStatus
  if txStatus.confirmed then do
    let blockChainHeight ← answered blockchainHeight
    match txStatus.blockHeight with
    | some blockHeight => do
        let above ← wordOp overflowChecks (blockHeight ≤ blockChainHeight)
          (blockChainHeight - blockHeight) "attempt to subtract with overflow"
        let confirmations ← wordOp overflowChecks (above.toNat + 1 < 2 ^ 64) (above + 1)
          "attempt to add with overflow"
        .ok confirmations.toUInt32.toNat
    | none => .ok 0
  else .ok 0

/-- The status is read of one chain, and the height then of another. -/
structure ElectrsAnswer where
  overflowChecks : Bool
  before : Chain
  chain : Chain
  txid : Bytes32
  txStatus : Except Error TxStatus
  blockchainHeight : Except Error UInt64
  status : ∀ s, txStatus = .ok s → s.confirmed = (before.blockHeight txid).isSome ∧
    s.blockHeight.map UInt64.toNat = before.blockHeight txid
  height : ∀ h, blockchainHeight = .ok h → h.toNat = chain.height

end Electrs

namespace CoreAnswer

def confirmations (a : CoreAnswer) : Result ℕ := coreConfirmations a.answer

/-- The transaction does not conflict with the chain. -/
def Unconflicted (a : CoreAnswer) : Prop :=
  ∀ confirmations, a.answer = .ok confirmations → 0 ≤ confirmations.toInt

theorem toUInt32_le_iff (c : Int32) : c.toUInt32.toNat ≤ c.toInt.toNat ↔ 0 ≤ c.toInt := by
  have value : c.toInt = if 2 * c.toUInt32.toNat < 2 ^ 32 then (c.toUInt32.toNat : ℤ)
      else c.toUInt32.toNat - 2 ^ 32 := BitVec.toInt_eq_toNat_cond c.toBitVec
  have word : c.toUInt32.toNat < 2 ^ 32 := c.toUInt32.toNat_lt
  split at value
  · omega
  · omega

theorem le_depth_iff (a : CoreAnswer) :
    (∀ n, a.confirmations = .ok n → n ≤ a.chain.depth a.txid) ↔ a.Unconflicted := by
  unfold confirmations coreConfirmations Unconflicted
  match answered : a.answer with
  | .ok c =>
      have counted := a.counted c answered
      constructor
      · intro below c' same
        cases same
        have narrow := below _ rfl
        rw [counted] at narrow
        exact (toUInt32_le_iff c).mp narrow
      · intro positive n result
        cases result
        rw [counted]
        exact (toUInt32_le_iff c).mpr (positive c rfl)
  | .error (.rpc code message) =>
      refine iff_of_true (fun n result => ?_) fun _ => nofun
      dsimp only at result
      split at result
      · cases result
        exact Nat.zero_le _
      · cases result
  | .error .other =>
      exact iff_of_true (fun n result => by cases result) fun _ => nofun

end CoreAnswer

namespace ElectrsAnswer

def confirmations (a : ElectrsAnswer) : Result ℕ :=
  electrsConfirmations a.overflowChecks a.txStatus a.blockchainHeight

/-- The block of the status is no higher than the chain of the second answer, which still has
the transaction, no higher. Or it is higher than that chain, and the subtraction is checked or
the difference is one. -/
def Settled (a : ElectrsAnswer) : Prop :=
  ∀ s h block, a.txStatus = .ok s → a.blockchainHeight = .ok h →
    a.before.blockHeight a.txid = some block →
      if block ≤ a.chain.height then ∃ now ≤ block, a.chain.blockHeight a.txid = some now
      else a.overflowChecks = true ∨ block = a.chain.height + 1

theorem difference_of_le {above below : UInt64} (order : below ≤ above)
    (small : above.toNat + 1 < 2 ^ 32) :
    (above - below + 1).toUInt32.toNat = above.toNat - below.toNat + 1 := by
  rw [UInt64.le_iff_toNat_le] at order
  rw [UInt64.toNat_toUInt32, UInt64.toNat_add, UInt64.toNat_sub]
  have one : (1 : UInt64).toNat = 1 := rfl
  have word := above.toNat_lt
  omega

/-- The difference wraps, and its low half is taken. -/
theorem difference_of_lt {above below : UInt64} (order : above < below)
    (small : below.toNat < 2 ^ 32) :
    (above - below + 1).toUInt32.toNat =
      if below.toNat = above.toNat + 1 then 0 else 2 ^ 32 - (below.toNat - above.toNat - 1) := by
  rw [UInt64.lt_iff_toNat_lt] at order
  rw [UInt64.toNat_toUInt32, UInt64.toNat_add, UInt64.toNat_sub]
  have one : (1 : UInt64).toNat = 1 := rfl
  split
  · omega
  · omega

theorem electrsConfirmations_confirmed {overflowChecks : Bool} {s : TxStatus} {h block : UInt64}
    (confirmed : s.confirmed = true) (found : s.blockHeight = some block)
    (small : h.toNat + 1 < 2 ^ 32) :
    electrsConfirmations overflowChecks (.ok s) (.ok h) =
      if overflowChecks ∧ ¬ block ≤ h then .error (.panic "attempt to subtract with overflow")
      else .ok (h - block + 1).toUInt32.toNat := by
  simp only [electrsConfirmations, answered, ok_bind, confirmed, if_true, found]
  split
  · next overflows => rw [wordOp, if_pos overflows, error_bind]
  next sound =>
  have order : overflowChecks = true → block ≤ h := fun checked =>
    not_not.mp fun above => sound ⟨checked, above⟩
  have fits : overflowChecks = true → (h - block).toNat + 1 < 2 ^ 64 := by
    intro checked
    rw [UInt64.toNat_sub_of_le h block (order checked)]
    omega
  rw [wordOp_ok order, ok_bind, wordOp_ok fits, ok_bind]

theorem counted_le_iff (overflowChecks : Bool) {chain : Chain} (txid : Bytes32) {h word : UInt64}
    (message : String) (tip : h.toNat = chain.height) (low : word.toNat < 2 ^ 32) :
    (∀ n, (if overflowChecks ∧ ¬ word ≤ h then .error (.panic message)
        else .ok (h - word + 1).toUInt32.toNat : Result ℕ) = .ok n → n ≤ chain.depth txid) ↔
      if word.toNat ≤ chain.height then ∃ now ≤ word.toNat, chain.blockHeight txid = some now
      else overflowChecks = true ∨ word.toNat = chain.height + 1 := by
  have small : h.toNat + 1 < 2 ^ 32 := by
    rw [tip]
    exact chain.height_bounded
  by_cases order : word ≤ h
  · have below : word.toNat ≤ chain.height := by
      rw [← tip]
      exact UInt64.le_iff_toNat_le.mp order
    have deep := Chain.le_depth_iff txid below
    rw [if_neg fun panics => panics.2 order, if_pos below, difference_of_le order small, tip,
      ← deep]
    constructor
    · intro counted
      exact counted _ rfl
    · intro counted n result
      cases result
      exact counted
  · have above : h < word := UInt64.not_le.mp order
    have higher : ¬ word.toNat ≤ chain.height := by
      rw [← tip]
      exact Nat.not_le.mpr (UInt64.lt_iff_toNat_lt.mp above)
    rw [if_neg higher]
    cases overflowChecks with
    | true =>
        rw [if_pos ⟨rfl, order⟩]
        exact iff_of_true (fun n result => by cases result) (.inl rfl)
    | false =>
        have shallow := chain.depth_le txid
        rw [if_neg fun panics => Bool.false_ne_true panics.1, difference_of_lt above low, tip]
        constructor
        · intro counted
          have most := counted _ rfl
          right
          by_contra far
          rw [if_neg far] at most
          omega
        · rintro (checked | next) n result
          · cases checked
          · rw [if_pos next] at result
            cases result
            exact Nat.zero_le _

theorem le_depth_iff (a : ElectrsAnswer) :
    (∀ n, a.confirmations = .ok n → n ≤ a.chain.depth a.txid) ↔ a.Settled := by
  unfold confirmations Settled
  cases status : a.txStatus with
  | error e =>
      refine iff_of_true (fun n result => by cases result) fun s h block given => by cases given
  | ok s =>
      cases height : a.blockchainHeight with
      | error e =>
          refine iff_of_true (fun n result => ?_) fun s h block _ given => by cases given
          simp only [electrsConfirmations, answered, ok_bind, error_bind] at result
          split at result
          · cases result
          · cases result
            exact Nat.zero_le _
      | ok h =>
          obtain ⟨confirmed, blocks⟩ := a.status s status
          have tip := a.height h height
          have small : h.toNat + 1 < 2 ^ 32 := by
            rw [tip]
            exact a.chain.height_bounded
          cases stored : a.before.blockHeight a.txid with
          | none =>
              rw [stored] at confirmed
              refine iff_of_true (fun n result => ?_) fun s h block _ _ given => by cases given
              simp only [electrsConfirmations, answered, ok_bind, confirmed] at result
              cases result
              exact Nat.zero_le _
          | some block =>
              rw [stored] at confirmed blocks
              obtain ⟨word, listed, value⟩ := Option.map_eq_some_iff.mp blocks
              have low : word.toNat < 2 ^ 32 := by
                have inside := Chain.blockHeight_le stored
                have bounded := a.before.height_bounded
                omega
              have counted := counted_le_iff a.overflowChecks a.txid
                "attempt to subtract with overflow" tip low
              rw [electrsConfirmations_confirmed confirmed listed small, counted, value]
              constructor
              · rintro settled _ _ _ ⟨⟩ ⟨⟩ ⟨⟩
                exact settled
              · intro settled
                exact settled s h block rfl rfl rfl

end ElectrsAnswer

/-- What one of the two providers is answered about a transaction. -/
inductive Answer
  | core (a : CoreAnswer)
  | electrs (a : ElectrsAnswer)

namespace Answer

def txid : Answer → Bytes32
  | core a => a.txid
  | electrs a => a.txid

/-- The depth in the chain at the last answer. -/
def depth : Answer → ℕ
  | core a => a.chain.depth a.txid
  | electrs a => a.chain.depth a.txid

/-- `get_transaction_confirmations` -/
def confirmations : Answer → Result ℕ
  | core a => a.confirmations
  | electrs a => a.confirmations

def Steady : Answer → Prop
  | core a => a.Unconflicted
  | electrs a => a.Settled

/-- No more confirmations than the depth are returned exactly for a steady answer. -/
theorem le_depth_iff (a : Answer) : (∀ n, a.confirmations = .ok n → n ≤ a.depth) ↔ a.Steady := by
  cases a with
  | core a => exact a.le_depth_iff
  | electrs a => exact a.le_depth_iff

end Answer

end P2PLending.Manager
