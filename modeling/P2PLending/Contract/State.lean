import P2PLending.Foundation.Checked
import P2PLending.Foundation.Words
import Mathlib.Logic.Function.Basic
import Mathlib.Data.Int.Basic

/-! Storage, environment and failures of `P2PBTCLending`. A word is a natural
number and every arithmetic step is checked against `2 ^ 256`. The ERC20 token,
the SPV library, the light client and the hash precompiles are outside the
repository and enter as parameters. -/

namespace P2PLending.Contract

abbrev Address := Fin (2 ^ 160)

instance neZero_address : NeZero (2 ^ 160) := ⟨by decide⟩

/-- Why a call reverts: a `require` text, a `Panic` of checked arithmetic, or a
revert of a called contract. -/
inductive Revert
  | reason (message : String)
  | overflow
  | divisionByZero
  | callee
  deriving DecidableEq, Repr

abbrev Sol (α : Type) := Except Revert α

def require (c : Prop) [Decidable c] (message : String) : Sol Unit :=
  Checked.ensure c (.reason message)

def uint256Limit : ℕ := 2 ^ 256

def mul (a b : ℕ) : Sol ℕ := Checked.mul uint256Limit .overflow a b
def add (a b : ℕ) : Sol ℕ := Checked.add uint256Limit .overflow a b
def sub (a b : ℕ) : Sol ℕ := Checked.sub .overflow a b
def div (a b : ℕ) : Sol ℕ := Checked.div .divisionByZero a b

@[simp] theorem require_eq_ok {c : Prop} [Decidable c] {message : String} {u : Unit} :
    require c message = .ok u ↔ c := Checked.ensure_eq_ok

@[simp] theorem mul_eq_ok {a b m : ℕ} : mul a b = .ok m ↔ a * b < uint256Limit ∧ m = a * b :=
  Checked.mul_eq_ok

@[simp] theorem add_eq_ok {a b m : ℕ} : add a b = .ok m ↔ a + b < uint256Limit ∧ m = a + b :=
  Checked.add_eq_ok

@[simp] theorem sub_eq_ok {a b m : ℕ} : sub a b = .ok m ↔ b ≤ a ∧ m = a - b :=
  Checked.sub_eq_ok

@[simp] theorem div_eq_ok {a b m : ℕ} : div a b = .ok m ↔ b ≠ 0 ∧ m = a / b :=
  Checked.div_eq_ok

theorem mul_fits {a b : ℕ} (h : a * b < uint256Limit) : mul a b = .ok (a * b) :=
  mul_eq_ok.mpr ⟨h, rfl⟩

theorem mul_overflows {a b : ℕ} (h : uint256Limit ≤ a * b) : mul a b = .error .overflow :=
  Checked.fit_of_le _ h

theorem add_fits {a b : ℕ} (h : a + b < uint256Limit) : add a b = .ok (a + b) :=
  add_eq_ok.mpr ⟨h, rfl⟩

theorem sub_fits {a b : ℕ} (h : b ≤ a) : sub a b = .ok (a - b) :=
  sub_eq_ok.mpr ⟨h, rfl⟩

theorem div_fits {a b : ℕ} (h : b ≠ 0) : div a b = .ok (a / b) :=
  div_eq_ok.mpr ⟨h, rfl⟩

def collateralRatio : ℕ := 150
def liquidationThreshold : ℕ := 125
def liquidationBonus : ℕ := 5
def secondsPerYear : ℕ := 31536000

structure BorrowRequest where
  amount : ℕ
  collateral : ℕ
  interestRate : ℕ
  btcAddress : Bytes
  signedPsbt : Bytes
  active : Bool
  deriving DecidableEq, Inhabited, Repr

structure Loan where
  borrowAmount : ℕ
  principal : ℕ
  interestRate : ℕ
  startDate : ℕ
  borrower : Address
  lender : Address
  btcAddress : Bytes
  active : Bool
  deriving DecidableEq, Inhabited, Repr

structure TransactionParams where
  version : Fin (2 ^ 32)
  vin : Bytes
  vout : Bytes
  locktime : Fin (2 ^ 32)
  intermediateNodes : Bytes
  blockHeight : ℕ
  index : ℕ

structure StableLoan where
  collateralAmount : ℕ
  stableLoanAmount : ℕ
  borrowerPreimage : Uint128
  deriving DecidableEq, Inhabited, Repr

/-- `loans lender borrower`, as the source's nested mapping. -/
structure State (Ledger : Type) where
  borrowRequests : Address → BorrowRequest
  loans : Address → Address → Loan
  stableLoans : Bytes32 → StableLoan
  testMode : Bool
  token : Ledger

/-- Assignment to `m[i][j]` of a nested mapping. -/
def assign {β : Type} (m : Address → Address → β) (i j : Address) (v : β) :
    Address → Address → β :=
  Function.update m i (Function.update (m i) j v)

theorem assign_apply {β : Type} (m : Address → Address → β) (i j a b : Address) (v : β) :
    assign m i j v a b = if a = i ∧ b = j then v else m a b := by
  by_cases row : a = i
  · subst row
    by_cases column : b = j <;> simp [assign, column]
  · simp [assign, row]

/-- The state the constructor leaves: every mapping empty, `testMode` set. -/
def State.fresh {Ledger : Type} (token : Ledger) : State Ledger where
  borrowRequests _ := default
  loans _ _ := default
  stableLoans _ := default
  testMode := true
  token := token

/-- An ERC20 token over its own ledger. A call reverts or returns its Boolean. -/
structure Erc20 (Ledger : Type) where
  balanceOf : Ledger → Address → ℕ
  transfer : Ledger → (sender recipient : Address) → ℕ → Sol (Bool × Ledger)
  transferFrom : Ledger → (spender owner recipient : Address) → ℕ → Sol (Bool × Ledger)

/-- Balances after `n` tokens moved from `a` to `b`. -/
def moved (balance : Address → ℕ) (a b : Address) (n : ℕ) : Address → ℕ :=
  let debited := Function.update balance a (balance a - n)
  Function.update debited b (debited b + n)

/-- No fee and no rebase: a transfer that returns true moves exactly the amount. -/
structure Erc20.Ordinary {Ledger : Type} (T : Erc20 Ledger) : Prop where
  transfer_moves : ∀ {l l' : Ledger} {a b : Address} {n : ℕ},
    T.transfer l a b n = .ok (true, l') →
      n ≤ T.balanceOf l a ∧ T.balanceOf l' = moved (T.balanceOf l) a b n
  transferFrom_moves : ∀ {l l' : Ledger} {spender a b : Address} {n : ℕ},
    T.transferFrom l spender a b n = .ok (true, l') →
      n ≤ T.balanceOf l a ∧ T.balanceOf l' = moved (T.balanceOf l) a b n

/-- The `BTCUtils` and `ValidateSPV` functions that `lend` calls. -/
structure SpvLibrary where
  validateVin : Bytes → Bool
  validateVout : Bytes → Bool
  calculateTxId : Fin (2 ^ 32) → Bytes → Bytes → Fin (2 ^ 32) → Bytes32
  extractOutputAtIndex : Bytes → ℕ → Sol Bytes
  extractValue : Bytes → ℕ
  extractHash : Bytes → Bytes

/-- One deployed contract: its address, the token, and the code it calls. -/
structure Deployment (Ledger : Type) where
  self : Address
  stableToken : Erc20 Ledger
  spv : SpvLibrary
  sha256 : Bytes → Bytes32
  keccak256 : Bytes → Bytes32

/-- What a call reads from outside: block time, the two feeds' answers, the
light client. A feed is read by static calls, so it answers once per call. -/
structure Env where
  timestamp : ℕ
  btcPrice : ℤ
  collateralPrice : ℤ
  verifyInclusionByTxId : ℕ → Bytes32 → Bytes → Bytes → ℕ → Sol Bool

inductive Event
  | borrowRequestCreated (borrower : Address) (amount interestRate : ℕ) (btcAddress : Bytes)
  | borrowRequestCancelled (borrower : Address)
  | loanCreated (borrower lender : Address) (amount interestRate : ℕ)
  | loanRepaid (borrower lender : Address) (amount : ℕ)
  | loanLiquidated (borrower liquidator : Address) (amount : ℕ)
  | stableLoanCreated (borrowerHash : Bytes32) (collateralAmount stableLoanAmount : ℕ)
  | stableClaimed (borrowerHash : Bytes32) (stableLoanAmount : ℕ)
      (borrowerPreimage : Uint128) (borrower : Address)
  deriving DecidableEq

section Balances
variable {balance : Address → ℕ} {a b : Address} {n : ℕ}

theorem moved_to (distinct : a ≠ b) : moved balance a b n b = balance b + n := by
  simp [moved, Function.update_of_ne distinct.symm]

theorem moved_from (distinct : a ≠ b) : moved balance a b n a = balance a - n := by
  simp [moved, Function.update_of_ne distinct]

end Balances

end P2PLending.Contract
