import P2PLending.Contract.Audit

/-! A standard ERC20 token, and the execution of a list of calls. The token has
balances and allowances and reverts when either is too small, so every transfer
that succeeds is an ordinary one. An executed list of calls is a run. -/

namespace P2PLending.Contract
open Checked

structure TokenLedger where
  balances : Address → ℕ
  allowances : Address → Address → ℕ

namespace TokenLedger

def transfer (l : TokenLedger) (sender recipient : Address) (n : ℕ) :
    Sol (Bool × TokenLedger) := do
  require (n ≤ l.balances sender) "ERC20: transfer amount exceeds balance"
  pure (true, { l with balances := moved l.balances sender recipient n })

/-- The largest allowance is never spent. -/
def spendAllowance (l : TokenLedger) (owner spender : Address) (n : ℕ) : Sol TokenLedger := do
  if l.allowances owner spender = uint256Limit - 1 then
    pure l
  else
    require (n ≤ l.allowances owner spender) "ERC20: insufficient allowance"
    let left := l.allowances owner spender - n
    pure { l with allowances := assign l.allowances owner spender left }

def transferFrom (l : TokenLedger) (spender owner recipient : Address) (n : ℕ) :
    Sol (Bool × TokenLedger) := do
  let spent ← l.spendAllowance owner spender n
  spent.transfer owner recipient n

theorem transfer_ok {l l' : TokenLedger} {a b : Address} {n : ℕ} {success : Bool}
    (h : l.transfer a b n = .ok (success, l')) :
    n ≤ l.balances a ∧ l'.balances = moved l.balances a b n := by
  simp only [transfer, bind_eq_ok, require_eq_ok, pure_eq_ok, Except.ok.injEq,
    Prod.mk.injEq] at h
  obtain ⟨_, enough, _, rfl⟩ := h
  exact ⟨enough, rfl⟩

theorem spendAllowance_balances {l l' : TokenLedger} {owner spender : Address} {n : ℕ}
    (h : l.spendAllowance owner spender n = .ok l') : l'.balances = l.balances := by
  unfold spendAllowance at h
  split at h
  · rw [pure_eq_ok, Except.ok.injEq] at h
    rw [h]
  · simp only [bind_eq_ok, require_eq_ok, pure_eq_ok, Except.ok.injEq] at h
    obtain ⟨_, _, rfl⟩ := h
    rfl

theorem transferFrom_ok {l l' : TokenLedger} {spender a b : Address} {n : ℕ} {success : Bool}
    (h : l.transferFrom spender a b n = .ok (success, l')) :
    n ≤ l.balances a ∧ l'.balances = moved l.balances a b n := by
  rw [transferFrom, bind_eq_ok] at h
  obtain ⟨spent, allowed, paid⟩ := h
  have kept := spendAllowance_balances allowed
  have movement := transfer_ok paid
  rwa [kept] at movement

end TokenLedger

def standardToken : Erc20 TokenLedger where
  balanceOf := TokenLedger.balances
  transfer := TokenLedger.transfer
  transferFrom := TokenLedger.transferFrom

theorem standardToken_ordinary : standardToken.Ordinary where
  transfer_moves := TokenLedger.transfer_ok
  transferFrom_moves := TokenLedger.transferFrom_ok

structure Transaction where
  env : Env
  sender : Address
  call : Call

def Transaction.action {Ledger : Type} (t : Transaction) : Action Ledger :=
  .call t.env t.sender t.call

section Execution
variable {Ledger : Type} (D : Deployment Ledger)
  (admits : Audited Ledger → Action Ledger → Prop) [∀ x act, Decidable (admits x act)]

/-- Execute the calls in order, stopping at the first that is not admitted or
reverts. -/
def perform : List Transaction → Audited Ledger → Sol (Audited Ledger)
  | [], x => .ok x
  | t :: rest, x => do
      require (admits x t.action) "not admitted"
      let (s', _) ← exec D t.env t.sender x.state t.call
      perform rest ⟨s', x.audit.record D t.sender x.state s' t.call⟩

/-- The calls all succeed and leave a state with the property. -/
def reachesB (P : Audited Ledger → Prop) [DecidablePred P] (transactions : List Transaction)
    (start : Audited Ledger) : Bool :=
  transactions.all (fun t => t.sender ≠ D.self) &&
    match perform D admits transactions start with
    | .ok x => decide (P x)
    | .error _ => false

variable {D admits}

theorem perform_run {start x y : Audited Ledger} {actions : List (Action Ledger)}
    {transactions : List Transaction} (run : Run (guarded (Step D) admits) start actions x)
    (external : ∀ t ∈ transactions, t.sender ≠ D.self)
    (done : perform D admits transactions x = .ok y) :
    Run (guarded (Step D) admits) start (actions ++ transactions.map Transaction.action) y := by
  induction transactions generalizing actions x with
  | nil =>
      rw [perform, Except.ok.injEq] at done
      rw [List.map_nil, List.append_nil, ← done]
      exact run
  | cons t rest ih =>
      simp only [perform, bind_eq_ok, require_eq_ok, Prod.exists] at done
      obtain ⟨_, admitted, s', events, first, remaining⟩ := done
      have step : guarded (Step D) admits x t.action
          ⟨s', x.audit.record D t.sender x.state s' t.call⟩ :=
        ⟨admitted, .call (external t List.mem_cons_self) first⟩
      have later := ih (run.snoc step) (fun u hu => external u (List.mem_cons_of_mem t hu))
        remaining
      rwa [List.append_assoc, List.singleton_append] at later

variable (D admits) in
theorem reachesB_run (P : Audited Ledger → Prop) [DecidablePred P]
    (transactions : List Transaction) (start : Audited Ledger)
    (reached : reachesB D admits P transactions start = true) :
    ∃ x, Run (guarded (Step D) admits) start (transactions.map Transaction.action) x ∧ P x := by
  rw [reachesB, Bool.and_eq_true, List.all_eq_true] at reached
  obtain ⟨external, outcome⟩ := reached
  split at outcome
  · rename_i x done
    have run := perform_run .nil (fun t ht => of_decide_eq_true (external t ht)) done
    exact ⟨x, run, of_decide_eq_true outcome⟩
  · cases outcome

end Execution

section Sample

/-- Reading an output of a transaction with one P2WPKH output. -/
def sampleSpv : SpvLibrary where
  validateVin _ := true
  validateVout _ := true
  calculateTxId _ _ _ _ := 0
  extractOutputAtIndex vout _ := .ok ((vout.drop 1).take 31)
  extractValue output := (output.take 8).foldr (fun b n => b.toNat + 256 * n) 0
  extractHash output := (output.drop 11).take 20

/-- The hashes are those of sixteen zero bytes and of `sampleBtcAddress`. -/
def sampleDeployment : Deployment TokenLedger where
  self := 4096
  stableToken := standardToken
  spv := sampleSpv
  sha256 _ := 0x374708fff7719dd5979ec875d56cd2286f6d3cf7ec317a3b25632aab28ec37bb
  keccak256 _ := 0xe2c07404b8c1df4c46226425cac68c28d27a766bbddce62309f36724839b22c0

/-- Accounts one to three hold tokens and have approved the contract. -/
def sampleLedger : TokenLedger where
  balances a := if a = 1 ∨ a = 2 ∨ a = 3 then 10 ^ 12 else 0
  allowances _ spender := if spender = 4096 then uint256Limit - 1 else 0

def sampleEnv (timestamp : ℕ) (btcPrice collateralPrice : ℤ) : Env where
  timestamp := timestamp
  btcPrice := btcPrice
  collateralPrice := collateralPrice
  verifyInclusionByTxId _ _ _ _ _ := .ok true

def sampleBtcAddress : Bytes := List.replicate 20 0x11

/-- One input, and one P2WPKH output of 100000 satoshi to `sampleBtcAddress`. -/
def sampleLending : TransactionParams where
  version := 2
  vin := [1] ++ List.replicate 36 0 ++ [0, 0xff, 0xff, 0xff, 0xff]
  vout := [1, 0xa0, 0x86, 1, 0, 0, 0, 0, 0, 0x16, 0, 0x14] ++ sampleBtcAddress
  locktime := 0
  intermediateNodes := []
  blockHeight := 0
  index := 0

/-- Accounts one and three post collateral; account two lends to account one. -/
def sampleLoan : List Transaction :=
  let env := sampleEnv 0 (60000 * 10 ^ 8) (10 ^ 8)
  [⟨env, 1, .requestBorrow 100000 10 sampleBtcAddress []⟩,
    ⟨env, 3, .requestBorrow 200000 10 sampleBtcAddress []⟩,
    ⟨env, 2, .lend 1 sampleLending []⟩]

end Sample

end P2PLending.Contract
