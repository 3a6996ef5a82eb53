import P2PLending.Contract.State

/-! The functions of `P2PBTCLending`. A result is the new state and the emitted
events; a reverted call changes nothing, so only a success carries a state. -/

namespace P2PLending.Contract

variable {Ledger : Type} (D : Deployment Ledger) (env : Env) (sender : Address)
  (s : State Ledger)

def getStableCollateralAmount (amount : ℕ) : Sol ℕ := do
  require (0 < env.btcPrice ∧ 0 < env.collateralPrice) "Invalid price data"
  let priced ← mul amount env.btcPrice.toNat
  let scaled ← mul priced collateralRatio
  let unit ← mul env.collateralPrice.toNat 100
  div scaled unit

def getStableLoanAmount (btcCollateralAmount : ℕ) : Sol ℕ := do
  require (0 < env.btcPrice ∧ 0 < env.collateralPrice) "Invalid price data"
  let priced ← mul btcCollateralAmount env.collateralPrice.toNat
  let scaled ← mul priced 100
  let unit ← mul env.btcPrice.toNat collateralRatio
  div scaled unit

def getCurrentCollateralValue (collateralAmount : ℕ) : Sol ℕ := do
  require (0 < env.collateralPrice) "Invalid collateral price"
  let priced ← mul collateralAmount env.collateralPrice.toNat
  div priced (10 ^ 8)

def calculateInterest (loan : Loan) : Sol ℕ := do
  let timeElapsed ← sub env.timestamp loan.startDate
  let yearly ← mul loan.principal loan.interestRate
  let accrued ← mul yearly timeElapsed
  div accrued (secondsPerYear * 100)

def getCurrentLoanValue (loan : Loan) : Sol ℕ := do
  require (0 < env.btcPrice) "Invalid BTC price"
  let interest ← calculateInterest env loan
  let debt ← add loan.principal interest
  let priced ← mul debt env.btcPrice.toNat
  div priced (10 ^ 8)

def requestBorrow (amount interestRate : ℕ) (btcAddress signedPsbt : Bytes) :
    Sol (State Ledger × List Event) := do
  require (amount > 0) "Amount must be greater than 0"
  require (btcAddress.length > 0) "Invalid BTC address"
  require ((s.borrowRequests sender).active = false) "Active borrow request exists"
  let collateralAmount ← getStableCollateralAmount env amount
  let (success, token) ←
    D.stableToken.transferFrom s.token D.self sender D.self collateralAmount
  require (success = true) "Collateral transfer failed"
  let request : BorrowRequest :=
    { amount, collateral := collateralAmount, interestRate, btcAddress, signedPsbt, active := true }
  pure ({ s with token, borrowRequests := Function.update s.borrowRequests sender request },
    [.borrowRequestCreated sender amount interestRate btcAddress])

def cancelBorrowRequest : Sol (State Ledger × List Event) := do
  let request := s.borrowRequests sender
  require (request.active = true) "No active borrow request"
  let (success, token) ← D.stableToken.transfer s.token D.self sender request.collateral
  require (success = true) "Collateral return failed"
  pure ({ s with token, borrowRequests := Function.update s.borrowRequests sender default },
    [.borrowRequestCancelled sender])

/-- The Bitcoin payment `lend` accepts for a request: well-formed, included when
the contract is not in test mode, and its first output pays the request. -/
def checkLendingTransaction (request : BorrowRequest) (lendTp : TransactionParams)
    (blockHeader : Bytes) : Sol Unit := do
  require (D.spv.validateVin lendTp.vin = true) "Vin is not properly formatted"
  require (D.spv.validateVout lendTp.vout = true) "Vout is not properly formatted"
  if s.testMode = false then
    let txId := D.spv.calculateTxId lendTp.version lendTp.vin lendTp.vout lendTp.locktime
    let included ← env.verifyInclusionByTxId lendTp.blockHeight txId blockHeader
      lendTp.intermediateNodes lendTp.index
    require (included = true) "Transaction is not in block"
  let output0 ← D.spv.extractOutputAtIndex lendTp.vout 0
  require (D.spv.extractValue output0 = request.amount) "Invalid loan amount"
  require (D.keccak256 (D.spv.extractHash output0) = D.keccak256 request.btcAddress)
    "Invalid BTC address"

def lend (borrower : Address) (lendTp : TransactionParams) (blockHeader : Bytes) :
    Sol (State Ledger × List Event) := do
  let request := s.borrowRequests borrower
  require (request.active = true) "No active borrow request"
  require ((s.loans sender borrower).active = false) "Loan already exists"
  checkLendingTransaction D env s request lendTp blockHeader
  let loan : Loan :=
    { borrowAmount := request.amount, principal := request.amount,
      interestRate := request.interestRate, startDate := env.timestamp,
      borrower, lender := sender, btcAddress := request.btcAddress, active := true }
  pure ({ s with
      loans := assign s.loans sender borrower loan
      borrowRequests := Function.update s.borrowRequests borrower default },
    [.loanCreated borrower sender request.amount request.interestRate])

/-- `loan.active = false` on the stored loan. -/
def closeLoan (token : Ledger) (lender borrower : Address) : State Ledger :=
  { s with
    token
    loans := assign s.loans lender borrower { s.loans lender borrower with active := false } }

/-- The source verifies no Bitcoin payment here; its comment leaves that open. -/
def repay (lender : Address) : Sol (State Ledger × List Event) := do
  let loan := s.loans lender sender
  require (loan.active = true) "No active loan"
  let interest ← calculateInterest env loan
  let totalRepayment ← add loan.principal interest
  let collateralAmount ← getStableCollateralAmount env loan.borrowAmount
  let (success, token) ← D.stableToken.transfer s.token D.self sender collateralAmount
  require (success = true) "Collateral return failed"
  pure (closeLoan s token lender sender, [.loanRepaid sender lender totalRepayment])

/-- The part of `liquidate` before its transfers: the collateral amount it will
split, once the ratio check has passed. -/
def liquidationCheck (loan : Loan) : Sol ℕ := do
  let collateralAmount ← getStableCollateralAmount env loan.borrowAmount
  let currentCollateralValue ← getCurrentCollateralValue env collateralAmount
  let currentLoanValue ← getCurrentLoanValue env loan
  let collateralSide ← mul currentCollateralValue 100
  let loanSide ← mul currentLoanValue liquidationThreshold
  require (collateralSide < loanSide) "Cannot liquidate"
  pure collateralAmount

def liquidate (borrower lender : Address) : Sol (State Ledger × List Event) := do
  let loan := s.loans lender borrower
  require (loan.active = true) "No active loan"
  let collateralAmount ← liquidationCheck env loan
  let bonus ← mul collateralAmount liquidationBonus
  let liquidatorReward ← div bonus 100
  let remainingCollateral ← sub collateralAmount liquidatorReward
  let (rewarded, token) ← D.stableToken.transfer s.token D.self sender liquidatorReward
  require (rewarded = true) "Liquidator reward transfer failed"
  let (returned, token) ← D.stableToken.transfer token D.self lender remainingCollateral
  require (returned = true) "Remaining collateral transfer failed"
  pure (closeLoan s token lender borrower, [.loanLiquidated borrower sender collateralAmount])

def lendStable (borrowerHash : Bytes32) (btcCollateralAmount : ℕ) :
    Sol (State Ledger × List Event) := do
  require (btcCollateralAmount > 0) " BTC Collateral amount must be greater than 0"
  let stableLoan := s.stableLoans borrowerHash
  require (stableLoan.collateralAmount = 0) "Loan already exists for this borrower"
  let stableLoanAmount ← getStableLoanAmount env btcCollateralAmount
  let (success, token) ←
    D.stableToken.transferFrom s.token D.self sender D.self stableLoanAmount
  require (success = true) "Stable token transfer failed"
  let stored : StableLoan :=
    { stableLoan with collateralAmount := btcCollateralAmount, stableLoanAmount }
  pure ({ s with token, stableLoans := Function.update s.stableLoans borrowerHash stored },
    [.stableLoanCreated borrowerHash btcCollateralAmount stableLoanAmount])

/-- `sha256(abi.encodePacked(borrowerPreimage))`. -/
def preimageHash (borrowerPreimage : Uint128) : Bytes32 := D.sha256 borrowerPreimage.toBeBytes

def claimStable (borrowerPreimage : Uint128) : Sol (State Ledger × List Event) := do
  let borrowerHash := preimageHash D borrowerPreimage
  let stableLoan := s.stableLoans borrowerHash
  require (stableLoan.collateralAmount > 0) "No stable loan exists for this borrower"
  let (success, token) ← D.stableToken.transfer s.token D.self sender stableLoan.stableLoanAmount
  require (success = true) "Stable token transfer failed"
  let stored : StableLoan := { stableLoan with borrowerPreimage }
  pure ({ s with token, stableLoans := Function.update s.stableLoans borrowerHash stored },
    [.stableClaimed borrowerHash stableLoan.stableLoanAmount borrowerPreimage sender])

def setTestMode (testMode : Bool) : Sol (State Ledger × List Event) :=
  pure ({ s with testMode }, [])

inductive Call
  | requestBorrow (amount interestRate : ℕ) (btcAddress signedPsbt : Bytes)
  | cancelBorrowRequest
  | lend (borrower : Address) (lendTp : TransactionParams) (blockHeader : Bytes)
  | repay (lender : Address)
  | liquidate (borrower lender : Address)
  | lendStable (borrowerHash : Bytes32) (btcCollateralAmount : ℕ)
  | claimStable (borrowerPreimage : Uint128)
  | setTestMode (testMode : Bool)

def exec : Call → Sol (State Ledger × List Event)
  | .requestBorrow amount interestRate btcAddress signedPsbt =>
      requestBorrow D env sender s amount interestRate btcAddress signedPsbt
  | .cancelBorrowRequest => cancelBorrowRequest D sender s
  | .lend borrower lendTp blockHeader => lend D env sender s borrower lendTp blockHeader
  | .repay lender => repay D env sender s lender
  | .liquidate borrower lender => liquidate D env sender s borrower lender
  | .lendStable borrowerHash btcCollateralAmount =>
      lendStable D env sender s borrowerHash btcCollateralAmount
  | .claimStable borrowerPreimage => claimStable D sender s borrowerPreimage
  | .setTestMode testMode => setTestMode s testMode

end P2PLending.Contract
