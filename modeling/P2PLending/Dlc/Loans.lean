import P2PLending.Dlc.Funding

/-! The transactions of a loan: the escrow, the collateral transaction that spends
it, and the CETs and the refund that spend the collateral. -/

namespace P2PLending.Dlc

variable (C : Crypto)

/-- The relative timelock of the escrow, `0x64004000`. -/
def escrowLocktime : ℕ := 0x64004000

def createEscrowTransactionInternal (fundingScript : Bytes) (outputAmount : ℕ)
    (borrowerInputs : List TxIn) (borrowerIds : List ℕ) (borrowerChange : TxOut)
    (lockTime : ℕ) : Transaction where
  lockTime := lockTime
  input := orderBySerialIds borrowerInputs borrowerIds
  output := [{ value := outputAmount, scriptPubkey := toP2wsh C fundingScript }, borrowerChange]

/-- The escrow is funded by the accepting party; its output gets 100 satoshi more
than the amounts leave. -/
def createEscrowTransaction (offerParams acceptParams : PartyParams)
    (feeRatePerVb fundLockTime _fundOutputSerialId extraFee : ℕ) (borrowerPreimage : Uint128) :
    Result (Transaction × Bytes) := do
  let (acceptChange, acceptFundFee, acceptCetFee) ←
    acceptParams.getChangeOutputAndFees feeRatePerVb extraFee
  let value ← checkedAdd offerParams.inputAmount acceptParams.inputAmount
  let value ← amountSub value acceptChange.value
  let value ← amountSub value acceptFundFee
  let value ← amountSub value acceptCetFee
  let value ← amountSub value extraFee
  let fundOutputValue ← amountAdd value 100
  let (acceptTxIns, acceptIds) ←
    acceptParams.getUnsignedTxInputsAndSerialIds (getSequence fundLockTime)
  let borrowerHash := C.sha256 borrowerPreimage.toBeBytes
  let fundingScript := Script.toBytes (makeLoanFundingRedeemscript acceptParams.fundPubkey
    offerParams.fundPubkey escrowLocktime borrowerHash)
  pure (createEscrowTransactionInternal C fundingScript fundOutputValue acceptTxIns acceptIds
    acceptChange 0, fundingScript)

def createCollateralTransaction (borrowerPubkey lenderPubkey : PublicKey) (collateralAmount : ℕ)
    (escrowInput : TxIn) (lenderHash : Bytes32) : Result (Transaction × Bytes) := do
  let collateralScript := Script.toBytes
    (makeCollateralRedeemscript borrowerPubkey lenderPubkey lenderHash)
  let value ← amountSub collateralAmount 166
  pure ({ lockTime := 0, input := [escrowInput],
          output := [{ value, scriptPubkey := toP2wsh C collateralScript }] }, collateralScript)

/-- The CETs and the refund spend output 0 of the given transaction; the kept
fund transaction has version 2, lock time 0 and an empty witness at input 0. -/
def createLoanExpirationDlcTransactions (offerParams acceptParams : PartyParams)
    (payouts : List Payout) (refundLockTime cetLockTime : ℕ) (collateralTx : Transaction)
    (collateralScriptPubkey : Bytes) : Result DlcTransactions := do
  let (cets, refund) ← createCetsAndRefundTx offerParams acceptParams
    ⟨collateralTx.computeTxid C, 0⟩ payouts refundLockTime cetLockTime none
  Checked.ensure (0 < collateralTx.input.length) (.panic "index out of bounds")
  pure
    { fund := { collateralTx with version := 2, lockTime := 0 }.setWitness 0 []
      cets, refund, fundingScriptPubkey := collateralScriptPubkey }

theorem computeTxid_setWitness (tx : Transaction) (index : ℕ) (witness : List Bytes) :
    (tx.setWitness index witness).computeTxid C = tx.computeTxid C := by
  rw [Transaction.computeTxid, Transaction.setWitness_unsigned, Transaction.computeTxid]

end P2PLending.Dlc
