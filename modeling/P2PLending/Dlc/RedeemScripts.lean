import P2PLending.Dlc.Transactions

/-! The scripts of the `dlc` crate: the two-of-two funding output, the loan's
escrow and the loan's collateral output, each with the part that signatures
cover after the code separator. -/

namespace P2PLending.Dlc
open Script

/-- `push_int` of a number that is not negative. -/
def pushInt (n : ℕ) : Op :=
  if small : n < 17 then .num ⟨n, small⟩ else .push (encodeNum n)

def makeFundingRedeemscript (a b : PublicKey) : List Op :=
  let (first, second) := if a ≤ b then (a, b) else (b, a)
  [.num 2, .push first.serialize, .push second.serialize, .num 2, .checkMultiSig]

def makeLoanEscrowAfterCodesepScript (lenderPubkey : PublicKey) (borrowerHash : Bytes32) :
    List Op :=
  [.checkSigVerify, .size, pushInt 16, .equalVerify, .sha256, .push borrowerHash.toBytes,
    .equalVerify, .push lenderPubkey.serialize, .checkSig, .endIf]

/-- The escrow: the borrower alone after the timelock, or both with the
borrower's preimage. -/
def makeLoanFundingRedeemscript (borrowerPubkey lenderPubkey : PublicKey)
    (relativeLocktime : ℕ) (borrowerHash : Bytes32) : List Op :=
  [.push borrowerPubkey.serialize, .depth, .num 2, .equal, .opIf, .checkSigVerify,
    pushInt relativeLocktime, .checkSequenceVerify, .opElse, .codeSeparator, .checkSigVerify,
    .size, pushInt 16, .equalVerify, .sha256, .push borrowerHash.toBytes, .equalVerify,
    .push lenderPubkey.serialize, .checkSig, .endIf]

def makeCollateralAfterCodesepScript (lenderHash : Bytes32) : List Op :=
  [.checkSigVerify, .oneSub, .notIf, .checkSig, .opElse, .drop, .size, pushInt 16,
    .equalVerify, .sha256, .push lenderHash.toBytes, .equal, .endIf, .endIf]

/-- The collateral output: both parties together, or the borrower with the
lender's signature or preimage. -/
def makeCollateralRedeemscript (borrowerPubkey lenderPubkey : PublicKey)
    (lenderHash : Bytes32) : List Op :=
  [.push lenderPubkey.serialize, .twoSwap, .push borrowerPubkey.serialize, pushInt 2, .pick,
    .notIf, .checkSigVerify, .drop, .checkSig, .opElse, .codeSeparator, .checkSigVerify,
    .oneSub, .notIf, .checkSig, .opElse, .drop, .size, pushInt 16, .equalVerify, .sha256,
    .push lenderHash.toBytes, .equal, .endIf, .endIf]

end P2PLending.Dlc
