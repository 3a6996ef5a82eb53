import P2PLending.Messages.Negotiation

/-! The messages that establish a contract or a loan: offer, acceptance and signatures. -/

namespace P2PLending.Messages

structure FundingInput where
  inputSerialId : UInt64
  prevTx : Bytes
  prevTxVout : UInt32
  sequence : UInt32
  maxWitnessLen : UInt16
  redeemScript : Bytes
  deriving DecidableEq, Repr

structure WitnessElement where
  witness : Bytes
  deriving DecidableEq, Repr

structure FundingSignature where
  witnessElements : List WitnessElement
  deriving DecidableEq, Repr

structure FundingSignatures where
  fundingSignatures : List FundingSignature
  deriving DecidableEq, Repr

section Records
variable (P : Primitives)

structure CetAdaptorSignature where
  signature : P.AdaptorSignature

structure CetAdaptorSignatures where
  ecdsaAdaptorSignatures : List (CetAdaptorSignature P)

structure OfferDlc where
  protocolVersion : UInt32
  contractFlags : UInt8
  chainHash : Bytes32
  temporaryContractId : Bytes32
  contractInfo : ContractInfo P
  fundingPubkey : P.PublicKey
  payoutSpk : Bytes
  payoutSerialId : UInt64
  offerCollateral : UInt64
  fundingInputs : List FundingInput
  changeSpk : Bytes
  changeSerialId : UInt64
  fundOutputSerialId : UInt64
  feeRatePerVb : UInt64
  cetLocktime : UInt32
  refundLocktime : UInt32

structure OfferLoanDlc where
  collateralRatio : UInt64
  liquidationRatio : UInt64
  interestRate : UInt64
  duration : UInt64
  lenderHash : Bytes32
  offerDlc : OfferDlc P

structure AcceptDlc where
  protocolVersion : UInt32
  temporaryContractId : Bytes32
  acceptCollateral : UInt64
  fundingPubkey : P.PublicKey
  payoutSpk : Bytes
  payoutSerialId : UInt64
  fundingInputs : List FundingInput
  changeSpk : Bytes
  changeSerialId : UInt64
  cetAdaptorSignatures : CetAdaptorSignatures P
  refundSignature : P.Signature
  negotiationFields : Option NegotiationFields

structure AcceptLoanDlc where
  protocolVersion : UInt32
  temporaryContractId : Bytes32
  acceptCollateral : UInt64
  fundingPubkey : P.PublicKey
  payoutSpk : Bytes
  payoutSerialId : UInt64
  fundingInputs : List FundingInput
  changeSpk : Bytes
  changeSerialId : UInt64
  cetAdaptorSignatures : CetAdaptorSignatures P
  refundSignature : P.Signature
  negotiationFields : Option NegotiationFields
  escrowTxid : Bytes32
  borrowerHash : Bytes32
  signedEscrowSpendTx : P.Transaction
  escrowAmount : UInt64
  escrowSpk : Bytes
  collateralSpk : Bytes

structure SignDlc where
  protocolVersion : UInt32
  contractId : Bytes32
  cetAdaptorSignatures : CetAdaptorSignatures P
  refundSignature : P.Signature
  fundingSignatures : FundingSignatures

end Records

structure InitiateAcceptLoanDlc where
  protocolVersion : UInt32
  contractId : Bytes32
  borrowerHash : Bytes32
  escrowTxid : Bytes32
  deriving DecidableEq, Repr

namespace FundingInput

def wire : Wire FundingInput where
  write m := List.flatten [u64.write m.inputSerialId, (vec u8).write m.prevTx,
    u32.write m.prevTxVout, u32.write m.sequence, u16.write m.maxWitnessLen,
    script.write m.redeemScript]
  read := do
    let inputSerialId ← u64.read
    let prevTx ← (vec u8).read
    let prevTxVout ← u32.read
    let sequence ← u32.read
    let maxWitnessLen ← u16.read
    let redeemScript ← script.read
    return { inputSerialId, prevTx, prevTxVout, sequence, maxWitnessLen, redeemScript }

structure Fits (m : FundingInput) : Prop where
  prevTx : m.prevTx.length ≤ maxVecSize.toNat
  redeemScript : ScriptFits m.redeemScript

theorem roundTrips {m : FundingInput} (fits : m.Fits) : wire.RoundTrips m := by
  apply Reads.field (u64_roundTrips _)
  apply Reads.field (vec_roundTrips fits.prevTx fun x _ => u8_roundTrips x)
  apply Reads.field (u32_roundTrips _)
  apply Reads.field (u32_roundTrips _)
  apply Reads.field (u16_roundTrips _)
  apply Reads.field (script_roundTrips fits.redeemScript)
  exact .done _

end FundingInput

namespace FundingSignatures

def WitnessElement.wire : Wire WitnessElement where
  write m := List.flatten [(vec u8).write m.witness]
  read := do
    let witness ← (vec u8).read
    return { witness }

def FundingSignature.wire : Wire FundingSignature where
  write m := List.flatten [(vec WitnessElement.wire).write m.witnessElements]
  read := do
    let witnessElements ← (vec WitnessElement.wire).read
    return { witnessElements }

def wire : Wire FundingSignatures where
  write m := List.flatten [(vec FundingSignature.wire).write m.fundingSignatures]
  read := do
    let fundingSignatures ← (vec FundingSignature.wire).read
    return { fundingSignatures }

def WitnessElement.Fits (m : WitnessElement) : Prop := m.witness.length ≤ maxVecSize.toNat

def FundingSignature.Fits (m : FundingSignature) : Prop :=
  VecFits WitnessElement.Fits m.witnessElements

def Fits (m : FundingSignatures) : Prop := VecFits FundingSignature.Fits m.fundingSignatures

theorem WitnessElement.roundTrips {m : WitnessElement} (fits : WitnessElement.Fits m) :
    WitnessElement.wire.RoundTrips m := by
  apply Reads.field (vec_roundTrips fits fun x _ => u8_roundTrips x)
  exact .done _

theorem FundingSignature.roundTrips {m : FundingSignature} (fits : FundingSignature.Fits m) :
    FundingSignature.wire.RoundTrips m := by
  apply Reads.field (VecFits.roundTrips fits WitnessElement.roundTrips)
  exact .done _

theorem roundTrips {m : FundingSignatures} (fits : m.Fits) : wire.RoundTrips m := by
  apply Reads.field (VecFits.roundTrips fits FundingSignature.roundTrips)
  exact .done _

end FundingSignatures

variable {P : Primitives}

namespace CetAdaptorSignatures

def CetAdaptorSignature.wire : Wire (CetAdaptorSignature P) where
  write m := List.flatten [P.adaptorSignature.write m.signature]
  read := do
    let signature ← P.adaptorSignature.read
    return { signature }

def wire : Wire (CetAdaptorSignatures P) where
  write m := List.flatten [(vec CetAdaptorSignature.wire).write m.ecdsaAdaptorSignatures]
  read := do
    let ecdsaAdaptorSignatures ← (vec CetAdaptorSignature.wire).read
    return { ecdsaAdaptorSignatures }

def Fits (m : CetAdaptorSignatures P) : Prop :=
  m.ecdsaAdaptorSignatures.length ≤ maxVecSize.toNat

theorem CetAdaptorSignature.roundTrips (m : CetAdaptorSignature P) :
    CetAdaptorSignature.wire.RoundTrips m := by
  apply Reads.field (P.adaptorSignature.roundTrips _)
  exact .done _

theorem roundTrips {m : CetAdaptorSignatures P} (fits : m.Fits) : wire.RoundTrips m := by
  apply Reads.field (vec_roundTrips fits fun x _ => CetAdaptorSignature.roundTrips x)
  exact .done _

end CetAdaptorSignatures

namespace OfferDlc

def wire : Wire (OfferDlc P) where
  write m := List.flatten [u32.write m.protocolVersion, u8.write m.contractFlags,
    bytes32.write m.chainHash, bytes32.write m.temporaryContractId,
    ContractInfo.wire.write m.contractInfo, P.publicKey.write m.fundingPubkey,
    script.write m.payoutSpk, u64.write m.payoutSerialId, u64.write m.offerCollateral,
    (vec FundingInput.wire).write m.fundingInputs, script.write m.changeSpk,
    u64.write m.changeSerialId, u64.write m.fundOutputSerialId, u64.write m.feeRatePerVb,
    u32.write m.cetLocktime, u32.write m.refundLocktime]
  read := do
    let protocolVersion ← u32.read
    let contractFlags ← u8.read
    let chainHash ← bytes32.read
    let temporaryContractId ← bytes32.read
    let contractInfo ← ContractInfo.wire.read
    let fundingPubkey ← P.publicKey.read
    let payoutSpk ← script.read
    let payoutSerialId ← u64.read
    let offerCollateral ← u64.read
    let fundingInputs ← (vec FundingInput.wire).read
    let changeSpk ← script.read
    let changeSerialId ← u64.read
    let fundOutputSerialId ← u64.read
    let feeRatePerVb ← u64.read
    let cetLocktime ← u32.read
    let refundLocktime ← u32.read
    return {
      protocolVersion, contractFlags, chainHash, temporaryContractId, contractInfo, fundingPubkey,
      payoutSpk, payoutSerialId, offerCollateral, fundingInputs, changeSpk, changeSerialId,
      fundOutputSerialId, feeRatePerVb, cetLocktime, refundLocktime }

structure Fits (m : OfferDlc P) : Prop where
  contractInfo : m.contractInfo.Fits
  payoutSpk : ScriptFits m.payoutSpk
  fundingInputs : VecFits FundingInput.Fits m.fundingInputs
  changeSpk : ScriptFits m.changeSpk

theorem roundTrips {m : OfferDlc P} (fits : m.Fits) : wire.RoundTrips m := by
  apply Reads.field (u32_roundTrips _)
  apply Reads.field (u8_roundTrips _)
  apply Reads.field (bytes32_roundTrips _)
  apply Reads.field (bytes32_roundTrips _)
  apply Reads.field (ContractInfo.roundTrips fits.contractInfo)
  apply Reads.field (P.publicKey.roundTrips _)
  apply Reads.field (script_roundTrips fits.payoutSpk)
  apply Reads.field (u64_roundTrips _)
  apply Reads.field (u64_roundTrips _)
  apply Reads.field (fits.fundingInputs.roundTrips FundingInput.roundTrips)
  apply Reads.field (script_roundTrips fits.changeSpk)
  apply Reads.field (u64_roundTrips _)
  apply Reads.field (u64_roundTrips _)
  apply Reads.field (u64_roundTrips _)
  apply Reads.field (u32_roundTrips _)
  apply Reads.field (u32_roundTrips _)
  exact .done _

end OfferDlc

namespace OfferLoanDlc

def wire : Wire (OfferLoanDlc P) where
  write m := List.flatten [u64.write m.collateralRatio, u64.write m.liquidationRatio,
    u64.write m.interestRate, u64.write m.duration, bytes32.write m.lenderHash,
    OfferDlc.wire.write m.offerDlc]
  read := do
    let collateralRatio ← u64.read
    let liquidationRatio ← u64.read
    let interestRate ← u64.read
    let duration ← u64.read
    let lenderHash ← bytes32.read
    let offerDlc ← OfferDlc.wire.read
    return { collateralRatio, liquidationRatio, interestRate, duration, lenderHash, offerDlc }

structure Fits (m : OfferLoanDlc P) : Prop where
  offerDlc : m.offerDlc.Fits

theorem roundTrips {m : OfferLoanDlc P} (fits : m.Fits) : wire.RoundTrips m := by
  apply Reads.field (u64_roundTrips _)
  apply Reads.field (u64_roundTrips _)
  apply Reads.field (u64_roundTrips _)
  apply Reads.field (u64_roundTrips _)
  apply Reads.field (bytes32_roundTrips _)
  apply Reads.field (OfferDlc.roundTrips fits.offerDlc)
  exact .done _

end OfferLoanDlc

namespace AcceptDlc

def wire : Wire (AcceptDlc P) where
  write m := List.flatten [u32.write m.protocolVersion, bytes32.write m.temporaryContractId,
    u64.write m.acceptCollateral, P.publicKey.write m.fundingPubkey, script.write m.payoutSpk,
    u64.write m.payoutSerialId, (vec FundingInput.wire).write m.fundingInputs,
    script.write m.changeSpk, u64.write m.changeSerialId,
    CetAdaptorSignatures.wire.write m.cetAdaptorSignatures, P.signature.write m.refundSignature,
    (option NegotiationFields.wire).write m.negotiationFields]
  read := do
    let protocolVersion ← u32.read
    let temporaryContractId ← bytes32.read
    let acceptCollateral ← u64.read
    let fundingPubkey ← P.publicKey.read
    let payoutSpk ← script.read
    let payoutSerialId ← u64.read
    let fundingInputs ← (vec FundingInput.wire).read
    let changeSpk ← script.read
    let changeSerialId ← u64.read
    let cetAdaptorSignatures ← CetAdaptorSignatures.wire.read
    let refundSignature ← P.signature.read
    let negotiationFields ← (option NegotiationFields.wire).read
    return {
      protocolVersion, temporaryContractId, acceptCollateral, fundingPubkey, payoutSpk,
      payoutSerialId, fundingInputs, changeSpk, changeSerialId, cetAdaptorSignatures,
      refundSignature, negotiationFields }

structure Fits (m : AcceptDlc P) : Prop where
  payoutSpk : ScriptFits m.payoutSpk
  fundingInputs : VecFits FundingInput.Fits m.fundingInputs
  changeSpk : ScriptFits m.changeSpk
  cetAdaptorSignatures : m.cetAdaptorSignatures.Fits
  negotiationFields : ∀ n ∈ m.negotiationFields, n.Fits

theorem roundTrips {m : AcceptDlc P} (fits : m.Fits) : wire.RoundTrips m := by
  apply Reads.field (u32_roundTrips _)
  apply Reads.field (bytes32_roundTrips _)
  apply Reads.field (u64_roundTrips _)
  apply Reads.field (P.publicKey.roundTrips _)
  apply Reads.field (script_roundTrips fits.payoutSpk)
  apply Reads.field (u64_roundTrips _)
  apply Reads.field (fits.fundingInputs.roundTrips FundingInput.roundTrips)
  apply Reads.field (script_roundTrips fits.changeSpk)
  apply Reads.field (u64_roundTrips _)
  apply Reads.field (CetAdaptorSignatures.roundTrips fits.cetAdaptorSignatures)
  apply Reads.field (P.signature.roundTrips _)
  apply Reads.field (option_roundTrips fun n is =>
    NegotiationFields.roundTrips n (fits.negotiationFields n is))
  exact .done _

end AcceptDlc

namespace AcceptLoanDlc

def wire : Wire (AcceptLoanDlc P) where
  write m := List.flatten [u32.write m.protocolVersion, bytes32.write m.temporaryContractId,
    u64.write m.acceptCollateral, P.publicKey.write m.fundingPubkey, script.write m.payoutSpk,
    u64.write m.payoutSerialId, (vec FundingInput.wire).write m.fundingInputs,
    script.write m.changeSpk, u64.write m.changeSerialId,
    CetAdaptorSignatures.wire.write m.cetAdaptorSignatures, P.signature.write m.refundSignature,
    (option NegotiationFields.wire).write m.negotiationFields, bytes32.write m.escrowTxid,
    bytes32.write m.borrowerHash, P.transaction.write m.signedEscrowSpendTx,
    u64.write m.escrowAmount, script.write m.escrowSpk, script.write m.collateralSpk]
  read := do
    let protocolVersion ← u32.read
    let temporaryContractId ← bytes32.read
    let acceptCollateral ← u64.read
    let fundingPubkey ← P.publicKey.read
    let payoutSpk ← script.read
    let payoutSerialId ← u64.read
    let fundingInputs ← (vec FundingInput.wire).read
    let changeSpk ← script.read
    let changeSerialId ← u64.read
    let cetAdaptorSignatures ← CetAdaptorSignatures.wire.read
    let refundSignature ← P.signature.read
    let negotiationFields ← (option NegotiationFields.wire).read
    let escrowTxid ← bytes32.read
    let borrowerHash ← bytes32.read
    let signedEscrowSpendTx ← P.transaction.read
    let escrowAmount ← u64.read
    let escrowSpk ← script.read
    let collateralSpk ← script.read
    return {
      protocolVersion, temporaryContractId, acceptCollateral, fundingPubkey, payoutSpk,
      payoutSerialId, fundingInputs, changeSpk, changeSerialId, cetAdaptorSignatures,
      refundSignature, negotiationFields, escrowTxid, borrowerHash, signedEscrowSpendTx,
      escrowAmount, escrowSpk, collateralSpk }

structure Fits (m : AcceptLoanDlc P) : Prop where
  payoutSpk : ScriptFits m.payoutSpk
  fundingInputs : VecFits FundingInput.Fits m.fundingInputs
  changeSpk : ScriptFits m.changeSpk
  cetAdaptorSignatures : m.cetAdaptorSignatures.Fits
  negotiationFields : ∀ n ∈ m.negotiationFields, n.Fits
  signedEscrowSpendTx : P.TransactionFits m.signedEscrowSpendTx
  escrowSpk : ScriptFits m.escrowSpk
  collateralSpk : ScriptFits m.collateralSpk

theorem roundTrips {m : AcceptLoanDlc P} (fits : m.Fits) : wire.RoundTrips m := by
  apply Reads.field (u32_roundTrips _)
  apply Reads.field (bytes32_roundTrips _)
  apply Reads.field (u64_roundTrips _)
  apply Reads.field (P.publicKey.roundTrips _)
  apply Reads.field (script_roundTrips fits.payoutSpk)
  apply Reads.field (u64_roundTrips _)
  apply Reads.field (fits.fundingInputs.roundTrips FundingInput.roundTrips)
  apply Reads.field (script_roundTrips fits.changeSpk)
  apply Reads.field (u64_roundTrips _)
  apply Reads.field (CetAdaptorSignatures.roundTrips fits.cetAdaptorSignatures)
  apply Reads.field (P.signature.roundTrips _)
  apply Reads.field (option_roundTrips fun n is =>
    NegotiationFields.roundTrips n (fits.negotiationFields n is))
  apply Reads.field (bytes32_roundTrips _)
  apply Reads.field (bytes32_roundTrips _)
  apply Reads.field (P.transaction_roundTrips fits.signedEscrowSpendTx)
  apply Reads.field (u64_roundTrips _)
  apply Reads.field (script_roundTrips fits.escrowSpk)
  apply Reads.field (script_roundTrips fits.collateralSpk)
  exact .done _

end AcceptLoanDlc

namespace SignDlc

def wire : Wire (SignDlc P) where
  write m := List.flatten [u32.write m.protocolVersion, bytes32.write m.contractId,
    CetAdaptorSignatures.wire.write m.cetAdaptorSignatures, P.signature.write m.refundSignature,
    FundingSignatures.wire.write m.fundingSignatures]
  read := do
    let protocolVersion ← u32.read
    let contractId ← bytes32.read
    let cetAdaptorSignatures ← CetAdaptorSignatures.wire.read
    let refundSignature ← P.signature.read
    let fundingSignatures ← FundingSignatures.wire.read
    return {
      protocolVersion, contractId, cetAdaptorSignatures, refundSignature, fundingSignatures }

structure Fits (m : SignDlc P) : Prop where
  cetAdaptorSignatures : m.cetAdaptorSignatures.Fits
  fundingSignatures : m.fundingSignatures.Fits

theorem roundTrips {m : SignDlc P} (fits : m.Fits) : wire.RoundTrips m := by
  apply Reads.field (u32_roundTrips _)
  apply Reads.field (bytes32_roundTrips _)
  apply Reads.field (CetAdaptorSignatures.roundTrips fits.cetAdaptorSignatures)
  apply Reads.field (P.signature.roundTrips _)
  apply Reads.field (FundingSignatures.roundTrips fits.fundingSignatures)
  exact .done _

end SignDlc

namespace InitiateAcceptLoanDlc

def wire : Wire InitiateAcceptLoanDlc where
  write m := List.flatten [u32.write m.protocolVersion, bytes32.write m.contractId,
    bytes32.write m.borrowerHash, bytes32.write m.escrowTxid]
  read := do
    let protocolVersion ← u32.read
    let contractId ← bytes32.read
    let borrowerHash ← bytes32.read
    let escrowTxid ← bytes32.read
    return { protocolVersion, contractId, borrowerHash, escrowTxid }

theorem roundTrips (m : InitiateAcceptLoanDlc) : wire.RoundTrips m := by
  apply Reads.field (u32_roundTrips _)
  apply Reads.field (bytes32_roundTrips _)
  apply Reads.field (bytes32_roundTrips _)
  apply Reads.field (bytes32_roundTrips _)
  exact .done _

end InitiateAcceptLoanDlc

end P2PLending.Messages
