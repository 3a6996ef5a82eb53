import P2PLending.Messages.DlcMessages

/-! The messages of a channel: its offer, acceptance and signatures, and the settle, renew and
close protocols. -/

namespace P2PLending.Messages

section Records
variable (P : Primitives)

structure OfferChannel where
  protocolVersion : UInt32
  contractFlags : UInt8
  chainHash : Bytes32
  temporaryContractId : Bytes32
  temporaryChannelId : Bytes32
  contractInfo : ContractInfo P
  fundingPubkey : P.PublicKey
  revocationBasepoint : P.PublicKey
  publishBasepoint : P.PublicKey
  ownBasepoint : P.PublicKey
  firstPerUpdatePoint : P.PublicKey
  payoutSpk : Bytes
  payoutSerialId : UInt64
  offerCollateral : UInt64
  fundingInputs : List FundingInput
  changeSpk : Bytes
  changeSerialId : UInt64
  fundOutputSerialId : UInt64
  feeRatePerVb : UInt64
  cetLocktime : UInt32
  refundLocktime : UInt32
  cetNsequence : UInt32

structure AcceptChannel where
  temporaryChannelId : Bytes32
  acceptCollateral : UInt64
  fundingPubkey : P.PublicKey
  revocationBasepoint : P.PublicKey
  publishBasepoint : P.PublicKey
  ownBasepoint : P.PublicKey
  firstPerUpdatePoint : P.PublicKey
  payoutSpk : Bytes
  payoutSerialId : UInt64
  fundingInputs : List FundingInput
  changeSpk : Bytes
  changeSerialId : UInt64
  cetAdaptorSignatures : CetAdaptorSignatures P
  bufferAdaptorSignature : P.AdaptorSignature
  refundSignature : P.Signature
  negotiationFields : Option NegotiationFields

structure SignChannel where
  channelId : Bytes32
  cetAdaptorSignatures : CetAdaptorSignatures P
  bufferAdaptorSignature : P.AdaptorSignature
  refundSignature : P.Signature
  fundingSignatures : FundingSignatures

structure SettleOffer where
  channelId : Bytes32
  counterPayout : UInt64
  nextPerUpdatePoint : P.PublicKey

structure SettleAccept where
  channelId : Bytes32
  nextPerUpdatePoint : P.PublicKey
  settleAdaptorSignature : P.AdaptorSignature

structure SettleConfirm where
  channelId : Bytes32
  prevPerUpdateSecret : P.SecretKey
  settleAdaptorSignature : P.AdaptorSignature

structure SettleFinalize where
  channelId : Bytes32
  prevPerUpdateSecret : P.SecretKey

structure RenewOffer where
  channelId : Bytes32
  temporaryContractId : Bytes32
  counterPayout : UInt64
  nextPerUpdatePoint : P.PublicKey
  contractInfo : ContractInfo P
  cetLocktime : UInt32
  refundLocktime : UInt32
  cetNsequence : UInt32

structure RenewAccept where
  channelId : Bytes32
  nextPerUpdatePoint : P.PublicKey
  cetAdaptorSignatures : CetAdaptorSignatures P
  refundSignature : P.Signature

structure RenewConfirm where
  channelId : Bytes32
  bufferAdaptorSignature : P.AdaptorSignature
  cetAdaptorSignatures : CetAdaptorSignatures P
  refundSignature : P.Signature

structure RenewFinalize where
  channelId : Bytes32
  perUpdateSecret : P.SecretKey
  bufferAdaptorSignature : P.AdaptorSignature

structure RenewRevoke where
  channelId : Bytes32
  perUpdateSecret : P.SecretKey

structure CollaborativeCloseOffer where
  channelId : Bytes32
  counterPayout : UInt64
  closeSignature : P.Signature

end Records

structure Reject where
  channelId : Bytes32
  deriving DecidableEq, Repr

variable {P : Primitives}

namespace OfferChannel

def wire : Wire (OfferChannel P) where
  write m := List.flatten [u32.write m.protocolVersion, u8.write m.contractFlags,
    bytes32.write m.chainHash, bytes32.write m.temporaryContractId,
    bytes32.write m.temporaryChannelId, ContractInfo.wire.write m.contractInfo,
    P.publicKey.write m.fundingPubkey, P.publicKey.write m.revocationBasepoint,
    P.publicKey.write m.publishBasepoint, P.publicKey.write m.ownBasepoint,
    P.publicKey.write m.firstPerUpdatePoint, script.write m.payoutSpk, u64.write m.payoutSerialId,
    u64.write m.offerCollateral, (vec FundingInput.wire).write m.fundingInputs,
    script.write m.changeSpk, u64.write m.changeSerialId, u64.write m.fundOutputSerialId,
    u64.write m.feeRatePerVb, u32.write m.cetLocktime, u32.write m.refundLocktime,
    u32.write m.cetNsequence]
  read := do
    let protocolVersion ← u32.read
    let contractFlags ← u8.read
    let chainHash ← bytes32.read
    let temporaryContractId ← bytes32.read
    let temporaryChannelId ← bytes32.read
    let contractInfo ← ContractInfo.wire.read
    let fundingPubkey ← P.publicKey.read
    let revocationBasepoint ← P.publicKey.read
    let publishBasepoint ← P.publicKey.read
    let ownBasepoint ← P.publicKey.read
    let firstPerUpdatePoint ← P.publicKey.read
    let payoutSpk ← script.read
    let payoutSerialId ← u64.read
    let offerCollateral ← u64.read
    let fundingInputs ← (vec FundingInput.wire).read
    let changeSpk ← script.read
    let changeSerialId ← u64.read
    let fundOutputSerialId ← u64.read
    let feeRatePerVb ← u64.read
    let cetLocktime ← u32.read
    let refundLocktime ← u32.read
    let cetNsequence ← u32.read
    return {
      protocolVersion, contractFlags, chainHash, temporaryContractId, temporaryChannelId,
      contractInfo, fundingPubkey, revocationBasepoint, publishBasepoint, ownBasepoint,
      firstPerUpdatePoint, payoutSpk, payoutSerialId, offerCollateral, fundingInputs, changeSpk,
      changeSerialId, fundOutputSerialId, feeRatePerVb, cetLocktime, refundLocktime,
      cetNsequence }

structure Fits (m : OfferChannel P) : Prop where
  contractInfo : m.contractInfo.Fits
  payoutSpk : ScriptFits m.payoutSpk
  fundingInputs : VecFits FundingInput.Fits m.fundingInputs
  changeSpk : ScriptFits m.changeSpk

theorem roundTrips {m : OfferChannel P} (fits : m.Fits) : wire.RoundTrips m := by
  apply Reads.field (u32_roundTrips _)
  apply Reads.field (u8_roundTrips _)
  apply Reads.field (bytes32_roundTrips _)
  apply Reads.field (bytes32_roundTrips _)
  apply Reads.field (bytes32_roundTrips _)
  apply Reads.field (ContractInfo.roundTrips fits.contractInfo)
  apply Reads.field (P.publicKey.roundTrips _)
  apply Reads.field (P.publicKey.roundTrips _)
  apply Reads.field (P.publicKey.roundTrips _)
  apply Reads.field (P.publicKey.roundTrips _)
  apply Reads.field (P.publicKey.roundTrips _)
  apply Reads.field (script_roundTrips fits.payoutSpk)
  apply Reads.field (u64_roundTrips _)
  apply Reads.field (u64_roundTrips _)
  apply Reads.field (fits.fundingInputs.roundTrips FundingInput.roundTrips)
  apply Reads.field (script_roundTrips fits.changeSpk)
  apply Reads.field (u64_roundTrips _)
  apply Reads.field (u64_roundTrips _)
  apply Reads.field (u64_roundTrips _)
  apply Reads.field (u32_roundTrips _)
  apply Reads.field (u32_roundTrips _)
  apply Reads.field (u32_roundTrips _)
  exact .done _

end OfferChannel

namespace AcceptChannel

def wire : Wire (AcceptChannel P) where
  write m := List.flatten [bytes32.write m.temporaryChannelId, u64.write m.acceptCollateral,
    P.publicKey.write m.fundingPubkey, P.publicKey.write m.revocationBasepoint,
    P.publicKey.write m.publishBasepoint, P.publicKey.write m.ownBasepoint,
    P.publicKey.write m.firstPerUpdatePoint, script.write m.payoutSpk, u64.write m.payoutSerialId,
    (vec FundingInput.wire).write m.fundingInputs, script.write m.changeSpk,
    u64.write m.changeSerialId, CetAdaptorSignatures.wire.write m.cetAdaptorSignatures,
    P.adaptorSignature.write m.bufferAdaptorSignature, P.signature.write m.refundSignature,
    (option NegotiationFields.wire).write m.negotiationFields]
  read := do
    let temporaryChannelId ← bytes32.read
    let acceptCollateral ← u64.read
    let fundingPubkey ← P.publicKey.read
    let revocationBasepoint ← P.publicKey.read
    let publishBasepoint ← P.publicKey.read
    let ownBasepoint ← P.publicKey.read
    let firstPerUpdatePoint ← P.publicKey.read
    let payoutSpk ← script.read
    let payoutSerialId ← u64.read
    let fundingInputs ← (vec FundingInput.wire).read
    let changeSpk ← script.read
    let changeSerialId ← u64.read
    let cetAdaptorSignatures ← CetAdaptorSignatures.wire.read
    let bufferAdaptorSignature ← P.adaptorSignature.read
    let refundSignature ← P.signature.read
    let negotiationFields ← (option NegotiationFields.wire).read
    return {
      temporaryChannelId, acceptCollateral, fundingPubkey, revocationBasepoint, publishBasepoint,
      ownBasepoint, firstPerUpdatePoint, payoutSpk, payoutSerialId, fundingInputs, changeSpk,
      changeSerialId, cetAdaptorSignatures, bufferAdaptorSignature, refundSignature,
      negotiationFields }

structure Fits (m : AcceptChannel P) : Prop where
  payoutSpk : ScriptFits m.payoutSpk
  fundingInputs : VecFits FundingInput.Fits m.fundingInputs
  changeSpk : ScriptFits m.changeSpk
  cetAdaptorSignatures : m.cetAdaptorSignatures.Fits
  negotiationFields : ∀ n ∈ m.negotiationFields, n.Fits

theorem roundTrips {m : AcceptChannel P} (fits : m.Fits) : wire.RoundTrips m := by
  apply Reads.field (bytes32_roundTrips _)
  apply Reads.field (u64_roundTrips _)
  apply Reads.field (P.publicKey.roundTrips _)
  apply Reads.field (P.publicKey.roundTrips _)
  apply Reads.field (P.publicKey.roundTrips _)
  apply Reads.field (P.publicKey.roundTrips _)
  apply Reads.field (P.publicKey.roundTrips _)
  apply Reads.field (script_roundTrips fits.payoutSpk)
  apply Reads.field (u64_roundTrips _)
  apply Reads.field (fits.fundingInputs.roundTrips FundingInput.roundTrips)
  apply Reads.field (script_roundTrips fits.changeSpk)
  apply Reads.field (u64_roundTrips _)
  apply Reads.field (CetAdaptorSignatures.roundTrips fits.cetAdaptorSignatures)
  apply Reads.field (P.adaptorSignature.roundTrips _)
  apply Reads.field (P.signature.roundTrips _)
  apply Reads.field (option_roundTrips fun n is =>
    NegotiationFields.roundTrips n (fits.negotiationFields n is))
  exact .done _

end AcceptChannel

namespace SignChannel

def wire : Wire (SignChannel P) where
  write m := List.flatten [bytes32.write m.channelId,
    CetAdaptorSignatures.wire.write m.cetAdaptorSignatures,
    P.adaptorSignature.write m.bufferAdaptorSignature, P.signature.write m.refundSignature,
    FundingSignatures.wire.write m.fundingSignatures]
  read := do
    let channelId ← bytes32.read
    let cetAdaptorSignatures ← CetAdaptorSignatures.wire.read
    let bufferAdaptorSignature ← P.adaptorSignature.read
    let refundSignature ← P.signature.read
    let fundingSignatures ← FundingSignatures.wire.read
    return {
      channelId, cetAdaptorSignatures, bufferAdaptorSignature, refundSignature,
      fundingSignatures }

structure Fits (m : SignChannel P) : Prop where
  cetAdaptorSignatures : m.cetAdaptorSignatures.Fits
  fundingSignatures : m.fundingSignatures.Fits

theorem roundTrips {m : SignChannel P} (fits : m.Fits) : wire.RoundTrips m := by
  apply Reads.field (bytes32_roundTrips _)
  apply Reads.field (CetAdaptorSignatures.roundTrips fits.cetAdaptorSignatures)
  apply Reads.field (P.adaptorSignature.roundTrips _)
  apply Reads.field (P.signature.roundTrips _)
  apply Reads.field (FundingSignatures.roundTrips fits.fundingSignatures)
  exact .done _

end SignChannel

namespace SettleOffer

def wire : Wire (SettleOffer P) where
  write m := List.flatten [bytes32.write m.channelId, u64.write m.counterPayout,
    P.publicKey.write m.nextPerUpdatePoint]
  read := do
    let channelId ← bytes32.read
    let counterPayout ← u64.read
    let nextPerUpdatePoint ← P.publicKey.read
    return { channelId, counterPayout, nextPerUpdatePoint }

theorem roundTrips (m : SettleOffer P) : wire.RoundTrips m := by
  apply Reads.field (bytes32_roundTrips _)
  apply Reads.field (u64_roundTrips _)
  apply Reads.field (P.publicKey.roundTrips _)
  exact .done _

end SettleOffer

namespace SettleAccept

def wire : Wire (SettleAccept P) where
  write m := List.flatten [bytes32.write m.channelId, P.publicKey.write m.nextPerUpdatePoint,
    P.adaptorSignature.write m.settleAdaptorSignature]
  read := do
    let channelId ← bytes32.read
    let nextPerUpdatePoint ← P.publicKey.read
    let settleAdaptorSignature ← P.adaptorSignature.read
    return { channelId, nextPerUpdatePoint, settleAdaptorSignature }

theorem roundTrips (m : SettleAccept P) : wire.RoundTrips m := by
  apply Reads.field (bytes32_roundTrips _)
  apply Reads.field (P.publicKey.roundTrips _)
  apply Reads.field (P.adaptorSignature.roundTrips _)
  exact .done _

end SettleAccept

namespace SettleConfirm

def wire : Wire (SettleConfirm P) where
  write m := List.flatten [bytes32.write m.channelId, P.secretKey.write m.prevPerUpdateSecret,
    P.adaptorSignature.write m.settleAdaptorSignature]
  read := do
    let channelId ← bytes32.read
    let prevPerUpdateSecret ← P.secretKey.read
    let settleAdaptorSignature ← P.adaptorSignature.read
    return { channelId, prevPerUpdateSecret, settleAdaptorSignature }

theorem roundTrips (m : SettleConfirm P) : wire.RoundTrips m := by
  apply Reads.field (bytes32_roundTrips _)
  apply Reads.field (P.secretKey.roundTrips _)
  apply Reads.field (P.adaptorSignature.roundTrips _)
  exact .done _

end SettleConfirm

namespace SettleFinalize

def wire : Wire (SettleFinalize P) where
  write m := List.flatten [bytes32.write m.channelId, P.secretKey.write m.prevPerUpdateSecret]
  read := do
    let channelId ← bytes32.read
    let prevPerUpdateSecret ← P.secretKey.read
    return { channelId, prevPerUpdateSecret }

theorem roundTrips (m : SettleFinalize P) : wire.RoundTrips m := by
  apply Reads.field (bytes32_roundTrips _)
  apply Reads.field (P.secretKey.roundTrips _)
  exact .done _

end SettleFinalize

namespace RenewOffer

def wire : Wire (RenewOffer P) where
  write m := List.flatten [bytes32.write m.channelId, bytes32.write m.temporaryContractId,
    u64.write m.counterPayout, P.publicKey.write m.nextPerUpdatePoint,
    ContractInfo.wire.write m.contractInfo, u32.write m.cetLocktime, u32.write m.refundLocktime,
    u32.write m.cetNsequence]
  read := do
    let channelId ← bytes32.read
    let temporaryContractId ← bytes32.read
    let counterPayout ← u64.read
    let nextPerUpdatePoint ← P.publicKey.read
    let contractInfo ← ContractInfo.wire.read
    let cetLocktime ← u32.read
    let refundLocktime ← u32.read
    let cetNsequence ← u32.read
    return {
      channelId, temporaryContractId, counterPayout, nextPerUpdatePoint, contractInfo,
      cetLocktime, refundLocktime, cetNsequence }

structure Fits (m : RenewOffer P) : Prop where
  contractInfo : m.contractInfo.Fits

theorem roundTrips {m : RenewOffer P} (fits : m.Fits) : wire.RoundTrips m := by
  apply Reads.field (bytes32_roundTrips _)
  apply Reads.field (bytes32_roundTrips _)
  apply Reads.field (u64_roundTrips _)
  apply Reads.field (P.publicKey.roundTrips _)
  apply Reads.field (ContractInfo.roundTrips fits.contractInfo)
  apply Reads.field (u32_roundTrips _)
  apply Reads.field (u32_roundTrips _)
  apply Reads.field (u32_roundTrips _)
  exact .done _

end RenewOffer

namespace RenewAccept

def wire : Wire (RenewAccept P) where
  write m := List.flatten [bytes32.write m.channelId, P.publicKey.write m.nextPerUpdatePoint,
    CetAdaptorSignatures.wire.write m.cetAdaptorSignatures, P.signature.write m.refundSignature]
  read := do
    let channelId ← bytes32.read
    let nextPerUpdatePoint ← P.publicKey.read
    let cetAdaptorSignatures ← CetAdaptorSignatures.wire.read
    let refundSignature ← P.signature.read
    return { channelId, nextPerUpdatePoint, cetAdaptorSignatures, refundSignature }

structure Fits (m : RenewAccept P) : Prop where
  cetAdaptorSignatures : m.cetAdaptorSignatures.Fits

theorem roundTrips {m : RenewAccept P} (fits : m.Fits) : wire.RoundTrips m := by
  apply Reads.field (bytes32_roundTrips _)
  apply Reads.field (P.publicKey.roundTrips _)
  apply Reads.field (CetAdaptorSignatures.roundTrips fits.cetAdaptorSignatures)
  apply Reads.field (P.signature.roundTrips _)
  exact .done _

end RenewAccept

namespace RenewConfirm

def wire : Wire (RenewConfirm P) where
  write m := List.flatten [bytes32.write m.channelId,
    P.adaptorSignature.write m.bufferAdaptorSignature,
    CetAdaptorSignatures.wire.write m.cetAdaptorSignatures, P.signature.write m.refundSignature]
  read := do
    let channelId ← bytes32.read
    let bufferAdaptorSignature ← P.adaptorSignature.read
    let cetAdaptorSignatures ← CetAdaptorSignatures.wire.read
    let refundSignature ← P.signature.read
    return { channelId, bufferAdaptorSignature, cetAdaptorSignatures, refundSignature }

structure Fits (m : RenewConfirm P) : Prop where
  cetAdaptorSignatures : m.cetAdaptorSignatures.Fits

theorem roundTrips {m : RenewConfirm P} (fits : m.Fits) : wire.RoundTrips m := by
  apply Reads.field (bytes32_roundTrips _)
  apply Reads.field (P.adaptorSignature.roundTrips _)
  apply Reads.field (CetAdaptorSignatures.roundTrips fits.cetAdaptorSignatures)
  apply Reads.field (P.signature.roundTrips _)
  exact .done _

end RenewConfirm

namespace RenewFinalize

def wire : Wire (RenewFinalize P) where
  write m := List.flatten [bytes32.write m.channelId, P.secretKey.write m.perUpdateSecret,
    P.adaptorSignature.write m.bufferAdaptorSignature]
  read := do
    let channelId ← bytes32.read
    let perUpdateSecret ← P.secretKey.read
    let bufferAdaptorSignature ← P.adaptorSignature.read
    return { channelId, perUpdateSecret, bufferAdaptorSignature }

theorem roundTrips (m : RenewFinalize P) : wire.RoundTrips m := by
  apply Reads.field (bytes32_roundTrips _)
  apply Reads.field (P.secretKey.roundTrips _)
  apply Reads.field (P.adaptorSignature.roundTrips _)
  exact .done _

end RenewFinalize

namespace RenewRevoke

def wire : Wire (RenewRevoke P) where
  write m := List.flatten [bytes32.write m.channelId, P.secretKey.write m.perUpdateSecret]
  read := do
    let channelId ← bytes32.read
    let perUpdateSecret ← P.secretKey.read
    return { channelId, perUpdateSecret }

theorem roundTrips (m : RenewRevoke P) : wire.RoundTrips m := by
  apply Reads.field (bytes32_roundTrips _)
  apply Reads.field (P.secretKey.roundTrips _)
  exact .done _

end RenewRevoke

namespace CollaborativeCloseOffer

def wire : Wire (CollaborativeCloseOffer P) where
  write m := List.flatten [bytes32.write m.channelId, u64.write m.counterPayout,
    P.signature.write m.closeSignature]
  read := do
    let channelId ← bytes32.read
    let counterPayout ← u64.read
    let closeSignature ← P.signature.read
    return { channelId, counterPayout, closeSignature }

theorem roundTrips (m : CollaborativeCloseOffer P) : wire.RoundTrips m := by
  apply Reads.field (bytes32_roundTrips _)
  apply Reads.field (u64_roundTrips _)
  apply Reads.field (P.signature.roundTrips _)
  exact .done _

end CollaborativeCloseOffer

namespace Reject

def wire : Wire Reject where
  write m := List.flatten [bytes32.write m.channelId]
  read := do
    let channelId ← bytes32.read
    return { channelId }

theorem roundTrips (m : Reject) : wire.RoundTrips m := by
  apply Reads.field (bytes32_roundTrips _)
  exact .done _

end Reject

end P2PLending.Messages
