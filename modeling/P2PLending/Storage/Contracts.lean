import P2PLending.Storage.Offers

/-! The contracts that follow an offer as they are stored: the accepted contract holds the offer,
the signed contract the accepted one, and so on. -/

namespace P2PLending.Storage

open Messages

/-- What `bitcoin` and `lightning` do with a transaction and with one that may be missing: they
read no transaction that is not within the limits of its own encoding. -/
structure TransactionReaders (P : Primitives) where
  transaction_yields : Yields P.transaction.read P.TransactionFits
  optionTransaction : Wire (Option P.Transaction)
  optionTransaction_exact : optionTransaction.Exact fun o => ∀ tx ∈ o, P.TransactionFits tx

theorem TransactionReaders.transaction_exact {P : Primitives} (L : TransactionReaders P) :
    P.transaction.Exact P.TransactionFits where
  roundTrips := P.transaction_roundTrips
  yields := L.transaction_yields

section Records
variable (P : Primitives)

inductive AdaptorInfo
  | enum
  | numerical (trie : MultiOracleTrie)
  | numericalWithDifference (trie : MultiOracleTrieWithDiff)
  deriving DecidableEq, Repr

structure DlcTransactions where
  fund : P.Transaction
  cets : List P.Transaction
  refund : P.Transaction
  fundingScriptPubkey : Bytes

structure AcceptedContract where
  offeredContract : OfferedContract P
  acceptParams : PartyParams P
  fundingInputs : List FundingInput
  adaptorInfos : List AdaptorInfo
  adaptorSignatures : Option (List P.AdaptorSignature)
  acceptRefundSignature : P.Signature
  dlcTransactions : DlcTransactions P

structure SignedContract where
  acceptedContract : AcceptedContract P
  adaptorSignatures : Option (List P.AdaptorSignature)
  offerRefundSignature : P.Signature
  fundingSignatures : FundingSignatures
  channelId : Option Bytes32

structure OracleAttestation where
  eventId : String
  oraclePublicKey : P.XOnlyPublicKey
  signatures : List P.SchnorrSignature
  outcomes : List String

structure PreClosedContract where
  signedContract : SignedContract P
  attestations : Option (List (OracleAttestation P))
  signedCet : P.Transaction

structure ClosedContract where
  attestations : Option (List (OracleAttestation P))
  signedCet : Option P.Transaction
  contractId : Bytes32
  temporaryContractId : Bytes32
  counterPartyId : P.PublicKey
  pnl : Int64

structure FailedAcceptContract where
  offeredContract : OfferedContract P
  acceptMessage : AcceptDlc P
  errorMessage : String

structure FailedSignContract where
  acceptedContract : AcceptedContract P
  signMessage : SignDlc P
  errorMessage : String

end Records

variable {P : Primitives}

theorem signature_exact : P.signature.Exact fun _ => True := .of_all P.signature.roundTrips

/-- `write_ecdsa_adaptor_signatures`, `read_ecdsa_adaptor_signatures` -/
def ecdsaAdaptorSignatures : Wire (List P.AdaptorSignature) := vec P.adaptorSignature.toCodec

theorem ecdsaAdaptorSignatures_exact : (ecdsaAdaptorSignatures (P := P)).Exact ShortList :=
  vec_exact_plain (.of_all P.adaptorSignature.roundTrips)

/-- `write_signed_amount`, `read_signed_amount` -/
def signedAmount : Wire Int64 := u64.map Int64.toUInt64 UInt64.toInt64

theorem signedAmount_exact : signedAmount.Exact fun _ => True :=
  u64_exact.mapped (fun _ => rfl) fun _ => rfl

namespace AdaptorInfo

def wire : Wire AdaptorInfo where
  write
    | enum => u8.write 2
    | numerical t => u8.write 0 ++ multiOracleTrie.write t
    | numericalWithDifference t => u8.write 1 ++ multiOracleTrieWithDiff.write t
  read := do
    let id ← u8.read
    if id = 0 then numerical <$> multiOracleTrie.read
    else if id = 1 then numericalWithDifference <$> multiOracleTrieWithDiff.read
    else if id = 2 then return enum
    else throw .unknownRequiredFeature

def Fits : AdaptorInfo → Prop
  | enum => True
  | numerical t => t.dump.Fits
  | numericalWithDifference t => t.dump.Fits

theorem exact : wire.Exact Fits where
  roundTrips := by
    intro i fits
    cases i with
    | enum => exact (u8_roundTrips 2).bind_pure (.pure enum)
    | numerical t => exact (u8_roundTrips 0).bind (multiOracleTrie_exact.roundTrips fits).map
    | numericalWithDifference t =>
        exact (u8_roundTrips 1).bind (multiOracleTrieWithDiff_exact.roundTrips fits).map
  yields := Yields.skip fun _ =>
    Yields.ite (fun _ => Yields.map multiOracleTrie_exact.yields) fun _ =>
    Yields.ite (fun _ => Yields.map multiOracleTrieWithDiff_exact.yields) fun _ =>
    Yields.ite (fun _ => .pure trivial) fun _ => .throw _

end AdaptorInfo

namespace OracleAttestation

def wire : Wire (OracleAttestation P) :=
  (string.pair <| P.xOnlyPublicKey.pair <| (vecU16 P.schnorrSignature.toCodec).pair <|
    vecU16 string).map (fun a => (a.eventId, a.oraclePublicKey, a.signatures, a.outcomes))
    fun (eventId, oraclePublicKey, signatures, outcomes) =>
    { eventId, oraclePublicKey, signatures, outcomes }

structure Fits (a : OracleAttestation P) : Prop where
  eventId : StringFits a.eventId
  signatures : a.signatures.length < 2 ^ 16
  outcomes : a.outcomes.length < 2 ^ 16
  outcome : ∀ s ∈ a.outcomes, StringFits s

theorem exact : (wire (P := P)).Exact Fits :=
  ((string_exact.pair <| (Codec.Exact.of_all P.xOnlyPublicKey.roundTrips).pair <|
    (vecU16_exact (.of_all P.schnorrSignature.roundTrips)).pair <| vecU16_exact string_exact).mapped
    (fun _ => rfl) fun _ => rfl).iff fun _ =>
    ⟨fun h => ⟨h.1, h.2.2.1.1, h.2.2.2.1, h.2.2.2.2⟩, fun h =>
      ⟨h.1, trivial, ⟨h.2, fun _ _ => trivial⟩, h.3, h.4⟩⟩

end OracleAttestation

namespace DlcTransactions

def wire : Wire (DlcTransactions P) :=
  (P.transaction.pair <| (vec P.transaction).pair <| P.transaction.pair script).map
    (fun t => (t.fund, t.cets, t.refund, t.fundingScriptPubkey))
    fun (fund, cets, refund, fundingScriptPubkey) => { fund, cets, refund, fundingScriptPubkey }

structure Fits (t : DlcTransactions P) : Prop where
  fund : P.TransactionFits t.fund
  cets : VecFits P.TransactionFits t.cets
  refund : P.TransactionFits t.refund
  fundingScriptPubkey : ScriptFits t.fundingScriptPubkey

theorem exact (L : TransactionReaders P) : wire.Exact (Fits (P := P)) :=
  ((L.transaction_exact.pair <| (vec_exact L.transaction_exact).pair <|
    L.transaction_exact.pair script_exact).mapped (fun _ => rfl) fun _ => rfl).iff fun _ =>
    ⟨fun h => ⟨h.1, h.2.1, h.2.2.1, h.2.2.2⟩, fun h => ⟨h.1, h.2, h.3, h.4⟩⟩

end DlcTransactions

namespace AcceptedContract

def wire : Wire (AcceptedContract P) :=
  (OfferedContract.wire.pair <| PartyParams.wire.pair <| (vec FundingInput.wire).pair <|
    (vec AdaptorInfo.wire).pair <| (option ecdsaAdaptorSignatures).pair <| P.signature.pair
    DlcTransactions.wire).map
    (fun a => (a.offeredContract, a.acceptParams, a.fundingInputs, a.adaptorInfos,
      a.adaptorSignatures, a.acceptRefundSignature, a.dlcTransactions))
    fun (offeredContract, acceptParams, fundingInputs, adaptorInfos, adaptorSignatures,
      acceptRefundSignature, dlcTransactions) =>
    { offeredContract, acceptParams, fundingInputs, adaptorInfos, adaptorSignatures,
      acceptRefundSignature, dlcTransactions }

structure Fits (a : AcceptedContract P) : Prop where
  offeredContract : a.offeredContract.Fits
  acceptParams : a.acceptParams.Fits
  fundingInputs : VecFits FundingInput.Fits a.fundingInputs
  adaptorInfos : VecFits AdaptorInfo.Fits a.adaptorInfos
  adaptorSignatures : ∀ l ∈ a.adaptorSignatures, ShortList l
  dlcTransactions : a.dlcTransactions.Fits

theorem exact (L : TransactionReaders P) : wire.Exact (Fits (P := P)) :=
  ((OfferedContract.exact.pair <| PartyParams.exact.pair <| (vec_exact FundingInput.exact).pair <|
    (vec_exact AdaptorInfo.exact).pair <| (option_exact ecdsaAdaptorSignatures_exact).pair <|
    signature_exact.pair (DlcTransactions.exact L)).mapped (fun _ => rfl) fun _ => rfl).iff fun _ =>
    ⟨fun h => ⟨h.1, h.2.1, h.2.2.1, h.2.2.2.1, h.2.2.2.2.1, h.2.2.2.2.2.2⟩, fun h =>
      ⟨h.1, h.2, h.3, h.4, h.5, trivial, h.6⟩⟩

end AcceptedContract

namespace SignedContract

def wire : Wire (SignedContract P) :=
  (AcceptedContract.wire.pair <| (option ecdsaAdaptorSignatures).pair <| P.signature.pair <|
    FundingSignatures.wire.pair <| option bytes32).map
    (fun s => (s.acceptedContract, s.adaptorSignatures, s.offerRefundSignature,
      s.fundingSignatures, s.channelId))
    fun (acceptedContract, adaptorSignatures, offerRefundSignature, fundingSignatures, channelId) =>
    { acceptedContract, adaptorSignatures, offerRefundSignature, fundingSignatures, channelId }

structure Fits (s : SignedContract P) : Prop where
  acceptedContract : s.acceptedContract.Fits
  adaptorSignatures : ∀ l ∈ s.adaptorSignatures, ShortList l
  fundingSignatures : s.fundingSignatures.Fits

theorem exact (L : TransactionReaders P) : wire.Exact (Fits (P := P)) :=
  (((AcceptedContract.exact L).pair <| (option_exact ecdsaAdaptorSignatures_exact).pair <|
    signature_exact.pair <| FundingSignatures.exact.pair <| option_exact bytes32_exact).mapped
    (fun _ => rfl) fun _ => rfl).iff fun _ =>
    ⟨fun h => ⟨h.1, h.2.1, h.2.2.2.1⟩, fun h => ⟨h.1, h.2, trivial, h.3, fun _ _ => trivial⟩⟩

end SignedContract

/-- The attestations that a contract was closed with, when it is known. -/
def oracleAttestations : Wire (Option (List (OracleAttestation P))) := option (vec OracleAttestation.wire)

def AttestationsFit (o : Option (List (OracleAttestation P))) : Prop :=
  ∀ l ∈ o, VecFits OracleAttestation.Fits l

theorem oracleAttestations_exact : (oracleAttestations (P := P)).Exact AttestationsFit :=
  option_exact (vec_exact OracleAttestation.exact)

namespace PreClosedContract

def wire : Wire (PreClosedContract P) :=
  (SignedContract.wire.pair <| oracleAttestations.pair P.transaction).map
    (fun c => (c.signedContract, c.attestations, c.signedCet))
    fun (signedContract, attestations, signedCet) => { signedContract, attestations, signedCet }

structure Fits (c : PreClosedContract P) : Prop where
  signedContract : c.signedContract.Fits
  attestations : AttestationsFit c.attestations
  signedCet : P.TransactionFits c.signedCet

theorem exact (L : TransactionReaders P) : wire.Exact (Fits (P := P)) :=
  (((SignedContract.exact L).pair <| oracleAttestations_exact.pair L.transaction_exact).mapped
    (fun _ => rfl) fun _ => rfl).iff fun _ =>
    ⟨fun h => ⟨h.1, h.2.1, h.2.2⟩, fun h => ⟨h.1, h.2, h.3⟩⟩

end PreClosedContract

namespace ClosedContract

def wire (L : TransactionReaders P) : Wire (ClosedContract P) :=
  (oracleAttestations.pair <| L.optionTransaction.pair <| bytes32.pair <| bytes32.pair <|
    P.publicKey.pair signedAmount).map
    (fun c => (c.attestations, c.signedCet, c.contractId, c.temporaryContractId, c.counterPartyId,
      c.pnl))
    fun (attestations, signedCet, contractId, temporaryContractId, counterPartyId, pnl) =>
    { attestations, signedCet, contractId, temporaryContractId, counterPartyId, pnl }

structure Fits (c : ClosedContract P) : Prop where
  attestations : AttestationsFit c.attestations
  signedCet : ∀ tx ∈ c.signedCet, P.TransactionFits tx

theorem exact (L : TransactionReaders P) : (wire L).Exact Fits :=
  ((oracleAttestations_exact.pair <| L.optionTransaction_exact.pair <| bytes32_exact.pair <|
    bytes32_exact.pair <| publicKey_exact.pair signedAmount_exact).mapped (fun _ => rfl)
    fun _ => rfl).iff fun _ =>
    ⟨fun h => ⟨h.1, h.2.1⟩, fun h => ⟨h.1, h.2, trivial, trivial, trivial, trivial⟩⟩

end ClosedContract

namespace FailedAcceptContract

def wire : Wire (FailedAcceptContract P) :=
  (OfferedContract.wire.pair <| AcceptDlc.wire.pair string).map
    (fun c => (c.offeredContract, c.acceptMessage, c.errorMessage))
    fun (offeredContract, acceptMessage, errorMessage) =>
    { offeredContract, acceptMessage, errorMessage }

structure Fits (c : FailedAcceptContract P) : Prop where
  offeredContract : c.offeredContract.Fits
  acceptMessage : c.acceptMessage.Fits
  errorMessage : StringFits c.errorMessage

theorem exact : (wire (P := P)).Exact Fits :=
  ((OfferedContract.exact.pair <| AcceptDlc.exact.pair string_exact).mapped (fun _ => rfl)
    fun _ => rfl).iff fun _ => ⟨fun h => ⟨h.1, h.2.1, h.2.2⟩, fun h => ⟨h.1, h.2, h.3⟩⟩

end FailedAcceptContract

namespace FailedSignContract

def wire : Wire (FailedSignContract P) :=
  (AcceptedContract.wire.pair <| SignDlc.wire.pair string).map
    (fun c => (c.acceptedContract, c.signMessage, c.errorMessage))
    fun (acceptedContract, signMessage, errorMessage) =>
    { acceptedContract, signMessage, errorMessage }

structure Fits (c : FailedSignContract P) : Prop where
  acceptedContract : c.acceptedContract.Fits
  signMessage : c.signMessage.Fits
  errorMessage : StringFits c.errorMessage

theorem exact (L : TransactionReaders P) : wire.Exact (Fits (P := P)) :=
  (((AcceptedContract.exact L).pair <| SignDlc.exact.pair string_exact).mapped (fun _ => rfl)
    fun _ => rfl).iff fun _ => ⟨fun h => ⟨h.1, h.2.1, h.2.2⟩, fun h => ⟨h.1, h.2, h.3⟩⟩

end FailedSignContract

end P2PLending.Storage
