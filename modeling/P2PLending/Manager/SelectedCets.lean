import P2PLending.Dlc.LoanValue
import P2PLending.Manager.Closing
import P2PLending.Manager.MultiEvent

/-! What a party closes a contract of several infos with. A signature that is found
under an index was made for the CET and the point of the slot of that index. The
first info finds its own CET and signature; a later one finds those of the first
info, unless the contract holds the same at both positions. -/

namespace P2PLending.Manager
open Dlc Checked

section Selected
variable {K : AdaptorCrypto} {D : Descriptors}

/-- What is selected for attestations: a CET and the counterparty's adaptor
signature. -/
def selectedCet (contract : SignedContract D) (contractInfo : D.ContractInfo)
    (adaptorInfo : D.AdaptorInfo) (attestations : List (ℕ × D.OracleAttestation)) :
    Result (Transaction × AdaptorSignature × List (List OracleSignature)) := do
  let (rangeInfo, sigs) ← D.getRangeInfoAndOracleSigs contractInfo adaptorInfo attestations
  let cet ← index contract.acceptedContract.dlcTransactions.cets rangeInfo.cetIndex
  let adaptorSigs ← unwrapSome contract.otherAdaptorSignatures
  let adaptorSig ← index adaptorSigs rangeInfo.adaptorIndex
  .ok (cet, adaptorSig, sigs)

theorem getSignedCet_selects {C : Crypto} {contract : SignedContract D}
    {contractInfo : D.ContractInfo} {adaptorInfo : D.AdaptorInfo}
    {attestations : List (ℕ × D.OracleAttestation)} {signer : ContractSigner}
    {signed : Transaction}
    (h : getSignedCet C contract contractInfo adaptorInfo attestations signer = .ok signed) :
    ∃ cet a sigs sk value, selectedCet contract contractInfo adaptorInfo attestations =
        .ok (cet, a, sigs) ∧
      signCet C cet a sigs sk contract.otherFundPubkey
        contract.acceptedContract.dlcTransactions.fundingScriptPubkey value = .ok signed := by
  obtain ⟨rangeInfo, sigs, cet, adaptorSigs, a, sk, output, found, cetAt, others, sigAt, _, _,
    signed⟩ := getSignedCet_ok h
  refine ⟨cet, a, sigs, sk, output.value, ?_, signed⟩
  simp only [selectedCet, found, ok_bind, index, cetAt, unwrapSome, others, sigAt]

/-- The selected CET pays the payout, and the selected signature is the one that the
other party makes for it under the point. -/
def SelectsOwn (K : AdaptorCrypto) (contract : SignedContract D) (contractInfo : D.ContractInfo)
    (adaptorInfo : D.AdaptorInfo) (attestations : List (ℕ × D.OracleAttestation))
    (otherSk : SecretKey) (script : Bytes) (value : ℕ) (payout : Payout) (point : PublicKey) :
    Prop :=
  ∃ cet sig sigs, selectedCet contract contractInfo adaptorInfo attestations = .ok (cet, sig, sigs) ∧
    PaysOut contract.acceptedContract.offeredContract.offerParams
      contract.acceptedContract.acceptParams cet payout ∧
    createCetAdaptorSigFromPoint K cet point otherSk script value = .ok sig

/-- The CET at one index pays the payout, and the slot at another is for this CET and
the point. -/
def SlotFits (K : AdaptorCrypto) (offerParams acceptParams : PartyParams) (script : Bytes)
    (value : ℕ) (cets : List Transaction) (slots : List Slot) (cetIndex signatureIndex : ℕ)
    (payout : Payout) (point : PublicKey) : Prop :=
  ∃ cet tx, cets[cetIndex]? = some cet ∧ PaysOut offerParams acceptParams cet payout ∧
    slots[signatureIndex]? = some (some tx, point) ∧
    getSigHashMsg K.toCrypto tx 0 script value = getSigHashMsg K.toCrypto cet 0 script value

theorem created_same_iff (bound : K.Bound) {tx cet : Transaction} {point point' : PublicKey}
    {sk : SecretKey} {script : Bytes} {value : ℕ} {sig : AdaptorSignature}
    (created : createCetAdaptorSigFromPoint K tx point' sk script value = .ok sig) :
    createCetAdaptorSigFromPoint K cet point sk script value = .ok sig ↔
      point' = point ∧ getSigHashMsg K.toCrypto tx 0 script value =
        getSigHashMsg K.toCrypto cet 0 script value := by
  simp only [createCetAdaptorSigFromPoint, bind_eq_ok, pure_eq_ok, Except.ok.injEq] at created ⊢
  obtain ⟨msg, hashed, rfl⟩ := created
  constructor
  · rintro ⟨msg', hashed', same⟩
    obtain ⟨rfl, _, rfl⟩ := bound.encrypt_inj same
    exact ⟨rfl, hashed.trans hashed'.symm⟩
  · rintro ⟨rfl, same⟩
    exact ⟨msg, same.symm.trans hashed, rfl⟩

theorem selectsOwn_iff (bound : K.Bound) {contract : SignedContract D}
    {contractInfo : D.ContractInfo} {adaptorInfo : D.AdaptorInfo}
    {attestations : List (ℕ × D.OracleAttestation)} {otherSk : SecretKey} {script : Bytes}
    {value : ℕ} {payout : Payout} {point : PublicKey} {rangeInfo : RangeInfo}
    {oracleSigs : List (List OracleSignature)} {slots : List Slot} {sigs : List AdaptorSignature}
    (found : D.getRangeInfoAndOracleSigs contractInfo adaptorInfo attestations =
      .ok (rangeInfo, oracleSigs))
    (others : contract.otherAdaptorSignatures = some sigs)
    (signed : List.Forall₂ (SlotSigned K otherSk script value) slots sigs) :
    SelectsOwn K contract contractInfo adaptorInfo attestations otherSk script value payout point ↔
      SlotFits K contract.acceptedContract.offeredContract.offerParams
        contract.acceptedContract.acceptParams script value
        contract.acceptedContract.dlcTransactions.cets slots rangeInfo.cetIndex
        rangeInfo.adaptorIndex payout point := by
  have selects : ∀ cet sig oracleSigs',
      selectedCet contract contractInfo adaptorInfo attestations = .ok (cet, sig, oracleSigs') ↔
        contract.acceptedContract.dlcTransactions.cets[rangeInfo.cetIndex]? = some cet ∧
        sigs[rangeInfo.adaptorIndex]? = some sig ∧ oracleSigs = oracleSigs' := by
    intro cet sig oracleSigs'
    simp only [selectedCet, found, ok_bind, others, unwrapSome, bind_eq_ok, index_eq_ok,
      Except.ok.injEq, Prod.mk.injEq]
    constructor
    · rintro ⟨_, cetAt, _, sigAt, rfl, rfl, rfl⟩
      exact ⟨cetAt, sigAt, rfl⟩
    · rintro ⟨cetAt, sigAt, rfl⟩
      exact ⟨_, cetAt, _, sigAt, rfl, rfl, rfl⟩
  constructor
  · rintro ⟨cet, sig, oracleSigs', selected, pays, created⟩
    obtain ⟨cetAt, sigAt, rfl⟩ := (selects _ _ _).mp selected
    obtain ⟨slot, slotAt, tx, txIs, made⟩ := forall₂_getElem? signed.flip sigAt
    obtain ⟨pointIs, same⟩ := (created_same_iff bound made).mp created
    refine ⟨cet, tx, cetAt, pays, ?_, same⟩
    rw [slotAt, ← pointIs, ← txIs]
  · rintro ⟨cet, tx, cetAt, pays, slotAt, same⟩
    obtain ⟨sig, sigAt, tx', txIs, made⟩ := forall₂_getElem? signed slotAt
    cases txIs
    exact ⟨cet, sig, oracleSigs, (selects _ _ _).mpr ⟨cetAt, sigAt, rfl⟩, pays,
      (created_same_iff bound made).mpr ⟨rfl, same⟩⟩

end Selected

section Contract
variable {E : SigningDescriptors}
  {places : E.ContractInfo → (total start : ℕ) → Result (E.AdaptorInfo × List Place)}
  {cetIndex place : ℕ} {row : InfoRow} {payout : Payout} {point : PublicKey}

theorem slotsOf_get (cets : List Transaction) {ps : List Place}
    (placeAt : ps[place]? = some (cetIndex, point)) :
    (slotsOf cets ps)[place]? = some (cets[cetIndex]?, point) := by
  rw [slotsOf, List.getElem?_map, placeAt]
  rfl

variable (offered : OfferedContract E.toDescriptors) (acceptParams : PartyParams) (cetInput : TxIn)
  (lockTime : ℕ)

theorem rowCets_pays (paid : row.payouts[cetIndex]? = some payout) :
    ∃ cet, (rowCets offered acceptParams cetInput lockTime row)[cetIndex]? = some cet ∧
      PaysOut offered.offerParams acceptParams cet payout := by
  refine ⟨_, ?_, createCet_pays offered.offerParams acceptParams cetInput lockTime payout⟩
  rw [rowCets, createCets, List.getElem?_map, paid]
  rfl

/-- The first info finds its own CET and slot, in both lists of slots. -/
theorem first_slotFits {K : AdaptorCrypto} {script : Bytes} {value : ℕ} {later : List InfoRow}
    (paid : row.payouts[cetIndex]? = some payout)
    (placeAt : row.places[place]? = some (cetIndex, point)) :
    SlotFits K offered.offerParams acceptParams script value
        (contractCets offered acceptParams cetInput lockTime (row :: later))
        (acceptSlots offered acceptParams cetInput lockTime (row :: later)) cetIndex place payout
        point ∧
      SlotFits K offered.offerParams acceptParams script value
        (contractCets offered acceptParams cetInput lockTime (row :: later))
        (offerSlots offered acceptParams cetInput lockTime (row :: later)) cetIndex place payout
        point := by
  obtain ⟨cet, cetAt, pays⟩ := rowCets_pays offered acceptParams cetInput lockTime paid
  have inAll : (contractCets offered acceptParams cetInput lockTime (row :: later))[cetIndex]? =
      some cet := by
    rw [contractCets, List.getElem?_append_left (List.getElem?_eq_some_iff.mp cetAt).1, cetAt]
  have own := slotsOf_get (rowCets offered acceptParams cetInput lockTime row) placeAt
  have all := slotsOf_get (contractCets offered acceptParams cetInput lockTime (row :: later))
    placeAt
  refine ⟨⟨cet, cet, inAll, pays, ?_, rfl⟩, ⟨cet, cet, inAll, pays, ?_, rfl⟩⟩
  · rw [acceptSlots, List.getElem?_append_left (List.getElem?_eq_some_iff.mp own).1, own, cetAt]
  · rw [offerSlots, List.flatMap_cons,
      List.getElem?_append_left (List.getElem?_eq_some_iff.mp all).1, all, inAll]

/-- Where the signatures of the info at an index begin. -/
def signatureStart (rows : List InfoRow) (j : ℕ) : ℕ :=
  ((rows.map InfoRow.places).take j).flatten.length

theorem contractRows_first {total : ℕ} {info : E.ContractInfo} {infos : List E.ContractInfo}
    {rows : List InfoRow} {adaptorInfo : E.AdaptorInfo} {ps : List Place} {payouts : List Payout}
    (rowsAre : contractRows places total (info :: infos) = .ok rows)
    (laid : places info total 0 = .ok (adaptorInfo, ps))
    (paid : E.getPayouts info total = .ok payouts) : ∃ later, rows = ⟨payouts, ps⟩ :: later := by
  obtain ⟨payouts', adaptorInfo', ps', later, paid', laid', _, rfl⟩ := contractRows_cons.mp rowsAre
  cases laid.symm.trans laid'
  cases paid.symm.trans paid'
  exact ⟨later, rfl⟩

end Contract

/-- A plain contract between the secrets 1 and 2, signed by both. -/
def sampleSignedRun (infos : List sampleSigning.ContractInfo) :
    Result (SignedContract sampleSigning.toDescriptors ×
      SignedContract sampleSigning.toDescriptors) := do
  let (accepted, sigs) ← Internal.acceptContract sampleCrypto (sampleChannelOffer false infos)
    sampleAccept [] 2 sampleFundValue none sampleChannelTransactions
  let (signed, ownSigs) ← Internal.verifyAcceptedAndSignContract sampleCrypto
    (sampleChannelOffer true infos) sampleAccept [] accepted.acceptRefundSignature sigs
    sampleFundValue ⟨.ok sampleKey₁, .ok 1⟩ none none sampleChannelTransactions none
  let (counterSigned, _) ← Internal.verifySignedContract sampleCrypto accepted
    signed.offerRefundSignature ownSigs signed.fundingSignatures sampleFundValue none none none
  .ok (signed, counterSigned)

/-- The oracle attests that the price went up. -/
def sampleAttestations : List (ℕ × Infos.OracleAttestation) := [(0, ⟨[], ["up"]⟩)]

theorem sampleAttestations_up (total start : ℕ) {info : sampleSigning.ContractInfo} {nonce : Bytes32}
    {up down : Payout} (infoIs : info = Infos.sampleEnumInfo nonce up down) {point : PublicKey}
    (computed : Infos.enumAdaptorPoint sampleAdaptorCrypto
      (Infos.ContractInfo.getOracleInfos info) 1 "up" [0] = .ok point) :
    Infos.AttestedOutcome sampleAdaptorCrypto info .enum total start sampleAttestations 0 0 up
      point := by
  subst infoIs
  have attests : Infos.EnumAttests 1 sampleAttestations "up" := by
    refine ⟨Nat.one_pos, by decide, ?_⟩
    intro other different _
    have nobody : Infos.attesting other (Infos.outcomesOf sampleAttestations) = [] := by
      have differs : ["up"] ≠ other := different.symm
      simp [Infos.attesting, Infos.outcomesOf, sampleAttestations, differs]
    rw [nobody]
    decide
  have listed : combinations (Infos.sampleEnumInfo nonce up down).oracleAnnouncements.length
      (Infos.sampleEnumInfo nonce up down).threshold = .ok [[0]] := rfl
  have found : ([⟨"up", up⟩, ⟨"down", down⟩] : Infos.EnumDescriptor).findIdx?
      (·.outcome = "up") = some 0 := by simp [List.findIdx?_cons]
  have attested : Infos.AttestedOutcome sampleAdaptorCrypto (Infos.sampleEnumInfo nonce up down)
      .enum total start sampleAttestations _ 0 up point :=
    .enum rfl attests listed found rfl computed
  exact attested

theorem sampleSignedRun_ok {infos : List sampleSigning.ContractInfo}
    {signed counterSigned : SignedContract sampleSigning.toDescriptors}
    (run : sampleSignedRun infos = .ok (signed, counterSigned)) :
    ∃ accepted sigs ownSigs fund,
      Internal.acceptContract sampleCrypto (sampleChannelOffer false infos) sampleAccept [] 2
        sampleFundValue none sampleChannelTransactions = .ok (accepted, sigs) ∧
      Internal.verifyAcceptedAndSignContract sampleCrypto (sampleChannelOffer true infos)
        sampleAccept [] accepted.acceptRefundSignature sigs sampleFundValue
        ⟨.ok sampleKey₁, .ok 1⟩ none none sampleChannelTransactions none = .ok (signed, ownSigs) ∧
      Internal.verifySignedContract sampleCrypto accepted signed.offerRefundSignature ownSigs
        signed.fundingSignatures sampleFundValue none none none = .ok (counterSigned, fund) := by
  simp only [sampleSignedRun, bind_eq_ok, Prod.exists, Except.ok.injEq, Prod.mk.injEq] at run
  obtain ⟨accepted, sigs, accepts, _, ownSigs, signing, _, fund, verified, rfl, rfl⟩ := run
  exact ⟨accepted, sigs, ownSigs, fund, accepts, signing, verified⟩

/-- The CET that a party selects, if it does not pay the accepting party all. -/
def samplePaysOther (contract : SignedContract sampleSigning.toDescriptors) : Result Unit := do
  let (cet, _, _) ← selectedCet contract sampleSecondInfo .enum sampleAttestations
  ensure (cet.output = [⟨200000000, sampleSpk₁⟩]) (.err (.invalidState "another CET"))

theorem not_selectsOwn_of_paysOther {contract : SignedContract sampleSigning.toDescriptors}
    {otherSk : SecretKey} {script : Bytes} {value : ℕ} {point : PublicKey}
    (accept : contract.acceptedContract.acceptParams = sampleAccept)
    (pays : samplePaysOther contract = .ok ()) :
    ¬ SelectsOwn sampleAdaptorCrypto contract sampleSecondInfo .enum sampleAttestations otherSk
      script value ⟨0, 200000000⟩ point := by
  rintro ⟨cet, sig, sigs, selected, paysOut, _⟩
  simp only [samplePaysOther, selected, ok_bind, ensure_eq_ok] at pays
  rw [PaysOut, pays, accept] at paysOut
  have listed := paysOut.subset (List.mem_singleton_self _)
  have other (spk : Bytes) : discardDust [⟨0, spk⟩, ⟨200000000, sampleAccept.payoutScriptPubkey⟩]
      dustLimit = [⟨200000000, sampleSpk₂⟩] := rfl
  rw [other] at listed
  exact absurd listed (by decide +kernel)

end P2PLending.Manager
