import P2PLending.Dlc.FundValue
import P2PLending.Manager.ContractSigning

/-! Signatures of honest parties. The acceptance, its verification and the
offering party's signatures walk the contract infos at the same offsets. The
later infos are verified under the contract's own script and key, whatever the
overrides are. -/

namespace P2PLending.Manager
open Dlc Checked

variable {K : AdaptorCrypto}

section Signed
variable (bound : K.Bound) {cets : List Transaction} {sk : SecretKey} {script script' : Bytes}
  {value : ℕ} {pubkey : PublicKey}

/-- One message is signed under both scripts. -/
def SameMessage (K : AdaptorCrypto) (cets : List Transaction) (script script' : Bytes) (value : ℕ)
    (c : ℕ) : Prop :=
  ∀ cet, cets[c]? = some cet →
    getSigHashMsg K.toCrypto cet 0 script' value = getSigHashMsg K.toCrypto cet 0 script value

include bound in
theorem verify_created_iff {cet : Transaction} {point : PublicKey} {sig : AdaptorSignature}
    (created : createCetAdaptorSigFromPoint K cet point sk script value = .ok sig) :
    verifyCetAdaptorSigFromPoint K sig cet point pubkey script' value = .ok () ↔
      pubkey = K.publicKey sk ∧ getSigHashMsg K.toCrypto cet 0 script' value =
        getSigHashMsg K.toCrypto cet 0 script value := by
  simp only [createCetAdaptorSigFromPoint, bind_eq_ok, pure_eq_ok, Except.ok.injEq] at created
  obtain ⟨msg, hashed, rfl⟩ := created
  simp only [verifyCetAdaptorSigFromPoint, bind_eq_ok, ensure_eq_ok, bound.verifies, hashed]
  constructor
  · rintro ⟨msg', hashed', rfl, rfl, _⟩
    exact ⟨rfl, hashed'⟩
  · rintro ⟨rfl, hashed'⟩
    exact ⟨msg, hashed', rfl, rfl, trivial⟩

include bound in
/-- Signatures at some places verify there exactly under the signing key and for
the messages that were signed. -/
theorem signed_verified_iff {places : List Place} {sigs front back : List AdaptorSignature}
    (signed : signPlaces K cets sk script value places = .ok sigs) :
    PlacesVerified K pubkey script' value cets (front ++ sigs ++ back) front.length places ↔
      ∀ place ∈ places,
        pubkey = K.publicKey sk ∧ SameMessage K cets script script' value place.1 := by
  induction places generalizing front sigs with
  | nil => simp [PlacesVerified]
  | cons place places ih =>
      obtain ⟨c, point⟩ := place
      cases mapM_eq_ok.mp signed with
      | @cons _ sig _ rest first later =>
          simp only [bind_eq_ok, index_eq_ok, ofDlc_eq_ok] at first
          obtain ⟨cet, cetAt, created⟩ := first
          have sigAt : (front ++ sig :: rest ++ back)[front.length]? = some sig := by simp
          have moved : front ++ sig :: rest ++ back = (front ++ [sig]) ++ rest ++ back := by simp
          have length : front.length + 1 = (front ++ [sig]).length := by simp
          rw [placesVerified_cons, List.forall_mem_cons, sigAt, moved, length,
            ih (mapM_eq_ok.mpr later)]
          refine and_congr_left fun _ => ?_
          simp only [cetAt, Option.some.injEq, SameMessage, forall_eq']
          rw [← verify_created_iff bound created]
          constructor
          · rintro ⟨_, _, rfl, rfl, verified⟩
            exact verified
          · intro verified
            exact ⟨sig, cet, rfl, rfl, verified⟩

end Signed

variable {E : SigningDescriptors}
  {places : E.ContractInfo → (total start : ℕ) → Result (E.AdaptorInfo × List Place)}

/-- The adaptor infos and the places of the infos, one behind the other. -/
inductive Laid (places : E.ContractInfo → (total start : ℕ) → Result (E.AdaptorInfo × List Place))
    (total : ℕ) : ℕ → List E.ContractInfo → List E.AdaptorInfo → List (List Place) → Prop
  | nil {start : ℕ} : Laid places total start [] [] []
  | cons {start : ℕ} {info : E.ContractInfo} {adaptorInfo : E.AdaptorInfo} {ps : List Place}
      {infos : List E.ContractInfo} {adaptorInfos : List E.AdaptorInfo} {pss : List (List Place)} :
      places info total start = .ok (adaptorInfo, ps) →
      Laid places total (start + ps.length) infos adaptorInfos pss →
      Laid places total start (info :: infos) (adaptorInfo :: adaptorInfos) (ps :: pss)

section Remaining
variable (placed : E.PlacedBy K places) {offered : OfferedContract E.toDescriptors}
  {acceptParams : PartyParams} {sk : SecretKey} {script default : Bytes} {inputValue start : ℕ}
  {cetInput : TxIn} {infos : List E.ContractInfo} {cets : List Transaction}
  {adaptorInfos : List E.AdaptorInfo} {sigs : List AdaptorSignature}

/-- The CETs of an info after the first. -/
def laterCets (offered : OfferedContract E.toDescriptors) (acceptParams : PartyParams)
    (cetInput : TxIn) (payouts : List Payout) : List Transaction :=
  createCets cetInput offered.offerParams.payoutScriptPubkey offered.offerParams.payoutSerialId
    acceptParams.payoutScriptPubkey acceptParams.payoutSerialId payouts 0

include placed in
theorem acceptRemaining_cons {info : E.ContractInfo} :
    acceptRemaining offered acceptParams sk script inputValue cetInput (info :: infos) start =
        .ok (cets, adaptorInfos, sigs) ↔
      ∃ payouts adaptorInfo ps sigs₁ cets₂ adaptorInfos₂ sigs₂,
        E.getPayouts info offered.totalCollateral = .ok payouts ∧
        places info offered.totalCollateral start = .ok (adaptorInfo, ps) ∧
        signPlaces K (laterCets offered acceptParams cetInput payouts) sk script inputValue ps =
          .ok sigs₁ ∧
        acceptRemaining offered acceptParams sk script inputValue cetInput infos
          (start + ps.length) = .ok (cets₂, adaptorInfos₂, sigs₂) ∧
        cets = laterCets offered acceptParams cetInput payouts ++ cets₂ ∧
        adaptorInfos = adaptorInfo :: adaptorInfos₂ ∧ sigs = sigs₁ ++ sigs₂ := by
  simp only [acceptRemaining, bind_eq_ok, Prod.exists, placed.getAdaptorInfo, Except.ok.injEq,
    Prod.mk.injEq, laterCets]
  constructor
  · rintro ⟨payouts, paid, adaptorInfo, sigs₁, ⟨ps, laid, signed⟩, cets₂, adaptorInfos₂, sigs₂,
      rest, rfl, rfl, rfl⟩
    rw [signPlaces_length signed] at rest
    exact ⟨payouts, adaptorInfo, ps, sigs₁, cets₂, adaptorInfos₂, sigs₂, paid, laid, signed, rest,
      rfl, rfl, rfl⟩
  · rintro ⟨payouts, adaptorInfo, ps, sigs₁, cets₂, adaptorInfos₂, sigs₂, paid, laid, signed, rest,
      rfl, rfl, rfl⟩
    rw [← signPlaces_length signed] at rest
    exact ⟨payouts, paid, adaptorInfo, sigs₁, ⟨ps, laid, signed⟩, cets₂, adaptorInfos₂, sigs₂,
      rest, rfl, rfl, rfl⟩

theorem signPlaces_inRange {ps : List Place}
    (signed : signPlaces K cets sk script inputValue ps = .ok sigs) :
    ∀ place ∈ ps, place.1 < cets.length := by
  have related := mapM_eq_ok.mp signed
  clear signed
  induction related with
  | nil => simp
  | cons first _ ih =>
      simp only [bind_eq_ok, index_eq_ok] at first
      obtain ⟨cet, cetAt, _⟩ := first
      exact List.forall_mem_cons.mpr ⟨(List.getElem?_eq_some_iff.mp cetAt).1, ih⟩

include placed in
theorem acceptRemaining_laid
    (accepts : acceptRemaining offered acceptParams sk script inputValue cetInput infos start =
      .ok (cets, adaptorInfos, sigs)) :
    ∃ pss, Laid places offered.totalCollateral start infos adaptorInfos pss ∧
      (∀ ps ∈ pss, ∀ place ∈ ps, place.1 < cets.length) ∧
      ∀ cet ∈ cets, cet.input = [cetInput] := by
  induction infos generalizing start cets adaptorInfos sigs with
  | nil =>
      simp only [acceptRemaining, Except.ok.injEq, Prod.mk.injEq] at accepts
      obtain ⟨rfl, rfl, rfl⟩ := accepts
      exact ⟨[], .nil, by simp, by simp⟩
  | cons info infos ih =>
      obtain ⟨payouts, adaptorInfo, ps, sigs₁, cets₂, adaptorInfos₂, sigs₂, _, laid, signed, rest,
        rfl, rfl, rfl⟩ := (acceptRemaining_cons placed).mp accepts
      obtain ⟨pss, later, inRange, inputs⟩ := ih rest
      refine ⟨ps :: pss, .cons laid later, ?_, ?_⟩
      · refine List.forall_mem_cons.mpr ⟨fun place listed => ?_, fun ps' listed' place listed => ?_⟩
        · have own := signPlaces_inRange signed place listed
          rw [List.length_append]
          omega
        · have later := inRange ps' listed' place listed
          rw [List.length_append]
          omega
      · intro cet listed
        rcases List.mem_append.mp listed with own | later
        · exact createCets_input own
        · exact inputs cet later

/-- At every place of the later infos, the contract's own key and script are as
good as those that signed. -/
def DefaultsFit (K : AdaptorCrypto)
    (places : E.ContractInfo → (total start : ℕ) → Result (E.AdaptorInfo × List Place))
    (offered : OfferedContract E.toDescriptors) (acceptParams : PartyParams) (sk : SecretKey)
    (script default : Bytes) (inputValue : ℕ) (cetInput : TxIn) (infos : List E.ContractInfo) :
    Prop :=
  ∀ info ∈ infos, ∀ adaptorInfo ps payouts,
    places info offered.totalCollateral 0 = .ok (adaptorInfo, ps) →
    E.getPayouts info offered.totalCollateral = .ok payouts →
    ∀ place ∈ ps, acceptParams.fundPubkey = K.publicKey sk ∧
      SameMessage K (laterCets offered acceptParams cetInput payouts) script default inputValue
        place.1

include placed in
theorem verifyRemaining_iff (bound : K.Bound) {front back : List AdaptorSignature}
    (accepts : acceptRemaining offered acceptParams sk script inputValue cetInput infos
      front.length = .ok (cets, adaptorInfos, sigs))
    {out : List Transaction × List E.AdaptorInfo} :
    verifyRemaining offered acceptParams (front ++ sigs ++ back) default inputValue
        offered.totalCollateral cetInput infos front.length = .ok out ↔
      out = (cets, adaptorInfos) ∧ DefaultsFit K places offered acceptParams sk script default
        inputValue cetInput infos := by
  induction infos generalizing front cets adaptorInfos sigs out with
  | nil =>
      simp only [acceptRemaining, Except.ok.injEq, Prod.mk.injEq] at accepts
      obtain ⟨rfl, rfl, rfl⟩ := accepts
      simp [verifyRemaining, DefaultsFit, eq_comm]
  | cons info infos ih =>
      obtain ⟨payouts, adaptorInfo, ps, sigs₁, cets₂, adaptorInfos₂, sigs₂, paid, laid, signed,
        rest, rfl, rfl, rfl⟩ := (acceptRemaining_cons placed).mp accepts
      have length : front.length + ps.length = (front ++ sigs₁).length := by
        rw [List.length_append, signPlaces_length signed]
      have moved : front ++ (sigs₁ ++ sigs₂) ++ back = (front ++ sigs₁) ++ sigs₂ ++ back := by simp
      rw [length] at rest
      have own : PlacesVerified K acceptParams.fundPubkey default inputValue
          (laterCets offered acceptParams cetInput payouts) (front ++ (sigs₁ ++ sigs₂) ++ back)
          front.length ps ↔ ∀ place ∈ ps, acceptParams.fundPubkey = K.publicKey sk ∧
            SameMessage K (laterCets offered acceptParams cetInput payouts) script default
              inputValue place.1 := by
        rw [List.append_assoc, List.append_assoc, ← List.append_assoc]
        exact signed_verified_iff bound signed
      have here : (∀ adaptorInfo ps payouts',
          places info offered.totalCollateral 0 = .ok (adaptorInfo, ps) →
          E.getPayouts info offered.totalCollateral = .ok payouts' →
          ∀ place ∈ ps, acceptParams.fundPubkey = K.publicKey sk ∧
            SameMessage K (laterCets offered acceptParams cetInput payouts') script default
              inputValue place.1) ↔
          ∀ place ∈ ps, acceptParams.fundPubkey = K.publicKey sk ∧
            SameMessage K (laterCets offered acceptParams cetInput payouts) script default
              inputValue place.1 := by
        obtain ⟨adaptorInfo₀, laid₀⟩ := placed.anywhere laid 0
        constructor
        · intro fits
          exact fits adaptorInfo₀ ps payouts laid₀ paid
        · intro fits adaptorInfo' ps' payouts' laid' paid'
          cases laid₀.symm.trans laid'
          cases paid.symm.trans paid'
          exact fits
      simp only [verifyRemaining, bind_eq_ok, Prod.exists, placed.verifyAndGetAdaptorInfo,
        DefaultsFit, List.forall_mem_cons, here, ← own]
      constructor
      · rintro ⟨payouts', paid', adaptorInfo', _, ⟨ps', laid', rfl, verified⟩, cets', infos', rest',
          joined⟩
        cases paid.symm.trans paid'
        cases laid.symm.trans laid'
        rw [length, moved] at rest'
        obtain ⟨same, fits⟩ := (ih rest).mp rest'
        cases same
        exact ⟨(Except.ok.inj joined).symm, verified, fits⟩
      · rintro ⟨rfl, verified, fits⟩
        have rest' := (ih rest).mpr ⟨rfl, fits⟩
        rw [← length, ← moved] at rest'
        exact ⟨payouts, paid, adaptorInfo, _, ⟨ps, laid, rfl, verified⟩, cets₂, adaptorInfos₂,
          rest', rfl⟩

end Remaining

section Own
variable (placed : E.PlacedBy K places) {total start : ℕ} {infos : List E.ContractInfo}
  {adaptorInfos : List E.AdaptorInfo} {pss : List (List Place)} {cets : List Transaction}
  {sk : SecretKey} {script : Bytes} {value : ℕ}

theorem signPlaces_exists (sk : SecretKey) (script : Bytes) (value : ℕ) {ps : List Place}
    (room : ∀ place ∈ ps, ∃ cet, cets[place.1]? = some cet ∧ 0 < cet.input.length) :
    ∃ sigs, signPlaces K cets sk script value ps = .ok sigs := by
  induction ps with
  | nil => exact ⟨[], rfl⟩
  | cons place ps ih =>
      obtain ⟨⟨cet, cetAt, input⟩, later⟩ := List.forall_mem_cons.mp room
      obtain ⟨sigs, signed⟩ := ih later
      have created : ∃ sig, createCetAdaptorSigFromPoint K cet place.2 sk script value =
          .ok sig := by
        rw [createCetAdaptorSigFromPoint, getSigHashMsg, if_pos input]
        exact ⟨_, rfl⟩
      obtain ⟨sig, created⟩ := created
      refine ⟨sig :: sigs, mapM_eq_ok.mpr (.cons ?_ (mapM_eq_ok.mp signed))⟩
      simp only [bind_eq_ok, index_eq_ok, ofDlc_eq_ok]
      exact ⟨cet, cetAt, created⟩

include placed in
theorem ownSignatures_exist (script : Bytes) (value : ℕ) {signer : ContractSigner}
    (laid : Laid places total start infos adaptorInfos pss) (signs : signer.secretKey = .ok sk)
    (room : ∀ ps ∈ pss, ∀ place ∈ ps, ∃ cet, cets[place.1]? = some cet ∧ 0 < cet.input.length) :
    ∃ sigss, (infos.zip adaptorInfos).mapM (fun (info, adaptorInfo) =>
        E.getAdaptorSignatures info adaptorInfo signer script value cets) = .ok sigss ∧
      List.Forall₂ (fun ps sigs => signPlaces K cets sk script value ps = .ok sigs) pss sigss := by
  induction laid with
  | nil => exact ⟨[], rfl, .nil⟩
  | @cons _ _ _ ps _ _ _ laid _ ih =>
      obtain ⟨own, later⟩ := List.forall_mem_cons.mp room
      obtain ⟨sigs, signed⟩ := signPlaces_exists (K := K) sk script value own
      obtain ⟨sigss, made, related⟩ := ih later
      have first := (placed.getAdaptorSignatures laid).mpr ⟨sk, signs, signed⟩
      exact ⟨sigs :: sigss, mapM_eq_ok.mpr (.cons first (mapM_eq_ok.mp made)),
        .cons signed related⟩

include placed in
/-- The acceptor verifies at the offsets at which the offering party signed. -/
theorem verifyAdaptorInfos_ok (bound : K.Bound) {front back : List AdaptorSignature}
    {sigss : List (List AdaptorSignature)}
    (laid : Laid places total start infos adaptorInfos pss) (begins : front.length = start)
    (signed : List.Forall₂ (fun ps sigs => signPlaces K cets sk script value ps = .ok sigs)
      pss sigss) :
    ∃ next, Internal.verifyAdaptorInfos (K.publicKey sk) script value cets
      (front ++ sigss.flatten ++ back) (adaptorInfos.zip infos) start = .ok next := by
  induction laid generalizing front sigss with
  | nil => exact ⟨_, rfl⟩
  | @cons start _ adaptorInfo ps _ _ _ laid _ ih =>
      cases signed with
      | @cons _ sigs _ rest own later =>
          have moved : front ++ (sigs :: rest).flatten ++ back =
              (front ++ sigs) ++ rest.flatten ++ back := by simp
          have split : front ++ (sigs :: rest).flatten ++ back =
              front ++ sigs ++ (rest.flatten ++ back) := by simp
          have length : (front ++ sigs).length = start + ps.length := by
            rw [List.length_append, signPlaces_length own, begins]
          have verified : PlacesVerified K (K.publicKey sk) script value cets
              (front ++ (sigs :: rest).flatten ++ back) start ps := by
            rw [split, ← begins]
            exact (signed_verified_iff bound own).mpr fun _ _ => ⟨rfl, fun _ _ => rfl⟩
          have first := (placed.verifyAdaptorInfo laid).mpr ⟨rfl, verified⟩
          obtain ⟨next, checked⟩ := ih length later
          rw [← moved] at checked
          refine ⟨next, ?_⟩
          rw [Internal.verifyAdaptorInfos, List.zip_cons_cons, List.foldlM_cons]
          exact bind_eq_ok.mpr ⟨_, first, checked⟩

end Own

/-- The terms of a contract that both parties hold, each in its own record. -/
structure SameTerms (offered offered' : OfferedContract E.toDescriptors) : Prop where
  contractInfo : offered'.contractInfo = offered.contractInfo
  offerParams : offered'.offerParams = offered.offerParams
  totalCollateral : offered'.totalCollateral = offered.totalCollateral

theorem verifyAcceptedContract_terms {C : Crypto}
    {offered offered' : OfferedContract E.toDescriptors} (same : SameTerms offered offered')
    (acceptParams : PartyParams) (refundSignature : Signature) (sigs : List AdaptorSignature)
    (inputValue : ℕ) (inputScriptPubkey : Option Bytes) (counterAdaptorPk : Option PublicKey)
    (txs : DlcTransactions) :
    Internal.verifyAcceptedContract C offered' acceptParams refundSignature sigs inputValue
        inputScriptPubkey counterAdaptorPk txs =
      Internal.verifyAcceptedContract C offered acceptParams refundSignature sigs inputValue
        inputScriptPubkey counterAdaptorPk txs := by
  have remaining : ∀ script total cetInput infos start,
      verifyRemaining offered' acceptParams sigs script inputValue total cetInput infos start =
        verifyRemaining offered acceptParams sigs script inputValue total cetInput infos start := by
    intro script total cetInput infos
    induction infos with
    | nil => exact fun _ => rfl
    | cons info infos ih =>
        intro start
        simp only [verifyRemaining, same.offerParams, same.totalCollateral, ih]
  simp only [Internal.verifyAcceptedContract, same.contractInfo, same.offerParams,
    same.totalCollateral, remaining]

section Honest
variable (bound : K.Bound) (lawful : K.toCrypto.Lawful) (placed : E.PlacedBy K places)
  {offered offered' : OfferedContract E.toDescriptors} {acceptParams : PartyParams}
  {fundingInputs : List FundingInput} {sk offerSk : SecretKey} {inputValue : ℕ}
  {inputScriptPubkey : Option Bytes} {txs : DlcTransactions}
  {accepted : AcceptedContract E.toDescriptors} {sigs : List AdaptorSignature}

include placed in
theorem acceptContract_ok
    (accepts : Internal.acceptContract K.toCrypto offered acceptParams fundingInputs sk inputValue
      inputScriptPubkey txs = .ok (accepted, sigs)) :
    ∃ cet cetInput inputs info infos adaptorInfo ps sigs₁ cets₂ adaptorInfos₂ sigs₂,
      txs.cets[0]? = some cet ∧ cet.input = cetInput :: inputs ∧
      offered.contractInfo = info :: infos ∧
      places info offered.totalCollateral 0 = .ok (adaptorInfo, ps) ∧
      signPlaces K txs.cets sk (inputScriptPubkey.getD txs.fundingScriptPubkey) inputValue ps =
        .ok sigs₁ ∧
      acceptRemaining offered acceptParams sk (inputScriptPubkey.getD txs.fundingScriptPubkey)
        inputValue cetInput infos sigs₁.length = .ok (cets₂, adaptorInfos₂, sigs₂) ∧
      getRawSigForTxInput K.toCrypto txs.refund 0
        (inputScriptPubkey.getD txs.fundingScriptPubkey) inputValue sk =
          .ok accepted.acceptRefundSignature ∧
      accepted.offeredContract = offered ∧ accepted.adaptorInfos = adaptorInfo :: adaptorInfos₂ ∧
      accepted.dlcTransactions = { txs with cets := txs.cets ++ cets₂ } ∧ sigs = sigs₁ ++ sigs₂ := by
  simp only [Internal.acceptContract, bind_eq_ok, index_eq_ok, Prod.exists, placed.getAdaptorInfo,
    ofDlc_eq_ok, Except.ok.injEq, Prod.mk.injEq] at accepts
  obtain ⟨cet, cetAt, cetInput, inputAt, info, infoAt, adaptorInfo, sigs₁, ⟨ps, laid, signed⟩,
    cets₂, adaptorInfos₂, sigs₂, rest, refundSignature, refunded, rfl, rfl⟩ := accepts
  obtain ⟨inputs, split⟩ : ∃ inputs, cet.input = cetInput :: inputs := by
    cases listed : cet.input with
    | nil => simp [listed] at inputAt
    | cons i inputs => exact ⟨inputs, by simpa [listed] using inputAt⟩
  obtain ⟨infos, split'⟩ : ∃ infos, offered.contractInfo = info :: infos := by
    cases listed : offered.contractInfo with
    | nil => simp [listed] at infoAt
    | cons i infos => exact ⟨infos, by simpa [listed] using infoAt⟩
  rw [split', List.tail_cons] at rest
  exact ⟨cet, cetInput, inputs, info, infos, adaptorInfo, ps, sigs₁, cets₂, adaptorInfos₂, sigs₂,
    cetAt, split, split', laid, signed, rest, refunded, rfl, rfl, rfl, rfl⟩

theorem refund_verifies {C : Crypto} (lawful : C.Lawful) {tx : Transaction} {script : Bytes}
    {value : ℕ} {sk : SecretKey} {sig : Signature}
    (signed : getRawSigForTxInput C tx 0 script value sk = .ok sig) :
    verifyTxInputSig C sig tx 0 script value (C.publicKey sk) = .ok () := by
  simp only [getRawSigForTxInput, bind_eq_ok, pure_eq_ok, Except.ok.injEq] at signed
  obtain ⟨msg, hashed, rfl⟩ := signed
  simp only [verifyTxInputSig, hashed, ok_bind, ensure_eq_ok]
  exact lawful.sign_verifies msg sk

include bound lawful placed in
/-- The offering party accepts the signatures of the honest acceptor exactly when
the contract's own key and script would do for every info after the first. -/
theorem verifyAcceptedContract_iff {cet : Transaction} {cetInput : TxIn}
    {counterAdaptorPk : Option PublicKey} {out : List Transaction × List E.AdaptorInfo}
    (accepts : Internal.acceptContract K.toCrypto offered acceptParams fundingInputs sk inputValue
      inputScriptPubkey txs = .ok (accepted, sigs))
    (cetAt : txs.cets[0]? = some cet) (inputAt : cet.input[0]? = some cetInput)
    (total : amountAdd offered.offerParams.collateral acceptParams.collateral =
      .ok offered.totalCollateral)
    (acceptKey : counterAdaptorPk.getD acceptParams.fundPubkey = K.publicKey sk) :
    Internal.verifyAcceptedContract K.toCrypto offered acceptParams
        accepted.acceptRefundSignature sigs inputValue inputScriptPubkey counterAdaptorPk txs =
        .ok out ↔
      out = (accepted.dlcTransactions.cets, accepted.adaptorInfos) ∧
        DefaultsFit K places offered acceptParams sk
          (inputScriptPubkey.getD txs.fundingScriptPubkey) txs.fundingScriptPubkey inputValue
          cetInput offered.contractInfo.tail := by
  obtain ⟨cet', cetInput', inputs', info, infos, adaptorInfo, ps, sigs₁, cets₂, adaptorInfos₂,
    sigs₂, cetAt', inputAt', split, laid, signed, rest, refunded, offeredIs, infosAre, txsAre,
    rfl⟩ := acceptContract_ok placed accepts
  cases cetAt.symm.trans cetAt'
  rw [inputAt'] at inputAt
  cases inputAt
  have length := signPlaces_length signed
  have verified : PlacesVerified K (K.publicKey sk)
      (inputScriptPubkey.getD txs.fundingScriptPubkey) inputValue txs.cets
      ([] ++ sigs₁ ++ sigs₂) ([] : List AdaptorSignature).length ps :=
    (signed_verified_iff bound signed).mpr fun _ _ => ⟨rfl, fun _ _ => rfl⟩
  have first : E.verifyAndGetAdaptorInfo info offered.totalCollateral (K.publicKey sk)
      (inputScriptPubkey.getD txs.fundingScriptPubkey) inputValue txs.cets (sigs₁ ++ sigs₂) 0 =
        .ok (adaptorInfo, sigs₁.length) :=
    placed.verifyAndGetAdaptorInfo.mpr ⟨ps, laid, by omega, verified⟩
  have remaining : ∀ out, verifyRemaining offered acceptParams (sigs₁ ++ sigs₂ ++ [])
      txs.fundingScriptPubkey inputValue offered.totalCollateral cetInput infos sigs₁.length =
        .ok out ↔ _ := fun out => verifyRemaining_iff placed bound rest
  simp only [List.append_nil] at remaining
  have reduced : Internal.verifyAcceptedContract K.toCrypto offered acceptParams
      accepted.acceptRefundSignature (sigs₁ ++ sigs₂) inputValue inputScriptPubkey
      counterAdaptorPk txs = (do
        let (cets, adaptorInfos) ← verifyRemaining offered acceptParams (sigs₁ ++ sigs₂)
          txs.fundingScriptPubkey inputValue offered.totalCollateral cetInput infos sigs₁.length
        .ok (txs.cets ++ cets, adaptorInfo :: adaptorInfos)) := by
    simp only [Internal.verifyAcceptedContract, acceptKey, refund_verifies lawful refunded, ofDlc,
      ok_bind, index, split, List.getElem?_cons_zero, first, cetAt, inputAt', total,
      List.tail_cons]
  rw [reduced, bind_eq_ok, split, List.tail_cons, infosAre, txsAre]
  constructor
  · rintro ⟨later, verified', joined⟩
    obtain ⟨rfl, fits⟩ := (remaining later).mp verified'
    exact ⟨(Except.ok.inj joined).symm, fits⟩
  · rintro ⟨rfl, fits⟩
    exact ⟨_, (remaining _).mpr ⟨rfl, fits⟩, rfl⟩

include bound lawful placed in
/-- Between honest parties with matching overrides, the exchange of signatures goes
through exactly when the contract's own key and script would do for every info
after the first. -/
theorem exchange_iff {cet : Transaction} {cetInput : TxIn} {signer : ContractSigner}
    {counterAdaptorPk offerAdaptorPk : Option PublicKey} {channelId : Option Bytes32}
    (same : SameTerms offered offered')
    (accepts : Internal.acceptContract K.toCrypto offered acceptParams fundingInputs sk inputValue
      inputScriptPubkey txs = .ok (accepted, sigs))
    (cetAt : txs.cets[0]? = some cet) (inputAt : cet.input[0]? = some cetInput)
    (inputs : ∀ cet ∈ txs.cets, 0 < cet.input.length)
    (total : amountAdd offered.offerParams.collateral acceptParams.collateral =
      .ok offered.totalCollateral)
    (acceptKey : counterAdaptorPk.getD acceptParams.fundPubkey = K.publicKey sk)
    (signs : signer.secretKey = .ok offerSk)
    (offerKey : offerAdaptorPk.getD offered.offerParams.fundPubkey = K.publicKey offerSk) :
    (∃ signed ownSigs, Internal.verifyAcceptedAndSignContract K.toCrypto offered' acceptParams
        fundingInputs accepted.acceptRefundSignature sigs inputValue signer inputScriptPubkey
        counterAdaptorPk txs channelId = .ok (signed, ownSigs) ∧
      ∃ out, Internal.verifySignedContract K.toCrypto accepted signed.offerRefundSignature ownSigs
        signed.fundingSignatures inputValue inputScriptPubkey offerAdaptorPk channelId = .ok out) ↔
    DefaultsFit K places offered acceptParams sk
      (inputScriptPubkey.getD txs.fundingScriptPubkey) txs.fundingScriptPubkey inputValue cetInput
      offered.contractInfo.tail := by
  have verifies := fun out => @verifyAcceptedContract_iff _ _ _ bound lawful placed _ _ _ _ _ _ _ _
    _ _ _ _ out accepts cetAt inputAt total acceptKey
  constructor
  · rintro ⟨signed, ownSigs, signing, _⟩
    obtain ⟨out, verified, _⟩ := bind_eq_ok.mp signing
    rw [verifyAcceptedContract_terms same] at verified
    exact ((verifies out).mp verified).2
  · intro fits
    have verified := (verifies _).mpr ⟨rfl, fits⟩
    obtain ⟨cet', cetInput', inputs', info, infos, adaptorInfo, ps, sigs₁, cets₂, adaptorInfos₂,
      sigs₂, _, inputAt', split, laid, signed, rest, refunded, offeredIs, infosAre, txsAre, rfl⟩ :=
      acceptContract_ok placed accepts
    rw [signPlaces_length signed] at rest
    obtain ⟨pss, later, inRange, laterInputs⟩ := acceptRemaining_laid placed rest
    have laidAll : Laid places offered.totalCollateral 0 offered.contractInfo
        accepted.adaptorInfos (ps :: pss) := by
      rw [split, infosAre]
      exact .cons laid (by rwa [Nat.zero_add])
    have cetsAre : accepted.dlcTransactions.cets = txs.cets ++ cets₂ := by rw [txsAre]
    have cetInputs : ∀ cet ∈ accepted.dlcTransactions.cets, 0 < cet.input.length := by
      rw [cetsAre]
      intro cet listed
      rcases List.mem_append.mp listed with own | later
      · exact inputs cet own
      · rw [laterInputs cet later]
        exact Nat.one_pos
    have room : ∀ ps' ∈ ps :: pss, ∀ place ∈ ps', ∃ cet,
        accepted.dlcTransactions.cets[place.1]? = some cet ∧ 0 < cet.input.length := by
      intro ps' listed place listed'
      have bounded : place.1 < accepted.dlcTransactions.cets.length := by
        rw [cetsAre, List.length_append]
        rcases List.mem_cons.mp listed with rfl | listed
        · have own := signPlaces_inRange signed place listed'
          omega
        · have other := inRange ps' listed place listed'
          omega
      exact ⟨_, List.getElem?_eq_getElem bounded, cetInputs _ (List.getElem_mem bounded)⟩
    obtain ⟨sigss, made, related⟩ := ownSignatures_exist placed
      (inputScriptPubkey.getD txs.fundingScriptPubkey) inputValue laidAll signs room
    have refundInput : 0 < txs.refund.input.length := by
      by_contra empty
      rw [getRawSigForTxInput, getSigHashMsg, if_neg empty] at refunded
      cases refunded
    obtain ⟨offerRefund, offerRefunded⟩ : ∃ sig, getRawSigForTxInput K.toCrypto txs.refund 0
        (inputScriptPubkey.getD txs.fundingScriptPubkey) inputValue offerSk = .ok sig := by
      rw [getRawSigForTxInput, getSigHashMsg, if_pos refundInput]
      exact ⟨_, rfl⟩
    have signing : ∃ signed, Internal.verifyAcceptedAndSignContract K.toCrypto offered' acceptParams
        fundingInputs accepted.acceptRefundSignature (sigs₁ ++ sigs₂) inputValue signer
        inputScriptPubkey counterAdaptorPk txs channelId = .ok (signed, sigss.flatten) ∧
        signed.offerRefundSignature = offerRefund := by
      rw [Internal.verifyAcceptedAndSignContract]
      simp only [verifyAcceptedContract_terms same, verified, same.contractInfo, ok_bind, made,
        signs, offerRefunded, ofDlc]
      exact ⟨_, rfl, rfl⟩
    obtain ⟨signed', signing, offerRefundIs⟩ := signing
    refine ⟨signed', _, signing, ?_⟩
    have front : ([] : List AdaptorSignature).length = 0 := rfl
    obtain ⟨next, checked⟩ := @verifyAdaptorInfos_ok _ _ _ placed _ _ _ _ _ _ _ _ _ bound [] []
      sigss laidAll front related
    rw [List.nil_append, List.append_nil] at checked
    rw [Internal.verifySignedContract]
    rw [cetsAre] at checked
    simp only [offerRefundIs, txsAre, offeredIs, offerKey, refund_verifies lawful offerRefunded,
      ofDlc, ok_bind, checked]
    exact ⟨_, rfl⟩

end Honest

section Fit
variable {offered : OfferedContract E.toDescriptors} {acceptParams : PartyParams} {sk : SecretKey}
  {script : Bytes} {inputValue : ℕ} {cetInput : TxIn}

/-- Without overrides every info fits. -/
theorem defaultsFit_plain (infos : List E.ContractInfo)
    (acceptKey : acceptParams.fundPubkey = K.publicKey sk) :
    DefaultsFit K places offered acceptParams sk script script inputValue cetInput infos :=
  fun _ _ _ _ _ _ _ _ _ => ⟨acceptKey, fun _ _ => rfl⟩

theorem defaultsFit_nil {default : Bytes} :
    DefaultsFit K places offered acceptParams sk script default inputValue cetInput [] := by
  intro info listed
  cases listed

end Fit

abbrev sampleSigning : SigningDescriptors :=
  Infos.signingDescriptors sampleAdaptorCrypto Infos.sampleNumerics id

/-- A renewal between the keys of the secrets 1 and 2 over the given infos, in the
store of the offering or of the accepting party. -/
def sampleChannelOffer (isOfferParty : Bool) (infos : List sampleSigning.ContractInfo) :
    OfferedContract sampleSigning.toDescriptors where
  id := 7
  isOfferParty
  contractInfo := infos
  counterParty := if isOfferParty then sampleKey₂ else sampleKey₁
  offerParams := sampleOffer
  totalCollateral := 200000000
  fundingInputs := []
  fundOutputSerialId := 0
  feeRatePerVb := 1
  cetLocktime := 10
  refundLocktime := 100
  keysId := 3

def sampleChannelTransactions : DlcTransactions where
  fund := { lockTime := 0, input := [], output := [⟨sampleFundValue, sampleSpk₁⟩] }
  cets := createCets ⟨⟨sampleFundTxid, 0⟩, [], 288, []⟩ sampleSpk₁ 1 sampleSpk₂ 2
    [⟨200000000, 0⟩, ⟨0, 200000000⟩] 10
  refund := sampleRefund
  fundingScriptPubkey := sampleScript

/-- The script of the buffer output and the acceptor's adaptor secret in the sample:
neither is that of the funding output. -/
def sampleBufferScript : Bytes := [0x51]

def sampleAcceptRun (infos : List sampleSigning.ContractInfo) :
    Result (AcceptedContract sampleSigning.toDescriptors × List AdaptorSignature) :=
  Internal.acceptContract sampleCrypto (sampleChannelOffer false infos) sampleAccept [] 9
    sampleFundValue (some sampleBufferScript) sampleChannelTransactions

def sampleVerifyRun (infos : List sampleSigning.ContractInfo)
    (accepted : AcceptedContract sampleSigning.toDescriptors × List AdaptorSignature) :
    Result (SignedContract sampleSigning.toDescriptors × List AdaptorSignature) :=
  Internal.verifyAcceptedAndSignContract sampleCrypto (sampleChannelOffer true infos) sampleAccept []
    accepted.1.acceptRefundSignature accepted.2 sampleFundValue ⟨.ok sampleKey₁, .ok 1⟩
    (some sampleBufferScript) (some (samplePublicKey 9)) sampleChannelTransactions none

def sampleFirstInfo : sampleSigning.ContractInfo :=
  Infos.sampleEnumInfo 21 ⟨200000000, 0⟩ ⟨0, 200000000⟩

def sampleSecondInfo : sampleSigning.ContractInfo :=
  Infos.sampleEnumInfo 22 ⟨0, 200000000⟩ ⟨200000000, 0⟩

theorem toBool_ok {α ε : Type} {r : Except ε α} (h : r.toBool = true) : ∃ a, r = .ok a := by
  cases r with
  | ok a => exact ⟨a, rfl⟩
  | error e => cases h

end P2PLending.Manager
