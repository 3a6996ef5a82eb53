import P2PLending.Manager.LoanStore
import P2PLending.Manager.Acceptance

/-! The lender's offer of a loan: the checks of its input, the offered contract that
it keeps, the message it sends and the preimage it writes on the way. -/

namespace P2PLending.Manager
open Dlc Checked

variable {D : Descriptors} {E : Type}

/-- Seven days in seconds. -/
def refundDelay : ℕ := 86400 * 7

/-- An announcement by the maturity of its event and what only the descriptors read. -/
structure OracleAnnouncement (E : Type) where
  eventMaturityEpoch : ℕ
  event : E

structure OracleInput where
  publicKeys : List Bytes32
  threshold : ℕ
  deriving DecidableEq, Repr

/-- The number of keys is cut to 16 bits before the comparison. -/
def OracleInput.validate (o : OracleInput) : Result Unit := do
  ensure (o.publicKeys ≠ [])
    (.err (.invalidParameters "OracleInput must have at least one public key."))
  ensure (o.threshold ≤ o.publicKeys.length % 2 ^ 16)
    (.err (.invalidParameters "Threshold cannot be larger than number of oracles."))
  ensure (o.threshold ≠ 0) (.err (.invalidParameters "Threshold cannot be zero."))

/-- A contract descriptor, as what it makes of its announcements and threshold. -/
structure ContractInputInfo (D : Descriptors) (E : Type) where
  contractDescriptor : List (OracleAnnouncement E) → (threshold : ℕ) → D.ContractInfo
  oracles : OracleInput

structure ContractInput (D : Descriptors) (E : Type) where
  offerCollateral : ℕ
  acceptCollateral : ℕ
  feeRate : ℕ
  contractInfos : List (ContractInputInfo D E)

structure LoanContractInput (D : Descriptors) (E : Type) where
  collateralRatio : ℕ
  liquidationRatio : ℕ
  interestRate : ℕ
  duration : ℕ
  collateral : ℕ
  feeRate : ℕ
  contractInfos : List (ContractInputInfo D E)

def LoanContractInput.validate (input : LoanContractInput D E) : Result Unit := do
  ensure (input.interestRate ≠ 0 ∧ input.interestRate ≤ 100)
    (.err (.invalidParameters "Interest rate must be between 1 and 100."))
  ensure (input.duration ≠ 0) (.err (.invalidParameters "Duration must be greater than zero."))
  ensure (input.contractInfos.isEmpty = false)
    (.err (.invalidParameters "Need at least one contract info"))
  input.contractInfos.forM fun info => info.oracles.validate
  validateFeeRate input.feeRate "Fee rate too high."

structure OfferDlc (D : Descriptors) where
  temporaryContractId : ContractId
  totalCollateral : ℕ
  contractInfo : List D.ContractInfo
  fundingPubkey : PublicKey
  payoutSpk : Bytes
  payoutSerialId : ℕ
  offerCollateral : ℕ
  fundingInputs : List FundingInput
  changeSpk : Bytes
  changeSerialId : ℕ
  fundOutputSerialId : ℕ
  feeRatePerVb : ℕ
  cetLocktime : ℕ
  refundLocktime : ℕ

structure OfferLoanDlc (D : Descriptors) where
  collateralRatio : ℕ
  liquidationRatio : ℕ
  interestRate : ℕ
  duration : ℕ
  lenderHash : Bytes32
  offerDlc : OfferDlc D

def OfferedContract.toOfferDlc (c : OfferedContract D) : OfferDlc D where
  temporaryContractId := c.id
  totalCollateral := c.totalCollateral
  contractInfo := c.contractInfo
  fundingPubkey := c.offerParams.fundPubkey
  payoutSpk := c.offerParams.payoutScriptPubkey
  payoutSerialId := c.offerParams.payoutSerialId
  offerCollateral := c.offerParams.collateral
  fundingInputs := c.fundingInputs
  changeSpk := c.offerParams.changeScriptPubkey
  changeSerialId := c.offerParams.changeSerialId
  fundOutputSerialId := c.fundOutputSerialId
  feeRatePerVb := c.feeRatePerVb
  cetLocktime := c.cetLocktime
  refundLocktime := c.refundLocktime

def OfferedLoanContract.toOfferLoanDlc (c : OfferedLoanContract D) : OfferLoanDlc D where
  collateralRatio := c.collateralRatio
  liquidationRatio := c.liquidationRatio
  interestRate := c.interestRate
  duration := c.duration
  lenderHash := c.lenderHash
  offerDlc := c.offeredContract.toOfferDlc

/-- The answers of one call, with the temporary id and the preimage it draws. -/
structure OfferEnvironment where
  newTemporaryId : ContractId
  lenderPreimage : Uint128
  deriveSignerKeyId : (isOfferParty : Bool) → ContractId → KeysId
  deriveContractSigner : KeysId → Except Error ContractSigner
  getNewAddress : Except Error Bytes
  getNewChangeAddress : Except Error Bytes
  getNewSerialId : ℕ → ℕ
  unixTimeNow : ℕ
  setLoanPreimage : Except Error Unit
  writeStore : Except Error Unit

/-- `expect` of a result. -/
def expect {α : Type} (message : String) : Result α → Result α
  | .ok a => .ok a
  | .error _ => .error (.panic message)

def getLatestMaturityDate (announcements : List (List (OracleAnnouncement E))) : Result ℕ :=
  match (announcements.flatten.map OracleAnnouncement.eventMaturityEpoch).max? with
  | some latest => .ok latest
  | none => .error (.err (.invalidParameters "Could not find maximum event maturity."))

/-- `OfferedContract::new`, whose fund output takes the serial id `serialId`. -/
def OfferedContract.new (id : ContractId) (contract : ContractInput D E)
    (oracleAnnouncements : List (List (OracleAnnouncement E))) (offerParams : PartyParams)
    (fundingInputs : List FundingInput) (counterParty : PublicKey) (refundDelay cetLocktime : ℕ)
    (keysId : KeysId) (serialId : ℕ) : Result (OfferedContract D) := do
  let totalCollateral ← ofDlc (amountAdd contract.offerCollateral contract.acceptCollateral)
  ensure (contract.contractInfos.length = oracleAnnouncements.length)
    (.panic "assertion `left == right` failed")
  let latestMaturity ← expect "to be able to retrieve latest maturity date"
    (getLatestMaturityDate oracleAnnouncements)
  let refundLocktime ← add (2 ^ 32) (.panic "attempt to add with overflow") latestMaturity refundDelay
  .ok
    { id
      isOfferParty := true
      contractInfo := List.zipWith
        (fun info announcements => info.contractDescriptor announcements info.oracles.threshold)
        contract.contractInfos oracleAnnouncements
      counterParty, offerParams, totalCollateral, fundingInputs
      fundOutputSerialId := serialId
      feeRatePerVb := contract.feeRate
      cetLocktime, refundLocktime, keysId }

theorem OfferedContract.new_id {id : ContractId} {contract : ContractInput D E}
    {oracleAnnouncements : List (List (OracleAnnouncement E))} {offerParams : PartyParams}
    {fundingInputs : List FundingInput} {counterParty : PublicKey} {refundDelay cetLocktime : ℕ}
    {keysId : KeysId} {serialId : ℕ} {offered : OfferedContract D}
    (h : OfferedContract.new id contract oracleAnnouncements offerParams fundingInputs counterParty
      refundDelay cetLocktime keysId serialId = .ok offered) : offered.id = id := by
  simp only [OfferedContract.new, bind_eq_ok, Except.ok.injEq] at h
  obtain ⟨_, _, _, _, _, _, _, _, rfl⟩ := h
  rfl

section Offer
variable (env : OfferEnvironment) (C : Crypto) (input : LoanContractInput D E)
  (counterParty : PublicKey) (oracleAnnouncements : List (List (OracleAnnouncement E)))

def getLenderPartyParams (signer : ContractSigner) : Result PartyParams := do
  let fundPubkey ← signer.publicKey
  let payoutScriptPubkey ← answered env.getNewAddress
  let changeScriptPubkey ← answered env.getNewChangeAddress
  .ok
    { fundPubkey, changeScriptPubkey
      changeSerialId := env.getNewSerialId 1
      payoutScriptPubkey
      payoutSerialId := env.getNewSerialId 0
      inputs := []
      inputAmount := 0
      collateral := 0 }

/-- The offered contract, under the hash of the drawn preimage. -/
def offerLoanContract : Result (OfferedLoanContract D) := do
  input.validate
  let keysId := env.deriveSignerKeyId true env.newTemporaryId
  let signer ← answered (env.deriveContractSigner keysId)
  let partyParams ← getLenderPartyParams env signer
  let contractInput : ContractInput D E :=
    { offerCollateral := 0
      acceptCollateral := input.collateral
      feeRate := input.feeRate
      contractInfos := input.contractInfos }
  let offeredContract ← OfferedContract.new env.newTemporaryId contractInput oracleAnnouncements
    partyParams [] counterParty refundDelay (env.unixTimeNow % 2 ^ 32) keysId (env.getNewSerialId 2)
  .ok
    { offeredContract
      collateralRatio := input.collateralRatio
      liquidationRatio := input.liquidationRatio
      interestRate := input.interestRate
      duration := input.duration
      lenderHash := C.sha256 env.lenderPreimage.toBeBytes }

/-- The result of the preimage's write is dropped, that of the offer's is not. -/
def sendOfferLoanWithAnnouncements :
    Handler (LoanStore D) (Fault Error) (OfferLoanDlc D) := do
  let offered ← Handler.lift
    (offerLoanContract env C input counterParty oracleAnnouncements)
  Handler.modify fun store => written env.setLoanPreimage store
    (store.setLoanPreimage offered.offeredContract.id env.lenderPreimage)
  Handler.lift offered.validate
  Handler.lift (answered env.writeStore)
  Handler.modify fun store =>
    { store with contracts := store.contracts.createLoanContract offered }
  pure offered.toOfferLoanDlc

variable {env C input counterParty oracleAnnouncements}

theorem offerLoanContract_ok {offered : OfferedLoanContract D}
    (h : offerLoanContract env C input counterParty oracleAnnouncements = .ok offered) :
    offered.offeredContract.id = env.newTemporaryId ∧
      offered.lenderHash = C.sha256 env.lenderPreimage.toBeBytes := by
  simp only [offerLoanContract, bind_eq_ok, Except.ok.injEq] at h
  obtain ⟨_, _, _, _, _, _, _, created, rfl⟩ := h
  exact ⟨OfferedContract.new_id created, rfl⟩

/-- A returned offer message names the drawn id and the drawn preimage's hash, and
of the preimages only the write has changed the store. -/
theorem sendOfferLoanWithAnnouncements_ok {store store' : LoanStore D} {msg : OfferLoanDlc D}
    (h : sendOfferLoanWithAnnouncements env C input counterParty oracleAnnouncements store =
      (.ok msg, store')) :
    msg.offerDlc.temporaryContractId = env.newTemporaryId ∧
      msg.lenderHash = C.sha256 env.lenderPreimage.toBeBytes ∧
      store'.loanPreimage = (written env.setLoanPreimage store
        (store.setLoanPreimage env.newTemporaryId env.lenderPreimage)).loanPreimage := by
  unfold sendOfferLoanWithAnnouncements at h
  rw [Handler.lift_bind] at h
  split at h
  · rename_i offered offers
    obtain ⟨id, hash⟩ := offerLoanContract_ok offers
    rw [Handler.modify_bind, Handler.lift_bind] at h
    split at h
    · rw [Handler.lift_bind] at h
      split at h
      · rw [Handler.modify_bind, Handler.pure_apply] at h
        obtain ⟨message, after⟩ := Prod.mk.inj h
        cases message
        cases after
        refine ⟨id, hash, ?_⟩
        rw [id]
      · cases (Prod.mk.inj h).1
    · cases (Prod.mk.inj h).1
  · cases (Prod.mk.inj h).1

end Offer

end P2PLending.Manager
