import P2PLending.Manager.OfferRoundTrip

/-! The receiver's checks of an offer: the oracles' announcements, the locktimes against the
first maturity, and of the contract that is read from the message each info with its
payouts. -/

namespace P2PLending.Manager.Infos
open Dlc Checked

section Validate
variable (K : Crypto) (O : OracleCrypto) {N : Numerics} {M : MessageNumerics N}

def SerOracleInfo.validate (info : SerOracleInfo) : Dlc.Result Unit :=
  info.announcements.forM fun a => a.validate K O

/-- A contract of several events has at least two. -/
def SerContractInfo.validateOracles : SerContractInfo M → Dlc.Result Unit
  | single _ c => c.oracleInfo.validate K O
  | disjoint _ cs => do
      ensure (2 ≤ cs.length) (.err .invalidArgument)
      cs.forM fun c => c.oracleInfo.validate K O

namespace OfferDlc
variable (offer : OfferDlc M) (minTimeoutInterval maxTimeoutInterval : ℕ)

/-- A sum is only made when the comparisons before it hold. -/
def validDates (closestMaturityDate : ℕ) : Dlc.Result Bool :=
  if offer.cetLocktime ≤ closestMaturityDate then do
    let earliest ← dateAdd closestMaturityDate minTimeoutInterval
    if earliest ≤ offer.refundLocktime then do
      let latest ← dateAdd closestMaturityDate maxTimeoutInterval
      .ok (offer.refundLocktime ≤ latest)
    else .ok false
  else .ok false

def validate : Dlc.Result Unit := do
  offer.contractInfo.validateOracles K O
  let closestMaturityDate ← offer.contractInfo.getClosestMaturityDate
  let valid ← offer.validDates minTimeoutInterval maxTimeoutInterval closestMaturityDate
  ensure (valid = true) (.err .invalidArgument)

end OfferDlc

end Validate

/-! The dates. -/

section Dates
variable {N : Numerics} {M : MessageNumerics N}

/-- The dates of every announcement of a contract. -/
def SerContractInfo.maturities (info : SerContractInfo M) : List ℕ :=
  info.contractInfos.flatMap fun c =>
    c.oracleInfo.announcements.map fun a => a.oracleEvent.eventMaturityEpoch

theorem closestDate_ok {message : String} {dates : List ℕ} {closest : ℕ} :
    closestDate message dates = .ok closest ↔ closest ∈ dates ∧ ∀ d ∈ dates, closest ≤ d := by
  rw [← List.min?_eq_some_iff]
  unfold closestDate
  split
  next date least => simp [least]
  next none => simp [none]

theorem SerOracleInfo.getClosestMaturityDate_ok {info : SerOracleInfo} {closest : ℕ} :
    info.getClosestMaturityDate = .ok closest ↔
      closest ∈ info.announcements.map (fun a => a.oracleEvent.eventMaturityEpoch) ∧
      ∀ d ∈ info.announcements.map (fun a => a.oracleEvent.eventMaturityEpoch), closest ≤ d :=
  closestDate_ok

theorem SerOracleInfo.getClosestMaturityDate_exists {info : SerOracleInfo} :
    (∃ closest, info.getClosestMaturityDate = .ok closest) ↔ info.announcements ≠ [] := by
  unfold SerOracleInfo.getClosestMaturityDate closestDate
  cases announced : info.announcements with
  | nil => simp
  | cons a rest => simp [List.min?_cons]

/-- The closest date of several events is that of all their announcements. -/
theorem closest_of_each {cs : List (ContractInfoInner M)} {dates : List ℕ} {closest : ℕ}
    (each : cs.mapM (fun c => c.oracleInfo.getClosestMaturityDate) = .ok dates) :
    (closest ∈ dates ∧ ∀ d ∈ dates, closest ≤ d) ↔
      (closest ∈ cs.flatMap fun c =>
        c.oracleInfo.announcements.map fun a => a.oracleEvent.eventMaturityEpoch) ∧
      ∀ d ∈ cs.flatMap (fun c =>
        c.oracleInfo.announcements.map fun a => a.oracleEvent.eventMaturityEpoch), closest ≤ d := by
  have below : (∀ d ∈ dates, closest ≤ d) ↔ ∀ d ∈ cs.flatMap (fun c =>
      c.oracleInfo.announcements.map fun a => a.oracleEvent.eventMaturityEpoch), closest ≤ d := by
    rw [List.forall_mem_flatMap]
    refine forall_mapM_iff each fun least => ?_
    obtain ⟨listed, first⟩ := SerOracleInfo.getClosestMaturityDate_ok.mp least
    exact ⟨fun low d later => low.trans (first d later), fun low => low _ listed⟩
  rw [below]
  refine and_congr_left fun low => ?_
  rw [List.mem_flatMap, mem_mapM each]
  constructor
  · rintro ⟨c, listed, least⟩
    exact ⟨c, listed, (SerOracleInfo.getClosestMaturityDate_ok.mp least).1⟩
  · rintro ⟨c, listed, mature⟩
    obtain ⟨d, least⟩ := exists_mapM_ok.mp ⟨dates, each⟩ c listed
    have first := (SerOracleInfo.getClosestMaturityDate_ok.mp least).2 closest mature
    have last := below.mpr low d ((mem_mapM each).mpr ⟨c, listed, least⟩)
    exact ⟨c, listed, least.trans (congrArg Except.ok (Nat.le_antisymm first last))⟩

theorem SerContractInfo.getClosestMaturityDate_ok {info : SerContractInfo M} {closest : ℕ} :
    info.getClosestMaturityDate = .ok closest ↔
      (∀ c ∈ info.contractInfos, c.oracleInfo.announcements ≠ []) ∧
      closest ∈ info.maturities ∧ ∀ d ∈ info.maturities, closest ≤ d := by
  cases info with
  | single total c =>
      simp only [getClosestMaturityDate, contractInfos, maturities, List.forall_mem_singleton,
        List.flatMap_cons, List.flatMap_nil, List.append_nil,
        SerOracleInfo.getClosestMaturityDate_ok]
      refine (and_iff_right_of_imp fun ⟨listed, _⟩ => ?_).symm
      exact fun none => List.not_mem_nil (none ▸ listed)
  | disjoint total cs =>
      simp only [getClosestMaturityDate, contractInfos, maturities, bind_eq_ok, closestDate_ok,
        ← SerOracleInfo.getClosestMaturityDate_exists, ← exists_mapM_ok]
      constructor
      · rintro ⟨dates, each, first⟩
        exact ⟨⟨dates, each⟩, (closest_of_each each).mp first⟩
      · rintro ⟨⟨dates, each⟩, first⟩
        exact ⟨dates, each, (closest_of_each each).mpr first⟩

theorem OfferDlc.validDates_ok {offer : OfferDlc M} {minT maxT closest : ℕ} (ordered : minT ≤ maxT) :
    offer.validDates minT maxT closest = .ok true ↔
      offer.cetLocktime ≤ closest ∧ closest + minT ≤ offer.refundLocktime ∧
        offer.refundLocktime ≤ closest + maxT ∧ closest + maxT < 2 ^ 32 := by
  unfold OfferDlc.validDates dateAdd
  split
  next early =>
    rw [bind_eq_ok]
    constructor
    · rintro ⟨earliest, added, rest⟩
      obtain ⟨-, rfl⟩ := add_eq_ok.mp added
      split at rest
      next after =>
        obtain ⟨latest, added, within⟩ := bind_eq_ok.mp rest
        obtain ⟨fits, rfl⟩ := add_eq_ok.mp added
        exact ⟨early, after, of_decide_eq_true (Except.ok.inj within), fits⟩
      next => cases rest
    · rintro ⟨-, after, before, fits⟩
      have room : closest + minT < 2 ^ 32 := (Nat.add_le_add_left ordered closest).trans_lt fits
      refine ⟨_, add_eq_ok.mpr ⟨room, rfl⟩, ?_⟩
      rw [if_pos after]
      exact bind_eq_ok.mpr ⟨_, add_eq_ok.mpr ⟨fits, rfl⟩, by simp [before]⟩
  next late => simp [late]

end Dates

section Validated
variable {K : Crypto} {O : OracleCrypto} {N : Numerics} {M : MessageNumerics N}

theorem SerContractInfo.validateOracles_ok {info : SerContractInfo M} :
    info.validateOracles K O = .ok () ↔
      (∀ total cs, info = .disjoint total cs → 2 ≤ cs.length) ∧
      ∀ c ∈ info.contractInfos, ∀ a ∈ c.oracleInfo.announcements, a.Valid K O := by
  cases info with
  | single total c =>
      rw [validateOracles, SerOracleInfo.validate, forM_eq_ok]
      simp [contractInfos, OracleAnnouncement.validate_ok]
  | disjoint total cs =>
      simp only [validateOracles, contractInfos, SerOracleInfo.validate, bind_eq_ok, ensure_eq_ok,
        forM_eq_ok, OracleAnnouncement.validate_ok, disjoint.injEq]
      constructor
      · rintro ⟨_, several, each⟩
        exact ⟨fun _ _ same => same.2 ▸ several, each⟩
      · rintro ⟨several, each⟩
        exact ⟨(), several total cs ⟨rfl, rfl⟩, each⟩

theorem OfferDlc.validate_ok {offer : OfferDlc M} {minT maxT : ℕ} (ordered : minT ≤ maxT) :
    offer.validate K O minT maxT = .ok () ↔
      offer.contractInfo.validateOracles K O = .ok () ∧
      ∃ closest, offer.contractInfo.getClosestMaturityDate = .ok closest ∧
        offer.cetLocktime ≤ closest ∧ closest + minT ≤ offer.refundLocktime ∧
        offer.refundLocktime ≤ closest + maxT ∧ closest + maxT < 2 ^ 32 := by
  simp only [OfferDlc.validate, bind_eq_ok, ensure_eq_ok]
  constructor
  · rintro ⟨_, oracles, closest, least, valid, dates, rfl⟩
    exact ⟨oracles, closest, least, (validDates_ok ordered).mp dates⟩
  · rintro ⟨oracles, closest, least, dates⟩
    exact ⟨(), oracles, closest, least, true, (validDates_ok ordered).mpr dates, rfl⟩

end Validated

end P2PLending.Manager.Infos
