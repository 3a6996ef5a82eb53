import P2PLending.Manager.ContractMessages

/-! The oracles' answers. An attestation is compared with the announcement pair by pair, and the
answers to a contract are numbered after the announcements that are not mature are left out. -/

namespace P2PLending.Manager.Infos
open Dlc Checked

/-- An `OracleAttestation` with all its fields. -/
structure PublishedAttestation extends OracleAttestation where
  eventId : String
  oraclePublicKey : Bytes32
  deriving DecidableEq, Repr

/-- The 64 bytes of a Schnorr signature. -/
def encodeSignature (s : OracleSignature) : Bytes := s.nonce.toBytes ++ s.scalar.toBytes

theorem Bytes32.toBytes_length (w : Bytes32) : w.toBytes.length = 32 := beBytes_length 32 w.val

/-- The first half is the nonce. -/
theorem encodeSignature_take {s : OracleSignature} {nonce : Bytes32} :
    (encodeSignature s).take 32 = nonce.toBytes ↔ s.nonce = nonce := by
  rw [encodeSignature, List.take_append_of_le_length (Bytes32.toBytes_length _).ge,
    List.take_of_length_le (Bytes32.toBytes_length _).le]
  exact ⟨fun same => Bytes32.toBytes_injective same, fun same => congrArg _ same⟩

section Validate
variable (K : Crypto) (O : OracleCrypto) (a : PublishedAttestation) (announcement : OracleAnnouncement)

/-- The signature of an outcome under a key. -/
def verifiesOutcome (key : Bytes32) (s : OracleSignature) (outcome : String) : Bool :=
  O.verifySchnorr (encodeSignature s) (K.sha256 outcome.toUTF8.toList) key

/-- `OracleAttestation::validate` -/
def PublishedAttestation.validate : Dlc.Result Unit := do
  ensure (a.outcomes.length = a.signatures.length) (.err .invalidArgument)
  ensure (a.oraclePublicKey = announcement.oraclePublicKey) (.err .invalidArgument)
  (a.signatures.zip a.outcomes).forM fun x =>
    ensure (verifiesOutcome K O a.oraclePublicKey x.1 x.2 = true) (.err .invalidArgument)
  ensure ((a.signatures.zip announcement.oracleEvent.oracleNonces).all fun x =>
      (encodeSignature x.1).take 32 = x.2.toBytes) (.err .invalidArgument)

/-- What is compared, which is as much of the lists as the shorter of two has. -/
structure PassesChecks : Prop where
  outcomes : a.outcomes.length = a.signatures.length
  key : a.oraclePublicKey = announcement.oraclePublicKey
  verifies : ∀ x ∈ a.signatures.zip a.outcomes, verifiesOutcome K O a.oraclePublicKey x.1 x.2 = true
  nonces : ∀ x ∈ a.signatures.zip announcement.oracleEvent.oracleNonces, x.1.nonce = x.2

/-- One outcome and one signature for each announced nonce, in order and under the oracle's key. -/
structure CompleteFor : Prop where
  outcomes : a.outcomes.length = announcement.oracleEvent.oracleNonces.length
  verifies : List.Forall₂
    (fun s outcome => verifiesOutcome K O announcement.oraclePublicKey s outcome = true) a.signatures
    a.outcomes
  nonces : a.signatures.map OracleSignature.nonce = announcement.oracleEvent.oracleNonces

variable {K O a announcement}

theorem validate_eq_ok : a.validate K O announcement = .ok () ↔ PassesChecks K O a announcement := by
  simp only [PublishedAttestation.validate, bind_eq_ok, ensure_eq_ok, List.all_eq_true,
    decide_eq_true_eq, encodeSignature_take]
  constructor
  · rintro ⟨_, outcomes, _, key, _, verifies, nonces⟩
    exact ⟨outcomes, key, fun x listed => ensure_eq_ok.mp (forM_eq_ok.mp verifies x listed), nonces⟩
  · intro passes
    exact ⟨(), passes.outcomes, (), passes.key, (),
      forM_eq_ok.mpr fun x listed => ensure_eq_ok.mpr (passes.verifies x listed), passes.nonces⟩

theorem forall₂_of_zip {α β : Type} {R : α → β → Prop} {xs : List α} {ys : List β}
    (same : xs.length = ys.length) (each : ∀ x ∈ xs.zip ys, R x.1 x.2) : List.Forall₂ R xs ys :=
  List.forall₂_iff_zip.mpr ⟨same, fun listed => each _ listed⟩

theorem completeFor_iff (passes : PassesChecks K O a announcement) :
    CompleteFor K O a announcement ↔
      a.signatures.length = announcement.oracleEvent.oracleNonces.length := by
  constructor
  · intro complete
    rw [← passes.outcomes, complete.outcomes]
  · intro counted
    have verifies : List.Forall₂ (fun s outcome =>
        verifiesOutcome K O announcement.oraclePublicKey s outcome = true) a.signatures a.outcomes := by
      rw [← passes.key]
      exact forall₂_of_zip passes.outcomes.symm passes.verifies
    have nonces : List.Forall₂ (fun s nonce => s.nonce = nonce) a.signatures
        announcement.oracleEvent.oracleNonces := forall₂_of_zip counted passes.nonces
    refine ⟨passes.outcomes.trans counted, verifies, ?_⟩
    rw [← List.forall₂_eq_eq_eq, List.forall₂_map_left_iff]
    exact nonces

/-- What is accepted is complete exactly when it has as many signatures as there are nonces. -/
theorem validate_complete_iff (K : Crypto) (O : OracleCrypto) (a : PublishedAttestation)
    (announcement : OracleAnnouncement) :
    (a.validate K O announcement = .ok () → CompleteFor K O a announcement) ↔
      a.signatures.length = announcement.oracleEvent.oracleNonces.length ∨
        ¬ PassesChecks K O a announcement := by
  rw [validate_eq_ok]
  by_cases passes : PassesChecks K O a announcement
  · simp only [passes, true_imp_iff, not_true_eq_false, or_false, completeFor_iff passes]
  · simp only [passes, false_imp_iff, not_false_eq_true, or_true]

end Validate

/-- No signature at all, from the oracle of the sample announcement. -/
def emptyAttestation : PublishedAttestation where
  signatures := []
  outcomes := []
  eventId := "price"
  oraclePublicKey := 5

/-- Schnorr signatures of which none verifies. -/
def deafOracleCrypto : OracleCrypto where
  write _ := []
  verifySchnorr _ _ _ := false

theorem empty_attestation_accepted :
    emptyAttestation.validate sampleCrypto deafOracleCrypto (sampleAnnouncement 7) = .ok () ∧
      ¬ CompleteFor sampleCrypto deafOracleCrypto emptyAttestation (sampleAnnouncement 7) := by
  refine ⟨rfl, fun complete => ?_⟩
  exact absurd complete.outcomes (by decide)

/-! The search for an info that can be closed. -/

section Closable
variable {N : Numerics}

/-- What the manager asks: the time, and an oracle for an event, which may not answer. -/
structure OracleAnswers where
  unixTimeNow : ℕ
  getAttestation : (oraclePublicKey : Bytes32) → Option (String → Option PublishedAttestation)

variable (K : Crypto) (O : OracleCrypto) (env : OracleAnswers)

def OracleAnswers.matured (announcement : OracleAnnouncement) : Bool :=
  announcement.oracleEvent.eventMaturityEpoch ≤ env.unixTimeNow

/-- The attestation for an announcement, if its oracle gives one that passes validation. -/
def attestationFor (announcement : OracleAnnouncement) : Option PublishedAttestation := do
  let oracle ← env.getAttestation announcement.oraclePublicKey
  let attestation ← oracle announcement.oracleEvent.eventId
  if attestation.validate K O announcement = .ok () then some attestation else none

/-- The numbers are taken among the announcements that are mature. -/
def numberedAttestations (announcements : List OracleAnnouncement) : List (ℕ × PublishedAttestation) :=
  ((announcements.filter env.matured).zipIdx).filterMap fun x =>
    (attestationFor K O env x.1).map (x.2, ·)

/-- Enough announcements are mature, and enough of them are answered. -/
def closable (info : ContractInfo N) : Bool :=
  info.threshold ≤ (info.oracleAnnouncements.filter env.matured).length &&
    info.threshold ≤ (numberedAttestations K O env info.oracleAnnouncements).length

def getClosableContractInfo (contractInfos : List (ContractInfo N))
    (adaptorInfos : List (AdaptorInfo N)) :
    Option (ContractInfo N × AdaptorInfo N × List (ℕ × PublishedAttestation)) :=
  ((contractInfos.zip adaptorInfos).find? fun x => closable K O env x.1).map fun x =>
    (x.1, x.2, numberedAttestations K O env x.1.oracleAnnouncements)

/-! What the numbers refer to. -/

theorem filter_getElem?_iff {α : Type} {p : α → Bool} {xs : List α} {x : α} {i : ℕ} :
    (xs.filter p)[i]? = some x ↔ ∃ j, xs[j]? = some x ∧ p x = true ∧ (xs.take j).countP p = i := by
  induction xs generalizing i with
  | nil => simp
  | cons y xs ih =>
      by_cases kept : p y = true
      · rw [List.filter_cons_of_pos kept]
        cases i with
        | zero =>
            constructor
            · intro at_
              cases at_
              exact ⟨0, rfl, kept, rfl⟩
            · rintro ⟨j, at_, _, counted⟩
              cases j with
              | zero => exact at_
              | succ j => simp [kept] at counted
        | succ i =>
            rw [List.getElem?_cons_succ, ih]
            constructor
            · rintro ⟨j, at_, passes, counted⟩
              exact ⟨j + 1, at_, passes, by simp [kept, counted]⟩
            · rintro ⟨j, at_, passes, counted⟩
              cases j with
              | zero => simp at counted
              | succ j => exact ⟨j, at_, passes, by simpa [kept] using counted⟩
      · rw [List.filter_cons_of_neg kept, ih]
        constructor
        · rintro ⟨j, at_, passes, counted⟩
          exact ⟨j + 1, at_, passes, by simp [kept, counted]⟩
        · rintro ⟨j, at_, passes, counted⟩
          cases j with
          | zero =>
              cases at_
              exact absurd passes kept
          | succ j => exact ⟨j, at_, passes, by simpa [kept] using counted⟩

variable {K O env}

theorem mem_numberedAttestations {announcements : List OracleAnnouncement} {i : ℕ}
    {a : PublishedAttestation} :
    (i, a) ∈ numberedAttestations K O env announcements ↔
      ∃ j announcement, announcements[j]? = some announcement ∧ env.matured announcement = true ∧
        (announcements.take j).countP env.matured = i ∧
        attestationFor K O env announcement = some a := by
  simp only [numberedAttestations, List.mem_filterMap, Prod.exists, List.mk_mem_zipIdx_iff_getElem?,
    filter_getElem?_iff, Option.map_eq_some_iff, Prod.mk.injEq]
  constructor
  · rintro ⟨announcement, _, ⟨j, at_, mature, counted⟩, _, answered, rfl, rfl⟩
    exact ⟨j, announcement, at_, mature, counted, answered⟩
  · rintro ⟨j, announcement, at_, mature, counted, answered⟩
    exact ⟨announcement, i, ⟨j, at_, mature, counted⟩, a, answered, rfl, rfl⟩

theorem numberedAttestations_ascending (announcements : List OracleAnnouncement) :
    ((numberedAttestations K O env announcements).map Prod.fst).Pairwise (· < ·) := by
  have sub : ∀ l : List (OracleAnnouncement × ℕ), ((l.filterMap fun x =>
      (attestationFor K O env x.1).map (x.2, ·)).map Prod.fst).Sublist (l.map Prod.snd) := by
    intro l
    induction l with
    | nil => exact List.Sublist.refl _
    | cons x l ih =>
        cases answered : attestationFor K O env x.1 with
        | none =>
            rw [List.filterMap_cons_none (by rw [answered]; rfl)]
            exact ih.cons _
        | some a =>
            rw [List.filterMap_cons_some (by rw [answered]; rfl)]
            exact ih.cons_cons _
  refine List.Pairwise.sublist (sub _) ?_
  rw [List.zipIdx_map_snd]
  exact List.pairwise_lt_range'

/-- An announcement that is answered stands where its number points: none before it is immature,
or the one that the number points at is given the same attestation. -/
def Unshifted (K : Crypto) (O : OracleCrypto) (env : OracleAnswers)
    (announcements : List OracleAnnouncement) : Prop :=
  ∀ j announcement a, announcements[j]? = some announcement → env.matured announcement = true →
    attestationFor K O env announcement = some a →
    ∃ other, announcements[(announcements.take j).countP env.matured]? = some other ∧
      attestationFor K O env other = some a

/-- Nothing is shifted while the announcements before an answered one are mature. -/
theorem unshifted_of_matured {announcements : List OracleAnnouncement}
    (before : ∀ j announcement a, announcements[j]? = some announcement →
      env.matured announcement = true → attestationFor K O env announcement = some a →
      ∀ other ∈ announcements.take j, env.matured other = true) :
    Unshifted K O env announcements := by
  intro j announcement a at_ mature answered
  have counted : (announcements.take j).countP env.matured = j := by
    have within : j < announcements.length := (List.getElem?_eq_some_iff.mp at_).1
    rw [List.countP_eq_length.mpr (before j announcement a at_ mature answered), List.length_take]
    omega
  rw [counted]
  exact ⟨announcement, at_, answered⟩

/-- Each number is the place of the announcement that was attested, and they ascend. -/
def OwnIndices (K : Crypto) (O : OracleCrypto) (env : OracleAnswers) (info : ContractInfo N)
    (attestations : List (ℕ × PublishedAttestation)) : Prop :=
  (attestations.map Prod.fst).Pairwise (· < ·) ∧
    ∀ x ∈ attestations, ∃ announcement, info.oracleAnnouncements[x.1]? = some announcement ∧
      attestationFor K O env announcement = some x.2

theorem ownIndices_iff {info : ContractInfo N} :
    OwnIndices K O env info (numberedAttestations K O env info.oracleAnnouncements) ↔
      Unshifted K O env info.oracleAnnouncements := by
  constructor
  · intro own j announcement a at_ mature answered
    exact own.2 (_, a) (mem_numberedAttestations.mpr ⟨j, announcement, at_, mature, rfl, answered⟩)
  · intro unshifted
    refine ⟨numberedAttestations_ascending _, fun x listed => ?_⟩
    obtain ⟨j, announcement, at_, mature, counted, answered⟩ := mem_numberedAttestations.mp listed
    rw [← counted]
    exact unshifted j announcement x.2 at_ mature answered

/-- The numbers that are returned are the announcements' own, exactly when in the first closable
info no answered announcement is shifted. -/
theorem closable_indices_iff (K : Crypto) (O : OracleCrypto) (env : OracleAnswers)
    (contractInfos : List (ContractInfo N)) (adaptorInfos : List (AdaptorInfo N)) :
    (∀ info adaptorInfo attestations,
      getClosableContractInfo K O env contractInfos adaptorInfos =
        some (info, adaptorInfo, attestations) → OwnIndices K O env info attestations) ↔
      ∀ info adaptorInfo,
        ((contractInfos.zip adaptorInfos).find? fun x => closable K O env x.1) =
          some (info, adaptorInfo) → Unshifted K O env info.oracleAnnouncements := by
  unfold getClosableContractInfo
  cases ((contractInfos.zip adaptorInfos).find? fun x => closable K O env x.1) with
  | none => simp
  | some x =>
      constructor
      · intro own info adaptorInfo same
        cases same
        exact ownIndices_iff.mp (own _ _ _ rfl)
      · intro unshifted info adaptorInfo attestations same
        cases same
        exact ownIndices_iff.mpr (unshifted _ _ rfl)

end Closable

/-- An event of another oracle that matures later. -/
def lateAnnouncement : OracleAnnouncement where
  announcementSignature := []
  oraclePublicKey := 6
  oracleEvent := { (sampleAnnouncement 7).oracleEvent with eventMaturityEpoch := 100 }

/-- One of two oracles is enough, and the first one's event is late. -/
def staggeredInfo : ContractInfo sampleNumerics where
  contractDescriptor := .enum [⟨"up", ⟨1, 0⟩⟩, ⟨"down", ⟨0, 1⟩⟩]
  oracleAnnouncements := [lateAnnouncement, sampleAnnouncement 7]
  threshold := 1

def upAttestation : PublishedAttestation where
  signatures := [⟨7, 1⟩]
  outcomes := ["up"]
  eventId := "price"
  oraclePublicKey := 5

/-- Signatures of the key 5 verify. -/
def fiveOracleCrypto : OracleCrypto where
  write _ := []
  verifySchnorr _ _ key := key = 5

def staggeredAnswers : OracleAnswers where
  unixTimeNow := 50
  getAttestation key := if key = 5 then some fun _ => some upAttestation else none

theorem index_shifted :
    getClosableContractInfo sampleCrypto fiveOracleCrypto staggeredAnswers [staggeredInfo] [.enum] =
        some (staggeredInfo, .enum, [(0, upAttestation)]) ∧
      ¬ OwnIndices sampleCrypto fiveOracleCrypto staggeredAnswers staggeredInfo
        [(0, upAttestation)] := by
  refine ⟨rfl, fun own => ?_⟩
  obtain ⟨announcement, at_, answered⟩ := own.2 (0, upAttestation) List.mem_cons_self
  cases at_
  cases answered

end P2PLending.Manager.Infos
