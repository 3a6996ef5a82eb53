import P2PLending.Manager.CurveGuards
import P2PLending.Manager.ContractSigning

/-! Lists of adaptor signatures from the other party. Every verification indexes the list where
a required signature should be: an enumerated info counts through it, a numerical one takes the
indexes of its trie, one entry after the other or, with the `parallel` feature, in any order.
A list that is too short is an error only where one of the entries fails first. -/

namespace P2PLending.Manager.Infos
open Dlc Checked

variable (K : AdaptorCrypto) {N : Numerics}

inductive Build
  | sequential
  | parallel
  deriving DecidableEq, Repr

/-! What a verification asks for. -/

/-- A signature that is required: where it is in the list, the CET that it signs, and its adaptor
point, which is computed when the entry is verified. -/
structure Required where
  adaptorIndex : ℕ
  cetIndex : ℕ
  adaptorPoint : Dlc.Result PublicKey

namespace Required

def verify (pubkey : PublicKey) (script : Bytes) (value : ℕ) (cets : List Transaction)
    (adaptorSigs : List AdaptorSignature) (r : Required) : Result Unit := do
  let adaptorPoint ← ofDlc r.adaptorPoint
  let sig ← index adaptorSigs r.adaptorIndex
  let cet ← index cets r.cetIndex
  ofDlc (verifyCetAdaptorSigFromPoint K sig cet adaptorPoint pubkey script value)

/-- The list has an entry where the signature should be, and the CET is there, if the adaptor
point can be computed. -/
def Held (cets : List Transaction) (adaptorSigs : List AdaptorSignature) (r : Required) : Prop :=
  Avoids IsPanic r.adaptorPoint ∧ ∀ point, r.adaptorPoint = .ok point →
    r.adaptorIndex < adaptorSigs.length ∧ r.cetIndex < cets.length

variable {K} {pubkey : PublicKey} {script : Bytes} {value : ℕ} {cets : List Transaction}
  {adaptorSigs : List AdaptorSignature}

theorem avoids_verifyCet {sig : AdaptorSignature} {cet : Transaction} {point : PublicKey} :
    Avoids IsPanic (verifyCetAdaptorSigFromPoint K sig cet point pubkey script value) := by
  unfold verifyCetAdaptorSigFromPoint getSigHashMsg
  split
  next => simp
  next => simp

theorem avoids_verify {r : Required} :
    Avoids IsPanic (r.verify K pubkey script value cets adaptorSigs) ↔ r.Held cets adaptorSigs := by
  simp only [verify, avoids_bind, avoids_ofDlc, avoids_index, avoids_verifyCet, implies_true,
    and_true, ofDlc_eq_ok, index_eq_ok, Held]
  refine and_congr_right fun _ => forall₂_congr fun point _ => and_congr_right fun within => ?_
  exact ⟨fun later => later _ (List.getElem?_eq_getElem within), fun there _ _ => there⟩

end Required

section Lists
variable (e : EnumDescriptor) (oracleInfos : List OracleInfo) (threshold : ℕ)

/-- Every outcome under every combination, counted from `start`. -/
def enumRequired (start : ℕ) : Result (List Required) := do
  let combinations ← ofDlc (combinations oracleInfos.length threshold)
  .ok (((e.zipIdx.flatMap fun (x, i) => combinations.map fun selector =>
    (i, enumAdaptorPoint K oracleInfos threshold x.outcome selector)).zipIdx start).map
      fun ((cetIndex, adaptorPoint), adaptorIndex) => { adaptorIndex, cetIndex, adaptorPoint })

def trieRequired (precomputedPoints : List (List (List PublicKey))) (trieInfo : List TrieIterInfo) :
    List Required :=
  trieInfo.map fun x =>
    { adaptorIndex := x.value.adaptorIndex
      cetIndex := x.value.cetIndex
      adaptorPoint := getAdaptorPointForIndexedPaths K x.indexes x.paths precomputedPoints }

/-- The index after the largest of the required ones, which is at least one. -/
def afterLargest (required : List Required) : ℕ :=
  (required.map Required.adaptorIndex).foldl max 0 + 1

end Lists

section Helpers
variable (pubkey : PublicKey) (script : Bytes) (value : ℕ) (cets : List Transaction)
  (adaptorSigs : List AdaptorSignature) (precomputedPoints : List (List (List PublicKey)))

/-- `verify_helper` without the `parallel` feature: the largest index so far is zero at first. -/
def verifyHelperSequential (trieInfo : List TrieIterInfo) : Result ℕ := do
  let maxAdaptorIndex ← trieInfo.foldlM (fun maxAdaptorIndex x => do
    let adaptorPoint ← ofDlc (getAdaptorPointForIndexedPaths K x.indexes x.paths precomputedPoints)
    let adaptorSig ← index adaptorSigs x.value.adaptorIndex
    let cet ← index cets x.value.cetIndex
    let maxAdaptorIndex := if x.value.adaptorIndex > maxAdaptorIndex then x.value.adaptorIndex
      else maxAdaptorIndex
    ofDlc (verifyCetAdaptorSigFromPoint K adaptorSig cet adaptorPoint pubkey script value)
    .ok maxAdaptorIndex) 0
  .ok (maxAdaptorIndex + 1)

/-- With the feature the entries are verified in the order of the schedule. -/
def verifyHelperIn (build : Build) (schedule : List TrieIterInfo → List TrieIterInfo)
    (trieInfo : List TrieIterInfo) : Result ℕ :=
  match build with
  | .sequential =>
      verifyHelperSequential K pubkey script value cets adaptorSigs precomputedPoints trieInfo
  | .parallel =>
      verifyHelper K pubkey script value cets adaptorSigs precomputedPoints (schedule trieInfo)

end Helpers

/-- One verification of a list of signatures: while the adaptor info is made from the contract
info, or with an adaptor info that is there. -/
inductive AdaptorCheck (N : Numerics)
  | making (info : ContractInfo N) (totalCollateral : ℕ) (cets : List Transaction)
  | made (info : ContractInfo N) (adaptorInfo : AdaptorInfo N) (cets : List Transaction)

namespace AdaptorCheck

def info : AdaptorCheck N → ContractInfo N
  | making info _ _ => info
  | made info _ _ => info

def cets : AdaptorCheck N → List Transaction
  | making _ _ cets => cets
  | made _ _ cets => cets

def isNumerical (check : AdaptorCheck N) : Bool :=
  match check.info.contractDescriptor with
  | .enum _ => false
  | .numerical _ => true

/-- The entries of the trie of a numerical info, made or at hand, with the points of the digits. -/
def trieInfo (n : N.Descriptor) (start : ℕ) :
    AdaptorCheck N → Result (List (List (List PublicKey)) × List TrieIterInfo)
  | making info totalCollateral _ => do
      let points ← info.precomputePoints K
      let trie ← ofDlc (N.newTrie n info.threshold)
      let ranges ← N.getRangePayouts n totalCollateral
      let (_, trieInfo) ← ofDlc (N.generate trie start ranges)
      .ok (points, trieInfo)
  | made _ .enum _ => unreachable
  | made info (.numerical trie) _ => do
      let points ← info.precomputePoints K
      .ok (points, N.iter trie)

/-- `verify_and_get_adaptor_info` and `verify_adaptor_info`: the index after the signatures. -/
def run (build : Build) (schedule : List TrieIterInfo → List TrieIterInfo) (pubkey : PublicKey)
    (script : Bytes) (value : ℕ) (adaptorSigs : List AdaptorSignature) (start : ℕ)
    (check : AdaptorCheck N) : Result ℕ :=
  match check.info.contractDescriptor with
  | .enum e => enumVerifyAdaptorInfo K e check.info.getOracleInfos check.info.threshold pubkey
      script value check.cets adaptorSigs start
  | .numerical n => do
      let (points, trieInfo) ← check.trieInfo K n start
      verifyHelperIn K pubkey script value check.cets adaptorSigs points build schedule trieInfo

/-- The signatures that a verification asks for. -/
def required (start : ℕ) (check : AdaptorCheck N) : Result (List Required) :=
  match check.info.contractDescriptor with
  | .enum e => enumRequired K e check.info.getOracleInfos check.info.threshold start
  | .numerical n => do
      let (points, trieInfo) ← check.trieInfo K n start
      .ok (trieRequired K points trieInfo)

/-- The index after the required signatures. -/
def after (start : ℕ) (required : List Required) (check : AdaptorCheck N) : ℕ :=
  if check.isNumerical then afterLargest required else start + required.length

/-- The code's own functions, where the entries are taken as they come. -/
theorem run_making (pubkey : PublicKey) (script : Bytes) (value : ℕ)
    (adaptorSigs : List AdaptorSignature) (start : ℕ) (info : ContractInfo N)
    (totalCollateral : ℕ) (cets : List Transaction) :
    (making info totalCollateral cets).run K .parallel id pubkey script value adaptorSigs start = (do
      let (_, next) ← info.verifyAndGetAdaptorInfo K totalCollateral pubkey script value cets
        adaptorSigs start
      .ok next) := by
  obtain ⟨descriptor, announcements, threshold⟩ := info
  cases descriptor with
  | enum e =>
      simp only [run, ContractInfo.verifyAndGetAdaptorInfo, bind_assoc, ok_bind]
      exact (bind_pure _).symm
  | numerical n =>
      simp only [run, trieInfo, ContractInfo.verifyAndGetAdaptorInfo, bind_assoc, ok_bind,
        verifyHelperIn, id]
      refine bind_congr fun points => bind_congr fun trie => bind_congr fun ranges =>
        bind_congr fun generated => ?_
      exact (bind_pure _).symm

theorem run_made (pubkey : PublicKey) (script : Bytes) (value : ℕ)
    (adaptorSigs : List AdaptorSignature) (start : ℕ) (info : ContractInfo N)
    (adaptorInfo : AdaptorInfo N) (cets : List Transaction) :
    (made info adaptorInfo cets).run K .parallel id pubkey script value adaptorSigs start =
      info.verifyAdaptorInfo K pubkey script value cets adaptorSigs start adaptorInfo := by
  obtain ⟨descriptor, announcements, threshold⟩ := info
  cases descriptor with
  | enum e => rfl
  | numerical n =>
      cases adaptorInfo with
      | enum => rfl
      | numerical trie =>
          simp only [run, AdaptorCheck.info, trieInfo, ContractInfo.verifyAdaptorInfo, bind_assoc,
            ok_bind, verifyHelperIn, id]
          rfl

end AdaptorCheck

section Walks
variable {K} {pubkey : PublicKey} {script : Bytes} {value : ℕ} {cets : List Transaction}
  {adaptorSigs : List AdaptorSignature}

/-- An enumerated info counts through the signatures. -/
theorem enumVerify_eq {e : EnumDescriptor} {oracleInfos : List OracleInfo} {threshold start : ℕ} :
    enumVerifyAdaptorInfo K e oracleInfos threshold pubkey script value cets adaptorSigs start = (do
      let required ← enumRequired K e oracleInfos threshold start
      required.forM (Required.verify K pubkey script value cets adaptorSigs)
      .ok (start + required.length)) := by
  simp only [enumVerifyAdaptorInfo, iterOutcomes, enumRequired, bind_assoc, ok_bind]
  refine bind_congr fun combos => ?_
  have counted := @foldlM_counts _ _ (fun (x : ℕ × Dlc.Result PublicKey) i =>
    Required.verify K pubkey script value cets adaptorSigs ⟨i, x.1, x.2⟩)
    (e.zipIdx.flatMap fun (x, i) => combos.map fun selector =>
      (i, enumAdaptorPoint K oracleInfos threshold x.outcome selector)) start
  simp only [Required.verify, bind_assoc, foldlM_flatMap, List.foldlM_map] at counted
  rw [counted, List.length_map, List.length_zipIdx]
  congr 1
  simp [Required.verify, List.forM_map]

theorem max?_eq_foldl {indexes : List ℕ} (some_ : indexes ≠ []) :
    indexes.max? = some (indexes.foldl max 0) := by
  cases indexes with
  | nil => exact absurd rfl some_
  | cons i indexes => rw [List.max?_cons', List.foldl_cons, Nat.zero_max]

theorem afterLargest_perm {required required' : List Required} (same : required.Perm required') :
    afterLargest required = afterLargest required' := by
  rw [afterLargest, afterLargest, (same.map _).foldl_eq]

theorem verifyHelperSequential_eq {points : List (List (List PublicKey))}
    {trieInfo : List TrieIterInfo} :
    verifyHelperSequential K pubkey script value cets adaptorSigs points trieInfo = (do
      (trieRequired K points trieInfo).forM (Required.verify K pubkey script value cets adaptorSigs)
      .ok (afterLargest (trieRequired K points trieInfo))) := by
  have largest : ∀ m, (trieInfo.foldlM (fun maxAdaptorIndex x => do
        let adaptorPoint ← ofDlc (getAdaptorPointForIndexedPaths K x.indexes x.paths points)
        let adaptorSig ← index adaptorSigs x.value.adaptorIndex
        let cet ← index cets x.value.cetIndex
        let maxAdaptorIndex := if x.value.adaptorIndex > maxAdaptorIndex then x.value.adaptorIndex
          else maxAdaptorIndex
        ofDlc (verifyCetAdaptorSigFromPoint K adaptorSig cet adaptorPoint pubkey script value)
        .ok maxAdaptorIndex) m : Result ℕ) = (do
      (trieRequired K points trieInfo).forM (Required.verify K pubkey script value cets adaptorSigs)
      .ok (((trieRequired K points trieInfo).map Required.adaptorIndex).foldl max m)) := by
    induction trieInfo with
    | nil => exact fun _ => rfl
    | cons x trieInfo ih =>
        intro m
        have turn : (trieRequired K points (x :: trieInfo)).forM
            (Required.verify K pubkey script value cets adaptorSigs) =
              (Required.verify K pubkey script value cets adaptorSigs _ >>= fun _ =>
                (trieRequired K points trieInfo).forM
                  (Required.verify K pubkey script value cets adaptorSigs)) := rfl
        simp only [List.foldlM_cons, turn, ih, Required.verify, bind_assoc, ok_bind]
        refine bind_congr fun point => bind_congr fun sig => bind_congr fun cet =>
          bind_congr fun _ => bind_congr fun _ => ?_
        have grows : (if x.value.adaptorIndex > m then x.value.adaptorIndex else m) =
            max m x.value.adaptorIndex := by
          split
          next larger => exact (max_eq_right larger.le).symm
          next not_ => exact (max_eq_left (not_lt.mp not_)).symm
        rw [grows]
        rfl
  rw [verifyHelperSequential, largest, bind_assoc]
  rfl

theorem trieRequired_forM {points : List (List (List PublicKey))} {trieInfo : List TrieIterInfo} :
    (trieRequired K points trieInfo).forM (Required.verify K pubkey script value cets adaptorSigs) =
      trieInfo.forM (@verifyEntry K pubkey script value cets adaptorSigs points) :=
  List.forM_map

/-- With the feature a trie of no entries has no largest index. -/
theorem verifyHelper_eq {points : List (List (List PublicKey))} {trieInfo : List TrieIterInfo} :
    verifyHelper K pubkey script value cets adaptorSigs points trieInfo = (do
      ensure (trieRequired K points trieInfo ≠ [])
        (.panic "called `Option::unwrap()` on a `None` value")
      (trieRequired K points trieInfo).forM (Required.verify K pubkey script value cets adaptorSigs)
      .ok (afterLargest (trieRequired K points trieInfo))) := by
  have indexes : trieInfo.map (·.value.adaptorIndex) =
      (trieRequired K points trieInfo).map Required.adaptorIndex := by
    simp [trieRequired]
  rw [verifyHelper, indexes]
  by_cases none : trieRequired K points trieInfo = []
  · rw [none]
    rfl
  · have some_ : (trieRequired K points trieInfo).map Required.adaptorIndex ≠ [] := by
      simpa using none
    rw [max?_eq_foldl some_, ensure, if_pos none, trieRequired_forM]
    rfl

end Walks

namespace AdaptorCheck
variable {K} {build : Build} {schedule : List TrieIterInfo → List TrieIterInfo}
  {pubkey : PublicKey} {script : Bytes} {value start next : ℕ}
  {adaptorSigs : List AdaptorSignature} {check : AdaptorCheck N}

variable (K build pubkey script value adaptorSigs) in
/-- No required signature is looked for outside of the list: none at all where the entries are
verified in parallel, else none up to the first that does not verify. -/
def Looks (check : AdaptorCheck N) (required : List Required) : Prop :=
  if build = .parallel ∧ check.isNumerical = true then
    required ≠ [] ∧ ∀ r ∈ required, r.Held check.cets adaptorSigs
  else Checked.UpTo (fun r => r.verify K pubkey script value check.cets adaptorSigs = .ok ())
    (Required.Held check.cets adaptorSigs) required

variable (K build pubkey script value adaptorSigs) in
def Covered (start : ℕ) (check : AdaptorCheck N) : Prop :=
  Avoids IsPanic (check.required K start) ∧ ∀ required, check.required K start = .ok required →
    check.Looks K build pubkey script value adaptorSigs required

theorem run_ok (permutes : ∀ l, (schedule l).Perm l) :
    check.run K build schedule pubkey script value adaptorSigs start = .ok next ↔
      ∃ required, check.required K start = .ok required ∧
        (build = .parallel → check.isNumerical = true → required ≠ []) ∧
        (∀ r ∈ required, r.verify K pubkey script value check.cets adaptorSigs = .ok ()) ∧
        next = check.after start required := by
  unfold run AdaptorCheck.required after isNumerical
  cases check.info.contractDescriptor with
  | enum e =>
      simp only [enumVerify_eq]
      rw [bind_eq_ok]
      simp only [forM_then_eq_ok]
      simp
  | numerical n =>
      simp only [bind_eq_ok, Prod.exists, Except.ok.injEq, if_true, true_implies]
      have helped : ∀ points trieInfo, verifyHelperIn K pubkey script value check.cets adaptorSigs
          points build schedule trieInfo = .ok next ↔
            (build = .parallel → trieRequired K points trieInfo ≠ []) ∧
            (∀ r ∈ trieRequired K points trieInfo,
              r.verify K pubkey script value check.cets adaptorSigs = .ok ()) ∧
            next = afterLargest (trieRequired K points trieInfo) := by
        intro points trieInfo
        cases build with
        | sequential =>
            rw [verifyHelperIn, verifyHelperSequential_eq, forM_then_eq_ok]
            simp
        | parallel =>
            have same : (trieRequired K points (schedule trieInfo)).Perm
                (trieRequired K points trieInfo) := (permutes trieInfo).map _
            have empty : trieRequired K points (schedule trieInfo) = [] ↔
                trieRequired K points trieInfo = [] := by
              rw [← List.length_eq_zero_iff, same.length_eq, List.length_eq_zero_iff]
            rw [verifyHelperIn, verifyHelper_eq, bind_eq_ok]
            simp only [ensure_eq_ok, exists_const, forM_then_eq_ok, true_implies, same.mem_iff,
              afterLargest_perm same, ne_eq, empty]
      constructor
      · rintro ⟨points, trieInfo, listed, ran⟩
        exact ⟨_, ⟨points, trieInfo, listed, rfl⟩, (helped points trieInfo).mp ran⟩
      · rintro ⟨_, ⟨points, trieInfo, listed, rfl⟩, holds⟩
        exact ⟨points, trieInfo, listed, (helped points trieInfo).mpr holds⟩

theorem forall_schedules_iff {P : Prop} :
    (∀ schedule : List TrieIterInfo → List TrieIterInfo, (∀ l, (schedule l).Perm l) → P) ↔ P :=
  ⟨fun scheduled => scheduled id List.Perm.refl, fun holds _ _ => holds⟩

/-- In parallel any of the entries may be the first to fail. -/
theorem avoids_verifyHelperIn {cets : List Transaction} {points : List (List (List PublicKey))}
    {trieInfo : List TrieIterInfo} :
    (∀ schedule, (∀ l, (schedule l).Perm l) → Avoids IsPanic
      (verifyHelperIn K pubkey script value cets adaptorSigs points build schedule trieInfo)) ↔
      if build = .parallel then trieRequired K points trieInfo ≠ [] ∧
        ∀ r ∈ trieRequired K points trieInfo, r.Held cets adaptorSigs
      else Checked.UpTo (fun r => r.verify K pubkey script value cets adaptorSigs = .ok ())
        (Required.Held cets adaptorSigs) (trieRequired K points trieInfo) := by
  cases build with
  | sequential =>
      simp only [verifyHelperIn, verifyHelperSequential_eq, reduceCtorEq, if_false]
      rw [forall_schedules_iff, avoids_forM_then, avoids_forM]
      simp only [Required.avoids_verify]
  | parallel =>
      have entries : ∀ infos, Avoids IsPanic
          (verifyHelper K pubkey script value cets adaptorSigs points infos) ↔
            trieRequired K points infos ≠ [] ∧
            Avoids IsPanic (infos.forM (@verifyEntry K pubkey script value cets adaptorSigs points)) := by
        intro infos
        rw [verifyHelper_eq, avoids_bind, avoids_ensure]
        simp only [isPanic_panic, true_implies, ensure_eq_ok, avoids_forM_then, trieRequired_forM]
        exact and_congr_right fun some_ => ⟨fun rest => rest () some_, fun rest _ _ => rest⟩
      have each : (∀ r ∈ trieRequired K points trieInfo, r.Held cets adaptorSigs) ↔
          ∀ x ∈ trieInfo, Avoids IsPanic
            (@verifyEntry K pubkey script value cets adaptorSigs points x) := by
        have held : ∀ r : Required, r.Held cets adaptorSigs ↔
            Avoids IsPanic (r.verify K pubkey script value cets adaptorSigs) := fun _ =>
          Required.avoids_verify.symm
        simp only [trieRequired, List.forall_mem_map, held]
        rfl
      simp only [verifyHelperIn, entries, if_true]
      rw [each, ← avoids_forM_perm]
      constructor
      · intro scheduled
        refine ⟨(scheduled id List.Perm.refl).1, fun order same => ?_⟩
        -- a schedule that takes just these entries in the given order
        have permutes : ∀ l, (if l = trieInfo then order else l).Perm l := by
          intro l
          split
          next this => exact this ▸ same
          next => exact List.Perm.refl l
        have answered := (scheduled (fun l => if l = trieInfo then order else l) permutes).2
        rwa [if_pos rfl] at answered
      · rintro ⟨some_, ordered⟩ schedule permutes
        refine ⟨fun none => some_ ?_, ordered _ (permutes trieInfo)⟩
        have same : (trieRequired K points (schedule trieInfo)).Perm
            (trieRequired K points trieInfo) := (permutes trieInfo).map _
        rw [none] at same
        exact List.nil_perm.mp same

/-- No schedule of the entries panics exactly when the required signatures are looked for within
the list. -/
theorem avoids_run :
    (∀ schedule, (∀ l, (schedule l).Perm l) →
      Avoids IsPanic (check.run K build schedule pubkey script value adaptorSigs start)) ↔
      check.Covered K build pubkey script value adaptorSigs start := by
  unfold run Covered AdaptorCheck.required Looks isNumerical
  cases check.info.contractDescriptor with
  | enum e =>
      simp only [enumVerify_eq, and_false, if_false, Bool.false_eq_true]
      rw [forall_schedules_iff, avoids_bind]
      refine and_congr_right fun _ => forall₂_congr fun required _ => ?_
      rw [avoids_forM_then, avoids_forM]
      simp only [Required.avoids_verify]
  | numerical n =>
      simp only [avoids_bind, Prod.forall, and_true, bind_eq_ok, Prod.exists, Except.ok.injEq,
        avoids_ok, implies_true]
      constructor
      · intro scheduled
        refine ⟨(scheduled id List.Perm.refl).1, ?_⟩
        rintro _ ⟨points, trieInfo, listed, rfl⟩
        exact avoids_verifyHelperIn.mp fun schedule permutes =>
          (scheduled schedule permutes).2 points trieInfo listed
      · rintro ⟨computed, looks⟩ schedule permutes
        refine ⟨computed, fun points trieInfo listed => ?_⟩
        exact avoids_verifyHelperIn.mpr (looks _ ⟨points, trieInfo, listed, rfl⟩) schedule permutes

end AdaptorCheck

/-! The infos of a contract, one after the other. -/

section Contract
variable (build : Build) (schedule : List TrieIterInfo → List TrieIterInfo) (pubkey : PublicKey)
  (script : Bytes) (value : ℕ) (adaptorSigs : List AdaptorSignature)

/-- The infos take their signatures one info after the other. -/
def verifyLists (start : ℕ) (checks : List (AdaptorCheck N)) : Result ℕ :=
  checks.foldlM (fun start check =>
    check.run K build schedule pubkey script value adaptorSigs start) start

/-- Every required signature is in the list and verifies. -/
def AllVerified : (start : ℕ) → List (AdaptorCheck N) → Prop
  | _, [] => True
  | start, check :: checks => ∃ required, check.required K start = .ok required ∧
      (∀ r ∈ required, r.verify K pubkey script value check.cets adaptorSigs = .ok ()) ∧
      AllVerified (check.after start required) checks

/-- Each info that is come to, after infos whose signatures all verify, is covered. -/
def AllCovered : (start : ℕ) → List (AdaptorCheck N) → Prop
  | _, [] => True
  | start, check :: checks => check.Covered K build pubkey script value adaptorSigs start ∧
      ∀ required, check.required K start = .ok required →
        (∀ r ∈ required, r.verify K pubkey script value check.cets adaptorSigs = .ok ()) →
        AllCovered (check.after start required) checks

end Contract

/-- An answer that goes by whether all signatures verify, and is no panic. -/
def Decides (verified : Prop) : Result ℕ → Prop
  | .ok _ => verified
  | .error (.err _) => ¬ verified
  | .error (.panic _) => False

section Contract
variable {K} {build : Build} {schedule : List TrieIterInfo → List TrieIterInfo}
  {pubkey : PublicKey} {script : Bytes} {value start next : ℕ}
  {cets : List Transaction} {adaptorSigs : List AdaptorSignature} {checks : List (AdaptorCheck N)}

theorem allVerified_of_ok (permutes : ∀ l, (schedule l).Perm l)
    (ran : verifyLists K build schedule pubkey script value adaptorSigs start checks = .ok next) :
    AllVerified K pubkey script value adaptorSigs start checks := by
  induction checks generalizing start with
  | nil => trivial
  | cons check checks ih =>
      rw [verifyLists, List.foldlM_cons] at ran
      obtain ⟨middle, step, rest⟩ := bind_eq_ok.mp ran
      obtain ⟨required, listed, _, verified, rfl⟩ := (AdaptorCheck.run_ok permutes).mp step
      exact ⟨required, listed, verified, ih rest⟩

theorem AllCovered.runs (permutes : ∀ l, (schedule l).Perm l)
    (covered : AllCovered K build pubkey script value adaptorSigs start checks)
    (verified : AllVerified K pubkey script value adaptorSigs start checks) :
    ∃ next, verifyLists K build schedule pubkey script value adaptorSigs start checks =
      .ok next := by
  induction checks generalizing start with
  | nil => exact ⟨start, rfl⟩
  | cons check checks ih =>
      obtain ⟨required, listed, each, later⟩ := verified
      obtain ⟨⟨_, looks⟩, goesOn⟩ := covered
      obtain ⟨next, rest⟩ := ih (goesOn required listed each) later
      have some_ : build = .parallel → check.isNumerical = true → required ≠ [] := by
        intro feature numerical
        have within := looks required listed
        rw [AdaptorCheck.Looks, if_pos ⟨feature, numerical⟩] at within
        exact within.1
      refine ⟨next, ?_⟩
      rw [verifyLists, List.foldlM_cons,
        (AdaptorCheck.run_ok permutes).mpr ⟨required, listed, some_, each, rfl⟩, ok_bind]
      exact rest

theorem avoids_verifyLists :
    (∀ schedule, (∀ l, (schedule l).Perm l) → Avoids IsPanic
      (verifyLists K build schedule pubkey script value adaptorSigs start checks)) ↔
      AllCovered K build pubkey script value adaptorSigs start checks := by
  induction checks generalizing start with
  | nil => simp [verifyLists, AllCovered]
  | cons check checks ih =>
      simp only [verifyLists, List.foldlM_cons, avoids_bind, AllCovered, ← AdaptorCheck.avoids_run,
        ← ih]
      constructor
      · intro answers
        have first : ∀ schedule, (∀ l, (schedule l).Perm l) → Avoids IsPanic
            (check.run K build schedule pubkey script value adaptorSigs start) :=
          fun schedule permutes => (answers schedule permutes).1
        refine ⟨first, fun required listed each schedule permutes => ?_⟩
        have looks := (AdaptorCheck.avoids_run.mp first).2 required listed
        have some_ : build = .parallel → check.isNumerical = true → required ≠ [] := by
          intro feature numerical
          rw [AdaptorCheck.Looks, if_pos ⟨feature, numerical⟩] at looks
          exact looks.1
        exact (answers schedule permutes).2 _
          ((AdaptorCheck.run_ok permutes).mpr ⟨required, listed, some_, each, rfl⟩)
      · rintro ⟨first, later⟩ schedule permutes
        refine ⟨first schedule permutes, fun middle step => ?_⟩
        obtain ⟨required, listed, _, each, rfl⟩ := (AdaptorCheck.run_ok permutes).mp step
        exact later required listed each schedule permutes

/-- A list of signatures is accepted when all required ones are there and verify and is refused
otherwise, without a panic, exactly when no verification that is come to looks outside of it. -/
theorem signature_lists_decided_iff (build : Build) (pubkey : PublicKey) (script : Bytes)
    (value : ℕ) (adaptorSigs : List AdaptorSignature) (start : ℕ)
    (checks : List (AdaptorCheck N)) :
    (∀ schedule, (∀ l, (schedule l).Perm l) →
      Decides (AllVerified K pubkey script value adaptorSigs start checks)
        (verifyLists K build schedule pubkey script value adaptorSigs start checks)) ↔
      AllCovered K build pubkey script value adaptorSigs start checks := by
  constructor
  · intro decided
    refine avoids_verifyLists.mp fun schedule permutes fault failed panics => ?_
    have answer := decided schedule permutes
    obtain ⟨message, rfl⟩ := panics
    rw [failed] at answer
    exact answer
  · intro covered schedule permutes
    have avoids := avoids_verifyLists.mpr covered schedule permutes
    cases ran : verifyLists K build schedule pubkey script value adaptorSigs start checks with
    | ok next => exact allVerified_of_ok permutes ran
    | error fault =>
        cases fault with
        | panic message => exact absurd isPanic_panic (avoids _ ran)
        | err e =>
            intro verified
            obtain ⟨next, accepted⟩ := covered.runs permutes verified
            rw [ran] at accepted
            cases accepted

/-- The CETs of one satoshi to either party. -/
def sampleListCets : List Transaction :=
  createCets ⟨⟨3, 0⟩, [], 0, []⟩ [1] 1 [2] 2 [⟨1, 0⟩, ⟨0, 1⟩] 0

/-- One oracle with two outcomes, and a list without any signature. -/
theorem empty_list_panics :
    (sampleEnumInfo 7 ⟨1, 0⟩ ⟨0, 1⟩).verifyAndGetAdaptorInfo sampleAdaptorCrypto 1 ⟨2⟩ [] 1
        sampleListCets [] 0 = .error (.panic "index out of bounds") ∧
      ∀ build, verifyLists sampleAdaptorCrypto build id ⟨2⟩ [] 1 [] 0
        [.making (sampleEnumInfo 7 ⟨1, 0⟩ ⟨0, 1⟩) 1 sampleListCets] =
          .error (.panic "index out of bounds") := by
  refine ⟨rfl, fun build => ?_⟩
  cases build with
  | sequential => decide +kernel
  | parallel => decide +kernel
/-! The lists of the messages. -/

section Messages
variable (order : List (List String × List ℕ) → List (List String × List ℕ))

/-- A list that comes with a signature message is taken with the adaptor infos at hand. -/
theorem verifyAdaptorInfos_eq (infos : List (AdaptorInfo N × ContractInfo N)) :
    @Internal.verifyAdaptorInfos (signingDescriptors K N order) pubkey script value cets adaptorSigs
        infos start =
      verifyLists K .parallel id pubkey script value adaptorSigs start
        (infos.map fun x => .made x.2 x.1 cets) := by
  simp only [Internal.verifyAdaptorInfos, verifyLists, List.foldlM_map, AdaptorCheck.run_made]
  rfl

/-- A list that comes with an acceptance is taken while the adaptor infos are made. -/
theorem verifyRemaining_eq {offered : OfferedContract (contractDescriptors K N order)}
    {acceptParams : PartyParams} {totalCollateral : ℕ} {cetInput : TxIn}
    {infos : List (contractDescriptors K N order).ContractInfo} {payouts : List (List Payout)}
    (paid : infos.mapM ((contractDescriptors K N order).getPayouts · totalCollateral) =
      .ok payouts) :
    (do let _ ← verifyRemaining offered acceptParams adaptorSigs script value
          totalCollateral cetInput infos start
        .ok () : Result Unit) = (do
      let _ ← verifyLists K .parallel id acceptParams.fundPubkey script value adaptorSigs start
        ((infos.zip payouts).map fun x => .making x.1 offered.totalCollateral (createCets cetInput
          offered.offerParams.payoutScriptPubkey offered.offerParams.payoutSerialId
          acceptParams.payoutScriptPubkey acceptParams.payoutSerialId x.2 0))
      .ok ()) := by
  have each := mapM_eq_ok.mp paid
  clear paid
  induction each generalizing start with
  | nil => rfl
  | @cons info payouts infos later head rest ih =>
      rw [verifyRemaining, head, ok_bind, List.zip_cons_cons, List.map_cons, verifyLists,
        List.foldlM_cons]
      have first := @AdaptorCheck.run_making K N acceptParams.fundPubkey script value adaptorSigs
        start info offered.totalCollateral (createCets cetInput
          offered.offerParams.payoutScriptPubkey offered.offerParams.payoutSerialId
          acceptParams.payoutScriptPubkey acceptParams.payoutSerialId payouts 0)
      rw [first]
      simp only [bind_assoc, ok_bind]
      exact bind_congr fun made => ih

end Messages

end Contract

end P2PLending.Manager.Infos
