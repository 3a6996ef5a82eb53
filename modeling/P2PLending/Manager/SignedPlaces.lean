import P2PLending.Foundation.CheckedLists
import P2PLending.Manager.ContractDescriptors
import Mathlib.Data.List.Perm.Basic

/-! What a contract info has signed, as a list of places: the index of a CET among
the info's own, and the adaptor point of an outcome that it pays. Signing,
verifying while the adaptor info is made, and verifying with it are all said over
this one list, for enumerated and numerical infos alike. -/

namespace P2PLending.Manager
open Dlc Checked

abbrev Place := ℕ × PublicKey

section Places
variable (K : AdaptorCrypto)

def signPlaces (cets : List Transaction) (sk : SecretKey) (script : Bytes) (value : ℕ)
    (places : List Place) : Result (List AdaptorSignature) :=
  places.mapM fun (c, point) => do
    let cet ← index cets c
    ofDlc (createCetAdaptorSigFromPoint K cet point sk script value)

/-- From `start` on, the signatures verify one place after the other. -/
def PlacesVerified (pubkey : PublicKey) (script : Bytes) (value : ℕ) (cets : List Transaction)
    (sigs : List AdaptorSignature) (start : ℕ) (places : List Place) : Prop :=
  ∀ i c point, places[i]? = some (c, point) → ∃ sig cet, sigs[start + i]? = some sig ∧
    cets[c]? = some cet ∧
    verifyCetAdaptorSigFromPoint K sig cet point pubkey script value = .ok ()

variable {K}

theorem placesVerified_cons {pubkey : PublicKey} {script : Bytes} {value start : ℕ}
    {cets : List Transaction} {sigs : List AdaptorSignature} {c : ℕ} {point : PublicKey}
    {places : List Place} :
    PlacesVerified K pubkey script value cets sigs start ((c, point) :: places) ↔
      (∃ sig cet, sigs[start]? = some sig ∧ cets[c]? = some cet ∧
        verifyCetAdaptorSigFromPoint K sig cet point pubkey script value = .ok ()) ∧
      PlacesVerified K pubkey script value cets sigs (start + 1) places := by
  constructor
  · intro verified
    refine ⟨verified 0 c point rfl, fun i c' point' listed => ?_⟩
    have later := verified (i + 1) c' point' listed
    rwa [Nat.add_comm i 1, ← Nat.add_assoc] at later
  · rintro ⟨first, later⟩ i c' point' listed
    match i with
    | 0 =>
        cases listed
        exact first
    | i + 1 =>
        have found := later i c' point' listed
        rwa [Nat.add_assoc, Nat.add_comm 1 i] at found

theorem signPlaces_length {cets : List Transaction} {sk : SecretKey} {script : Bytes} {value : ℕ}
    {places : List Place} {sigs : List AdaptorSignature}
    (signed : signPlaces K cets sk script value places = .ok sigs) :
    sigs.length = places.length :=
  (mapM_eq_ok.mp signed).length_eq.symm

end Places

namespace Infos
variable (K : AdaptorCrypto) {N : Numerics}

section Enum
variable (e : EnumDescriptor) (oracleInfos : List OracleInfo) (threshold : ℕ)

/-- Every outcome under every combination, with the index of the outcome. -/
def enumPlaces : Result (List Place) := do
  let combinations ← ofDlc (combinations oracleInfos.length threshold)
  (e.zipIdx.flatMap fun (x, i) => combinations.map fun selector => (x.outcome, i, selector)).mapM
    fun (outcome, i, selector) => do
      let adaptorPoint ← ofDlc (enumAdaptorPoint K oracleInfos threshold outcome selector)
      .ok (i, adaptorPoint)

variable {K e oracleInfos threshold}

theorem iterOutcomes_ok {σ : Type} {callback : σ → PublicKey → ℕ → Result σ} {init last : σ} :
    iterOutcomes K e oracleInfos threshold callback init = .ok last ↔
      ∃ places, enumPlaces K e oracleInfos threshold = .ok places ∧
        places.foldlM (fun s place => callback s place.2 place.1) init = .ok last := by
  simp only [iterOutcomes, enumPlaces, bind_eq_ok]
  constructor
  · rintro ⟨all, listed, folded⟩
    have flat : (e.zipIdx.flatMap fun (x, i) => all.map fun selector =>
        (x.outcome, i, selector)).foldlM (fun s x => do
          let place ← (do
            let adaptorPoint ← ofDlc (enumAdaptorPoint K oracleInfos threshold x.1 x.2.2)
            .ok (x.2.1, adaptorPoint) : Result Place)
          callback s place.2 place.1) init = .ok last := by
      rw [foldlM_flatMap]
      simpa only [List.foldlM_map, bind_assoc, ok_bind] using folded
    obtain ⟨places, mapped, folded⟩ := foldlM_bind_ok.mp flat
    exact ⟨places, ⟨all, listed, mapped⟩, folded⟩
  · rintro ⟨places, ⟨all, listed, mapped⟩, folded⟩
    refine ⟨all, listed, ?_⟩
    have flat := foldlM_bind_ok.mpr ⟨places, mapped, folded⟩
    rw [foldlM_flatMap] at flat
    simpa only [List.foldlM_map, bind_assoc, ok_bind] using flat

theorem enumGetAdaptorSignatures_ok {cets : List Transaction} {sk : SecretKey} {script : Bytes}
    {value : ℕ} {sigs : List AdaptorSignature} :
    enumGetAdaptorSignatures K e oracleInfos threshold cets sk script value = .ok sigs ↔
      ∃ places, enumPlaces K e oracleInfos threshold = .ok places ∧
        signPlaces K cets sk script value places = .ok sigs := by
  rw [enumGetAdaptorSignatures, iterOutcomes_ok]
  refine exists_congr fun places => and_congr_right fun _ => ?_
  have pushes := @foldlM_push_ok _ _ _ (fun place : Place => do
    let cet ← index cets place.1
    ofDlc (createCetAdaptorSigFromPoint K cet place.2 sk script value)) places [] sigs
  simp only [bind_assoc, List.nil_append] at pushes
  rw [pushes]
  simp [signPlaces]

theorem verifyPlaces_ok {pubkey : PublicKey} {script : Bytes} {value start next : ℕ}
    {cets : List Transaction} {sigs : List AdaptorSignature} {places : List Place} :
    places.foldlM (fun start place => do
        let sig ← index sigs start
        let cet ← index cets place.1
        ofDlc (verifyCetAdaptorSigFromPoint K sig cet place.2 pubkey script value)
        .ok (start + 1)) start = .ok next ↔
      next = start + places.length ∧ PlacesVerified K pubkey script value cets sigs start places := by
  induction places generalizing start with
  | nil => simp [PlacesVerified, eq_comm]
  | cons place places ih =>
      rw [List.foldlM_cons, bind_eq_ok, placesVerified_cons]
      simp only [bind_eq_ok, index_eq_ok, ofDlc_eq_ok]
      constructor
      · rintro ⟨start', ⟨sig, sigAt, cet, cetAt, _, verified, stepped⟩, rest⟩
        cases stepped
        obtain ⟨rfl, later⟩ := ih.mp rest
        refine ⟨?_, ⟨sig, cet, sigAt, cetAt, verified⟩, later⟩
        rw [List.length_cons]
        omega
      · rintro ⟨rfl, ⟨sig, cet, sigAt, cetAt, verified⟩, later⟩
        refine ⟨start + 1, ⟨sig, sigAt, cet, cetAt, (), verified, rfl⟩, ih.mpr ⟨?_, later⟩⟩
        rw [List.length_cons]
        omega

theorem enumVerifyAdaptorInfo_ok {pubkey : PublicKey} {script : Bytes} {value start next : ℕ}
    {cets : List Transaction} {sigs : List AdaptorSignature} :
    enumVerifyAdaptorInfo K e oracleInfos threshold pubkey script value cets sigs start = .ok next ↔
      ∃ places, enumPlaces K e oracleInfos threshold = .ok places ∧
        next = start + places.length ∧
        PlacesVerified K pubkey script value cets sigs start places := by
  rw [enumVerifyAdaptorInfo, iterOutcomes_ok]
  exact exists_congr fun places => and_congr_right fun _ => verifyPlaces_ok

end Enum

/-- What the manager relies on in a trie and a payout curve: a curve has a range,
a trie gives each of its entries the next signature index, from any start, and
keeps them, and a look-up answers with an entry of the trie. -/
structure Numerics.Lawful (N : Numerics) : Prop where
  ranges_nonempty : ∀ {d total ranges}, N.getRangePayouts d total = .ok ranges → ranges ≠ []
  consecutive : ∀ {trie start ranges trie' infos},
    N.generate trie start ranges = .ok (trie', infos) →
      infos.map (·.value.adaptorIndex) = List.range' start infos.length
  nonempty : ∀ {trie start ranges trie' infos},
    N.generate trie start ranges = .ok (trie', infos) → ranges ≠ [] → infos ≠ []
  inRange : ∀ {trie start ranges trie' infos},
    N.generate trie start ranges = .ok (trie', infos) →
      ∀ x ∈ infos, x.value.cetIndex < ranges.length
  shifts : ∀ {trie start ranges trie' infos},
    N.generate trie start ranges = .ok (trie', infos) → ∀ start', ∃ trie'' infos',
      N.generate trie start' ranges = .ok (trie'', infos') ∧
      infos'.map (fun x => (x.indexes, x.paths, x.value.cetIndex)) =
        infos.map fun x => (x.indexes, x.paths, x.value.cetIndex)
  keeps : ∀ {trie start ranges trie' infos},
    N.generate trie start ranges = .ok (trie', infos) → (N.iter trie').Perm infos
  found : ∀ {trie start ranges trie' infos digits value paths},
    N.generate trie start ranges = .ok (trie', infos) →
    N.lookUp trie' digits = some (value, paths) →
      ∃ x ∈ infos, x.value = value ∧ x.indexes = paths.map Prod.fst ∧
        x.paths = paths.map Prod.snd

theorem sampleNumerics_lawful : sampleNumerics.Lawful where
  ranges_nonempty {d} := d.elim
  consecutive {trie} := trie.elim
  nonempty {trie} := trie.elim
  inRange {trie} := trie.elim
  shifts {trie} := trie.elim
  keeps {trie} := trie.elim
  found {trie} := trie.elim

section Trie

def triePlaces (precomputedPoints : List (List (List PublicKey))) (trieInfo : List TrieIterInfo) :
    Result (List Place) :=
  trieInfo.mapM fun x => do
    let adaptorPoint ← ofDlc (getAdaptorPointForIndexedPaths K x.indexes x.paths precomputedPoints)
    .ok (x.value.cetIndex, adaptorPoint)

variable {K} {points : List (List (List PublicKey))} {infos : List TrieIterInfo} {start : ℕ}
  {script : Bytes} {value : ℕ} {cets : List Transaction}

theorem triePlaces_cons {x : TrieIterInfo} {places : List Place} :
    triePlaces K points (x :: infos) = .ok places ↔ ∃ adaptorPoint rest,
      getAdaptorPointForIndexedPaths K x.indexes x.paths points = .ok adaptorPoint ∧
      triePlaces K points infos = .ok rest ∧
      places = (x.value.cetIndex, adaptorPoint) :: rest := by
  simp only [triePlaces, mapM_eq_ok, List.forall₂_cons_left_iff, bind_eq_ok, ofDlc_eq_ok,
    Except.ok.injEq]
  constructor
  · rintro ⟨place, rest, ⟨adaptorPoint, found, rfl⟩, later, rfl⟩
    exact ⟨adaptorPoint, rest, found, later, rfl⟩
  · rintro ⟨adaptorPoint, rest, found, later, rfl⟩
    exact ⟨_, rest, ⟨adaptorPoint, found, rfl⟩, later, rfl⟩

/-- The step of `sign_helper`: a signature with its index. -/
def signEntry (cets : List Transaction) (sk : SecretKey) (script : Bytes) (value : ℕ)
    (points : List (List (List PublicKey))) (x : TrieIterInfo) : Result (ℕ × AdaptorSignature) := do
  let adaptorPoint ← ofDlc (getAdaptorPointForIndexedPaths K x.indexes x.paths points)
  let cet ← index cets x.value.cetIndex
  let sig ← ofDlc (createCetAdaptorSigFromPoint K cet adaptorPoint sk script value)
  .ok (x.value.adaptorIndex, sig)

theorem signEntry_fst {sk : SecretKey} {x : TrieIterInfo} {entry : ℕ × AdaptorSignature}
    (signed : signEntry (K := K) cets sk script value points x = .ok entry) :
    entry.1 = x.value.adaptorIndex := by
  simp only [signEntry, bind_eq_ok, Except.ok.injEq] at signed
  obtain ⟨_, _, _, _, _, _, rfl⟩ := signed
  rfl

theorem signEntries_ok {sk : SecretKey} {sigs : List AdaptorSignature} :
    (∃ entries, infos.mapM (signEntry (K := K) cets sk script value points) = .ok entries ∧
        sigs = entries.map Prod.snd) ↔
      ∃ places, triePlaces K points infos = .ok places ∧
        signPlaces K cets sk script value places = .ok sigs := by
  induction infos generalizing sigs with
  | nil => simp [triePlaces, signPlaces]
  | cons x infos ih =>
      simp only [triePlaces_cons, mapM_eq_ok, List.forall₂_cons_left_iff, signPlaces] at ih ⊢
      constructor
      · rintro ⟨_, ⟨entry, entries, signed, later, rfl⟩, rfl⟩
        simp only [signEntry, bind_eq_ok, ofDlc_eq_ok, Except.ok.injEq] at signed
        obtain ⟨adaptorPoint, found, cet, cetAt, sig, created, rfl⟩ := signed
        obtain ⟨places, listed, related⟩ := ih.mp ⟨entries, later, rfl⟩
        refine ⟨_, ⟨adaptorPoint, places, found, listed, rfl⟩, .cons ?_ related⟩
        simp only [bind_eq_ok, ofDlc_eq_ok]
        exact ⟨cet, cetAt, created⟩
      · rintro ⟨_, ⟨adaptorPoint, places, found, listed, rfl⟩, related⟩
        cases related with
        | cons created related =>
            simp only [bind_eq_ok, ofDlc_eq_ok] at created
            obtain ⟨cet, cetAt, created⟩ := created
            obtain ⟨entries, later, rfl⟩ := ih.mpr ⟨places, listed, related⟩
            refine ⟨_, ⟨(x.value.adaptorIndex, _), entries, ?_, later, rfl⟩, rfl⟩
            simp only [signEntry, bind_eq_ok, ofDlc_eq_ok, Except.ok.injEq]
            exact ⟨adaptorPoint, found, cet, cetAt, _, created, rfl⟩

/-- Entries with distinct indexes are sorted in one way. -/
theorem mergeSort_entries {unsorted sorted : List (ℕ × AdaptorSignature)} {count : ℕ}
    (same : unsorted.Perm sorted) (consecutive : sorted.map Prod.fst = List.range' start count) :
    (unsorted.mergeSort fun a b => a.1 ≤ b.1) = sorted := by
  have ordered : sorted.Pairwise fun a b => a.1 < b.1 := by
    have increasing := consecutive ▸ List.pairwise_lt_range' (s := start) (n := count)
    exact List.pairwise_map.mp increasing
  have distinct : (sorted.map Prod.fst).Nodup := by
    rw [consecutive]
    exact List.nodup_range'
  have permuted := (List.mergeSort_perm unsorted fun a b => a.1 ≤ b.1).trans same
  have sorts : (unsorted.mergeSort fun a b => a.1 ≤ b.1).Pairwise
      fun a b => decide (a.1 ≤ b.1) = true := by
    refine List.pairwise_mergeSort (fun a b c below above => ?_) (fun a b => ?_) unsorted
    · simp only [decide_eq_true_eq] at below above ⊢
      exact below.trans above
    · simpa using Nat.le_total a.1 b.1
  have ordered' : sorted.Pairwise fun a b => decide (a.1 ≤ b.1) = true :=
    ordered.imp fun below => decide_eq_true below.le
  refine List.Perm.eq_of_pairwise ?_ sorts ordered' permuted
  intro a b listed listed' below above
  exact List.inj_on_of_nodup_map distinct (permuted.subset listed) listed'
    (le_antisymm (of_decide_eq_true below) (of_decide_eq_true above))

/-- Signatures made in any order of the entries come out in the order of their
indexes. -/
theorem signHelper_ok {visited : List TrieIterInfo} {sk : SecretKey}
    {sigs : List AdaptorSignature}
    (consecutive : infos.map (·.value.adaptorIndex) = List.range' start infos.length)
    (same : visited.Perm infos) :
    signHelper K cets sk script value points visited = .ok sigs ↔
      ∃ places, triePlaces K points infos = .ok places ∧
        signPlaces K cets sk script value places = .ok sigs := by
  have sorts : ∀ {unsorted sorted : List (ℕ × AdaptorSignature)}, unsorted.Perm sorted →
      infos.mapM (signEntry (K := K) cets sk script value points) = .ok sorted →
      (unsorted.mergeSort fun a b => a.1 ≤ b.1) = sorted := by
    intro unsorted sorted permuted signed
    have indexes : sorted.map Prod.fst = infos.map (·.value.adaptorIndex) := by
      have related := (mapM_eq_ok.mp signed).imp fun _ _ => signEntry_fst
      clear signed permuted consecutive same
      induction related with
      | nil => rfl
      | cons head _ ih => rw [List.map_cons, List.map_cons, head, ih]
    exact mergeSort_entries permuted (indexes.trans consecutive)
  rw [← signEntries_ok]
  simp only [signHelper, bind_eq_ok]
  constructor
  · rintro ⟨unsorted, signed, made⟩
    obtain ⟨sorted, related, permuted⟩ :=
      List.perm_comp_forall₂ same.symm (mapM_eq_ok.mp signed)
    have signed' := mapM_eq_ok.mpr related
    rw [sorts permuted.symm signed'] at made
    exact ⟨sorted, signed', (Except.ok.inj made).symm⟩
  · rintro ⟨sorted, signed, rfl⟩
    obtain ⟨unsorted, related, permuted⟩ := List.perm_comp_forall₂ same (mapM_eq_ok.mp signed)
    exact ⟨unsorted, mapM_eq_ok.mpr related, by rw [sorts permuted signed]⟩

/-- The step of `verify_helper`. -/
def verifyEntry (pubkey : PublicKey) (script : Bytes) (value : ℕ) (cets : List Transaction)
    (sigs : List AdaptorSignature) (points : List (List (List PublicKey))) (x : TrieIterInfo) :
    Result Unit := do
  let adaptorPoint ← ofDlc (getAdaptorPointForIndexedPaths K x.indexes x.paths points)
  let sig ← index sigs x.value.adaptorIndex
  let cet ← index cets x.value.cetIndex
  ofDlc (verifyCetAdaptorSigFromPoint K sig cet adaptorPoint pubkey script value)

theorem verifyEntries_ok {pubkey : PublicKey} {sigs : List AdaptorSignature}
    (consecutive : infos.map (·.value.adaptorIndex) = List.range' start infos.length) :
    (∀ x ∈ infos, verifyEntry (K := K) pubkey script value cets sigs points x = .ok ()) ↔
      ∃ places, triePlaces K points infos = .ok places ∧
        PlacesVerified K pubkey script value cets sigs start places := by
  induction infos generalizing start with
  | nil => simp [triePlaces, PlacesVerified]
  | cons x infos ih =>
      rw [List.map_cons, List.length_cons, List.range'_succ, List.cons.injEq] at consecutive
      rw [List.forall_mem_cons, ih consecutive.2]
      simp only [triePlaces_cons, verifyEntry, bind_eq_ok, ofDlc_eq_ok, index_eq_ok,
        consecutive.1]
      constructor
      · rintro ⟨⟨adaptorPoint, found, sig, sigAt, cet, cetAt, verified⟩, places, listed, later⟩
        exact ⟨_, ⟨adaptorPoint, places, found, listed, rfl⟩,
          placesVerified_cons.mpr ⟨⟨sig, cet, sigAt, cetAt, verified⟩, later⟩⟩
      · rintro ⟨_, ⟨adaptorPoint, places, found, listed, rfl⟩, verified⟩
        obtain ⟨⟨sig, cet, sigAt, cetAt, verified⟩, later⟩ := placesVerified_cons.mp verified
        exact ⟨⟨adaptorPoint, found, sig, sigAt, cet, cetAt, verified⟩, places, listed, later⟩

theorem max_consecutive {visited : List TrieIterInfo}
    (consecutive : infos.map (·.value.adaptorIndex) = List.range' start infos.length)
    (nonempty : infos ≠ []) (same : visited.Perm infos) :
    (visited.map (·.value.adaptorIndex)).max? = some (start + infos.length - 1) := by
  have indexes : ∀ i, i ∈ visited.map (·.value.adaptorIndex) ↔
      start ≤ i ∧ i < start + infos.length := by
    intro i
    rw [(same.map _).mem_iff, consecutive, List.mem_range'_1]
  have some_ : 0 < infos.length := List.length_pos_iff.mpr nonempty
  rw [List.max?_eq_some_iff, indexes]
  refine ⟨by omega, fun i listed => ?_⟩
  have bounds := (indexes i).mp listed
  omega

/-- The entries verify against the signatures from `start` on. -/
theorem verifyHelper_ok {visited : List TrieIterInfo} {pubkey : PublicKey} {next : ℕ}
    {sigs : List AdaptorSignature}
    (consecutive : infos.map (·.value.adaptorIndex) = List.range' start infos.length)
    (nonempty : infos ≠ []) (same : visited.Perm infos) :
    verifyHelper K pubkey script value cets sigs points visited = .ok next ↔
      ∃ places, triePlaces K points infos = .ok places ∧ next = start + places.length ∧
        PlacesVerified K pubkey script value cets sigs start places := by
  have some_ : 0 < infos.length := List.length_pos_iff.mpr nonempty
  have lengths : ∀ {places}, triePlaces K points infos = .ok places →
      places.length = infos.length := fun listed => (mapM_eq_ok.mp listed).length_eq.symm
  have entries : visited.forM (verifyEntry (K := K) pubkey script value cets sigs points) =
      .ok () ↔ ∃ places, triePlaces K points infos = .ok places ∧
        PlacesVerified K pubkey script value cets sigs start places := by
    rw [forM_eq_ok, ← verifyEntries_ok consecutive]
    exact forall_congr' fun x => by rw [same.mem_iff]
  have helper : verifyHelper K pubkey script value cets sigs points visited = .ok next ↔
      visited.forM (verifyEntry (K := K) pubkey script value cets sigs points) = .ok () ∧
        next = start + infos.length := by
    rw [verifyHelper, max_consecutive consecutive nonempty same]
    simp only [unwrapSome, ok_bind, bind_eq_ok, Except.ok.injEq]
    constructor
    · rintro ⟨_, verified, rfl⟩
      exact ⟨verified, by omega⟩
    · rintro ⟨verified, rfl⟩
      exact ⟨(), verified, by omega⟩
  rw [helper, entries]
  constructor
  · rintro ⟨⟨places, listed, verified⟩, rfl⟩
    exact ⟨places, listed, by rw [lengths listed], verified⟩
  · rintro ⟨places, listed, rfl, verified⟩
    exact ⟨⟨places, listed, verified⟩, by rw [lengths listed]⟩

end Trie

section Info
variable {K} {info : ContractInfo N} {total start : ℕ} {script : Bytes} {value : ℕ}
  {cets : List Transaction} {sigs : List AdaptorSignature}

variable (K) in
/-- The adaptor info and the places of an info whose signatures begin at `start`. -/
def ContractInfo.places (info : ContractInfo N) (total start : ℕ) :
    Result (AdaptorInfo N × List Place) :=
  match info.contractDescriptor with
  | .enum e => do
      let places ← enumPlaces K e info.getOracleInfos info.threshold
      .ok (.enum, places)
  | .numerical n => do
      let points ← info.precomputePoints K
      let trie ← ofDlc (N.newTrie n info.threshold)
      let ranges ← N.getRangePayouts n total
      let (trie, trieInfo) ← ofDlc (N.generate trie start ranges)
      let places ← triePlaces K points trieInfo
      .ok (.numerical trie, places)

theorem places_enum {e : EnumDescriptor} (described : info.contractDescriptor = .enum e)
    {adaptorInfo : AdaptorInfo N} {places : List Place} :
    info.places K total start = .ok (adaptorInfo, places) ↔
      adaptorInfo = .enum ∧ enumPlaces K e info.getOracleInfos info.threshold = .ok places := by
  simp only [ContractInfo.places, described, bind_eq_ok, Except.ok.injEq, Prod.mk.injEq]
  constructor
  · rintro ⟨_, listed, rfl, rfl⟩
    exact ⟨rfl, listed⟩
  · rintro ⟨rfl, listed⟩
    exact ⟨_, listed, rfl, rfl⟩

theorem places_numerical {n : N.Descriptor} (described : info.contractDescriptor = .numerical n)
    {adaptorInfo : AdaptorInfo N} {places : List Place} :
    info.places K total start = .ok (adaptorInfo, places) ↔
      ∃ points trie ranges trie' trieInfo, info.precomputePoints K = .ok points ∧
        N.newTrie n info.threshold = .ok trie ∧ N.getRangePayouts n total = .ok ranges ∧
        N.generate trie start ranges = .ok (trie', trieInfo) ∧
        triePlaces K points trieInfo = .ok places ∧ adaptorInfo = .numerical trie' := by
  simp only [ContractInfo.places, described, bind_eq_ok, ofDlc_eq_ok, Except.ok.injEq,
    Prod.mk.injEq, Prod.exists]
  constructor
  · rintro ⟨points, computed, trie, created, ranges, curve, trie', trieInfo, generated, _, listed,
      rfl, rfl⟩
    exact ⟨points, trie, ranges, trie', trieInfo, computed, created, curve, generated, listed, rfl⟩
  · rintro ⟨points, trie, ranges, trie', trieInfo, computed, created, curve, generated, listed, rfl⟩
    exact ⟨points, computed, trie, created, ranges, curve, trie', trieInfo, generated, _, listed,
      rfl, rfl⟩

/-- Only the adaptor info depends on where the signatures begin. -/
theorem places_anywhere (lawful : N.Lawful) {adaptorInfo : AdaptorInfo N} {places : List Place}
    (placed : info.places K total start = .ok (adaptorInfo, places)) (start' : ℕ) :
    ∃ adaptorInfo', info.places K total start' = .ok (adaptorInfo', places) := by
  match described : info.contractDescriptor with
  | .enum e =>
      obtain ⟨rfl, listed⟩ := (places_enum described).mp placed
      exact ⟨.enum, (places_enum described).mpr ⟨rfl, listed⟩⟩
  | .numerical n =>
      obtain ⟨points, trie, ranges, trie', trieInfo, computed, created, curve, generated, listed,
        rfl⟩ := (places_numerical described).mp placed
      obtain ⟨trie'', trieInfo', generated', same⟩ := lawful.shifts generated start'
      have through : ∀ infos, triePlaces K points infos =
          (infos.map fun x => (x.indexes, x.paths, x.value.cetIndex)).mapM
            fun (indexes, paths, cetIndex) => (do
              let adaptorPoint ← ofDlc (getAdaptorPointForIndexedPaths K indexes paths points)
              .ok (cetIndex, adaptorPoint) : Result Place) := by
        intro infos
        rw [List.mapM_map]
        rfl
      rw [through, ← same, ← through] at listed
      exact ⟨.numerical trie'', (places_numerical described).mpr ⟨points, trie, ranges, trie'',
        trieInfo', computed, created, curve, generated', listed, rfl⟩⟩

theorem getAdaptorInfo_ok (lawful : N.Lawful) {sk : SecretKey} {adaptorInfo : AdaptorInfo N} :
    info.getAdaptorInfo K total sk script value cets start = .ok (adaptorInfo, sigs) ↔
      ∃ places, info.places K total start = .ok (adaptorInfo, places) ∧
        signPlaces K cets sk script value places = .ok sigs := by
  match described : info.contractDescriptor with
  | .enum e =>
      simp only [ContractInfo.getAdaptorInfo, described, bind_eq_ok, enumGetAdaptorSignatures_ok,
        places_enum described, Except.ok.injEq, Prod.mk.injEq]
      constructor
      · rintro ⟨_, ⟨places, listed, signed⟩, rfl, rfl⟩
        exact ⟨places, ⟨rfl, listed⟩, signed⟩
      · rintro ⟨places, ⟨rfl, listed⟩, signed⟩
        exact ⟨_, ⟨places, listed, signed⟩, rfl, rfl⟩
  | .numerical n =>
      simp only [ContractInfo.getAdaptorInfo, described, bind_eq_ok, ofDlc_eq_ok,
        places_numerical described, Except.ok.injEq, Prod.mk.injEq, Prod.exists]
      constructor
      · rintro ⟨points, computed, trie, created, ranges, curve, trie', trieInfo, generated, _,
          made, rfl, rfl⟩
        obtain ⟨places, listed, signed⟩ :=
          (signHelper_ok (lawful.consecutive generated) (List.Perm.refl _)).mp made
        exact ⟨places, ⟨points, trie, ranges, trie', trieInfo, computed, created, curve, generated,
          listed, rfl⟩, signed⟩
      · rintro ⟨places, ⟨points, trie, ranges, trie', trieInfo, computed, created, curve, generated,
          listed, rfl⟩, signed⟩
        exact ⟨points, computed, trie, created, ranges, curve, trie', trieInfo, generated, _,
          (signHelper_ok (lawful.consecutive generated) (List.Perm.refl _)).mpr
            ⟨places, listed, signed⟩, rfl, rfl⟩

theorem verifyAndGetAdaptorInfo_ok (lawful : N.Lawful) {pubkey : PublicKey} {next : ℕ}
    {adaptorInfo : AdaptorInfo N} :
    info.verifyAndGetAdaptorInfo K total pubkey script value cets sigs start =
        .ok (adaptorInfo, next) ↔
      ∃ places, info.places K total start = .ok (adaptorInfo, places) ∧
        next = start + places.length ∧
        PlacesVerified K pubkey script value cets sigs start places := by
  match described : info.contractDescriptor with
  | .enum e =>
      simp only [ContractInfo.verifyAndGetAdaptorInfo, described, bind_eq_ok,
        enumVerifyAdaptorInfo_ok, places_enum described, Except.ok.injEq, Prod.mk.injEq]
      constructor
      · rintro ⟨_, ⟨places, listed, rfl, verified⟩, rfl, rfl⟩
        exact ⟨places, ⟨rfl, listed⟩, rfl, verified⟩
      · rintro ⟨places, ⟨rfl, listed⟩, rfl, verified⟩
        exact ⟨_, ⟨places, listed, rfl, verified⟩, rfl, rfl⟩
  | .numerical n =>
      simp only [ContractInfo.verifyAndGetAdaptorInfo, described, bind_eq_ok, ofDlc_eq_ok,
        places_numerical described, Except.ok.injEq, Prod.mk.injEq, Prod.exists]
      constructor
      · rintro ⟨points, computed, trie, created, ranges, curve, trie', trieInfo, generated, _,
          checked, rfl, rfl⟩
        have nonempty := lawful.nonempty generated (lawful.ranges_nonempty curve)
        obtain ⟨places, listed, rfl, verified⟩ := (verifyHelper_ok
          (lawful.consecutive generated) nonempty (List.Perm.refl _)).mp checked
        exact ⟨places, ⟨points, trie, ranges, trie', trieInfo, computed, created, curve, generated,
          listed, rfl⟩, rfl, verified⟩
      · rintro ⟨places, ⟨points, trie, ranges, trie', trieInfo, computed, created, curve, generated,
          listed, rfl⟩, rfl, verified⟩
        have nonempty := lawful.nonempty generated (lawful.ranges_nonempty curve)
        exact ⟨points, computed, trie, created, ranges, curve, trie', trieInfo, generated, _,
          (verifyHelper_ok (lawful.consecutive generated) nonempty (List.Perm.refl _)).mpr
            ⟨places, listed, rfl, verified⟩, rfl, rfl⟩

theorem getAdaptorSignatures_ok (lawful : N.Lawful) {signer : ContractSigner}
    {adaptorInfo : AdaptorInfo N} {places : List Place}
    (placed : info.places K total start = .ok (adaptorInfo, places)) :
    info.getAdaptorSignatures K adaptorInfo signer script value cets = .ok sigs ↔
      ∃ sk, signer.secretKey = .ok sk ∧ signPlaces K cets sk script value places = .ok sigs := by
  match described : info.contractDescriptor with
  | .enum e =>
      obtain ⟨rfl, listed⟩ := (places_enum described).mp placed
      simp only [ContractInfo.getAdaptorSignatures, described, bind_eq_ok,
        enumGetAdaptorSignatures_ok]
      constructor
      · rintro ⟨sk, secret, places', listed', signed⟩
        cases listed.symm.trans listed'
        exact ⟨sk, secret, signed⟩
      · rintro ⟨sk, secret, signed⟩
        exact ⟨sk, secret, places, listed, signed⟩
  | .numerical n =>
      obtain ⟨points, trie, ranges, trie', trieInfo, computed, _, _, generated, listed, rfl⟩ :=
        (places_numerical described).mp placed
      have signing : ∀ sk, signHelper K cets sk script value points (N.iter trie') = .ok sigs ↔
          ∃ places, triePlaces K points trieInfo = .ok places ∧
            signPlaces K cets sk script value places = .ok sigs :=
        fun sk => signHelper_ok (lawful.consecutive generated) (lawful.keeps generated)
      simp only [ContractInfo.getAdaptorSignatures, bind_eq_ok, computed, Except.ok.injEq,
        exists_eq_left', signing]
      constructor
      · rintro ⟨sk, secret, places', listed', signed⟩
        cases listed.symm.trans listed'
        exact ⟨sk, secret, signed⟩
      · rintro ⟨sk, secret, signed⟩
        exact ⟨sk, secret, places, listed, signed⟩

theorem verifyAdaptorInfo_ok (lawful : N.Lawful) {pubkey : PublicKey} {next : ℕ}
    {adaptorInfo : AdaptorInfo N} {places : List Place}
    (placed : info.places K total start = .ok (adaptorInfo, places)) :
    info.verifyAdaptorInfo K pubkey script value cets sigs start adaptorInfo = .ok next ↔
      next = start + places.length ∧
        PlacesVerified K pubkey script value cets sigs start places := by
  match described : info.contractDescriptor with
  | .enum e =>
      obtain ⟨rfl, listed⟩ := (places_enum described).mp placed
      simp only [ContractInfo.verifyAdaptorInfo, described, enumVerifyAdaptorInfo_ok, listed,
        Except.ok.injEq, exists_eq_left']
  | .numerical n =>
      obtain ⟨points, trie, ranges, trie', trieInfo, computed, _, curve, generated, listed, rfl⟩ :=
        (places_numerical described).mp placed
      have nonempty := lawful.nonempty generated (lawful.ranges_nonempty curve)
      simp only [ContractInfo.verifyAdaptorInfo, described, computed, ok_bind,
        verifyHelper_ok (lawful.consecutive generated) nonempty (lawful.keeps generated), listed,
        Except.ok.injEq, exists_eq_left']

end Info

end Infos

/-- Descriptors with the check of a signature message. -/
structure SigningDescriptors extends Descriptors where
  verifyAdaptorInfo : ContractInfo → (fundPubkey : PublicKey) → (script : Bytes) → (value : ℕ) →
    (cets : List Transaction) → (adaptorSigs : List AdaptorSignature) → (adaptorSigStart : ℕ) →
    AdaptorInfo → Result ℕ

/-- The descriptors sign and verify their infos place by place. -/
structure SigningDescriptors.PlacedBy (E : SigningDescriptors) (K : AdaptorCrypto)
    (places : E.ContractInfo → (total start : ℕ) → Result (E.AdaptorInfo × List Place)) : Prop where
  getAdaptorInfo : ∀ {info total sk script value cets start adaptorInfo sigs},
    E.getAdaptorInfo info total sk script value cets start = .ok (adaptorInfo, sigs) ↔
      ∃ ps, places info total start = .ok (adaptorInfo, ps) ∧
        signPlaces K cets sk script value ps = .ok sigs
  verifyAndGetAdaptorInfo :
    ∀ {info total pubkey script value cets sigs start adaptorInfo next},
      E.verifyAndGetAdaptorInfo info total pubkey script value cets sigs start =
          .ok (adaptorInfo, next) ↔
        ∃ ps, places info total start = .ok (adaptorInfo, ps) ∧ next = start + ps.length ∧
          PlacesVerified K pubkey script value cets sigs start ps
  getAdaptorSignatures :
    ∀ {info total start signer script value cets adaptorInfo ps sigs},
      places info total start = .ok (adaptorInfo, ps) →
      (E.getAdaptorSignatures info adaptorInfo signer script value cets = .ok sigs ↔
        ∃ sk, signer.secretKey = .ok sk ∧ signPlaces K cets sk script value ps = .ok sigs)
  verifyAdaptorInfo :
    ∀ {info total start pubkey script value cets adaptorInfo ps sigs next},
      places info total start = .ok (adaptorInfo, ps) →
      (E.verifyAdaptorInfo info pubkey script value cets sigs start adaptorInfo = .ok next ↔
        next = start + ps.length ∧ PlacesVerified K pubkey script value cets sigs start ps)
  anywhere : ∀ {info total start adaptorInfo ps},
    places info total start = .ok (adaptorInfo, ps) →
      ∀ start', ∃ adaptorInfo', places info total start' = .ok (adaptorInfo', ps)

namespace Infos

def signingDescriptors (K : AdaptorCrypto) (N : Numerics)
    (order : List (List String × List ℕ) → List (List String × List ℕ)) : SigningDescriptors :=
  { contractDescriptors K N order with
    verifyAdaptorInfo := fun info => info.verifyAdaptorInfo K }

theorem signingDescriptors_placed (K : AdaptorCrypto) {N : Numerics} (lawful : N.Lawful)
    (order : List (List String × List ℕ) → List (List String × List ℕ)) :
    (signingDescriptors K N order).PlacedBy K (ContractInfo.places K) where
  getAdaptorInfo := getAdaptorInfo_ok lawful
  verifyAndGetAdaptorInfo := verifyAndGetAdaptorInfo_ok lawful
  getAdaptorSignatures placed := getAdaptorSignatures_ok lawful placed
  verifyAdaptorInfo placed := verifyAdaptorInfo_ok lawful placed
  anywhere placed := places_anywhere lawful placed

end Infos

end P2PLending.Manager
