import P2PLending.Manager.AttestedOutcomes

/-! The place of an enumerated outcome among the adaptor signatures. Signing and verifying visit
every outcome with every combination of oracles; closing works the place out from the
attestations, and takes the first combination where it finds none. -/

namespace P2PLending.Manager.Infos
open Dlc Checked

variable {N : Numerics}

/-- What signing and verifying visit, in their order: an outcome, its index and a combination. -/
def visited (e : EnumDescriptor) (all : List (List ℕ)) : List (String × ℕ × List ℕ) :=
  e.zipIdx.flatMap fun p => all.map fun selector => (p.1.outcome, p.2, selector)

theorem enumPlaces_eq (K : AdaptorCrypto) (e : EnumDescriptor) (oracleInfos : List OracleInfo)
    (threshold : ℕ) :
    enumPlaces K e oracleInfos threshold = (do
      let all ← ofDlc (combinations oracleInfos.length threshold)
      (visited e all).mapM fun x => do
        let adaptorPoint ← ofDlc (enumAdaptorPoint K oracleInfos threshold x.1 x.2.2)
        .ok (x.2.1, adaptorPoint)) := rfl

theorem visited_get {e : EnumDescriptor} {all : List (List ℕ)} {pos i : ℕ} {x : EnumerationPayout}
    {selector : List ℕ} (outcomeAt : e[pos]? = some x) (selectorAt : all[i]? = some selector) :
    (visited e all)[all.length * pos + i]? = some (x.outcome, pos, selector) := by
  have bound : i < all.length := (List.getElem?_eq_some_iff.mp selectorAt).1
  have at_ : e.zipIdx[pos]? = some (x, pos) := by simp [outcomeAt]
  rw [visited, getElem?_flatMap_const (fun _ _ => List.length_map _) bound, at_]
  simp [selectorAt]

/-! Combinations and their positions. -/

section Positions
variable {n threshold : ℕ} {all : List (List ℕ)} {used : List ℕ}

theorem combinations_head (listed : combinations n threshold = .ok all) :
    0 < threshold ∧ all[0]? = some (List.range threshold) := by
  unfold combinations at listed
  split at listed
  · cases listed
  · split at listed
    · cases listed
    · rename_i enough positive
      have elements : 0 < n := by omega
      obtain ⟨fuel, count⟩ :=
        Nat.exists_eq_succ_of_ne_zero (Nat.pow_pos elements : 0 < n ^ threshold).ne'
      rw [count] at listed
      cases listed
      exact ⟨Nat.pos_of_ne_zero positive, rfl⟩

/-- The position of the combination, which is that of the first one if there is none. -/
theorem combinationPosition_selects (listed : combinations n threshold = .ok all)
    (counted : used.length = threshold) (known : ∀ i ∈ used, i < n) :
    (∃ selector, all[combinationPosition all used]? = some selector ∧ selector.Perm used) ↔
      used.Pairwise (· < ·) ∨ used.Perm (List.range threshold) := by
  by_cases member : used ∈ all
  · have position := combinationPosition_eq (combinations_nodup listed) member
    have ascending := (combinations_selects listed used member).1.ascending
    simp only [ascending, true_or, iff_true]
    exact ⟨used, position ▸ List.getElem?_idxOf member, List.Perm.refl _⟩
  · have position := combinationPosition_none (combinations_nodup listed) member
    have unordered : ¬ used.Pairwise (· < ·) := by
      intro ascending
      have selects := selects_of_ascending ascending (fun _ _ => Nat.zero_le _) known
      exact member (mem_combinations listed selects counted)
    rw [position, (combinations_head listed).2]
    simp only [unordered, false_or, Option.some.injEq, exists_eq_left', List.perm_comm]

theorem combinationPosition_lt (listed : combinations n threshold = .ok all) (used : List ℕ) :
    combinationPosition all used < all.length := by
  by_cases member : used ∈ all
  · rw [combinationPosition_eq (combinations_nodup listed) member]
    exact List.idxOf_lt_length_of_mem member
  · rw [combinationPosition_none (combinations_nodup listed) member]
    exact (List.getElem?_eq_some_iff.mp (combinations_head listed).2).1

end Positions

/-! The outcome that is selected. -/

section Majority
variable {attestations : List (ℕ × OracleAttestation)} {outcome : String}
  {order : List (List String × List ℕ) → List (List String × List ℕ)}

/-- No other outcome is attested by more oracles. -/
structure MostAttested (attestations : List (ℕ × OracleAttestation)) (outcome : String) : Prop where
  attested : attesting [outcome] (outcomesOf attestations) ≠ []
  most : ∀ other, (attesting [other] (outcomesOf attestations)).length ≤
    (attesting [outcome] (outcomesOf attestations)).length

theorem majority_mostAttested (permutes : ∀ l, (order l).Perm l)
    (attested : attesting [outcome] (outcomesOf attestations) ≠ []) :
    ∃ chosen, getMajorityCombination order ((outcomesOf attestations).filter (·.2.length = 1)) =
        some ([chosen], attesting [chosen] (outcomesOf attestations)) ∧
      MostAttested attestations chosen := by
  have filtered : attesting [outcome] ((outcomesOf attestations).filter (·.2.length = 1)) ≠ [] := by
    rwa [attesting_single]
  obtain ⟨chosen, selected, some_, largest⟩ :=
    getMajorityCombination_largest permutes filtered
  have bound := attesting_single_le chosen (outcomesOf attestations)
  split at bound
  · rename_i single
    obtain ⟨chosen', rfl⟩ := List.length_eq_one_iff.mp single
    rw [attesting_single] at selected some_
    refine ⟨chosen', selected, some_, fun other => ?_⟩
    have fewer := largest [other]
    rwa [attesting_single, attesting_single] at fewer
  · exact absurd (List.length_eq_zero_iff.mp (Nat.le_zero.mp bound)) some_

/-- An order of the hash map that puts an outcome behind the others. -/
def lastly (outcome : String) (l : List (List String × List ℕ)) : List (List String × List ℕ) :=
  ((l.filter fun g => g.1 ≠ [outcome]).mergeSort fun x y => x.2.length ≤ y.2.length) ++
    l.filter fun g => g.1 = [outcome]

theorem lastly_perm (outcome : String) (l : List (List String × List ℕ)) :
    (lastly outcome l).Perm l := by
  have split := List.filter_append_perm (fun g : List String × List ℕ => g.1 = [outcome]) l
  have others : (l.filter fun g => !decide (g.1 = [outcome])) = l.filter fun g => g.1 ≠ [outcome] := by
    refine List.filter_congr fun g _ => ?_
    simp
  rw [others] at split
  exact ((List.mergeSort_perm _ _).append_right _).trans (List.perm_append_comm.trans split)

/-- A most attested outcome is selected under some order. -/
theorem lastly_selects (most : MostAttested attestations outcome) :
    getMajorityCombination (lastly outcome) ((outcomesOf attestations).filter (·.2.length = 1)) =
      some ([outcome], attesting [outcome] (outcomesOf attestations)) := by
  have members : ∀ g, g ∈ ((outcomesOf attestations).filter (·.2.length = 1)).foldl countOutcome [] ↔
      g.2 = attesting g.1 ((outcomesOf attestations).filter (·.2.length = 1)) ∧ g.2 ≠ [] :=
    mem_groups _
  rw [getMajorityCombination]
  generalize ((outcomesOf attestations).filter (·.2.length = 1)).foldl countOutcome [] = groups
    at members
  have below : ∀ g ∈ groups, g.2.length ≤ (attesting [outcome] (outcomesOf attestations)).length := by
    intro g listed
    obtain ⟨own, some_⟩ := (members g).mp listed
    have bound := attesting_single_le g.1 (outcomesOf attestations)
    rw [← own] at bound
    split at bound
    · rename_i single
      obtain ⟨other, key⟩ := List.length_eq_one_iff.mp single
      rw [key] at bound
      exact bound.trans (most.most other)
    · exact absurd (List.length_eq_zero_iff.mp (Nat.le_zero.mp bound)) some_
  have keyed : ∀ g ∈ groups.filter (fun g => g.1 = [outcome]),
      g = ([outcome], attesting [outcome] (outcomesOf attestations)) := by
    intro g listed
    obtain ⟨listed', key⟩ := List.mem_filter.mp listed
    have key := of_decide_eq_true key
    have own := ((members g).mp listed').1
    rw [key, attesting_single] at own
    exact Prod.ext key own
  have present : ([outcome], attesting [outcome] (outcomesOf attestations)) ∈
      groups.filter fun g => g.1 = [outcome] := by
    refine List.mem_filter.mpr ⟨(members _).mpr ⟨?_, most.attested⟩, by simp⟩
    exact (attesting_single _).symm
  have sorted : (lastly outcome groups).Pairwise fun x y =>
      decide (x.2.length ≤ y.2.length) = true := by
    rw [lastly, List.pairwise_append]
    refine ⟨?_, ?_, fun x first y second => ?_⟩
    · refine List.pairwise_mergeSort (fun a b c low high => ?_) (fun a b => ?_) _
      · simp only [decide_eq_true_eq] at low high ⊢
        exact low.trans high
      · simpa using Nat.le_total a.2.length b.2.length
    · refine List.pairwise_of_forall_mem_list fun x first y second => ?_
      rw [keyed x first, keyed y second]
      simp
    · have listed := List.mem_of_mem_filter ((List.mergeSort_perm _ _).mem_iff.mp first)
      rw [keyed y second]
      exact decide_eq_true (below x listed)
  rw [List.mergeSort_of_pairwise sorted, lastly,
    List.getLast?_append_of_ne_nil _ (List.ne_nil_of_mem present),
    List.getLast?_eq_some_getLast (List.ne_nil_of_mem present)]
  exact congrArg some (keyed _ (List.getLast_mem _))

end Majority

/-! Closing against signing. -/

section Agreement
variable {info : ContractInfo N} {e : EnumDescriptor}
  {attestations : List (ℕ × OracleAttestation)} {outcome : String} {start : ℕ}
  {order : List (List String × List ℕ) → List (List String × List ℕ)}

/-- The first signature of each oracle of a combination, in the order of the attestations. -/
def signaturesOf (attestations : List (ℕ × OracleAttestation)) (selector : List ℕ) :
    List (List OracleSignature) :=
  (attestations.filter fun x => selector.contains x.1).map fun x => x.2.signatures.take 1

/-- The answer is an outcome that enough oracles attest, at the index of its CET and at the place
where it is visited with the combination of oracles that are used, which attest it, and the
signatures combined with it are those of this combination. -/
def AgreesWithSigning (info : ContractInfo N) (e : EnumDescriptor)
    (order : List (List String × List ℕ) → List (List String × List ℕ))
    (attestations : List (ℕ × OracleAttestation)) (start : ℕ) : Prop :=
  ∃ all outcome pos place selector sigInfos,
    combinations info.oracleAnnouncements.length info.threshold = .ok all ∧
    info.threshold ≤ (attesting [outcome] (outcomesOf attestations)).length ∧
    e.findIdx? (·.outcome = outcome) = some pos ∧
    (visited e all)[place]? = some (outcome, pos, selector) ∧
    (∀ i ∈ selector, i ∈ attesting [outcome] (outcomesOf attestations)) ∧
    selector.Perm (sigInfos.map Prod.fst) ∧
    info.getRangeInfoForOutcome order .enum (outcomesOf attestations) start =
      .ok (some (sigInfos, { cetIndex := pos, adaptorIndex := place + start })) ∧
    info.getRangeInfoAndOracleSigs order .enum attestations =
      .ok ({ cetIndex := pos, adaptorIndex := place }, signaturesOf attestations selector)

theorem find?_indexes (used : List ℕ) (i : ℕ) :
    (used.map fun j => (j, 1)).find? (·.1 = i) = if i ∈ used then some (i, 1) else none := by
  induction used with
  | nil => rfl
  | cons j used ih =>
      rw [List.map_cons, List.find?_cons]
      by_cases same : j = i
      · simp [same]
      · rw [decide_eq_false same, ih]
        simp [Ne.symm same]

theorem combined_signatures {used selector : List ℕ} (same : selector.Perm used) :
    (attestations.filterMap fun x =>
        ((used.map fun j => (j, 1)).find? (·.1 = x.1)).map fun sigInfo =>
          x.2.signatures.take sigInfo.2) = signaturesOf attestations selector := by
  unfold signaturesOf
  induction attestations with
  | nil => rfl
  | cons x attestations ih =>
      by_cases member : x.1 ∈ used
      · have kept : selector.contains x.1 = true := List.contains_iff_mem.mpr (same.mem_iff.mpr member)
        rw [List.filterMap_cons_some (by rw [find?_indexes, if_pos member]; rfl), ih,
          List.filter_cons, if_pos kept]
        rfl
      · have absent : ¬ selector.contains x.1 = true := fun kept =>
          member (same.mem_iff.mp (List.contains_iff_mem.mp kept))
        rw [List.filterMap_cons_none (by rw [find?_indexes, if_neg member]; rfl), ih,
          List.filter_cons, if_neg absent]

/-- The answer, once the majority is known. -/
theorem enumGetRangeInfo_of_majority {threshold nbOracles : ℕ}
    (selected : getMajorityCombination order ((outcomesOf attestations).filter (·.2.length = 1)) =
      some ([outcome], attesting [outcome] (outcomesOf attestations)))
    (enough : threshold ≤ (attesting [outcome] (outcomesOf attestations)).length) :
    enumGetRangeInfoForOutcome e threshold order nbOracles (outcomesOf attestations) start =
      match e.findIdx? (·.outcome = outcome) with
      | some pos => do
          let all ← ofDlc (combinations nbOracles threshold)
          .ok (some ((attestingCombination threshold attestations outcome).map (·, 1),
            { cetIndex := pos
              adaptorIndex := all.length * pos +
                combinationPosition all (attestingCombination threshold attestations outcome) +
                  start }))
      | none => .ok none := by
  have fewer : (attesting [outcome] (outcomesOf attestations)).length ≤
      (outcomesOf attestations).length := by
    rw [attesting, List.length_map]
    exact List.length_filter_le _ _
  rw [enumGetRangeInfoForOutcome, if_neg (enough.trans fewer).not_gt, selected]
  dsimp only
  rw [if_neg enough.not_gt]
  rfl

theorem attestingCombination_mem {threshold i : ℕ}
    (listed : i ∈ attestingCombination threshold attestations outcome) :
    i ∈ attesting [outcome] (outcomesOf attestations) := List.mem_of_mem_take listed

theorem attesting_mem {i : ℕ} (listed : i ∈ attesting [outcome] (outcomesOf attestations)) :
    i ∈ attestations.map Prod.fst := by
  obtain ⟨o, attests, rfl⟩ := List.mem_map.mp listed
  obtain ⟨x, listed', rfl⟩ := List.mem_map.mp (List.mem_of_mem_filter attests)
  exact List.mem_map_of_mem listed'

theorem attestingCombination_length {threshold : ℕ}
    (enough : threshold ≤ (attesting [outcome] (outcomesOf attestations)).length) :
    (attestingCombination threshold attestations outcome).length = threshold := by
  rw [attestingCombination, List.length_take]
  exact Nat.min_eq_left enough

theorem attestingCombination_known {threshold n : ℕ} (known : ∀ x ∈ attestations, x.1 < n) :
    ∀ i ∈ attestingCombination threshold attestations outcome, i < n := by
  intro i listed
  obtain ⟨x, listed', rfl⟩ := List.mem_map.mp (attesting_mem (attestingCombination_mem listed))
  exact known x listed'

theorem indexes_map (used : List ℕ) : (used.map fun i => (i, 1)).map Prod.fst = used := by
  simp [Function.comp_def]

/-- The oracles that are used are in order, or the first ones in any order. -/
def UsableOrder (threshold : ℕ) (used : List ℕ) : Prop :=
  used.Pairwise (· < ·) ∨ used.Perm (List.range threshold)

/-- The answer agrees when the outcome is one of the contract's and the order is usable. -/
theorem agrees_of_usable (kind : info.contractDescriptor = .enum e)
    (selected : getMajorityCombination order ((outcomesOf attestations).filter (·.2.length = 1)) =
      some ([outcome], attesting [outcome] (outcomesOf attestations)))
    (enough : info.threshold ≤ (attesting [outcome] (outcomesOf attestations)).length)
    (positive : 0 < info.threshold) (distinct : (attestations.map Prod.fst).Nodup)
    (known : ∀ x ∈ attestations, x.1 < info.oracleAnnouncements.length)
    (named : ∃ x ∈ e, x.outcome = outcome)
    (usable : UsableOrder info.threshold
      (attestingCombination info.threshold attestations outcome)) :
    AgreesWithSigning info e order attestations start := by
  have counted := attestingCombination_length enough
  have within : ∀ i ∈ attestingCombination info.threshold attestations outcome,
      i < info.oracleAnnouncements.length := attestingCombination_known known
  have apart : (attestingCombination info.threshold attestations outcome).Nodup := by
    have firsts : (attesting [outcome] (outcomesOf attestations)).Sublist
        (attestations.map Prod.fst) := by
      have all : attestations.map Prod.fst = (outcomesOf attestations).map Prod.fst := by
        simp [outcomesOf, Function.comp_def]
      rw [all]
      exact List.filter_sublist.map _
    exact distinct.sublist ((List.take_sublist _ _).trans firsts)
  obtain ⟨all, listed⟩ : ∃ all,
      combinations info.oracleAnnouncements.length info.threshold = .ok all := by
    have room : info.threshold ≤ info.oracleAnnouncements.length := by
      have subset : attestingCombination info.threshold attestations outcome ⊆
          List.range info.oracleAnnouncements.length :=
        fun i member => List.mem_range.mpr (within i member)
      have fewer := (List.subperm_of_subset apart subset).length_le
      rwa [counted, List.length_range] at fewer
    unfold combinations
    rw [if_neg room.not_gt, if_neg positive.ne']
    exact ⟨_, rfl⟩
  obtain ⟨selector, at_, same⟩ := (combinationPosition_selects listed counted within).mpr usable
  obtain ⟨pos, found⟩ : ∃ pos, e.findIdx? (·.outcome = outcome) = some pos := by
    obtain ⟨x, member, key⟩ := named
    cases missing : e.findIdx? (·.outcome = outcome) with
    | some pos => exact ⟨pos, rfl⟩
    | none =>
        have never := List.findIdx?_eq_none_iff.mp missing x member
        simp [key] at never
  obtain ⟨bound, key, _⟩ := List.findIdx?_eq_some_iff_getElem.mp found
  have visits := visited_get (List.getElem?_eq_getElem bound) at_
  rw [of_decide_eq_true key] at visits
  have answer : ∀ start, info.getRangeInfoForOutcome order .enum (outcomesOf attestations) start =
      .ok (some ((attestingCombination info.threshold attestations outcome).map (·, 1),
        { cetIndex := pos
          adaptorIndex := all.length * pos + combinationPosition all
            (attestingCombination info.threshold attestations outcome) + start })) := by
    intro start
    unfold ContractInfo.getRangeInfoForOutcome
    rw [kind]
    dsimp only
    rw [enumGetRangeInfo_of_majority selected enough, found, listed]
    rfl
  refine ⟨all, outcome, pos, _, selector, _, listed, enough, found, visits, fun i member => ?_, ?_,
    answer start, ?_⟩
  · exact attestingCombination_mem (same.mem_iff.mp member)
  · rwa [indexes_map]
  · have zero := answer 0
    unfold outcomesOf at zero
    rw [ContractInfo.getRangeInfoAndOracleSigs, zero, ok_bind]
    dsimp only
    rw [combined_signatures same]
    rfl

/-- An answer that agrees was found for the selected outcome, with a usable order. -/
theorem usable_of_agrees (kind : info.contractDescriptor = .enum e)
    (selected : getMajorityCombination order ((outcomesOf attestations).filter (·.2.length = 1)) =
      some ([outcome], attesting [outcome] (outcomesOf attestations)))
    (enough : info.threshold ≤ (attesting [outcome] (outcomesOf attestations)).length)
    (known : ∀ x ∈ attestations, x.1 < info.oracleAnnouncements.length)
    (agrees : AgreesWithSigning info e order attestations start) :
    0 < info.threshold ∧ (∃ x ∈ e, x.outcome = outcome) ∧
      UsableOrder info.threshold (attestingCombination info.threshold attestations outcome) := by
  obtain ⟨all, _, pos, place, selector, sigInfos, listed, _, _, visits, _, same, answer, _⟩ := agrees
  refine ⟨(combinations_head listed).1, ?_⟩
  unfold ContractInfo.getRangeInfoForOutcome at answer
  rw [kind] at answer
  dsimp only at answer
  rw [enumGetRangeInfo_of_majority selected enough] at answer
  cases found : e.findIdx? (·.outcome = outcome) with
  | none =>
      rw [found] at answer
      cases answer
  | some pos' =>
      rw [found, listed] at answer
      obtain ⟨bound, key, _⟩ := List.findIdx?_eq_some_iff_getElem.mp found
      refine ⟨⟨e[pos'], List.getElem_mem bound, of_decide_eq_true key⟩, ?_⟩
      have parts := Option.some.inj (Except.ok.inj answer)
      obtain ⟨infosAre, rangeIs⟩ := Prod.mk.inj parts
      obtain ⟨posIs, placeIs⟩ := RangeInfo.mk.inj rangeIs
      have at_ := List.getElem?_eq_getElem (combinationPosition_lt listed
        (attestingCombination info.threshold attestations outcome))
      have visited' := visited_get (List.getElem?_eq_getElem bound) at_
      rw [Nat.add_right_cancel placeIs, visits, Option.some.injEq, Prod.mk.injEq, Prod.mk.injEq]
        at visited'
      rw [← visited'.2.2] at at_
      rw [← infosAre, indexes_map] at same
      exact (combinationPosition_selects listed (attestingCombination_length enough)
        (attestingCombination_known known)).mp ⟨selector, at_, same⟩

end Agreement

/-- Closing agrees with signing, in whatever order the hash map gives the outcomes, exactly when
every outcome that may be selected is the contract's and its first oracles are in a usable order. -/
theorem agrees_with_signing_iff {info : ContractInfo N} {e : EnumDescriptor}
    {attestations : List (ℕ × OracleAttestation)} (start : ℕ)
    (kind : info.contractDescriptor = .enum e) (distinct : (attestations.map Prod.fst).Nodup)
    (known : ∀ x ∈ attestations, x.1 < info.oracleAnnouncements.length)
    (enough : ∃ outcome, info.threshold ≤ (attesting [outcome] (outcomesOf attestations)).length) :
    (∀ order, (∀ l, (order l).Perm l) → AgreesWithSigning info e order attestations start) ↔
      0 < info.threshold ∧ ∀ outcome, MostAttested attestations outcome →
        (∃ x ∈ e, x.outcome = outcome) ∧
          UsableOrder info.threshold
            (attestingCombination info.threshold attestations outcome) := by
  have reaches : ∀ outcome, MostAttested attestations outcome →
      info.threshold ≤ (attesting [outcome] (outcomesOf attestations)).length := by
    intro outcome most
    obtain ⟨other, attested⟩ := enough
    exact attested.trans (most.most other)
  constructor
  · intro agrees
    refine ⟨?_, fun outcome most => ?_⟩
    · obtain ⟨all, _, _, _, _, _, listed, _⟩ := agrees id fun l => List.Perm.refl l
      exact (combinations_head listed).1
    · exact (usable_of_agrees kind (lastly_selects most) (reaches outcome most) known
        (agrees (lastly outcome) (lastly_perm outcome))).2
  · rintro ⟨positive, each⟩ order permutes
    obtain ⟨other, attested⟩ := enough
    obtain ⟨outcome, selected, most⟩ := majority_mostAttested permutes
      (List.ne_nil_of_length_pos (positive.trans_le attested))
    obtain ⟨named, usable⟩ := each outcome most
    exact agrees_of_usable kind selected (reaches outcome most) positive distinct known named usable

/-- Two of three oracles are enough. -/
def threeOracles : ContractInfo sampleNumerics where
  contractDescriptor := .enum [⟨"up", ⟨1, 0⟩⟩, ⟨"down", ⟨0, 1⟩⟩]
  oracleAnnouncements := [sampleAnnouncement 7, sampleAnnouncement 8, sampleAnnouncement 9]
  threshold := 2

/-- The oracle attests the first outcome. -/
def upFrom (oracle : ℕ) : ℕ × OracleAttestation := (oracle, { signatures := [⟨7, 1⟩], outcomes := ["up"] })

theorem mostAttested_up {oracles : List ℕ} (some_ : oracles ≠ []) {outcome : String} :
    MostAttested (oracles.map upFrom) outcome ↔ outcome = "up" := by
  have up : attesting ["up"] (outcomesOf (oracles.map upFrom)) = oracles := by
    simp [attesting, outcomesOf, upFrom, List.filter_map, Function.comp_def]
  have others : ∀ other, other ≠ "up" → attesting [other] (outcomesOf (oracles.map upFrom)) = [] := by
    intro other different
    simp [attesting, outcomesOf, upFrom, Ne.symm different]
  constructor
  · intro most
    by_contra different
    exact most.attested (others outcome different)
  · rintro rfl
    refine ⟨by rwa [up], fun other => ?_⟩
    by_cases same : other = "up"
    · rw [same]
    · rw [others other same]
      exact Nat.zero_le _

theorem agrees_with_signing_in_order :
    MostAttested [upFrom 1, upFrom 2] "up" ∧
      ∀ order, (∀ l, (order l).Perm l) → AgreesWithSigning threeOracles
        [⟨"up", ⟨1, 0⟩⟩, ⟨"down", ⟨0, 1⟩⟩] order [upFrom 1, upFrom 2] 0 := by
  refine ⟨(@mostAttested_up [1, 2] (by decide) "up").mpr rfl,
    (agrees_with_signing_iff 0 rfl (by decide) (by decide) ⟨"up", by decide⟩).mpr
      ⟨by decide, fun outcome most => ?_⟩⟩
  obtain rfl := (@mostAttested_up [1, 2] (by decide) outcome).mp most
  exact ⟨by decide, .inl (by decide)⟩

/-- The third oracle's attestation before the second one's: the signature that is taken is that of
the first two oracles. -/
theorem reversed_attestations_misplaced :
    ∃ order : List (List String × List ℕ) → List (List String × List ℕ), (∀ l, (order l).Perm l) ∧
      threeOracles.getRangeInfoForOutcome order .enum (outcomesOf [upFrom 2, upFrom 1]) 0 =
        .ok (some ([(2, 1), (1, 1)], { cetIndex := 0, adaptorIndex := 0 })) ∧
      (visited [⟨"up", ⟨1, 0⟩⟩, ⟨"down", ⟨0, 1⟩⟩] [[0, 1], [0, 2], [1, 2]])[0]? =
        some ("up", 0, [0, 1]) ∧
      ¬ AgreesWithSigning threeOracles [⟨"up", ⟨1, 0⟩⟩, ⟨"down", ⟨0, 1⟩⟩] order
        [upFrom 2, upFrom 1] 0 := by
  have most : MostAttested [upFrom 2, upFrom 1] "up" :=
    (@mostAttested_up [2, 1] (by decide) "up").mpr rfl
  have selected := lastly_selects most
  refine ⟨lastly "up", lastly_perm "up", ?_, by decide, fun agrees => ?_⟩
  · have answer : enumGetRangeInfoForOutcome [⟨"up", ⟨1, 0⟩⟩, ⟨"down", ⟨0, 1⟩⟩] 2 (lastly "up") 3
        (outcomesOf [upFrom 2, upFrom 1]) 0 = _ :=
      enumGetRangeInfo_of_majority selected (by decide)
    exact answer.trans (by decide)
  · have usable := (usable_of_agrees rfl selected (by decide) (by decide) agrees).2.2
    revert usable
    unfold UsableOrder
    decide

end P2PLending.Manager.Infos
