import P2PLending.Manager.SignedPlaces
import Mathlib.Data.List.Pairwise

/-! The place that attestations single out in a contract info. For an enumerated
info it is that of the outcome which most oracles attest, under the first of these
oracles; for a numerical info it is the entry that the trie finds. The manager's
range info points at this place within the info, as if its lists were the whole
contract's. -/

namespace P2PLending.Manager.Infos
open Dlc Checked

/-- The oracles that attest an outcome, in the order of the attestations. -/
def attesting (outcome : List String) (outcomes : List (ℕ × List String)) : List ℕ :=
  (outcomes.filter (·.2 = outcome)).map Prod.fst

theorem attesting_append (outcome : List String) (outcomes : List (ℕ × List String))
    (o : ℕ × List String) :
    attesting outcome (outcomes ++ [o]) =
      attesting outcome outcomes ++ if o.2 = outcome then [o.1] else [] := by
  by_cases same : o.2 = outcome <;> simp [attesting, same]

theorem mem_groups (outcomes : List (ℕ × List String)) (g : List String × List ℕ) :
    g ∈ outcomes.foldl countOutcome [] ↔ g.2 = attesting g.1 outcomes ∧ g.2 ≠ [] := by
  induction outcomes using List.reverseRecOn generalizing g with
  | nil => simp [attesting]
  | append_singleton outcomes o ih =>
      rw [List.foldl_append, List.foldl_cons, List.foldl_nil, countOutcome, attesting_append]
      split
      · rename_i present
        obtain ⟨own, listed, key⟩ := List.any_eq_true.mp present
        have ownIs := (ih own).mp listed
        rw [decide_eq_true_eq] at key
        rw [List.mem_map]
        constructor
        · rintro ⟨g', listed', rfl⟩
          have facts := (ih g').mp listed'
          by_cases same : g'.1 = o.2
          · rw [if_pos same]
            refine ⟨?_, by simp⟩
            rw [facts.1, if_pos same.symm]
          · rw [if_neg same, if_neg (Ne.symm same), List.append_nil]
            exact facts
        · rintro ⟨indexes, nonempty⟩
          by_cases same : o.2 = g.1
          · refine ⟨own, listed, ?_⟩
            rw [if_pos key]
            rw [if_pos same] at indexes
            rw [ownIs.1, key, same, ← indexes]
          · rw [if_neg same, List.append_nil] at indexes
            exact ⟨g, (ih g).mpr ⟨indexes, nonempty⟩, if_neg (Ne.symm same)⟩
      · rename_i absent
        have fresh : attesting o.2 outcomes = [] := by
          by_contra present
          have listed := (ih (o.2, attesting o.2 outcomes)).mpr ⟨rfl, present⟩
          exact absent (List.any_eq_true.mpr ⟨_, listed, by simp⟩)
        rw [List.mem_append, List.mem_singleton, ih]
        by_cases same : o.2 = g.1
        · rw [if_pos same, ← same, fresh]
          constructor
          · rintro (⟨empty, nonempty⟩ | rfl)
            · exact absurd empty nonempty
            · exact ⟨rfl, by simp⟩
          · rintro ⟨indexes, _⟩
            exact .inr (Prod.ext same.symm indexes)
        · rw [if_neg same, List.append_nil]
          constructor
          · rintro (facts | rfl)
            · exact facts
            · exact absurd rfl same
          · exact .inl

/-- Whatever the order in which the hash map gives the groups, a largest one is selected. -/
theorem getMajorityCombination_largest
    {order : List (List String × List ℕ) → List (List String × List ℕ)}
    (permutes : ∀ l, (order l).Perm l) {outcomes : List (ℕ × List String)}
    {outcome : List String} (attested : attesting outcome outcomes ≠ []) :
    ∃ chosen, getMajorityCombination order outcomes = some (chosen, attesting chosen outcomes) ∧
      attesting chosen outcomes ≠ [] ∧
      ∀ other, (attesting other outcomes).length ≤ (attesting chosen outcomes).length := by
  have sorted : ((order (outcomes.foldl countOutcome [])).mergeSort fun x y =>
      x.2.length ≤ y.2.length).Pairwise fun x y => decide (x.2.length ≤ y.2.length) = true := by
    refine List.pairwise_mergeSort (fun a b c below above => ?_) (fun a b => ?_) _
    · simp only [decide_eq_true_eq] at below above ⊢
      exact below.trans above
    · simpa using Nat.le_total a.2.length b.2.length
  have members : ∀ g, g ∈ (order (outcomes.foldl countOutcome [])).mergeSort (fun x y =>
      x.2.length ≤ y.2.length) ↔ g.2 = attesting g.1 outcomes ∧ g.2 ≠ [] := by
    intro g
    rw [List.mem_mergeSort, (permutes _).mem_iff, mem_groups]
  have listed := (members (outcome, attesting outcome outcomes)).mpr ⟨rfl, attested⟩
  rw [getMajorityCombination]
  generalize (order (outcomes.foldl countOutcome [])).mergeSort (fun x y =>
    decide (x.2.length ≤ y.2.length)) = groups at sorted members listed
  have nonempty := List.ne_nil_of_mem listed
  have last := (members _).mp (List.getLast_mem nonempty)
  refine ⟨(groups.getLast nonempty).1, ?_, last.1 ▸ last.2, fun other => ?_⟩
  · rw [List.getLast?_eq_some_getLast nonempty, ← last.1]
  · by_cases absent : attesting other outcomes = []
    · rw [absent]
      exact Nat.zero_le _
    · have member := (members (other, attesting other outcomes)).mpr ⟨rfl, absent⟩
      have largest := List.Pairwise.rel_getLast_of_rel_getLast_getLast sorted member (by simp)
      rw [← last.1]
      exact of_decide_eq_true largest

/-- The outcome that more oracles attest than any other is selected. -/
theorem getMajorityCombination_ok
    {order : List (List String × List ℕ) → List (List String × List ℕ)}
    (permutes : ∀ l, (order l).Perm l) {outcomes : List (ℕ × List String)}
    {outcome : List String} (attested : attesting outcome outcomes ≠ [])
    (majority : ∀ other, other ≠ outcome →
      (attesting other outcomes).length < (attesting outcome outcomes).length) :
    getMajorityCombination order outcomes = some (outcome, attesting outcome outcomes) := by
  obtain ⟨chosen, selected, _, largest⟩ := getMajorityCombination_largest permutes attested
  have key : chosen = outcome := by
    by_contra other
    exact absurd (largest outcome) (majority chosen other).not_ge
  rw [selected, key]

/-- The outcome lists of attestations, by oracle. -/
def outcomesOf (attestations : List (ℕ × OracleAttestation)) : List (ℕ × List String) :=
  attestations.map fun (i, a) => (i, a.outcomes)

/-- The attestations are in the order of the announcements. -/
structure InOrder (nbOracles : ℕ) (attestations : List (ℕ × OracleAttestation)) : Prop where
  ascending : (attestations.map Prod.fst).Pairwise (· < ·)
  known : ∀ a ∈ attestations, a.1 < nbOracles

/-- Enough of the oracles attest an outcome, and more than any other. -/
structure EnumAttests (threshold : ℕ) (attestations : List (ℕ × OracleAttestation))
    (outcome : String) : Prop where
  positive : 0 < threshold
  enough : threshold ≤ (attesting [outcome] (outcomesOf attestations)).length
  majority : ∀ other, other ≠ [outcome] → other.length = 1 →
    (attesting other (outcomesOf attestations)).length <
      (attesting [outcome] (outcomesOf attestations)).length

/-- The oracles whose signatures are used. -/
def attestingCombination (threshold : ℕ) (attestations : List (ℕ × OracleAttestation))
    (outcome : String) : List ℕ :=
  (attesting [outcome] (outcomesOf attestations)).take threshold

theorem selects_of_ascending {n least : ℕ} {l : List ℕ} (ascending : l.Pairwise (· < ·))
    (above : ∀ i ∈ l, least ≤ i) (below : ∀ i ∈ l, i < n) : Selects n least l := by
  induction l generalizing least with
  | nil => exact trivial
  | cons i l ih =>
      rw [List.forall_mem_cons] at above below
      rw [List.pairwise_cons] at ascending
      exact ⟨above.1, below.1, ih ascending.2 ascending.1 below.2⟩

/-- The scan keeps the last index at which the combination stands. -/
theorem combinationScan (combination : List ℕ) (rest : List (List ℕ)) (start pos : ℕ)
    (distinct : rest.Nodup) :
    (rest.zipIdx start).foldl (fun pos p => if p.1 = combination then p.2 else pos) pos =
      if combination ∈ rest then start + rest.idxOf combination else pos := by
  induction rest generalizing start pos with
  | nil => simp
  | cons c rest ih =>
      rw [List.nodup_cons] at distinct
      rw [List.zipIdx_cons, List.foldl_cons, ih _ _ distinct.2, List.idxOf_cons]
      by_cases same : c = combination
      · subst same
        simp [distinct.1]
      · have differs : (c == combination) = false := beq_false_of_ne same
        simp only [List.mem_cons, Ne.symm same, false_or, same, if_false, differs, cond_false]
        split
        · omega
        · rfl

theorem combinationPosition_eq {all : List (List ℕ)} {combination : List ℕ} (nodup : all.Nodup)
    (listed : combination ∈ all) :
    combinationPosition all combination = all.idxOf combination := by
  have found := combinationScan combination all 0 0 nodup
  rw [if_pos listed, Nat.zero_add] at found
  exact found

/-- A combination that is not listed is given the position zero. -/
theorem combinationPosition_none {all : List (List ℕ)} {combination : List ℕ} (nodup : all.Nodup)
    (absent : combination ∉ all) : combinationPosition all combination = 0 := by
  have found := combinationScan combination all 0 0 nodup
  rw [if_neg absent] at found
  exact found

section Enum
variable {e : EnumDescriptor} {threshold nbOracles : ℕ}
  {attestations : List (ℕ × OracleAttestation)} {outcome : String}
  {order : List (List String × List ℕ) → List (List String × List ℕ)}

theorem attesting_single (outcomes : List (ℕ × List String)) :
    attesting [outcome] (outcomes.filter (·.2.length = 1)) = attesting [outcome] outcomes := by
  rw [attesting, attesting, List.filter_filter]
  congr 1
  refine List.filter_congr fun o _ => ?_
  by_cases same : o.2 = [outcome] <;> simp [same]

theorem attesting_single_le (other : List String) (outcomes : List (ℕ × List String)) :
    (attesting other (outcomes.filter (·.2.length = 1))).length ≤
      if other.length = 1 then (attesting other outcomes).length else 0 := by
  split
  · simp only [attesting, List.length_map, List.filter_filter]
    refine List.Sublist.length_le (List.monotone_filter_right _ ?_)
    intro o both
    exact (Bool.and_eq_true_iff.mp both).1
  · rename_i many
    have none_ : attesting other (outcomes.filter (·.2.length = 1)) = [] := by
      simp only [attesting, List.filter_filter, List.map_eq_nil_iff, List.filter_eq_nil_iff]
      rintro o _ both
      simp only [Bool.and_eq_true, decide_eq_true_eq] at both
      exact many (both.1 ▸ both.2)
    rw [none_]
    exact Nat.zero_le _

theorem attesting_selects (inOrder : InOrder nbOracles attestations) :
    Selects nbOracles 0 (attestingCombination threshold attestations outcome) := by
  have sub : (attestingCombination threshold attestations outcome).Sublist
      (attestations.map Prod.fst) := by
    refine (List.take_sublist _ _).trans ?_
    have firsts : attestations.map Prod.fst = (outcomesOf attestations).map Prod.fst := by
      simp [outcomesOf, Function.comp_def]
    rw [firsts]
    exact List.filter_sublist.map _
  refine selects_of_ascending (inOrder.ascending.sublist sub) (fun _ _ => Nat.zero_le _) ?_
  intro i listed
  obtain ⟨a, listed', rfl⟩ := List.mem_map.mp (sub.subset listed)
  exact inOrder.known a listed'

theorem attestingCombination_position (attests : EnumAttests threshold attestations outcome)
    (inOrder : InOrder nbOracles attestations) {all : List (List ℕ)}
    (listed : combinations nbOracles threshold = .ok all) :
    all[combinationPosition all (attestingCombination threshold attestations outcome)]? =
      some (attestingCombination threshold attestations outcome) := by
  have selected : attestingCombination threshold attestations outcome ∈ all := by
    refine mem_combinations listed (attesting_selects inOrder) ?_
    rw [attestingCombination, List.length_take]
    exact Nat.min_eq_left attests.enough
  rw [combinationPosition_eq (combinations_nodup listed) selected]
  exact List.getElem?_idxOf selected

/-- The manager's range info is the place within the info: the first outcome of
that name, and the attesting oracles among the combinations. -/
theorem enumGetRangeInfo_ok (permutes : ∀ l, (order l).Perm l)
    (attests : EnumAttests threshold attestations outcome) {all : List (List ℕ)}
    (listed : combinations nbOracles threshold = .ok all) {pos : ℕ}
    (found : e.findIdx? (·.outcome = outcome) = some pos) :
    enumGetRangeInfoForOutcome e threshold order nbOracles (outcomesOf attestations) 0 =
      .ok (some ((attestingCombination threshold attestations outcome).map (·, 1),
        { cetIndex := pos
          adaptorIndex := all.length * pos +
            combinationPosition all (attestingCombination threshold attestations outcome) })) := by
  have attested : attesting [outcome]
      ((outcomesOf attestations).filter (·.2.length = 1)) ≠ [] := by
    rw [attesting_single]
    have some_ := attests.positive.trans_le attests.enough
    exact List.ne_nil_of_length_pos some_
  have majority := getMajorityCombination_ok permutes attested (by
    intro other different
    have bound := attesting_single_le other (outcomesOf attestations)
    rw [attesting_single]
    split at bound
    · rename_i single
      exact bound.trans_lt (attests.majority other different single)
    · have some_ := attests.positive.trans_le attests.enough
      omega)
  rw [attesting_single] at majority
  have enough : ¬ (outcomesOf attestations).length < threshold := by
    have fewer : (attesting [outcome] (outcomesOf attestations)).length ≤
        (outcomesOf attestations).length := by
      rw [attesting, List.length_map]
      exact List.length_filter_le _ _
    have enough := attests.enough
    omega
  rw [enumGetRangeInfoForOutcome, if_neg enough, majority]
  simp only [if_neg attests.enough.not_gt, found, listed, ofDlc, ok_bind, attestingCombination,
    Nat.add_zero]

/-- The place of an outcome under a combination, in the list that is signed. -/
theorem enumPlaces_get {K : AdaptorCrypto} {oracleInfos : List OracleInfo} {places : List Place}
    (placed : enumPlaces K e oracleInfos threshold = .ok places) {all : List (List ℕ)}
    (listed : combinations oracleInfos.length threshold = .ok all) {pos i : ℕ}
    {x : EnumerationPayout} {selector : List ℕ} (outcomeAt : e[pos]? = some x)
    (selectorAt : all[i]? = some selector) :
    ∃ point, places[all.length * pos + i]? = some (pos, point) ∧
      enumAdaptorPoint K oracleInfos threshold x.outcome selector = .ok point := by
  rw [enumPlaces, bind_eq_ok] at placed
  obtain ⟨all', listed', mapped⟩ := placed
  cases listed.symm.trans (ofDlc_eq_ok.mp listed')
  have bound : i < all.length := (List.getElem?_eq_some_iff.mp selectorAt).1
  have entry : ((e.zipIdx.flatMap fun p => all.map fun selector =>
      (p.1.outcome, p.2, selector)))[all.length * pos + i]? = some (x.outcome, pos, selector) := by
    have at_ : e.zipIdx[pos]? = some (x, pos) := by simp [outcomeAt]
    rw [getElem?_flatMap_const (fun _ _ => List.length_map _) bound, at_]
    simp [selectorAt]
  obtain ⟨place, placeAt, made⟩ := forall₂_getElem? (mapM_eq_ok.mp mapped) entry
  simp only [bind_eq_ok, ofDlc_eq_ok, Except.ok.injEq] at made
  obtain ⟨point, computed, rfl⟩ := made
  exact ⟨point, placeAt, computed⟩

end Enum

end P2PLending.Manager.Infos
