import P2PLending.Foundation.CheckedLists
import P2PLending.Trie.MultiTrie

/-! What is inserted for a selection of oracles has one path for each of them. -/

namespace P2PLending.Trie

open Dlc (Result Selects)

/-! The digits of a selection. -/

theorem zipIdx_selected {digits : List ℕ} {first : ℕ} {selector : List ℕ}
    (selects : Selects (first + digits.length) first selector) :
    ((digits.zipIdx first).filter fun x => x.2 ∈ selector).map Prod.fst =
      selector.map fun i => digits.getD (i - first) 0 := by
  induction digits generalizing first selector with
  | nil =>
      cases selector with
      | nil => rfl
      | cons x xs =>
          have least := selects.1
          have below := selects.2.1
          rw [List.length_nil] at below
          omega
  | cons d digits ih =>
      have room : first + (d :: digits).length = first + 1 + digits.length := by
        rw [List.length_cons]
        omega
      rw [room] at selects
      have later : ∀ {xs}, Selects (first + 1 + digits.length) (first + 1) xs →
          ((digits.zipIdx (first + 1)).filter fun x => x.2 ∈ xs).map Prod.fst =
            xs.map fun i => (d :: digits).getD (i - first) 0 := by
        intro xs inOrder
        rw [ih inOrder]
        refine List.map_congr_left fun i listed => ?_
        have past := (inOrder.bounds i listed).1
        have place : i - first = i - (first + 1) + 1 := by omega
        rw [place, List.getD_cons_succ]
      rw [List.zipIdx_cons]
      cases selector with
      | nil => simp
      | cons x xs =>
          by_cases here : x = first
          · subst here
            have others := later selects.2.2
            have apart : (digits.zipIdx (x + 1)).filter (fun y => y.2 ∈ x :: xs) =
                (digits.zipIdx (x + 1)).filter fun y => y.2 ∈ xs := by
              refine List.filter_congr fun y listed => ?_
              have past := List.le_snd_of_mem_zipIdx listed
              have differs : y.2 ≠ x := by omega
              simp [differs]
            rw [List.filter_cons_of_pos (by simp), List.map_cons, apart, others, List.map_cons,
              Nat.sub_self, List.getD_cons_zero]
          · have inOrder : Selects (first + 1 + digits.length) (first + 1) (x :: xs) :=
              ⟨by have := selects.1; omega, selects.2⟩
            have skipped : first ∉ x :: xs := fun listed => by
              have past := (Dlc.Selects.bounds inOrder first listed).1
              omega
            rw [List.filter_cons_of_neg (by simpa using skipped), later inOrder]

theorem OracleNumericInfo.selected_eq {info : OracleNumericInfo} {selector : List ℕ}
    (selects : Selects info.nbDigits.length 0 selector) :
    info.selected selector = selector.map fun i => info.nbDigits.getD i 0 := by
  rw [← Nat.zero_add info.nbDigits.length] at selects
  exact zipIdx_selected selects

theorem OracleNumericInfo.selected_length {info : OracleNumericInfo} {selector : List ℕ}
    (selects : Selects info.nbDigits.length 0 selector) :
    (info.selected selector).length = selector.length := by
  rw [info.selected_eq selects, List.length_map]

/-! Each combination has a path for each oracle. -/

section Lengths
variable {main secondary left right : List ℕ} {infos : List ℕ} {suffixLen : ℕ}
  {combination : List (List ℕ)} {combinations : List (List (List ℕ))}

theorem mapM_length {ε α β : Type} {f : α → Except ε β} {xs : List α} {ys : List β}
    (mapped : xs.mapM f = .ok ys) : ys.length = xs.length :=
  (Checked.mapM_eq_ok.mp mapped).length_eq.symm

theorem singleCovering_length
    (single : singleCoveringPrefixCombinations main secondary infos suffixLen = .ok combination) :
    combination.length = infos.length := by
  obtain ⟨others, mapped, rest⟩ := Checked.bind_eq_ok.mp single
  cases infos with
  | nil => cases rest
  | cons nbDigits infos =>
      obtain ⟨adjusted, _, rest⟩ := Checked.bind_eq_ok.mp rest
      obtain ⟨first, _, last⟩ := Checked.bind_eq_ok.mp rest
      cases last
      rw [List.length_cons, mapM_length mapped]
      rfl

theorem adjustAll_length {outcomeLen : ℕ} {all : List (List ℕ × ℕ)}
    (adjusted : adjustAll outcomeLen all = .ok (some combination)) :
    combination.length = all.length := by
  induction all generalizing combination with
  | nil =>
      cases adjusted
      rfl
  | cons x all ih =>
      obtain ⟨suffix, _, rest⟩ := Checked.bind_eq_ok.mp adjusted
      obtain ⟨own, _, rest⟩ := Checked.bind_eq_ok.mp rest
      cases own with
      | none => cases rest
      | some own =>
          obtain ⟨others, done, last⟩ := Checked.bind_eq_ok.mp rest
          cases others with
          | none => cases last
          | some others =>
              cases last
              rw [List.length_cons, List.length_cons, ih done]

theorem doubleCovering_length
    (double : doubleCoveringPrefixCombinations main left right infos suffixLen = .ok combinations)
    (listed : combination ∈ combinations) : combination.length = infos.length := by
  obtain ⟨nbOthers, others, rest⟩ := Checked.bind_eq_ok.mp double
  obtain ⟨some, count⟩ := Checked.sub_eq_ok.mp others
  obtain ⟨choices, _, rest⟩ := Checked.bind_eq_ok.mp rest
  obtain ⟨res, mapped, last⟩ := Checked.bind_eq_ok.mp rest
  cases last
  rw [List.mem_filterMap] at listed
  obtain ⟨adjusted, member, same⟩ := listed
  obtain ⟨i, _, computed⟩ := (Checked.mem_mapM mapped).mp member
  obtain ⟨outcomeLen, _, done⟩ := Checked.bind_eq_ok.mp computed
  rw [show adjusted = Option.some combination from same] at done
  rw [adjustAll_length done, List.length_zip, List.length_cons, List.length_reverse,
    List.length_map, List.length_range]
  omega

theorem restricted_length
    (double : doubleCoveringRestrictedPrefixCombinations main left infos suffixLen =
      .ok combinations) (listed : combination ∈ combinations) :
    combination.length = infos.length := by
  obtain ⟨all, computed, rest⟩ := Checked.bind_eq_ok.mp double
  split at rest
  next =>
    obtain ⟨_, _, last⟩ := Checked.bind_eq_ok.mp rest
    cases last
    exact doubleCovering_length computed (List.mem_of_mem_dropLast listed)
  next =>
    cases rest
    exact doubleCovering_length computed (List.mem_of_mem_drop listed)

namespace Coverage
variable {c : Coverage} {maxError halfMaxError minSupport : ℕ}

theorem single_length {secondary : List ℕ} (one : c.single secondary = .ok combinations)
    (listed : combination ∈ combinations) : combination.length = c.oracleDigitsInfos.length := by
  obtain ⟨y, computed, last⟩ := Checked.bind_eq_ok.mp one
  cases last
  rw [List.mem_singleton.mp listed]
  exact singleCovering_length computed

theorem withinError_length (within : c.withinError maxError halfMaxError minSupport =
    .ok combinations) (listed : combination ∈ combinations) :
    combination.length = c.oracleDigitsInfos.length := by
  obtain ⟨_, _, rest⟩ := Checked.bind_eq_ok.mp within
  obtain ⟨_, _, rest⟩ := Checked.bind_eq_ok.mp rest
  split at rest
  next =>
    obtain ⟨_, _, rest⟩ := Checked.bind_eq_ok.mp rest
    exact single_length rest listed
  next =>
    split at rest
    next =>
      obtain ⟨_, _, rest⟩ := Checked.bind_eq_ok.mp rest
      split at rest
      next => exact single_length rest listed
      next =>
        obtain ⟨_, _, rest⟩ := Checked.bind_eq_ok.mp rest
        exact doubleCovering_length rest listed
    next =>
      split at rest
      next =>
        obtain ⟨_, _, rest⟩ := Checked.bind_eq_ok.mp rest
        split at rest
        next => exact single_length rest listed
        next =>
          obtain ⟨_, _, rest⟩ := Checked.bind_eq_ok.mp rest
          exact doubleCovering_length rest listed
      next => cases rest

theorem beside_length {ownBound otherBound ignoredDigits : ℕ}
    (found : c.beside ownBound otherBound ignoredDigits = .ok combinations)
    (listed : combination ∈ combinations) : combination.length = c.oracleDigitsInfos.length := by
  obtain ⟨_, _, rest⟩ := Checked.bind_eq_ok.mp found
  obtain ⟨_, _, rest⟩ := Checked.bind_eq_ok.mp rest
  obtain ⟨_, _, rest⟩ := Checked.bind_eq_ok.mp rest
  exact restricted_length rest listed

theorem pastError_length (past : c.pastError halfMaxError minSupport = .ok combinations)
    (listed : combination ∈ combinations) : combination.length = c.oracleDigitsInfos.length := by
  obtain ⟨before, first, rest⟩ := Checked.bind_eq_ok.mp past
  obtain ⟨same, single, rest⟩ := Checked.bind_eq_ok.mp rest
  obtain ⟨after, second, last⟩ := Checked.bind_eq_ok.mp rest
  cases last
  rw [List.append_assoc] at listed
  rcases List.mem_append.mp listed with early | later
  · rw [Coverage.before] at first
    split at first
    next =>
      cases first
      cases early
    next =>
      obtain ⟨_, _, found⟩ := Checked.bind_eq_ok.mp first
      exact beside_length found early
  · rcases List.mem_append.mp later with here | later
    · exact single_length single here
    · rw [Coverage.after] at second
      split at second
      next =>
        cases second
        cases later
      next =>
        obtain ⟨_, _, rest⟩ := Checked.bind_eq_ok.mp second
        obtain ⟨_, _, rest⟩ := Checked.bind_eq_ok.mp rest
        obtain ⟨_, _, found⟩ := Checked.bind_eq_ok.mp rest
        exact beside_length found later

end Coverage

theorem computeOutcomeCombinations_length {maxErrorExp minSupportExp : ℕ} {maximizeCoverage : Bool}
    (computed : computeOutcomeCombinations infos main maxErrorExp minSupportExp maximizeCoverage =
      .ok combinations) (listed : combination ∈ combinations) :
    combination.length = infos.length := by
  obtain ⟨_, _, rest⟩ := Checked.bind_eq_ok.mp computed
  cases infos with
  | nil => cases rest
  | cons minNumDigits others =>
      obtain ⟨_, _, rest⟩ := Checked.bind_eq_ok.mp rest
      obtain ⟨_, _, rest⟩ := Checked.bind_eq_ok.mp rest
      obtain ⟨_, _, rest⟩ := Checked.bind_eq_ok.mp rest
      obtain ⟨_, _, rest⟩ := Checked.bind_eq_ok.mp rest
      obtain ⟨_, _, rest⟩ := Checked.bind_eq_ok.mp rest
      obtain ⟨_, _, rest⟩ := Checked.bind_eq_ok.mp rest
      dsimp only at rest
      split at rest
      next => exact Coverage.withinError_length rest listed
      next => exact Coverage.pastError_length rest listed

end Lengths

theorem reorderToMinFirst_length {digits digits' : List ℕ} {minIndex : ℕ}
    (reordered : reorderToMinFirst digits = .ok (minIndex, digits')) :
    minIndex < digits.length ∧ digits'.length = digits.length := by
  rw [reorderToMinFirst] at reordered
  cases found : digits.min? with
  | none =>
      rw [found] at reordered
      cases reordered
  | some least =>
      rw [found] at reordered
      cases reordered
      have inside : digits.findIdx (· = least) < digits.length :=
        List.findIdx_lt_length_of_exists ⟨least, List.min?_mem found, by simp⟩
      refine ⟨inside, ?_⟩
      rw [List.length_cons, List.length_eraseIdx, if_pos inside]
      omega

namespace MultiTrie
variable {T : Type} {t : MultiTrie T} {path : List ℕ}

theorem combinationsFor_length {selector : List ℕ}
    (tries : t.nbTries = t.oracleNumericInfos.nbDigits.length) (some : t.nbRequired ≠ 0)
    (selects : Selects t.nbTries 0 selector) (length : selector.length = t.nbRequired)
    {combinations : List (List (List ℕ))}
    (computed : t.combinationsFor path selector = .ok combinations)
    {combination : List (List ℕ)} (listed : combination ∈ combinations) :
    combination.length = t.nbRequired := by
  rw [combinationsFor] at computed
  split at computed
  next =>
    obtain ⟨_, _, rest⟩ := Checked.bind_eq_ok.mp computed
    obtain ⟨⟨minIndex, digitInfos⟩, reordered, rest⟩ := Checked.bind_eq_ok.mp rest
    obtain ⟨inside, same⟩ := reorderToMinFirst_length reordered
    rw [tries] at selects
    rw [OracleNumericInfo.selected_length selects, length] at inside same
    cases digitInfos with
    | nil => cases rest
    | cons fewest others =>
        obtain ⟨_, _, rest⟩ := Checked.bind_eq_ok.mp rest
        obtain ⟨_, _, rest⟩ := Checked.bind_eq_ok.mp rest
        obtain ⟨all, found, last⟩ := Checked.bind_eq_ok.mp rest
        cases last
        obtain ⟨before, member, rfl⟩ := List.mem_map.mp listed
        have own := computeOutcomeCombinations_length found member
        rw [same] at own
        rw [List.length_insertIdx_of_le_length (by rw [List.length_drop]; omega),
          List.length_drop]
        omega
  next one =>
    cases computed
    rw [List.mem_singleton.mp listed, List.length_singleton]
    omega

/-- What is inserted for a group has an index and a path for each oracle of its selection. -/
theorem indexedPaths_length (tries : t.nbTries = t.oracleNumericInfos.nbDigits.length)
    {indexed : List (List ℕ × List (List ℕ))} (computed : t.indexedPaths path = .ok indexed) :
    ∀ x ∈ indexed, x.1.length = t.nbRequired ∧ x.2.length = t.nbRequired := by
  obtain ⟨selectors, all, rest⟩ := Checked.bind_eq_ok.mp computed
  obtain ⟨lists, mapped, last⟩ := Checked.bind_eq_ok.mp rest
  cases last
  have some : t.nbRequired ≠ 0 := by
    intro none
    rw [Dlc.combinations, none] at all
    simp at all
  intro x listed
  obtain ⟨list, member, listed⟩ := List.mem_flatten.mp listed
  obtain ⟨selector, selected, made⟩ := (Checked.mem_mapM mapped).mp member
  obtain ⟨selects, length⟩ := Dlc.combinations_selects all selector selected
  obtain ⟨combinations, found, last⟩ := Checked.bind_eq_ok.mp made
  cases last
  obtain ⟨combination, member, rfl⟩ := List.mem_map.mp listed
  exact ⟨length, combinationsFor_length tries some selects length found member⟩

end MultiTrie

/-! The paths past the values of the oracle with the fewest digits. -/

theorem mem_coveringCounters {maxes counters : List ℕ} : counters ∈ coveringCounters maxes ↔
    List.Forall₂ (fun counter max => min max 1 ≤ counter ∧ counter ≤ max) counters maxes := by
  induction maxes generalizing counters with
  | nil => simp [coveringCounters]
  | cons max maxes ih =>
      rw [coveringCounters, List.mem_flatMap]
      constructor
      · rintro ⟨rest, listed, member⟩
        obtain ⟨counter, within, rfl⟩ := List.mem_map.mp member
        rw [List.mem_range'_1] at within
        exact .cons ⟨within.1, by omega⟩ (ih.mp listed)
      · intro related
        cases related with
        | @cons counter _ rest _ here others =>
            refine ⟨rest, ih.mpr others, List.mem_map.mpr ⟨counter, ?_, rfl⟩⟩
            rw [List.mem_range'_1]
            omega

theorem coveringCounters_nodup (maxes : List ℕ) : (coveringCounters maxes).Nodup := by
  induction maxes with
  | nil => exact List.nodup_singleton []
  | cons max maxes ih =>
      rw [coveringCounters, List.nodup_flatMap]
      refine ⟨fun rest _ => ?_, ih.imp fun differ counters first second => ?_⟩
      · exact List.Nodup.map (fun _ _ same => (List.cons.inj same).1) List.nodup_range'
      · obtain ⟨_, _, rfl⟩ := List.mem_map.mp first
        obtain ⟨_, _, same⟩ := List.mem_map.mp second
        exact differ (List.cons.inj same).2.symm

/-- A counter is read off its path, given which oracles have digits to spare. -/
theorem coveringPath_inj {minNbDigits max counter counter' : ℕ}
    (within : min max 1 ≤ counter ∧ counter ≤ max) (within' : min max 1 ≤ counter' ∧ counter' ≤ max)
    (same : coveringPath minNbDigits counter = coveringPath minNbDigits counter') :
    counter = counter' := by
  by_cases none : max = 0
  · omega
  · have lengths := congrArg List.length same
    rw [coveringPath, coveringPath, if_neg (by omega), if_neg (by omega)] at lengths
    simp only [List.length_append, List.length_replicate, List.length_singleton] at lengths
    omega

theorem coveringPaths_inj {minNbDigits : ℕ} {maxes combination counters counters' : List ℕ}
    (length : combination.length = maxes.length) (listed : counters ∈ coveringCounters maxes)
    (listed' : counters' ∈ coveringCounters maxes)
    (same : coveringPaths minNbDigits combination counters =
      coveringPaths minNbDigits combination counters') : counters = counters' := by
  rw [mem_coveringCounters] at listed listed'
  induction listed generalizing counters' combination with
  | nil =>
      cases listed'
      rfl
  | cons here _ ih =>
      cases listed' with
      | cons here' others' =>
          cases combination with
          | nil => cases length
          | cons i combination =>
              obtain ⟨head, tail⟩ := List.cons.inj same
              rw [coveringPath_inj here here' (Prod.mk.inj head).2,
                ih (Nat.succ.inj length) others' tail]

theorem coveringPaths_indexes {minNbDigits : ℕ} {maxes combination counters : List ℕ}
    (length : combination.length = maxes.length) (listed : counters ∈ coveringCounters maxes) :
    (coveringPaths minNbDigits combination counters).map Prod.fst = combination := by
  have same := (mem_coveringCounters.mp listed).length_eq
  rw [coveringPaths, List.map_map]
  have snd : (Prod.fst ∘ fun x : ℕ × ℕ => (x.2, coveringPath minNbDigits x.1)) = Prod.snd := rfl
  rw [snd, List.map_snd_zip (by omega)]

section Covering
variable {info : OracleNumericInfo} {threshold : ℕ} {paths : List (List (ℕ × List ℕ))}

theorem mem_coveringPathsFor {minNbDigits : ℕ} {combination : List ℕ} {x : List (ℕ × List ℕ)}
    (member : x ∈ info.coveringPathsFor minNbDigits combination) :
    ∃ counters ∈ coveringCounters ((info.selected combination).map (· - minNbDigits)),
      coveringPaths minNbDigits combination counters = x := by
  rw [OracleNumericInfo.coveringPathsFor] at member
  split at member
  next => cases member
  next => exact List.mem_map.mp member

/-- The indexes of such a path are the selection. -/
theorem coveringPathsFor_indexes {minNbDigits : ℕ} {combination : List ℕ} {x : List (ℕ × List ℕ)}
    (selects : Selects info.nbDigits.length 0 combination)
    (member : x ∈ info.coveringPathsFor minNbDigits combination) :
    x.map Prod.fst = combination := by
  obtain ⟨counters, counted, rfl⟩ := mem_coveringPathsFor member
  refine coveringPaths_indexes ?_ counted
  rw [List.length_map, OracleNumericInfo.selected_length selects]

theorem coveringPathsFor_nodup {minNbDigits : ℕ} {combination : List ℕ}
    (selects : Selects info.nbDigits.length 0 combination) :
    (info.coveringPathsFor minNbDigits combination).Nodup := by
  rw [OracleNumericInfo.coveringPathsFor]
  split
  next => exact List.nodup_nil
  next =>
    refine List.Nodup.map_on (fun counters counted counters' counted' same => ?_)
      (coveringCounters_nodup _)
    refine coveringPaths_inj ?_ counted counted' same
    rw [List.length_map, OracleNumericInfo.selected_length selects]

theorem getMaxCoveringPaths_length (listed : getMaxCoveringPaths info threshold = .ok paths) :
    ∀ x ∈ paths, x.length = threshold := by
  obtain ⟨minNbDigits, _, rest⟩ := Checked.bind_eq_ok.mp listed
  obtain ⟨combinations, all, last⟩ := Checked.bind_eq_ok.mp rest
  cases last
  intro x member
  obtain ⟨combination, chosen, member⟩ := List.mem_flatMap.mp member
  obtain ⟨selects, length⟩ := Dlc.combinations_selects all combination chosen
  rw [← length, ← coveringPathsFor_indexes selects member, List.length_map]

/-- No path is listed twice. -/
theorem getMaxCoveringPaths_nodup (listed : getMaxCoveringPaths info threshold = .ok paths) :
    paths.Nodup := by
  obtain ⟨minNbDigits, _, rest⟩ := Checked.bind_eq_ok.mp listed
  obtain ⟨combinations, all, last⟩ := Checked.bind_eq_ok.mp rest
  cases last
  have selects := fun combination chosen => (Dlc.combinations_selects all combination chosen).1
  refine List.nodup_flatMap.mpr ⟨fun combination chosen =>
    coveringPathsFor_nodup (selects combination chosen), ?_⟩
  refine (Dlc.combinations_nodup all).imp_of_mem fun chosen chosen' differ x first second => ?_
  have indexes := coveringPathsFor_indexes (selects _ chosen) first
  rw [coveringPathsFor_indexes (selects _ chosen') second] at indexes
  exact differ indexes.symm

end Covering

end P2PLending.Trie
