import P2PLending.Trie.InsertionTotal
import P2PLending.Trie.ValueDigits

/-! The paths of combinations have digits of the base. -/

namespace P2PLending.Trie

open Dlc (Result)

section Digits
variable {base : ℕ} {main secondary left right pre p : List ℕ} {infos : List ℕ} {suffixLen : ℕ}
  {combination : List (List ℕ)} {combinations : List (List (List ℕ))}

/-- All digits are smaller than the base. -/
def Digits (base : ℕ) (p : List ℕ) : Prop := ∀ d ∈ p, d < base

theorem prePadVec_digits (some : 2 ≤ base) (digits : Digits base pre) {size : ℕ}
    (padded : prePadVec pre size = .ok p) : Digits base p := by
  rw [prePadVec] at padded
  split at padded
  next =>
    cases padded
    exact digits
  next =>
    obtain ⟨zeros, _, last⟩ := Checked.bind_eq_ok.mp padded
    cases last
    refine List.forall_mem_append.mpr ⟨fun d listed => ?_, digits⟩
    rw [List.eq_of_mem_replicate listed]
    omega

theorem adjustPrefixSize_digits (some : 2 ≤ base) (digits : Digits base pre) {nbDigits : ℕ}
    (adjusted : adjustPrefixSize pre nbDigits suffixLen = .ok (.some p)) : Digits base p := by
  obtain ⟨expectedLen, _, rest⟩ := Checked.bind_eq_ok.mp adjusted
  split at rest
  next =>
    obtain ⟨padded, done, last⟩ := Checked.bind_eq_ok.mp rest
    cases last
    exact prePadVec_digits some digits done
  next =>
    dsimp only at rest
    split at rest
    next =>
      cases rest
      exact fun d listed => digits d (List.mem_of_mem_drop listed)
    next => cases rest

theorem unwrapAdjusted_eq_ok {adjusted : Option (List ℕ)} :
    unwrapAdjusted adjusted = .ok p ↔ adjusted = some p := by
  cases adjusted <;> simp [unwrapAdjusted]

theorem decomposeValue_digits (some : 2 ≤ base) {x n : ℕ}
    (decomposed : decomposeValue x 2 n = .ok p) : Digits base p := fun d listed =>
  ((decomposed_digits (by omega) decomposed).2 d listed).trans_le some

theorem numToVec_digits (some : 2 ≤ base) {x n ignored : ℕ}
    (taken : numToVec x n ignored 2 = .ok p) : Digits base p := by
  obtain ⟨all, decomposed, rest⟩ := Checked.bind_eq_ok.mp taken
  obtain ⟨_, _, last⟩ := Checked.bind_eq_ok.mp rest
  cases last
  exact fun d listed => decomposeValue_digits some decomposed d (List.mem_of_mem_take listed)

theorem coveringPrefix_digits (some : 2 ≤ base) {x n e digit : ℕ}
    (taken : coveringPrefix x e n digit = .ok p) : Digits base p := by
  obtain ⟨all, decomposed, rest⟩ := Checked.bind_eq_ok.mp taken
  obtain ⟨_, _, last⟩ := Checked.bind_eq_ok.mp rest
  cases last
  have digits := decomposeValue_digits some decomposed
  refine List.forall_mem_append.mpr ⟨fun d listed => digits d (List.mem_of_mem_take listed),
    fun d listed => digits d (List.mem_of_mem_drop ((List.takeWhile_sublist _).mem listed))⟩

theorem singleCovering_digits (some : 2 ≤ base) (own : Digits base main)
    (other : Digits base secondary)
    (single : singleCoveringPrefixCombinations main secondary infos suffixLen = .ok combination) :
    ∀ p ∈ combination, Digits base p := by
  obtain ⟨others, mapped, rest⟩ := Checked.bind_eq_ok.mp single
  cases infos with
  | nil => cases rest
  | cons nbDigits infos =>
      obtain ⟨adjusted, done, rest⟩ := Checked.bind_eq_ok.mp rest
      obtain ⟨first, unwrapped, last⟩ := Checked.bind_eq_ok.mp rest
      cases last
      rw [unwrapAdjusted_eq_ok] at unwrapped
      subst unwrapped
      refine List.forall_mem_cons.mpr ⟨adjustPrefixSize_digits some own done, fun p listed => ?_⟩
      obtain ⟨d, _, computed⟩ := (Checked.mem_mapM mapped).mp listed
      obtain ⟨_, _, computed⟩ := Checked.bind_eq_ok.mp computed
      obtain ⟨_, _, computed⟩ := Checked.bind_eq_ok.mp computed
      obtain ⟨adjusted, done, unwrapped⟩ := Checked.bind_eq_ok.mp computed
      rw [unwrapAdjusted_eq_ok] at unwrapped
      subst unwrapped
      exact adjustPrefixSize_digits some other done

/-- By induction on the paths. -/
theorem adjustAll_digits (some : 2 ≤ base) {outcomeLen : ℕ} {all : List (List ℕ × ℕ)}
    (digits : ∀ x ∈ all, Digits base x.1)
    (adjusted : adjustAll outcomeLen all = .ok (.some combination)) :
    ∀ p ∈ combination, Digits base p := by
  induction all generalizing combination with
  | nil =>
      cases adjusted
      exact fun _ listed => by cases listed
  | cons x all ih =>
      rw [List.forall_mem_cons] at digits
      obtain ⟨suffix, _, rest⟩ := Checked.bind_eq_ok.mp adjusted
      obtain ⟨own, done, rest⟩ := Checked.bind_eq_ok.mp rest
      cases own with
      | none => cases rest
      | some own =>
          obtain ⟨others, further, last⟩ := Checked.bind_eq_ok.mp rest
          cases others with
          | none => cases last
          | some others =>
              cases last
              exact List.forall_mem_cons.mpr
                ⟨adjustPrefixSize_digits some digits.1 done, ih digits.2 further⟩

theorem doubleCovering_digits (some : 2 ≤ base) (own : Digits base main)
    (first : Digits base left) (second : Digits base right)
    (double : doubleCoveringPrefixCombinations main left right infos suffixLen = .ok combinations)
    (listed : combination ∈ combinations) : ∀ p ∈ combination, Digits base p := by
  obtain ⟨nbOthers, _, rest⟩ := Checked.bind_eq_ok.mp double
  generalize sorted : (if right < left then (right, left) else (left, right)) = pair at rest
  obtain ⟨low, high⟩ := pair
  have both : Digits base low ∧ Digits base high := by
    split at sorted
    next =>
      cases sorted
      exact ⟨second, first⟩
    next =>
      cases sorted
      exact ⟨first, second⟩
  obtain ⟨choices, _, rest⟩ := Checked.bind_eq_ok.mp rest
  obtain ⟨res, mapped, last⟩ := Checked.bind_eq_ok.mp rest
  cases last
  obtain ⟨adjusted, member, rfl⟩ := List.mem_filterMap.mp listed
  obtain ⟨i, _, computed⟩ := (Checked.mem_mapM mapped).mp member
  obtain ⟨outcomeLen, _, done⟩ := Checked.bind_eq_ok.mp computed
  refine adjustAll_digits some (fun x taken => ?_) done
  have prefixes := (List.of_mem_zip taken).1
  rw [List.mem_cons, List.mem_reverse, List.mem_map] at prefixes
  rcases prefixes with same | ⟨j, _, same⟩
  · exact same ▸ own
  · rw [← same]
    split
    next => exact both.2
    next => exact both.1

theorem restricted_digits (some : 2 ≤ base) (own : Digits base main) (other : Digits base left)
    (double : doubleCoveringRestrictedPrefixCombinations main left infos suffixLen =
      .ok combinations) (listed : combination ∈ combinations) :
    ∀ p ∈ combination, Digits base p := by
  obtain ⟨all, computed, rest⟩ := Checked.bind_eq_ok.mp double
  split at rest
  next =>
    obtain ⟨_, _, last⟩ := Checked.bind_eq_ok.mp rest
    cases last
    exact doubleCovering_digits some own own other computed (List.mem_of_mem_dropLast listed)
  next =>
    cases rest
    exact doubleCovering_digits some own own other computed (List.mem_of_mem_drop listed)

namespace Coverage
variable {c : Coverage} {maxError halfMaxError minSupport : ℕ}

theorem covering_digits {most least : Result (List ℕ)} (first : ∀ p, most = .ok p → Digits base p)
    (second : ∀ p, least = .ok p → Digits base p) (covered : c.covering most least = .ok p) :
    Digits base p := by
  rw [covering] at covered
  split at covered
  next => exact first p covered
  next => exact second p covered

theorem single_digits (some : 2 ≤ base) (own : Digits base c.mainOutcomePrefix)
    (other : Digits base secondary) (one : c.single secondary = .ok combinations)
    (listed : combination ∈ combinations) : ∀ p ∈ combination, Digits base p := by
  obtain ⟨y, computed, last⟩ := Checked.bind_eq_ok.mp one
  cases last
  rw [List.mem_singleton.mp listed]
  exact singleCovering_digits some own other computed

theorem right_digits (some : 2 ≤ base) {stop e support n : ℕ} (p : List ℕ)
    (taken : computeRightCoveringPrefix stop e support n = .ok p) : Digits base p := by
  obtain ⟨_, _, rest⟩ := Checked.bind_eq_ok.mp taken
  exact coveringPrefix_digits some rest

theorem left_digits (some : 2 ≤ base) {start e support n : ℕ} (p : List ℕ)
    (taken : computeLeftCoveringPrefix start e support n = .ok p) : Digits base p := by
  obtain ⟨_, _, rest⟩ := Checked.bind_eq_ok.mp taken
  exact coveringPrefix_digits some rest

theorem support_digits (some : 2 ≤ base) {start stop support n : ℕ} (p : List ℕ)
    (taken : computeMinSupportCoveringPrefix start stop support n = .ok p) : Digits base p := by
  obtain ⟨_, _, rest⟩ := Checked.bind_eq_ok.mp taken
  obtain ⟨_, _, rest⟩ := Checked.bind_eq_ok.mp rest
  obtain ⟨low, decomposed, rest⟩ := Checked.bind_eq_ok.mp rest
  obtain ⟨high, _, last⟩ := Checked.bind_eq_ok.mp rest
  cases last
  intro d listed
  obtain ⟨pair, member, rfl⟩ := List.mem_map.mp listed
  have paired := (List.takeWhile_sublist _).mem member
  exact decomposeValue_digits some decomposed _ (List.of_mem_zip paired).1

theorem half_digits (some : 2 ≤ base) {x : Result ℕ} {n ignored : ℕ} (p : List ℕ)
    (taken : (do numToVec (← x) n ignored 2) = .ok p) : Digits base p := by
  obtain ⟨_, _, rest⟩ := Checked.bind_eq_ok.mp taken
  exact numToVec_digits some rest

/-- By the cases of the interval in the error's cell. -/
theorem withinError_digits (some : 2 ≤ base) (own : Digits base c.mainOutcomePrefix)
    (within : c.withinError maxError halfMaxError minSupport = .ok combinations)
    (listed : combination ∈ combinations) : ∀ p ∈ combination, Digits base p := by
  obtain ⟨errorPrefix, taken, rest⟩ := Checked.bind_eq_ok.mp within
  have error : ∀ p, Except.ok errorPrefix = (.ok p : Result _) → Digits base p := by
    intro p same
    cases same
    exact numToVec_digits some taken
  obtain ⟨_, _, rest⟩ := Checked.bind_eq_ok.mp rest
  split at rest
  next =>
    obtain ⟨support, covered, rest⟩ := Checked.bind_eq_ok.mp rest
    exact single_digits some own (covering_digits error (support_digits some) covered) rest listed
  next =>
    split at rest
    next =>
      obtain ⟨right, covered, rest⟩ := Checked.bind_eq_ok.mp rest
      have first := covering_digits error (right_digits some) covered
      split at rest
      next => exact single_digits some own first rest listed
      next =>
        obtain ⟨left, covered, rest⟩ := Checked.bind_eq_ok.mp rest
        have second := covering_digits (half_digits some) (left_digits some) covered
        exact doubleCovering_digits some own first second rest listed
    next =>
      split at rest
      next =>
        obtain ⟨left, covered, rest⟩ := Checked.bind_eq_ok.mp rest
        have first := covering_digits error (left_digits some) covered
        split at rest
        next => exact single_digits some own first rest listed
        next =>
          obtain ⟨right, covered, rest⟩ := Checked.bind_eq_ok.mp rest
          have second := covering_digits (half_digits some) (right_digits some) covered
          exact doubleCovering_digits some own first second rest listed
      next => cases rest

theorem beside_digits (some : 2 ≤ base) {ownBound otherBound ignoredDigits : ℕ}
    (found : c.beside ownBound otherBound ignoredDigits = .ok combinations)
    (listed : combination ∈ combinations) : ∀ p ∈ combination, Digits base p := by
  obtain ⟨right, taken, rest⟩ := Checked.bind_eq_ok.mp found
  obtain ⟨left, taken', rest⟩ := Checked.bind_eq_ok.mp rest
  obtain ⟨_, _, rest⟩ := Checked.bind_eq_ok.mp rest
  exact restricted_digits some (numToVec_digits some taken) (numToVec_digits some taken') rest listed

theorem pastError_digits (some : 2 ≤ base) (own : Digits base c.mainOutcomePrefix)
    (past : c.pastError halfMaxError minSupport = .ok combinations)
    (listed : combination ∈ combinations) : ∀ p ∈ combination, Digits base p := by
  obtain ⟨before, first, rest⟩ := Checked.bind_eq_ok.mp past
  obtain ⟨same, single, rest⟩ := Checked.bind_eq_ok.mp rest
  obtain ⟨after, second, last⟩ := Checked.bind_eq_ok.mp rest
  cases last
  rw [List.append_assoc] at listed
  rcases List.mem_append.mp listed with early | later
  · rw [Coverage.before] at first
    split at first
    next =>
      cases first
      cases early
    next =>
      obtain ⟨_, _, found⟩ := Checked.bind_eq_ok.mp first
      exact beside_digits some found early
  · rcases List.mem_append.mp later with here | later
    · exact single_digits some own own single here
    · rw [Coverage.after] at second
      split at second
      next =>
        cases second
        cases later
      next =>
        obtain ⟨_, _, rest⟩ := Checked.bind_eq_ok.mp second
        obtain ⟨_, _, rest⟩ := Checked.bind_eq_ok.mp rest
        obtain ⟨_, _, found⟩ := Checked.bind_eq_ok.mp rest
        exact beside_digits some found later

end Coverage

theorem computeOutcomeCombinations_digits (some : 2 ≤ base) (own : Digits base main)
    {maxErrorExp minSupportExp : ℕ} {maximizeCoverage : Bool}
    (computed : computeOutcomeCombinations infos main maxErrorExp minSupportExp maximizeCoverage =
      .ok combinations) (listed : combination ∈ combinations) :
    ∀ p ∈ combination, Digits base p := by
  obtain ⟨_, _, rest⟩ := Checked.bind_eq_ok.mp computed
  cases infos with
  | nil => cases rest
  | cons minNumDigits others =>
      obtain ⟨_, _, rest⟩ := Checked.bind_eq_ok.mp rest
      obtain ⟨_, _, rest⟩ := Checked.bind_eq_ok.mp rest
      obtain ⟨_, _, rest⟩ := Checked.bind_eq_ok.mp rest
      obtain ⟨_, _, rest⟩ := Checked.bind_eq_ok.mp rest
      obtain ⟨_, _, rest⟩ := Checked.bind_eq_ok.mp rest
      obtain ⟨_, _, rest⟩ := Checked.bind_eq_ok.mp rest
      dsimp only at rest
      have longer : Digits base
          (if others.all fun x => x = minNumDigits then main else 0 :: main) := by
        split
        next => exact own
        next => exact List.forall_mem_cons.mpr ⟨by omega, own⟩
      split at rest
      next => exact Coverage.withinError_digits some longer rest listed
      next => exact Coverage.pastError_digits some longer rest listed

end Digits

namespace MultiTrie
variable {T : Type} {t : MultiTrie T} {path : List ℕ}

theorem combinationsFor_digits (some : 2 ≤ t.oracleNumericInfos.base)
    (digits : Digits t.oracleNumericInfos.base path) {selector : List ℕ}
    {combinations : List (List (List ℕ))}
    (computed : t.combinationsFor path selector = .ok combinations)
    {combination : List (List ℕ)} (listed : combination ∈ combinations) :
    ∀ p ∈ combination, Digits t.oracleNumericInfos.base p := by
  rw [combinationsFor] at computed
  split at computed
  next =>
    obtain ⟨_, _, rest⟩ := Checked.bind_eq_ok.mp computed
    obtain ⟨⟨minIndex, digitInfos⟩, _, rest⟩ := Checked.bind_eq_ok.mp rest
    cases digitInfos with
    | nil => cases rest
    | cons fewest others =>
        obtain ⟨_, _, rest⟩ := Checked.bind_eq_ok.mp rest
        obtain ⟨padded, done, rest⟩ := Checked.bind_eq_ok.mp rest
        obtain ⟨all, found, last⟩ := Checked.bind_eq_ok.mp rest
        cases last
        obtain ⟨before, member, rfl⟩ := List.mem_map.mp listed
        have each := computeOutcomeCombinations_digits some (prePadVec_digits some digits done)
          found member
        intro p inserted
        rcases List.eq_or_mem_of_mem_insertIdx inserted with rfl | other
        · cases before with
          | nil => exact fun _ listed => by cases listed
          | cons first before => exact each first List.mem_cons_self
        · exact each p (List.mem_of_mem_drop other)
  next =>
    cases computed
    rw [List.mem_singleton.mp listed, List.forall_mem_singleton]
    exact digits

/-- What is inserted for the path of a group is placed. -/
theorem indexedPaths_placed (some : 2 ≤ t.oracleNumericInfos.base)
    (tries : t.nbTries = t.oracleNumericInfos.nbDigits.length)
    (digits : Digits t.oracleNumericInfos.base path) {indexed : List (List ℕ × List (List ℕ))}
    (computed : t.indexedPaths path = .ok indexed) : ∀ x ∈ indexed, t.Placed x := by
  have lengths := indexedPaths_length tries computed
  obtain ⟨selectors, all, rest⟩ := Checked.bind_eq_ok.mp computed
  obtain ⟨lists, mapped, last⟩ := Checked.bind_eq_ok.mp rest
  cases last
  intro x listed
  obtain ⟨length, length'⟩ := lengths x listed
  obtain ⟨list, member, listed⟩ := List.mem_flatten.mp listed
  obtain ⟨selector, selected, made⟩ := (Checked.mem_mapM mapped).mp member
  obtain ⟨combinations, found, last⟩ := Checked.bind_eq_ok.mp made
  cases last
  obtain ⟨combination, member, rfl⟩ := List.mem_map.mp listed
  exact ⟨(Dlc.combinations_selects all selector selected).1, length, length',
    combinationsFor_digits some digits found member⟩

end MultiTrie

end P2PLending.Trie
