import P2PLending.Foundation.Avoids
import P2PLending.Trie.MultiTrie

/-! What comes before an insertion panics or gives paths. There are no errors but those of the
callback. -/

namespace P2PLending.Trie

open Dlc (Result Fault Error)
open Checked (Avoids avoids_bind avoids_ok)

variable {A B : Type}

/-- An error that is returned. -/
def IsError (fault : Fault Error) : Prop := ∃ e, fault = .err e

@[simp] theorem not_isError_panic (message : String) : ¬ IsError (.panic message) := by
  simp [IsError]

@[simp] theorem isError_err (e : Error) : IsError (.err e) := ⟨e, rfl⟩

/-- A computation that does not return an error. -/
abbrev OnlyPanics (r : Result A) : Prop := Avoids IsError r

@[simp] theorem onlyPanics_pure (a : A) : OnlyPanics (pure a) := avoids_ok a

theorem onlyPanics_mapM {f : A → Result B} (each : ∀ x, OnlyPanics (f x)) (xs : List A) :
    OnlyPanics (xs.mapM f) :=
  Checked.avoids_mapM.mpr (Checked.upTo_of_forall fun x _ => each x)

@[simp] theorem onlyPanics_usizeAdd (a b : ℕ) : OnlyPanics (usizeAdd a b) := by
  simp [usizeAdd]

@[simp] theorem onlyPanics_usizeSub (a b : ℕ) : OnlyPanics (usizeSub a b) := by
  simp [usizeSub]

@[simp] theorem onlyPanics_fit (limit n : ℕ) (message : String) :
    OnlyPanics (Checked.fit limit (.panic message) n) := by
  unfold Checked.fit
  split
  · simp
  · simp

@[simp] theorem onlyPanics_usizeMul (a b : ℕ) : OnlyPanics (usizeMul a b) := by
  simp [usizeMul, Checked.mul]

@[simp] theorem onlyPanics_usizeShl (exp : ℕ) : OnlyPanics (usizeShl exp) := by
  unfold usizeShl
  split
  · simp
  · simp

/-- By induction on the fuel. -/
@[simp] theorem onlyPanics_digitsOf (base fuel value : ℕ) :
    OnlyPanics (digitsOf base fuel value) := by
  induction fuel generalizing value with
  | zero => cases value <;> simp [digitsOf]
  | succ fuel ih =>
      cases value with
      | zero => simp [digitsOf]
      | succ value =>
          rw [digitsOf]
          split
          · simp
          · simp [avoids_bind, ih]

@[simp] theorem onlyPanics_decomposeValue (value base nbDigits : ℕ) :
    OnlyPanics (decomposeValue value base nbDigits) := by
  simp [decomposeValue, avoids_bind, Dlc.assertEq]

@[simp] theorem onlyPanics_go (base composed : ℕ) (values : List ℕ) :
    OnlyPanics (composeValue.go base composed values) := by
  induction values generalizing composed with
  | nil => simp [composeValue.go]
  | cons value values ih => simp [composeValue.go, avoids_bind, ih]

@[simp] theorem onlyPanics_composeValue (base : ℕ) (values : List ℕ) :
    OnlyPanics (composeValue base values) := onlyPanics_go base 0 values

@[simp] theorem onlyPanics_prePadVec (input : List ℕ) (size : ℕ) :
    OnlyPanics (prePadVec input size) := by
  unfold prePadVec
  split
  · simp
  · simp [avoids_bind]

@[simp] theorem onlyPanics_adjustPrefixSize (pre : List ℕ) (nbDigits suffixLen : ℕ) :
    OnlyPanics (adjustPrefixSize pre nbDigits suffixLen) := by
  unfold adjustPrefixSize
  refine avoids_bind.mpr ⟨by simp, fun size _ => ?_⟩
  split
  · simp [avoids_bind]
  · dsimp only
    split
    · simp
    · simp

@[simp] theorem onlyPanics_computeIntervalFromPrefix (pre : List ℕ) (numDigits base : ℕ) :
    OnlyPanics (computeIntervalFromPrefix pre numDigits base) := by
  simp [computeIntervalFromPrefix, avoids_bind]

@[simp] theorem onlyPanics_numToVec (input nbDigits ignoredDigits base : ℕ) :
    OnlyPanics (numToVec input nbDigits ignoredDigits base) := by
  simp [numToVec, avoids_bind]

@[simp] theorem onlyPanics_computeMinSupportCoveringPrefix (start stop minSupport digits : ℕ) :
    OnlyPanics (computeMinSupportCoveringPrefix start stop minSupport digits) := by
  simp [computeMinSupportCoveringPrefix, avoids_bind]

@[simp] theorem onlyPanics_computeLeftCoveringPrefix (start maxErrorExp minSupport digits : ℕ) :
    OnlyPanics (computeLeftCoveringPrefix start maxErrorExp minSupport digits) := by
  simp [computeLeftCoveringPrefix, coveringPrefix, avoids_bind]

@[simp] theorem onlyPanics_computeRightCoveringPrefix (stop maxErrorExp minSupport digits : ℕ) :
    OnlyPanics (computeRightCoveringPrefix stop maxErrorExp minSupport digits) := by
  simp [computeRightCoveringPrefix, coveringPrefix, avoids_bind]

@[simp] theorem onlyPanics_unwrapAdjusted (adjusted : Option (List ℕ)) :
    OnlyPanics (unwrapAdjusted adjusted) := by
  cases adjusted <;> simp [unwrapAdjusted]

@[simp] theorem onlyPanics_singleCoveringPrefixCombinations (main secondary infos : List ℕ)
    (suffixLen : ℕ) :
    OnlyPanics (singleCoveringPrefixCombinations main secondary infos suffixLen) := by
  refine avoids_bind.mpr ⟨onlyPanics_mapM (fun nbDigits => ?_) _, fun others _ => ?_⟩
  · simp [avoids_bind]
  · cases infos <;> simp [avoids_bind]

/-- By induction on the paths. -/
@[simp] theorem onlyPanics_adjustAll (outcomeLen : ℕ) (all : List (List ℕ × ℕ)) :
    OnlyPanics (adjustAll outcomeLen all) := by
  induction all with
  | nil => simp [adjustAll]
  | cons x all ih =>
      refine avoids_bind.mpr ⟨by simp, fun suffix _ => avoids_bind.mpr ⟨by simp, fun found _ => ?_⟩⟩
      cases found with
      | none => simp
      | some adjusted => simp [avoids_bind, ih]

@[simp] theorem onlyPanics_coveringChoices (nbOthers : ℕ) :
    OnlyPanics (coveringChoices nbOthers) := by
  unfold coveringChoices
  split
  · simp
  · split
    · simp
    · simp

@[simp] theorem onlyPanics_doubleCoveringPrefixCombinations (main left right infos : List ℕ)
    (suffixLen : ℕ) :
    OnlyPanics (doubleCoveringPrefixCombinations main left right infos suffixLen) := by
  refine avoids_bind.mpr ⟨by simp, fun nbOthers _ => avoids_bind.mpr ⟨by simp, fun choices _ => ?_⟩⟩
  exact avoids_bind.mpr ⟨onlyPanics_mapM (fun i => by simp [avoids_bind]) _, by simp⟩

@[simp] theorem onlyPanics_doubleCoveringRestrictedPrefixCombinations (main other infos : List ℕ)
    (suffixLen : ℕ) :
    OnlyPanics (doubleCoveringRestrictedPrefixCombinations main other infos suffixLen) := by
  refine avoids_bind.mpr ⟨by simp, fun combinations _ => ?_⟩
  split
  · simp [avoids_bind]
  · simp

namespace Coverage
variable (c : Coverage)

theorem onlyPanics_covering {most least : Result (List ℕ)} (first : OnlyPanics most)
    (second : OnlyPanics least) : OnlyPanics (c.covering most least) := by
  unfold covering
  split
  · exact first
  · exact second

@[simp] theorem onlyPanics_single (secondary : List ℕ) : OnlyPanics (c.single secondary) := by
  simp [single, avoids_bind]

@[simp] theorem onlyPanics_withinError (maxError halfMaxError minSupport : ℕ) :
    OnlyPanics (c.withinError maxError halfMaxError minSupport) := by
  refine avoids_bind.mpr ⟨by simp, fun errorPrefix _ => ?_⟩
  refine avoids_bind.mpr ⟨by simp, fun limit _ => ?_⟩
  split
  · exact avoids_bind.mpr ⟨c.onlyPanics_covering (by simp) (by simp), by simp⟩
  · split
    · refine avoids_bind.mpr ⟨c.onlyPanics_covering (by simp) (by simp), fun right _ => ?_⟩
      split
      · simp
      · exact avoids_bind.mpr ⟨c.onlyPanics_covering (by simp [avoids_bind]) (by simp), by simp⟩
    · split
      · refine avoids_bind.mpr ⟨c.onlyPanics_covering (by simp) (by simp), fun left _ => ?_⟩
        split
        · simp
        · exact avoids_bind.mpr ⟨c.onlyPanics_covering (by simp [avoids_bind]) (by simp), by simp⟩
      · simp

@[simp] theorem onlyPanics_beside (ownBound otherBound ignoredDigits : ℕ) :
    OnlyPanics (c.beside ownBound otherBound ignoredDigits) := by
  simp [beside, avoids_bind]

@[simp] theorem onlyPanics_before (width ignoredDigits : ℕ) :
    OnlyPanics (c.before width ignoredDigits) := by
  unfold before
  split
  · simp
  · simp [avoids_bind]

@[simp] theorem onlyPanics_after (width ignoredDigits : ℕ) :
    OnlyPanics (c.after width ignoredDigits) := by
  unfold after
  split
  · simp
  · simp [avoids_bind]

@[simp] theorem onlyPanics_pastError (halfMaxError minSupport : ℕ) :
    OnlyPanics (c.pastError halfMaxError minSupport) := by
  simp [pastError, avoids_bind]

end Coverage

@[simp] theorem onlyPanics_computeOutcomeCombinations (infos main : List ℕ)
    (maxErrorExp minSupportExp : ℕ) (maximizeCoverage : Bool) :
    OnlyPanics (computeOutcomeCombinations infos main maxErrorExp minSupportExp
      maximizeCoverage) := by
  refine avoids_bind.mpr ⟨by simp, fun _ _ => ?_⟩
  cases infos with
  | nil => simp
  | cons minNumDigits others =>
      refine avoids_bind.mpr ⟨by simp, fun digits _ => avoids_bind.mpr ⟨by simp, fun max _ => ?_⟩⟩
      refine avoids_bind.mpr ⟨by simp, fun error _ => avoids_bind.mpr ⟨by simp, fun least _ => ?_⟩⟩
      refine avoids_bind.mpr ⟨by simp, fun suffix _ => avoids_bind.mpr ⟨by simp, fun span _ => ?_⟩⟩
      dsimp only
      split
      · simp
      · simp

@[simp] theorem onlyPanics_getMinNbDigits (info : OracleNumericInfo) :
    OnlyPanics info.getMinNbDigits := by
  unfold OracleNumericInfo.getMinNbDigits
  split
  · simp
  · simp

@[simp] theorem onlyPanics_reorderToMinFirst (infos : List ℕ) :
    OnlyPanics (reorderToMinFirst infos) := by
  unfold reorderToMinFirst
  split
  · simp
  · simp

@[simp] theorem onlyPanics_combinations (n k : ℕ) : OnlyPanics (Dlc.combinations n k) := by
  unfold Dlc.combinations
  split
  · simp
  · split
    · simp
    · simp

@[simp] theorem onlyPanics_combinationsFor {T : Type} (t : MultiTrie T) (path selector : List ℕ) :
    OnlyPanics (t.combinationsFor path selector) := by
  unfold MultiTrie.combinationsFor
  split
  · refine avoids_bind.mpr ⟨by simp, fun least _ => avoids_bind.mpr ⟨by simp, fun ordered _ => ?_⟩⟩
    obtain ⟨minIndex, digitInfos⟩ := ordered
    cases digitInfos with
    | nil => simp
    | cons fewest others => simp [avoids_bind]
  · simp

@[simp] theorem onlyPanics_getMaxCoveringPaths (info : OracleNumericInfo) (threshold : ℕ) :
    OnlyPanics (getMaxCoveringPaths info threshold) := by
  simp [getMaxCoveringPaths, avoids_bind]

end P2PLending.Trie
