import P2PLending.Trie.OracleTries
import P2PLending.Trie.IndexedPaths

/-! The iterators over the tries of several oracles, and the lists that they give. -/

namespace P2PLending.Trie

open Dlc (Result Selects)
open Manager (RangeInfo)
open Manager.Infos (TrieIterInfo)

/-- What a trie of tries holds, as an iterator gives it. -/
def trieIterInfo (entry : List (ℕ × List ℕ) × RangeInfo) : TrieIterInfo where
  indexes := entry.1.map Prod.fst
  paths := entry.1.map Prod.snd
  value := entry.2

structure MultiOracleTrieIter where
  digitTrieIterator : DigitTrieIter (List RangeInfo)
  extraCoverTrieIterator : Option (MultiTrieIterator RangeInfo)
  curRes : Option (List ℕ × List RangeInfo)
  curIndex : ℕ
  /-- The selections that are left, or the panic that asking for one is. -/
  combinationIter : Result (List (List ℕ))

namespace MultiOracleTrieIter

abbrev Returned := Option (Option TrieIterInfo × MultiOracleTrieIter)

/-- The path of a group, padded for an oracle. -/
def oraclePath (info : OracleNumericInfo) (path : List ℕ) (i : ℕ) : Result (List ℕ) := do
  let minNbDigits ← info.getMinNbDigits
  match info.nbDigits[i]? with
  | none => .error (.panic outOfBounds)
  | some nbDigits => do
      let extraLen ← usizeSub nbDigits minNbDigits
      prePadVec path (extraLen + path.length)

/-- The result that is at hand, or else the next one. -/
def ensureRes (base fuel : ℕ) (it : MultiOracleTrieIter) : Option MultiOracleTrieIter :=
  match it.curRes with
  | some _ => some it
  | none => (it.digitTrieIterator.next base fuel).map fun r =>
      { it with curRes := r.1, digitTrieIterator := r.2 }

def nextExtra (base fuel : ℕ) (it : MultiOracleTrieIter) : Returned :=
  match it.extraCoverTrieIterator with
  | none => some (none, it)
  | some extra => (extra.next base fuel).map fun r =>
      (r.1.map trieIterInfo, { it with extraCoverTrieIterator := some r.2 })

def next (info : OracleNumericInfo) (threshold : ℕ) : (fuel : ℕ) → MultiOracleTrieIter → Returned
  | 0, _ => none
  | fuel + 1, it =>
      match ensureRes info.base fuel it with
      | none => none
      | some it =>
          match it.curRes with
          | none => nextExtra info.base fuel it
          | some (path, values) =>
              match it.combinationIter with
              | .error _ => none
              | .ok [] =>
                  next info threshold fuel { it with
                    curRes := none
                    curIndex := 0
                    combinationIter := Dlc.combinations info.nbDigits.length threshold }
              | .ok (indexes :: selectors) =>
                  match indexes.mapM (oraclePath info path), values[it.curIndex]? with
                  | .ok paths, some value =>
                      some (some { indexes := indexes, paths := paths, value := value },
                        { it with
                          curIndex := it.curIndex + 1
                          combinationIter := .ok selectors })
                  | _, _ => none

end MultiOracleTrieIter

/-- A panic is no iterator. -/
def MultiOracleTrie.iter (t : MultiOracleTrie) : Option MultiOracleTrieIter :=
  let nbOracles := t.oracleNumericInfos.nbDigits.length
  if t.threshold ≤ nbOracles then
    let it : MultiOracleTrieIter :=
      { digitTrieIterator := .new t.digitTrie
        extraCoverTrieIterator := none
        curRes := none
        curIndex := 0
        combinationIter := Dlc.combinations nbOracles t.threshold }
    match t.extraCoverTrie with
    | none => some it
    | some extra =>
        (MultiTrieIterator.new extra).map fun r => { it with extraCoverTrieIterator := some r }
  else none

namespace MultiOracleTrieWithDiff

def iter (t : MultiOracleTrieWithDiff) : Option (MultiTrieIterator RangeInfo) :=
  MultiTrieIterator.new t.multiTrie

def next (base fuel : ℕ) (it : MultiTrieIterator RangeInfo) :
    Option (Option TrieIterInfo × MultiTrieIterator RangeInfo) :=
  (it.next base fuel).map fun r => (r.1.map trieIterInfo, r.2)

end MultiOracleTrieWithDiff

/-! The paths of a selection. -/

/-- A path for an oracle, with zeros for the digits that it has more than another. -/
def paddedPath (info : OracleNumericInfo) (minNbDigits : ℕ) (path : List ℕ) (i : ℕ) : List ℕ :=
  List.replicate (info.nbDigits.getD i 0 - minNbDigits) 0 ++ path

section Paths
variable {info : OracleNumericInfo} {minNbDigits : ℕ} {selector : List ℕ}

theorem OracleNumericInfo.getMinNbDigits_le (least : info.getMinNbDigits = .ok minNbDigits) :
    ∀ nbDigits ∈ info.nbDigits, minNbDigits ≤ nbDigits := by
  rw [getMinNbDigits] at least
  cases found : info.nbDigits.min? with
  | none =>
      rw [found] at least
      cases least
  | some n =>
      rw [found] at least
      cases least
      exact (List.min?_eq_some_iff.mp found).2

theorem prePadVec_more (extra : ℕ) (path : List ℕ) :
    prePadVec path (extra + path.length) = .ok (List.replicate extra 0 ++ path) := by
  rw [prePadVec]
  split
  next same =>
    have none : extra = 0 := by omega
    rw [none]
    rfl
  next =>
    rw [usizeSub, Checked.sub_of_le _ (Nat.le_add_left _ _), Checked.ok_bind, Nat.add_sub_cancel]
    rfl

theorem mapM_eq_map {ε α β : Type} {f : α → Except ε β} {g : α → β} {xs : List α}
    (each : ∀ x ∈ xs, f x = .ok (g x)) : xs.mapM f = .ok (xs.map g) := by
  induction xs with
  | nil => rfl
  | cons x xs ih =>
      rw [List.mapM_cons, each x List.mem_cons_self, Checked.ok_bind,
        ih fun y listed => each y (List.mem_cons_of_mem x listed), Checked.ok_bind]
      rfl

theorem getD_mem_of_selects (selects : Selects info.nbDigits.length 0 selector) {i : ℕ}
    (listed : i ∈ selector) :
    info.nbDigits[i]? = some (info.nbDigits.getD i 0) ∧
      info.nbDigits.getD i 0 ∈ info.nbDigits := by
  have inside := (selects.bounds i listed).2
  have found := List.getElem?_eq_getElem inside
  rw [List.getD_eq_getElem?_getD, found, Option.getD_some]
  exact ⟨rfl, List.getElem_mem inside⟩

theorem groupPaths_eq (least : info.getMinNbDigits = .ok minNbDigits)
    (selects : Selects info.nbDigits.length 0 selector) (group : List ℕ) :
    MultiOracleTrie.groupPaths info group selector =
      .ok (selector.map (paddedPath info minNbDigits group)) := by
  rw [MultiOracleTrie.groupPaths, least, Checked.ok_bind, info.selected_eq selects]
  have mapped : (selector.map (paddedPath info minNbDigits group)) =
      (selector.map fun i => info.nbDigits.getD i 0).map fun nbDigits =>
        List.replicate (nbDigits - minNbDigits) 0 ++ group := by
    rw [List.map_map]
    rfl
  rw [mapped]
  refine mapM_eq_map fun nbDigits listed => ?_
  obtain ⟨i, chosen, rfl⟩ := List.mem_map.mp listed
  have enough := info.getMinNbDigits_le least _ (getD_mem_of_selects selects chosen).2
  have length : group.length + info.nbDigits.getD i 0 - minNbDigits =
      info.nbDigits.getD i 0 - minNbDigits + group.length := by omega
  rw [usizeSub, Checked.sub_of_le _ (by omega), Checked.ok_bind, length, prePadVec_more]

theorem oraclePaths_eq (least : info.getMinNbDigits = .ok minNbDigits)
    (selects : Selects info.nbDigits.length 0 selector) (path : List ℕ) :
    selector.mapM (MultiOracleTrieIter.oraclePath info path) =
      .ok (selector.map (paddedPath info minNbDigits path)) := by
  refine mapM_eq_map fun i chosen => ?_
  obtain ⟨found, member⟩ := getD_mem_of_selects selects chosen
  rw [MultiOracleTrieIter.oraclePath, least, Checked.ok_bind, found]
  dsimp only
  rw [usizeSub, Checked.sub_of_le _ (info.getMinNbDigits_le least _ member), Checked.ok_bind,
    prePadVec_more]
  rfl

end Paths

/-- The infos of a group, one for each selection. -/
def groupInfos (info : OracleNumericInfo) (minNbDigits : ℕ) (selectors : List (List ℕ))
    (entry : List ℕ × List RangeInfo) : List TrieIterInfo :=
  (selectors.zip entry.2).map fun x =>
    { indexes := x.1, paths := x.1.map (paddedPath info minNbDigits entry.1), value := x.2 }

namespace MultiOracleTrieIter
variable {info : OracleNumericInfo} {threshold minNbDigits : ℕ} {it : MultiOracleTrieIter}
  {items : List TrieIterInfo}

theorem ensureRes_mono {base fuel fuel' : ℕ} {it' : MultiOracleTrieIter} (below : fuel ≤ fuel')
    (returned : ensureRes base fuel it = some it') : ensureRes base fuel' it = some it' := by
  rw [ensureRes] at returned ⊢
  cases kept : it.curRes with
  | some res =>
      rw [kept] at returned
      exact returned
  | none =>
      rw [kept] at returned
      obtain ⟨r, gave, same⟩ := Option.map_eq_some_iff.mp returned
      dsimp only
      rw [DigitTrieIter.next_steady.mono gave below]
      exact congrArg some same

theorem nextExtra_mono {base fuel : ℕ} {r : Option TrieIterInfo × MultiOracleTrieIter}
    (returned : nextExtra base fuel it = some r) : nextExtra base (fuel + 1) it = some r := by
  rw [nextExtra] at returned ⊢
  cases kept : it.extraCoverTrieIterator with
  | none =>
      rw [kept] at returned
      exact returned
  | some extra =>
      rw [kept] at returned
      obtain ⟨r', gave, same⟩ := Option.map_eq_some_iff.mp returned
      dsimp only
      rw [MultiTrieIterator.next_steady _ _ _ gave]
      exact congrArg some same

theorem next_steady : Steady (next info threshold) := by
  intro fuel
  induction fuel with
  | zero =>
      intro it r returned
      cases returned
  | succ fuel ih =>
      intro it r returned
      rw [next] at returned ⊢
      cases ensured : ensureRes info.base fuel it with
      | none =>
          rw [ensured] at returned
          cases returned
      | some it' =>
          rw [ensured] at returned
          rw [ensureRes_mono (Nat.le_succ fuel) ensured]
          dsimp only at returned ⊢
          cases kept : it'.curRes with
          | none =>
              rw [kept] at returned
              exact nextExtra_mono returned
          | some res =>
              rw [kept] at returned
              cases left : it'.combinationIter with
              | error e =>
                  rw [left] at returned
                  cases returned
              | ok selectors =>
                  rw [left] at returned
                  cases selectors with
                  | nil => exact ih _ _ returned
                  | cons indexes selectors => exact returned

/-- What the trie for the values out of bounds still gives. -/
def ExtraGives (base : ℕ) : Option (MultiTrieIterator RangeInfo) → List TrieIterInfo → Prop
  | none, items => items = []
  | some extra, items => ∃ entries, Drains (MultiTrieIterator.next base) extra entries ∧
      items = entries.map trieIterInfo

/-- When the trie of the groups has been walked, a call goes on in the other one. -/
theorem next_ended {digits : DigitTrieIter (List RangeInfo)} (ended : digits.indexStack = [])
    (extra : Option (MultiTrieIterator RangeInfo)) (i : ℕ) (left : Result (List (List ℕ)))
    (fuel : ℕ) : next info threshold (fuel + 2) ⟨digits, extra, none, i, left⟩ =
      nextExtra info.base (fuel + 1) ⟨digits, extra, none, i, left⟩ := by
  have last : digits.next info.base (fuel + 1) = some (none, digits) := by
    rw [DigitTrieIter.next, ended]
  have same : ensureRes info.base (fuel + 1) ⟨digits, extra, none, i, left⟩ =
      some ⟨digits, extra, none, i, left⟩ := by
    rw [ensureRes]
    dsimp only
    rw [last]
    rfl
  rw [next, same]

/-- By induction on what the values out of bounds give. -/
theorem extra_drains {digits : DigitTrieIter (List RangeInfo)} (ended : digits.indexStack = [])
    {extra : Option (MultiTrieIterator RangeInfo)} (gives : ExtraGives info.base extra items)
    (i : ℕ) (left : Result (List (List ℕ))) :
    Drains (next info threshold) ⟨digits, extra, none, i, left⟩ items := by
  cases extra with
  | none =>
      rw [show items = [] from gives]
      exact .done 2 (next_ended ended none i left 0)
  | some extra =>
      obtain ⟨entries, drains, rfl⟩ := gives
      induction drains with
      | @done extra after fuel last =>
          have returned : next info threshold (fuel + 2) ⟨digits, some extra, none, i, left⟩ =
              some (none, ⟨digits, some after, none, i, left⟩) := by
            rw [next_ended ended, nextExtra]
            dsimp only
            rw [MultiTrieIterator.next_steady _ _ _ last]
            rfl
          exact .done _ returned
      | @item extra after x xs fuel gave _ ih =>
          have returned : next info threshold (fuel + 2) ⟨digits, some extra, none, i, left⟩ =
              some (some (trieIterInfo x), ⟨digits, some after, none, i, left⟩) := by
            rw [next_ended ended, nextExtra]
            dsimp only
            rw [MultiTrieIterator.next_steady _ _ _ gave]
            rfl
          exact .item _ returned ih

section Groups
variable {digits : DigitTrieIter (List RangeInfo)} {extra : Option (MultiTrieIterator RangeInfo)}
  {selectors : List (List ℕ)}

/-- By induction on the selections of a group that are left. -/
theorem group_drains (least : info.getMinNbDigits = .ok minNbDigits)
    (later : Drains (next info threshold)
      ⟨digits, extra, none, 0, Dlc.combinations info.nbDigits.length threshold⟩ items)
    (path : List ℕ) (values : List RangeInfo) {i : ℕ}
    (selects : ∀ selector ∈ selectors, Selects info.nbDigits.length 0 selector)
    (length : values.length = i + selectors.length) :
    Drains (next info threshold) ⟨digits, extra, some (path, values), i, .ok selectors⟩
      (groupInfos info minNbDigits selectors (path, values.drop i) ++ items) := by
  induction selectors generalizing i with
  | nil =>
      rw [groupInfos, List.zip_nil_left]
      refine later.later next_steady 0 fun fuel _ => ?_
      rw [next]
      rfl
  | cons indexes selectors ih =>
      have inside : i < values.length := by
        rw [length, List.length_cons]
        omega
      have rest := ih (i := i + 1)
        (fun selector listed => selects selector (List.mem_cons_of_mem indexes listed))
        (by rw [length, List.length_cons]; omega)
      rw [groupInfos, List.drop_eq_getElem_cons inside, List.zip_cons_cons, List.map_cons]
      refine .item 1 ?_ rest
      rw [next]
      dsimp only [ensureRes]
      rw [oraclePaths_eq least (selects indexes List.mem_cons_self),
        List.getElem?_eq_getElem inside]

/-- By induction on the groups that are left. -/
theorem groups_drain (least : info.getMinNbDigits = .ok minNbDigits)
    {entries : List (List ℕ × List RangeInfo)} (gives : DigitTrieIter.Gives info.base digits entries)
    (each : ∀ entry ∈ entries,
      Dlc.combinations info.nbDigits.length threshold = .ok selectors ∧
        entry.2.length = selectors.length)
    (extraGives : ExtraGives info.base extra items) :
    Drains (next info threshold)
      ⟨digits, extra, none, 0, Dlc.combinations info.nbDigits.length threshold⟩
      (entries.flatMap (groupInfos info minNbDigits selectors) ++ items) := by
  induction gives with
  | @done digits after fuel last empty =>
      refine Drains.same next_steady (fuel + 2) (fun more below => ?_)
        (extra_drains empty extraGives 0 (Dlc.combinations info.nbDigits.length threshold))
      obtain ⟨more, rfl⟩ := Nat.exists_eq_add_of_le below
      have first : ensureRes info.base (fuel + 1 + more)
          ⟨digits, extra, none, 0, Dlc.combinations info.nbDigits.length threshold⟩ =
          some ⟨after, extra, none, 0, Dlc.combinations info.nbDigits.length threshold⟩ := by
        rw [ensureRes]
        dsimp only
        rw [DigitTrieIter.next_steady.mono last (by omega)]
        rfl
      have whole : fuel + 2 + more = fuel + more + 2 := by omega
      have part : fuel + 1 + more = fuel + more + 1 := by omega
      rw [part] at first
      rw [whole, next_ended empty, next, first]
  | @item digits after entry entries fuel gave _ ih =>
      have later := ih fun other listed => each other (List.mem_cons_of_mem entry listed)
      obtain ⟨all, length⟩ := each entry List.mem_cons_self
      have selects := fun selector listed => (Dlc.combinations_selects all selector listed).1
      have group := group_drains (i := 0) least later entry.1 entry.2 selects (by omega)
      rw [List.drop_zero] at group
      rw [List.flatMap_cons, List.append_assoc]
      refine Drains.same next_steady (fuel + 1) (fun more below => ?_) group
      obtain ⟨more, rfl⟩ := Nat.exists_eq_add_of_le below
      have first : ensureRes info.base (fuel + more)
          ⟨digits, extra, none, 0, Dlc.combinations info.nbDigits.length threshold⟩ =
          some ⟨after, extra, some entry, 0, .ok selectors⟩ := by
        rw [ensureRes, all]
        dsimp only
        rw [DigitTrieIter.next_steady.mono gave (Nat.le_add_right fuel more)]
        rfl
      have whole : fuel + 1 + more = fuel + more + 1 := by omega
      rw [whole, next, next, first]
      rfl

end Groups

end MultiOracleTrieIter

end P2PLending.Trie
