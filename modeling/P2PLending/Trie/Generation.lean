import P2PLending.Foundation.CheckedLists
import P2PLending.Trie.OracleTrieIters

/-! What generating a trie writes to it, and the infos that it returns for these writes. -/

namespace P2PLending.Trie

open Dlc (Result)
open Manager (RangeInfo)
open Manager.Infos (RangePayout TrieIterInfo)

/-- The adaptor indexes given out so far follow each other from the first on. -/
structure Progress.Counts (start : ℕ) (p : Progress) : Prop where
  indexes : p.trieInfos.map (·.value.adaptorIndex) = List.range' start p.trieInfos.length
  next : p.adaptorIndex = start + p.trieInfos.length

theorem Progress.start_counts (start : ℕ) : (Progress.start start).Counts start where
  indexes := rfl
  next := rfl

theorem Progress.Counts.push {start : ℕ} {p : Progress} (counts : p.Counts start)
    {info : TrieIterInfo} (index : info.value.adaptorIndex = p.adaptorIndex) :
    Progress.Counts start
      { adaptorIndex := p.adaptorIndex + 1, trieInfos := p.trieInfos ++ [info] } where
  indexes := by
    rw [List.map_append, List.map_singleton, counts.indexes, index, counts.next,
      List.length_append, List.length_singleton, List.range'_concat, Nat.one_mul]
  next := by
    rw [counts.next, List.length_append, List.length_singleton, Nat.add_assoc]

/-- A callback gives out the adaptor index that is next and notes where. -/
def Notes (getValue : GetValue Progress RangeInfo) : Prop :=
  ∀ paths indexes p value p', getValue paths indexes p = .ok (value, p') →
    value.adaptorIndex = p.adaptorIndex ∧
      p' = { adaptorIndex := p.adaptorIndex + 1, trieInfos := p.trieInfos ++
        [{ indexes := indexes, paths := paths, value := value }] }

theorem getValueCallback_notes (cetIndex : ℕ) : Notes (getValueCallback cetIndex) := by
  intro paths indexes p value p' called
  obtain ⟨next, added, last⟩ := Checked.bind_eq_ok.mp called
  obtain ⟨_, rfl⟩ := Checked.add_eq_ok.mp added
  cases last
  exact ⟨rfl, rfl⟩

theorem getLastValue_notes (outcomes : List RangePayout) : Notes (getLastValue outcomes) := by
  intro paths indexes p value p' called
  obtain ⟨cetIndex, _, rest⟩ := Checked.bind_eq_ok.mp called
  exact getValueCallback_notes cetIndex paths indexes p value p' rest

/-! Tries of tries. -/

/-- The values that were written at these paths, and the infos for them. -/
def PathsWritten (s : MultiTrie RangeInfo × Progress) (keys : List (List (ℕ × List ℕ)))
    (s' : MultiTrie RangeInfo × Progress) : Prop :=
  ∃ writes : List (List (ℕ × List ℕ) × RangeInfo), writes.map Prod.fst = keys ∧
    s'.1.find = written s.1.find writes ∧
    s'.2.trieInfos = s.2.trieInfos ++ writes.map trieIterInfo

theorem PathsWritten.refl {s : MultiTrie RangeInfo × Progress} : PathsWritten s [] s :=
  ⟨[], rfl, rfl, (List.append_nil _).symm⟩

theorem PathsWritten.trans {s s' s'' : MultiTrie RangeInfo × Progress}
    {keys keys' : List (List (ℕ × List ℕ))} (first : PathsWritten s keys s')
    (second : PathsWritten s' keys' s'') : PathsWritten s (keys ++ keys') s'' := by
  obtain ⟨writes, rfl, finds, infos⟩ := first
  obtain ⟨writes', rfl, finds', infos'⟩ := second
  refine ⟨writes ++ writes', List.map_append, ?_, ?_⟩
  · rw [finds', finds, written_append]
  · rw [infos', infos, List.map_append, List.append_assoc]

/-- The trie that was made new, with other contents, and the adaptor indexes counted. -/
structure MultiReady (t : MultiTrie RangeInfo) (start : ℕ) (s : MultiTrie RangeInfo × Progress) :
    Prop where
  shape : t.SameShape s.1
  wellFormed : s.1.WellFormed
  counts : s.2.Counts start

/-- What a new trie of tries is. -/
structure MultiTrie.New {T : Type} (info : OracleNumericInfo) (nbRequired : ℕ) (t : MultiTrie T) :
    Prop where
  tries : t.nbTries = info.nbDigits.length
  required : t.nbRequired = nbRequired
  some : nbRequired ≠ 0
  enough : nbRequired ≤ info.nbDigits.length
  infos : t.oracleNumericInfos = info
  wellFormed : t.WellFormed
  find : t.find = fun _ => none

theorem MultiTrie.new_ok {T : Type} {info : OracleNumericInfo} {nbRequired minSupportExp
    maxErrorExp : ℕ} {maximizeCoverage : Bool} {t : MultiTrie T}
    (made : MultiTrie.new info nbRequired minSupportExp maxErrorExp maximizeCoverage = .ok t) :
    t.New info nbRequired := by
  obtain ⟨_, checked, last⟩ := Checked.bind_eq_ok.mp made
  obtain ⟨some, enough, _⟩ := Checked.ensure_eq_ok.mp checked
  cases last
  refine ⟨rfl, rfl, Nat.ne_of_gt some, enough, rfl, fun root listed => ?_, ?_⟩
  · rw [List.eq_of_mem_replicate listed]
    have leaves : decide (nbRequired ≤ 1) = decide (nbRequired - 1 = 0) := by
      refine decide_eq_decide.mpr ?_
      omega
    rw [leaves]
    exact MultiTrieNode.new_wellFormed _ _
  · funext key
    cases key with
    | nil => rfl
    | cons x rest =>
        rw [MultiTrie.find]
        cases placed : (List.replicate (info.nbDigits.length - nbRequired + 1)
            (MultiTrieNode.new (decide (nbRequired ≤ 1)) : MultiTrieNode T))[x.1]? with
        | none => rfl
        | some root =>
            rw [List.eq_of_mem_replicate (List.mem_of_getElem? placed), Option.bind_some,
              MultiTrieNode.new_find]

section Multi
variable {t : MultiTrie RangeInfo} {info : OracleNumericInfo} {nbRequired start : ℕ}
  {getValue : GetValue Progress RangeInfo} {s s' : MultiTrie RangeInfo × Progress}

theorem insertPaths_writes (new : t.New info nbRequired) (notes : Notes getValue)
    (ready : MultiReady t start s) {indexed : List ℕ × List (List ℕ)}
    (length : indexed.1.length = nbRequired ∧ indexed.2.length = nbRequired)
    (inserted : MultiTrie.insertPaths getValue s indexed = .ok s') :
    MultiReady t start s' ∧ PathsWritten s [indexed.1.zip indexed.2] s' := by
  obtain ⟨u, p⟩ := s
  obtain ⟨u', p'⟩ := s'
  have required : u.nbRequired = nbRequired := ready.shape.nbRequired.trans new.required
  have deep : indexed.2.length = u.depth + 1 := by
    have some := new.some
    rw [MultiTrie.depth, required]
    omega
  obtain ⟨value, got, shape, wellFormed, finds⟩ :=
    MultiTrie.insertPaths_ok ready.wellFormed deep inserted
  obtain ⟨index, rfl⟩ := notes _ _ _ _ _ got
  refine ⟨⟨ready.shape.trans shape, wellFormed, ready.counts.push index⟩,
    [(indexed.1.zip indexed.2, value)], rfl, finds, ?_⟩
  have same : trieIterInfo (indexed.1.zip indexed.2, value) =
      { indexes := indexed.1, paths := indexed.2, value := value } := by
    rw [trieIterInfo, List.map_fst_zip (by omega), List.map_snd_zip (by omega)]
  rw [List.map_singleton, same]

/-- One after the other, by induction over the list. -/
theorem insertAll_writes (new : t.New info nbRequired) (notes : Notes getValue)
    {indexed : List (List ℕ × List (List ℕ))}
    (lengths : ∀ x ∈ indexed, x.1.length = nbRequired ∧ x.2.length = nbRequired)
    (ready : MultiReady t start s)
    (inserted : indexed.foldlM (MultiTrie.insertPaths getValue) s = .ok s') :
    MultiReady t start s' ∧ PathsWritten s (indexed.map fun x => x.1.zip x.2) s' := by
  obtain ⟨ready', keys, mapped, writes⟩ := Checked.foldlM_collects
    (g := fun x : List ℕ × List (List ℕ) => (.ok [x.1.zip x.2] : Result _))
    PathsWritten.refl PathsWritten.trans
    (fun x listed kept step => by
      obtain ⟨ready', wrote⟩ := insertPaths_writes new notes kept (lengths x listed) step
      exact ⟨ready', _, rfl, wrote⟩) ready inserted
  rw [mapM_eq_map fun _ _ => rfl] at mapped
  cases mapped
  rw [← List.flatMap_def, ← List.map_eq_flatMap] at writes
  exact ⟨ready', writes⟩

/-- Where a group is written, for all selections. -/
def groupKeys (t : MultiTrie RangeInfo) (group : List ℕ) :
    Result (List (List (ℕ × List ℕ))) := do
  let indexed ← t.indexedPaths group
  return indexed.map fun x => x.1.zip x.2

theorem insert_writes (new : t.New info nbRequired) (notes : Notes getValue)
    (ready : MultiReady t start s) {group : List ℕ}
    (inserted : s.1.insert getValue group s.2 = .ok s') :
    MultiReady t start s' ∧ ∃ keys, groupKeys t group = .ok keys ∧ PathsWritten s keys s' := by
  obtain ⟨indexed, computed, all⟩ := Checked.bind_eq_ok.mp inserted
  rw [ready.shape.indexedPaths] at computed
  have tries : t.nbTries = t.oracleNumericInfos.nbDigits.length := by
    rw [new.tries, new.infos]
  have lengths := MultiTrie.indexedPaths_length tries computed
  rw [new.required] at lengths
  obtain ⟨ready', writes⟩ := insertAll_writes new notes lengths ready all
  exact ⟨ready', _, by rw [groupKeys, computed]; rfl, writes⟩

theorem map_zip_unzip {α β : Type} (keys : List (List (α × β))) :
    (keys.map List.unzip).map (fun x => x.1.zip x.2) = keys := by
  rw [List.map_map]
  exact (List.map_congr_left fun key _ => List.zip_unzip key).trans (List.map_id keys)

theorem insertMaxPaths_writes (new : t.New info nbRequired) (notes : Notes getValue)
    (ready : MultiReady t start s) (inserted : s.1.insertMaxPaths getValue s.2 = .ok s') :
    MultiReady t start s' ∧ ∃ keys, getMaxCoveringPaths info nbRequired = .ok keys ∧
      PathsWritten s keys s' := by
  obtain ⟨keys, computed, all⟩ := Checked.bind_eq_ok.mp inserted
  have infos : s.1.oracleNumericInfos = info := ready.shape.oracleNumericInfos.trans new.infos
  have required : s.1.nbRequired = nbRequired := ready.shape.nbRequired.trans new.required
  rw [infos, required] at computed
  have lengths : ∀ x ∈ keys.map List.unzip, x.1.length = nbRequired ∧ x.2.length = nbRequired := by
    intro x listed
    obtain ⟨key, member, rfl⟩ := List.mem_map.mp listed
    have length := getMaxCoveringPaths_length computed key member
    rw [List.unzip_fst, List.unzip_snd, List.length_map, List.length_map]
    exact ⟨length, length⟩
  obtain ⟨ready', writes⟩ := insertAll_writes new notes lengths ready all
  rw [map_zip_unzip] at writes
  exact ⟨ready', keys, computed, writes⟩

end Multi

/-! Tries of digits, with the infos of all selections at each group. -/

def selectors (info : OracleNumericInfo) (threshold : ℕ) : List (List ℕ) :=
  (Dlc.combinations info.nbDigits.length threshold).toOption.getD []

/-- The values that were written for these groups, and the infos for them. -/
def GroupsWritten (info : OracleNumericInfo) (threshold minNbDigits : ℕ)
    (s : MultiOracleTrie × Progress) (groups : List (List ℕ)) (s' : MultiOracleTrie × Progress) :
    Prop :=
  ∃ writes : List (List ℕ × List RangeInfo), writes.map Prod.fst = groups ∧
    s'.1.digitTrie.find = written s.1.digitTrie.find writes ∧
    s'.2.trieInfos = s.2.trieInfos ++
      writes.flatMap (groupInfos info minNbDigits (selectors info threshold)) ∧
    ∀ w ∈ writes, Dlc.combinations info.nbDigits.length threshold = .ok (selectors info threshold) ∧
      w.2.length = (selectors info threshold).length

structure GroupsReady (t : MultiOracleTrie) (start : ℕ) (s : MultiOracleTrie × Progress) :
    Prop where
  shape : s.1 = { t with digitTrie := s.1.digitTrie }
  wellFormed : s.1.digitTrie.WellFormed t.oracleNumericInfos.base
  counts : s.2.Counts start

section Groups
variable {info : OracleNumericInfo} {threshold minNbDigits start : ℕ}
  {s s' : MultiOracleTrie × Progress}

theorem GroupsWritten.refl : GroupsWritten info threshold minNbDigits s [] s :=
  ⟨[], rfl, rfl, (List.append_nil _).symm, by simp⟩

theorem GroupsWritten.trans {s'' : MultiOracleTrie × Progress} {groups groups' : List (List ℕ)}
    (first : GroupsWritten info threshold minNbDigits s groups s')
    (second : GroupsWritten info threshold minNbDigits s' groups' s'') :
    GroupsWritten info threshold minNbDigits s (groups ++ groups') s'' := by
  obtain ⟨writes, rfl, finds, infos, each⟩ := first
  obtain ⟨writes', rfl, finds', infos', each'⟩ := second
  refine ⟨writes ++ writes', List.map_append, ?_, ?_, fun w listed => ?_⟩
  · rw [finds', finds, written_append]
  · rw [infos', infos, List.flatMap_append, List.append_assoc]
  · rcases List.mem_append.mp listed with early | late
    · exact each w early
    · exact each' w late

/-- The infos of one group, by induction over the selections. -/
theorem coverSelectors_ok (least : info.getMinNbDigits = .ok minNbDigits) {cetIndex : ℕ}
    {group : List ℕ} {chosen : List (List ℕ)} {before after : List RangeInfo × Progress}
    (selects : ∀ selector ∈ chosen, Dlc.Selects info.nbDigits.length 0 selector)
    (counts : before.2.Counts start)
    (covered : chosen.foldlM (MultiOracleTrie.coverSelector info cetIndex group) before =
      .ok after) :
    after.2.Counts start ∧ ∃ values, after.1 = before.1 ++ values ∧
      values.length = chosen.length ∧ after.2.trieInfos = before.2.trieInfos ++
        groupInfos info minNbDigits chosen (group, values) := by
  induction chosen generalizing before with
  | nil =>
      cases covered
      exact ⟨counts, [], (List.append_nil _).symm, rfl, (List.append_nil _).symm⟩
  | cons selector chosen ih =>
      rw [List.foldlM_cons] at covered
      obtain ⟨middle, step, rest⟩ := Checked.bind_eq_ok.mp covered
      obtain ⟨next, added, step⟩ := Checked.bind_eq_ok.mp step
      obtain ⟨_, rfl⟩ := Checked.add_eq_ok.mp added
      obtain ⟨paths, padded, step⟩ := Checked.bind_eq_ok.mp step
      rw [groupPaths_eq least (selects selector List.mem_cons_self)] at padded
      cases padded
      cases step
      obtain ⟨counts', values, more, length, infos⟩ :=
        ih (fun other listed => selects other (List.mem_cons_of_mem selector listed))
          (counts.push rfl) rest
      refine ⟨counts', { cetIndex := cetIndex, adaptorIndex := before.2.adaptorIndex } :: values,
        ?_, congrArg Nat.succ length, ?_⟩
      · rw [more, List.append_assoc]
        rfl
      · rw [infos, List.append_assoc]
        rfl

/-- What an insertion of a group went through. -/
theorem insertGroup_eq_ok {t : MultiOracleTrie} (infos : t.oracleNumericInfos = info)
    (required : t.threshold = threshold) (ready : GroupsReady t start s) {cetIndex : ℕ}
    {group : List ℕ}
    (inserted : MultiOracleTrie.insertGroup cetIndex s group = .ok s') :
    ∃ chosen values p trie, Dlc.combinations info.nbDigits.length threshold = .ok chosen ∧
      chosen.foldlM (MultiOracleTrie.coverSelector info cetIndex group) ([], s.2) =
        .ok (values, p) ∧
      s.1.digitTrie.insert info.base group (fun _ => .ok values) = .ok trie ∧
      s' = ({ s.1 with digitTrie := trie }, p) := by
  have infos' : s.1.oracleNumericInfos = info := by rw [ready.shape, ← infos]
  have required' : s.1.threshold = threshold := by rw [ready.shape, ← required]
  obtain ⟨chosen, all, rest⟩ := Checked.bind_eq_ok.mp inserted
  obtain ⟨⟨values, p⟩, covered, rest⟩ := Checked.bind_eq_ok.mp rest
  obtain ⟨trie, placed, last⟩ := Checked.bind_eq_ok.mp rest
  cases last
  rw [infos'] at all covered placed
  rw [required'] at all
  exact ⟨chosen, values, p, trie, all, covered, placed, rfl⟩

theorem insertGroup_writes {t : MultiOracleTrie} (infos : t.oracleNumericInfos = info)
    (required : t.threshold = threshold) (least : info.getMinNbDigits = .ok minNbDigits)
    (ready : GroupsReady t start s) {cetIndex : ℕ} {group : List ℕ}
    (inserted : MultiOracleTrie.insertGroup cetIndex s group = .ok s') :
    GroupsReady t start s' ∧ GroupsWritten info threshold minNbDigits s [group] s' := by
  obtain ⟨chosen, values, p, trie, all, covered, placed, rfl⟩ :=
    insertGroup_eq_ok infos required ready inserted
  have same : selectors info threshold = chosen := by rw [selectors, all]; rfl
  obtain ⟨counts, values', grown, length, more⟩ := coverSelectors_ok least
    (fun selector listed => (Dlc.combinations_selects all selector listed).1) ready.counts covered
  rw [List.nil_append] at grown
  subst grown
  have wellFormed := ready.wellFormed
  rw [infos] at wellFormed
  obtain ⟨_, got, writes⟩ := DigitNode.insert_ok wellFormed placed
  cases got
  refine ⟨⟨?_, ?_, counts⟩, [(group, values)], rfl, writes.find_eq, ?_, ?_⟩
  · rw [ready.shape]
  · rw [infos]
    exact writes.wellFormed
  · rw [List.flatMap_singleton, same]
    exact more
  · intro w listed
    rw [List.mem_singleton.mp listed, same]
    exact ⟨all, length⟩

theorem insertRange_writes {t : MultiOracleTrie} (infos : t.oracleNumericInfos = info)
    (required : t.threshold = threshold) (least : info.getMinNbDigits = .ok minNbDigits)
    (ready : GroupsReady t start s) {outcome : RangePayout × ℕ}
    (inserted : MultiOracleTrie.insertRange s outcome = .ok s') :
    GroupsReady t start s' ∧ ∃ groups, rangeGroups info outcome.1 = .ok groups ∧
      GroupsWritten info threshold minNbDigits s groups s' := by
  obtain ⟨groups, grouped, all⟩ := Checked.bind_eq_ok.mp inserted
  have infos' : s.1.oracleNumericInfos = info := by rw [ready.shape, ← infos]
  rw [infos'] at grouped
  obtain ⟨ready', lists, mapped, writes⟩ := Checked.foldlM_collects
    (g := fun group : List ℕ => (.ok [group] : Result (List (List ℕ))))
    GroupsWritten.refl GroupsWritten.trans
    (fun group _ kept step => by
      obtain ⟨ready', wrote⟩ := insertGroup_writes infos required least kept step
      exact ⟨ready', _, rfl, wrote⟩) ready all
  rw [mapM_eq_map fun _ _ => rfl] at mapped
  cases mapped
  rw [← List.flatMap_def, List.flatMap_singleton'] at writes
  exact ⟨ready', groups, grouped, writes⟩

end Groups

/-- The groups of all ranges, one range after the other. -/
def allGroups (info : OracleNumericInfo) (outcomes : List RangePayout) : Result (List (List ℕ)) := do
  let groups ← outcomes.mapM (rangeGroups info)
  return groups.flatten

theorem mapM_zipIdx {ε α β : Type} {f : α → Except ε β} (xs : List α) (n : ℕ) :
    (xs.zipIdx n).mapM (fun x => f x.1) = xs.mapM f := by
  induction xs generalizing n with
  | nil => rfl
  | cons x xs ih => rw [List.zipIdx_cons, List.mapM_cons, List.mapM_cons, ih]

/-- What a generated trie holds, and what was returned for it. The extra trie's writes are at
different places. -/
structure Generated (info : OracleNumericInfo) (threshold start : ℕ) (outcomes : List RangePayout)
    (t : MultiOracleTrie) (infos : List TrieIterInfo) (minNbDigits : ℕ)
    (writes : List (List ℕ × List RangeInfo))
    (extra : List (List (ℕ × List ℕ) × RangeInfo)) : Prop where
  oracles : t.oracleNumericInfos = info
  required : t.threshold = threshold
  least : info.getMinNbDigits = .ok minNbDigits
  groups : allGroups info outcomes = .ok (writes.map Prod.fst)
  each : ∀ w ∈ writes, Dlc.combinations info.nbDigits.length threshold =
    .ok (selectors info threshold) ∧ w.2.length = (selectors info threshold).length
  wellFormed : t.digitTrie.WellFormed info.base
  find : t.digitTrie.find = written (fun _ => none) writes
  noExtra : t.extraCoverTrie = none → extra = []
  someExtra : ∀ m, t.extraCoverTrie = some m → m.WellFormed ∧ m.nbRequired ≠ 0 ∧
    m.oracleNumericInfos = info ∧ threshold ≤ info.nbDigits.length ∧
    m.find = written (fun _ => none) extra ∧ (extra.map Prod.fst).Nodup
  returned : infos = writes.flatMap (groupInfos info minNbDigits (selectors info threshold)) ++
    extra.map trieIterInfo
  counted : infos.map (·.value.adaptorIndex) = List.range' start infos.length

theorem OracleNumericInfo.getMinNbDigits_exists (info : OracleNumericInfo)
    (oracles : info.nbDigits ≠ []) : ∃ minNbDigits, info.getMinNbDigits = .ok minNbDigits := by
  rw [getMinNbDigits]
  cases found : info.nbDigits.min? with
  | none => exact absurd (List.min?_eq_none_iff.mp found) oracles
  | some n => exact ⟨n, rfl⟩

theorem MultiOracleTrie.generate_ok {info : OracleNumericInfo} {threshold start : ℕ}
    {outcomes : List RangePayout} {t t' : MultiOracleTrie} {infos : List TrieIterInfo}
    (made : MultiOracleTrie.new info threshold = .ok t)
    (ran : t.generate start outcomes = .ok (t', infos)) :
    ∃ minNbDigits writes extra,
      Generated info threshold start outcomes t' infos minNbDigits writes extra := by
  obtain ⟨_, some, rest⟩ := Checked.bind_eq_ok.mp made
  have oracles := Checked.ensure_eq_ok.mp some
  obtain ⟨extra, newExtra, last⟩ := Checked.bind_eq_ok.mp rest
  cases last
  obtain ⟨minNbDigits, least⟩ := info.getMinNbDigits_exists oracles
  obtain ⟨s, ranges, rest⟩ := Checked.bind_eq_ok.mp ran
  obtain ⟨⟨t'', p⟩, covered, last⟩ := Checked.bind_eq_ok.mp rest
  cases last
  have ready : GroupsReady ⟨.none, threshold, info, extra⟩ start
      (⟨.none, threshold, info, extra⟩, .start start) :=
    ⟨rfl, trivial, Progress.start_counts start⟩
  obtain ⟨ready', lists, mapped, writes, keys, finds, noted, each⟩ := Checked.foldlM_collects
    (g := fun outcome : RangePayout × ℕ => rangeGroups info outcome.1)
    (P := GroupsReady ⟨.none, threshold, info, extra⟩ start)
    (R := GroupsWritten info threshold minNbDigits) GroupsWritten.refl GroupsWritten.trans
    (fun outcome _ kept step => insertRange_writes rfl rfl least kept step) ready ranges
  rw [mapM_zipIdx] at mapped
  have groups : allGroups info outcomes = .ok (writes.map Prod.fst) := by
    rw [allGroups, mapped, keys]
    rfl
  have infos' : s.1.oracleNumericInfos = info := by rw [ready'.shape]
  have required' : s.1.threshold = threshold := by rw [ready'.shape]
  have extra' : s.1.extraCoverTrie = extra := by rw [ready'.shape]
  rw [MultiOracleTrie.newExtraCoverTrie] at newExtra
  rw [MultiOracleTrie.coverLastValues, extra'] at covered
  split at newExtra
  next =>
    obtain ⟨m, madeExtra, last⟩ := Checked.bind_eq_ok.mp newExtra
    cases last
    have new := MultiTrie.new_ok madeExtra
    obtain ⟨⟨m', p'⟩, inserted, last⟩ := Checked.bind_eq_ok.mp covered
    cases last
    have multi : MultiReady m start (m, s.2) := ⟨rfl, new.wellFormed, ready'.counts⟩
    obtain ⟨multi', paths, listed, extra, same, finds', noted'⟩ :=
      insertMaxPaths_writes new (getLastValue_notes outcomes) multi inserted
    refine ⟨minNbDigits, writes, extra, infos', required', least, groups, each, ready'.wellFormed,
      finds, (fun none => by cases none), fun m' some => ?_, ?_, multi'.counts.indexes⟩
    · cases some
      refine ⟨multi'.wellFormed, ?_, multi'.shape.oracleNumericInfos.trans new.infos, new.enough,
        ?_, ?_⟩
      · rw [multi'.shape.nbRequired, new.required]
        exact new.some
      · rw [finds', new.find]
      · rw [same]
        exact getMaxCoveringPaths_nodup listed
    · rw [noted', noted]
      exact congrArg (· ++ _) (List.nil_append _)
  next =>
    cases newExtra
    cases covered
    refine ⟨minNbDigits, writes, [], infos', required', least, groups, each, ready'.wellFormed,
      finds, fun _ => rfl, fun m some => ?_, ?_, ready'.counts.indexes⟩
    · rw [extra'] at some
      cases some
    · rw [noted, List.map_nil, List.append_nil]
      exact List.nil_append _

/-! Tries with a difference between the oracles. -/

/-- Where the groups of a range are written. -/
def rangeKeys (info : OracleNumericInfo) (t : MultiTrie RangeInfo) (outcome : RangePayout) :
    Result (List (List (ℕ × List ℕ))) := do
  let groups ← rangeGroups info outcome
  let keys ← groups.mapM (groupKeys t)
  return keys.flatten

/-- Where the values past those of the oracle with the fewest digits are written. -/
def lastKeys (info : OracleNumericInfo) (threshold : ℕ) : Result (List (List (ℕ × List ℕ))) :=
  if info.hasDiffNbDigits then getMaxCoveringPaths info threshold else .ok []

/-- Where everything is written, one range after the other and then the last values. -/
def allKeys (t : MultiOracleTrieWithDiff) (outcomes : List RangePayout) :
    Result (List (List (ℕ × List ℕ))) := do
  let keys ← outcomes.mapM (rangeKeys t.oracleNumericInfos t.multiTrie)
  let last ← lastKeys t.oracleNumericInfos t.multiTrie.nbRequired
  return keys.flatten ++ last

theorem withDiff_insertRange_writes {t : MultiTrie RangeInfo} {info : OracleNumericInfo}
    {nbRequired start : ℕ} {s s' : MultiTrie RangeInfo × Progress} (new : t.New info nbRequired)
    (ready : MultiReady t start s) {outcome : RangePayout × ℕ}
    (inserted : MultiOracleTrieWithDiff.insertRange info s outcome = .ok s') :
    MultiReady t start s' ∧ ∃ keys, rangeKeys info t outcome.1 = .ok keys ∧
      PathsWritten s keys s' := by
  obtain ⟨groups, grouped, all⟩ := Checked.bind_eq_ok.mp inserted
  obtain ⟨ready', lists, mapped, writes⟩ := Checked.foldlM_collects (g := groupKeys t)
    (P := MultiReady t start) PathsWritten.refl PathsWritten.trans
    (fun group _ kept step => insert_writes new (getValueCallback_notes _) kept step) ready all
  refine ⟨ready', lists.flatten, ?_, writes⟩
  rw [rangeKeys, grouped, Checked.ok_bind, mapped]
  rfl

theorem MultiOracleTrieWithDiff.generate_ok {info : OracleNumericInfo} {threshold minSupportExp
    maxErrorExp start : ℕ} {outcomes : List RangePayout} {t t' : MultiOracleTrieWithDiff}
    {infos : List TrieIterInfo}
    (made : MultiOracleTrieWithDiff.new info threshold minSupportExp maxErrorExp = .ok t)
    (ran : t.generate start outcomes = .ok (t', infos)) :
    ∃ writes, allKeys t outcomes = .ok (writes.map Prod.fst) ∧ t'.multiTrie.WellFormed ∧
      t'.multiTrie.nbRequired ≠ 0 ∧
      t'.multiTrie.oracleNumericInfos = info ∧
      t'.multiTrie.find = written (fun _ => none) writes ∧ infos = writes.map trieIterInfo ∧
      infos.map (·.value.adaptorIndex) = List.range' start infos.length := by
  obtain ⟨_, _, rest⟩ := Checked.bind_eq_ok.mp made
  obtain ⟨m, madeMulti, last⟩ := Checked.bind_eq_ok.mp rest
  cases last
  have new := MultiTrie.new_ok madeMulti
  obtain ⟨s, ranges, rest⟩ := Checked.bind_eq_ok.mp ran
  obtain ⟨⟨m', p⟩, covered, last⟩ := Checked.bind_eq_ok.mp rest
  cases last
  have ready : MultiReady m start (m, .start start) :=
    ⟨rfl, new.wellFormed, Progress.start_counts start⟩
  obtain ⟨ready', lists, mapped, writes⟩ := Checked.foldlM_collects
    (g := fun outcome : RangePayout × ℕ => rangeKeys info m outcome.1)
    (P := MultiReady m start) PathsWritten.refl PathsWritten.trans
    (fun outcome _ kept step => withDiff_insertRange_writes new kept step) ready ranges
  rw [mapM_zipIdx] at mapped
  have all : ∃ last, lastKeys info m.nbRequired = .ok last ∧ MultiReady m start (m', p) ∧
      PathsWritten s last (m', p) := by
    rw [MultiOracleTrieWithDiff.coverLastValues] at covered
    rw [lastKeys, new.required]
    split at covered
    next differ =>
      obtain ⟨multi', paths, listed, more⟩ :=
        insertMaxPaths_writes new (getLastValue_notes outcomes) ready' covered
      rw [if_pos differ]
      exact ⟨paths, listed, multi', more⟩
    next same =>
      cases covered
      rw [if_neg same]
      exact ⟨[], rfl, ready', .refl⟩
  obtain ⟨last, covers, ready'', more⟩ := all
  obtain ⟨both, keys, finds, noted⟩ := writes.trans more
  refine ⟨both, ?_, ready''.wellFormed, ?_, ready''.shape.oracleNumericInfos.trans new.infos, ?_,
    noted, ready''.counts.indexes⟩
  · rw [allKeys, mapped, Checked.ok_bind, covers, keys]
    rfl
  · rw [ready''.shape.nbRequired, new.required]
    exact new.some
  · rw [finds, new.find]

end P2PLending.Trie
