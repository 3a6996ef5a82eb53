import P2PLending.Trie.CombinationDigits
import P2PLending.Trie.GroupPartition

/-! When a trie is generated to its end: everything that is to be written can be computed, no path
of it is empty, and there are adaptor indexes left for it. -/

namespace P2PLending.Trie

open Dlc (Result u64Limit Selects)
open Manager (RangeInfo)
open Manager.Infos (RangePayout TrieIterInfo)

/-- A callback that fails for nothing but an adaptor index that leaves the machine word. -/
def Gives (getValue : GetValue Progress RangeInfo) : Prop :=
  ∀ paths indexes p, (∃ r, getValue paths indexes p = .ok r) ↔ p.adaptorIndex + 1 < u64Limit

theorem usizeAdd_exists {a b : ℕ} : (∃ c, usizeAdd a b = .ok c) ↔ a + b < u64Limit := by
  simp only [usizeAdd, Checked.add_eq_ok, exists_and_left, exists_eq, and_true]

theorem getValueCallback_gives (cetIndex : ℕ) : Gives (getValueCallback cetIndex) := by
  intro paths indexes p
  rw [← usizeAdd_exists, getValueCallback]
  constructor
  · intro called
    obtain ⟨next, added, _⟩ := Checked.exists_bind_ok.mp called
    exact ⟨next, added⟩
  · rintro ⟨next, added⟩
    exact Checked.exists_bind_ok.mpr ⟨next, added, _, rfl⟩

theorem getLastValue_gives {outcomes : List RangePayout} (some : outcomes ≠ []) :
    Gives (getLastValue outcomes) := by
  intro paths indexes p
  have length := List.length_pos_iff.mpr some
  have least : usizeSub outcomes.length 1 = .ok (outcomes.length - 1) :=
    Checked.sub_of_le _ (by omega)
  rw [getLastValue, least, Checked.ok_bind]
  exact getValueCallback_gives _ paths indexes p

/-- No path is empty. -/
def Filled (key : List (ℕ × List ℕ)) : Prop := ∀ x ∈ key, x.2 ≠ []

instance (key : List (ℕ × List ℕ)) : Decidable (Filled key) :=
  inferInstanceAs (Decidable (∀ x ∈ key, x.2 ≠ []))

theorem filled_zip {indexes : List ℕ} {paths : List (List ℕ)}
    (same : indexes.length = paths.length) :
    Filled (indexes.zip paths) ↔ ∀ p ∈ paths, p ≠ [] := by
  have listed : paths = (indexes.zip paths).map Prod.snd := (List.map_snd_zip same.ge).symm
  conv_rhs => rw [listed, List.forall_mem_map]
  rfl

/-- There are adaptor indexes for so many more infos. -/
def Progress.Room (p : Progress) (more : ℕ) : Prop := p.adaptorIndex + more < u64Limit

/-! Tries of tries. -/

section Multi
variable {t : MultiTrie RangeInfo} {info : OracleNumericInfo} {nbRequired start : ℕ}
  {getValue : GetValue Progress RangeInfo} {s s' : MultiTrie RangeInfo × Progress}

/-- A trie that goes on being generated. -/
structure MultiOpen (t : MultiTrie RangeInfo) (start : ℕ) (s : MultiTrie RangeInfo × Progress) :
    Prop where
  ready : MultiReady t start s
  accepting : s.1.Accepting
  room : s.2.Room 0

theorem PathsWritten.count {keys : List (List (ℕ × List ℕ))} (written : PathsWritten s keys s')
    (before : MultiReady t start s) (after : MultiReady t start s') :
    s'.2.adaptorIndex = s.2.adaptorIndex + keys.length := by
  obtain ⟨writes, rfl, _, infos⟩ := written
  rw [after.counts.next, before.counts.next, infos, List.length_append, List.length_map,
    List.length_map, Nat.add_assoc]

theorem insertPaths_room (gives : Gives getValue) (opened : MultiOpen t start s)
    {x : List ℕ × List (List ℕ)} (placed : t.Placed x) :
    (∃ s', MultiTrie.insertPaths getValue s x = .ok s') ↔
      Filled (x.1.zip x.2) ∧ s.2.Room 1 := by
  have same : x.1.length = x.2.length := placed.indexes.trans placed.paths.symm
  rw [filled_zip same, Progress.Room, ← gives x.2 x.1 s.2]
  exact MultiTrie.insertPaths_exists opened.accepting (opened.ready.shape.placed.mpr placed)

theorem insertPaths_keeps (new : t.New info nbRequired) (notes : Notes getValue)
    (gives : Gives getValue) (opened : MultiOpen t start s) {x : List ℕ × List (List ℕ)}
    (placed : t.Placed x) (inserted : MultiTrie.insertPaths getValue s x = .ok s') :
    MultiOpen t start s' ∧ s'.2.adaptorIndex = s.2.adaptorIndex + [x.1.zip x.2].length := by
  have length := placed.indexes
  have length' := placed.paths
  rw [new.required] at length length'
  obtain ⟨ready, wrote⟩ := insertPaths_writes new notes opened.ready ⟨length, length'⟩ inserted
  have count := wrote.count opened.ready ready
  refine ⟨⟨ready, MultiTrie.insertPaths_accepting opened.accepting
    (opened.ready.shape.placed.mpr placed) inserted, ?_⟩, count⟩
  rw [Progress.Room, count]
  exact ((insertPaths_room gives opened placed).mp ⟨s', inserted⟩).2

theorem mapM_keys (indexed : List (List ℕ × List (List ℕ)))
    {kss : List (List (List (ℕ × List ℕ)))}
    (mapped : indexed.mapM (fun x => (.ok [x.1.zip x.2] : Result _)) = .ok kss) :
    kss.flatten = indexed.map fun x => x.1.zip x.2 := by
  rw [mapM_eq_map fun _ _ => rfl, Except.ok.injEq] at mapped
  rw [← mapped, ← List.flatMap_def, ← List.map_eq_flatMap]

/-- One after the other. -/
theorem insertAll_keeps (new : t.New info nbRequired) (notes : Notes getValue)
    (gives : Gives getValue) {indexed : List (List ℕ × List (List ℕ))}
    (placed : ∀ x ∈ indexed, t.Placed x) (opened : MultiOpen t start s)
    (inserted : indexed.foldlM (MultiTrie.insertPaths getValue) s = .ok s') :
    MultiOpen t start s' ∧
      s'.2.adaptorIndex = s.2.adaptorIndex + (indexed.map fun x => x.1.zip x.2).length := by
  obtain ⟨opened', kss, mapped, count⟩ := Checked.foldlM_collects
    (g := fun x : List ℕ × List (List ℕ) => (.ok [x.1.zip x.2] : Result _))
    (R := fun s keys s' => s'.2.adaptorIndex = s.2.adaptorIndex + keys.length)
    rfl (fun first second => by rw [second, first, List.length_append, Nat.add_assoc])
    (fun x listed kept step => by
      obtain ⟨kept', count⟩ := insertPaths_keeps new notes gives kept (placed x listed) step
      exact ⟨kept', _, rfl, count⟩) opened inserted
  rw [mapM_keys indexed mapped] at count
  exact ⟨opened', count⟩

theorem insertAll_room (new : t.New info nbRequired) (notes : Notes getValue)
    (gives : Gives getValue) {indexed : List (List ℕ × List (List ℕ))}
    (placed : ∀ x ∈ indexed, t.Placed x) (opened : MultiOpen t start s) :
    (∃ s', indexed.foldlM (MultiTrie.insertPaths getValue) s = .ok s') ↔
      (∀ key ∈ indexed.map fun x => x.1.zip x.2, Filled key) ∧
        s.2.Room (indexed.map fun x => x.1.zip x.2).length := by
  have loop := Checked.foldlM_room (f := MultiTrie.insertPaths getValue)
    (g := fun x : List ℕ × List (List ℕ) => (.ok [x.1.zip x.2] : Result _)) (P := MultiOpen t start)
    (Q := Filled) (u := fun s => s.2.adaptorIndex) (n := u64Limit) (l := indexed)
    (fun x listed kept => by
      rw [insertPaths_room gives kept (placed x listed)]
      simp [Progress.Room])
    (fun x listed kept step => by
      obtain ⟨kept', count⟩ := insertPaths_keeps new notes gives kept (placed x listed) step
      exact ⟨kept', _, rfl, count⟩) opened opened.room
  rw [loop]
  constructor
  · rintro ⟨kss, mapped, each, fits⟩
    rw [mapM_keys indexed mapped] at each fits
    exact ⟨each, fits⟩
  · rintro ⟨each, fits⟩
    obtain ⟨kss, mapped⟩ : ∃ kss, indexed.mapM
        (fun x => (.ok [x.1.zip x.2] : Result (List (List (ℕ × List ℕ))))) = .ok kss :=
      ⟨_, mapM_eq_map fun _ _ => rfl⟩
    refine ⟨kss, mapped, ?_⟩
    rw [mapM_keys indexed mapped]
    exact ⟨each, fits⟩

section Group
variable {group : List ℕ}

/-- What is inserted for a group. -/
theorem insert_placed (new : t.New info nbRequired) (base2 : 2 ≤ info.base)
    (opened : MultiOpen t start s) (digits : Digits info.base group)
    {indexed : List (List ℕ × List (List ℕ))} (computed : s.1.indexedPaths group = .ok indexed) :
    t.indexedPaths group = .ok indexed ∧ ∀ x ∈ indexed, t.Placed x := by
  rw [opened.ready.shape.indexedPaths] at computed
  have tries : t.nbTries = t.oracleNumericInfos.nbDigits.length := by
    rw [new.tries, new.infos]
  rw [← new.infos] at base2 digits
  exact ⟨computed, MultiTrie.indexedPaths_placed base2 tries digits computed⟩

theorem insert_keeps (new : t.New info nbRequired) (base2 : 2 ≤ info.base)
    (notes : Notes getValue) (gives : Gives getValue) (opened : MultiOpen t start s)
    (digits : Digits info.base group) (inserted : s.1.insert getValue group s.2 = .ok s') :
    MultiOpen t start s' ∧ ∃ keys, groupKeys t group = .ok keys ∧
      s'.2.adaptorIndex = s.2.adaptorIndex + keys.length := by
  obtain ⟨indexed, computed, all⟩ := Checked.bind_eq_ok.mp inserted
  obtain ⟨computed', placed⟩ := insert_placed new base2 opened digits computed
  obtain ⟨opened', count⟩ := insertAll_keeps new notes gives placed opened all
  refine ⟨opened', _, ?_, count⟩
  rw [groupKeys, computed']
  rfl

theorem insert_room (new : t.New info nbRequired) (base2 : 2 ≤ info.base)
    (notes : Notes getValue) (gives : Gives getValue) (opened : MultiOpen t start s)
    (digits : Digits info.base group) :
    (∃ s', s.1.insert getValue group s.2 = .ok s') ↔ ∃ keys, groupKeys t group = .ok keys ∧
      (∀ key ∈ keys, Filled key) ∧ s.2.Room keys.length := by
  rw [MultiTrie.insert, groupKeys]
  constructor
  · intro inserted
    obtain ⟨indexed, computed, all⟩ := Checked.exists_bind_ok.mp inserted
    obtain ⟨computed', placed⟩ := insert_placed new base2 opened digits computed
    refine ⟨_, Checked.bind_eq_ok.mpr ⟨indexed, computed', rfl⟩, ?_⟩
    exact (insertAll_room new notes gives placed opened).mp all
  · rintro ⟨keys, mapped, fits⟩
    obtain ⟨indexed, computed, last⟩ := Checked.bind_eq_ok.mp mapped
    cases last
    rw [← opened.ready.shape.indexedPaths] at computed
    have placed := (insert_placed new base2 opened digits computed).2
    exact Checked.exists_bind_ok.mpr
      ⟨indexed, computed, (insertAll_room new notes gives placed opened).mpr fits⟩

end Group

/-! The values past the largest range. -/

theorem coveringPath_digits {base : ℕ} (base2 : 2 ≤ base) (minNbDigits counter : ℕ) :
    Digits base (coveringPath minNbDigits counter) := by
  rw [coveringPath]
  intro d listed
  split at listed
  next =>
    rw [List.eq_of_mem_replicate listed]
    omega
  next =>
    rcases List.mem_append.mp listed with zero | one
    · rw [List.eq_of_mem_replicate zero]
      omega
    · rw [List.mem_singleton.mp one]
      omega

theorem getMaxCoveringPaths_placed (new : t.New info nbRequired) (base2 : 2 ≤ info.base)
    {keys : List (List (ℕ × List ℕ))} (listed : getMaxCoveringPaths info nbRequired = .ok keys) :
    ∀ x ∈ keys.map List.unzip, t.Placed x := by
  have lengths := getMaxCoveringPaths_length listed
  obtain ⟨minNbDigits, _, rest⟩ := Checked.bind_eq_ok.mp listed
  obtain ⟨combinations, all, last⟩ := Checked.bind_eq_ok.mp rest
  cases last
  intro x mapped
  obtain ⟨key, member, rfl⟩ := List.mem_map.mp mapped
  have length := lengths key member
  obtain ⟨combination, chosen, member⟩ := List.mem_flatMap.mp member
  have selects := (Dlc.combinations_selects all combination chosen).1
  have indexes := coveringPathsFor_indexes selects member
  obtain ⟨counters, _, rfl⟩ := mem_coveringPathsFor member
  refine ⟨?_, ?_, ?_, ?_⟩
  · rw [List.unzip_fst, indexes, new.tries]
    exact selects
  · rw [List.unzip_fst, List.length_map, length, new.required]
  · rw [List.unzip_snd, List.length_map, length, new.required]
  · intro p taken
    rw [List.unzip_snd, coveringPaths, List.map_map] at taken
    obtain ⟨pair, _, rfl⟩ := List.mem_map.mp taken
    rw [new.infos]
    exact coveringPath_digits base2 minNbDigits pair.1

theorem insertMaxPaths_keeps (new : t.New info nbRequired) (base2 : 2 ≤ info.base)
    (notes : Notes getValue) (gives : Gives getValue) (opened : MultiOpen t start s)
    (inserted : s.1.insertMaxPaths getValue s.2 = .ok s') :
    MultiOpen t start s' ∧ ∃ keys, getMaxCoveringPaths info nbRequired = .ok keys ∧
      s'.2.adaptorIndex = s.2.adaptorIndex + keys.length := by
  obtain ⟨keys, computed, all⟩ := Checked.bind_eq_ok.mp inserted
  rw [opened.ready.shape.oracleNumericInfos, opened.ready.shape.nbRequired, new.infos,
    new.required] at computed
  obtain ⟨opened', count⟩ := insertAll_keeps new notes gives
    (getMaxCoveringPaths_placed new base2 computed) opened all
  rw [map_zip_unzip] at count
  exact ⟨opened', keys, computed, count⟩

theorem insertMaxPaths_room (new : t.New info nbRequired) (base2 : 2 ≤ info.base)
    (notes : Notes getValue) (gives : Gives getValue) (opened : MultiOpen t start s) :
    (∃ s', s.1.insertMaxPaths getValue s.2 = .ok s') ↔
      ∃ keys, getMaxCoveringPaths info nbRequired = .ok keys ∧ (∀ key ∈ keys, Filled key) ∧
        s.2.Room keys.length := by
  rw [MultiTrie.insertMaxPaths, opened.ready.shape.oracleNumericInfos,
    opened.ready.shape.nbRequired, new.infos, new.required, Checked.exists_bind_ok]
  refine exists_congr fun keys => and_congr_right fun computed => ?_
  have all := insertAll_room new notes gives (getMaxCoveringPaths_placed new base2 computed) opened
  rw [map_zip_unzip] at all
  exact all

end Multi

theorem rangeGroups_digits {info : OracleNumericInfo} (base2 : 2 ≤ info.base)
    {outcome : RangePayout} {groups : List (List ℕ)}
    (grouped : rangeGroups info outcome = .ok groups) : ∀ g ∈ groups, Digits info.base g := by
  rw [rangeGroups] at grouped
  split at grouped
  next => cases grouped
  next =>
    obtain ⟨minNbDigits, _, rest⟩ := Checked.bind_eq_ok.mp grouped
    obtain ⟨past, _, rest⟩ := Checked.bind_eq_ok.mp rest
    obtain ⟨stop, _, computed⟩ := Checked.bind_eq_ok.mp rest
    obtain ⟨_, _, _, _, _, _, _, prefixes⟩ := groups_ok base2 computed
    exact fun g listed => (prefixes g listed).2

section WithDiff
variable {t : MultiTrie RangeInfo} {info : OracleNumericInfo} {nbRequired start : ℕ}
  {s s' : MultiTrie RangeInfo × Progress}

theorem withDiff_insertRange_keeps (new : t.New info nbRequired) (base2 : 2 ≤ info.base)
    (opened : MultiOpen t start s) {outcome : RangePayout × ℕ}
    (inserted : MultiOracleTrieWithDiff.insertRange info s outcome = .ok s') :
    MultiOpen t start s' ∧ ∃ keys, rangeKeys info t outcome.1 = .ok keys ∧
      s'.2.adaptorIndex = s.2.adaptorIndex + keys.length := by
  obtain ⟨groups, grouped, all⟩ := Checked.bind_eq_ok.mp inserted
  have digits := rangeGroups_digits base2 grouped
  obtain ⟨opened', kss, mapped, count⟩ := Checked.foldlM_collects (g := groupKeys t)
    (P := MultiOpen t start)
    (R := fun s keys s' => s'.2.adaptorIndex = s.2.adaptorIndex + keys.length)
    rfl (fun first second => by rw [second, first, List.length_append, Nat.add_assoc])
    (fun group listed kept step => insert_keeps new base2 (getValueCallback_notes _)
      (getValueCallback_gives _) kept (digits group listed) step) opened all
  refine ⟨opened', kss.flatten, ?_, count⟩
  rw [rangeKeys, grouped, Checked.ok_bind, mapped]
  rfl

theorem withDiff_insertRange_room (new : t.New info nbRequired) (base2 : 2 ≤ info.base)
    (opened : MultiOpen t start s) (outcome : RangePayout × ℕ) :
    (∃ s', MultiOracleTrieWithDiff.insertRange info s outcome = .ok s') ↔
      ∃ keys, rangeKeys info t outcome.1 = .ok keys ∧ (∀ key ∈ keys, Filled key) ∧
        s.2.Room keys.length := by
  rw [MultiOracleTrieWithDiff.insertRange, rangeKeys, Checked.exists_bind_ok]
  have loop := fun {groups} (grouped : rangeGroups info outcome.1 = .ok groups) =>
    Checked.foldlM_room (g := groupKeys t) (P := MultiOpen t start)
      (f := fun s group => s.1.insert (getValueCallback outcome.2) group s.2)
      (Q := Filled) (u := fun s => s.2.adaptorIndex) (n := u64Limit) (l := groups)
      (fun group listed kept => insert_room new base2 (getValueCallback_notes _)
        (getValueCallback_gives _) kept (rangeGroups_digits base2 grouped group listed))
      (fun group listed kept step => insert_keeps new base2 (getValueCallback_notes _)
        (getValueCallback_gives _) kept (rangeGroups_digits base2 grouped group listed) step)
      opened opened.room
  constructor
  · rintro ⟨groups, grouped, ran⟩
    obtain ⟨kss, mapped, fits⟩ := (loop grouped).mp ran
    refine ⟨kss.flatten, ?_, fits⟩
    rw [grouped, Checked.ok_bind, mapped]
    rfl
  · rintro ⟨keys, computed, fits⟩
    obtain ⟨groups, grouped, rest⟩ := Checked.bind_eq_ok.mp computed
    obtain ⟨kss, mapped, last⟩ := Checked.bind_eq_ok.mp rest
    cases last
    exact ⟨groups, grouped, (loop grouped).mpr ⟨kss, mapped, fits⟩⟩

/-- A trie with allowed differences is generated when all that is to be written can be computed,
has no empty path, and gets adaptor indexes. -/
theorem MultiOracleTrieWithDiff.generate_room {threshold minSupportExp maxErrorExp : ℕ}
    {outcomes : List RangePayout} {t : MultiOracleTrieWithDiff}
    (made : MultiOracleTrieWithDiff.new info threshold minSupportExp maxErrorExp = .ok t)
    (base2 : 2 ≤ info.base) (some : outcomes ≠ []) (word : start < u64Limit) :
    (∃ r, t.generate start outcomes = .ok r) ↔
      ∃ keys, allKeys t outcomes = .ok keys ∧ (∀ key ∈ keys, Filled key) ∧
        start + keys.length < u64Limit := by
  obtain ⟨_, _, rest⟩ := Checked.bind_eq_ok.mp made
  obtain ⟨m, madeMulti, last⟩ := Checked.bind_eq_ok.mp rest
  cases last
  have new := MultiTrie.new_ok madeMulti
  have opened : MultiOpen m start (m, .start start) :=
    ⟨⟨rfl, new.wellFormed, Progress.start_counts start⟩, MultiTrie.new_accepting madeMulti, word⟩
  have loop := Checked.foldlM_room (P := MultiOpen m start)
    (f := MultiOracleTrieWithDiff.insertRange info)
    (g := fun outcome : RangePayout × ℕ => rangeKeys info m outcome.1)
    (Q := Filled) (u := fun s => s.2.adaptorIndex) (n := u64Limit) (l := outcomes.zipIdx)
    (fun outcome _ kept => withDiff_insertRange_room new base2 kept outcome)
    (fun outcome _ kept step => withDiff_insertRange_keeps new base2 kept step)
    opened opened.room
  have ranges := fun {s} (ran : outcomes.zipIdx.foldlM (MultiOracleTrieWithDiff.insertRange info)
      (m, .start start) = .ok s) =>
    Checked.foldlM_collects (P := MultiOpen m start)
      (R := fun s keys s' => s'.2.adaptorIndex = s.2.adaptorIndex + keys.length)
      (g := fun outcome : RangePayout × ℕ => rangeKeys info m outcome.1)
      rfl (fun first second => by rw [second, first, List.length_append, Nat.add_assoc])
      (fun outcome _ kept step => withDiff_insertRange_keeps new base2 kept step) opened ran
  rw [mapM_zipIdx] at loop
  simp only [mapM_zipIdx] at ranges
  have covers : ∀ {s}, MultiOpen m start s →
      ((∃ u, MultiOracleTrieWithDiff.coverLastValues info outcomes s = .ok u) ↔
        ∃ keys, lastKeys info m.nbRequired = .ok keys ∧ (∀ key ∈ keys, Filled key) ∧
          s.2.Room keys.length) := by
    intro s kept
    rw [MultiOracleTrieWithDiff.coverLastValues, lastKeys, new.required]
    split
    next =>
      exact insertMaxPaths_room new base2 (getLastValue_notes outcomes) (getLastValue_gives some)
        kept
    next => simpa using kept.room
  rw [MultiOracleTrieWithDiff.generate, allKeys]
  dsimp only
  constructor
  · intro ran
    obtain ⟨s, inserted, ran⟩ := Checked.exists_bind_ok.mp ran
    obtain ⟨u, covered, _⟩ := Checked.exists_bind_ok.mp ran
    obtain ⟨kss, mapped, each, fits⟩ := loop.mp ⟨s, inserted⟩
    obtain ⟨kept, kss', mapped', count⟩ := ranges inserted
    cases mapped.symm.trans mapped'
    obtain ⟨last, listed, each', fits'⟩ := (covers kept).mp ⟨u, covered⟩
    refine ⟨kss.flatten ++ last, ?_, List.forall_mem_append.mpr ⟨each, each'⟩, ?_⟩
    · rw [mapped, Checked.ok_bind, listed]
      rfl
    · rw [Progress.Room, count] at fits'
      rw [List.length_append, ← Nat.add_assoc]
      exact fits'
  · rintro ⟨keys, computed, each, fits⟩
    obtain ⟨kss, mapped, rest⟩ := Checked.bind_eq_ok.mp computed
    obtain ⟨last, listed, joined⟩ := Checked.bind_eq_ok.mp rest
    cases joined
    rw [List.forall_mem_append] at each
    rw [List.length_append, ← Nat.add_assoc] at fits
    obtain ⟨s, inserted⟩ := loop.mpr ⟨kss, mapped, each.1, (Nat.le_add_right _ _).trans_lt fits⟩
    obtain ⟨kept, kss', mapped', count⟩ := ranges inserted
    cases mapped.symm.trans mapped'
    have room : s.2.Room last.length := by
      rw [Progress.Room, count]
      exact fits
    obtain ⟨u, covered⟩ := (covers kept).mpr ⟨last, listed, each.2, room⟩
    exact Checked.exists_bind_ok.mpr ⟨s, inserted,
      Checked.exists_bind_ok.mpr ⟨u, covered, _, rfl⟩⟩

end WithDiff

end P2PLending.Trie
