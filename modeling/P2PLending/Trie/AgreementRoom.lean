import P2PLending.Trie.GenerationRoom
import P2PLending.Trie.SigningOrder

/-! When a trie for oracles that agree is generated to its end. -/

namespace P2PLending.Trie

open Dlc (Result u64Limit Selects)
open Manager (RangeInfo)
open Manager.Infos (RangePayout TrieIterInfo)

/-- A group with each of the selections that it gets an info for. -/
def groupCovers (info : OracleNumericInfo) (threshold : ℕ) (group : List ℕ) :
    Result (List (List ℕ × List ℕ)) := do
  let chosen ← Dlc.combinations info.nbDigits.length threshold
  return chosen.map fun selector => (group, selector)

def rangeCovers (info : OracleNumericInfo) (threshold : ℕ) (outcome : RangePayout) :
    Result (List (List ℕ × List ℕ)) := do
  let groups ← rangeGroups info outcome
  let covers ← groups.mapM (groupCovers info threshold)
  return covers.flatten

def allCovers (info : OracleNumericInfo) (threshold : ℕ) (outcomes : List RangePayout) :
    Result (List (List ℕ × List ℕ)) := do
  let covers ← outcomes.mapM (rangeCovers info threshold)
  return covers.flatten

section Groups
variable {info : OracleNumericInfo} {threshold minNbDigits start cetIndex : ℕ} {group : List ℕ}
  {t : MultiOracleTrie} {s s' : MultiOracleTrie × Progress}

/-- A trie that goes on being generated. -/
structure GroupsOpen (t : MultiOracleTrie) (start : ℕ) (s : MultiOracleTrie × Progress) :
    Prop where
  ready : GroupsReady t start s
  inBase : s.1.digitTrie.InBase t.oracleNumericInfos.base
  room : s.2.Room 0

theorem coverSelector_room (least : info.getMinNbDigits = .ok minNbDigits) {selector : List ℕ}
    (selects : Selects info.nbDigits.length 0 selector) (s : List RangeInfo × Progress) :
    (∃ s', MultiOracleTrie.coverSelector info cetIndex group s selector = .ok s') ↔
      s.2.Room 1 := by
  rw [MultiOracleTrie.coverSelector, groupPaths_eq least selects, Progress.Room, ← usizeAdd_exists]
  constructor
  · intro covered
    obtain ⟨next, added, _⟩ := Checked.exists_bind_ok.mp covered
    exact ⟨next, added⟩
  · rintro ⟨next, added⟩
    exact Checked.exists_bind_ok.mpr ⟨next, added, _, rfl⟩

theorem coverSelector_counts {selector : List ℕ} {s s' : List RangeInfo × Progress}
    (covered : MultiOracleTrie.coverSelector info cetIndex group s selector = .ok s') :
    s'.2.adaptorIndex = s.2.adaptorIndex + 1 := by
  obtain ⟨next, added, rest⟩ := Checked.bind_eq_ok.mp covered
  obtain ⟨_, rfl⟩ := Checked.add_eq_ok.mp added
  obtain ⟨paths, _, last⟩ := Checked.bind_eq_ok.mp rest
  cases last
  rfl

/-- One selection after the other. -/
theorem coverSelectors_counts {chosen : List (List ℕ)} {before after : List RangeInfo × Progress}
    (covered : chosen.foldlM (MultiOracleTrie.coverSelector info cetIndex group) before =
      .ok after) : after.2.adaptorIndex = before.2.adaptorIndex + chosen.length := by
  induction chosen generalizing before with
  | nil =>
      cases covered
      rfl
  | cons selector chosen ih =>
      rw [List.foldlM_cons] at covered
      obtain ⟨middle, step, rest⟩ := Checked.bind_eq_ok.mp covered
      rw [ih rest, coverSelector_counts step, List.length_cons]
      omega

theorem coverSelectors_room (least : info.getMinNbDigits = .ok minNbDigits)
    {chosen : List (List ℕ)} (selects : ∀ x ∈ chosen, Selects info.nbDigits.length 0 x)
    {before : List RangeInfo × Progress} (room : before.2.Room 0) :
    (∃ after, chosen.foldlM (MultiOracleTrie.coverSelector info cetIndex group) before =
      .ok after) ↔ before.2.Room chosen.length := by
  have loop := Checked.foldlM_room (P := fun _ : List RangeInfo × Progress => True)
    (f := MultiOracleTrie.coverSelector info cetIndex group)
    (g := fun x => (.ok [x] : Result (List (List ℕ)))) (Q := fun _ => True)
    (u := fun s => s.2.adaptorIndex) (n := u64Limit) (l := chosen)
    (fun x listed _ => by
      rw [coverSelector_room least (selects x listed)]
      simp [Progress.Room])
    (fun x _ _ step => ⟨trivial, [x], rfl, coverSelector_counts step⟩) trivial room
  rw [loop, mapM_eq_map fun _ _ => rfl]
  simp only [Except.ok.injEq, exists_eq_left', implies_true, true_and, ← List.flatMap_def,
    List.flatMap_singleton']
  rfl

theorem insertGroup_room (infos : t.oracleNumericInfos = info) (required : t.threshold = threshold)
    (least : info.getMinNbDigits = .ok minNbDigits) (opened : GroupsOpen t start s)
    (digits : Digits info.base group) :
    (∃ s', MultiOracleTrie.insertGroup cetIndex s group = .ok s') ↔
      ∃ covers, groupCovers info threshold group = .ok covers ∧ (∀ c ∈ covers, c.1 ≠ []) ∧
        s.2.Room covers.length := by
  have infos' : s.1.oracleNumericInfos = info := by rw [opened.ready.shape, ← infos]
  have required' : s.1.threshold = threshold := by rw [opened.ready.shape, ← required]
  have inBase := opened.inBase
  rw [infos] at inBase
  constructor
  · rintro ⟨s', inserted⟩
    obtain ⟨chosen, values, p, trie, all, covered, placed, _⟩ :=
      insertGroup_eq_ok infos required opened.ready inserted
    have selects := fun x listed => (Dlc.combinations_selects all x listed).1
    refine ⟨_, Checked.bind_eq_ok.mpr ⟨chosen, all, rfl⟩, ?_, ?_⟩
    · rw [List.forall_mem_map]
      exact fun _ _ => DigitNode.insert_ne_nil placed
    · rw [List.length_map]
      exact (coverSelectors_room least selects opened.room).mp ⟨_, covered⟩
  · rintro ⟨covers, computed, each, room⟩
    obtain ⟨chosen, all, last⟩ := Checked.bind_eq_ok.mp computed
    cases last
    rw [List.length_map] at room
    rw [List.forall_mem_map] at each
    have selects := fun x listed => (Dlc.combinations_selects all x listed).1
    obtain ⟨⟨values, p⟩, covered⟩ : ∃ after, chosen.foldlM
        (MultiOracleTrie.coverSelector info cetIndex group) ([], s.2) = .ok after :=
      (coverSelectors_room least selects opened.room).mpr room
    have some : chosen ≠ [] := by
      have same : selectors info threshold = chosen := by rw [selectors, all]; rfl
      rw [← same] at all ⊢
      exact selectors_ne_nil all
    obtain ⟨selector, listed⟩ := List.exists_mem_of_ne_nil _ some
    rw [MultiOracleTrie.insertGroup]
    dsimp only
    rw [infos', required', all, Checked.ok_bind, covered, Checked.ok_bind]
    refine Checked.exists_bind_ok.mpr ?_
    exact Exists.imp (fun trie both => ⟨both.1, _, rfl⟩)
      (DigitNode.insert_given ⟨values, rfl⟩ inBase digits (each selector listed))

theorem insertGroup_keeps (infos : t.oracleNumericInfos = info) (required : t.threshold = threshold)
    (least : info.getMinNbDigits = .ok minNbDigits) (opened : GroupsOpen t start s)
    (digits : Digits info.base group)
    (inserted : MultiOracleTrie.insertGroup cetIndex s group = .ok s') :
    GroupsOpen t start s' ∧ ∃ covers, groupCovers info threshold group = .ok covers ∧
      s'.2.adaptorIndex = s.2.adaptorIndex + covers.length := by
  have ready := (insertGroup_writes infos required least opened.ready inserted).1
  have wellFormed := opened.ready.wellFormed
  have inBase := opened.inBase
  rw [infos] at wellFormed inBase
  obtain ⟨chosen, values, p, trie, all, covered, placed, rfl⟩ :=
    insertGroup_eq_ok infos required opened.ready inserted
  have selects := fun x listed => (Dlc.combinations_selects all x listed).1
  have count := coverSelectors_counts covered
  refine ⟨⟨ready, ?_, ?_⟩, _, Checked.bind_eq_ok.mpr ⟨chosen, all, rfl⟩, ?_⟩
  · rw [infos]
    exact DigitNode.insert_inBase wellFormed inBase digits placed
  · rw [Progress.Room, count]
    exact (coverSelectors_room least selects opened.room).mp ⟨_, covered⟩
  · rw [List.length_map]
    exact count

theorem insertRange_keeps (infos : t.oracleNumericInfos = info) (required : t.threshold = threshold)
    (least : info.getMinNbDigits = .ok minNbDigits) (base2 : 2 ≤ info.base)
    (opened : GroupsOpen t start s) {outcome : RangePayout × ℕ}
    (inserted : MultiOracleTrie.insertRange s outcome = .ok s') :
    GroupsOpen t start s' ∧ ∃ covers, rangeCovers info threshold outcome.1 = .ok covers ∧
      s'.2.adaptorIndex = s.2.adaptorIndex + covers.length := by
  have infos' : s.1.oracleNumericInfos = info := by rw [opened.ready.shape, ← infos]
  obtain ⟨groups, grouped, all⟩ := Checked.bind_eq_ok.mp inserted
  rw [infos'] at grouped
  have digits := rangeGroups_digits base2 grouped
  obtain ⟨opened', kss, mapped, count⟩ := Checked.foldlM_collects (g := groupCovers info threshold)
    (P := GroupsOpen t start)
    (R := fun s covers s' => s'.2.adaptorIndex = s.2.adaptorIndex + covers.length)
    rfl (fun first second => by rw [second, first, List.length_append, Nat.add_assoc])
    (fun group listed kept step =>
      insertGroup_keeps infos required least kept (digits group listed) step) opened all
  refine ⟨opened', kss.flatten, ?_, count⟩
  rw [rangeCovers, grouped, Checked.ok_bind, mapped]
  rfl

theorem insertRange_room (infos : t.oracleNumericInfos = info) (required : t.threshold = threshold)
    (least : info.getMinNbDigits = .ok minNbDigits) (base2 : 2 ≤ info.base)
    (opened : GroupsOpen t start s) (outcome : RangePayout × ℕ) :
    (∃ s', MultiOracleTrie.insertRange s outcome = .ok s') ↔
      ∃ covers, rangeCovers info threshold outcome.1 = .ok covers ∧ (∀ c ∈ covers, c.1 ≠ []) ∧
        s.2.Room covers.length := by
  have infos' : s.1.oracleNumericInfos = info := by rw [opened.ready.shape, ← infos]
  have loop := fun {groups} (grouped : rangeGroups info outcome.1 = .ok groups) =>
    Checked.foldlM_room (g := groupCovers info threshold) (P := GroupsOpen t start)
      (f := MultiOracleTrie.insertGroup outcome.2) (Q := fun c => c.1 ≠ [])
      (u := fun s => s.2.adaptorIndex) (n := u64Limit) (l := groups)
      (fun group listed kept => insertGroup_room infos required least kept
        (rangeGroups_digits base2 grouped group listed))
      (fun group listed kept step => insertGroup_keeps infos required least kept
        (rangeGroups_digits base2 grouped group listed) step)
      opened opened.room
  rw [MultiOracleTrie.insertRange, infos', rangeCovers, Checked.exists_bind_ok]
  constructor
  · rintro ⟨groups, grouped, ran⟩
    obtain ⟨kss, mapped, fits⟩ := (loop grouped).mp ran
    refine ⟨kss.flatten, ?_, fits⟩
    rw [grouped, Checked.ok_bind, mapped]
    rfl
  · rintro ⟨covers, computed, fits⟩
    obtain ⟨groups, grouped, rest⟩ := Checked.bind_eq_ok.mp computed
    obtain ⟨kss, mapped, last⟩ := Checked.bind_eq_ok.mp rest
    cases last
    exact ⟨groups, grouped, (loop grouped).mpr ⟨kss, mapped, fits⟩⟩

end Groups

/-- The values past the largest range, for which the groups' trie has another one. -/
theorem coverLastValues_room {info : OracleNumericInfo} {threshold start : ℕ}
    {outcomes : List RangePayout} (base2 : 2 ≤ info.base) (some : outcomes ≠ [])
    {t : MultiOracleTrie} (made : MultiOracleTrie.newExtraCoverTrie info threshold =
      .ok t.extraCoverTrie) {s : MultiOracleTrie × Progress} (opened : GroupsOpen t start s) :
    (∃ u, MultiOracleTrie.coverLastValues outcomes s = .ok u) ↔
      ∃ keys, lastKeys info threshold = .ok keys ∧ (∀ key ∈ keys, Filled key) ∧
        s.2.Room keys.length := by
  have same : s.1.extraCoverTrie = t.extraCoverTrie := by rw [opened.ready.shape]
  rw [MultiOracleTrie.coverLastValues, same, lastKeys]
  rw [MultiOracleTrie.newExtraCoverTrie] at made
  split at made
  next differ =>
    obtain ⟨m, madeMulti, last⟩ := Checked.bind_eq_ok.mp made
    rw [if_pos differ, ← Except.ok.inj last]
    dsimp only
    have new := MultiTrie.new_ok madeMulti
    have opened' : MultiOpen m start (m, s.2) :=
      ⟨⟨rfl, new.wellFormed, opened.ready.counts⟩, MultiTrie.new_accepting madeMulti, opened.room⟩
    have all := insertMaxPaths_room new base2 (getLastValue_notes outcomes)
      (getLastValue_gives some) opened'
    rw [← all]
    constructor
    · intro covered
      obtain ⟨u, inserted, _⟩ := Checked.exists_bind_ok.mp covered
      exact ⟨u, inserted⟩
    · rintro ⟨u, inserted⟩
      exact Checked.exists_bind_ok.mpr ⟨u, inserted, _, rfl⟩
  next agree =>
    rw [if_neg agree, ← Except.ok.inj made]
    simpa using opened.room

/-- A trie for oracles that agree is generated when the groups and the last values can be computed,
no group is empty, and all get adaptor indexes. -/
theorem MultiOracleTrie.generate_room {info : OracleNumericInfo} {threshold start : ℕ}
    {outcomes : List RangePayout} {t : MultiOracleTrie}
    (made : MultiOracleTrie.new info threshold = .ok t) (base2 : 2 ≤ info.base)
    (some : outcomes ≠ []) (word : start < u64Limit) :
    (∃ r, t.generate start outcomes = .ok r) ↔
      ∃ covers last, allCovers info threshold outcomes = .ok covers ∧
        lastKeys info threshold = .ok last ∧ (∀ c ∈ covers, c.1 ≠ []) ∧
        (∀ key ∈ last, Filled key) ∧ start + covers.length + last.length < u64Limit := by
  obtain ⟨_, checked, rest⟩ := Checked.bind_eq_ok.mp made
  have oracles := Checked.ensure_eq_ok.mp checked
  obtain ⟨extra, newExtra, last⟩ := Checked.bind_eq_ok.mp rest
  cases last
  obtain ⟨minNbDigits, least⟩ := info.getMinNbDigits_exists oracles
  have opened : GroupsOpen ⟨.none, threshold, info, extra⟩ start
      (⟨.none, threshold, info, extra⟩, .start start) :=
    ⟨⟨rfl, trivial, Progress.start_counts start⟩, trivial, word⟩
  have loop := Checked.foldlM_room (P := GroupsOpen ⟨.none, threshold, info, extra⟩ start)
    (f := MultiOracleTrie.insertRange)
    (g := fun outcome : RangePayout × ℕ => rangeCovers info threshold outcome.1)
    (Q := fun c => c.1 ≠ []) (u := fun s => s.2.adaptorIndex) (n := u64Limit)
    (l := outcomes.zipIdx)
    (fun outcome _ kept => insertRange_room rfl rfl least base2 kept outcome)
    (fun outcome _ kept step => insertRange_keeps rfl rfl least base2 kept step)
    opened opened.room
  have ranges := fun {s} (ran : outcomes.zipIdx.foldlM MultiOracleTrie.insertRange
      (⟨.none, threshold, info, extra⟩, .start start) = .ok s) =>
    Checked.foldlM_collects (P := GroupsOpen ⟨.none, threshold, info, extra⟩ start)
      (R := fun s covers s' => s'.2.adaptorIndex = s.2.adaptorIndex + covers.length)
      (g := fun outcome : RangePayout × ℕ => rangeCovers info threshold outcome.1)
      rfl (fun first second => by rw [second, first, List.length_append, Nat.add_assoc])
      (fun outcome _ kept step => insertRange_keeps rfl rfl least base2 kept step) opened ran
  rw [mapM_zipIdx] at loop
  simp only [mapM_zipIdx] at ranges
  rw [MultiOracleTrie.generate, allCovers]
  constructor
  · intro ran
    obtain ⟨s, inserted, ran⟩ := Checked.exists_bind_ok.mp ran
    obtain ⟨u, covered, _⟩ := Checked.exists_bind_ok.mp ran
    obtain ⟨kss, mapped, each, fits⟩ := loop.mp ⟨s, inserted⟩
    obtain ⟨kept, kss', mapped', count⟩ := ranges inserted
    cases mapped.symm.trans mapped'
    obtain ⟨last, listed, each', fits'⟩ :=
      (coverLastValues_room base2 some newExtra kept).mp ⟨u, covered⟩
    refine ⟨kss.flatten, last, ?_, listed, each, each', ?_⟩
    · rw [mapped]
      rfl
    · rw [Progress.Room, count] at fits'
      exact fits'
  · rintro ⟨covers, last, computed, listed, each, each', fits⟩
    obtain ⟨kss, mapped, joined⟩ := Checked.bind_eq_ok.mp computed
    cases joined
    obtain ⟨s, inserted⟩ := loop.mpr ⟨kss, mapped, each, (Nat.le_add_right _ _).trans_lt fits⟩
    obtain ⟨kept, kss', mapped', count⟩ := ranges inserted
    cases mapped.symm.trans mapped'
    have room : s.2.Room last.length := by
      rw [Progress.Room, count]
      exact fits
    obtain ⟨u, covered⟩ := (coverLastValues_room base2 some newExtra kept).mpr
      ⟨last, listed, each', room⟩
    exact Checked.exists_bind_ok.mpr ⟨s, inserted,
      Checked.exists_bind_ok.mpr ⟨u, covered, _, rfl⟩⟩

end P2PLending.Trie
