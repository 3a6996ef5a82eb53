import P2PLending.Trie.Generation

/-! Signing in the order in which a trie is generated, and in the order in which it is iterated. -/

namespace P2PLending.Trie

open Dlc (PublicKey SecretKey AdaptorCrypto AdaptorSignature Transaction)
open Manager (RangeInfo)
open Manager.Infos (RangePayout TrieIterInfo signHelper verifyHelper)

/-! The helpers on two orders of the same infos. -/

section Orders

theorem mapM_perm {ε α β : Type} {f : α → Except ε β} {xs xs' : List α} {ys : List β}
    (same : xs.Perm xs') (mapped : xs.mapM f = .ok ys) :
    ∃ ys', xs'.mapM f = .ok ys' ∧ ys.Perm ys' := by
  obtain ⟨ys', related, perm⟩ :=
    List.perm_comp_forall₂ same.symm (Checked.mapM_eq_ok.mp mapped)
  exact ⟨ys', Checked.mapM_eq_ok.mpr related, perm.symm⟩

/-- Sorting by keys that are all different gives one list. -/
theorem sorted_by_key {A : Type} {xs ys : List (ℕ × A)} (same : xs.Perm ys)
    (distinct : (xs.map Prod.fst).Nodup) :
    (xs.mergeSort fun a b => a.1 ≤ b.1) = ys.mergeSort fun a b => a.1 ≤ b.1 := by
  have sorted : ∀ l : List (ℕ × A),
      (l.mergeSort fun a b => a.1 ≤ b.1).Pairwise fun a b => a.1 ≤ b.1 := by
    intro l
    refine (List.pairwise_mergeSort (fun a b c first second => ?_) (fun a b => ?_) l).imp
      fun le => of_decide_eq_true le
    · exact decide_eq_true (Nat.le_trans (of_decide_eq_true first) (of_decide_eq_true second))
    · rcases Nat.le_total a.1 b.1 with le | le
      · simp [le]
      · simp [le]
  have perm : (xs.mergeSort fun a b => a.1 ≤ b.1).Perm (ys.mergeSort fun a b => a.1 ≤ b.1) :=
    (List.mergeSort_perm xs _).trans (same.trans (List.mergeSort_perm ys _).symm)
  refine List.Perm.eq_of_pairwise (fun a b first second le ge => ?_) (sorted xs) (sorted ys) perm
  have member := (List.mergeSort_perm xs _).mem_iff.mp first
  have member' := same.mem_iff.mpr ((List.mergeSort_perm ys _).mem_iff.mp second)
  exact List.inj_on_of_nodup_map distinct member member' (Nat.le_antisymm le ge)

variable {K : AdaptorCrypto} {cets : List Transaction} {script : Bytes} {value : ℕ}
  {points : List (List (List PublicKey))} {items returned : List TrieIterInfo}

theorem signHelper_keys {key : SecretKey} {unsorted : List (ℕ × AdaptorSignature)}
    (mapped : (items.mapM fun x => do
      let adaptorPoint ← Manager.ofDlc
        (Dlc.getAdaptorPointForIndexedPaths K x.indexes x.paths points)
      let cet ← Manager.index cets x.value.cetIndex
      let sig ← Manager.ofDlc
        (Dlc.createCetAdaptorSigFromPoint K cet adaptorPoint key script value)
      .ok (x.value.adaptorIndex, sig)) = .ok unsorted) :
    unsorted.map Prod.fst = items.map (·.value.adaptorIndex) := by
  have related := Checked.mapM_eq_ok.mp mapped
  clear mapped
  induction related with
  | nil => rfl
  | cons head _ ih =>
      obtain ⟨_, _, rest⟩ := Checked.bind_eq_ok.mp head
      obtain ⟨_, _, rest⟩ := Checked.bind_eq_ok.mp rest
      obtain ⟨_, _, last⟩ := Checked.bind_eq_ok.mp rest
      cases last
      rw [List.map_cons, List.map_cons, ih]

theorem signHelper_order {key : SecretKey} {sigs : List AdaptorSignature}
    (same : items.Perm returned) (distinct : (items.map (·.value.adaptorIndex)).Nodup)
    (signed : signHelper K cets key script value points items = .ok sigs) :
    signHelper K cets key script value points returned = .ok sigs := by
  obtain ⟨unsorted, mapped, last⟩ := Checked.bind_eq_ok.mp signed
  cases last
  obtain ⟨unsorted', mapped', perm⟩ := mapM_perm same mapped
  have keys := signHelper_keys mapped
  rw [← keys] at distinct
  rw [signHelper, mapped', Checked.ok_bind, sorted_by_key perm distinct]

theorem max?_perm {xs ys : List ℕ} (same : xs.Perm ys) : xs.max? = ys.max? := by
  have within : ∀ {xs ys : List ℕ}, xs.Perm ys → ∀ {m}, xs.max? = some m → ys.max? = some m := by
    intro xs ys same m most
    rw [List.max?_eq_some_iff] at most ⊢
    exact ⟨same.mem_iff.mp most.1, fun b listed => most.2 b (same.mem_iff.mpr listed)⟩
  cases most : xs.max? with
  | some m => rw [within same most]
  | none =>
      rw [List.max?_eq_none_iff] at most
      subst most
      rw [List.nil_perm.mp same]
      rfl

theorem verifyHelper_order {fundPubkey : PublicKey} {sigs : List AdaptorSignature} {next : ℕ}
    (same : items.Perm returned)
    (verified : verifyHelper K fundPubkey script value cets sigs points items = .ok next) :
    verifyHelper K fundPubkey script value cets sigs points returned = .ok next := by
  obtain ⟨most, found, rest⟩ := Checked.bind_eq_ok.mp verified
  obtain ⟨_, each, last⟩ := Checked.bind_eq_ok.mp rest
  rw [max?_perm (same.map _)] at found
  rw [verifyHelper, found, Checked.ok_bind]
  refine Checked.bind_eq_ok.mpr ⟨(), ?_, last⟩
  exact Checked.forM_eq_ok.mpr fun x listed =>
    Checked.forM_eq_ok.mp each x (same.mem_iff.mpr listed)

end Orders

/-- The iterator over a trie gives what was returned when it was generated, in some order, the
adaptor indexes from the start on are given out once each, and so `sign` and `verify`, the helpers
on what the iterator gives, do what `generate_sign` and `generate_verify` did. -/
def SignsAlike {S : Type} (next : Stepper S TrieIterInfo) (it : Option S) (start : ℕ)
    (returned : List TrieIterInfo) : Prop :=
  ∃ s items, it = some s ∧ Drains next s items ∧ items.Perm returned ∧
    (items.map (·.value.adaptorIndex)).Perm (List.range' start returned.length) ∧
    (∀ (K : AdaptorCrypto) cets key script value points sigs,
      signHelper K cets key script value points items = .ok sigs ↔
        signHelper K cets key script value points returned = .ok sigs) ∧
    ∀ (K : AdaptorCrypto) fundPubkey script value cets sigs points last,
      verifyHelper K fundPubkey script value cets sigs points items = .ok last ↔
        verifyHelper K fundPubkey script value cets sigs points returned = .ok last

/-- The rest follows from the same infos, once their indexes are counted. -/
theorem signsAlike_of_perm {S : Type} {next : Stepper S TrieIterInfo} {s : S} {start : ℕ}
    {items returned : List TrieIterInfo} (drains : Drains next s items)
    (counted : returned.map (·.value.adaptorIndex) = List.range' start returned.length)
    (same : items.Perm returned) : SignsAlike next (some s) start returned := by
  have indexes : (returned.map (·.value.adaptorIndex)).Nodup := by
    rw [counted]
    exact List.nodup_range'
  have indexes' := (same.map (·.value.adaptorIndex)).nodup_iff.mpr indexes
  refine ⟨s, items, rfl, drains, same, ?_, fun K cets key script value points sigs => ?_,
    fun K fundPubkey script value cets sigs points last => ?_⟩
  · rw [← counted]
    exact same.map _
  · exact ⟨signHelper_order same indexes', signHelper_order same.symm indexes⟩
  · exact ⟨verifyHelper_order same, verifyHelper_order same.symm⟩

theorem signsAlike_iff_perm {S : Type} {next : Stepper S TrieIterInfo} (steady : Steady next)
    {s : S} {start : ℕ} {items returned : List TrieIterInfo} (drains : Drains next s items)
    (counted : returned.map (·.value.adaptorIndex) = List.range' start returned.length) :
    SignsAlike next (some s) start returned ↔ items.Perm returned := by
  constructor
  · rintro ⟨s', items', here, drains', same, _⟩
    cases here
    rw [drains.unique steady drains']
    exact same
  · exact signsAlike_of_perm drains counted

/-! The two tries. -/

theorem groupInfos_length {info : OracleNumericInfo} {minNbDigits : ℕ} {chosen : List (List ℕ)}
    {entry : List ℕ × List RangeInfo} (length : entry.2.length = chosen.length) :
    (groupInfos info minNbDigits chosen entry).length = chosen.length := by
  rw [groupInfos, List.length_map, List.length_zip, length, Nat.min_self]

/-- There is a selection wherever a group is written. -/
theorem selectors_ne_nil {info : OracleNumericInfo} {threshold : ℕ}
    (all : Dlc.combinations info.nbDigits.length threshold = .ok (selectors info threshold)) :
    selectors info threshold ≠ [] := by
  intro none
  rw [none, Dlc.combinations] at all
  split at all
  next => cases all
  next enough =>
    split at all
    next => cases all
    next some =>
      have oracles : 0 < info.nbDigits.length := by omega
      obtain ⟨fuel, positive⟩ :=
        Nat.exists_eq_succ_of_ne_zero (Nat.pow_pos oracles : 0 < _ ^ threshold).ne'
      rw [positive, Dlc.selectorsFrom] at all
      cases all

theorem Generated.iter_drains {info : OracleNumericInfo} {threshold start minNbDigits : ℕ}
    {outcomes : List RangePayout} {t : MultiOracleTrie} {returned : List TrieIterInfo}
    {writes : List (List ℕ × List RangeInfo)} {extra : List (List (ℕ × List ℕ) × RangeInfo)}
    (generated : Generated info threshold start outcomes t returned minNbDigits writes extra)
    (enough : threshold ≤ info.nbDigits.length) :
    ∃ s extraEntries, t.iter = some s ∧ Lists (written (fun _ => none) extra) extraEntries ∧
      Drains (MultiOracleTrieIter.next info threshold) s
        ((t.digitTrie.entries info.base []).flatMap
          (groupInfos info minNbDigits (selectors info threshold)) ++
            extraEntries.map trieIterInfo) := by
  have held := DigitNode.entries_lists generated.wellFormed
  rw [generated.find] at held
  have each : ∀ entry ∈ t.digitTrie.entries info.base [],
      Dlc.combinations info.nbDigits.length threshold = .ok (selectors info threshold) ∧
        entry.2.length = (selectors info threshold).length := by
    intro entry listed
    rcases mem_of_written ((held.mem_iff entry.1 entry.2).mp listed) with before | wrote
    · cases before
    · exact generated.each entry wrote
  have gives := DigitTrieIter.gives_entries generated.wellFormed
  cases extraIs : t.extraCoverTrie with
  | none =>
      have last : MultiOracleTrieIter.ExtraGives info.base none (List.map trieIterInfo []) := rfl
      refine ⟨_, [], ?_, ?_, MultiOracleTrieIter.groups_drain generated.least gives each last⟩
      · rw [MultiOracleTrie.iter, generated.oracles, generated.required, if_pos enough, extraIs]
      · rw [generated.noExtra extraIs]
        exact Lists.empty
  | some m =>
      obtain ⟨wellFormed, some, infos, _, find, distinct⟩ := generated.someExtra m extraIs
      obtain ⟨r, made, drains⟩ := MultiTrieIterator.drains_entries wellFormed some
      have listed := MultiTrie.entries_lists wellFormed
      rw [find] at listed
      rw [infos] at drains
      have last : MultiOracleTrieIter.ExtraGives info.base (Option.some r)
          (m.entries.map trieIterInfo) := ⟨m.entries, drains, rfl⟩
      refine ⟨_, m.entries, ?_, listed,
        MultiOracleTrieIter.groups_drain generated.least gives each last⟩
      rw [MultiOracleTrie.iter, generated.oracles, generated.required, if_pos enough, extraIs]
      dsimp only
      rw [made]
      rfl

theorem flatMap_length_const {α β : Type} {f : α → List β} {c : ℕ} {xs : List α}
    (each : ∀ x ∈ xs, (f x).length = c) : (xs.flatMap f).length = xs.length * c := by
  induction xs with
  | nil => simp
  | cons x xs ih =>
      rw [List.flatMap_cons, List.length_append, each x List.mem_cons_self,
        ih fun y listed => each y (List.mem_cons_of_mem x listed), List.length_cons, Nat.succ_mul,
        Nat.add_comm]

/-- An order of the infos is missing some of them as soon as a group was written twice. -/
theorem Generated.perm_iff {info : OracleNumericInfo} {threshold start minNbDigits : ℕ}
    {outcomes : List RangePayout} {t : MultiOracleTrie} {returned : List TrieIterInfo}
    {writes entries : List (List ℕ × List RangeInfo)}
    {extra extraEntries : List (List (ℕ × List ℕ) × RangeInfo)}
    (generated : Generated info threshold start outcomes t returned minNbDigits writes extra)
    (held : Lists (written (fun _ => none) writes) entries)
    (extraHeld : Lists (written (fun _ => none) extra) extraEntries) :
    (entries.flatMap (groupInfos info minNbDigits (selectors info threshold)) ++
      extraEntries.map trieIterInfo).Perm returned ↔ (writes.map Prod.fst).Nodup := by
  rw [generated.returned]
  constructor
  · intro same
    have lengths := same.length_eq
    have written' : ∀ entry ∈ entries, entry ∈ writes := by
      intro entry listed
      rcases mem_of_written ((held.mem_iff entry.1 entry.2).mp listed) with before | wrote
      · cases before
      · exact wrote
    obtain ⟨fewer, distinct⟩ := lists_length_le held
    have fewerExtra := (lists_length_le extraHeld).1
    rw [List.length_append, List.length_append, List.length_map, List.length_map,
      flatMap_length_const fun w listed => groupInfos_length (generated.each w listed).2,
      flatMap_length_const fun e listed =>
        groupInfos_length (generated.each e (written' e listed)).2] at lengths
    cases writes with
    | nil => exact List.nodup_nil
    | cons w writes =>
        have some := List.length_pos_iff.mpr
          (selectors_ne_nil (generated.each w List.mem_cons_self).1)
        refine distinct (Nat.le_antisymm fewer ?_)
        by_contra less
        have short : entries.length + 1 ≤ (w :: writes).length := by omega
        have scaled := Nat.mul_le_mul_right (selectors info threshold).length short
        rw [Nat.add_mul] at scaled
        omega
  · intro distinct
    have extraDistinct : (extra.map Prod.fst).Nodup := by
      cases extraIs : t.extraCoverTrie with
      | none =>
          rw [generated.noExtra extraIs]
          exact List.nodup_nil
      | some m => exact (generated.someExtra m extraIs).2.2.2.2.2
    exact (((lists_perm_iff held).mpr distinct).flatMap_right _).append
      (((lists_perm_iff extraHeld).mpr extraDistinct).map _)

/-- Oracles that have to agree: no prefix may be that of two groups. -/
theorem multiOracle_signsAlike_iff {info : OracleNumericInfo} {threshold start : ℕ}
    {outcomes : List RangePayout} {t t' : MultiOracleTrie} {returned : List TrieIterInfo}
    (made : MultiOracleTrie.new info threshold = .ok t)
    (ran : t.generate start outcomes = .ok (t', returned)) :
    SignsAlike (MultiOracleTrieIter.next info threshold) t'.iter start returned ↔
      threshold ≤ info.nbDigits.length ∧
        ∀ groups, allGroups info outcomes = .ok groups → groups.Nodup := by
  obtain ⟨minNbDigits, writes, extra, generated⟩ := MultiOracleTrie.generate_ok made ran
  by_cases enough : threshold ≤ info.nbDigits.length
  · obtain ⟨s, extraEntries, started, extraHeld, drains⟩ := generated.iter_drains enough
    have held := DigitNode.entries_lists generated.wellFormed
    rw [generated.find] at held
    rw [started, signsAlike_iff_perm MultiOracleTrieIter.next_steady drains generated.counted,
      generated.perm_iff held extraHeld, generated.groups]
    constructor
    · intro distinct
      refine ⟨enough, fun groups same => ?_⟩
      cases same
      exact distinct
    · rintro ⟨_, distinct⟩
      exact distinct _ rfl
  · refine iff_of_false ?_ fun both => enough both.1
    rintro ⟨s, items, started, _⟩
    rw [MultiOracleTrie.iter, generated.oracles, generated.required, if_neg enough] at started
    cases started

theorem trieIterInfo_injective : Function.Injective trieIterInfo := by
  intro x y same
  obtain ⟨indexes, paths, value⟩ := TrieIterInfo.mk.inj same
  refine Prod.ext ?_ value
  rw [← List.zip_unzip x.1, ← List.zip_unzip y.1, List.unzip_fst, List.unzip_snd, List.unzip_fst,
    List.unzip_snd, indexes, paths]

/-- Oracles that may differ: nothing may be written twice at the same paths. -/
theorem withDiff_signsAlike_iff {info : OracleNumericInfo}
    {threshold minSupportExp maxErrorExp start : ℕ} {outcomes : List RangePayout}
    {t t' : MultiOracleTrieWithDiff} {returned : List TrieIterInfo}
    (made : MultiOracleTrieWithDiff.new info threshold minSupportExp maxErrorExp = .ok t)
    (ran : t.generate start outcomes = .ok (t', returned)) :
    SignsAlike (MultiOracleTrieWithDiff.next info.base) t'.iter start returned ↔
      ∀ keys, allKeys t outcomes = .ok keys → keys.Nodup := by
  obtain ⟨writes, keys, wellFormed, some, infos, find, noted, counted⟩ :=
    MultiOracleTrieWithDiff.generate_ok made ran
  obtain ⟨s, started, drains⟩ := MultiTrieIterator.drains_entries wellFormed some
  have held := MultiTrie.entries_lists wellFormed
  rw [find] at held
  rw [infos] at drains
  have mapped : ∀ fuel s, MultiOracleTrieWithDiff.next info.base fuel s =
      (MultiTrieIterator.next info.base fuel s).map fun r => (r.1.map trieIterInfo, r.2) :=
    fun _ _ => rfl
  have steady := MultiTrieIterator.next_steady.map mapped
  rw [MultiOracleTrieWithDiff.iter, started, signsAlike_iff_perm steady (drains.map mapped) counted,
    noted, List.map_perm_map_iff trieIterInfo_injective, lists_perm_iff held, keys]
  constructor
  · intro distinct keys same
    cases same
    exact distinct
  · intro distinct
    exact distinct _ rfl

namespace Samples

/-- Two ranges that cover the values of two binary digits. -/
def halves : List RangePayout :=
  [{ start := 0, count := 2, payout := { offer := 1, accept := 0 } },
    { start := 2, count := 2, payout := { offer := 0, accept := 1 } }]

def sameDigits : OracleNumericInfo where
  base := 2
  nbDigits := [2, 2]

def otherDigits : OracleNumericInfo where
  base := 2
  nbDigits := [2, 3]

theorem exists_of_isOk {ε α : Type} {x : Except ε α} (ok : x.isOk = true) : ∃ a, x = .ok a := by
  cases x with
  | ok a => exact ⟨a, rfl⟩
  | error e => cases ok

end Samples

open Samples

/-- A trie that was generated signs and verifies alike, whether from what was returned or from its
iterator, just when nothing was written twice at the same place. -/
theorem signing_order_iff (info : OracleNumericInfo)
    (threshold minSupportExp maxErrorExp start : ℕ) (outcomes : List RangePayout) :
    (∀ (t t' : MultiOracleTrie) (returned : List TrieIterInfo),
      MultiOracleTrie.new info threshold = .ok t →
      t.generate start outcomes = .ok (t', returned) →
      (SignsAlike (MultiOracleTrieIter.next info threshold) t'.iter start returned ↔
        threshold ≤ info.nbDigits.length ∧
          ∀ groups, allGroups info outcomes = .ok groups → groups.Nodup)) ∧
    ∀ (t t' : MultiOracleTrieWithDiff) (returned : List TrieIterInfo),
      MultiOracleTrieWithDiff.new info threshold minSupportExp maxErrorExp = .ok t →
      t.generate start outcomes = .ok (t', returned) →
      (SignsAlike (MultiOracleTrieWithDiff.next info.base) t'.iter start returned ↔
        ∀ keys, allKeys t outcomes = .ok keys → keys.Nodup) :=
  ⟨fun _ _ _ made ran => multiOracle_signsAlike_iff made ran,
    fun _ _ _ made ran => withDiff_signsAlike_iff made ran⟩

theorem signing_order_halves :
    (∃ t t' returned, MultiOracleTrie.new sameDigits 2 = .ok t ∧
      t.generate 0 halves = .ok (t', returned) ∧
      SignsAlike (MultiOracleTrieIter.next sameDigits 2) t'.iter 0 returned) ∧
    ∃ t t' returned, MultiOracleTrieWithDiff.new sameDigits 2 0 1 = .ok t ∧
      t.generate 0 halves = .ok (t', returned) ∧
      SignsAlike (MultiOracleTrieWithDiff.next sameDigits.base) t'.iter 0 returned := by
  constructor
  · obtain ⟨t, made⟩ : ∃ t, MultiOracleTrie.new sameDigits 2 = .ok t := ⟨_, rfl⟩
    obtain ⟨r, ran⟩ : ∃ r, t.generate 0 halves = .ok r := by
      cases made
      exact exists_of_isOk (by decide +kernel)
    refine ⟨t, r.1, r.2, made, ran, ((signing_order_iff sameDigits 2 0 1 0 halves).1 _ _ _ made ran).mpr
      ⟨by decide, fun groups listed => ?_⟩⟩
    have all : allGroups sameDigits halves = .ok [[0], [1]] := rfl
    rw [all] at listed
    cases listed
    decide
  · obtain ⟨t, made⟩ : ∃ t, MultiOracleTrieWithDiff.new sameDigits 2 0 1 = .ok t := ⟨_, rfl⟩
    obtain ⟨r, ran⟩ : ∃ r, t.generate 0 halves = .ok r := by
      cases made
      exact exists_of_isOk (by decide +kernel)
    refine ⟨t, r.1, r.2, made, ran, ((signing_order_iff sameDigits 2 0 1 0 halves).2 _ _ _ made ran).mpr
      fun keys listed => ?_⟩
    cases made
    have all : (.ok [[(0, [0]), (1, [0])], [(0, [0, 1]), (1, [1, 0])], [(0, [1, 0]), (1, [0, 1])],
        [(0, [1]), (1, [1])]] : Dlc.Result _) = .ok keys := listed
    cases all
    decide

/-- One oracle of two is enough, and they have different numbers of digits. -/
theorem halves_written_twice :
    ∃ t t' returned, MultiOracleTrieWithDiff.new otherDigits 1 0 1 = .ok t ∧
      t.generate 0 halves = .ok (t', returned) ∧
      ¬ SignsAlike (MultiOracleTrieWithDiff.next otherDigits.base) t'.iter 0 returned := by
  obtain ⟨t, made⟩ : ∃ t, MultiOracleTrieWithDiff.new otherDigits 1 0 1 = .ok t := ⟨_, rfl⟩
  obtain ⟨r, ran⟩ : ∃ r, t.generate 0 halves = .ok r := by
    cases made
    exact exists_of_isOk (by decide +kernel)
  refine ⟨t, r.1, r.2, made, ran, fun alike => ?_⟩
  have distinct := (withDiff_signsAlike_iff made ran).mp alike
  cases made
  have twice := distinct [[(0, [0])], [(1, [0])], [(0, [1])], [(1, [1])], [(1, [1])]] rfl
  revert twice
  decide

end P2PLending.Trie
