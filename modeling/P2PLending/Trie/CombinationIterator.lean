import Mathlib.Data.List.Lex
import Mathlib.Data.Finset.Powerset
import Mathlib.Data.Finset.Sort
import P2PLending.Dlc.Combinations
import P2PLending.Foundation.Iterators
import P2PLending.Trie.OutcomeCells

/-! The iterator over the selections of `t` of `n` elements, with its loops over positions, and the
position of a selection among them. It steps as `nextSelector` does. -/

namespace P2PLending.Trie

open Dlc (Result Fault u64Limit nextSelector selectorsFrom Selects selectorValue)

structure CombinationIterator where
  selector : List ℕ
  nbSelected : ℕ
  nbElements : ℕ
  isInit : Bool
  deriving DecidableEq, Repr

namespace CombinationIterator

def elementAt (selector : List ℕ) (i : ℕ) : Result ℕ :=
  match selector[i]? with
  | some x => .ok x
  | none => .error (.panic "index out of bounds")

def new (nbElements nbSelected : ℕ) : Result CombinationIterator := do
  Checked.ensure (nbSelected ≤ nbElements) (.panic "assertion failed: nb_elements >= nb_selected")
  return ⟨List.range nbSelected, nbSelected, nbElements, false⟩

/-- The loop to the left, past the positions that hold the most they can. -/
def rightmost (it : CombinationIterator) (lastIndex : ℕ) : (curIndex : ℕ) → Result ℕ
  | 0 => .ok 0
  | curIndex + 1 => do
      let x ← elementAt it.selector (curIndex + 1)
      let last ← usizeSub it.nbElements 1
      let behind ← usizeSub lastIndex (curIndex + 1)
      let most ← usizeSub last behind
      if x = most then rightmost it lastIndex curIndex else .ok (curIndex + 1)

/-- The loop to the right, up to the last index, with so many positions to go. -/
def follow : (count curIndex : ℕ) → List ℕ → Result (List ℕ)
  | 0, _, selector => .ok selector
  | count + 1, curIndex, selector => do
      let x ← elementAt selector (curIndex - 1)
      let x ← usizeAdd x 1
      let _ ← elementAt selector curIndex
      follow count (curIndex + 1) (selector.set curIndex x)

def next (it : CombinationIterator) : Result (Option (List ℕ) × CombinationIterator) :=
  if !it.isInit then .ok (some it.selector, { it with isInit := true })
  else do
    let lastIndex ← usizeSub it.nbSelected 1
    let curIndex ← it.rightmost lastIndex lastIndex
    let x ← elementAt it.selector curIndex
    let x ← usizeAdd x 1
    let selector ← follow (lastIndex - curIndex) (curIndex + 1) (it.selector.set curIndex x)
    let it := { it with selector }
    let first ← elementAt selector 0
    let room ← usizeSub it.nbElements it.nbSelected
    let stop ← usizeAdd room 1
    if first = stop then return (none, it) else return (some selector, it)

/-- The loop over what the iterator enumerates. The counter is a machine word. -/
def indexFrom (combination : List ℕ) :
    (fuel count : ℕ) → CombinationIterator → Result (Option ℕ)
  | 0, _, _ => .error notTerminated
  | fuel + 1, count, it => do
      let (cur, it) ← it.next
      match cur with
      | none => return none
      | some cur => do
          let count' ← usizeAdd count 1
          if combination = cur then return some count
          else indexFrom combination fuel count' it

/-- The counter leaves its word before the fuel runs out. -/
def getIndexForCombination (it : CombinationIterator) (combination : List ℕ) :
    Result (Option ℕ) :=
  indexFrom combination (u64Limit + 1) 0 it

/-- A call as a step of an iterator, if it does not panic. -/
def step : Stepper CombinationIterator (List ℕ) := fun _ it => it.next.toOption

theorem steady_step : Steady step := fun _ _ _ returned => returned

/-! One call. -/

section Next
variable {n x : ℕ} {p q s : List ℕ} {it : CombinationIterator}

/-- The positions from here on hold the most they can. -/
def Full (n : ℕ) (q : List ℕ) : Prop := q = List.range' (n - q.length) q.length ∧ q.length ≤ n

theorem elementAt_append (p q : List ℕ) : elementAt (p ++ x :: q) p.length = .ok x := by
  simp [elementAt]

/-- A selection up to the rightmost position that can move, or all of it if none can. -/
theorem Selects.split {least : ℕ} (selects : Selects n least s) (some : s ≠ []) :
    ∃ p x q, s = p ++ x :: q ∧ Full n q ∧ (p = [] ∨ x + q.length + 1 < n) := by
  induction s generalizing least with
  | nil => exact absurd rfl some
  | cons y ys ih =>
      by_cases last : ys = []
      · exact ⟨[], y, [], by simp [last], by simp [Full], Or.inl rfl⟩
      · obtain ⟨p, x, q, rfl, full, moves⟩ := ih selects.2.2 last
        by_cases stays : p = [] ∧ x + q.length + 1 = n
        · refine ⟨[], y, x :: q, by simp [stays.1], ⟨?_, by simp; omega⟩, Or.inl rfl⟩
          have first : n - (x :: q).length = x := by
            rw [List.length_cons]
            omega
          have second : x + 1 = n - q.length := by omega
          rw [first, List.length_cons, List.range'_succ, second, ← full.1]
        · refine ⟨y :: p, x, q, rfl, full, Or.inr ?_⟩
          rcases moves with rfl | moves
          · have room := selects.2.2.room
            simp only [true_and] at room stays
            omega
          · exact moves

theorem nextSelector_full (full : Full n q) : nextSelector n q = none := by
  rw [full.1]
  exact Dlc.nextSelector_last (by have := full.2; omega)

theorem nextSelector_moves (full : Full n q) (moves : x + q.length + 1 < n) :
    nextSelector n (p ++ x :: q) = some (p ++ List.range' (x + 1) (q.length + 1)) := by
  induction p with
  | nil => simp [nextSelector, nextSelector_full full, moves]
  | cons y p ih => rw [List.cons_append, nextSelector, ih]; rfl

theorem rightmost_eq (full : Full n q) (moves : p = [] ∨ x + q.length + 1 < n)
    (selected : it.selector = p ++ x :: q) (elements : it.nbElements = n) :
    ∀ j ≤ q.length, it.rightmost (p.length + q.length) (p.length + j) = .ok p.length := by
  intro j within
  induction j with
  | zero =>
      rcases List.eq_nil_or_concat p with rfl | ⟨p', y, rfl⟩
      · rfl
      · have can : x + q.length + 1 < n := by simpa using moves
        have here := elementAt_append (x := x) (p' ++ [y]) q
        simp only [List.length_append, List.length_singleton] at here
        simp only [List.concat_eq_append, List.length_append, List.length_singleton,
          Nat.add_zero] at selected ⊢
        rw [rightmost, selected, here, Checked.ok_bind, elements, usizeSub_of_le (by omega),
          Checked.ok_bind, usizeSub_of_le (by omega), Checked.ok_bind,
          usizeSub_of_le (by omega), Checked.ok_bind, if_neg (by omega)]
  | succ j ih =>
      have most := full.2
      have entry : q[j]? = some (n - q.length + j) := by
        conv_lhs => rw [full.1]
        simp [List.getElem?_range' (show j < q.length by omega)]
      have here : elementAt it.selector (p.length + j + 1) = .ok (n - q.length + j) := by
        have place : (p ++ x :: q)[p.length + j + 1]? = q[j]? := by
          rw [List.getElem?_append_right (by omega)]
          rw [show p.length + j + 1 - p.length = j + 1 by omega, List.getElem?_cons_succ]
        rw [elementAt, selected, place, entry]
      rw [← Nat.add_assoc, rightmost, here, Checked.ok_bind, elements,
        usizeSub_of_le (by omega), Checked.ok_bind, usizeSub_of_le (by omega), Checked.ok_bind,
        usizeSub_of_le (by omega), Checked.ok_bind, if_pos (by omega), ih (by omega)]

theorem follow_eq (fits : x + q.length < u64Limit) :
    follow q.length (p.length + 1) (p ++ x :: q) = .ok (p ++ List.range' x (q.length + 1)) := by
  induction q generalizing p x with
  | nil => simp [follow]
  | cons y q ih =>
      rw [List.length_cons] at fits
      have here := elementAt_append (x := x) p (y :: q)
      have after : elementAt (p ++ x :: y :: q) (p.length + 1) = .ok y := by
        simpa using elementAt_append (x := y) (p ++ [x]) q
      have moved : (p ++ x :: y :: q).set (p.length + 1) (x + 1) = (p ++ [x]) ++ (x + 1) :: q := by
        simp
      have rest := ih (p := p ++ [x]) (x := x + 1) (by omega)
      rw [List.length_append, List.length_singleton] at rest
      rw [List.length_cons, follow, Nat.add_sub_cancel, here, Checked.ok_bind,
        usizeAdd_of_lt (by omega), Checked.ok_bind, after, Checked.ok_bind, moved, rest,
        List.append_assoc, List.singleton_append, ← List.range'_succ]

/-- After its first call the iterator gives the next selection, and ends when there is none. -/
theorem next_eq (selects : Selects n 0 s) (some' : s ≠ []) (word : n < u64Limit) :
    ∃ after, next ⟨s, s.length, n, true⟩ = .ok (nextSelector n s, after) ∧
      ∀ s', nextSelector n s = some s' → after = ⟨s', s.length, n, true⟩ := by
  obtain ⟨p, x, q, rfl, full, moves⟩ := Selects.split selects some'
  have length : (p ++ x :: q).length = p.length + q.length + 1 := by
    simp
    omega
  have room : x + q.length < n := by
    rcases moves with rfl | moves
    · exact selects.room
    · omega
  have short : p.length + q.length + 1 ≤ n := by
    rcases p with - | ⟨y, p⟩
    · simp only [List.length_nil]
      omega
    · have first : y + (p ++ x :: q).length < n := selects.room
      rw [List.length_append, List.length_cons] at first
      rw [List.length_cons]
      omega
  have cur : rightmost ⟨p ++ x :: q, (p ++ x :: q).length, n, true⟩ (p.length + q.length)
      (p.length + q.length) = .ok p.length :=
    rightmost_eq full moves rfl rfl q.length le_rfl
  have here := elementAt_append (x := x) p q
  have moved : (p ++ x :: q).set p.length (x + 1) = p ++ (x + 1) :: q := by simp
  have behind : p.length + q.length - p.length = q.length := by omega
  have followed := follow_eq (p := p) (x := x + 1) (q := q) (by omega)
  have stop : n - (p.length + q.length + 1) + 1 = n - (p.length + q.length) := by omega
  rw [length] at cur ⊢
  simp only [next, Bool.not_true, Bool.false_eq_true, ↓reduceIte]
  rw [usizeSub_of_le (by omega), Checked.ok_bind, Nat.add_sub_cancel, cur, Checked.ok_bind, here,
    Checked.ok_bind, usizeAdd_of_lt (by omega), Checked.ok_bind, moved, behind, followed,
    Checked.ok_bind]
  rcases p with - | ⟨y, p⟩
  · simp only [List.nil_append, List.length_nil, Nat.zero_add] at stop short ⊢
    rw [List.range'_succ, elementAt]
    simp only [List.getElem?_cons_zero, Checked.ok_bind]
    rw [usizeSub_of_le (by omega), Checked.ok_bind, usizeAdd_of_lt (by omega), Checked.ok_bind]
    by_cases last : x + q.length + 1 < n
    · rw [if_neg (by omega), nextSelector, nextSelector_full full]
      simp only [last, ↓reduceIte, List.range'_succ]
      refine ⟨_, rfl, ?_⟩
      rintro _ ⟨⟩
      rfl
    · rw [if_pos (by omega), nextSelector, nextSelector_full full]
      simp only [last, ↓reduceIte]
      refine ⟨_, rfl, ?_⟩
      rintro _ ⟨⟩
  · have moves' : x + q.length + 1 < n := by simpa using moves
    have first : y + (p ++ x :: q).length < n := selects.room
    rw [List.length_append, List.length_cons] at first
    rw [nextSelector_moves full moves', elementAt]
    simp only [List.cons_append, List.getElem?_cons_zero, Checked.ok_bind]
    rw [usizeSub_of_le short, Checked.ok_bind, usizeAdd_of_lt (by omega), Checked.ok_bind,
      if_neg (by rw [List.length_cons]; omega)]
    refine ⟨_, rfl, ?_⟩
    rintro _ ⟨⟩
    rfl

end Next

/-! All calls. -/

section Run
variable {n k : ℕ} {s : List ℕ}

theorem drains_from {fuel : ℕ} (selects : Selects n 0 s) (some' : s ≠ []) (word : n < u64Limit)
    (enough : n ^ s.length - selectorValue n s ≤ fuel) :
    ∃ others, selectorsFrom n fuel s = s :: others ∧
      Drains step ⟨s, s.length, n, true⟩ others := by
  induction fuel generalizing s with
  | zero =>
      have bound := Dlc.selectorValue_lt selects
      omega
  | succ fuel ih =>
      obtain ⟨after, called, moved⟩ := next_eq selects some' word
      have stepped : step 0 ⟨s, s.length, n, true⟩ = some (nextSelector n s, after) := by
        rw [step, called]
        rfl
      rw [selectorsFrom]
      cases found : nextSelector n s with
      | none =>
          rw [found] at stepped
          exact ⟨[], rfl, .done 0 stepped⟩
      | some s' =>
          rw [found, moved s' found] at stepped
          have length := Dlc.nextSelector_length found
          have grows := Dlc.selectorValue_lt_next selects found
          have bound := Dlc.selectorValue_lt selects
          have nonempty : s' ≠ [] := by
            rintro rfl
            exact some' (List.length_eq_zero_iff.mp length.symm)
          obtain ⟨others, listed, drains⟩ :=
            ih (Dlc.nextSelector_selects selects found) nonempty (by rw [length]; omega)
          rw [length] at drains
          exact ⟨s' :: others, by simp only [listed], .item 0 stepped drains⟩

theorem new_eq (enough : k ≤ n) : new n k = .ok ⟨List.range k, k, n, false⟩ := by
  rw [new, Checked.ensure, if_pos enough]
  rfl

/-- The iterator gives the combinations. -/
theorem drains_combinations (some' : 1 ≤ k) (enough : k ≤ n) (word : n < u64Limit) :
    ∃ all, Dlc.combinations n k = .ok all ∧ Drains step ⟨List.range k, k, n, false⟩ all := by
  have selects : Selects n 0 (List.range k) := by
    rw [List.range_eq_range']
    exact Dlc.selects_range' (by omega)
  have nonempty : List.range k ≠ [] := by
    rw [ne_eq, List.range_eq_nil]
    omega
  have fuel : n ^ (List.range k).length - selectorValue n (List.range k) ≤ n ^ k := by
    rw [List.length_range]
    exact Nat.sub_le _ _
  obtain ⟨others, listed, drains⟩ := drains_from selects nonempty word fuel
  rw [List.length_range] at drains
  refine ⟨List.range k :: others, ?_, .item 0 rfl drains⟩
  rw [Dlc.combinations, if_neg (by omega), if_neg (by omega), listed]

theorem selects_iff {least : ℕ} :
    Selects n least s ↔ s.Pairwise (· < ·) ∧ ∀ x ∈ s, least ≤ x ∧ x < n := by
  refine ⟨fun selects => ⟨selects.ascending, selects.bounds⟩, ?_⟩
  induction s generalizing least with
  | nil => exact fun _ => trivial
  | cons x xs ih =>
      rintro ⟨ascending, bounds⟩
      rw [List.pairwise_cons] at ascending
      rw [List.forall_mem_cons] at bounds
      refine ⟨bounds.1.1, bounds.1.2, ih ⟨ascending.2, fun y listed => ?_⟩⟩
      exact ⟨ascending.1 y listed, (bounds.2 y listed).2⟩

theorem lex_of_selectorValue_lt {least : ℕ} {b : List ℕ} (selects : Selects n least s)
    (selects' : Selects n least b) (same : s.length = b.length)
    (smaller : selectorValue n s < selectorValue n b) : List.Lex (· < ·) s b := by
  induction s generalizing least b with
  | nil =>
      rw [List.length_eq_zero_iff.mp same.symm] at smaller
      exact absurd smaller (lt_irrefl _)
  | cons x xs ih =>
      cases b with
      | nil => exact absurd same (by simp)
      | cons y ys =>
          have tails : xs.length = ys.length := by simpa using same
          rcases Nat.lt_trichotomy x y with below | rfl | above
          · exact .rel below
          · rw [selectorValue, selectorValue, tails] at smaller
            exact .cons (ih selects.2.2 selects'.2.2 tails (by omega))
          · have larger := Dlc.selectorValue_lt_of_head selects'.2.2 tails.symm above
            exact absurd smaller larger.le.not_gt

theorem selectorsFrom_lex {fuel : ℕ} (selects : Selects n 0 s) :
    (selectorsFrom n fuel s).Pairwise (List.Lex (· < ·)) := by
  induction fuel generalizing s with
  | zero => exact List.Pairwise.nil
  | succ fuel ih =>
      rw [selectorsFrom]
      cases found : nextSelector n s with
      | none => exact List.pairwise_singleton _ _
      | some s' =>
          have selects' := Dlc.nextSelector_selects selects found
          refine List.pairwise_cons.mpr ⟨fun later listed => ?_, ih selects'⟩
          have own := Dlc.selectorsFrom_selects selects' later listed
          have grows := Dlc.selectorValue_lt_next selects found
          have least := Dlc.selectorsFrom_grow selects' later listed
          have length := own.2.trans (Dlc.nextSelector_length found)
          exact lex_of_selectorValue_lt selects own.1 length.symm (grows.trans_le least)

theorem combinations_lex {all : List (List ℕ)} (listed : Dlc.combinations n k = .ok all) :
    all.Pairwise (List.Lex (· < ·)) := by
  unfold Dlc.combinations at listed
  split at listed
  · cases listed
  split at listed
  · cases listed
  cases listed
  have first : Selects n 0 (List.range k) := by
    rw [List.range_eq_range']
    exact Dlc.selects_range' (by omega)
  exact selectorsFrom_lex first

theorem mem_combinations_iff {all : List (List ℕ)} (listed : Dlc.combinations n k = .ok all) :
    s ∈ all ↔ s.length = k ∧ s.Pairwise (· < ·) ∧ ∀ x ∈ s, x < n := by
  have bounds : Selects n 0 s ↔ s.Pairwise (· < ·) ∧ ∀ x ∈ s, x < n := by
    rw [selects_iff]
    simp
  rw [← bounds]
  constructor
  · intro own
    exact (Dlc.combinations_selects listed s own).symm
  · intro own
    exact Dlc.mem_combinations listed own.2 own.1

/-- There are as many as there are sets of so many elements. -/
theorem combinations_length {all : List (List ℕ)} (listed : Dlc.combinations n k = .ok all) :
    all.length = n.choose k := by
  have sets : (all.map List.toFinset).toFinset = Finset.powersetCard k (Finset.range n) := by
    ext set
    rw [List.mem_toFinset, List.mem_map, Finset.mem_powersetCard]
    constructor
    · rintro ⟨s, own, rfl⟩
      obtain ⟨length, ascending, bounds⟩ := (mem_combinations_iff listed).mp own
      refine ⟨fun x inside => ?_, ?_⟩
      · exact Finset.mem_range.mpr (bounds x (List.mem_toFinset.mp inside))
      · rw [List.toFinset_card_of_nodup (ascending.imp fun below => below.ne), length]
    · rintro ⟨inside, card⟩
      refine ⟨set.sort (· ≤ ·), (mem_combinations_iff listed).mpr ⟨?_, ?_, ?_⟩, ?_⟩
      · rw [Finset.length_sort, card]
      · exact Finset.sortedLT_sort set |>.pairwise
      · intro x own
        exact Finset.mem_range.mp (inside ((Finset.mem_sort _).mp own))
      · exact Finset.sort_toFinset _ _
  have apart : (all.map List.toFinset).Nodup := by
    refine List.Nodup.map_on ?_ (Dlc.combinations_nodup listed)
    intro s own s' own' same
    have ascending := ((mem_combinations_iff listed).mp own).2
    have ascending' := ((mem_combinations_iff listed).mp own').2
    have perm : s.Perm s' := List.perm_of_nodup_nodup_toFinset_eq
      (ascending.1.imp fun below => below.ne) (ascending'.1.imp fun below => below.ne) same
    exact perm.eq_of_pairwise (fun _ _ _ _ below above => absurd below above.asymm)
      ascending.1 ascending'.1
  have card := congrArg Finset.card sets
  rw [List.toFinset_card_of_nodup apart, List.length_map, Finset.card_powersetCard,
    Finset.card_range] at card
  exact card

end Run

/-! Positions. -/

section Index
variable {c : List ℕ} {it : CombinationIterator} {all : List (List ℕ)} {fuel count : ℕ}

def overflow : Fault Dlc.Error := .panic "attempt to add with overflow"

theorem usizeAdd_one (count : ℕ) : usizeAdd count 1 =
    if count + 1 < u64Limit then .ok (count + 1) else .error overflow := rfl

theorem next_of_step {r : Option (List ℕ) × CombinationIterator}
    (stepped : step fuel it = some r) : it.next = .ok r := by
  rw [step] at stepped
  cases called : it.next with
  | ok r' =>
      rw [called] at stepped
      exact congrArg Except.ok (Option.some.inj stepped)
  | error e =>
      rw [called] at stepped
      cases stepped

theorem indexFrom_absent (drains : Drains step it all) (absent : c ∉ all)
    (counted : count < u64Limit) (enough : u64Limit < count + fuel) :
    indexFrom c fuel count it =
      if count + all.length < u64Limit then .ok none else .error overflow := by
  induction drains generalizing fuel count with
  | done _ ended =>
      obtain ⟨fuel, rfl⟩ := Nat.exists_eq_succ_of_ne_zero (show fuel ≠ 0 by omega)
      rw [indexFrom, next_of_step ended, Checked.ok_bind, List.length_nil, if_pos (by omega)]
      rfl
  | @item s after x xs _ gave _ ih =>
      obtain ⟨fuel, rfl⟩ := Nat.exists_eq_succ_of_ne_zero (show fuel ≠ 0 by omega)
      rw [List.mem_cons, not_or] at absent
      rw [indexFrom, next_of_step gave, Checked.ok_bind, List.length_cons]
      dsimp only
      rw [usizeAdd_one]
      by_cases more : count + 1 < u64Limit
      · have moved : count + (xs.length + 1) = count + 1 + xs.length := by omega
        rw [if_pos more, Checked.ok_bind, if_neg absent.1, ih absent.2 more (by omega), moved]
      · rw [if_neg more, if_neg (by omega)]
        rfl

theorem indexFrom_present (drains : Drains step it all) (once : all.Nodup) {i : ℕ}
    (found : all[i]? = some c) (counted : count < u64Limit) (enough : u64Limit < count + fuel) :
    indexFrom c fuel count it =
      if count + i + 1 < u64Limit then .ok (some (count + i)) else .error overflow := by
  induction drains generalizing fuel count i with
  | done _ _ => cases found
  | @item s after x xs _ gave _ ih =>
      obtain ⟨fuel, rfl⟩ := Nat.exists_eq_succ_of_ne_zero (show fuel ≠ 0 by omega)
      rw [List.nodup_cons] at once
      rw [indexFrom, next_of_step gave, Checked.ok_bind]
      dsimp only
      rw [usizeAdd_one]
      by_cases more : count + 1 < u64Limit
      · rw [if_pos more, Checked.ok_bind]
        cases i with
        | zero =>
            rw [List.getElem?_cons_zero, Option.some.injEq] at found
            rw [if_pos found.symm, Nat.add_zero, if_pos more]
            rfl
        | succ i =>
            rw [List.getElem?_cons_succ] at found
            have other : c ≠ x := by
              rintro rfl
              exact once.1 (List.mem_of_getElem? found)
            have moved : count + (i + 1) = count + 1 + i := by omega
            rw [if_neg other, ih once.2 found more (by omega), moved]
      · rw [if_neg more, if_neg (by omega)]
        rfl

end Index

/-- The iterator ends, and gives every selection of `k` of `n` elements once, in the order of the
words they are. The position of a selection is found where one more is a machine word, and another
list is found to have none where the number of selections is. -/
theorem selections_enumerated (n k : ℕ) (some' : 1 ≤ k) (enough : k ≤ n) (word : n < u64Limit) :
    ∃ it all, new n k = .ok it ∧ Drains step it all ∧ all.Pairwise (List.Lex (· < ·)) ∧
      all.Nodup ∧ all.length = n.choose k ∧
      (∀ selection, selection ∈ all ↔
        selection.length = k ∧ selection.Pairwise (· < ·) ∧ ∀ x ∈ selection, x < n) ∧
      (∀ i selection, all[i]? = some selection → it.getIndexForCombination selection =
        if i + 1 < u64Limit then .ok (some i) else .error overflow) ∧
      ∀ combination, combination ∉ all → it.getIndexForCombination combination =
        if n.choose k < u64Limit then .ok none else .error overflow := by
  obtain ⟨all, listed, drains⟩ := drains_combinations some' enough word
  have once := Dlc.combinations_nodup listed
  have counted : 0 < u64Limit := by decide
  have length := combinations_length listed
  refine ⟨_, all, new_eq enough, drains, combinations_lex listed, once, length,
    fun _ => mem_combinations_iff listed, fun i selection found => ?_,
    fun combination absent => ?_⟩
  · rw [getIndexForCombination, indexFrom_present drains once found counted (by omega),
      Nat.zero_add]
  · rw [getIndexForCombination, indexFrom_absent drains absent counted (by omega), Nat.zero_add,
      length]

theorem three_of_four_enumerated : ∃ it all, new 4 3 = .ok it ∧ Drains step it all ∧
    all.length = 4 ∧ it.getIndexForCombination [3] = .ok none := by
  obtain ⟨it, all, made, drains, _, _, length, members, _, absent⟩ :=
    selections_enumerated 4 3 (by decide) (by decide) (by decide)
  have other : [3] ∉ all := fun own => absurd ((members [3]).mp own).1 (by decide)
  refine ⟨it, all, made, drains, length, ?_⟩
  rw [absent [3] other, if_pos (by decide)]

/-- There are more pairs of `2 ^ 33` elements than machine words. The last of them is given at a
position that is not found, and a list that is no pair is not found to be none. -/
theorem pairs_not_counted :
    (1 ≤ 2 ∧ 2 ≤ 2 ^ 33 ∧ 2 ^ 33 < u64Limit) ∧ ∃ it all, ∃ i : ℕ,
      new (2 ^ 33) 2 = .ok it ∧ Drains step it all ∧ all[i]? = some [2 ^ 33 - 2, 2 ^ 33 - 1] ∧
      it.getIndexForCombination [2 ^ 33 - 2, 2 ^ 33 - 1] = .error overflow ∧
      [] ∉ all ∧ it.getIndexForCombination [] = .error overflow := by
  have word : 2 ^ 33 < u64Limit := by decide
  have counted : 0 < u64Limit := by decide
  obtain ⟨all, listed, drains⟩ := drains_combinations (n := 2 ^ 33) (k := 2)
    (by decide) (by decide) word
  have length : all.length = 2 ^ 32 * (2 ^ 33 - 1) := by
    rw [combinations_length listed, Nat.choose_two_right]
    norm_num
  have own : [2 ^ 33 - 2, 2 ^ 33 - 1] ∈ all := (mem_combinations_iff listed).mpr (by simp)
  have absent : [] ∉ all := fun inside => absurd ((mem_combinations_iff listed).mp inside).1
    (by decide)
  obtain ⟨i, inside, found⟩ := List.getElem_of_mem own
  have found' : all[i]? = some [2 ^ 33 - 2, 2 ^ 33 - 1] := by
    rw [List.getElem?_eq_getElem inside, found]
  have last : ¬ i + 1 < all.length := by
    intro more
    have later := List.pairwise_iff_getElem.mp (combinations_lex listed) i (i + 1) inside more
      (by omega)
    obtain ⟨two, ascending, bounds⟩ :=
      (mem_combinations_iff listed).mp (List.getElem_mem more)
    obtain ⟨a, b, pair⟩ := List.length_eq_two.mp two
    rw [pair] at later ascending bounds
    rw [found] at later
    simp only [List.pairwise_cons, List.mem_cons, forall_eq_or_imp, List.not_mem_nil,
      false_imp_iff, implies_true, and_true] at ascending bounds
    cases later with
    | rel below => omega
    | cons rest =>
        cases rest with
        | rel below => omega
        | cons rest => cases rest
  refine ⟨⟨by decide, by decide, word⟩, _, all, i, new_eq (by decide), drains, found', ?_, absent,
    ?_⟩
  · rw [getIndexForCombination, indexFrom_present drains (Dlc.combinations_nodup listed) found'
      counted (by omega), Nat.zero_add, if_neg]
    rw [u64Limit]
    omega
  · rw [getIndexForCombination, indexFrom_absent drains absent counted (by omega), Nat.zero_add,
      if_neg]
    rw [length, u64Limit]
    omega

end CombinationIterator

end P2PLending.Trie
