import P2PLending.Dlc.Transactions

/-! The combinations of `t` of `n` oracles, in the order of the trie crate's
iterator. From one selection to the next the rightmost oracle that can move does,
and those behind it follow it. Read as digits, the selections grow. -/

namespace P2PLending.Dlc

/-- The selection after this one, if any. -/
def nextSelector (nbElements : ℕ) : List ℕ → Option (List ℕ)
  | [] => none
  | x :: xs =>
      match nextSelector nbElements xs with
      | some xs' => some (x :: xs')
      | none =>
          if x + xs.length + 1 < nbElements then some (List.range' (x + 1) (xs.length + 1))
          else none

/-- The selections from this one on, as far as the fuel reaches. -/
def selectorsFrom (nbElements : ℕ) : (fuel : ℕ) → List ℕ → List (List ℕ)
  | 0, _ => []
  | fuel + 1, selector =>
      selector :: match nextSelector nbElements selector with
        | some next => selectorsFrom nbElements fuel next
        | none => []

/-- The iterator's list. It asserts that there are enough elements, and an empty
selection has no last index. -/
def combinations (nbElements nbSelected : ℕ) : Result (List (List ℕ)) :=
  if nbElements < nbSelected then
    .error (.panic "assertion failed: nb_elements >= nb_selected")
  else if nbSelected = 0 then .error (.panic "attempt to subtract with overflow")
  else .ok (selectorsFrom nbElements (nbElements ^ nbSelected) (List.range nbSelected))

/-- A selection names its elements in order, from `least` on. -/
def Selects (nbElements : ℕ) (least : ℕ) : List ℕ → Prop
  | [] => True
  | x :: xs => least ≤ x ∧ x < nbElements ∧ Selects nbElements (x + 1) xs

instance (n : ℕ) : ∀ least l, Decidable (Selects n least l)
  | _, [] => isTrue trivial
  | least, x :: xs =>
      have := instDecidableSelects n (x + 1) xs
      inferInstanceAs (Decidable (least ≤ x ∧ x < n ∧ Selects n (x + 1) xs))

/-- A selection read as a number in base `n`. -/
def selectorValue (n : ℕ) : List ℕ → ℕ
  | [] => 0
  | x :: xs => x * n ^ xs.length + selectorValue n xs

section Order
variable {n least : ℕ} {s s' b : List ℕ}

theorem selectorValue_lt (selects : Selects n least s) : selectorValue n s < n ^ s.length := by
  induction s generalizing least with
  | nil => simp [selectorValue]
  | cons x xs ih =>
      have tail := ih selects.2.2
      have head : (x + 1) * n ^ xs.length ≤ n * n ^ xs.length :=
        Nat.mul_le_mul_right _ selects.2.1
      rw [selectorValue, List.length_cons, pow_succ']
      rw [Nat.add_mul, one_mul] at head
      omega

theorem selectorValue_lt_of_head {x y : ℕ} {xs ys : List ℕ} (selects : Selects n least xs)
    (same : xs.length = ys.length) (smaller : x < y) :
    selectorValue n (x :: xs) < selectorValue n (y :: ys) := by
  have tail := selectorValue_lt selects
  have head : (x + 1) * n ^ xs.length ≤ y * n ^ xs.length := Nat.mul_le_mul_right _ smaller
  rw [Nat.add_mul, one_mul] at head
  rw [selectorValue, selectorValue, ← same]
  omega

theorem selectorValue_inj (selects : Selects n least s) (selects' : Selects n least b)
    (same : s.length = b.length) (equal : selectorValue n s = selectorValue n b) : s = b := by
  induction s generalizing least b with
  | nil => exact (List.length_eq_zero_iff.mp same.symm).symm
  | cons x xs ih =>
      match b with
      | y :: ys =>
          have tails : xs.length = ys.length := by simpa using same
          have heads : x = y := by
            rcases Nat.lt_trichotomy x y with smaller | equal' | larger
            · exact absurd equal
                (selectorValue_lt_of_head selects.2.2 tails smaller).ne
            · exact equal'
            · exact absurd equal.symm
                (selectorValue_lt_of_head selects'.2.2 tails.symm larger).ne
          subst heads
          rw [selectorValue, selectorValue, ← tails] at equal
          have rest := ih selects.2.2 selects'.2.2 tails (by omega)
          rw [rest]

theorem Selects.room {x : ℕ} {xs : List ℕ} (selects : Selects n least (x :: xs)) :
    x + xs.length < n := by
  induction xs generalizing x least with
  | nil => exact selects.2.1
  | cons y ys ih =>
      have rest := ih selects.2.2
      have order : x + 1 ≤ y := selects.2.2.1
      simp only [List.length_cons]
      omega

theorem selects_range' {count : ℕ} (room : least + count ≤ n) :
    Selects n least (List.range' least count) := by
  induction count generalizing least with
  | zero => exact trivial
  | succ count ih =>
      rw [List.range'_succ]
      exact ⟨le_refl _, by omega, ih (by omega)⟩

theorem Selects.weaken {least' : ℕ} (selects : Selects n least s) (below : least' ≤ least) :
    Selects n least' s := by
  cases s with
  | nil => exact trivial
  | cons x xs => exact ⟨below.trans selects.1, selects.2⟩

theorem Selects.bounds (selects : Selects n least s) : ∀ x ∈ s, least ≤ x ∧ x < n := by
  induction s generalizing least with
  | nil => simp
  | cons x xs ih =>
      rw [List.forall_mem_cons]
      refine ⟨⟨selects.1, selects.2.1⟩, fun y listed => ?_⟩
      have later := ih selects.2.2 y listed
      exact ⟨selects.1.trans ((Nat.le_succ x).trans later.1), later.2⟩

theorem Selects.ascending (selects : Selects n least s) : s.Pairwise (· < ·) := by
  induction s generalizing least with
  | nil => exact List.Pairwise.nil
  | cons x xs ih =>
      rw [List.pairwise_cons]
      exact ⟨fun y listed => (selects.2.2.bounds y listed).1, ih selects.2.2⟩

/-- The first selection has the least value. -/
theorem selectorValue_range'_le (selects : Selects n least b) :
    selectorValue n (List.range' least b.length) ≤ selectorValue n b := by
  induction b generalizing least with
  | nil => exact le_refl _
  | cons y ys ih =>
      have room := selects.room
      rw [List.length_cons, List.range'_succ]
      rcases Nat.lt_or_eq_of_le selects.1 with smaller | equal
      · have first : Selects n (least + 1) (List.range' (least + 1) ys.length) :=
          selects_range' (by omega)
        exact (selectorValue_lt_of_head first (by simp) smaller).le
      · subst equal
        rw [selectorValue, selectorValue, List.length_range']
        have rest := ih selects.2.2
        omega

theorem nextSelector_length (next : nextSelector n s = some s') : s'.length = s.length := by
  induction s generalizing s' with
  | nil => cases next
  | cons x xs ih =>
      rw [nextSelector] at next
      split at next
      · rename_i xs' found
        cases next
        simp [ih found]
      · split at next
        · cases next
          simp
        · cases next

theorem nextSelector_selects (selects : Selects n least s) (next : nextSelector n s = some s') :
    Selects n least s' := by
  induction s generalizing least s' with
  | nil => cases next
  | cons x xs ih =>
      rw [nextSelector] at next
      split at next
      · rename_i xs' found
        cases next
        exact ⟨selects.1, selects.2.1, ih selects.2.2 found⟩
      · split at next
        · rename_i room
          cases next
          have first : Selects n (x + 1) (List.range' (x + 1) (xs.length + 1)) :=
            selects_range' (by omega)
          exact first.weaken (selects.1.trans (Nat.le_succ x))
        · cases next

theorem selectorValue_lt_next (selects : Selects n least s) (next : nextSelector n s = some s') :
    selectorValue n s < selectorValue n s' := by
  induction s generalizing least s' with
  | nil => cases next
  | cons x xs ih =>
      rw [nextSelector] at next
      split at next
      · rename_i xs' found
        cases next
        have rest := ih selects.2.2 found
        rw [selectorValue, selectorValue, nextSelector_length found]
        omega
      · split at next
        · cases next
          rw [List.range'_succ]
          exact selectorValue_lt_of_head selects.2.2 (by simp) (Nat.lt_succ_self x)
        · cases next

/-- The next selection is the least of the larger ones. -/
theorem nextSelector_least (selects : Selects n least s) (selects' : Selects n least b)
    (same : s.length = b.length) (smaller : selectorValue n s < selectorValue n b) :
    ∃ s', nextSelector n s = some s' ∧ selectorValue n s' ≤ selectorValue n b := by
  induction s generalizing least b with
  | nil =>
      rw [List.length_eq_zero_iff.mp same.symm] at smaller
      exact absurd smaller (lt_irrefl _)
  | cons x xs ih =>
      match b with
      | y :: ys =>
          have tails : xs.length = ys.length := by simpa using same
          have room := selects'.room
          rcases Nat.lt_trichotomy x y with below | equal | above
          · rw [nextSelector]
            match found : nextSelector n xs with
            | some xs' =>
                have selected := nextSelector_selects selects.2.2 found
                have length := (nextSelector_length found).trans tails
                exact ⟨_, rfl, (selectorValue_lt_of_head selected length below).le⟩
            | none =>
                rw [if_pos (by omega)]
                refine ⟨_, rfl, ?_⟩
                have later : Selects n (x + 1) (y :: ys) := ⟨below, selects'.2⟩
                have first := selectorValue_range'_le later
                rwa [List.length_cons, ← tails] at first
          · subst equal
            rw [selectorValue, selectorValue, ← tails] at smaller
            obtain ⟨xs', found, bound⟩ := ih selects.2.2 selects'.2.2 tails (by omega)
            rw [nextSelector, found]
            refine ⟨_, rfl, ?_⟩
            rw [selectorValue, selectorValue, nextSelector_length found, ← tails]
            omega
          · exact absurd smaller
              (selectorValue_lt_of_head selects'.2.2 tails.symm above).le.not_gt

theorem mem_selectorsFrom {fuel : ℕ} (selects : Selects n least s)
    (selects' : Selects n least b) (same : s.length = b.length)
    (upTo : selectorValue n s ≤ selectorValue n b)
    (enough : selectorValue n b - selectorValue n s < fuel) : b ∈ selectorsFrom n fuel s := by
  induction fuel generalizing s with
  | zero => exact absurd enough (Nat.not_lt_zero _)
  | succ fuel ih =>
      rw [selectorsFrom]
      rcases Nat.lt_or_eq_of_le upTo with smaller | equal
      · obtain ⟨s', next, bound⟩ := nextSelector_least selects selects' same smaller
        have grows := selectorValue_lt_next selects next
        have later := ih (nextSelector_selects selects next)
          ((nextSelector_length next).trans same) bound (by omega)
        rw [next]
        exact List.mem_cons_of_mem _ later
      · rw [selectorValue_inj selects selects' same equal]
        exact List.mem_cons_self

theorem selectorsFrom_grow {fuel : ℕ} (selects : Selects n least s) :
    ∀ later ∈ selectorsFrom n fuel s, selectorValue n s ≤ selectorValue n later := by
  induction fuel generalizing s with
  | zero => simp [selectorsFrom]
  | succ fuel ih =>
      rw [selectorsFrom, List.forall_mem_cons]
      refine ⟨le_refl _, ?_⟩
      match next : nextSelector n s with
      | none => simp
      | some s' =>
          intro later listed
          have grows := selectorValue_lt_next selects next
          exact grows.le.trans (ih (nextSelector_selects selects next) later listed)

theorem selectorsFrom_nodup {fuel : ℕ} (selects : Selects n least s) :
    (selectorsFrom n fuel s).Nodup := by
  induction fuel generalizing s with
  | zero => exact List.nodup_nil
  | succ fuel ih =>
      rw [selectorsFrom]
      match next : nextSelector n s with
      | none => simp
      | some s' =>
          have selects' := nextSelector_selects selects next
          refine List.nodup_cons.mpr ⟨fun listed => ?_, ih selects'⟩
          have grows := selectorValue_lt_next selects next
          exact absurd (selectorsFrom_grow selects' s listed) grows.not_ge

theorem selectorsFrom_selects {fuel : ℕ} (selects : Selects n least s) :
    ∀ later ∈ selectorsFrom n fuel s, Selects n least later ∧ later.length = s.length := by
  induction fuel generalizing s with
  | zero => simp [selectorsFrom]
  | succ fuel ih =>
      rw [selectorsFrom, List.forall_mem_cons]
      refine ⟨⟨selects, rfl⟩, ?_⟩
      cases next : nextSelector n s with
      | none => simp
      | some s' =>
          have length := nextSelector_length next
          have rest := ih (nextSelector_selects selects next)
          rw [length] at rest
          exact rest

end Order

theorem nextSelector_last {n least count : ℕ} (last : least + count = n) :
    nextSelector n (List.range' least count) = none := by
  induction count generalizing least with
  | zero => rfl
  | succ count ih =>
      rw [List.range'_succ, nextSelector, ih (by omega)]
      simp only [List.length_range']
      rw [if_neg (by omega)]

/-- There is one selection of all elements. -/
theorem combinations_self {n : ℕ} (some : n ≠ 0) : combinations n n = .ok [List.range n] := by
  have fuel : n ^ n = n ^ n - 1 + 1 := (Nat.sub_add_cancel (Nat.pow_pos (by omega))).symm
  rw [combinations, if_neg (Nat.lt_irrefl n), if_neg some, fuel, selectorsFrom,
    List.range_eq_range', nextSelector_last (Nat.zero_add n)]

theorem combinations_nodup {n t : ℕ} {all : List (List ℕ)} (listed : combinations n t = .ok all) :
    all.Nodup := by
  unfold combinations at listed
  split at listed
  · cases listed
  split at listed
  · cases listed
  cases listed
  rename_i enough _
  have first : Selects n 0 (List.range t) := by
    rw [List.range_eq_range']
    exact selects_range' (by omega)
  exact selectorsFrom_nodup first

/-- Every combination is a selection in order, of as many elements as are selected. -/
theorem combinations_selects {n t : ℕ} {all : List (List ℕ)} (listed : combinations n t = .ok all) :
    ∀ selector ∈ all, Selects n 0 selector ∧ selector.length = t := by
  unfold combinations at listed
  split at listed
  · cases listed
  split at listed
  · cases listed
  cases listed
  rename_i enough _
  have first : Selects n 0 (List.range t) := by
    rw [List.range_eq_range']
    exact selects_range' (by omega)
  have all : ∀ selector ∈ selectorsFrom n (n ^ t) (List.range t), _ := selectorsFrom_selects first
  rw [List.length_range] at all
  exact all

/-- Every selection in order is one of the combinations. -/
theorem mem_combinations {n t : ℕ} {b : List ℕ} {all : List (List ℕ)}
    (listed : combinations n t = .ok all) (selects : Selects n 0 b) (length : b.length = t) :
    b ∈ all := by
  unfold combinations at listed
  split at listed
  · cases listed
  split at listed
  · cases listed
  cases listed
  rename_i enough _
  have first : Selects n 0 (List.range t) := by
    rw [List.range_eq_range']
    exact selects_range' (by omega)
  have bound := selectorValue_lt selects
  have least := selectorValue_range'_le selects
  rw [length] at bound least
  rw [← List.range_eq_range'] at least
  exact mem_selectorsFrom first selects (by simp [length]) least (by omega)

end P2PLending.Dlc
