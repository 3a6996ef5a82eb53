import P2PLending.Trie.DigitDecomposition

/-! The prefixes that the values of a range are grouped by. Each loop lists the prefixes of
intervals that follow each other, up to where the next loop begins. -/

namespace P2PLending.Trie

open Dlc (Result Fault u64Limit)

/-! Stacks, the last digit first, and the values of `m` digits that begin with theirs. -/

section Stacks
variable {base m x f : ℕ} {s t : List ℕ}

def stackLow (base m : ℕ) (stack : List ℕ) : ℕ := leastWith base m stack.reverse

def stackHigh (base m : ℕ) (stack : List ℕ) : ℕ := pastWith base m stack.reverse

/-- The stack is that of a prefix of `m` digits. -/
def Stacked (base m : ℕ) (stack : List ℕ) : Prop := stack.length ≤ m ∧ ∀ d ∈ stack, d < base

theorem Stacked.tail (stacked : Stacked base m (x :: s)) : Stacked base m s := by
  obtain ⟨short, digits⟩ := stacked
  rw [List.length_cons] at short
  exact ⟨by omega, (List.forall_mem_cons.mp digits).2⟩

theorem stackLow_zero (short : s.length < m) : stackLow base m (0 :: s) = stackLow base m s := by
  have place : m - s.length = m - (s.length + 1) + 1 := by omega
  rw [stackLow, stackLow, leastWith, leastWith, List.reverse_cons, ofPlaces_concat,
    List.length_append, List.length_reverse, List.length_singleton, place, pow_succ, Nat.add_zero]
  ring

theorem stackHigh_greatest (pos : 0 < base) (short : s.length < m) :
    stackHigh base m ((base - 1) :: s) = stackHigh base m s := by
  have place : m - s.length = m - (s.length + 1) + 1 := by omega
  have digit : ofPlaces base s.reverse * base + (base - 1) + 1 =
      (ofPlaces base s.reverse + 1) * base := by
    rw [Nat.add_mul]
    omega
  rw [stackHigh, stackHigh, pastWith, pastWith, List.reverse_cons, ofPlaces_concat, digit,
    List.length_append, List.length_reverse, List.length_singleton, place, pow_succ]
  ring

theorem stackLow_succ (base m x : ℕ) (s : List ℕ) :
    stackLow base m ((x + 1) :: s) = stackHigh base m (x :: s) := by
  rw [stackLow, stackHigh, leastWith, pastWith, List.reverse_cons, List.reverse_cons,
    ofPlaces_concat, ofPlaces_concat, List.length_append, List.length_append, Nat.add_assoc]
  rfl

theorem removeTail_append (toRemove : ℕ) (t : List ℕ) (f : ℕ) :
    removeTail toRemove (t ++ [f]) = t.dropWhile (· = toRemove) ++ [f] := by
  induction t with
  | nil => rfl
  | cons x t ih =>
      rw [List.dropWhile_cons]
      cases rest : t ++ [f] with
      | nil => exact absurd rest (by simp)
      | cons y below =>
          rw [List.cons_append, rest, removeTail, ← rest, ih]
          by_cases removed : x = toRemove
          · simp [removed]
          · simp [removed]

variable (base m f t) in
theorem stackLow_removeTail (short : t.length < m) :
    stackLow base m (removeTail 0 (t ++ [f])) = stackLow base m (t ++ [f]) := by
  rw [removeTail_append]
  induction t with
  | nil => rfl
  | cons x t ih =>
      rw [List.length_cons] at short
      rw [List.dropWhile_cons]
      by_cases removed : x = 0
      · rw [if_pos (by simpa using removed), ih (by omega), removed, List.cons_append,
          stackLow_zero (by simpa using short)]
      · rw [if_neg (by simpa using removed)]

variable (base m f t) in
theorem stackHigh_removeTail (pos : 0 < base) (short : t.length < m) :
    stackHigh base m (removeTail (base - 1) (t ++ [f])) = stackHigh base m (t ++ [f]) := by
  rw [removeTail_append]
  induction t with
  | nil => rfl
  | cons x t ih =>
      rw [List.length_cons] at short
      rw [List.dropWhile_cons]
      by_cases removed : x = base - 1
      · rw [if_pos (by simpa using removed), ih (by omega), removed, List.cons_append,
          stackHigh_greatest pos (by simpa using short)]
      · rw [if_neg (by simpa using removed)]

theorem dropWhile_head (f : ℕ → Bool) {y : ℕ} {u : List ℕ} (left : t.dropWhile f = y :: u) :
    f y = false := by
  have nonempty : t.dropWhile f ≠ [] := by simp [left]
  have head := List.head_dropWhile_not f nonempty
  simpa [left] using head

end Stacks

/-! From the start to the end of its first digit. -/

section Start
variable {base m x f fuel : ℕ} {t rest : List ℕ}

/-- One turn of the first loop, with what it lists. -/
def startTurn (base x : ℕ) (rest : List ℕ) : List (List ℕ) × List ℕ :=
  if x = base - 1 then ([x :: rest], increment (removeTail (base - 1) rest))
  else if x = 0 then ([], removeTail 0 (x :: rest))
  else ([x :: rest], increment (x :: rest))

theorem groupsFromStart_turn (some : rest ≠ []) :
    groupsFromStart base (fuel + 1) (x :: rest) = (do
      Checked.ensure (∀ d ∈ (startTurn base x rest).2, d < base)
        (.panic "assertion failed: stack.iter().all(|x| x < &base)")
      let (list, last) ← groupsFromStart base fuel (startTurn base x rest).2
      return ((startTurn base x rest).1 ++ list, last)) := by
  cases rest with
  | nil => exact absurd rfl some
  | cons y below => rfl

theorem Stacked.dropWhile {p : ℕ → Bool} (stacked : Stacked base m (t ++ [f])) :
    Stacked base m (t.dropWhile p ++ [f]) ∧ (t.dropWhile p).length ≤ t.length := by
  have suffix := List.dropWhile_suffix (l := t) p
  have shorter := suffix.length_le
  obtain ⟨short, digits⟩ := stacked
  rw [List.forall_mem_append] at digits
  rw [List.length_append, List.length_singleton] at short
  refine ⟨⟨by simp; omega, ?_⟩, shorter⟩
  exact List.forall_mem_append.mpr ⟨fun d listed => digits.1 d (suffix.subset listed), digits.2⟩

/-- A turn goes on where what it lists ends, closer to the end of the loop. -/
theorem startTurn_spec (base2 : 2 ≤ base) (stacked : Stacked base m (x :: t ++ [f])) :
    Tiles (stackLow base m) (stackHigh base m) (stackLow base m (x :: t ++ [f]))
        (startTurn base x (t ++ [f])).1 (stackLow base m (startTurn base x (t ++ [f])).2) ∧
      (∀ s ∈ (startTurn base x (t ++ [f])).1, s = x :: t ++ [f]) ∧
      ((startTurn base x (t ++ [f])).2 = [f + 1] ∨
        ∃ u, (startTurn base x (t ++ [f])).2 = u ++ [f] ∧ Stacked base m (u ++ [f]) ∧
          u.length * (base + 1) + x + 1 ≤ (t.length + 1) * (base + 1) + u.headD 0) := by
  have below : Stacked base m (t ++ [f]) := stacked.tail
  have digit : x < base := stacked.2 x (by simp)
  have room : t.length + 2 ≤ m := by
    have short := stacked.1
    simp only [List.cons_append, List.length_cons, List.length_append, List.length_nil] at short
    omega
  rw [startTurn]
  by_cases greatest : x = base - 1
  · have high := stackHigh_removeTail base m f t (by omega) (by omega)
    have whole : stackHigh base m ((base - 1) :: (t ++ [f])) = stackHigh base m (t ++ [f]) :=
      stackHigh_greatest (by omega) (by simp; omega)
    rw [if_pos greatest]
    rw [removeTail_append] at high ⊢
    obtain ⟨kept, shorter⟩ := below.dropWhile (p := fun d => d = base - 1)
    cases left : t.dropWhile fun d => d = base - 1 with
    | nil =>
        rw [left] at high
        refine ⟨⟨rfl, ?_⟩, by simp, Or.inl rfl⟩
        rw [← List.cons_append, greatest, List.cons_append, whole, ← high]
        exact (stackLow_succ base m f []).symm
    | cons y u =>
        rw [left] at high kept shorter
        have other : y ≠ base - 1 := by simpa using dropWhile_head _ left
        have smaller : y < base := kept.2 y (by simp)
        refine ⟨⟨rfl, ?_⟩, by simp, Or.inr ⟨(y + 1) :: u, rfl, ⟨kept.1, ?_⟩, ?_⟩⟩
        · rw [← List.cons_append, greatest, List.cons_append, whole, ← high]
          exact (stackLow_succ base m y (u ++ [f])).symm
        · exact List.forall_mem_cons.mpr ⟨by omega, (List.forall_mem_cons.mp kept.2).2⟩
        · have fewer := Nat.mul_le_mul_right (base + 1) shorter
          rw [List.length_cons] at fewer
          rw [List.headD_cons, List.length_cons, Nat.add_mul t.length, one_mul]
          omega
  · rw [if_neg greatest]
    by_cases zero : x = 0
    · have low := stackLow_removeTail base m f (x :: t) (by simp; omega)
      obtain ⟨kept, _⟩ := stacked.dropWhile (p := fun d => d = 0)
      rw [if_pos zero, ← List.cons_append]
      refine ⟨low.symm, by simp, Or.inr ⟨_, removeTail_append 0 (x :: t) f, kept, ?_⟩⟩
      have shorter : ((x :: t).dropWhile fun d => d = 0).length ≤ t.length := by
        rw [List.dropWhile_cons, if_pos (by simpa using zero)]
        exact (List.dropWhile_suffix _).length_le
      have fewer := Nat.mul_le_mul_right (base + 1) shorter
      rw [Nat.add_mul t.length, one_mul]
      omega
    · rw [if_neg zero]
      refine ⟨⟨rfl, (stackLow_succ base m x (t ++ [f])).symm⟩, by simp,
        Or.inr ⟨(x + 1) :: t, rfl, ⟨stacked.1, ?_⟩, ?_⟩⟩
      · exact List.forall_mem_cons.mpr ⟨by omega, below.2⟩
      · rw [List.length_cons, List.headD_cons]
        omega

variable (fuel) in
/-- The first loop ends with the first digit or the next, having listed what is before it. -/
theorem groupsFromStart_tiles (base2 : 2 ≤ base) (first : f + 1 < base)
    (stacked : Stacked base m (t ++ [f]))
    (enough : t.length * (base + 1) + 1 ≤ fuel + t.headD 0) :
    ∃ list x, groupsFromStart base fuel (t ++ [f]) = .ok (list, [x]) ∧ (x = f ∨ x = f + 1) ∧
      Tiles (stackLow base m) (stackHigh base m) (stackLow base m (t ++ [f])) list
        (stackLow base m [x]) ∧
      ∀ s ∈ list, Stacked base m s := by
  induction fuel generalizing t with
  | zero =>
      cases t with
      | nil => simp at enough
      | cons x t =>
          have digit : x < base := stacked.2 x (by simp)
          rw [List.headD_cons, List.length_cons, Nat.add_mul] at enough
          omega
  | succ fuel ih =>
      cases t with
      | nil => exact ⟨[], f, rfl, Or.inl rfl, rfl, by simp⟩
      | cons x t =>
          have digit : x < base := stacked.2 x (by simp)
          obtain ⟨tiles, listed, turned⟩ := startTurn_spec base2 stacked
          rw [List.headD_cons, List.length_cons] at enough
          rw [List.cons_append, groupsFromStart_turn (by simp), ← List.cons_append]
          rcases turned with single | ⟨u, more, kept, closer⟩
          · have after : fuel = fuel - 1 + 1 := by
              rw [Nat.add_mul] at enough
              omega
            rw [single] at tiles
            refine ⟨(startTurn base x (t ++ [f])).1, f + 1, ?_, Or.inr rfl, tiles, ?_⟩
            · rw [single, Checked.ensure, if_pos (by simpa using first), Checked.ok_bind, after]
              simp [groupsFromStart]
            · intro s own
              rw [listed s own]
              exact stacked
          · obtain ⟨list, y, computed, ends, others, each⟩ := ih kept (by omega)
            rw [more] at tiles
            refine ⟨(startTurn base x (t ++ [f])).1 ++ list, y, ?_, ends, tiles.append others, ?_⟩
            · rw [more, Checked.ensure, if_pos kept.2, Checked.ok_bind, computed]
              rfl
            · refine List.forall_mem_append.mpr ⟨fun s own => ?_, each⟩
              rw [listed s own]
              exact stacked

end Start

/-! The digits between, and the last ones. -/

section End
variable {base m x y k fuel : ℕ} {stop list : List ℕ}

variable (x fuel stop) in
theorem between_tiles (below : x ≤ y) (digit : y < base) (pos : 0 < m)
    (last : stop.getLast? = some y) (enough : y + 1 ≤ fuel + x) :
    ∃ list, groupByIgnoringDigits.between stop fuel [x] = .ok (list, [y]) ∧
      Tiles (stackLow base m) (stackHigh base m) (stackLow base m [x]) list
        (stackLow base m [y]) ∧
      ∀ s ∈ list, Stacked base m s := by
  induction fuel generalizing x with
  | zero => omega
  | succ fuel ih =>
      rw [groupByIgnoringDigits.between, last, List.getLast?_singleton]
      rcases Nat.lt_or_eq_of_le below with smaller | rfl
      · obtain ⟨list, computed, tiles, each⟩ := ih (x := x + 1) smaller (by omega)
        have other : some x ≠ some y := by
          rw [ne_eq, Option.some.injEq]
          omega
        refine ⟨[x] :: list, ?_, ⟨rfl, ?_⟩, List.forall_mem_cons.mpr ⟨⟨pos, ?_⟩, each⟩⟩
        · rw [if_neg other]
          simp only [increment]
          rw [computed]
          rfl
        · rw [← stackLow_succ]
          exact tiles
        · simp only [List.mem_singleton, forall_eq]
          omega
      · exact ⟨[], by rw [if_pos rfl], rfl, by simp⟩

theorem between_above (above : y < x) (last : stop.getLast? = some y) :
    groupByIgnoringDigits.between stop fuel [x] = .error notTerminated := by
  induction fuel generalizing x with
  | zero => rfl
  | succ fuel ih =>
      have other : some x ≠ some y := by
        rw [ne_eq, Option.some.injEq]
        omega
      rw [groupByIgnoringDigits.between, last, List.getLast?_singleton, if_neg other]
      simp only [increment]
      rw [ih (by omega)]
      rfl

theorem groupsToEnd_stop (stop : List ℕ) : groupsToEnd stop (fuel + 1) stop = .ok [] := by
  simp [groupsToEnd]

theorem groupsToEnd_turn {r : List ℕ} (digit : stop.reverse[r.length]? = some y)
    (other : x :: r ≠ stop) : groupsToEnd stop (fuel + 1) (x :: r) =
      if x = y then groupsToEnd stop fuel (0 :: x :: r)
      else do
        let list ← groupsToEnd stop fuel ((x + 1) :: r)
        return (x :: r) :: list := by
  have place : (x :: r).length - 1 = r.length := by simp
  rw [groupsToEnd, if_neg other]
  simp only [place, digit]

variable (x fuel) in
/-- The last loop has so many digits of the end on its stack, and one no larger than the next. -/
theorem groupsToEnd_tiles (stacked : Stacked base m stop) (inside : k < stop.reverse.length)
    (below : x ≤ stop.reverse[k]) (enough : (stop.length - k) * (base + 1) ≤ fuel + x) :
    ∃ list, groupsToEnd stop fuel (x :: (stop.reverse.take k).reverse) = .ok list ∧
      Tiles (stackLow base m) (stackHigh base m)
        (stackLow base m (x :: (stop.reverse.take k).reverse)) list (stackLow base m stop) ∧
      ∀ s ∈ list, Stacked base m s := by
  have short := stacked.1
  have digits : ∀ d ∈ stop.reverse, d < base := by simpa using stacked.2
  have length : stop.reverse.length = stop.length := List.length_reverse
  induction fuel generalizing k x with
  | zero =>
      have digit : stop.reverse[k] < base := digits _ (List.getElem_mem inside)
      have one : 1 * (base + 1) ≤ (stop.length - k) * (base + 1) :=
        Nat.mul_le_mul_right _ (by omega)
      omega
  | succ fuel ih =>
      have digit : stop.reverse[k] < base := digits _ (List.getElem_mem inside)
      have pushed : (stop.reverse.take (k + 1)).reverse =
          stop.reverse[k] :: (stop.reverse.take k).reverse := by
        rw [List.take_succ_eq_append_getElem inside, List.reverse_append]
        rfl
      have taken : (stop.reverse.take k).reverse.length = k := by
        rw [List.length_reverse, List.length_take]
        omega
      by_cases same : x :: (stop.reverse.take k).reverse = stop
      · refine ⟨[], ?_, ?_, by simp⟩
        · rw [same, groupsToEnd_stop]
        · exact congrArg (stackLow base m) same
      · have next : stop.reverse[(stop.reverse.take k).reverse.length]? = some stop.reverse[k] := by
          rw [taken]
          exact List.getElem?_eq_getElem inside
        rw [groupsToEnd_turn next same]
        rcases Nat.lt_or_eq_of_le below with smaller | equal
        · obtain ⟨list, computed, tiles, each⟩ := ih (x := x + 1) inside smaller (by omega)
          have own : Stacked base m (x :: (stop.reverse.take k).reverse) := by
            refine ⟨by rw [List.length_cons, taken]; omega, ?_⟩
            refine List.forall_mem_cons.mpr ⟨by omega, fun d listed => ?_⟩
            exact digits d (List.mem_of_mem_take (List.mem_reverse.mp listed))
          refine ⟨_ :: list, ?_, ⟨rfl, ?_⟩, List.forall_mem_cons.mpr ⟨own, each⟩⟩
          · rw [if_neg smaller.ne, computed]
            rfl
          · rw [← stackLow_succ]
            exact tiles
        · have more : k + 1 < stop.reverse.length := by
            by_contra last
            have all : stop.reverse.take (k + 1) = stop.reverse := List.take_of_length_le (by omega)
            rw [all, List.reverse_reverse, ← equal] at pushed
            exact same pushed.symm
          have fewer : (stop.length - (k + 1)) * (base + 1) + (base + 1) =
              (stop.length - k) * (base + 1) := by
            rw [← Nat.succ_mul, Nat.succ_eq_add_one]
            congr 1
            omega
          obtain ⟨list, computed, tiles, each⟩ := ih (x := 0) more (Nat.zero_le _) (by omega)
          rw [pushed, ← equal] at computed tiles
          rw [stackLow_zero (by rw [List.length_cons, taken]; omega)] at tiles
          exact ⟨list, by rw [if_pos equal, computed], tiles, each⟩

end End

/-! The whole range. -/

section Range
variable {base n m x y start stop fuel : ℕ} {ds de pre p : List ℕ} {groups : List (List ℕ)}

theorem takePrefix_spec (same : ds.length = de.length) : ∃ pre a b,
    takePrefix ds de = (pre, a, b) ∧ ds = pre ++ a ∧ de = pre ++ b ∧
      ((a = [] ∧ b = []) ∨ ∃ x a' y b', a = x :: a' ∧ b = y :: b' ∧ x ≠ y) := by
  induction ds generalizing de with
  | nil =>
      have none : de = [] := List.length_eq_zero_iff.mp same.symm
      exact ⟨[], [], [], by rw [none]; rfl, rfl, none, Or.inl ⟨rfl, rfl⟩⟩
  | cons x ds ih =>
      cases de with
      | nil => exact absurd same (by simp)
      | cons y de =>
          by_cases equal : x = y
          · obtain ⟨pre, a, b, taken, left, right, ends⟩ := ih (by simpa using same)
            refine ⟨x :: pre, a, b, ?_, by rw [left]; rfl, by rw [equal, right]; rfl, ends⟩
            rw [takePrefix, if_pos equal, taken]
          · refine ⟨[], x :: ds, y :: de, ?_, rfl, rfl, Or.inr ⟨x, ds, y, de, rfl, rfl, equal⟩⟩
            rw [takePrefix, if_neg equal]

theorem leastWith_whole (length : p.length = m) : leastWith base m p = ofPlaces base p := by
  rw [leastWith, length, Nat.sub_self, pow_zero, Nat.mul_one]

theorem pastWith_whole (length : p.length = m) : pastWith base m p = ofPlaces base p + 1 := by
  rw [pastWith, length, Nat.sub_self, pow_zero, Nat.mul_one]

variable (base pre p) in
/-- The values with a prefix are those with what follows the first digits, after a shift. -/
theorem leastWith_append (within : p.length ≤ m) : leastWith base (pre.length + m) (pre ++ p) =
    ofPlaces base pre * base ^ m + leastWith base m p := by
  have left : pre.length + m - (pre ++ p).length = m - p.length := by
    rw [List.length_append]
    omega
  have place : base ^ m = base ^ p.length * base ^ (m - p.length) := by
    rw [← pow_add, Nat.add_sub_cancel' within]
  rw [leastWith, leastWith, left, ofPlaces_append, place]
  ring

variable (base pre p) in
theorem pastWith_append (within : p.length ≤ m) : pastWith base (pre.length + m) (pre ++ p) =
    ofPlaces base pre * base ^ m + pastWith base m p := by
  have left : pre.length + m - (pre ++ p).length = m - p.length := by
    rw [List.length_append]
    omega
  have place : base ^ m = base ^ p.length * base ^ (m - p.length) := by
    rw [← pow_add, Nat.add_sub_cancel' within]
  rw [pastWith, pastWith, left, ofPlaces_append, place]
  ring

theorem tiles_prepend {listed : List (List ℕ)} {lo hi : ℕ}
    (tiles : Tiles (stackLow base m) (stackHigh base m) lo listed hi)
    (each : ∀ s ∈ listed, Stacked base m s) :
    Tiles (leastWith base (pre.length + m)) (pastWith base (pre.length + m))
      (ofPlaces base pre * base ^ m + lo) (listed.map fun s => pre ++ s.reverse)
      (ofPlaces base pre * base ^ m + hi) := by
  refine tiles.map _ fun s own => ?_
  have within : s.reverse.length ≤ m := by simpa using (each s own).1
  exact ⟨leastWith_append base pre _ within, pastWith_append base pre _ within⟩

variable (pre) in
/-- What is left of the digits after the common ones begins with the smaller digit. -/
theorem head_lt {a b : List ℕ} (base2 : 2 ≤ base) (same : a.length = b.length)
    (digits : ∀ d ∈ a, d < base) (smaller : x < y) :
    ofPlaces base (pre ++ x :: a) < ofPlaces base (pre ++ y :: b) := by
  have rest := ofPlaces_lt base2 digits
  have head : (x + 1) * base ^ a.length ≤ y * base ^ a.length := Nat.mul_le_mul_right _ smaller
  rw [Nat.add_mul, one_mul] at head
  rw [ofPlaces_append, ofPlaces_append, ofPlaces_cons, ofPlaces_cons, List.length_cons,
    List.length_cons, ← same]
  omega

/-- The loops after the common digits, when the start has the smaller one. -/
theorem loops_tile {a b : List ℕ} (base2 : 2 ≤ base) (same : a.length = b.length)
    (digits : ∀ d ∈ x :: a, d < base) (digits' : ∀ d ∈ y :: b, d < base) (smaller : x < y)
    (enough : (b.length + 1) * (base + 1) ≤ fuel) :
    ∃ first f middle last,
      groupsFromStart base fuel (removeTail 0 (x :: a).reverse) = .ok (first, [f]) ∧
      groupByIgnoringDigits.between (removeTail (base - 1) (y :: b).reverse) fuel [f] =
        .ok (middle, [y]) ∧
      groupsToEnd (removeTail (base - 1) (y :: b).reverse) fuel [y] = .ok last ∧
      Tiles (stackLow base (b.length + 1)) (stackHigh base (b.length + 1))
        (ofPlaces base (x :: a))
        (first ++ middle ++ last ++ [removeTail (base - 1) (y :: b).reverse])
        (ofPlaces base (y :: b) + 1) ∧
      ∀ s ∈ first ++ middle ++ last ++ [removeTail (base - 1) (y :: b).reverse],
        Stacked base (b.length + 1) s := by
  have length : (y :: b).length = b.length + 1 := rfl
  have shorter : b.length < b.length + 1 := Nat.lt_succ_self _
  have digit : y < base := digits' y List.mem_cons_self
  have stackedA : Stacked base (b.length + 1) (a.reverse ++ [x]) :=
    ⟨by simp [same], by simpa [or_comm] using digits⟩
  have stackedB : Stacked base (b.length + 1) (b.reverse ++ [y]) :=
    ⟨by simp, by simpa [or_comm] using digits'⟩
  have low := stackLow_removeTail base (b.length + 1) x a.reverse (by simp [same])
  have high := stackHigh_removeTail base (b.length + 1) y b.reverse (by omega) (by simp)
  rw [List.reverse_cons, List.reverse_cons]
  have stackedA' : Stacked base (b.length + 1) (removeTail 0 (a.reverse ++ [x])) := by
    rw [removeTail_append]
    exact stackedA.dropWhile.1
  have stackedB' : Stacked base (b.length + 1) (removeTail (base - 1) (b.reverse ++ [y])) := by
    rw [removeTail_append]
    exact stackedB.dropWhile.1
  obtain ⟨u, start'⟩ : ∃ u, removeTail 0 (a.reverse ++ [x]) = u ++ [x] :=
    ⟨_, removeTail_append 0 a.reverse x⟩
  obtain ⟨v, stop'⟩ : ∃ v, removeTail (base - 1) (b.reverse ++ [y]) = v ++ [y] :=
    ⟨_, removeTail_append (base - 1) b.reverse y⟩
  rw [start'] at low stackedA' ⊢
  rw [stop'] at high stackedB' ⊢
  have shortA : u.length * (base + 1) ≤ b.length * (base + 1) := by
    have short := stackedA'.1
    rw [List.length_append, List.length_singleton] at short
    exact Nat.mul_le_mul_right _ (by omega)
  have shortB : (v ++ [y]).length * (base + 1) ≤ (b.length + 1) * (base + 1) :=
    Nat.mul_le_mul_right _ stackedB'.1
  rw [Nat.add_mul, one_mul] at enough shortB
  obtain ⟨first, f, computed, near, tiles, each⟩ :=
    groupsFromStart_tiles fuel base2 (by omega) stackedA' (by omega)
  obtain ⟨middle, computed', tiles', each'⟩ := between_tiles f fuel (v ++ [y])
    (by omega) digit (Nat.succ_pos b.length) (by simp) (by omega)
  have inside : 0 < (v ++ [y]).reverse.length := by simp
  obtain ⟨last, computed'', tiles'', each''⟩ := groupsToEnd_tiles y fuel stackedB'
    inside (by simp) (by rw [Nat.sub_zero]; omega)
  rw [List.take_zero, List.reverse_nil] at computed'' tiles''
  have ends : stackHigh base (b.length + 1) (v ++ [y]) = ofPlaces base (y :: b) + 1 := by
    rw [high, stackHigh, List.reverse_append, List.reverse_reverse, List.reverse_singleton,
      List.singleton_append, pastWith_whole length]
  have begins : stackLow base (b.length + 1) (u ++ [x]) = ofPlaces base (x :: a) := by
    rw [low, stackLow, List.reverse_append, List.reverse_reverse, List.reverse_singleton,
      List.singleton_append, leastWith_whole (by simp [same])]
  rw [begins] at tiles
  refine ⟨first, f, middle, last, computed, computed', computed'', ?_, ?_⟩
  · exact ((tiles.append tiles').append tiles'').append ⟨rfl, ends⟩
  · intro s own
    simp only [List.mem_append, List.mem_singleton] at own
    rcases own with ((own | own) | own) | rfl
    · exact each s own
    · exact each' s own
    · exact each'' s own
    · exact stackedB'

theorem groupsFromStart_last {f : ℕ} {t : List ℕ} {listed : List (List ℕ)} {last : List ℕ}
    (computed : groupsFromStart base fuel (t ++ [f]) = .ok (listed, last)) :
    ∃ x, last = [x] ∧ f ≤ x := by
  induction fuel generalizing t listed last f with
  | zero => cases computed
  | succ fuel ih =>
      cases t with
      | nil =>
          cases computed
          exact ⟨f, rfl, le_rfl⟩
      | cons x t =>
          rw [List.cons_append, groupsFromStart_turn (by simp)] at computed
          obtain ⟨_, _, turned⟩ := Checked.bind_eq_ok.mp computed
          obtain ⟨⟨list, last'⟩, rest, made⟩ := Checked.bind_eq_ok.mp turned
          cases made
          obtain ⟨u, g, stack, least⟩ : ∃ u g,
              (startTurn base x (t ++ [f])).2 = u ++ [g] ∧ f ≤ g := by
            rw [startTurn]
            split
            · rw [removeTail_append]
              cases t.dropWhile (· = base - 1) with
              | nil => exact ⟨[], f + 1, rfl, Nat.le_succ f⟩
              | cons y u => exact ⟨(y + 1) :: u, f, rfl, le_rfl⟩
            · split
              · exact ⟨_, f, removeTail_append 0 (x :: t) f, le_rfl⟩
              · exact ⟨(x + 1) :: t, f, rfl, le_rfl⟩
          rw [stack] at rest
          obtain ⟨z, single, above⟩ := ih rest
          exact ⟨z, single, least.trans above⟩

/-- With the digits of its ends the groups are those of the values between. -/
theorem groups_tile (base2 : 2 ≤ base) (order : start ≤ stop)
    (digits : decomposeValue start base n = .ok ds) (digits' : decomposeValue stop base n = .ok de)
    (ordered : ofPlaces base ds ≤ ofPlaces base de) :
    ∃ groups, groupByIgnoringDigits start stop base n = .ok groups ∧
      Tiles (leastWith base n) (pastWith base n) (ofPlaces base ds) groups
        (ofPlaces base de + 1) ∧
      ∀ g ∈ groups, g.length ≤ n ∧ ∀ d ∈ g, d < base := by
  obtain ⟨length, each⟩ := decomposed_digits (by omega) digits
  obtain ⟨length', each'⟩ := decomposed_digits (by omega) digits'
  obtain ⟨pre, a, b, taken, rfl, rfl, ends⟩ := takePrefix_spec (length.trans length'.symm)
  rw [groupByIgnoringDigits, Checked.ensure, if_pos order, Checked.ok_bind, digits,
    Checked.ok_bind, digits', Checked.ok_bind, taken]
  dsimp only
  rw [List.forall_mem_append] at each each'
  rcases ends with ⟨rfl, rfl⟩ | ⟨x, a, y, b, rfl, rfl, differ⟩
  · rw [if_pos (Or.inl ⟨rfl, rfl⟩)]
    rw [List.append_nil] at length ⊢
    refine ⟨[pre], rfl, ⟨leastWith_whole length, ?_⟩, ?_⟩
    · exact pastWith_whole length
    · simpa [length] using each.1
  · have same : a.length = b.length := by
      rw [List.length_append, List.length_cons] at length length'
      omega
    have place : n = pre.length + (b.length + 1) := by
      rw [← length', List.length_append]
      rfl
    have smaller : x < y := by
      rcases Nat.lt_trichotomy x y with below | equal | above
      · exact below
      · exact absurd equal differ
      · have larger := head_lt pre base2 same.symm
          (List.forall_mem_cons.mp each'.2).2 above
        omega
    have startParts : ofPlaces base (pre ++ x :: a) =
        ofPlaces base pre * base ^ (b.length + 1) + ofPlaces base (x :: a) := by
      rw [ofPlaces_append, List.length_cons, same]
    have stopParts : ofPlaces base (pre ++ y :: b) + 1 =
        ofPlaces base pre * base ^ (b.length + 1) + (ofPlaces base (y :: b) + 1) := by
      rw [ofPlaces_append, List.length_cons, Nat.add_assoc]
    rw [startParts, stopParts, place]
    by_cases whole : (∀ d ∈ x :: a, d = 0) ∧ ∀ d ∈ y :: b, d = base - 1
    · rw [if_pos (Or.inr whole), ofPlaces_zeros whole.1, ofPlaces_greatest (by omega) whole.2]
      have low := leastWith_append base pre [] (Nat.zero_le (b.length + 1))
      have high := pastWith_append base pre [] (Nat.zero_le (b.length + 1))
      rw [List.append_nil] at low high
      refine ⟨[pre], rfl, ⟨?_, ?_⟩, ?_⟩
      · rw [low]
        simp [leastWith]
      · rw [Tiles, high]
        simp [pastWith]
      · simpa using each.1
    · have enough : (b.length + 1) * (base + 1) ≤
          (base + 2) * (pre.length + (b.length + 1) + 1) := by
        rw [Nat.mul_comm (base + 2)]
        exact Nat.mul_le_mul (by omega) (by omega)
      obtain ⟨first, f, middle, last, computed, computed', computed'', tiles, stacked⟩ :=
        loops_tile base2 same each.2 each'.2 smaller enough
      rw [if_neg (by simp only [List.cons_ne_nil, false_and, false_or]; exact whole), computed,
        Checked.ok_bind]
      dsimp only
      rw [computed', Checked.ok_bind]
      dsimp only
      rw [computed'', Checked.ok_bind]
      refine ⟨_, rfl, tiles_prepend tiles stacked, ?_⟩
      intro g own
      obtain ⟨s, listed, rfl⟩ := List.mem_map.mp own
      obtain ⟨short, digits⟩ := stacked s listed
      rw [List.length_append, List.length_reverse]
      refine ⟨by omega, List.forall_mem_append.mpr ⟨each.1, fun d inside => ?_⟩⟩
      exact digits d (List.mem_reverse.mp inside)

/-- With digits in the other order nothing is returned. -/
theorem groups_error (base2 : 2 ≤ base) (digits : decomposeValue start base n = .ok ds)
    (digits' : decomposeValue stop base n = .ok de)
    (above : ofPlaces base de < ofPlaces base ds) :
    groupByIgnoringDigits start stop base n ≠ .ok groups := by
  intro computed
  obtain ⟨length, each⟩ := decomposed_digits (by omega) digits
  obtain ⟨length', each'⟩ := decomposed_digits (by omega) digits'
  obtain ⟨pre, a, b, taken, rfl, rfl, ends⟩ := takePrefix_spec (length.trans length'.symm)
  obtain ⟨_, _, looped⟩ := Checked.bind_eq_ok.mp computed
  rw [digits, Checked.ok_bind, digits', Checked.ok_bind, taken] at looped
  dsimp only at looped
  rcases ends with ⟨rfl, rfl⟩ | ⟨x, a, y, b, rfl, rfl, differ⟩
  · exact absurd above (lt_irrefl _)
  · have same : a.length = b.length := by
      rw [List.length_append, List.length_cons] at length length'
      omega
    rw [List.forall_mem_append] at each
    have larger : y < x := by
      by_contra below
      have smaller := head_lt pre base2 same
        (List.forall_mem_cons.mp each.2).2 (show x < y by omega)
      omega
    have first : ¬ ∀ d ∈ x :: a, d = 0 := fun zeros => by
      have zero := zeros x List.mem_cons_self
      omega
    rw [if_neg (by simp only [List.cons_ne_nil, false_and, false_or]; exact fun all => first all.1),
      List.reverse_cons, List.reverse_cons, removeTail_append, removeTail_append] at looped
    obtain ⟨⟨list, last⟩, started, rest⟩ := Checked.bind_eq_ok.mp looped
    obtain ⟨z, rfl, least⟩ := groupsFromStart_last started
    dsimp only at rest
    rw [between_above (show y < z by omega) (by simp)] at rest
    cases rest

/-- Groups are returned when the digits of the ends are in order, and then they are those of the
values between. -/
theorem groups_ok (base2 : 2 ≤ base) (computed : groupByIgnoringDigits start stop base n = .ok groups) :
    start ≤ stop ∧ ∃ ds de, decomposeValue start base n = .ok ds ∧
      decomposeValue stop base n = .ok de ∧ ofPlaces base ds ≤ ofPlaces base de ∧
      Tiles (leastWith base n) (pastWith base n) (ofPlaces base ds) groups (ofPlaces base de + 1) ∧
      ∀ g ∈ groups, g.length ≤ n ∧ ∀ d ∈ g, d < base := by
  obtain ⟨_, checked, rest⟩ := Checked.bind_eq_ok.mp computed
  have order := Checked.ensure_eq_ok.mp checked
  obtain ⟨ds, digits, rest⟩ := Checked.bind_eq_ok.mp rest
  obtain ⟨de, digits', _⟩ := Checked.bind_eq_ok.mp rest
  rcases Nat.lt_or_ge (ofPlaces base de) (ofPlaces base ds) with above | ordered
  · exact absurd computed (groups_error base2 digits digits' above)
  · obtain ⟨groups', computed', tiles, prefixes⟩ := groups_tile base2 order digits digits' ordered
    rw [computed, Except.ok.injEq] at computed'
    subst computed'
    exact ⟨order, ds, de, digits, digits', ordered, tiles, prefixes⟩

theorem groups_exist_iff (base2 : 2 ≤ base) :
    (∃ groups, groupByIgnoringDigits start stop base n = .ok groups) ↔
      start ≤ stop ∧ ∃ ds de, decomposeValue start base n = .ok ds ∧
        decomposeValue stop base n = .ok de ∧ ofPlaces base ds ≤ ofPlaces base de := by
  constructor
  · rintro ⟨groups, computed⟩
    obtain ⟨order, ds, de, digits, digits', ordered, _⟩ := groups_ok base2 computed
    exact ⟨order, ds, de, digits, digits', ordered⟩
  · rintro ⟨order, ds, de, digits, digits', ordered⟩
    obtain ⟨groups, computed, _⟩ := groups_tile base2 order digits digits' ordered
    exact ⟨groups, computed⟩

end Range

/-! Partitions. -/

section Partitions
variable {base n lo hi start stop : ℕ} {groups : List (List ℕ)}

/-- The groups are prefixes of digits. A value of the range begins with one of them, another value
with none, and the values of a group are before those of a later one. -/
def Partitions (base nbDigits start stop : ℕ) (groups : List (List ℕ)) : Prop :=
  (∀ g ∈ groups, g.length ≤ nbDigits ∧ ∀ d ∈ g, d < base) ∧
  (∀ value < base ^ nbDigits,
    groups.countP (fun g => g <+: places base nbDigits value) =
      if start ≤ value ∧ value ≤ stop then 1 else 0) ∧
  groups.Pairwise fun g h => ∀ value < base ^ nbDigits, ∀ later < base ^ nbDigits,
    g <+: places base nbDigits value → h <+: places base nbDigits later → value < later

theorem partitions_of_tiles (base2 : 2 ≤ base)
    (tiles : Tiles (leastWith base n) (pastWith base n) lo groups (hi + 1))
    (each : ∀ g ∈ groups, g.length ≤ n ∧ ∀ d ∈ g, d < base) :
    Partitions base n lo hi groups := by
  have some : ∀ g ∈ groups, leastWith base n g < pastWith base n g :=
    fun g _ => leastWith_lt_pastWith (by omega) n g
  refine ⟨each, fun value below => ?_, ?_⟩
  · have counted := tiles.count some value
    rw [List.countP_congr (p := fun g => decide (g <+: places base n value))
      (q := fun g => decide (leastWith base n g ≤ value ∧ value < pastWith base n g)), counted]
    · exact if_congr (by omega) rfl rfl
    · intro g own
      simp only [decide_eq_true_eq]
      exact prefix_iff base2 (each g own).1 (each g own).2 below
  · refine (tiles.ascending some).imp_of_mem fun own own' apart => ?_
    intro value below later below' held held'
    have first := (prefix_iff base2 (each _ own).1 (each _ own).2 below).mp held
    have second := (prefix_iff base2 (each _ own').1 (each _ own').2 below').mp held'
    omega

/-- The range that groups partition is one. -/
theorem Partitions.ends (own : Partitions base n lo hi groups)
    (other : Partitions base n start stop groups) (order : lo ≤ hi) (order' : start ≤ stop)
    (below : hi < base ^ n) (below' : stop < base ^ n) : lo = start ∧ hi = stop := by
  have same : ∀ value < base ^ n, (lo ≤ value ∧ value ≤ hi ↔ start ≤ value ∧ value ≤ stop) := by
    intro value within
    have counts := (own.2.1 value within).symm.trans (other.2.1 value within)
    split at counts <;> split at counts <;> omega
  have first := same lo (by omega)
  have second := same hi below
  have third := same start (by omega)
  have fourth := same stop below'
  omega

theorem groups_partition (base2 : 2 ≤ base) (order : start ≤ stop) (below : stop < base ^ n)
    (digits : decomposeValue start base n = .ok (places base n start))
    (digits' : decomposeValue stop base n = .ok (places base n stop)) :
    ∃ groups, groupByIgnoringDigits start stop base n = .ok groups ∧
      Partitions base n start stop groups := by
  have value := ofPlaces_places (b := base) (show start < base ^ n by omega)
  have value' := ofPlaces_places below
  obtain ⟨groups, computed, tiles, prefixes⟩ := groups_tile base2 order digits digits' (by omega)
  rw [value, value'] at tiles
  exact ⟨groups, computed, partitions_of_tiles base2 tiles prefixes⟩

/-- Ranges of values that a double holds. -/
theorem groups_partition_small (base2 : 2 ≤ base) (order : start ≤ stop) (below : stop < base ^ n)
    (small : stop < 2 ^ 53) : ∃ groups, groupByIgnoringDigits start stop base n = .ok groups ∧
      Partitions base n start stop groups := by
  have decomposed : ∀ value ≤ stop, decomposeValue value base n = .ok (places base n value) :=
    fun value within => decomposeValue_exact base2 (quotientsExact_small base2 (by omega))
      (by omega) (by rw [u64Limit]; omega)
  exact groups_partition base2 order below (decomposed start order) (decomposed stop le_rfl)

/-- The groups partition the range exactly when both of its ends are decomposed into their digits.
The loops always end. -/
theorem groups_partition_iff (base nbDigits start stop : ℕ) (base2 : 2 ≤ base)
    (order : start ≤ stop) (below : stop < base ^ nbDigits) :
    (∃ groups, groupByIgnoringDigits start stop base nbDigits = .ok groups ∧
      Partitions base nbDigits start stop groups) ↔
    decomposeValue start base nbDigits = .ok (places base nbDigits start) ∧
      decomposeValue stop base nbDigits = .ok (places base nbDigits stop) := by
  constructor
  · rintro ⟨groups, computed, partitions⟩
    obtain ⟨_, ds, de, digits, digits', ordered, tiles, prefixes⟩ := groups_ok base2 computed
    obtain ⟨length, each⟩ := decomposed_digits (by omega) digits
    obtain ⟨length', each'⟩ := decomposed_digits (by omega) digits'
    have small : ofPlaces base de < base ^ nbDigits := by
      rw [← length']
      exact ofPlaces_lt base2 each'
    obtain ⟨first, last⟩ := (partitions_of_tiles base2 tiles prefixes).ends partitions ordered
      order small below
    rw [(ofPlaces_eq_iff length each (by omega)).mp first] at digits
    rw [(ofPlaces_eq_iff length' each' below).mp last] at digits'
    exact ⟨digits, digits'⟩
  · exact fun digits => groups_partition base2 order below digits.1 digits.2

theorem tens_partitioned : ∃ groups, groupByIgnoringDigits 171 210 10 4 = .ok groups ∧
    Partitions 10 4 171 210 groups :=
  (groups_partition_iff 10 4 171 210 (by decide) (by decide) (by decide)).mpr ⟨by rfl, by rfl⟩

/-- The range of one value, grouped by the digits of another. -/
theorem value_not_in_its_group : 9007199254740999 < 10 ^ 16 ∧
    groupByIgnoringDigits 9007199254740999 9007199254740999 10 16 =
      .ok [[9, 0, 0, 7, 1, 9, 9, 2, 5, 4, 7, 4, 1, 0, 0, 9]] ∧
    ¬ ∃ groups,
      groupByIgnoringDigits 9007199254740999 9007199254740999 10 16 = .ok groups ∧
        Partitions 10 16 9007199254740999 9007199254740999 groups := by
  have grouped : groupByIgnoringDigits 9007199254740999 9007199254740999 10 16 =
      .ok [[9, 0, 0, 7, 1, 9, 9, 2, 5, 4, 7, 4, 1, 0, 0, 9]] := by rfl
  refine ⟨by decide, grouped, ?_⟩
  rintro ⟨groups, computed, _, counted, _⟩
  rw [grouped, Except.ok.injEq] at computed
  have count := counted 9007199254740999 (by decide)
  rw [← computed] at count
  exact absurd count (by decide)

end Partitions

end P2PLending.Trie
