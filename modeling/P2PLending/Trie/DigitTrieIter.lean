import P2PLending.Trie.DigitTrie
import P2PLending.Foundation.Iterators

/-! The iterator over a trie of digits, which walks it with a stack of nodes and of the children
to visit next. It calls itself for what is on the stack, and when nothing is left it is in the
middle of as many loops over children as calls were open. -/

namespace P2PLending.Trie

variable {T : Type}

/-- The stacks have their top first. A node whose child is `-1` has not been visited. -/
structure DigitTrieIter (T : Type) where
  indexStack : List (DigitNode T × ℤ)
  curPrefix : List (List ℕ)

namespace DigitTrieIter

/-- What a call gives, if it returns: an item or the end, and the iterator after it. -/
abbrev Returned (T : Type) := Option (Option (List ℕ × T) × DigitTrieIter T)

def new (root : DigitNode T) : DigitTrieIter T where
  indexStack := [(root, -1)]
  curPrefix := []

def path (it : DigitTrieIter T) (nodePrefix : List ℕ) : List ℕ :=
  (it.curPrefix.reverse.filter fun x => x ≠ []).flatten ++ nodePrefix

/-- The loop over the children from `base - left` on. -/
def visitChildren (next : DigitTrieIter T → Returned T) (base : ℕ) (node : DigitNode T)
    (children : ℕ → DigitNode T) : (left : ℕ) → DigitTrieIter T → Returned T
  | 0, it => some (none, { indexStack := it.indexStack.tail, curPrefix := it.curPrefix.tail })
  | left + 1, it =>
      let child := base - (left + 1)
      let stack := (children child, -1) :: (node, (child : ℤ) + 1) :: it.indexStack
      match next { it with indexStack := stack } with
      | none => none
      | some (some item, it) => some (some item, it)
      | some (none, it) =>
          visitChildren next base node children left { it with indexStack := it.indexStack.tail }

def next (base : ℕ) : (fuel : ℕ) → DigitTrieIter T → Returned T
  | 0, _ => none
  | fuel + 1, it =>
      match it.indexStack with
      | [] => some (none, it)
      | (.none, _) :: stack => next base fuel { it with indexStack := stack }
      | (.leaf nodePrefix data, _) :: stack =>
          some (some (it.path nodePrefix, data), { it with indexStack := stack })
      | (.node nodePrefix children data, child) :: stack =>
          if (base : ℤ) ≤ child then
            next base fuel { indexStack := stack, curPrefix := it.curPrefix.tail }
          else
            match if child = -1 then data else none with
            | some data =>
                let stack := (.node nodePrefix children data, 0) :: stack
                some (some (it.path nodePrefix, data), { it with indexStack := stack })
            | none =>
                let child := if child = -1 then 0 else child
                let curPrefix := if child = 0 then nodePrefix :: it.curPrefix else it.curPrefix
                visitChildren (next base fuel) base (.node nodePrefix children data) children
                  (base - child).toNat { indexStack := stack, curPrefix }

/-- What a call returns is the first of the items, or the end with nothing left to visit, and
the next calls give the others. -/
inductive Gives (base : ℕ) : DigitTrieIter T → List (List ℕ × T) → Prop
  | done {it after : DigitTrieIter T} (fuel : ℕ) (ended : next base fuel it = some (none, after))
      (empty : after.indexStack = []) : Gives base it []
  | item {it after : DigitTrieIter T} {x : List ℕ × T} {xs : List (List ℕ × T)} (fuel : ℕ)
      (gave : next base fuel it = some (some x, after)) (others : Gives base after xs) :
      Gives base it (x :: xs)

/-- The items that are left after a call that returned. -/
inductive Leaves (base : ℕ) : Option (List ℕ × T) × DigitTrieIter T → List (List ℕ × T) → Prop
  | done {after : DigitTrieIter T} (empty : after.indexStack = []) : Leaves base (none, after) []
  | item {after : DigitTrieIter T} {x : List ℕ × T} {xs : List (List ℕ × T)}
      (others : Gives base after xs) : Leaves base (some x, after) (x :: xs)

variable {base : ℕ} {it : DigitTrieIter T} {items : List (List ℕ × T)}

theorem gives_iff :
    Gives base it items ↔ ∃ fuel r, next base fuel it = some r ∧ Leaves base r items := by
  constructor
  · intro gives
    cases gives with
    | done fuel ended empty => exact ⟨fuel, _, ended, .done empty⟩
    | item fuel gave others => exact ⟨fuel, _, gave, .item others⟩
  · rintro ⟨fuel, r, returned, leaves⟩
    cases leaves with
    | done empty => exact .done fuel returned empty
    | item others => exact .item fuel returned others

theorem Gives.drains (gives : Gives base it items) : Drains (next base) it items := by
  induction gives with
  | done fuel ended => exact .done fuel ended
  | item fuel gave _ ih => exact .item fuel gave ih

/-! More fuel does not change what is returned. -/

theorem visitChildren_mono {f g : DigitTrieIter T → Returned T}
    (more : ∀ it r, f it = some r → g it = some r) {node : DigitNode T}
    {children : ℕ → DigitNode T} {left : ℕ} {r : Option (List ℕ × T) × DigitTrieIter T}
    (returned : visitChildren f base node children left it = some r) :
    visitChildren g base node children left it = some r := by
  induction left generalizing it with
  | zero => exact returned
  | succ left ih =>
      rw [visitChildren] at returned ⊢
      cases inner : f { it with indexStack := (children (base - (left + 1)), -1) ::
          (node, ((base - (left + 1) : ℕ) : ℤ) + 1) :: it.indexStack } with
      | none =>
          rw [inner] at returned
          cases returned
      | some r' =>
          rw [inner] at returned
          rw [more _ _ inner]
          rcases r' with ⟨_ | item, after⟩
          · exact ih returned
          · exact returned

theorem next_succ {fuel : ℕ} {it : DigitTrieIter T} {r : Option (List ℕ × T) × DigitTrieIter T}
    (returned : next base fuel it = some r) : next base (fuel + 1) it = some r := by
  induction fuel generalizing it r with
  | zero => cases returned
  | succ fuel ih =>
      rw [next] at returned ⊢
      rcases it with ⟨_ | ⟨⟨node, child⟩, stack⟩, curPrefix⟩
      · exact returned
      · cases node with
        | none => exact ih returned
        | leaf nodePrefix data => exact returned
        | node nodePrefix children data =>
            dsimp only at returned ⊢
            split at returned
            next past =>
              rw [if_pos past]
              exact ih returned
            next inside =>
              rw [if_neg inside]
              cases found : (if child = -1 then data else none) with
              | some value =>
                  rw [found] at returned
                  exact returned
              | none =>
                  rw [found] at returned
                  exact visitChildren_mono (fun _ _ => ih) returned

theorem next_steady : Steady (next base : Stepper (DigitTrieIter T) (List ℕ × T)) :=
  fun _ _ _ => next_succ

/-- What the children from `base - left` on hold. -/
def childEntries (base : ℕ) (above : List ℕ) (children : ℕ → DigitNode T) (left : ℕ) :
    List (List ℕ × T) :=
  (List.range' (base - left) left).flatMap fun i => (children i).entries base above

theorem childEntries_succ {left : ℕ} (within : left + 1 ≤ base) (above : List ℕ)
    (children : ℕ → DigitNode T) :
    childEntries base above children (left + 1) =
      (children (base - (left + 1))).entries base above ++
        childEntries base above children left := by
  have next : base - (left + 1) + 1 = base - left := by omega
  rw [childEntries, childEntries, List.range'_succ, List.flatMap_cons, next]

theorem flatten_filter (l : List (List ℕ)) : (l.filter fun x => x ≠ []).flatten = l.flatten := by
  induction l with
  | nil => rfl
  | cons x l ih =>
      by_cases empty : x = []
      · simp [empty] at ih ⊢
        exact ih
      · simp [empty] at ih ⊢
        exact ih

theorem path_eq (it : DigitTrieIter T) (nodePrefix : List ℕ) :
    it.path nodePrefix = it.curPrefix.reverse.flatten ++ nodePrefix := by
  rw [path, flatten_filter]

/-- The children of a node are visited, whatever else is on the stack. -/
def Visits (base : ℕ) (children : ℕ → DigitNode T) : Prop :=
  ∀ i stack curPrefix items, Gives base { indexStack := stack, curPrefix } items →
    Gives base { indexStack := (children i, -1) :: stack, curPrefix }
      ((children i).entries base curPrefix.reverse.flatten ++ items)

section Children
variable {nodePrefix : List ℕ} {children : ℕ → DigitNode T} {data : Option T}

/-- A node whose child is past the last one gives way to what is below it on the stack. -/
theorem gives_last {stack : List (DigitNode T × ℤ)} {curPrefix : List (List ℕ)}
    (rest : Gives base { indexStack := stack, curPrefix := curPrefix.tail } items) :
    Gives base
      { indexStack := (.node nodePrefix children data, (base : ℤ)) :: stack, curPrefix } items := by
  obtain ⟨fuel, r, returned, leaves⟩ := gives_iff.mp rest
  refine gives_iff.mpr ⟨fuel + 1, r, ?_, leaves⟩
  rw [next]
  dsimp only
  rw [if_pos (le_refl _)]
  exact returned

/-- A node whose next child is `base - left` and not its first. -/
theorem gives_node {left : ℕ} {stack : List (DigitNode T × ℤ)} {curPrefix : List (List ℕ)}
    {child : ℤ} (later : 0 < child) (place : child = ((base - left : ℕ) : ℤ)) (inside : 0 < left)
    (below : left ≤ base)
    (loop : ∃ fuel r, visitChildren (next base fuel) base (.node nodePrefix children data) children
      left { indexStack := stack, curPrefix } = some r ∧ Leaves base r items) :
    Gives base
      { indexStack := (.node nodePrefix children data, child) :: stack, curPrefix } items := by
  obtain ⟨fuel, r, returned, leaves⟩ := loop
  refine gives_iff.mpr ⟨fuel + 1, r, ?_, leaves⟩
  have notPast : ¬ (base : ℤ) ≤ child := by omega
  have notNew : child ≠ -1 := by omega
  have notFirst : child ≠ 0 := by omega
  have count : ((base : ℤ) - child).toNat = left := by omega
  rw [next]
  dsimp only
  rw [if_neg notPast, if_neg notNew, if_neg notNew]
  dsimp only
  rw [if_neg notFirst, count]
  exact returned

theorem childEntries_empty {left : ℕ} {above : List ℕ}
    (empty : childEntries base above children left = []) (other : List ℕ) :
    childEntries base other children left = [] := by
  rw [childEntries, List.flatMap_eq_nil_iff] at empty ⊢
  intro i listed
  have none := empty i listed
  rw [DigitNode.entries_above, List.map_eq_nil_iff] at none
  rw [DigitNode.entries_above, none]
  rfl

/-- One turn of the loop, given what the children behind it do. -/
theorem loop_turn (visits : Visits base children) {left : ℕ} (within : left + 1 ≤ base)
    {stack : List (DigitNode T × ℤ)} {curPrefix : List (List ℕ)}
    (behind : Gives base
      { indexStack := (.node nodePrefix children data, ((base - left : ℕ) : ℤ)) :: stack, curPrefix }
      (childEntries base curPrefix.reverse.flatten children left ++ items))
    (ends : (∀ above, childEntries base above children left = []) → ∀ rest, ∃ fuel after,
      visitChildren (next base fuel) base (.node nodePrefix children data) children left
        { indexStack := [], curPrefix := rest } = some (none, after) ∧ after.indexStack = []) :
    ∃ fuel r, visitChildren (next base fuel) base (.node nodePrefix children data) children
      (left + 1) { indexStack := stack, curPrefix } = some r ∧
      Leaves base r (childEntries base curPrefix.reverse.flatten children (left + 1) ++ items) := by
  have place : ((base - (left + 1) : ℕ) : ℤ) + 1 = ((base - left : ℕ) : ℤ) := by omega
  have first := visits (base - (left + 1)) _ _ _ behind
  rw [← List.append_assoc, ← childEntries_succ within, ← place] at first
  obtain ⟨fuel, r, returned, leaves⟩ := gives_iff.mp first
  generalize listed : childEntries base curPrefix.reverse.flatten children (left + 1) ++ items = all
    at leaves ⊢
  cases leaves with
  | @item after x xs others =>
      refine ⟨fuel, (some x, after), ?_, .item others⟩
      rw [visitChildren, returned]
  | @done after empty =>
      have nothing := (List.append_eq_nil_iff.mp listed).1
      rw [childEntries_succ within, List.append_eq_nil_iff] at nothing
      obtain ⟨fuel', after', ended, empty'⟩ := ends (childEntries_empty nothing.2) after.curPrefix
      refine ⟨max fuel fuel', (Option.none, after'), ?_, .done empty'⟩
      rw [visitChildren, next_steady.mono returned (le_max_left fuel fuel')]
      have tail : ({ after with indexStack := after.indexStack.tail } : DigitTrieIter T) =
          { indexStack := [], curPrefix := after.curPrefix } := by rw [empty]; rfl
      dsimp only
      rw [tail]
      exact visitChildren_mono (fun _ _ some => next_steady.mono some (le_max_right fuel fuel')) ended

/-- By induction on the children that are left. -/
theorem loop_gives (nodePrefix : List ℕ) (data : Option T) (visits : Visits base children)
    {left : ℕ} (within : left < base) :
    (∀ stack curPrefix items,
      Gives base { indexStack := stack, curPrefix := curPrefix.tail } items →
      Gives base
        { indexStack := (.node nodePrefix children data, ((base - left : ℕ) : ℤ)) :: stack,
          curPrefix }
        (childEntries base curPrefix.reverse.flatten children left ++ items)) ∧
    ((∀ above, childEntries base above children left = []) → ∀ curPrefix, ∃ fuel after,
      visitChildren (next base fuel) base (.node nodePrefix children data) children left
        { indexStack := [], curPrefix } = some (none, after) ∧ after.indexStack = []) := by
  induction left with
  | zero =>
      refine ⟨fun stack curPrefix items rest => gives_last rest, fun _ curPrefix => ?_⟩
      exact ⟨0, _, rfl, rfl⟩
  | succ left ih =>
      obtain ⟨behind, ends⟩ := ih (Nat.lt_of_succ_lt within)
      have turn := fun stack curPrefix items rest =>
        loop_turn visits within.le (behind stack curPrefix items rest) ends
      refine ⟨fun stack curPrefix items rest => ?_, fun empty curPrefix => ?_⟩
      · refine gives_node ?_ rfl (Nat.succ_pos left) within.le (turn stack curPrefix items rest)
        omega
      · obtain ⟨fuel, r, returned, leaves⟩ := turn [] curPrefix [] (.done 1 rfl rfl)
        rw [empty, List.append_nil] at leaves
        generalize listed : ([] : List (List ℕ × T)) = none at leaves
        cases leaves with
        | item => cases listed
        | @done after nothing => exact ⟨fuel, after, returned, nothing⟩

/-- The children of a node are visited from the first on. -/
theorem first_loop (nodePrefix : List ℕ) (data : Option T) (visits : Visits base children)
    (some : 0 < base)
    {stack : List (DigitNode T × ℤ)} {curPrefix : List (List ℕ)}
    (rest : Gives base { indexStack := stack, curPrefix } items) :
    ∃ fuel r, visitChildren (next base fuel) base (.node nodePrefix children data) children base
      { indexStack := stack, curPrefix := nodePrefix :: curPrefix } = Option.some r ∧
      Leaves base r
        (childEntries base (curPrefix.reverse.flatten ++ nodePrefix) children base ++ items) := by
  obtain ⟨last, rfl⟩ := Nat.exists_eq_succ_of_ne_zero some.ne'
  obtain ⟨behind, ends⟩ := loop_gives nodePrefix data visits (Nat.lt_succ_self last)
  have turn := loop_turn visits (le_refl _)
    (behind stack (nodePrefix :: curPrefix) items rest) ends
  have above : (nodePrefix :: curPrefix).reverse.flatten =
      curPrefix.reverse.flatten ++ nodePrefix := by simp
  rw [above] at turn
  exact turn

end Children

/-- The trie on the top of the stack is visited before what is below it. -/
theorem gives_trie (t : DigitNode T) (wellFormed : t.WellFormed base)
    (stack : List (DigitNode T × ℤ)) (curPrefix : List (List ℕ))
    (rest : Gives base { indexStack := stack, curPrefix } items) :
    Gives base { indexStack := (t, -1) :: stack, curPrefix }
      (t.entries base curPrefix.reverse.flatten ++ items) := by
  induction t generalizing stack curPrefix items with
  | none =>
      obtain ⟨fuel, r, returned, leaves⟩ := gives_iff.mp rest
      exact gives_iff.mpr ⟨fuel + 1, r, returned, leaves⟩
  | leaf nodePrefix data =>
      refine .item 1 ?_ rest
      rw [next]
      dsimp only
      rw [path_eq]
  | node nodePrefix children data ih =>
      have visits : Visits base children := fun i stack curPrefix items rest =>
        ih i (wellFormed.2 i).1 stack curPrefix rest
      have notPast : ¬ (base : ℤ) ≤ -1 := by omega
      have notPast' : ¬ (base : ℤ) ≤ 0 := by have := wellFormed.1; omega
      have all : childEntries base (curPrefix.reverse.flatten ++ nodePrefix) children base =
          (List.range base).flatMap fun i =>
            (children i).entries base (curPrefix.reverse.flatten ++ nodePrefix) := by
        rw [childEntries, Nat.sub_self, List.range_eq_range']
      obtain ⟨fuel, r, returned, leaves⟩ := first_loop nodePrefix data visits wellFormed.1 rest
      rw [all] at leaves
      rw [DigitNode.entries]
      cases data with
      | none =>
          refine gives_iff.mpr ⟨fuel + 1, r, ?_, leaves⟩
          rw [next]
          dsimp only
          rw [if_neg notPast, if_pos rfl]
          exact returned
      | some d =>
          have later : next base (fuel + 1)
              { indexStack := (.node nodePrefix children (some d), 0) :: stack, curPrefix } =
              some r := by
            rw [next]
            dsimp only
            rw [if_neg notPast']
            exact returned
          refine .item 1 ?_ (gives_iff.mpr ⟨fuel + 1, r, later, leaves⟩)
          rw [next]
          dsimp only
          rw [if_neg notPast, if_pos rfl, path_eq]

/-- The iterator over a trie gives what the trie holds, each once. -/
theorem gives_entries {root : DigitNode T} (wellFormed : root.WellFormed base) :
    Gives base (new root) (root.entries base []) := by
  have all := gives_trie root wellFormed [] [] (.done 1 rfl rfl)
  rw [List.append_nil] at all
  exact all

end DigitTrieIter

end P2PLending.Trie
