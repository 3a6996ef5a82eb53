import P2PLending.Trie.DigitTrieIter
import P2PLending.Trie.MultiTrieEntries

/-! The iterator over a trie of tries. It keeps an iterator for each trie on the way down, and for
each path on the way the children that are still to be visited. -/

namespace P2PLending.Trie

variable {T : Type}

/-- The stacks have their top first. A list of children comes with its path and with how many
have been visited. -/
structure MultiTrieIterator (T : Type) where
  nodeStack : List (ℕ × DigitTrieIter (List (ℕ × MultiTrieNode T)))
  trieInfoIter : List (List ℕ × ℕ × List (ℕ × MultiTrieNode T))
  leafIter : List (ℕ × DigitTrieIter T)
  curPath : List (ℕ × List ℕ)

namespace MultiTrieIterator

abbrev Returned (T : Type) := Option (Option (List (ℕ × List ℕ) × T) × MultiTrieIterator T)

def empty : MultiTrieIterator T where
  nodeStack := []
  trieInfoIter := []
  leafIter := []
  curPath := []

/-- An iterator for each root, of which the first comes on top. A root of the wrong kind is a
panic of the source. -/
def pushRoots (nbRequired : ℕ) : List (MultiTrieNode T × ℕ) → Option (MultiTrieIterator T)
  | [] => some empty
  | (root, index) :: roots => do
      let it ← pushRoots nbRequired roots
      match root with
      | .node trie =>
          if 1 < nbRequired then
            some { it with nodeStack := (index, .new trie) :: it.nodeStack }
          else none
      | .leaf trie =>
          if 1 < nbRequired then none
          else some { it with leafIter := (index, .new trie) :: it.leafIter }

def new (t : MultiTrie T) : Option (MultiTrieIterator T) := pushRoots t.nbRequired t.roots.zipIdx

/-- The next path of the last trie on the way, whose children are then visited. -/
def visitNode (base fuel : ℕ) (next : MultiTrieIterator T → Returned T)
    (it : MultiTrieIterator T) : Returned T :=
  match it.nodeStack with
  | [] => some (none, it)
  | (index, digits) :: nodes =>
      match digits.next base fuel with
      | none => none
      | some (none, _) => next { it with nodeStack := nodes }
      | some (some (path, children), digits) =>
          next { it with
            nodeStack := (index, digits) :: nodes
            trieInfoIter := (path, 0, children) :: it.trieInfoIter }

def next (base : ℕ) : (fuel : ℕ) → MultiTrieIterator T → Returned T
  | 0, _ => none
  | fuel + 1, it =>
      match it.leafIter with
      | (index, digits) :: leaves =>
          match digits.next base fuel with
          | none => none
          | some (some (path, value), digits) =>
              some (some (it.curPath.reverse ++ [(index, path)], value),
                { it with leafIter := (index, digits) :: leaves })
          | some (none, _) => next base fuel { it with leafIter := leaves }
      | [] =>
          match it.trieInfoIter with
          | [] => visitNode base fuel (next base fuel) it
          | (_, _, []) :: infos =>
              visitNode base fuel (next base fuel)
                { it with trieInfoIter := infos, curPath := it.curPath.tail }
          | (path, i, (index, child) :: children) :: infos =>
              -- the node is asked for its index only when the path is new
              match if i = 0 then it.nodeStack.head?.map fun node => (node.1, path) :: it.curPath
                else some it.curPath with
              | none => none
              | some curPath =>
                  let it := { it with trieInfoIter := (path, i + 1, children) :: infos, curPath }
                  match child with
                  | .node trie =>
                      visitNode base fuel (next base fuel)
                        { it with nodeStack := (index, .new trie) :: it.nodeStack }
                  | .leaf trie =>
                      next base fuel { it with leafIter := (index, .new trie) :: it.leafIter }

variable {base : ℕ} {it : MultiTrieIterator T} {items : List (List (ℕ × List ℕ) × T)}

/-! More fuel does not change what is returned. -/

theorem visitNode_mono {f g : MultiTrieIterator T → Returned T} {fuel fuel' : ℕ}
    (below : fuel ≤ fuel') (more : ∀ it r, f it = some r → g it = some r)
    {r : Option (List (ℕ × List ℕ) × T) × MultiTrieIterator T}
    (returned : visitNode base fuel f it = some r) : visitNode base fuel' g it = some r := by
  rw [visitNode] at returned ⊢
  cases nodes : it.nodeStack with
  | nil =>
      rw [nodes] at returned
      exact returned
  | cons node others =>
      rw [nodes] at returned
      dsimp only at returned ⊢
      cases inner : node.2.next base fuel with
      | none =>
          rw [inner] at returned
          cases returned
      | some r' =>
          rw [inner] at returned
          rw [DigitTrieIter.next_steady.mono inner below]
          rcases r' with ⟨_ | item, digits⟩
          · exact more _ _ returned
          · exact more _ _ returned

theorem next_steady : Steady (next base : Stepper (MultiTrieIterator T) _) := by
  intro fuel
  induction fuel with
  | zero =>
      intro it r returned
      cases returned
  | succ fuel ih =>
      intro it r returned
      have visits : ∀ it, visitNode base fuel (next base fuel) it = some r →
          visitNode base (fuel + 1) (next base (fuel + 1)) it = some r := fun it =>
        visitNode_mono (Nat.le_succ fuel) ih
      rw [next] at returned ⊢
      rcases it with ⟨nodes, infos, _ | ⟨⟨index, digits⟩, leaves⟩, curPath⟩
      · rcases infos with _ | ⟨⟨path, i, _ | ⟨⟨index, child⟩, children⟩⟩, infos⟩
        · exact visits _ returned
        · exact visits _ returned
        · dsimp only at returned ⊢
          cases entered : (if i = 0 then nodes.head?.map fun node => (node.1, path) :: curPath
              else some curPath) with
          | none =>
              rw [entered] at returned
              cases returned
          | some curPath =>
              rw [entered] at returned
              cases child with
              | node trie => exact visits _ returned
              | leaf trie => exact ih _ _ returned
      · dsimp only at returned ⊢
        cases inner : digits.next base fuel with
        | none =>
            rw [inner] at returned
            cases returned
        | some r' =>
            rw [inner] at returned
            rw [DigitTrieIter.next_succ inner]
            rcases r' with ⟨_ | item, digits⟩
            · exact ih _ _ returned
            · exact returned

/-- What the visit of the last trie on the way gives, and the calls after it. -/
def VisitGives (base : ℕ) (it : MultiTrieIterator T) (items : List (List (ℕ × List ℕ) × T)) :
    Prop :=
  ∃ fuel r, visitNode base fuel (next base fuel) it = some r ∧ Leaves (next base) r items

theorem VisitGives.drains {it' : MultiTrieIterator T} (visit : VisitGives base it' items)
    (turns : ∀ fuel, next base (fuel + 1) it = visitNode base fuel (next base fuel) it') :
    Drains (next base) it items := by
  obtain ⟨fuel, r, returned, leaves⟩ := visit
  refine Drains.iff_leaves.mpr ⟨fuel + 1, r, ?_, leaves⟩
  rw [turns]
  exact returned

/-- A visit that goes on as a call. -/
theorem VisitGives.of_drains {it' : MultiTrieIterator T} (least : ℕ)
    (rest : Drains (next base) it' items)
    (turns : ∀ fuel, least ≤ fuel → visitNode base fuel (next base fuel) it = next base fuel it') :
    VisitGives base it items := by
  obtain ⟨fuel, r, returned, leaves⟩ := Drains.iff_leaves.mp rest
  refine ⟨max least fuel, r, ?_, leaves⟩
  rw [turns _ (le_max_left least fuel)]
  exact next_steady.mono returned (le_max_right least fuel)

/-- The entries behind the path on the way. -/
def behind (curPath : List (ℕ × List ℕ)) (entries : List (List (ℕ × List ℕ) × T)) :
    List (List (ℕ × List ℕ) × T) :=
  entries.map fun entry => (curPath.reverse ++ entry.1, entry.2)

/-- By induction on what the leaf's trie gives. -/
theorem leaf_drains (it : MultiTrieIterator T) {digits : DigitTrieIter T} {xs : List (List ℕ × T)}
    (gives : Drains (DigitTrieIter.next base) digits xs) (index : ℕ)
    {leaves : List (ℕ × DigitTrieIter T)}
    (rest : Drains (next base) { it with leafIter := leaves } items) :
    Drains (next base) { it with leafIter := (index, digits) :: leaves }
      (behind it.curPath (xs.map fun entry => ([(index, entry.1)], entry.2)) ++ items) := by
  induction gives with
  | done fuel ended =>
      refine rest.later next_steady fuel fun more below => ?_
      rw [next]
      dsimp only
      rw [DigitTrieIter.next_steady.mono ended below]
  | item fuel gave _ ih =>
      refine .item (fuel + 1) ?_ ih
      rw [next]
      dsimp only
      rw [gave]

/-- The child of a path on the way is visited before what is left. -/
def Entered (base : ℕ) (it : MultiTrieIterator T) (index : ℕ)
    (items : List (List (ℕ × List ℕ) × T)) : MultiTrieNode T → Prop
  | .node trie => VisitGives base { it with nodeStack := (index, .new trie) :: it.nodeStack } items
  | .leaf trie =>
      Drains (next base) { it with leafIter := (index, .new trie) :: it.leafIter } items

/-- Every child of so much depth gives its entries, wherever it is met. -/
def ChildrenGive (T : Type) (base depth : ℕ) : Prop :=
  ∀ (child : MultiTrieNode T), child.WellFormed base depth → ∀ nodes infos curPath index items,
    Drains (next base) ⟨nodes, infos, [], curPath⟩ items →
    Entered base ⟨nodes, infos, [], curPath⟩ index
      (behind curPath (child.entries base depth index) ++ items) child

section Path
variable {depth index : ℕ} {digits : DigitTrieIter (List (ℕ × MultiTrieNode T))}
  {nodes : List (ℕ × DigitTrieIter (List (ℕ × MultiTrieNode T)))}
  {infos : List (List ℕ × ℕ × List (ℕ × MultiTrieNode T))} {curPath : List (ℕ × List ℕ)}

/-- By induction on the children of a path that are left. The path is on the way from the first
child on. -/
theorem children_drain (give : ChildrenGive T base depth)
    (later : VisitGives base ⟨(index, digits) :: nodes, infos, [], curPath⟩ items)
    (path : List ℕ) {i : ℕ} {children : List (ℕ × MultiTrieNode T)}
    (wellFormed : ∀ child ∈ children, child.2.WellFormed base depth)
    (entered : i = 0 → children ≠ []) :
    Drains (next base) ⟨(index, digits) :: nodes, (path, i, children) :: infos, [],
        if i = 0 then curPath else (index, path) :: curPath⟩
      ((children.flatMap fun child =>
        behind ((index, path) :: curPath) (child.2.entries base depth child.1)) ++ items) := by
  induction children generalizing i with
  | nil =>
      have started : i ≠ 0 := fun new => entered new rfl
      rw [if_neg started]
      exact later.drains fun fuel => rfl
  | cons child children ih =>
      have rest := ih (fun other listed => wellFormed other (List.mem_cons_of_mem child listed))
        fun new : i + 1 = 0 => absurd new (Nat.succ_ne_zero i)
      rw [if_neg (Nat.succ_ne_zero i)] at rest
      have own := give child.2 (wellFormed child List.mem_cons_self) _ _ _ child.1 _ rest
      rw [List.flatMap_cons, List.append_assoc]
      have way : (if i = 0 then some (((index, path) :: (if i = 0 then curPath
          else (index, path) :: curPath)) : List (ℕ × List ℕ))
          else some (if i = 0 then curPath else (index, path) :: curPath)) =
            some ((index, path) :: curPath) := by
        split <;> rfl
      obtain ⟨own', child⟩ := child
      cases child with
      | node trie =>
          refine VisitGives.drains own fun fuel => ?_
          rw [next]
          dsimp only [List.head?_cons, Option.map_some]
          rw [way]
      | leaf trie =>
          refine Drains.later next_steady 0 (fun fuel _ => ?_) own
          rw [next]
          dsimp only [List.head?_cons, Option.map_some]
          rw [way]

/-- By induction on what the node's trie gives. -/
theorem node_gives (index : ℕ) (give : ChildrenGive T base depth)
    {xs : List (List ℕ × List (ℕ × MultiTrieNode T))}
    (gives : Drains (DigitTrieIter.next base) digits xs)
    (each : ∀ entry ∈ xs, entry.2 ≠ [] ∧ ∀ child ∈ entry.2, child.2.WellFormed base depth)
    (rest : Drains (next base) ⟨nodes, infos, [], curPath⟩ items) :
    VisitGives base ⟨(index, digits) :: nodes, infos, [], curPath⟩
      ((xs.flatMap fun entry => entry.2.flatMap fun child =>
        behind ((index, entry.1) :: curPath) (child.2.entries base depth child.1)) ++ items) := by
  induction gives with
  | done fuel ended =>
      refine .of_drains fuel rest fun more below => ?_
      rw [visitNode]
      dsimp only
      rw [DigitTrieIter.next_steady.mono ended below]
  | @item digits after entry xs fuel gave _ ih =>
      have later := ih fun other listed => each other (List.mem_cons_of_mem entry listed)
      obtain ⟨some, wellFormed⟩ := each entry List.mem_cons_self
      have own := children_drain (i := 0) give later entry.1 wellFormed fun _ => some
      rw [List.flatMap_cons, List.append_assoc]
      refine .of_drains fuel own fun more below => ?_
      rw [visitNode]
      dsimp only
      rw [DigitTrieIter.next_steady.mono gave below]
      rfl

end Path

theorem behind_nil (entries : List (List (ℕ × List ℕ) × T)) : behind [] entries = entries := by
  rw [behind]
  simp

/-- By induction on the depth: a node gives its children's entries behind their path. -/
theorem children_give (depth : ℕ) : ChildrenGive T base depth := by
  induction depth with
  | zero =>
      intro child wellFormed nodes infos curPath index items rest
      cases child with
      | node trie => exact wellFormed.elim
      | leaf trie =>
          exact leaf_drains ⟨nodes, infos, [], curPath⟩
            (DigitTrieIter.gives_entries wellFormed).drains index rest
  | succ depth ih =>
      intro child wellFormed nodes infos curPath index items rest
      cases child with
      | leaf trie => exact wellFormed.elim
      | node trie =>
          have held := DigitNode.entries_lists wellFormed.1
          have visit := node_gives index ih (DigitTrieIter.gives_entries wellFormed.1).drains
            (fun entry listed => by
              obtain ⟨some, _, each⟩ :=
                wellFormed.2 entry.1 entry.2 ((held.mem_iff _ _).mp listed)
              exact ⟨some, each⟩) rest
          have same : ((trie.entries base []).flatMap fun entry => entry.2.flatMap fun child =>
                behind ((index, entry.1) :: curPath) (child.2.entries base depth child.1)) =
              behind curPath ((MultiTrieNode.node trie).entries base (depth + 1) index) := by
            rw [behind, MultiTrieNode.entries, List.map_flatMap]
            refine List.flatMap_congr fun entry _ => ?_
            rw [List.map_flatMap]
            refine List.flatMap_congr fun child _ => ?_
            rw [behind, List.map_map]
            refine List.map_congr_left fun below _ => ?_
            simp
          rw [← same]
          exact visit

/-- The iterators over roots that are leaves are all on one stack, those over nodes on another. -/
theorem pushRoots_drains {nbRequired depth : ℕ} (required : nbRequired = depth + 1)
    (roots : List (MultiTrieNode T × ℕ))
    (wellFormed : ∀ root ∈ roots, root.1.WellFormed base depth) :
    ∃ nodes leaves, pushRoots nbRequired roots = some ⟨nodes, [], leaves, []⟩ ∧
      (depth ≠ 0 → leaves = []) ∧ Drains (next base) ⟨nodes, [], leaves, []⟩
        (roots.flatMap fun root => root.1.entries base depth root.2) := by
  induction roots with
  | nil => exact ⟨[], [], rfl, fun _ => rfl, .done 1 rfl⟩
  | cons root roots ih =>
      obtain ⟨nodes, leaves, pushed, none, drains⟩ :=
        ih fun other listed => wellFormed other (List.mem_cons_of_mem root listed)
      have own := wellFormed root List.mem_cons_self
      obtain ⟨root, index⟩ := root
      rw [List.flatMap_cons]
      cases depth with
      | zero =>
          cases root with
          | node trie => exact own.elim
          | leaf trie =>
              have first := leaf_drains ⟨nodes, [], leaves, []⟩
                (DigitTrieIter.gives_entries own).drains index drains
              rw [behind_nil] at first
              refine ⟨nodes, (index, .new trie) :: leaves, ?_, fun some => absurd rfl some, first⟩
              have single : ¬ 1 < nbRequired := by omega
              rw [pushRoots, pushed, Option.bind_eq_bind, Option.bind_some]
              exact if_neg single
      | succ depth =>
          cases root with
          | leaf trie => exact own.elim
          | node trie =>
              rw [none (Nat.succ_ne_zero depth)] at pushed drains
              have first : VisitGives base ⟨(index, .new trie) :: nodes, [], [], []⟩ _ :=
                children_give (depth + 1) (.node trie) own _ _ _ index _ drains
              rw [behind_nil] at first
              refine ⟨(index, .new trie) :: nodes, [], ?_, fun _ => rfl,
                first.drains fun fuel => rfl⟩
              have several : 1 < nbRequired := by omega
              rw [pushRoots, pushed, Option.bind_eq_bind, Option.bind_some]
              exact if_pos several

/-- The iterator over a trie of tries gives what it holds, each once. -/
theorem drains_entries {t : MultiTrie T} (wellFormed : t.WellFormed) (some : t.nbRequired ≠ 0) :
    ∃ it, new t = Option.some it ∧ Drains (next t.oracleNumericInfos.base) it t.entries := by
  have required : t.nbRequired = t.depth + 1 := by
    rw [MultiTrie.depth]
    omega
  obtain ⟨nodes, leaves, pushed, _, drains⟩ := pushRoots_drains required t.roots.zipIdx
    fun root listed => wellFormed root.1
      (List.mem_of_getElem? (List.mem_zipIdx_iff_getElem?.mp listed))
  exact ⟨_, pushed, drains⟩

end MultiTrieIterator

end P2PLending.Trie
