import P2PLending.Trie.ArenaInsert

/-! The iterator over the arena of a trie of tries. It comes to the end of a trie from which nothing
was taken out. Where a root leads to an empty place it never does: the place is waited for in all
the calls, and reached in a panic. -/

namespace P2PLending.Trie

open Dlc (Result Fault Error)

variable {T : Type}

namespace DigitTrieIter

/-- What a call returns is the first of the items that are given. -/
theorem Gives.returned {base fuel : ℕ} {it : DigitTrieIter T} {items : List (List ℕ × T)}
    {r : Option (List ℕ × T) × DigitTrieIter T} (gives : Gives base it items)
    (returned : next base fuel it = some r) : Leaves base r items := by
  obtain ⟨fuel', r', returned', leaves⟩ := gives_iff.mp gives
  rw [next_steady.agree returned returned']
  exact leaves

end DigitTrieIter

namespace Arena

namespace MultiTrieIterator

open P2PLending.Trie.Arena.MultiTrie (Reaches Linked LinkedNode Whole Holed kind)

/-! An empty place is waited for. -/

section Waiting
variable {t : MultiTrie T} {last : ℕ}

/-- Something that is left to visit leads to the place. -/
def Pending (t : MultiTrie T) (last : ℕ) (it : MultiTrieIterator T) : Prop :=
  (∃ node ∈ it.nodeStack, ∃ xs, Trie.DigitTrieIter.Gives t.base node.2 xs ∧
    ∃ entry ∈ xs, ∃ info ∈ entry.2, Reaches t.store info.storeIndex last) ∨
  ∃ x ∈ it.trieInfoIter, ∃ info ∈ x.2.2, Reaches t.store info.storeIndex last

/-- Each list of children comes from a trie on the way. -/
structure Waits (t : MultiTrie T) (last : ℕ) (it : MultiTrieIterator T) : Prop where
  pending : Pending t last it
  fewer : it.trieInfoIter.length ≤ it.nodeStack.length

/-- The calls do not end, and go on waiting. -/
def KeepsWaiting (t : MultiTrie T) (last : ℕ) (call : MultiTrieIterator T → Returned T) : Prop :=
  ∀ it x after, call it = .ok (x, after) → Waits t last it → x ≠ none ∧ Waits t last after

theorem visitNode_waits {room : ℕ} {call : MultiTrieIterator T → Returned T}
    (keeps : KeepsWaiting t last call) {it after : MultiTrieIterator T}
    {x : Option (List (ℕ × List ℕ) × T)} (returned : visitNode t.base room call it = .ok (x, after))
    (pending : Pending t last it)
    (fewer : it.trieInfoIter = [] ∨ it.trieInfoIter.length < it.nodeStack.length) :
    x ≠ none ∧ Waits t last after := by
  obtain ⟨nodes, infos, leaves, curPath⟩ := it
  cases nodes with
  | nil =>
      rcases pending with ⟨node, none, -⟩ | ⟨y, listed, -⟩
      · cases none
      · rcases fewer with empty | less
        · dsimp only at empty listed
          rw [empty] at listed
          cases listed
        · exact absurd less (Nat.not_lt_zero _)
  | cons node nodes =>
      obtain ⟨index, digits⟩ := node
      have below : infos.length ≤ nodes.length := by
        rcases fewer with empty | less
        · dsimp only at empty
          rw [empty]
          exact Nat.zero_le _
        · exact Nat.le_of_lt_succ less
      rw [visitNode] at returned
      dsimp only at returned
      cases own : digits.next t.base room with
      | none =>
          rw [own] at returned
          cases returned
      | some r =>
          rw [own] at returned
          obtain ⟨_ | ⟨path, children⟩, digits'⟩ := r
          · refine keeps _ x after returned ⟨?_, below⟩
            rcases pending with ⟨node, listed, xs, gives, entry, among, rest⟩ | later
            · rcases List.mem_cons.mp listed with rfl | other
              · -- nothing is left of the trie
                cases gives.returned own with
                | done empty => cases among
              · exact Or.inl ⟨node, other, xs, gives, entry, among, rest⟩
            · exact Or.inr later
          · refine keeps _ x after returned ⟨?_, Nat.succ_le_succ below⟩
            rcases pending with ⟨node, listed, xs, gives, entry, among, rest⟩ | ⟨y, listed, rest⟩
            · rcases List.mem_cons.mp listed with rfl | other
              · cases gives.returned own with
                | item others =>
                    rcases List.mem_cons.mp among with rfl | later
                    · exact Or.inr ⟨(path, 0, children), List.mem_cons_self, rest⟩
                    · exact Or.inl ⟨(index, digits'), List.mem_cons_self, _, others, entry, later,
                        rest⟩
              · exact Or.inl ⟨node, List.mem_cons_of_mem _ other, xs, gives, entry, among, rest⟩
            · exact Or.inr ⟨y, List.mem_cons_of_mem _ listed, rest⟩

/-- The trie of a node that leads to an empty place is not the place itself. -/
theorem pending_child {index : ℕ} {node : MultiTrieNode T} (linked : Linked t.base t.store)
    (empty : t.store[last]? = some Node.none) (reaches : Reaches t.store index last)
    (held : t.store[index]? = some node) :
    node = .none ∨ ∃ trie, node = .node trie ∧ ∃ xs,
      Trie.DigitTrieIter.Gives t.base (.new trie) xs ∧
        ∃ entry ∈ xs, ∃ info ∈ entry.2, Reaches t.store info.storeIndex last := by
  cases reaches with
  | here =>
      rw [empty] at held
      cases held
      exact Or.inl rfl
  | @down _ _ trie path children info held' found child rest =>
      rw [held'] at held
      cases held
      have wellFormed := (linked index _ held').1
      have among := ((Trie.DigitNode.entries_lists wellFormed).mem_iff path children).mpr found
      exact Or.inr ⟨trie, rfl, _, Trie.DigitTrieIter.gives_entries wellFormed, (path, children),
        among, info, child, rest⟩

/-- By induction on the room. -/
theorem next_waits (linked : Linked t.base t.store) (empty : t.store[last]? = some Node.none)
    (room : ℕ) : KeepsWaiting t last (next t room) := by
  induction room with
  | zero =>
      intro it x after returned
      cases returned
  | succ room ih =>
      rintro ⟨nodes, infos, leaves, curPath⟩ x after returned waits
      obtain ⟨pending, fewer⟩ := waits
      rw [next] at returned
      cases leaves with
      | cons leaf leaves =>
          dsimp only at returned
          cases own : leaf.2.next t.base room with
          | none =>
              rw [own] at returned
              cases returned
          | some r =>
              rw [own] at returned
              obtain ⟨_ | ⟨path, value⟩, digits⟩ := r
              · exact ih _ x after returned ⟨pending, fewer⟩
              · cases returned
                exact ⟨Option.some_ne_none _, pending, fewer⟩
      | nil =>
          rcases infos with _ | ⟨⟨path, i, _ | ⟨info, children⟩⟩, infos⟩
          · exact visitNode_waits ih returned pending (Or.inl rfl)
          · refine visitNode_waits ih returned ?_ (Or.inr fewer)
            rcases pending with onWay | ⟨y, listed, info, among, rest⟩
            · exact Or.inl onWay
            · rcases List.mem_cons.mp listed with rfl | other
              · cases among
              · exact Or.inr ⟨y, other, info, among, rest⟩
          · dsimp only at returned
            cases way :
                pathInto ⟨nodes, (path, i, info :: children) :: infos, [], curPath⟩ path i with
            | error fault =>
                rw [way] at returned
                cases returned
            | ok curPath' =>
                rw [way] at returned
                cases place : t.nodeAt info.storeIndex with
                | error fault =>
                    rw [place] at returned
                    cases returned
                | ok node =>
                    rw [place] at returned
                    dsimp only at returned
                    have held := MultiTrie.nodeAt_eq_ok.mp place
                    -- what leads to the place is behind the child or still on the stacks
                    have split : (∃ trie, node = .node trie ∧ ∃ xs,
                        Trie.DigitTrieIter.Gives t.base (.new trie) xs ∧ ∃ entry ∈ xs,
                          ∃ info ∈ entry.2, Reaches t.store info.storeIndex last) ∨
                        node = .none ∨
                        Pending t last ⟨nodes, (path, i + 1, children) :: infos, [], curPath'⟩ := by
                      rcases pending with onWay | ⟨y, listed, other, among, rest⟩
                      · exact Or.inr (Or.inr (Or.inl onWay))
                      · rcases List.mem_cons.mp listed with rfl | below
                        · rcases List.mem_cons.mp among with rfl | sibling
                          · rcases pending_child linked empty rest held with none | child
                            · exact Or.inr (Or.inl none)
                            · exact Or.inl child
                          · exact Or.inr (Or.inr (Or.inr
                              ⟨_, List.mem_cons_self, other, sibling, rest⟩))
                        · exact Or.inr (Or.inr (Or.inr
                            ⟨y, List.mem_cons_of_mem _ below, other, among, rest⟩))
                    cases node with
                    | none => cases returned
                    | leaf trie =>
                        refine ih _ x after returned ⟨?_, fewer⟩
                        rcases split with ⟨trie', same, -⟩ | none | left
                        · cases same
                        · cases none
                        · exact left
                    | node trie =>
                        rw [enterChild] at returned
                        refine visitNode_waits ih returned ?_ (Or.inr (Nat.succ_le_succ fewer))
                        rcases split with ⟨trie', same, xs, gives, rest⟩ | none | left
                        · cases same
                          exact Or.inl ⟨_, List.mem_cons_self, xs, gives, rest⟩
                        · cases none
                        · rcases left with ⟨node, listed, rest⟩ | later
                          · exact Or.inl ⟨node, List.mem_cons_of_mem _ listed, rest⟩
                          · exact Or.inr later

theorem pushRoot_ok {index : ℕ} {node : MultiTrieNode T} {it it' : MultiTrieIterator T}
    (pushed : pushRoot t index it node = .ok it') :
    (∃ trie, node = .node trie ∧
      it' = { it with nodeStack := (index, .new trie) :: it.nodeStack }) ∨
    ∃ trie, node = .leaf trie ∧
      it' = { it with leafIter := (index, .new trie) :: it.leafIter } := by
  cases node with
  | none => cases pushed
  | node trie =>
      rw [pushRoot] at pushed
      split at pushed
      next =>
        cases pushed
        exact Or.inl ⟨trie, rfl, rfl⟩
      next => cases pushed
  | leaf trie =>
      rw [pushRoot] at pushed
      split at pushed
      next => cases pushed
      next =>
        cases pushed
        exact Or.inr ⟨trie, rfl, rfl⟩

/-- By induction on the roots: the iterator waits for what one of them leads to. -/
theorem pushRoots_waits (linked : Linked t.base t.store) (empty : t.store[last]? = some Node.none)
    {roots : List ℕ} {it : MultiTrieIterator T} (made : pushRoots t roots = .ok it) :
    it.trieInfoIter = [] ∧
      ∀ root ∈ roots, Reaches t.store root last → Pending t last it := by
  induction roots generalizing it with
  | nil =>
      cases made
      exact ⟨rfl, fun root none => by cases none⟩
  | cons index roots ih =>
      obtain ⟨others, first, made⟩ := Checked.bind_eq_ok.mp made
      obtain ⟨node, place, pushed⟩ := Checked.bind_eq_ok.mp made
      obtain ⟨unvisited, waiting⟩ := ih first
      have held := MultiTrie.nodeAt_eq_ok.mp place
      have child := fun reaches => pending_child linked empty reaches held
      rcases pushRoot_ok pushed with ⟨trie, rfl, rfl⟩ | ⟨trie, rfl, rfl⟩
      · refine ⟨unvisited, fun root listed reaches => ?_⟩
        rcases List.mem_cons.mp listed with rfl | other
        · rcases child reaches with none | ⟨trie', same, xs, gives, rest⟩
          · cases none
          · cases same
            exact Or.inl ⟨_, List.mem_cons_self, xs, gives, rest⟩
        · rcases waiting root other reaches with ⟨node, among, rest⟩ | later
          · exact Or.inl ⟨node, List.mem_cons_of_mem _ among, rest⟩
          · exact Or.inr later
      · refine ⟨unvisited, fun root listed reaches => ?_⟩
        rcases List.mem_cons.mp listed with rfl | other
        · rcases child reaches with none | ⟨trie', same, -⟩
          · cases none
          · cases same
        · exact waiting root other reaches

/-- The calls over a trie with an empty place never come to the end. -/
theorem iterate_unended (holed : Holed t) (room count : ℕ) :
    (t.iterate room count).2 ≠ some (.ok ()) := by
  obtain ⟨root, within, last, reaches, empty⟩ := holed.hole
  rw [MultiTrie.iterate]
  cases made : new t with
  | error fault =>
      intro ended
      cases ended
  | ok it =>
      obtain ⟨unvisited, waiting⟩ := pushRoots_waits holed.linked empty made
      have pending := waiting root (List.mem_range.mpr within) reaches
      have fewer : it.trieInfoIter.length ≤ it.nodeStack.length := by
        rw [unvisited]
        exact Nat.zero_le _
      exact calls_unended (P := Waits t last) (fun it x after waits returned =>
        next_waits holed.linked empty room it x after returned waits) ⟨pending, fewer⟩ count

end Waiting

/-! Over a trie from which nothing was taken out the calls come to the end. -/

section Ending
variable {t : MultiTrie T}

theorem visitNode_more {f g : MultiTrieIterator T → Returned T} {base room room' : ℕ}
    (below : room ≤ room') (more : ∀ it r, f it = .ok r → g it = .ok r)
    {it : MultiTrieIterator T} {r : Option (List (ℕ × List ℕ) × T) × MultiTrieIterator T}
    (returned : visitNode base room f it = .ok r) : visitNode base room' g it = .ok r := by
  rw [visitNode] at returned ⊢
  cases nodes : it.nodeStack with
  | nil =>
      rw [nodes] at returned
      exact returned
  | cons node others =>
      rw [nodes] at returned
      dsimp only at returned ⊢
      cases inner : node.2.next base room with
      | none =>
          rw [inner] at returned
          cases returned
      | some r' =>
          rw [inner] at returned
          rw [Trie.DigitTrieIter.next_steady.mono inner below]
          rcases r' with ⟨_ | item, digits⟩
          · exact more _ _ returned
          · exact more _ _ returned

theorem enterChild_more {f g : MultiTrieIterator T → Returned T} {base room room' : ℕ}
    (below : room ≤ room') (more : ∀ it r, f it = .ok r → g it = .ok r)
    {it : MultiTrieIterator T} {index : ℕ} {node : MultiTrieNode T}
    {r : Option (List (ℕ × List ℕ) × T) × MultiTrieIterator T}
    (returned : enterChild base room f it index node = .ok r) :
    enterChild base room' g it index node = .ok r := by
  cases node with
  | none => cases returned
  | node trie =>
      rw [enterChild] at returned ⊢
      exact visitNode_more below more returned
  | leaf trie => exact more _ _ returned

/-- More room does not change what is returned. -/
theorem next_steady (t : MultiTrie T) : Steady (unfailing (next t)) := by
  intro room
  induction room with
  | zero =>
      intro it r returned
      cases unfailing_eq_some.mp returned
  | succ room ih =>
      intro it r returned
      have more : ∀ it r, next t room it = .ok r → next t (room + 1) it = .ok r :=
        fun it r given => unfailing_eq_some.mp (ih it r (unfailing_eq_some.mpr given))
      rw [unfailing_eq_some] at returned ⊢
      rw [next] at returned ⊢
      rcases it with ⟨nodes, infos, _ | ⟨⟨index, digits⟩, leaves⟩, curPath⟩
      · rcases infos with _ | ⟨⟨path, i, _ | ⟨info, children⟩⟩, infos⟩
        · exact visitNode_more (Nat.le_succ room) more returned
        · exact visitNode_more (Nat.le_succ room) more returned
        · dsimp only at returned ⊢
          cases way :
              pathInto ⟨nodes, (path, i, info :: children) :: infos, [], curPath⟩ path i with
          | error fault =>
              rw [way] at returned
              cases returned
          | ok curPath' =>
              rw [way] at returned
              cases place : t.nodeAt info.storeIndex with
              | error fault =>
                  rw [place] at returned
                  cases returned
              | ok node =>
                  rw [place] at returned
                  exact enterChild_more (Nat.le_succ room) more returned
      · dsimp only at returned ⊢
        cases inner : digits.next t.base room with
        | none =>
            rw [inner] at returned
            cases returned
        | some r' =>
            rw [inner] at returned
            rw [Trie.DigitTrieIter.next_succ inner]
            rcases r' with ⟨_ | item, digits⟩
            · exact more _ _ returned
            · exact returned

/-- The calls from a state on come to the end. -/
def Ends (t : MultiTrie T) (it : MultiTrieIterator T) : Prop :=
  ∃ items, Drains (unfailing (next t)) it items

/-- A way to call the iterator for the first time comes to the end. -/
def CallEnds (t : MultiTrie T) (call : ℕ → Returned T) : Prop :=
  ∃ room r items, (∀ more, room ≤ more → call more = .ok r) ∧ Leaves (unfailing (next t)) r items

theorem Ends.call {it : MultiTrieIterator T} (ends : Ends t it) :
    CallEnds t fun room => next t room it := by
  obtain ⟨items, drains⟩ := ends
  obtain ⟨room, r, returned, leaves⟩ := Drains.iff_leaves.mp drains
  exact ⟨room, r, items, fun more below =>
    unfailing_eq_some.mp ((next_steady t).mono returned below), leaves⟩

/-- A call that does, with more room, what one does that comes to the end. -/
theorem CallEnds.of {call call' : ℕ → Returned T} (least : ℕ) (ends : CallEnds t call')
    (turns : ∀ room, least ≤ room → call (room + 1) = call' room) : CallEnds t call := by
  obtain ⟨room, r, items, returned, leaves⟩ := ends
  refine ⟨max least room + 1, r, items, fun more below => ?_, leaves⟩
  obtain ⟨more, rfl⟩ := Nat.exists_eq_add_of_le' (Nat.le_trans (Nat.le_add_left 1 _) below)
  have enough := Nat.le_of_succ_le_succ below
  rw [turns more (le_trans (le_max_left least room) enough)]
  exact returned more (le_trans (le_max_right least room) enough)

theorem CallEnds.same {call call' : ℕ → Returned T} (least : ℕ) (ends : CallEnds t call')
    (turns : ∀ room, least ≤ room → call room = call' room) : CallEnds t call := by
  obtain ⟨room, r, items, returned, leaves⟩ := ends
  refine ⟨max least room, r, items, fun more below => ?_, leaves⟩
  rw [turns more (le_trans (le_max_left least room) below)]
  exact returned more (le_trans (le_max_right least room) below)

theorem CallEnds.ends {it : MultiTrieIterator T} (ends : CallEnds t fun room => next t room it) :
    Ends t it := by
  obtain ⟨room, r, items, returned, leaves⟩ := ends
  exact ⟨items, Drains.iff_leaves.mpr
    ⟨room, r, unfailing_eq_some.mpr (returned room le_rfl), leaves⟩⟩

/-- By induction on what the leaf's trie gives. -/
theorem leaf_ends (it : MultiTrieIterator T) {digits : Trie.DigitTrieIter T}
    {xs : List (List ℕ × T)} (gives : Drains (Trie.DigitTrieIter.next t.base) digits xs)
    (index : ℕ) {leaves : List (ℕ × Trie.DigitTrieIter T)}
    (rest : Ends t { it with leafIter := leaves }) :
    Ends t { it with leafIter := (index, digits) :: leaves } := by
  induction gives with
  | done fuel ended =>
      refine CallEnds.ends (.of fuel rest.call fun room below => ?_)
      rw [next]
      dsimp only
      rw [Trie.DigitTrieIter.next_steady.mono ended below]
  | @item digits after x xs fuel gave _ ih =>
      obtain ⟨items, drains⟩ := ih
      have gave' : next t (fuel + 1) { it with leafIter := (index, digits) :: leaves } =
          .ok (some (it.curPath.reverse ++ [(index, x.1)], x.2),
            { it with leafIter := (index, after) :: leaves }) := by
        rw [next]
        dsimp only
        rw [gave]
      exact ⟨_, .item (fuel + 1) (unfailing_eq_some.mpr gave') drains⟩

/-- The calls come to the end of what is at a place and of what is left behind it. -/
def PlaceEnds (t : MultiTrie T) (place : ℕ) : Prop :=
  ∃ node, t.store[place]? = some node ∧ ∀ nodes infos index,
    (∀ curPath, Ends t ⟨nodes, infos, [], curPath⟩) → ∀ curPath,
      CallEnds t fun room =>
        enterChild t.base room (next t room) ⟨nodes, infos, [], curPath⟩ index node

section Path
variable {index : ℕ} {digits : Trie.DigitTrieIter (List TrieNodeInfo)}
  {nodes : List (ℕ × Trie.DigitTrieIter (List TrieNodeInfo))}
  {infos : List (List ℕ × ℕ × List TrieNodeInfo)}

/-- By induction on the children of a path that are left. -/
theorem children_end (later : ∀ curPath, CallEnds t fun room =>
      visitNode t.base room (next t room) ⟨(index, digits) :: nodes, infos, [], curPath⟩)
    (path : List ℕ) {children : List TrieNodeInfo}
    (each : ∀ info ∈ children, PlaceEnds t info.storeIndex) (i : ℕ)
    (curPath : List (ℕ × List ℕ)) :
    Ends t ⟨(index, digits) :: nodes, (path, i, children) :: infos, [], curPath⟩ := by
  induction children generalizing i curPath with
  | nil => exact CallEnds.ends (.of 0 (later curPath.tail) fun room _ => rfl)
  | cons info children ih =>
      have rest := fun i curPath =>
        ih (fun other listed => each other (List.mem_cons_of_mem info listed)) i curPath
      obtain ⟨node, held, gives⟩ := each info List.mem_cons_self
      obtain ⟨curPath', way⟩ : ∃ curPath', pathInto
          ⟨(index, digits) :: nodes, (path, i, info :: children) :: infos, [], curPath⟩ path i =
            .ok curPath' := by
        unfold pathInto
        dsimp only
        split
        · exact ⟨_, rfl⟩
        · exact ⟨_, rfl⟩
      have own := gives _ _ info.trieIndex (rest (i + 1)) curPath'
      refine CallEnds.ends (.of 0 own fun room _ => ?_)
      rw [next]
      dsimp only
      rw [way, MultiTrie.nodeAt_eq_ok.mpr held]

/-- By induction on what the node's trie gives. -/
theorem node_ends {xs : List (List ℕ × List TrieNodeInfo)}
    (gives : Drains (Trie.DigitTrieIter.next t.base) digits xs)
    (each : ∀ entry ∈ xs, ∀ info ∈ entry.2, PlaceEnds t info.storeIndex)
    (rest : ∀ curPath, Ends t ⟨nodes, infos, [], curPath⟩) (curPath : List (ℕ × List ℕ)) :
    CallEnds t fun room =>
      visitNode t.base room (next t room) ⟨(index, digits) :: nodes, infos, [], curPath⟩ := by
  induction gives generalizing curPath with
  | done fuel ended =>
      refine .same fuel (rest curPath).call fun room below => ?_
      rw [visitNode]
      dsimp only
      rw [Trie.DigitTrieIter.next_steady.mono ended below]
  | @item digits after entry xs fuel gave _ ih =>
      have later := ih fun other listed => each other (List.mem_cons_of_mem entry listed)
      have own := children_end later entry.1 (each entry List.mem_cons_self) 0 curPath
      refine .same fuel own.call fun room below => ?_
      rw [visitNode]
      dsimp only
      rw [Trie.DigitTrieIter.next_steady.mono gave below]

end Path

/-- By induction on what is behind the place: a node refers to nodes behind it. -/
theorem place_ends (linked : Linked t.base t.store) (there : ∀ k ∈ t.store.map kind, k ≠ none)
    {place : ℕ} (within : place < t.store.length) : PlaceEnds t place := by
  induction left : t.store.length - place using Nat.strong_induction_on generalizing place with
  | _ left ih =>
      obtain ⟨node, held⟩ : ∃ node, t.store[place]? = some node :=
        ⟨_, List.getElem?_eq_getElem within⟩
      refine ⟨node, held, fun nodes infos index rest curPath => ?_⟩
      have own := linked place node held
      cases node with
      | none =>
          have listed : none ∈ t.store.map kind := List.mem_map.mpr
            ⟨_, List.mem_of_getElem? held, rfl⟩
          exact absurd rfl (there none listed)
      | leaf trie =>
          have ends := leaf_ends ⟨nodes, infos, [], curPath⟩
            (Trie.DigitTrieIter.gives_entries own).drains index (rest curPath)
          exact .same 0 ends.call fun room _ => rfl
      | node trie =>
          have each : ∀ entry ∈ trie.entries t.base [], ∀ info ∈ entry.2,
              PlaceEnds t info.storeIndex := by
            intro entry listed info child
            have found := ((Trie.DigitNode.entries_lists own.1).mem_iff entry.1 entry.2).mp listed
            obtain ⟨behind, before⟩ := own.2 entry.1 entry.2 found info child
            exact ih _ (by omega) before rfl
          have ends : CallEnds t fun room => visitNode t.base room (next t room)
              ⟨(index, .new trie) :: nodes, infos, [], curPath⟩ :=
            node_ends (Trie.DigitTrieIter.gives_entries own.1).drains each rest curPath
          exact .same 0 ends fun room _ => rfl

/-- By induction on the roots: they are all nodes, or all leaves. -/
theorem pushRoots_end (whole : Whole t) {roots : List ℕ}
    (within : ∀ root ∈ roots, root < t.nbRoots) :
    ∃ nodes leaves, pushRoots t roots = .ok ⟨nodes, [], leaves, []⟩ ∧
      (1 < t.nbRequired → leaves = []) ∧ ∀ curPath, Ends t ⟨nodes, [], leaves, curPath⟩ := by
  induction roots with
  | nil => exact ⟨[], [], rfl, fun _ => rfl, fun curPath => ⟨[], .done 1 rfl⟩⟩
  | cons root roots ih =>
      obtain ⟨nodes, leaves, pushed, none, ends⟩ :=
        ih fun other listed => within other (List.mem_cons_of_mem root listed)
      have kinds := whole.roots root (within root List.mem_cons_self)
      obtain ⟨node, held, same⟩ : ∃ node, t.store[root]? = some node ∧
          kind node = some (decide (t.nbRequired ≤ 1)) := by
        rw [List.getElem?_map, Option.map_eq_some_iff] at kinds
        exact kinds
      have present := (List.getElem?_eq_some_iff.mp held).1
      obtain ⟨node', held', gives⟩ := place_ends whole.linked whole.there present
      rw [held] at held'
      cases held'
      have made : ∀ it, pushRoot t root ⟨nodes, [], leaves, []⟩ node = .ok it →
          pushRoots t (root :: roots) = .ok it := by
        intro it last
        rw [pushRoots, pushed, Checked.ok_bind, MultiTrie.nodeAt_eq_ok.mpr held, Checked.ok_bind]
        exact last
      have own := whole.linked root node held
      by_cases single : t.nbRequired ≤ 1
      · rw [decide_eq_true single] at same
        cases node with
        | none => cases same
        | node trie => cases same
        | leaf trie =>
            refine ⟨nodes, (root, .new trie) :: leaves, made _ (if_neg (Nat.not_lt.mpr single)),
              fun several => absurd several (Nat.not_lt.mpr single), fun curPath => ?_⟩
            exact leaf_ends ⟨nodes, [], leaves, curPath⟩
              (Trie.DigitTrieIter.gives_entries own).drains root (ends curPath)
      · rw [decide_eq_false single] at same
        have several := Nat.lt_of_not_le single
        rw [none several] at ends made
        cases node with
        | none => cases same
        | leaf trie => cases same
        | node trie =>
            refine ⟨(root, .new trie) :: nodes, [], made _ (if_pos several), fun _ => rfl,
              fun curPath => ?_⟩
            exact CallEnds.ends (.of 0 (gives _ _ root ends curPath) fun room _ => rfl)

/-- The calls over a whole trie come to the end. -/
theorem iterate_ends (whole : Whole t) :
    ∃ room count, (t.iterate room count).2 = some (.ok ()) := by
  obtain ⟨nodes, leaves, made, -, ends⟩ :=
    pushRoots_end whole fun root listed => List.mem_range.mp listed
  obtain ⟨items, drains⟩ := ends []
  obtain ⟨room, called⟩ := drains.called (next_steady t)
  refine ⟨room, items.length + 1, ?_⟩
  rw [MultiTrie.iterate, new, made]
  dsimp only
  rw [called room le_rfl]

end Ending

end MultiTrieIterator

end Arena

end P2PLending.Trie
