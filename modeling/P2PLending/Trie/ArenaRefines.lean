import P2PLending.Trie.ArenaStands

/-! An insertion, a look-up and the iterator do in the arena what they do on the trie that stands in
it, in a recursion with enough room. After insertions the arena is the map of what was stored. -/

namespace P2PLending.Trie

open Dlc (Result Fault Error)

variable {T : Type}

namespace Arena

theorem childAt_inside {places : List (Option ℕ)} {i : ℕ} (inside : i < places.length)
    (rest : List ℕ) : childAt places (i :: rest) = .ok places[i]?.join := by
  have placed : places[i]? = some places[i]?.join := by
    rw [List.getElem?_eq_getElem inside]
    rfl
  rw [childAt, List.head?_cons, Option.bind_some, placed]
  rfl

theorem childAt_outside {places : List (Option ℕ)} {i : ℕ} (outside : ¬ i < places.length)
    (rest : List ℕ) : childAt places (i :: rest) = .error (.panic outOfBounds) := by
  rw [childAt, List.head?_cons, Option.bind_some, List.getElem?_eq_none (Nat.not_lt.mp outside)]

namespace DigitTrie

/-- An insertion puts a trie at a place, and leaves the rest of the arena. -/
structure Puts (own : Set ℕ) (t : DigitTrie T) (tree : Trie.DigitNode T) (index : ℕ)
    (t' : DigitTrie T) : Prop where
  base : t'.base = t.base
  root : t'.root = t.root
  stands : ∃ own', Stands t.base t'.store tree (some index) own' ∧
    Grown own own' t.store t'.store

section Insert
variable {getData : Option T → Result T} {t : DigitTrie T} {own : Set ℕ} {index room : ℕ}
  {nodePrefix path : List ℕ} {node : Node (DigitLeaf T) (DigitNode T)}

theorem insertInternal_at (held : t.store[index]? = some node)
    (part : getNodePrefix node = .ok nodePrefix) :
    insertInternal getData (room + 1) (some index) path t =
      (if nodePrefix = path then replaceData getData index node
        else if nodePrefix = getCommonPrefix nodePrefix path then
          insertBelow getData
            (fun child => insertInternal getData room child (path.drop nodePrefix.length)) index
            (path.drop nodePrefix.length) node
        else splitAbove getData index node nodePrefix path)
      { t with store := t.store.set index .none } := by
  have present := (List.getElem?_eq_some_iff.mp held).1
  have taken : takeOut index t = (.ok node, { t with store := t.store.set index .none }) := by
    rw [takeOut, swapRemove, if_pos (Nat.lt_succ_of_lt present), held]
    rfl
  rw [insertInternal, Handler.bind_apply, taken]
  dsimp only
  rw [Handler.lift_bind, part]

/-- A child is put in its place on both sides, or there is no such place. -/
theorem place_follows (children : ℕ → Trie.DigitNode T) {places : List (Option ℕ)} {base : ℕ}
    (wide : places.length = base) (suffix : List ℕ) (tree : Trie.DigitNode T) (child : ℕ) :
    (∃ i rest, suffix = i :: rest ∧ i < base ∧
      Trie.DigitNode.place base children suffix tree = .ok (Function.update children i tree) ∧
      placeAt places suffix child = .ok (places.set i (some child))) ∨
    Trie.DigitNode.place base children suffix tree = .error (.panic outOfBounds) ∧
      placeAt places suffix child = .error (.panic outOfBounds) := by
  cases suffix with
  | nil => exact Or.inr ⟨rfl, rfl⟩
  | cons i rest =>
      rw [Trie.DigitNode.place, placeAt, wide]
      by_cases inside : i < base
      · rw [if_pos inside, if_pos inside]
        exact Or.inl ⟨i, rest, rfl, inside, rfl, rfl⟩
      · rw [if_neg inside, if_neg inside]
        exact Or.inr ⟨rfl, rfl⟩

/-- A new leaf for the path is the only child. -/
theorem newLeafChild_follows (t : DigitTrie T) (suffix : List ℕ) (value : T) :
    Handler.Follows
      (fun children places t' =>
        t' = { t with store := t.store ++ [.leaf ⟨value, suffix⟩] } ∧
        ∃ owns, Branches t.base t'.store children places owns ∧
          ∀ i, ∀ k ∈ owns i, k = t.store.length)
      (Trie.DigitNode.place t.base (fun _ => .none) suffix (.leaf suffix value))
      (newLeafChild suffix value t) := by
  have none := branches_none t.base (t.store ++ [.leaf ⟨value, suffix⟩])
  have leaf : Stands t.base (t.store ++ [.leaf ⟨value, suffix⟩]) (.leaf suffix value)
      (some t.store.length) {t.store.length} := .leaf List.getElem?_concat_length
  have placed : newLeafChild suffix value t =
      (placeAt (List.replicate t.base Option.none) suffix t.store.length,
        { t with store := t.store ++ [.leaf ⟨value, suffix⟩] }) := rfl
  rw [placed]
  rcases place_follows (fun _ => .none) none.wide suffix (.leaf suffix value) t.store.length with
    ⟨i, rest, -, inside, tree, arena⟩ | ⟨tree, arena⟩
  · rw [tree, arena]
    have only := none.update inside leaf (fun _ _ _ _ => rfl) fun j _ k _ nothing => nothing
    refine ⟨rfl, _, only, fun j k mine => ?_⟩
    by_cases same : j = i
    · rw [same, Function.update_self] at mine
      exact mine
    · rw [Function.update_of_ne same] at mine
      cases mine
  · rw [tree, arena]
    rfl

/-- The last steps of a split: the node goes below the new one. -/
theorem putAbove_follows {t₁ : DigitTrie T} {current : Trie.DigitNode T}
    {children : ℕ → Trie.DigitNode T} {places : List (Option ℕ)} {owns : ℕ → Set ℕ}
    (commonPrefix below : List ℕ) (data : Option T) (base : t₁.base = t.base)
    (root : t₁.root = t.root) (mine : index ∈ own) (present : ∀ k ∈ own, k < t₁.store.length)
    (branches : Branches t.base t₁.store children places owns)
    (away : ∀ i, ∀ k ∈ own, k ∉ owns i) (grown : Grown own (own ∪ ⋃ i, owns i) t.store t₁.store)
    (cut : ∀ store : Store T, store[index]? = some (setNodePrefix below node) →
      (∀ k ∈ own, k ≠ index → store[k]? = t₁.store[k]?) →
      Stands t.base store current (some index) own) :
    Handler.Follows (Puts own t)
      (do
        let children ← Trie.DigitNode.place t.base children below current
        return .node commonPrefix children data)
      ((do
        let children ← .lift (placeAt places below index)
        let above ← push (.node ⟨children, commonPrefix, data⟩)
        putBack index (setNodePrefix below node)
        return above : Stage T ℕ) t₁) := by
  rcases place_follows children branches.wide below current index with
    ⟨i, rest, -, inside, tree, arena⟩ | ⟨tree, arena⟩
  · rw [tree, arena]
    have inStore := present index mine
    obtain ⟨above, aboveIs⟩ : ∃ above : Node (DigitLeaf T) (DigitNode T),
        above = .node ⟨places.set i (some index), commonPrefix, data⟩ := ⟨_, rfl⟩
    obtain ⟨store, storeIs⟩ : ∃ store : Store T,
        store = (t₁.store ++ [above]).set index (setNodePrefix below node) := ⟨_, rfl⟩
    -- the nodes that were there are there in the end, but the one that is cut
    have kept : ∀ k < t₁.store.length, k ≠ index → store[k]? = t₁.store[k]? := by
      intro k old other
      rw [storeIs, List.getElem?_set_ne (Ne.symm other), List.getElem?_append_left old]
    have here : store[index]? = some (setNodePrefix below node) := by
      rw [storeIs]
      exact List.getElem?_set_self (by simp; omega)
    have last : store[t₁.store.length]? = some above := by
      rw [storeIs, List.getElem?_set_ne inStore.ne, List.getElem?_concat_length]
    have under := cut store here fun k mine other => kept k (present k mine) other
    have others : Branches t.base store children places owns := by
      refine branches.frame fun i k theirs => kept k ((branches.each i).present theirs) ?_
      rintro rfl
      exact away i k mine theirs
    have all := others.update inside under (fun _ _ _ _ => rfl) fun j _ => away j
    have fresh : ∀ j, t₁.store.length ∉ Function.update owns i own j := by
      intro j theirs
      by_cases same : j = i
      · rw [same, Function.update_self] at theirs
        exact absurd (present _ theirs) (Nat.lt_irrefl _)
      · rw [Function.update_of_ne same] at theirs
        exact absurd ((branches.each j).present theirs) (Nat.lt_irrefl _)
    have within : {t₁.store.length} ∪ ⋃ j, Function.update owns i own j ⊆
        {t₁.store.length} ∪ (own ∪ ⋃ j, owns j) := by
      refine Set.union_subset_union_right _ (Set.iUnion_subset fun j => ?_)
      by_cases same : j = i
      · rw [same, Function.update_self]
        exact Set.subset_union_left
      · rw [Function.update_of_ne same]
        exact (Set.subset_iUnion owns j).trans Set.subset_union_right
    have grown' : Grown own ({t₁.store.length} ∪ (own ∪ ⋃ j, owns j)) t.store store := by
      rw [storeIs]
      exact (grown.trans (grown_push _ above)).trans (grown_set (Or.inr (Or.inl mine)) _)
    have put : Puts own t (.node commonPrefix (Function.update children i current) data)
        t₁.store.length { t₁ with store } := by
      rw [aboveIs] at last
      exact ⟨base, root, _, all.stands last fresh, grown'.subset within⟩
    rw [storeIs, aboveIs] at put
    exact put
  · rw [tree, arena]
    rfl

theorem splitAbove_follows {current : List ℕ → Trie.DigitNode T} (mine : index ∈ own)
    (present : ∀ k ∈ own, k < t.store.length)
    (cut : ∀ (below : List ℕ) (store : Store T), store[index]? = some (setNodePrefix below node) →
      (∀ k ∈ own, k ≠ index → store[k]? = t.store[k]?) →
      Stands t.base store (current below) (some index) own) :
    Handler.Follows (Puts own t)
      (Trie.DigitNode.splitAbove t.base getData current nodePrefix path)
      (splitAbove getData index node nodePrefix path
        { t with store := t.store.set index .none }) := by
  have taken : Grown own own t.store (t.store.set index .none) := grown_set mine _
  have present' : ∀ k ∈ own, k < (t.store.set index .none).length := by
    intro k here
    rw [List.length_set]
    exact present k here
  refine Handler.follows_lift fun value _ => ?_
  rw [splitChildren]
  by_cases whole : path = getCommonPrefix nodePrefix path
  · rw [if_pos whole, if_pos whole, if_pos whole]
    refine putAbove_follows _ _ _ rfl rfl mine present'
      (branches_none t.base (t.store.set index .none)) (fun _ _ _ nothing => nothing)
      (taken.subset (by simp)) fun store here same => cut _ store here fun k mine' other => ?_
    rw [same k mine' other, List.getElem?_set_ne (Ne.symm other)]
  · rw [if_neg whole, if_neg whole, if_neg whole]
    have leaf := newLeafChild_follows { t with store := t.store.set index .none }
      (path.drop (getCommonPrefix nodePrefix path).length) value
    refine Handler.follows_bind leaf fun children places t₁ _ made => ?_
    obtain ⟨rfl, owns, branches, fresh⟩ := made
    have pushed := taken.trans (grown_push own (.leaf ⟨value, path.drop
      (getCommonPrefix nodePrefix path).length⟩))
    refine putAbove_follows _ _ _ rfl rfl mine (fun k here => ?_) branches (fun i => ?_)
      (pushed.subset ?_) fun store here same => cut _ store here fun k mine' other => ?_
    · exact (present' k here).trans_le (by simp)
    · intro k here theirs
      exact absurd (present' k here) (by rw [fresh i k theirs]; exact Nat.lt_irrefl _)
    · refine Set.union_subset Set.subset_union_right (Set.iUnion_subset fun i k theirs => ?_)
      exact Or.inl (fresh i k theirs)
    · rw [same k mine' other, List.getElem?_append_left (present' k mine'),
        List.getElem?_set_ne (Ne.symm other)]

/-- The path goes on below a leaf, which becomes a node. -/
theorem belowLeaf_follows {data : T} {inner : Option ℕ → Stage T ℕ} (suffix : List ℕ)
    (held : t.store[index]? = some (.leaf ⟨data, nodePrefix⟩)) :
    Handler.Follows (Puts {index} t)
      (do
        let value ← getData none
        let children ← Trie.DigitNode.place t.base (fun _ => .none) suffix (.leaf suffix value)
        return .node nodePrefix children (some data))
      (insertBelow getData inner index suffix (.leaf ⟨data, nodePrefix⟩)
        { t with store := t.store.set index .none }) := by
  have present := (List.getElem?_eq_some_iff.mp held).1
  have present' : index < (t.store.set index .none).length := by
    rw [List.length_set]
    exact present
  refine Handler.follows_lift fun value _ => ?_
  have leaf := newLeafChild_follows { t with store := t.store.set index .none } suffix value
  refine Handler.follows_bind leaf fun children places t₁ _ made => ?_
  obtain ⟨rfl, owns, branches, fresh⟩ := made
  have away : ∀ i, index ∉ owns i := fun i theirs => present'.ne (fresh i index theirs)
  refine ⟨rfl, rfl, _,
    (branches.frame fun i k theirs => ?_).stands (List.getElem?_set_self ?_) away, ?_⟩
  · refine List.getElem?_set_ne ?_
    rintro rfl
    exact away i theirs
  · exact present'.trans_le (by simp)
  · have taken : Grown {index} {index} t.store (t.store.set index .none) :=
      grown_set (Set.mem_singleton index) _
    have pushed := taken.trans (grown_push {index} (.leaf ⟨value, suffix⟩))
    refine (pushed.trans (grown_set (Or.inr rfl) _)).subset ?_
    refine Set.union_subset Set.subset_union_right (Set.iUnion_subset fun i k theirs => ?_)
    exact Or.inl (fresh i k theirs)

/-- The path goes on below a node, where a child is inserted into. -/
theorem belowNode_follows {children : ℕ → Trie.DigitNode T} {places : List (Option ℕ)}
    {owns : ℕ → Set ℕ} {data : Option T} {inner : Option ℕ → Stage T ℕ} {i : ℕ} (rest : List ℕ)
    {below : Result (Trie.DigitNode T)} (inside : i < t.base)
    (branches : Branches t.base t.store children places owns) (apart : ∀ i, index ∉ owns i)
    (present : index < t.store.length)
    (child : Handler.Follows (Puts (owns i) { t with store := t.store.set index .none }) below
      (inner places[i]?.join { t with store := t.store.set index .none })) :
    Handler.Follows (Puts ({index} ∪ ⋃ i, owns i) t)
      (do
        let child ← below
        return .node nodePrefix (Function.update children i child) data)
      (insertBelow getData inner index (i :: rest) (.node ⟨places, nodePrefix, data⟩)
        { t with store := t.store.set index .none }) := by
  have inside' : i < places.length := branches.wide.symm ▸ inside
  have put : ∀ child, placeAt places (i :: rest) child = .ok (places.set i (some child)) := by
    intro child
    rw [placeAt, if_pos inside']
  rw [insertBelow, childAt_inside inside', Handler.lift_bind]
  dsimp only
  refine Handler.follows_bind child fun tree child t₂ _ inserted => ?_
  rw [put]
  obtain ⟨base, root, own', stands, grown⟩ := inserted
  have present' : index < (t.store.set index .none).length := by
    rw [List.length_set]
    exact present
  have present₂ := present'.trans_le grown.longer
  have fresh : index ∉ own' := by
    intro theirs
    rcases grown.within index theirs with old | new
    · exact apart i old
    · exact absurd present' (Nat.not_lt.mpr new)
  -- the other children have not been touched
  have others : ∀ j, j ≠ i → ∀ k ∈ owns j, t₂.store[k]? = t.store[k]? := by
    intro j differ k theirs
    have old : k < (t.store.set index .none).length := by
      rw [List.length_set]
      exact (branches.each j).present theirs
    rw [grown.others k old (branches.disjoint j i differ k theirs),
      List.getElem?_set_ne]
    rintro rfl
    exact apart j theirs
  have inserted : Branches t.base t₂.store (Function.update children i tree)
      (places.set i (some child)) (Function.update owns i own') := by
    refine branches.update inside stands others fun j differ k mine theirs => ?_
    rcases grown.within k mine with old | new
    · exact branches.disjoint j i differ k theirs old
    · rw [List.length_set] at new
      exact absurd ((branches.each j).present theirs) (Nat.not_lt.mpr new)
  have apart' : ∀ j, index ∉ Function.update owns i own' j := by
    intro j
    by_cases same : j = i
    · rw [same, Function.update_self]
      exact fresh
    · rw [Function.update_of_ne same]
      exact apart j
  refine ⟨base, root, _, (inserted.frame fun j k theirs => ?_).stands
    (List.getElem?_set_self present₂) apart', ?_⟩
  · refine List.getElem?_set_ne ?_
    rintro rfl
    exact apart' j theirs
  · have taken : Grown ({index} ∪ ⋃ i, owns i) ({index} ∪ ⋃ i, owns i) t.store
        (t.store.set index .none) := grown_set (Or.inl rfl) _
    have part : owns i ⊆ {index} ∪ ⋃ i, owns i :=
      (Set.subset_iUnion owns i).trans Set.subset_union_right
    refine ((taken.trans (grown.widen part)).trans (grown_set (Or.inl (Or.inl rfl)) _)).subset ?_
    refine Set.union_subset (fun k here => Or.inl (Or.inl here)) (Set.iUnion_subset fun j => ?_)
    by_cases same : j = i
    · rw [same, Function.update_self]
      exact Set.subset_union_right
    · rw [Function.update_of_ne same]
      exact ((Set.subset_iUnion owns j).trans Set.subset_union_right).trans Set.subset_union_left

theorem belowNode_missing {places : List (Option ℕ)} {data : Option T}
    {inner : Option ℕ → Stage T ℕ} {suffix : List ℕ}
    (absent : childAt places suffix = .error (.panic outOfBounds)) :
    Handler.Follows (Puts own t) (.error (.panic outOfBounds) : Result (Trie.DigitNode T))
      (insertBelow getData inner index suffix (.node ⟨places, nodePrefix, data⟩)
        { t with store := t.store.set index .none }) := by
  rw [insertBelow, absent]
  rfl

/-- The path is that of a leaf. -/
theorem replaceLeaf_follows {data : T}
    (held : t.store[index]? = some (.leaf ⟨data, nodePrefix⟩)) :
    Handler.Follows (Puts {index} t)
      (do return .leaf nodePrefix (← getData (some data)))
      (replaceData getData index (.leaf ⟨data, nodePrefix⟩)
        { t with store := t.store.set index .none }) := by
  have present := (List.getElem?_eq_some_iff.mp held).1
  have mine := Set.mem_singleton index
  refine Handler.follows_lift fun value _ => ⟨rfl, rfl, {index}, ?_, ?_⟩
  · exact .leaf (List.getElem?_set_self (by rw [List.length_set]; exact present))
  · exact (grown_set mine _).trans (grown_set mine _)

/-- The path is that of a node. -/
theorem replaceNode_follows {children : ℕ → Trie.DigitNode T} {places : List (Option ℕ)}
    {owns : ℕ → Set ℕ} {data : Option T}
    (branches : Branches t.base t.store children places owns) (apart : ∀ i, index ∉ owns i)
    (present : index < t.store.length) :
    Handler.Follows (Puts ({index} ∪ ⋃ i, owns i) t)
      (do return .node nodePrefix children (some (← getData data)))
      (replaceData getData index (.node ⟨places, nodePrefix, data⟩)
        { t with store := t.store.set index .none }) := by
  have mine : index ∈ {index} ∪ ⋃ i, owns i := Or.inl rfl
  refine Handler.follows_lift fun value _ => ⟨rfl, rfl, {index} ∪ ⋃ i, owns i, ?_, ?_⟩
  · refine (branches.frame fun i k theirs => ?_).stands
      (List.getElem?_set_self (by rw [List.length_set]; exact present)) apart
    have other : index ≠ k := by
      rintro rfl
      exact apart i theirs
    rw [List.getElem?_set_ne other, List.getElem?_set_ne other]
  · exact (grown_set mine _).trans (grown_set mine _)

/-- By induction on the trie, one step down where the path goes on below a node. How much room is
enough does not depend on the arena. -/
theorem insertInternal_follows (getData : Option T → Result T) (tree : Trie.DigitNode T)
    (path : List ℕ) :
    ∃ enough, ∀ room, enough ≤ room → ∀ (t : DigitTrie T) (cur : Option ℕ) (own : Set ℕ),
      Stands t.base t.store tree cur own → Handler.Follows (Puts own t)
        (tree.insertInternal t.base getData path) (insertInternal getData room cur path t) := by
  induction tree generalizing path with
  | none =>
      refine enough_one fun room t cur own stands => ?_
      cases stands
      refine Handler.follows_lift fun value _ => ⟨rfl, rfl, {t.store.length}, ?_, ?_⟩
      · exact .leaf List.getElem?_concat_length
      · exact (grown_push ∅ _).subset Set.subset_union_left
  | leaf nodePrefix data =>
      refine enough_one fun room t cur own stands => ?_
      have here := stands
      cases stands with
      | leaf held =>
          rw [insertInternal_at held rfl, Trie.DigitNode.insertInternal]
          by_cases same : nodePrefix = path
          · rw [if_pos same, if_pos same]
            exact replaceLeaf_follows held
          · rw [if_neg same, if_neg same]
            by_cases whole : nodePrefix = getCommonPrefix nodePrefix path
            · rw [if_pos whole, if_pos whole]
              exact belowLeaf_follows _ held
            · rw [if_neg whole, if_neg whole]
              exact splitAbove_follows rfl (fun k mine => here.present mine)
                fun below store held _ => .leaf held
  | node nodePrefix children data ih =>
      by_cases same : nodePrefix = path
      · refine enough_one fun room t cur own stands => ?_
        obtain ⟨index, places, owns, rfl, rfl, held, branches, apart⟩ := stands.branches
        rw [insertInternal_at held rfl, Trie.DigitNode.insertInternal, if_pos same, if_pos same]
        exact replaceNode_follows branches apart (List.getElem?_eq_some_iff.mp held).1
      by_cases whole : nodePrefix = getCommonPrefix nodePrefix path
      · simp only [Trie.DigitNode.insertInternal, if_neg same, if_pos whole]
        cases below : path.drop nodePrefix.length with
        | nil =>
            refine enough_one fun room t cur own stands => ?_
            obtain ⟨index, places, owns, rfl, rfl, held, branches, apart⟩ := stands.branches
            rw [insertInternal_at held rfl, if_neg same, if_pos whole, below]
            exact belowNode_missing rfl
        | cons i rest =>
            refine enough_succ (ih i (i :: rest)) fun room child t cur own stands => ?_
            obtain ⟨index, places, owns, rfl, rfl, held, branches, apart⟩ := stands.branches
            have present := (List.getElem?_eq_some_iff.mp held).1
            rw [insertInternal_at held rfl, if_neg same, if_pos whole, below]
            dsimp only
            by_cases inside : i < t.base
            · have under : Stands t.base (t.store.set index .none) (children i)
                  places[i]?.join (owns i) := by
                refine (branches.each i).frame fun k theirs => List.getElem?_set_ne ?_
                rintro rfl
                exact apart i theirs
              rw [if_pos inside]
              exact belowNode_follows rest inside branches apart present
                (child { t with store := t.store.set index .none } _ _ under)
            · rw [if_neg inside]
              exact belowNode_missing (childAt_outside (branches.wide.symm ▸ inside) rest)
      · refine enough_one fun room t cur own stands => ?_
        have here := stands
        obtain ⟨index, places, owns, rfl, rfl, held, branches, apart⟩ := stands.branches
        rw [insertInternal_at held rfl, Trie.DigitNode.insertInternal, if_neg same,
          if_neg same, if_neg whole, if_neg whole]
        refine splitAbove_follows (Or.inl rfl) (fun k mine => here.present mine)
          fun below store held' kept => ?_
        refine (branches.frame fun i k theirs => ?_).stands held' apart
        refine kept k (Or.inr (Set.mem_iUnion_of_mem i theirs)) ?_
        rintro rfl
        exact apart i theirs

/-- Looking a path up in the arena is looking it up in the trie that stands there. -/
theorem lookUpInternal_eq {tree : Trie.DigitNode T} {cur : Option ℕ}
    (stands : Stands t.base t.store tree cur own) :
    ∃ enough, ∀ room, enough ≤ room →
      t.lookUpInternal room cur path = tree.lookUp t.base path := by
  induction tree generalizing own path cur with
  | none =>
      cases stands
      exact enough_one fun room => rfl
  | leaf nodePrefix data =>
      cases stands with
      | leaf held =>
          refine enough_one fun room => ?_
          rw [lookUpInternal, held]
          rfl
  | node nodePrefix children data ih =>
      obtain ⟨index, places, owns, rfl, rfl, held, branches, apart⟩ := stands.branches
      rw [Trie.DigitNode.lookUp]
      by_cases away : nodePrefix.length > path.length ∨ isPrefixOf nodePrefix path = false
      · refine enough_one fun room => ?_
        rw [lookUpInternal, held]
        dsimp only
        rw [if_pos away, if_pos away]
      by_cases whole : nodePrefix.length = path.length
      · refine enough_one fun room => ?_
        rw [lookUpInternal, held]
        dsimp only
        rw [if_neg away, if_neg away, if_pos whole, if_pos whole]
      · rw [if_neg away, if_neg whole]
        cases below : path.drop nodePrefix.length with
        | nil =>
            refine enough_one fun room => ?_
            rw [lookUpInternal, held]
            dsimp only
            rw [if_neg away, if_neg whole, below]
            rfl
        | cons i rest =>
            dsimp only
            by_cases inside : i < t.base
            · have below' := @ih i (owns i) (i :: rest) _ (branches.each i)
              refine enough_succ below' fun room child => ?_
              rw [lookUpInternal, held]
              dsimp only
              rw [if_neg away, if_neg whole, below, if_pos inside,
                childAt_inside (branches.wide.symm ▸ inside), Checked.ok_bind, child]
              cases (children i).lookUp t.base (i :: rest) with
              | error fault => rfl
              | ok res =>
                  cases res with
                  | none => rfl
                  | some items =>
                      cases data with
                      | none => rfl
                      | some d => rfl
            · refine enough_one fun room => ?_
              rw [lookUpInternal, held]
              dsimp only
              rw [if_neg away, if_neg whole, below, if_neg inside,
                childAt_outside (branches.wide.symm ▸ inside)]
              rfl

end Insert

end DigitTrie

namespace DigitTrieIter

/-- The tries on the stack of an iterator stand in the arena at the places on the other's. -/
structure Matches (t : DigitTrie T) (it : DigitTrieIter) (it' : Trie.DigitTrieIter T) : Prop where
  stack : List.Forall₂
    (fun x y => x.2 = y.2 ∧ -1 ≤ y.2 ∧ ∃ own, Stands t.base t.store y.1 x.1 own)
    it.indexStack it'.indexStack
  curPrefix : it.curPrefix = it'.curPrefix

/-- A call gives the same in the arena, and overflows the stack where the other does not return. -/
def SameCall (t : DigitTrie T) : Trie.DigitTrieIter.Returned T → Returned T → Prop
  | none, r => r = .error (.panic stackOverflow)
  | some (x, after), r => ∃ after', r = .ok (x, after') ∧ Matches t after' after

section Iterator
variable {t : DigitTrie T} {it : DigitTrieIter} {it' : Trie.DigitTrieIter T}

/-- What is visited is taken off both stacks. -/
theorem Matches.tail (same : Matches t it it') :
    Matches t { it with indexStack := it.indexStack.tail }
      { it' with indexStack := it'.indexStack.tail } := by
  obtain ⟨stack, prefixes⟩ := it
  obtain ⟨stack', prefixes'⟩ := it'
  obtain ⟨stacked, rfl⟩ := same
  cases stacked with
  | nil => exact ⟨.nil, rfl⟩
  | cons _ rest => exact ⟨rest, rfl⟩

theorem Matches.path (same : Matches t it it') (nodePrefix : List ℕ) :
    it.path nodePrefix = it'.path nodePrefix := by
  rw [DigitTrieIter.path, Trie.DigitTrieIter.path, same.curPrefix]

/-- By induction on the children that are left. -/
theorem visitChildren_same {call : DigitTrieIter → Returned T}
    {call' : Trie.DigitTrieIter T → Trie.DigitTrieIter.Returned T}
    (calls : ∀ it it', Matches t it it' → SameCall t (call' it') (call it))
    {index : ℕ} {nodePrefix : List ℕ} {data : Option T} {children : ℕ → Trie.DigitNode T}
    {places : List (Option ℕ)} {owns : ℕ → Set ℕ} {own : Set ℕ}
    (stands : Stands t.base t.store (.node nodePrefix children data) (some index) own)
    (branches : Branches t.base t.store children places owns) {left : ℕ} (within : left ≤ t.base)
    (same : Matches t it it') :
    SameCall t
      (Trie.DigitTrieIter.visitChildren call' t.base (.node nodePrefix children data) children left
        it')
      (visitChildren call t.base index places left it) := by
  induction left generalizing it it' with
  | zero =>
      refine ⟨_, rfl, same.tail.stack, ?_⟩
      rw [same.curPrefix]
  | succ left ih =>
      have inside : t.base - (left + 1) < places.length := by
        rw [branches.wide]
        omega
      have child := branches.each (t.base - (left + 1))
      have pushed : Matches t
          { it with indexStack := (places[t.base - (left + 1)]?.join, -1) ::
              (some index, ((t.base - (left + 1) : ℕ) : ℤ) + 1) :: it.indexStack }
          { it' with indexStack := (children (t.base - (left + 1)), -1) ::
              (.node nodePrefix children data, ((t.base - (left + 1) : ℕ) : ℤ) + 1) ::
              it'.indexStack } := by
        have later : (-1 : ℤ) ≤ ((t.base - (left + 1) : ℕ) : ℤ) + 1 := by omega
        exact ⟨.cons ⟨rfl, le_rfl, _, child⟩ (.cons ⟨rfl, later, _, stands⟩ same.stack),
          same.curPrefix⟩
      have called := calls _ _ pushed
      rw [visitChildren, Trie.DigitTrieIter.visitChildren, childAt_inside inside]
      dsimp only
      generalize call' _ = returned at called ⊢
      rcases returned with _ | ⟨_ | item, after⟩
      · rw [called]
        rfl
      · obtain ⟨after', same', matched⟩ := called
        rw [same']
        exact ih (Nat.le_of_succ_le within) matched.tail
      · obtain ⟨after', same', matched⟩ := called
        rw [same']
        exact ⟨after', rfl, matched⟩

/-- By induction on the room. -/
theorem next_same (room : ℕ) (same : Matches t it it') :
    SameCall t (Trie.DigitTrieIter.next t.base room it') (next t room it) := by
  induction room generalizing it it' with
  | zero => rfl
  | succ room ih =>
      obtain ⟨stack, prefixes⟩ := it
      obtain ⟨stack', prefixes'⟩ := it'
      obtain ⟨stacked, rfl⟩ := same
      rw [next, Trie.DigitTrieIter.next]
      cases stacked with
      | nil => exact ⟨_, rfl, .nil, rfl⟩
      | @cons x y stack stack' top rest =>
          obtain ⟨cur, child⟩ := x
          obtain ⟨tree, child'⟩ := y
          obtain ⟨same, least, own, stands⟩ := top
          dsimp only at same least stands ⊢
          subst same
          cases stands with
          | none => exact ih ⟨rest, rfl⟩
          | leaf held =>
              dsimp only
              rw [held]
              exact ⟨_, rfl, rest, rfl⟩
          | @node _ _ data _ _ _ held wide each disjoint apart =>
              have branches := Branches.mk wide each disjoint
              have stands := branches.stands held apart
              dsimp only
              rw [held]
              dsimp only
              by_cases past : (t.base : ℤ) ≤ child
              · rw [if_pos past, if_pos past]
                exact ih ⟨rest, rfl⟩
              rw [if_neg past, if_neg past]
              cases found : (if child = -1 then data else none) with
              | some value =>
                  have own : data = some value := by
                    split at found
                    next => exact found
                    next => cases found
                  rw [own] at stands
                  have top : (-1 : ℤ) ≤ 0 := by omega
                  exact ⟨_, rfl, .cons ⟨rfl, top, _, stands⟩ rest, rfl⟩
              | none =>
                  refine visitChildren_same (fun _ _ => ih) stands branches ?_ ⟨rest, rfl⟩
                  split
                  next => simp
                  next => omega

/-- The calls give in the arena what they give on the tries. -/
theorem calls_drain {items : List (List ℕ × T)}
    (drains : Drains (Trie.DigitTrieIter.next t.base) it' items) :
    ∃ enough, ∀ room, enough ≤ room → ∀ it, Matches t it it' →
      calls (next t room) (items.length + 1) it = (items, some (.ok ())) := by
  induction drains with
  | done fuel ended =>
      refine ⟨fuel, fun room below it same => ?_⟩
      have called := next_same room same
      rw [Trie.DigitTrieIter.next_steady.mono ended below] at called
      obtain ⟨after, returned, -⟩ := called
      rw [calls, returned]
  | @item _ _ x xs fuel gave _ ih =>
      obtain ⟨later, others⟩ := ih
      refine ⟨max fuel later, fun room below it same => ?_⟩
      have called := next_same room same
      rw [Trie.DigitTrieIter.next_steady.mono gave ((le_max_left _ _).trans below)] at called
      obtain ⟨after, returned, matched⟩ := called
      rw [calls, returned, List.length_cons]
      dsimp only
      rw [others room ((le_max_right _ _).trans below) after matched]

end Iterator

end DigitTrieIter

namespace DigitTrie

/-- The nodes reached from the root make up a trie. -/
def Represents (t : DigitTrie T) (tree : Trie.DigitNode T) : Prop :=
  ∃ own, Stands t.base t.store tree t.root own

theorem new_represents (base : ℕ) : (new base : DigitTrie T).Represents .none := ⟨∅, .none⟩

/-- An insertion does in the arena what it does on the trie, and fails as it does there. -/
theorem insert_follows (getData : Option T → Result T) (tree : Trie.DigitNode T) (path : List ℕ) :
    ∃ enough, ∀ room, enough ≤ room → ∀ t : DigitTrie T, t.Represents tree →
      Handler.Follows (fun tree' _ t' => t'.base = t.base ∧ t'.Represents tree')
        (tree.insert t.base path getData) (insert getData room path t) := by
  obtain ⟨enough, follows⟩ := insertInternal_follows getData tree path
  refine ⟨enough, fun room below t represents => ?_⟩
  obtain ⟨own, stands⟩ := represents
  rw [Trie.DigitNode.insert, insert, Handler.read_bind]
  dsimp only
  by_cases invalid : path = [] ∨ ∃ x ∈ path, t.base < x
  · rw [if_pos invalid, if_pos (decide_eq_true invalid)]
    rfl
  · have put := follows room below t t.root own stands
    rw [if_neg invalid, if_neg (by simpa using invalid), Handler.read_bind]
    dsimp only
    rw [← bind_pure (Trie.DigitNode.insertInternal t.base getData tree path)]
    refine Handler.follows_bind put fun tree' root t' _ put => ?_
    obtain ⟨base, -, own', stands', -⟩ := put
    refine ⟨base, own', ?_⟩
    rw [← base] at stands'
    exact stands'

/-- Insertions one after the other. -/
def insertAll (room : ℕ) (insertions : List (Trie.DigitNode.Insertion T)) : Stage T Unit :=
  Handler.forEach (fun x => insert x.2 room x.1) insertions

/-- By induction on the insertions. -/
theorem insertAll_follows (base : ℕ) (insertions : List (Trie.DigitNode.Insertion T))
    (tree : Trie.DigitNode T) :
    ∃ enough, ∀ room, enough ≤ room → ∀ t : DigitTrie T, t.base = base → t.Represents tree →
      Handler.Follows (fun tree' _ t' => t'.base = base ∧ t'.Represents tree')
        (Trie.DigitNode.insertAll base tree insertions) (insertAll room insertions t) := by
  induction insertions generalizing tree with
  | nil => exact ⟨0, fun room _ t same represents => ⟨same, represents⟩⟩
  | cons x insertions ih =>
      obtain ⟨first, follows⟩ := insert_follows x.2 tree x.1
      have rest : ∃ later, ∀ tree', tree.insert base x.1 x.2 = .ok tree' → ∀ room, later ≤ room →
          ∀ t : DigitTrie T, t.base = base → t.Represents tree' →
            Handler.Follows (fun tree' _ t' => t'.base = base ∧ t'.Represents tree')
              (Trie.DigitNode.insertAll base tree' insertions) (insertAll room insertions t) := by
        cases tree.insert base x.1 x.2 with
        | error fault => exact ⟨0, fun tree' put => by cases put⟩
        | ok tree₁ =>
            obtain ⟨later, others⟩ := ih tree₁
            refine ⟨later, fun tree' put => ?_⟩
            cases put
            exact others
      obtain ⟨later, others⟩ := rest
      refine ⟨max first later, fun room below t same represents => ?_⟩
      subst same
      have put := follows room ((le_max_left _ _).trans below) t represents
      refine Handler.follows_bind put fun tree' _ t' made after => ?_
      exact others tree' made room ((le_max_right _ _).trans below) t' after.1 after.2

/-- A look-up in the arena is one in the trie. -/
theorem lookUp_eq {t : DigitTrie T} {tree : Trie.DigitNode T} (represents : t.Represents tree)
    (path : List ℕ) :
    ∃ enough, ∀ room, enough ≤ room → t.lookUp room path = tree.lookUp t.base path := by
  obtain ⟨own, stands⟩ := represents
  exact lookUpInternal_eq stands

/-- The iterator over the arena lists the entries of the trie and comes to the end. -/
theorem iterate_entries {t : DigitTrie T} {tree : Trie.DigitNode T}
    (represents : t.Represents tree) (wellFormed : tree.WellFormed t.base) :
    ∃ enough, ∀ room, enough ≤ room →
      t.iterate room ((tree.entries t.base []).length + 1) =
        (tree.entries t.base [], some (.ok ())) := by
  obtain ⟨own, stands⟩ := represents
  have all := (Trie.DigitTrieIter.gives_entries wellFormed).drains
  obtain ⟨enough, called⟩ := DigitTrieIter.calls_drain all
  refine ⟨enough, fun room below => called room below _ ?_⟩
  exact ⟨.cons ⟨rfl, le_rfl, own, stands⟩ .nil, rfl⟩

/-- After insertions of paths of the base the arena is the map of what was stored, and the iterator
lists it in the order of the paths. -/
theorem insertAll_lists {base : ℕ} {insertions : List (Trie.DigitNode.Insertion T)}
    (valid : ∀ x ∈ insertions, Trie.DigitNode.Insertion.Valid base x) :
    ∃ map items enough, Trie.DigitNode.stored (fun _ => none) insertions = .ok map ∧
      Lists map items ∧
      items.Pairwise (fun x y => List.Lex (· < ·) x.1 y.1) ∧
      ∀ room, enough ≤ room → ∃ t, insertAll room insertions (new base) = (.ok (), t) ∧
        ∃ least, ∀ room', least ≤ room' →
          t.iterate room' (items.length + 1) = (items, some (.ok ())) := by
  obtain ⟨tree, inserted, wellFormed, held⟩ :=
    @Trie.DigitNode.insertAll_stored T base .none insertions valid trivial trivial
  obtain ⟨enough, follows⟩ := insertAll_follows base insertions (.none : Trie.DigitNode T)
  refine ⟨tree.find, tree.entries base [], enough, held,
    Trie.DigitNode.entries_lists wellFormed, Trie.DigitNode.entries_sorted wellFormed [],
    fun room below => ?_⟩
  have ran := follows room below (new base) rfl (new_represents base)
  rw [inserted] at ran
  generalize insertAll room insertions (new base) = returned at ran ⊢
  rcases returned with ⟨fault | _, t⟩
  · exact False.elim ran
  · obtain ⟨same, represents⟩ := ran
    rw [← same] at wellFormed ⊢
    exact ⟨t, rfl, iterate_entries represents wellFormed⟩

end DigitTrie

end Arena

end P2PLending.Trie
