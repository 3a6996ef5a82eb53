import P2PLending.Trie.MultiTrie

/-! What a trie of tries holds, and that an insertion writes at its paths and nowhere else. -/

namespace P2PLending.Trie

open Dlc (Result Fault)

variable {T S : Type}

namespace MultiTrieNode

/-- What is held at a path, followed by paths with the indexes of their oracles. -/
def find : MultiTrieNode T → List ℕ → List (ℕ × List ℕ) → Option T
  | .leaf trie, path, [] => trie.find path
  | .node trie, path, (index, next) :: rest =>
      (trie.find path).bind fun children =>
        (findStoreIndex children index).bind fun child => child.find next rest
  | _, _, _ => none

/-- So many tries are below each other, each well formed, and no index is held twice. -/
def WellFormed (base : ℕ) : (depth : ℕ) → MultiTrieNode T → Prop
  | 0, .leaf trie => trie.WellFormed base
  | depth + 1, .node trie => trie.WellFormed base ∧ ∀ path children,
      trie.find path = some children → children ≠ [] ∧ (children.map Prod.fst).Nodup ∧
        ∀ child ∈ children, child.2.WellFormed base depth
  | _, _ => False

/-- The values with their paths and indexes, the node having this index. -/
def entries (base : ℕ) : (depth : ℕ) → ℕ → MultiTrieNode T → List (List (ℕ × List ℕ) × T)
  | 0, index, .leaf trie => (trie.entries base []).map fun entry => ([(index, entry.1)], entry.2)
  | depth + 1, index, .node trie => (trie.entries base []).flatMap fun entry =>
      entry.2.flatMap fun child => (child.2.entries base depth child.1).map fun below =>
        ((index, entry.1) :: below.1, below.2)
  | _, _, _ => []

end MultiTrieNode

/-! The children of a path. -/

section Children
variable {children : List (ℕ × MultiTrieNode T)} {index : ℕ} {child : MultiTrieNode T}

theorem findStoreIndex_eq_some (distinct : (children.map Prod.fst).Nodup) :
    findStoreIndex children index = some child ↔ (index, child) ∈ children := by
  induction children with
  | nil => simp [findStoreIndex]
  | cons info children ih =>
      obtain ⟨fresh, others⟩ := List.nodup_cons.mp distinct
      by_cases same : info.1 = index
      · have found : findStoreIndex (info :: children) index = some info.2 := by
          simp [findStoreIndex, same]
        rw [found, List.mem_cons, Option.some.injEq]
        constructor
        · rintro rfl
          exact Or.inl (by rw [← same])
        · rintro (here | later)
          · rw [← here]
          · refine absurd ?_ fresh
            rw [same]
            exact List.mem_map_of_mem later
      · have found : findStoreIndex (info :: children) index = findStoreIndex children index := by
          simp [findStoreIndex, same]
        have differs : (index, child) ≠ info := by
          rintro rfl
          exact same rfl
        rw [found, ih others, List.mem_cons, or_iff_right differs]

theorem findStoreIndex_eq_none :
    findStoreIndex children index = none ↔ index ∉ children.map Prod.fst := by
  rw [findStoreIndex, Option.map_eq_none_iff, List.find?_eq_none]
  constructor
  · intro away held
    obtain ⟨info, listed, same⟩ := List.mem_map.mp held
    exact away info listed (decide_eq_true same)
  · intro away info listed same
    exact away (List.mem_map.mpr ⟨info, listed, of_decide_eq_true same⟩)

theorem findStoreIndex_cons (info : ℕ × MultiTrieNode T) (children : List (ℕ × MultiTrieNode T))
    (index : ℕ) : findStoreIndex (info :: children) index =
      if info.1 = index then some info.2 else findStoreIndex children index := by
  rw [findStoreIndex, List.find?_cons]
  split
  next same => simp at same; simp [same]
  next differs => simp at differs; simp [findStoreIndex, differs]

namespace MultiTrieNode

theorem putChild_keys : (putChild children index child).map Prod.fst =
    if index ∈ children.map Prod.fst then children.map Prod.fst
    else children.map Prod.fst ++ [index] := by
  rw [putChild]
  split
  next =>
    rw [List.map_map]
    refine List.map_congr_left fun info _ => ?_
    rw [Function.comp_apply]
    split
    next same => exact same.symm
    next => rfl
  next => simp

theorem putChild_ne_nil : putChild children index child ≠ [] := by
  rw [putChild]
  split
  next held =>
    rintro empty
    rw [List.map_eq_nil_iff.mp empty] at held
    cases held
  next => simp

theorem putChild_nodup (distinct : (children.map Prod.fst).Nodup) :
    ((putChild children index child).map Prod.fst).Nodup := by
  rw [putChild_keys]
  split
  next => exact distinct
  next fresh => exact List.Nodup.append distinct (List.nodup_singleton index) (by simpa using fresh)

theorem mem_putChild {info : ℕ × MultiTrieNode T} (listed : info ∈ putChild children index child) :
    info = (index, child) ∨ info ∈ children := by
  rw [putChild] at listed
  split at listed
  next =>
    obtain ⟨before, member, rfl⟩ := List.mem_map.mp listed
    split
    next => exact Or.inl rfl
    next => exact Or.inr member
  next =>
    rcases List.mem_append.mp listed with member | last
    · exact Or.inr member
    · exact Or.inl (List.mem_singleton.mp last)

theorem findStoreIndex_map (other : ℕ) :
    findStoreIndex (children.map fun info => if info.1 = index then (index, child) else info)
      other = if other = index then (if index ∈ children.map Prod.fst then some child else none)
        else findStoreIndex children other := by
  induction children with
  | nil => simp [findStoreIndex]
  | cons info children ih =>
      rw [List.map_cons, findStoreIndex_cons, findStoreIndex_cons, ih]
      by_cases here : info.1 = index
      · by_cases same : other = index
        · simp [here, same]
        · have differs : ¬ index = other := fun equal => same equal.symm
          simp [here, same, differs]
      · by_cases same : other = index
        · have apart : ¬ index = info.1 := fun equal => here equal.symm
          have keys : index ∈ (info :: children).map Prod.fst ↔ index ∈ children.map Prod.fst := by
            rw [List.map_cons, List.mem_cons, or_iff_right apart]
          simp only [here, same, keys, if_true, if_false]
        · simp [here, same]

theorem findStoreIndex_putChild (other : ℕ) : findStoreIndex (putChild children index child) other =
    if other = index then some child else findStoreIndex children other := by
  rw [putChild]
  split
  next held => rw [findStoreIndex_map, if_pos held]
  next absent =>
    have none := findStoreIndex_eq_none.mpr absent
    rw [findStoreIndex, Option.map_eq_none_iff] at none
    rw [findStoreIndex, List.find?_append]
    by_cases same : other = index
    · simp [same, none]
    · have differs : ¬ index = other := fun equal => same equal.symm
      simp [same, differs, findStoreIndex]

end MultiTrieNode

end Children

namespace MultiTrieNode

variable {base depth : ℕ} {value : T} {t t' : MultiTrieNode T}

theorem new_wellFormed (base : ℕ) : (depth : ℕ) →
    (new (decide (depth = 0)) : MultiTrieNode T).WellFormed base depth
  | 0 => trivial
  | _ + 1 => ⟨trivial, fun _ _ held => by cases held⟩

theorem new_find (isLeaf : Bool) (path : List ℕ) (rest : List (ℕ × List ℕ)) :
    (new isLeaf : MultiTrieNode T).find path rest = none := by
  cases isLeaf with
  | false => cases rest <;> rfl
  | true => cases rest <;> rfl

theorem find_node_cons (trie : DigitNode (List (ℕ × MultiTrieNode T))) (path next : List ℕ)
    (index : ℕ) (rest : List (ℕ × List ℕ)) :
    (MultiTrieNode.node trie).find path ((index, next) :: rest) =
      (trie.find path).bind fun children =>
        (findStoreIndex children index).bind fun child => child.find next rest := by
  rw [find]

/-- The children of a path that a child has been put to. -/
theorem child_find {trie trie' : DigitNode (List (ℕ × MultiTrieNode T))} {path next : List ℕ}
    {paths : List (List ℕ)} {index : ℕ} {indexes : List ℕ} {isLeaf : Bool} {child' : MultiTrieNode T}
    (writes : trie'.find = Function.update trie.find path
      (some (putChild ((trie.find path).getD []) index child')))
    (below : ∀ path' rest, child'.find path' rest =
      if path' = next ∧ rest = indexes.zip paths then some value
      else ((findStoreIndex ((trie.find path).getD []) index).getD (new isLeaf)).find path' rest)
    (path' : List ℕ) (rest : List (ℕ × List ℕ)) :
    (MultiTrieNode.node trie').find path' rest =
      if path' = path ∧ rest = (index :: indexes).zip (next :: paths) then some value
      else (MultiTrieNode.node trie).find path' rest := by
  cases rest with
  | nil => simp [find]
  | cons first rest =>
      obtain ⟨other, next'⟩ := first
      rw [find_node_cons, find_node_cons, writes, List.zip_cons_cons]
      by_cases here : path' = path
      · subst here
        rw [Function.update_self, Option.bind_some, findStoreIndex_putChild]
        by_cases same : other = index
        · subst same
          rw [if_pos rfl, Option.bind_some, below]
          have tail : ((other, next') :: rest = (other, next) :: indexes.zip paths) ↔
              (next' = next ∧ rest = indexes.zip paths) := by simp
          simp only [true_and, tail]
          split
          next => rfl
          next =>
            cases held : trie.find path' with
            | none => simp [findStoreIndex, new_find]
            | some children =>
                rw [Option.getD_some, Option.bind_some]
                cases findStoreIndex children other with
                | none => simp [new_find]
                | some child => rfl
        · have differs : ¬ ((other, next') :: rest = (index, next) :: indexes.zip paths) := by
            simp [same]
          rw [if_neg same, if_neg fun both => differs both.2]
          cases trie.find path' with
          | none => rfl
          | some children => rfl
      · rw [Function.update_of_ne here, if_neg fun both => here both.1]

/-- The child that is gone on in. -/
theorem next_wellFormed {trie : DigitNode (List (ℕ × MultiTrieNode T))} {paths : List (List ℕ)}
    (wellFormed : (MultiTrieNode.node trie).WellFormed base (depth + 1))
    (length : paths.length = depth) (path : List ℕ) (index : ℕ) :
    ((findStoreIndex ((trie.find path).getD []) index).getD (new paths.isEmpty)).WellFormed base
      depth := by
  have fresh : (new paths.isEmpty : MultiTrieNode T).WellFormed base depth := by
    have empty : paths.isEmpty = decide (depth = 0) := by
      rw [← length]
      cases paths <;> rfl
    rw [empty]
    exact new_wellFormed base depth
  cases held : trie.find path with
  | none => exact fresh
  | some children =>
      obtain ⟨_, distinct, each⟩ := wellFormed.2 path children held
      rw [Option.getD_some]
      cases found : findStoreIndex children index with
      | none => exact fresh
      | some child => exact each _ ((findStoreIndex_eq_some distinct).mp found)

/-- By induction on the paths: the child of the next oracle is one depth below. -/
theorem insertInternal_ok {path : List ℕ} {paths : List (List ℕ)} {trieIndexes : List ℕ}
    (wellFormed : t.WellFormed base depth) (length : paths.length = depth)
    (inserted : insertInternal base value t (path :: paths) trieIndexes = .ok t') :
    t'.WellFormed base depth ∧ ∀ path' rest, t'.find path' rest =
      if path' = path ∧ rest = trieIndexes.zip paths then some value else t.find path' rest := by
  induction paths generalizing t t' path trieIndexes depth with
  | nil =>
      subst length
      cases t with
      | node trie => exact wellFormed.elim
      | leaf trie =>
          obtain ⟨trie', done, last⟩ := Checked.bind_eq_ok.mp inserted
          cases last
          obtain ⟨_, got, writes⟩ := DigitNode.insert_ok wellFormed done
          cases got
          refine ⟨writes.wellFormed, fun path' rest => ?_⟩
          cases rest with
          | cons below rest => simp [find]
          | nil =>
              rw [find, find, writes.find_eq, List.zip_nil_right]
              by_cases same : path' = path
              · simp [same]
              · simp [same]
  | cons next paths ih =>
      subst length
      cases t with
      | leaf trie => exact wellFormed.elim
      | node trie =>
          cases trieIndexes with
          | nil => cases inserted
          | cons index indexes =>
              obtain ⟨trie', done, last⟩ := Checked.bind_eq_ok.mp inserted
              cases last
              obtain ⟨children', got, writes⟩ := DigitNode.insert_ok wellFormed.1 done
              obtain ⟨child', below, placed⟩ := Checked.bind_eq_ok.mp got
              cases placed
              have childWell := next_wellFormed wellFormed rfl path index
              obtain ⟨wellFormed', finds⟩ := ih childWell rfl below
              refine ⟨⟨writes.wellFormed, fun path' children held => ?_⟩,
                child_find writes.find_eq finds⟩
              rw [writes.find_eq] at held
              by_cases here : path' = path
              · subst here
                rw [Function.update_self] at held
                cases held
                have distinct : (((trie.find path').getD []).map Prod.fst).Nodup := by
                  cases before : trie.find path' with
                  | none => exact List.nodup_nil
                  | some children => exact (wellFormed.2 path' children before).2.1
                refine ⟨putChild_ne_nil, putChild_nodup distinct, fun child listed => ?_⟩
                rcases mem_putChild listed with rfl | member
                · exact wellFormed'
                · cases before : trie.find path' with
                  | none =>
                      rw [before] at member
                      cases member
                  | some children =>
                      rw [before] at member
                      exact (wellFormed.2 path' children before).2.2 child member
              · rw [Function.update_of_ne here] at held
                exact wellFormed.2 path' children held

/-- What the node with this index holds. -/
def held (index : ℕ) (t : MultiTrieNode T) : List (ℕ × List ℕ) → Option T
  | [] => none
  | (first, path) :: rest => if first = index then t.find path rest else none

/-- What the children of a path hold. -/
def childrenHeld (children : List (ℕ × MultiTrieNode T)) : List (ℕ × List ℕ) → Option T
  | [] => none
  | (index, path) :: rest =>
      (findStoreIndex children index).bind fun child => child.find path rest

/-- The same under the path and the index of their node. -/
def pathHeld (first : ℕ × List ℕ) (children : List (ℕ × MultiTrieNode T)) :
    List (ℕ × List ℕ) → Option T
  | [] => none
  | x :: rest => if x = first then childrenHeld children rest else none

theorem node_find (trie : DigitNode (List (ℕ × MultiTrieNode T))) (path : List ℕ)
    (rest : List (ℕ × List ℕ)) : (MultiTrieNode.node trie).find path rest =
      (trie.find path).bind fun children => childrenHeld children rest := by
  cases rest with
  | nil => cases trie.find path <;> simp [find, childrenHeld]
  | cons first rest => exact find_node_cons trie path first.2 first.1 rest

theorem childrenHeld_lists {children : List (ℕ × MultiTrieNode T)}
    (distinct : (children.map Prod.fst).Nodup)
    (each : ∀ child ∈ children, Lists (held child.1 child.2) (child.2.entries base depth child.1)) :
    Lists (childrenHeld children)
      (children.flatMap fun child => child.2.entries base depth child.1) := by
  refine Lists.flatMap (fun child => held child.1 child.2) distinct.of_map each (fun key v => ?_)
    fun child listed other listed' key v w first second => ?_
  · cases key with
    | nil => simp [childrenHeld, held]
    | cons x rest =>
        rw [childrenHeld, Option.bind_eq_some_iff]
        constructor
        · rintro ⟨child, found, here⟩
          refine ⟨(x.1, child), (findStoreIndex_eq_some distinct).mp found, ?_⟩
          rw [held, if_pos rfl]
          exact here
        · rintro ⟨child, listed, here⟩
          rw [held] at here
          split at here
          next same => exact ⟨child.2, (findStoreIndex_eq_some distinct).mpr (same ▸ listed), here⟩
          next => cases here
  · cases key with
    | nil => cases first
    | cons x rest =>
        rw [held] at first second
        split at first
        next same =>
          split at second
          next same' =>
            have found := (findStoreIndex_eq_some distinct).mpr listed
            have found' := (findStoreIndex_eq_some distinct).mpr listed'
            rw [← same, same', found'] at found
            exact Prod.ext (same.symm.trans same') (Option.some.inj found).symm
          next => cases second
        next => cases first

/-- By induction on the depth: a node lists what the children of its paths list. -/
theorem entries_lists (wellFormed : t.WellFormed base depth) (index : ℕ) :
    Lists (held index t) (t.entries base depth index) := by
  induction depth generalizing t index with
  | zero =>
      cases t with
      | node trie => exact wellFormed.elim
      | leaf trie =>
          refine Lists.mapKeys (f := fun path => [(index, path)])
            (DigitNode.entries_lists wellFormed) (fun _ _ same => by simpa using same) fun key v => ?_
          constructor
          · intro here
            rcases key with _ | ⟨⟨first, path⟩, _ | ⟨next, rest⟩⟩
            · cases here
            · rw [held] at here
              split at here
              next same => exact ⟨path, by rw [same], here⟩
              next => cases here
            · simp [held, find] at here
          · rintro ⟨path, rfl, here⟩
            rw [held, if_pos rfl]
            exact here
  | succ depth ih =>
      cases t with
      | leaf trie => exact wellFormed.elim
      | node trie =>
          have digits := DigitNode.entries_lists wellFormed.1
          have listed : (MultiTrieNode.node trie).entries base (depth + 1) index =
              (trie.entries base []).flatMap fun entry =>
                (entry.2.flatMap fun child => child.2.entries base depth child.1).map
                  fun below => ((index, entry.1) :: below.1, below.2) := by
            rw [entries]
            refine List.flatMap_congr fun entry _ => ?_
            rw [List.map_flatMap]
          rw [listed]
          refine Lists.flatMap (fun entry => pathHeld (index, entry.1) entry.2) digits.nodup.of_map
            (fun entry member => ?_) (fun key v => ?_)
            fun entry member other member' key v w first second => ?_
          · obtain ⟨_, distinct, each⟩ :=
              wellFormed.2 _ _ ((digits.mem_iff entry.1 entry.2).mp member)
            exact (childrenHeld_lists distinct fun child listed =>
              ih (each child listed) child.1).under (index, entry.1) (fun _ _ => rfl) rfl
          · rcases key with _ | ⟨⟨first, path⟩, rest⟩
            · simp [held, pathHeld]
            · rw [held, node_find]
              constructor
              · intro here
                split at here
                next same =>
                  obtain ⟨children, found, below⟩ := Option.bind_eq_some_iff.mp here
                  refine ⟨(path, children), (digits.mem_iff _ _).mpr found, ?_⟩
                  rw [same]
                  rw [pathHeld, if_pos rfl]
                  exact below
                next => cases here
              · rintro ⟨entry, member, here⟩
                rw [pathHeld] at here
                split at here
                next same =>
                  cases same
                  rw [if_pos rfl, (digits.mem_iff _ _).mp member]
                  exact here
                next => cases here
          · cases key with
            | nil => cases first
            | cons x rest =>
                rw [pathHeld] at first second
                split at first
                next same =>
                  split at second
                  next same' =>
                    have path : entry.1 = other.1 := (Prod.mk.inj (same.symm.trans same')).2
                    have found := (digits.mem_iff _ _).mp member
                    rw [path, (digits.mem_iff _ _).mp member'] at found
                    exact Prod.ext path (Option.some.inj found).symm
                  next => cases second
                next => cases first

end MultiTrieNode

namespace MultiTrie

/-- The depth of the tries below a root. -/
def depth (t : MultiTrie T) : ℕ := t.nbRequired - 1

def find (t : MultiTrie T) : List (ℕ × List ℕ) → Option T
  | [] => none
  | (index, path) :: rest => t.roots[index]?.bind fun root => root.find path rest

def entries (t : MultiTrie T) : List (List (ℕ × List ℕ) × T) :=
  t.roots.zipIdx.flatMap fun root => root.1.entries t.oracleNumericInfos.base t.depth root.2

def WellFormed (t : MultiTrie T) : Prop :=
  ∀ root ∈ t.roots, root.WellFormed t.oracleNumericInfos.base t.depth

/-- Only the tries differ. -/
def SameShape (t t' : MultiTrie T) : Prop := t' = { t with roots := t'.roots }

variable {t t' : MultiTrie T}

theorem SameShape.trans {t'' : MultiTrie T} (first : SameShape t t') (second : SameShape t' t'') :
    SameShape t t'' := by
  rw [SameShape] at first second ⊢
  rw [second, first]

theorem SameShape.nbRequired (same : SameShape t t') : t'.nbRequired = t.nbRequired := by
  rw [SameShape] at same
  rw [same]

theorem SameShape.oracleNumericInfos (same : SameShape t t') :
    t'.oracleNumericInfos = t.oracleNumericInfos := by
  rw [SameShape] at same
  rw [same]

theorem SameShape.indexedPaths (same : SameShape t t') (path : List ℕ) :
    t'.indexedPaths path = t.indexedPaths path := by
  rw [SameShape] at same
  rw [same]
  rfl

theorem entries_lists (wellFormed : t.WellFormed) : Lists t.find t.entries := by
  have indexed : ∀ root ∈ t.roots.zipIdx, t.roots[root.2]? = some root.1 := fun root member =>
    List.mem_zipIdx_iff_getElem?.mp member
  have distinct : t.roots.zipIdx.Nodup := by
    refine List.Nodup.of_map Prod.snd ?_
    rw [List.zipIdx_map_snd]
    exact List.nodup_range'
  refine Lists.flatMap (fun root => MultiTrieNode.held root.2 root.1) distinct
    (fun root member => MultiTrieNode.entries_lists
      (wellFormed _ (List.mem_of_getElem? (indexed root member))) root.2)
    (fun key v => ?_) fun root member other member' key v w first second => ?_
  · cases key with
    | nil => simp [find, MultiTrieNode.held]
    | cons x rest =>
        rw [find, Option.bind_eq_some_iff]
        constructor
        · rintro ⟨root, placed, here⟩
          refine ⟨(root, x.1), List.mem_zipIdx_iff_getElem?.mpr placed, ?_⟩
          rw [MultiTrieNode.held, if_pos rfl]
          exact here
        · rintro ⟨root, member, here⟩
          rw [MultiTrieNode.held] at here
          split at here
          next same => exact ⟨root.1, by rw [same]; exact indexed root member, here⟩
          next => cases here
  · cases key with
    | nil => cases first
    | cons x rest =>
        rw [MultiTrieNode.held] at first second
        split at first
        next same =>
          split at second
          next same' =>
            have index : root.2 = other.2 := same.symm.trans same'
            have placed := indexed root member
            rw [index, indexed other member'] at placed
            exact Prod.ext (Option.some.inj placed).symm index
          next => cases second
        next => cases first

theorem insertPaths_ok {getValue : GetValue S T} {s s' : S} {indexes : List ℕ}
    {paths : List (List ℕ)} (wellFormed : t.WellFormed) (length : paths.length = t.depth + 1)
    (inserted : insertPaths getValue (t, s) (indexes, paths) = .ok (t', s')) :
    ∃ value, getValue paths indexes s = .ok (value, s') ∧ SameShape t t' ∧ t'.WellFormed ∧
      t'.find = Function.update t.find (indexes.zip paths) (some value) := by
  rw [insertPaths] at inserted
  cases indexes with
  | nil => cases inserted
  | cons index indexes =>
      dsimp only at inserted
      cases placed : t.roots[index]? with
      | none =>
          rw [placed] at inserted
          cases inserted
      | some root =>
          rw [placed] at inserted
          obtain ⟨⟨value, s''⟩, got, rest⟩ := Checked.bind_eq_ok.mp inserted
          obtain ⟨root', done, last⟩ := Checked.bind_eq_ok.mp rest
          cases last
          cases paths with
          | nil => cases length
          | cons path paths =>
              have rooted := wellFormed root (List.mem_of_getElem? placed)
              obtain ⟨wellFormed', finds⟩ :=
                MultiTrieNode.insertInternal_ok rooted (Nat.succ.inj length) done
              refine ⟨value, got, rfl, fun other listed => ?_, ?_⟩
              · rcases List.mem_or_eq_of_mem_set listed with member | rfl
                · exact wellFormed other member
                · exact wellFormed'
              · funext key
                cases key with
                | nil => simp [find]
                | cons x rest =>
                    rw [find, List.zip_cons_cons]
                    by_cases here : x.1 = index
                    · have inside : index < t.roots.length := (List.getElem?_eq_some_iff.mp placed).1
                      rw [here, List.getElem?_set_self inside, Option.bind_some, finds]
                      by_cases same : x.2 = path ∧ rest = indexes.zip paths
                      · have whole : x :: rest = (index, path) :: indexes.zip paths := by
                          rw [← here, ← same.1, ← same.2]
                        rw [if_pos same, whole, Function.update_self]
                      · have differs : x :: rest ≠ (index, path) :: indexes.zip paths := by
                          intro equal
                          cases equal
                          exact same ⟨rfl, rfl⟩
                        rw [if_neg same, Function.update_of_ne differs, find, here, placed]
                        rfl
                    · have differs : x :: rest ≠ (index, path) :: indexes.zip paths := by
                        intro equal
                        cases equal
                        exact here rfl
                      have away : index ≠ x.1 := fun equal => here equal.symm
                      rw [Function.update_of_ne differs, find, List.getElem?_set_ne away]

end MultiTrie

end P2PLending.Trie
