import P2PLending.Trie.DigitTrieIter
import Mathlib.Data.List.Lex
import Mathlib.Data.List.Pairwise

/-! A trie of digits as a finite map from paths. Insertions update the map, looking a path up
gives what the map holds along it, and the iterator lists the map in the order of the paths. -/

namespace P2PLending.Trie

open Dlc (Result Fault)

variable {T : Type}

/-! What a map of paths holds along one of them. -/

/-- The entries at the path and its beginnings, the shortest first. -/
def heldAlong (store : List ℕ → Option T) (path : List ℕ) : List (List ℕ × T) :=
  path.inits.filterMap fun q => (store q).map fun v => (q, v)

/-- The answer of a look-up that has found these. -/
def asFound (found : List (List ℕ × T)) : Option (List (List ℕ × T)) :=
  if found = [] then none else some found

theorem heldAlong_nil (store : List ℕ → Option T) :
    heldAlong store [] = (store []).toList.map fun v => ([], v) := by
  cases held : store [] with
  | none => simp [heldAlong, held]
  | some v => simp [heldAlong, held]

theorem heldAlong_cons (store : List ℕ → Option T) (x : ℕ) (rest : List ℕ) :
    heldAlong store (x :: rest) = ((store []).toList.map fun v => ([], v)) ++
      (heldAlong (fun q => store (x :: q)) rest).map fun e => (x :: e.1, e.2) := by
  have tail : (rest.inits.map fun q => x :: q).filterMap (fun q => (store q).map fun v => (q, v)) =
      (heldAlong (fun q => store (x :: q)) rest).map fun e => (x :: e.1, e.2) := by
    rw [heldAlong, List.filterMap_map, List.map_filterMap]
    refine List.filterMap_congr fun q _ => ?_
    simp [Option.map_map, Function.comp_def]
  rw [heldAlong, List.inits_cons, List.filterMap_cons, tail]
  cases held : store [] with
  | none => simp
  | some v => simp

/-- Nothing is held before the end of the first part. -/
theorem heldAlong_under {store : List ℕ → Option T} {first : List ℕ}
    (nothing : ∀ q, q <+: first → q ≠ first → store q = none) (rest : List ℕ) :
    heldAlong store (first ++ rest) =
      (heldAlong (fun q => store (first ++ q)) rest).map fun e => (first ++ e.1, e.2) := by
  induction first generalizing store with
  | nil => simp
  | cons x first ih =>
      have here : store [] = none := nothing [] List.nil_prefix (by simp)
      have later : ∀ q, q <+: first → q ≠ first → store (x :: q) = none := by
        intro q within other
        exact nothing (x :: q) (List.cons_prefix_cons.mpr ⟨rfl, within⟩) (by simpa using other)
      rw [List.cons_append, heldAlong_cons, here, ih later, List.map_map]
      rfl

theorem heldAlong_eq_nil {store : List ℕ → Option T} {path : List ℕ}
    (nothing : ∀ q, q <+: path → store q = none) : heldAlong store path = [] := by
  rw [heldAlong, List.filterMap_eq_nil_iff]
  intro q listed
  rw [nothing q ((List.mem_inits q path).mp listed)]
  rfl

theorem mem_heldAlong {store : List ℕ → Option T} {path q : List ℕ} {v : T} :
    (q, v) ∈ heldAlong store path ↔ q <+: path ∧ store q = some v := by
  rw [heldAlong, List.mem_filterMap]
  constructor
  · rintro ⟨q', listed, held⟩
    obtain ⟨v', here, same⟩ := Option.map_eq_some_iff.mp held
    cases same
    exact ⟨(List.mem_inits q path).mp listed, here⟩
  · rintro ⟨within, here⟩
    exact ⟨q, (List.mem_inits q path).mpr within, by rw [here]; rfl⟩

/-- What is held at the path itself comes last. -/
theorem heldAlong_last {store : List ℕ → Option T} {path : List ℕ} {v : T}
    (held : store path = some v) :
    ∃ before, heldAlong store path = before ++ [(path, v)] ∧ ∀ e ∈ before, e.1 ≠ path := by
  induction path generalizing store with
  | nil => exact ⟨[], by simp [heldAlong_nil, held], by simp⟩
  | cons x rest ih =>
      obtain ⟨before, along, others⟩ := @ih (fun q => store (x :: q)) held
      refine ⟨((store []).toList.map fun v => ([], v)) ++ before.map fun e => (x :: e.1, e.2),
        by simp [heldAlong_cons, along], fun e listed => ?_⟩
      rcases List.mem_append.mp listed with first | later
      · obtain ⟨_, _, rfl⟩ := List.mem_map.mp first
        simp
      · obtain ⟨e', member, rfl⟩ := List.mem_map.mp later
        simpa using others e' member

/-! Looking up. -/

def isPrefixOf (nodePrefix value : List ℕ) : Bool :=
  if nodePrefix.length > value.length then false
  else (List.range nodePrefix.length).all fun i => nodePrefix[i]? = value[i]?

theorem isPrefixOf_iff {nodePrefix value : List ℕ} :
    isPrefixOf nodePrefix value = true ↔ nodePrefix <+: value := by
  rw [List.prefix_iff_getElem?, isPrefixOf]
  split
  next longer =>
    refine iff_of_false (by simp) fun each => ?_
    have last := each value.length longer
    rw [List.getElem?_eq_none (Nat.le_refl _)] at last
    cases last
  next =>
    rw [List.all_eq_true]
    simp only [List.mem_range, decide_eq_true_eq]
    refine forall₂_congr fun i within => ?_
    rw [List.getElem?_eq_getElem within, eq_comm]

def extendLookupResPaths (found : List (List ℕ × T)) (path : List ℕ) : List (List ℕ × T) :=
  found.map fun x => (path ++ x.1, x.2)

namespace DigitNode

/-- `DigitTrie::look_up` -/
def lookUp (base : ℕ) : DigitNode T → List ℕ → Result (Option (List (List ℕ × T)))
  | .none, _ => .ok .none
  | .leaf nodePrefix data, path =>
      .ok (if nodePrefix = getCommonPrefix nodePrefix path then some [(nodePrefix, data)]
        else .none)
  | .node nodePrefix children data, path =>
      if nodePrefix.length > path.length ∨ isPrefixOf nodePrefix path = false then .ok .none
      else if nodePrefix.length = path.length then .ok (data.map fun d => [(nodePrefix, d)])
      else
        match path.drop nodePrefix.length with
        | [] => .error (.panic outOfBounds)
        | i :: suffix =>
            if i < base then do
              let res ← (children i).lookUp base (i :: suffix)
              .ok (match res, data with
                | .none, data => data.map fun d => [(nodePrefix, d)]
                | some found, .none => some (extendLookupResPaths found nodePrefix)
                | some found, some d =>
                    some ((nodePrefix, d) :: extendLookupResPaths found nodePrefix))
            else .error (.panic outOfBounds)

/-- Where the path goes on below a node, its next digit has a place there. -/
def Within (base : ℕ) : DigitNode T → List ℕ → Prop
  | .none, _ | .leaf _ _, _ => True
  | .node nodePrefix children _, path =>
      nodePrefix <+: path → ∀ i suffix, path.drop nodePrefix.length = i :: suffix →
        i < base ∧ (children i).Within base (i :: suffix)

variable {base : ℕ} {t : DigitNode T} {path : List ℕ}

theorem getCommonPrefix_eq_iff {nodePrefix path : List ℕ} :
    nodePrefix = getCommonPrefix nodePrefix path ↔ nodePrefix <+: path := by
  rcases paths_cases nodePrefix path with
    rfl | ⟨i, s, rfl⟩ | ⟨i, s, rfl⟩ | ⟨c, x, y, s, u, differ, rfl, rfl⟩
  · have self := getCommonPrefix_self_append nodePrefix []
    rw [List.append_nil] at self
    exact iff_of_true self.symm (List.prefix_refl _)
  · exact iff_of_true (getCommonPrefix_self_append nodePrefix (i :: s)).symm
      (List.prefix_append _ _)
  · rw [getCommonPrefix_append_self]
    refine iff_of_false (by simp) fun within => ?_
    have shorter := within.length_le
    simp at shorter
  · rw [getCommonPrefix_apart c differ]
    refine iff_of_false (by simp) fun within => ?_
    rw [List.prefix_append_right_inj, List.cons_prefix_cons] at within
    exact differ within.1

theorem heldAlong_leaf (nodePrefix : List ℕ) (data : T) (path : List ℕ) :
    heldAlong (DigitNode.leaf nodePrefix data).find path =
      if nodePrefix <+: path then [(nodePrefix, data)] else [] := by
  split
  next within =>
    obtain ⟨rest, rfl⟩ := within
    have before : ∀ q, q <+: nodePrefix → q ≠ nodePrefix →
        (DigitNode.leaf nodePrefix data).find q = .none := fun q _ other => if_neg other
    rw [heldAlong_under before]
    cases rest with
    | nil => simp [heldAlong_nil, find]
    | cons x rest =>
        have nothing : heldAlong (fun q => (DigitNode.leaf nodePrefix data).find
            (nodePrefix ++ x :: q)) rest = [] := by
          refine heldAlong_eq_nil fun q _ => if_neg ?_
          simp
        rw [heldAlong_cons, nothing]
        simp [find]
  next apart =>
    refine heldAlong_eq_nil fun q within => if_neg fun same => apart ?_
    exact same ▸ within

section Node
variable {nodePrefix : List ℕ} {children : ℕ → DigitNode T} {data : Option T}

theorem heldAlong_node_apart (apart : ¬ nodePrefix <+: path) :
    heldAlong (DigitNode.node nodePrefix children data).find path = [] :=
  heldAlong_eq_nil fun _ within => find_node_apart fun longer => apart (longer.trans within)

theorem find_before (q : List ℕ) (within : q <+: nodePrefix) (other : q ≠ nodePrefix) :
    (DigitNode.node nodePrefix children data).find q = .none :=
  find_node_apart fun longer => other (within.eq_of_length_le longer.length_le)

theorem heldAlong_node_self :
    heldAlong (DigitNode.node nodePrefix children data).find nodePrefix =
      data.toList.map fun d => (nodePrefix, d) := by
  have split := heldAlong_under (@find_before _ nodePrefix children data) []
  rw [List.append_nil] at split
  rw [split, heldAlong_nil, List.append_nil, find_node_self, List.map_map]
  simp [Function.comp_def]

theorem heldAlong_node_below {i : ℕ} {suffix : List ℕ} (starts : (children i).StartsWith i) :
    heldAlong (DigitNode.node nodePrefix children data).find (nodePrefix ++ i :: suffix) =
      (data.toList.map fun d => (nodePrefix, d)) ++
        extendLookupResPaths (heldAlong (children i).find (i :: suffix)) nodePrefix := by
  have empty : (children i).find [] = .none := starts.find_none (by simp)
  have below : (fun q => (DigitNode.node nodePrefix children data).find (nodePrefix ++ i :: q)) =
      fun q => (children i).find (i :: q) := funext fun q => find_node_below ..
  rw [heldAlong_under find_before, heldAlong_cons, below, List.append_nil, find_node_self,
    heldAlong_cons, empty, extendLookupResPaths]
  simp [Function.comp_def]

end Node

/-- By induction on the trie, as it is looked through. -/
theorem lookUp_within (wellFormed : t.WellFormed base) (within : t.Within base path) :
    t.lookUp base path = .ok (asFound (heldAlong t.find path)) := by
  induction t generalizing path with
  | none =>
      have nothing : heldAlong (DigitNode.none : DigitNode T).find path = [] :=
        heldAlong_eq_nil fun _ _ => rfl
      rw [nothing]
      rfl
  | leaf nodePrefix data =>
      rw [lookUp, heldAlong_leaf]
      simp only [getCommonPrefix_eq_iff]
      split
      next => rfl
      next => rfl
  | node nodePrefix children data ih =>
      rw [lookUp]
      by_cases goesOn : nodePrefix <+: path
      · obtain ⟨rest, rfl⟩ := goesOn
        have found : isPrefixOf nodePrefix (nodePrefix ++ rest) = true :=
          isPrefixOf_iff.mpr (List.prefix_append _ _)
        rw [if_neg (by simp [found])]
        cases rest with
        | nil =>
            rw [List.append_nil, if_pos rfl, heldAlong_node_self]
            cases data with
            | none => rfl
            | some d => rfl
        | cons i suffix =>
            rw [if_neg (by simp), List.drop_left]
            obtain ⟨digit, below⟩ := within (List.prefix_append _ _) i suffix (List.drop_left ..)
            obtain ⟨inner, starts, _⟩ := wellFormed.2 i
            dsimp only
            rw [if_pos digit, ih i inner below, heldAlong_node_below starts, Checked.ok_bind]
            cases heldAlong (children i).find (i :: suffix) with
            | nil =>
                cases data with
                | none => rfl
                | some d => rfl
            | cons e found =>
                cases data with
                | none => rfl
                | some d => rfl
      · have apart : isPrefixOf nodePrefix path = false := by
          rw [← Bool.not_eq_true, isPrefixOf_iff]
          exact goesOn
        rw [if_pos (.inr apart), heldAlong_node_apart goesOn]
        rfl

theorem lookUp_beyond (beyond : ¬ t.Within base path) :
    t.lookUp base path = .error (.panic outOfBounds) := by
  induction t generalizing path with
  | none => exact absurd trivial beyond
  | leaf nodePrefix data => exact absurd trivial beyond
  | node nodePrefix children data ih =>
      rw [Within] at beyond
      push Not at beyond
      obtain ⟨goesOn, i, suffix, rest, outside⟩ := beyond
      obtain ⟨_, rfl⟩ := goesOn
      rw [List.drop_left] at rest
      subst rest
      have found : isPrefixOf nodePrefix (nodePrefix ++ i :: suffix) = true :=
        isPrefixOf_iff.mpr (List.prefix_append _ _)
      rw [lookUp, if_neg (by simp [found]), if_neg (by simp), List.drop_left]
      dsimp only
      split
      next digit => rw [ih i (outside digit), Checked.error_bind]
      next => rfl

/-- A look-up gives what the trie holds along the path exactly when its digits have a place. -/
theorem lookUp_iff (wellFormed : t.WellFormed base) :
    t.lookUp base path = .ok (asFound (heldAlong t.find path)) ↔ t.Within base path := by
  refine ⟨fun answered => ?_, lookUp_within wellFormed⟩
  by_contra beyond
  rw [lookUp_beyond beyond] at answered
  cases answered

/-- Digits of the base have a place everywhere. -/
theorem within_of_digits (digits : ∀ x ∈ path, x < base) : t.Within base path := by
  induction t generalizing path with
  | none => trivial
  | leaf nodePrefix data => trivial
  | node nodePrefix children data ih =>
      intro _ i suffix rest
      have later : ∀ x ∈ i :: suffix, x < base := by
        intro x listed
        rw [← rest] at listed
        exact digits x (List.mem_of_mem_drop listed)
      exact ⟨later i List.mem_cons_self, ih i later⟩

/-! The order of the entries. -/

theorem entries_within {above : List ℕ} {entry : List ℕ × T} (wellFormed : t.WellFormed base)
    (listed : entry ∈ t.entries base above) : ∃ rest, entry.1 = above ++ rest ∧
      t.find rest = some entry.2 := by
  rw [entries_above, List.mem_map] at listed
  obtain ⟨inner, member, rfl⟩ := listed
  exact ⟨inner.1, rfl, ((entries_lists wellFormed).mem_iff inner.1 inner.2).mp member⟩

/-- A path comes before those that go on from it, and these come in the order of their digits. -/
theorem entries_sorted (wellFormed : t.WellFormed base) (above : List ℕ) :
    (t.entries base above).Pairwise fun x y => List.Lex (· < ·) x.1 y.1 := by
  induction t generalizing above with
  | none => exact List.Pairwise.nil
  | leaf nodePrefix data => exact List.pairwise_singleton _ _
  | node nodePrefix children data ih =>
      have child : ∀ i entry, entry ∈ (children i).entries base (above ++ nodePrefix) →
          ∃ rest, entry.1 = above ++ nodePrefix ++ i :: rest := by
        intro i entry listed
        obtain ⟨rest, path, held⟩ := entries_within (wellFormed.2 i).1 listed
        have head := (wellFormed.2 i).2.1.head held
        cases rest with
        | nil => cases head
        | cons j rest =>
            cases head
            exact ⟨rest, path⟩
      rw [entries, List.pairwise_append, List.pairwise_flatMap]
      refine ⟨?_, ⟨fun i _ => ih i (wellFormed.2 i).1 _, ?_⟩, ?_⟩
      · cases data with
        | none => exact List.Pairwise.nil
        | some d => exact List.pairwise_singleton _ _
      · refine List.pairwise_lt_range.imp ?_
        intro i j earlier x first y second
        obtain ⟨rest, path⟩ := child i x first
        obtain ⟨rest', path'⟩ := child j y second
        rw [path, path']
        exact List.Lex.append_left _ (.rel earlier) _
      · intro x here y later
        obtain ⟨d, _, rfl⟩ := List.mem_map.mp here
        obtain ⟨i, _, listed⟩ := List.mem_flatMap.mp later
        obtain ⟨rest, path⟩ := child i y listed
        rw [path]
        have longer := List.Lex.append_left (fun a b : ℕ => a < b)
          (.nil : List.Lex (fun a b : ℕ => a < b) [] (i :: rest)) (above ++ nodePrefix)
        rwa [List.append_nil] at longer

/-! Insertions of paths of the base. -/

/-- All digits of the parts of paths are digits of the base. -/
def InBase (base : ℕ) : DigitNode T → Prop
  | .none => True
  | .leaf nodePrefix _ => ∀ x ∈ nodePrefix, x < base
  | .node nodePrefix children _ => (∀ x ∈ nodePrefix, x < base) ∧ ∀ i, (children i).InBase base

theorem inBase_update {children : ℕ → DigitNode T} {i : ℕ} {child : DigitNode T}
    (before : ∀ j, (children j).InBase base) (new : child.InBase base) (j : ℕ) :
    (Function.update children i child j).InBase base := by
  by_cases same : j = i
  · rw [same, Function.update_self]
    exact new
  · rw [Function.update_of_ne same]
    exact before j

variable {t' : DigitNode T} {getData : Option T → Result T}

theorem splitAbove_total (given : ∃ value, getData .none = .ok value)
    {current : List ℕ → DigitNode T} {nodePrefix : List ℕ}
    (inBase : ∀ below, (∀ x ∈ below, x < base) → (current below).InBase base)
    (digits : ∀ x ∈ nodePrefix, x < base) (digits' : ∀ x ∈ path, x < base)
    (leaves : ¬ nodePrefix <+: path) :
    ∃ t', splitAbove base getData current nodePrefix path = .ok t' ∧ t'.InBase base := by
  obtain ⟨value, got⟩ := given
  rcases paths_cases nodePrefix path with
    rfl | ⟨i, s, rfl⟩ | ⟨i, s, rfl⟩ | ⟨c, x, y, s, u, differ, rfl, rfl⟩
  · exact absurd (List.prefix_refl _) leaves
  · exact absurd (List.prefix_append _ _) leaves
  · have inside : i < base := digits i (by simp)
    have below : (current (i :: s)).InBase base :=
      inBase _ fun x listed => digits x (List.mem_append_right _ listed)
    refine ⟨.node path (Function.update (fun _ => .none) i (current (i :: s))) (some value), ?_,
      digits', inBase_update (fun _ => trivial) below⟩
    rw [splitAbove, getCommonPrefix_append_self, List.drop_left, got, Checked.ok_bind, if_pos rfl,
      place_eq_ok.mpr ⟨inside, rfl⟩]
    rfl
  · have insideX : x < base := digits x (by simp)
    have insideY : y < base := digits' y (by simp)
    have below : (current (x :: s)).InBase base :=
      inBase _ fun z listed => digits z (List.mem_append_right _ listed)
    have new : (DigitNode.leaf (y :: u) value).InBase base :=
      fun z listed => digits' z (List.mem_append_right _ listed)
    refine ⟨.node c (Function.update (Function.update (fun _ => .none) y (.leaf (y :: u) value)) x
      (current (x :: s))) .none, ?_, fun z listed => digits z (List.mem_append_left _ listed),
      inBase_update (inBase_update (fun _ => trivial) new) below⟩
    rw [splitAbove, getCommonPrefix_apart c differ, List.drop_left, List.drop_left, got,
      Checked.ok_bind, if_neg (by simp), place_eq_ok.mpr ⟨insideY, rfl⟩, Checked.ok_bind,
      place_eq_ok.mpr ⟨insideX, rfl⟩]
    rfl

/-- By induction on the trie: a path of digits is let in when the callback gives a value for what
is held there. -/
theorem insertInternal_total (given : ∃ value, getData (t.find path) = .ok value)
    (inBase : t.InBase base) (digits : ∀ x ∈ path, x < base) :
    ∃ t', insertInternal base getData t path = .ok t' ∧ t'.InBase base := by
  induction t generalizing path with
  | none =>
      obtain ⟨value, got⟩ := given
      rw [find] at got
      exact ⟨.leaf path value, by rw [insertInternal, got]; rfl, digits⟩
  | leaf nodePrefix data =>
      rw [insertInternal]
      by_cases same : nodePrefix = path
      · obtain ⟨value, got⟩ := given
        rw [find, if_pos same.symm] at got
        rw [if_pos same, got]
        exact ⟨_, rfl, inBase⟩
      · rw [find, if_neg fun equal => same equal.symm] at given
        rw [if_neg same]
        by_cases goesOn : nodePrefix <+: path
        · rw [if_pos (getCommonPrefix_eq_iff.mpr goesOn)]
          obtain ⟨rest, rfl⟩ := goesOn
          obtain ⟨value, got⟩ := given
          cases rest with
          | nil => exact absurd (List.append_nil nodePrefix).symm same
          | cons i suffix =>
              have inside : i < base := digits i (by simp)
              have new : (DigitNode.leaf (i :: suffix) value).InBase base :=
                fun x listed => digits x (List.mem_append_right _ listed)
              rw [List.drop_left, got, Checked.ok_bind, place_eq_ok.mpr ⟨inside, rfl⟩]
              exact ⟨_, rfl, inBase, inBase_update (fun _ => trivial) new⟩
        · rw [if_neg fun whole => goesOn (getCommonPrefix_eq_iff.mp whole)]
          exact splitAbove_total given (fun _ below => below) inBase digits goesOn
  | node nodePrefix children data ih =>
      rw [insertInternal]
      by_cases same : nodePrefix = path
      · obtain ⟨value, got⟩ := given
        rw [← same, find_node_self] at got
        rw [if_pos same, got]
        exact ⟨_, rfl, inBase⟩
      · rw [if_neg same]
        by_cases goesOn : nodePrefix <+: path
        · rw [if_pos (getCommonPrefix_eq_iff.mpr goesOn)]
          obtain ⟨rest, rfl⟩ := goesOn
          cases rest with
          | nil => exact absurd (List.append_nil nodePrefix).symm same
          | cons i suffix =>
              have inside : i < base := digits i (by simp)
              rw [find_node_below] at given
              obtain ⟨child, inserted, new⟩ := ih i given (inBase.2 i)
                fun x listed => digits x (List.mem_append_right _ listed)
              rw [List.drop_left]
              dsimp only
              rw [if_pos inside, inserted]
              exact ⟨_, rfl, inBase.1, inBase_update inBase.2 new⟩
        · rw [find_node_apart goesOn] at given
          rw [if_neg fun whole => goesOn (getCommonPrefix_eq_iff.mp whole)]
          exact splitAbove_total given (fun _ below => ⟨below, inBase.2⟩) inBase.1 digits goesOn

theorem insert_ne_nil (inserted : insert base t path getData = .ok t') : path ≠ [] := by
  rintro rfl
  rw [insert, if_pos (Or.inl rfl)] at inserted
  cases inserted

/-- Only the empty path is refused. -/
theorem insert_given (given : ∃ value, getData (t.find path) = .ok value) (inBase : t.InBase base)
    (digits : ∀ x ∈ path, x < base) (some : path ≠ []) :
    ∃ t', insert base t path getData = .ok t' ∧ t'.InBase base := by
  have accepted : ¬ (path = [] ∨ ∃ x ∈ path, base < x) := by
    rintro (none | ⟨x, listed, past⟩)
    · exact some none
    · exact absurd (digits x listed) (by omega)
  rw [insert, if_neg accepted]
  exact insertInternal_total given inBase digits

theorem insert_inBase (wellFormed : t.WellFormed base) (inBase : t.InBase base)
    (digits : ∀ x ∈ path, x < base) (inserted : insert base t path getData = .ok t') :
    t'.InBase base := by
  obtain ⟨value, got, _⟩ := insert_ok wellFormed inserted
  obtain ⟨t'', inserted', inBase'⟩ :=
    insert_given ⟨value, got⟩ inBase digits (insert_ne_nil inserted)
  rw [inserted, Except.ok.injEq] at inserted'
  exact inserted' ▸ inBase'

/-- A path with the callback for what is stored there. -/
abbrev Insertion (T : Type) := List ℕ × (Option T → Result T)

/-- A path of digits of the base, and a callback that gives a value. -/
structure Insertion.Valid (base : ℕ) (x : Insertion T) : Prop where
  some : x.1 ≠ []
  digits : ∀ digit ∈ x.1, digit < base
  total : ∀ held, ∃ value, x.2 held = .ok value

def insertAll (base : ℕ) (root : DigitNode T) (insertions : List (Insertion T)) :
    Result (DigitNode T) :=
  insertions.foldlM (fun root x => insert base root x.1 x.2) root

/-- The map after the insertions: at each path the value that its callback stored last. -/
def stored (map : List ℕ → Option T) (insertions : List (Insertion T)) :
    Result (List ℕ → Option T) :=
  insertions.foldlM (fun map x => do
    let value ← x.2 (map x.1)
    .ok (Function.update map x.1 (some value))) map

theorem insert_total {x : Insertion T} (valid : x.Valid base) (inBase : t.InBase base) :
    ∃ t', insert base t x.1 x.2 = .ok t' ∧ t'.InBase base :=
  insert_given (valid.total _) inBase valid.digits valid.some

/-- Insertion by insertion, the trie holds what the map does. -/
theorem insertAll_stored {insertions : List (Insertion T)}
    (valid : ∀ x ∈ insertions, Insertion.Valid base x) (wellFormed : t.WellFormed base)
    (inBase : t.InBase base) :
    ∃ t', insertAll base t insertions = .ok t' ∧ t'.WellFormed base ∧
      stored t.find insertions = .ok t'.find := by
  induction insertions generalizing t with
  | nil => exact ⟨t, rfl, wellFormed, rfl⟩
  | cons x insertions ih =>
      rw [List.forall_mem_cons] at valid
      obtain ⟨middle, inserted, inBase'⟩ := insert_total valid.1 inBase
      obtain ⟨value, got, done⟩ := insert_ok wellFormed inserted
      obtain ⟨t', rest, wellFormed', held⟩ := ih valid.2 done.wellFormed inBase'
      refine ⟨t', ?_, wellFormed', ?_⟩
      · rw [insertAll, List.foldlM_cons, inserted, Checked.ok_bind]
        exact rest
      · rw [stored, List.foldlM_cons, got, Checked.ok_bind, Checked.ok_bind, ← done.find_eq]
        exact held

/-- After insertions of paths of the base a trie is the map of what was stored: the iterator lists
it in the order of the paths, and looking up a path gives what it holds along that path exactly
when the digits of the path have a place where the trie branches. -/
theorem digit_trie_refines_iff {insertions : List (Insertion T)}
    (valid : ∀ x ∈ insertions, Insertion.Valid base x) :
    ∃ root map, insertAll base .none insertions = .ok root ∧
      stored (fun _ => .none) insertions = .ok map ∧
      (∀ path, root.lookUp base path = .ok (asFound (heldAlong map path)) ↔
        root.Within base path) ∧
      ∃ items, Drains (DigitTrieIter.next base) (DigitTrieIter.new root) items ∧
        Lists map items ∧ items.Pairwise fun x y => List.Lex (· < ·) x.1 y.1 := by
  obtain ⟨root, inserted, wellFormed, held⟩ := @insertAll_stored T base .none insertions valid
    trivial trivial
  exact ⟨root, root.find, inserted, held, fun _ => lookUp_iff wellFormed, root.entries base [],
    (DigitTrieIter.gives_entries wellFormed).drains, entries_lists wellFormed,
    entries_sorted wellFormed []⟩

/-- Two paths of base five. -/
def sampleInsertions : List (Insertion ℕ) := [([0, 1, 2], fun _ => .ok 1), ([1, 2, 3], fun _ => .ok 2)]

theorem digit_trie_refines_sample :
    ∃ root map, insertAll 5 .none sampleInsertions = .ok root ∧
      stored (fun _ => .none) sampleInsertions = .ok map ∧
      (∀ path, root.lookUp 5 path = .ok (asFound (heldAlong map path)) ↔ root.Within 5 path) ∧
      ∃ items, Drains (DigitTrieIter.next 5) (DigitTrieIter.new root) items ∧
        Lists map items ∧ items.Pairwise fun x y => List.Lex (· < ·) x.1 y.1 := by
  refine digit_trie_refines_iff fun x listed => ?_
  simp only [sampleInsertions, List.mem_cons, List.not_mem_nil, or_false] at listed
  rcases listed with rfl | rfl
  · exact ⟨by simp, by simp, fun _ => ⟨1, rfl⟩⟩
  · exact ⟨by simp, by simp, fun _ => ⟨2, rfl⟩⟩

/-- Nothing is held along the path of digit five, which has no place at the root. -/
theorem lookUp_digit_past_base :
    (do let root ← insertAll 5 .none sampleInsertions
        root.lookUp 5 [5]) = .error (.panic outOfBounds) ∧
      (do let map ← stored (fun _ => .none) sampleInsertions
          .ok (heldAlong map [5]) : Result (List (List ℕ × ℕ))) = .ok [] := by
  exact ⟨by decide +kernel, by decide +kernel⟩

end DigitNode

end P2PLending.Trie
