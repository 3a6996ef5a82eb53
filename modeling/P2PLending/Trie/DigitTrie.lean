import P2PLending.Dlc.Transactions
import P2PLending.Foundation.KeyedWrites
import Mathlib.Data.List.Infix

/-! Tries over the digits of an outcome. A node holds the part of the path that all below it
share; that of a child starts with the digit of its place. The nodes of the source refer to each
other by their place in an arena, each from one other node or from the root; here they hold each
other. -/

namespace P2PLending.Trie

open Dlc (Result Fault)

variable {T : Type}

inductive DigitNode (T : Type)
  | none
  | leaf (nodePrefix : List ℕ) (data : T)
  | node (nodePrefix : List ℕ) (children : ℕ → DigitNode T) (data : Option T)

def getCommonPrefix (a b : List ℕ) : List ℕ :=
  ((a.zip b).takeWhile fun x => x.1 = x.2).map Prod.fst

def outOfBounds : String := "index out of bounds"

namespace DigitNode

/-- `children[suffix[0]] = child`, in an array of as many children as there are digits. -/
def place (base : ℕ) (children : ℕ → DigitNode T) (suffix : List ℕ) (child : DigitNode T) :
    Result (ℕ → DigitNode T) :=
  match suffix with
  | [] => .error (.panic outOfBounds)
  | i :: _ =>
      if i < base then .ok (Function.update children i child) else .error (.panic outOfBounds)

/-- A node above the current one, for a path that leaves it within its part of the path. -/
def splitAbove (base : ℕ) (getData : Option T → Result T) (current : List ℕ → DigitNode T)
    (nodePrefix path : List ℕ) : Result (DigitNode T) := do
  let commonPrefix := getCommonPrefix nodePrefix path
  let suffix := path.drop commonPrefix.length
  let below := nodePrefix.drop commonPrefix.length
  let value ← getData .none
  if path = commonPrefix then
    let children ← place base (fun _ => .none) below (current below)
    return .node commonPrefix children (some value)
  else
    let children ← place base (fun _ => .none) suffix (.leaf suffix value)
    let children ← place base children below (current below)
    return .node commonPrefix children .none

def insertInternal (base : ℕ) (getData : Option T → Result T) :
    DigitNode T → List ℕ → Result (DigitNode T)
  | .none, path => do return .leaf path (← getData .none)
  | .leaf nodePrefix data, path =>
      if nodePrefix = path then do return .leaf nodePrefix (← getData (some data))
      else if nodePrefix = getCommonPrefix nodePrefix path then do
        let suffix := path.drop nodePrefix.length
        let value ← getData .none
        let children ← place base (fun _ => .none) suffix (.leaf suffix value)
        return .node nodePrefix children (some data)
      else splitAbove base getData (fun below => .leaf below data) nodePrefix path
  | .node nodePrefix children data, path =>
      if nodePrefix = path then do return .node nodePrefix children (some (← getData data))
      else if nodePrefix = getCommonPrefix nodePrefix path then
        match path.drop nodePrefix.length with
        | [] => .error (.panic outOfBounds)
        | i :: suffix =>
            if i < base then do
              let child ← insertInternal base getData (children i) (i :: suffix)
              return .node nodePrefix (Function.update children i child) data
            else .error (.panic outOfBounds)
      else splitAbove base getData (fun below => .node below children data) nodePrefix path

/-- `DigitTrie::insert` -/
def insert (base : ℕ) (root : DigitNode T) (path : List ℕ) (getData : Option T → Result T) :
    Result (DigitNode T) :=
  if path = [] ∨ ∃ x ∈ path, base < x then .error (.panic "Invalid path")
  else insertInternal base getData root path

/-- What a trie holds at a path. -/
def find : DigitNode T → List ℕ → Option T
  | .none, _ => .none
  | .leaf nodePrefix data, path => if path = nodePrefix then some data else .none
  | .node nodePrefix children data, path =>
      if nodePrefix <+: path then
        match path.drop nodePrefix.length with
        | [] => data
        | i :: suffix => (children i).find (i :: suffix)
      else .none

/-- What a trie holds, a node before its children and these in the order of their digits. -/
def entries (base : ℕ) : List ℕ → DigitNode T → List (List ℕ × T)
  | _, .none => []
  | above, .leaf nodePrefix data => [(above ++ nodePrefix, data)]
  | above, .node nodePrefix children data =>
      (data.toList.map fun d => (above ++ nodePrefix, d)) ++
        (List.range base).flatMap fun i => (children i).entries base (above ++ nodePrefix)

/-- A node in the place of a digit has a path that starts with it. -/
def StartsWith (i : ℕ) : DigitNode T → Prop
  | .none => True
  | .leaf nodePrefix _ | .node nodePrefix _ _ => ∃ below, nodePrefix = i :: below

/-- Each child starts with the digit of its place, and there is none past the last digit. -/
def WellFormed (base : ℕ) : DigitNode T → Prop
  | .none | .leaf _ _ => True
  | .node _ children _ =>
      0 < base ∧ ∀ i, (children i).WellFormed base ∧ (children i).StartsWith i ∧
        (base ≤ i → children i = .none)

theorem find_node_self (nodePrefix : List ℕ) (children : ℕ → DigitNode T) (data : Option T) :
    (DigitNode.node nodePrefix children data).find nodePrefix = data := by
  rw [find, if_pos (List.prefix_refl _), List.drop_length]

theorem find_node_below (nodePrefix : List ℕ) (children : ℕ → DigitNode T) (data : Option T)
    (i : ℕ) (suffix : List ℕ) :
    (DigitNode.node nodePrefix children data).find (nodePrefix ++ i :: suffix) =
      (children i).find (i :: suffix) := by
  rw [find, if_pos (List.prefix_append _ _), List.drop_left]

theorem find_node_apart {nodePrefix path : List ℕ} {children : ℕ → DigitNode T} {data : Option T}
    (apart : ¬ nodePrefix <+: path) :
    (DigitNode.node nodePrefix children data).find path = .none := by
  rw [find, if_neg apart]

/-- A node holds nothing at a path that does not start with its digit. -/
theorem StartsWith.find_none {t : DigitNode T} {i : ℕ} (starts : t.StartsWith i)
    {path : List ℕ} (other : path.head? ≠ some i) : t.find path = .none := by
  cases t with
  | none => rfl
  | leaf nodePrefix data =>
      obtain ⟨below, rfl⟩ := starts
      refine if_neg fun same => other ?_
      rw [same, List.head?_cons]
  | node nodePrefix children data =>
      obtain ⟨below, rfl⟩ := starts
      refine find_node_apart fun within => other ?_
      obtain ⟨rest, rfl⟩ := within
      rfl

end DigitNode

/-! The common prefix of two paths. -/

theorem getCommonPrefix_self_append (a b : List ℕ) : getCommonPrefix a (a ++ b) = a := by
  induction a with
  | nil => rfl
  | cons x a ih =>
      have tail := congrArg (x :: ·) ih
      simpa [getCommonPrefix] using tail

theorem getCommonPrefix_append_self (a b : List ℕ) : getCommonPrefix (a ++ b) a = a := by
  induction a with
  | nil => cases b <;> rfl
  | cons x a ih =>
      have tail := congrArg (x :: ·) ih
      simpa [getCommonPrefix] using tail

theorem getCommonPrefix_apart (c : List ℕ) {x y : ℕ} (differ : x ≠ y) (a b : List ℕ) :
    getCommonPrefix (c ++ x :: a) (c ++ y :: b) = c := by
  induction c with
  | nil => simp [getCommonPrefix, differ]
  | cons z c ih =>
      have tail := congrArg (z :: ·) ih
      simpa [getCommonPrefix] using tail

/-- Two paths are the same, or one goes on where the other ends, or they part. -/
theorem paths_cases (a b : List ℕ) :
    a = b ∨ (∃ i s, b = a ++ i :: s) ∨ (∃ i s, a = b ++ i :: s) ∨
      ∃ c x y s t, x ≠ y ∧ a = c ++ x :: s ∧ b = c ++ y :: t := by
  induction a generalizing b with
  | nil =>
      cases b with
      | nil => exact Or.inl rfl
      | cons i s => exact Or.inr (Or.inl ⟨i, s, rfl⟩)
  | cons x a ih =>
      cases b with
      | nil => exact Or.inr (Or.inr (Or.inl ⟨x, a, rfl⟩))
      | cons y b =>
          by_cases same : x = y
          · subst same
            rcases ih b with rfl | ⟨i, s, rfl⟩ | ⟨i, s, rfl⟩ | ⟨c, u, v, s, t, differ, rfl, rfl⟩
            · exact Or.inl rfl
            · exact Or.inr (Or.inl ⟨i, s, rfl⟩)
            · exact Or.inr (Or.inr (Or.inl ⟨i, s, rfl⟩))
            · exact Or.inr (Or.inr (Or.inr ⟨x :: c, u, v, s, t, differ, rfl, rfl⟩))
          · exact Or.inr (Or.inr (Or.inr ⟨[], x, y, a, b, same, rfl, rfl⟩))

namespace DigitNode

/-- A node whose part of the path can be cut in front. -/
structure Shifts (current : List ℕ → DigitNode T) : Prop where
  within : ∀ c below path, (current (c ++ below)).find (c ++ path) = (current below).find path
  apart : ∀ c below {path}, ¬ c <+: path → (current (c ++ below)).find path = .none
  starts : ∀ i below, (current (i :: below)).StartsWith i
  digit : ∀ i j below, (current (i :: below)).StartsWith j → i = j

theorem leaf_shifts (data : T) : Shifts fun below => .leaf below data where
  within c below path := by simp [find]
  apart c below path apart := by
    refine if_neg fun same => apart ?_
    rw [same]
    exact List.prefix_append c below
  starts i below := ⟨below, rfl⟩
  digit i j below starts := by
    obtain ⟨_, same⟩ := starts
    exact (List.cons.inj same).1

theorem node_shifts (children : ℕ → DigitNode T) (data : Option T) :
    Shifts fun below => .node below children data where
  within c below path := by
    rw [find, find]
    by_cases inner : below <+: path
    · have both : c ++ below <+: c ++ path := (List.prefix_append_right_inj c).mpr inner
      rw [if_pos inner, if_pos both, List.length_append, ← List.drop_drop, List.drop_left]
    · have both : ¬ c ++ below <+: c ++ path :=
        fun within => inner ((List.prefix_append_right_inj c).mp within)
      rw [if_neg inner, if_neg both]
  apart c below path apart :=
    find_node_apart fun within => apart ((List.prefix_append c below).trans within)
  starts i below := ⟨below, rfl⟩
  digit i j below starts := by
    obtain ⟨_, same⟩ := starts
    exact (List.cons.inj same).1

theorem place_eq_ok {base i : ℕ} {children children' : ℕ → DigitNode T} {suffix : List ℕ}
    {child : DigitNode T} :
    place base children (i :: suffix) child = .ok children' ↔
      i < base ∧ Function.update children i child = children' := by
  rw [place]
  split
  next inside => simp [inside]
  next outside => simp [outside]

/-- What an insertion has done: the path holds the value, the others what they held. -/
structure Inserted (base : ℕ) (before : DigitNode T) (path : List ℕ) (value : T)
    (after : DigitNode T) : Prop where
  find_eq : after.find = Function.update before.find path (some value)
  wellFormed : after.WellFormed base
  starts : ∀ i, before.StartsWith i → path.head? = some i → after.StartsWith i

theorem wellFormed_update {base i : ℕ} {children : ℕ → DigitNode T} {child : DigitNode T}
    (before : ∀ j, (children j).WellFormed base ∧ (children j).StartsWith j ∧
      (base ≤ j → children j = .none))
    (inside : i < base) (wellFormed : child.WellFormed base) (starts : child.StartsWith i) (j : ℕ) :
    (Function.update children i child j).WellFormed base ∧
      (Function.update children i child j).StartsWith j ∧
      (base ≤ j → Function.update children i child j = .none) := by
  by_cases same : j = i
  · subst same
    rw [Function.update_self]
    exact ⟨wellFormed, starts, fun past => absurd inside (Nat.not_lt.mpr past)⟩
  · rw [Function.update_of_ne same]
    exact before j

theorem wellFormed_no_children (base j : ℕ) :
    (DigitNode.none : DigitNode T).WellFormed base ∧ (DigitNode.none : DigitNode T).StartsWith j ∧
      (base ≤ j → (DigitNode.none : DigitNode T) = .none) :=
  ⟨trivial, trivial, fun _ => rfl⟩

variable {base : ℕ} {getData : Option T → Result T} {t t' : DigitNode T} {path : List ℕ}

theorem leaf_inserted (nodePrefix : List ℕ) (data : T) {i : ℕ} {suffix : List ℕ} {value : T}
    (inside : i < base) :
    Inserted base (.leaf nodePrefix data) (nodePrefix ++ i :: suffix) value
      (.node nodePrefix (Function.update (fun _ => .none) i (.leaf (i :: suffix) value))
        (some data)) where
  find_eq := by
    funext q
    by_cases within : nodePrefix <+: q
    · obtain ⟨rest, rfl⟩ := within
      cases rest with
      | nil => simp [find_node_self, find]
      | cons j rest =>
          rw [find_node_below]
          by_cases same : j = i
          · subst same
            by_cases whole : rest = suffix
            · subst whole
              simp [find]
            · simp [find, whole]
          · simp [find, same]
    · have differs : q ≠ nodePrefix ++ i :: suffix := by
        rintro rfl
        exact within (List.prefix_append _ _)
      have other : q ≠ nodePrefix := by
        rintro rfl
        exact within (List.prefix_refl _)
      rw [find_node_apart within, Function.update_of_ne differs, find, if_neg other]
  wellFormed := ⟨Nat.zero_lt_of_lt inside,
    wellFormed_update (wellFormed_no_children base) inside trivial ⟨suffix, rfl⟩⟩
  starts _ starts _ := starts

theorem below_inserted {nodePrefix : List ℕ} {children : ℕ → DigitNode T} {data : Option T}
    {i : ℕ} {suffix : List ℕ} {value : T} {child : DigitNode T} (inside : i < base)
    (wellFormed : (DigitNode.node nodePrefix children data).WellFormed base)
    (inserted : Inserted base (children i) (i :: suffix) value child) :
    Inserted base (.node nodePrefix children data) (nodePrefix ++ i :: suffix) value
      (.node nodePrefix (Function.update children i child) data) where
  find_eq := by
    funext q
    by_cases within : nodePrefix <+: q
    · obtain ⟨rest, rfl⟩ := within
      cases rest with
      | nil => simp [find_node_self]
      | cons j rest =>
          rw [find_node_below]
          by_cases same : j = i
          · subst same
            rw [Function.update_self, inserted.find_eq]
            by_cases whole : rest = suffix
            · subst whole
              simp
            · have differs : j :: rest ≠ j :: suffix := by simp [whole]
              have differs' : nodePrefix ++ j :: rest ≠ nodePrefix ++ j :: suffix := by simp [whole]
              rw [Function.update_of_ne differs, Function.update_of_ne differs', find_node_below]
          · have differs : nodePrefix ++ j :: rest ≠ nodePrefix ++ i :: suffix := by simp [same]
            rw [Function.update_of_ne same, Function.update_of_ne differs, find_node_below]
    · have differs : q ≠ nodePrefix ++ i :: suffix := by
        rintro rfl
        exact within (List.prefix_append _ _)
      rw [find_node_apart within, Function.update_of_ne differs, find_node_apart within]
  wellFormed := ⟨wellFormed.1, wellFormed_update wellFormed.2 inside inserted.wellFormed
    (inserted.starts i (wellFormed.2 i).2.1 rfl)⟩
  starts _ starts _ := starts

/-- The new node stands where the path ends. -/
theorem above_inserted {current : List ℕ → DigitNode T} (shifts : Shifts current) {i : ℕ}
    {below : List ℕ} {value : T} (inside : i < base)
    (wellFormed : (current (i :: below)).WellFormed base) :
    Inserted base (current (path ++ i :: below)) path value
      (.node path (Function.update (fun _ => .none) i (current (i :: below))) (some value)) where
  find_eq := by
    funext q
    by_cases within : path <+: q
    · obtain ⟨rest, rfl⟩ := within
      cases rest with
      | nil => simp [find_node_self]
      | cons j rest =>
          have differs : path ++ j :: rest ≠ path := by simp
          rw [find_node_below, Function.update_of_ne differs, shifts.within]
          by_cases same : j = i
          · rw [same, Function.update_self]
          · rw [Function.update_of_ne same, (shifts.starts i below).find_none (by simp [same])]
            rfl
    · have differs : q ≠ path := by
        rintro rfl
        exact within (List.prefix_refl _)
      rw [find_node_apart within, Function.update_of_ne differs, shifts.apart _ _ within]
  wellFormed := ⟨Nat.zero_lt_of_lt inside, wellFormed_update (wellFormed_no_children base) inside
    wellFormed (shifts.starts i below)⟩
  starts i _ first := by
    cases path with
    | nil => cases first
    | cons j path =>
        cases first
        exact ⟨path, rfl⟩

/-- The new node stands where the paths part. -/
theorem apart_inserted {current : List ℕ → DigitNode T} (shifts : Shifts current)
    (c : List ℕ) {x y : ℕ} {below suffix : List ℕ} {value : T} (differ : x ≠ y)
    (insideX : x < base) (insideY : y < base)
    (wellFormed : (current (x :: below)).WellFormed base) :
    Inserted base (current (c ++ x :: below)) (c ++ y :: suffix) value
      (.node c (Function.update
        (Function.update (fun _ => .none) y (.leaf (y :: suffix) value)) x
        (current (x :: below))) .none) where
  find_eq := by
    funext q
    by_cases within : c <+: q
    · obtain ⟨rest, rfl⟩ := within
      cases rest with
      | nil =>
          have differs : c ++ [] ≠ c ++ y :: suffix := by simp
          rw [Function.update_of_ne differs, shifts.within,
            (shifts.starts x below).find_none (by simp), List.append_nil, find_node_self]
      | cons j rest =>
          rw [find_node_below]
          by_cases first : j = x
          · subst first
            have differs : c ++ j :: rest ≠ c ++ y :: suffix := by simp [differ]
            rw [Function.update_self, Function.update_of_ne differs, shifts.within]
          · rw [Function.update_of_ne first]
            have absent : (current (x :: below)).find (j :: rest) = .none :=
              (shifts.starts x below).find_none (by simp [first])
            by_cases second : j = y
            · subst second
              rw [Function.update_self, find]
              by_cases whole : rest = suffix
              · subst whole
                simp
              · have differs : c ++ j :: rest ≠ c ++ j :: suffix := by simp [whole]
                rw [Function.update_of_ne differs, shifts.within, absent,
                  if_neg (by simp [whole])]
            · have differs : c ++ j :: rest ≠ c ++ y :: suffix := by simp [second]
              rw [Function.update_of_ne second, Function.update_of_ne differs, shifts.within, absent]
              rfl
    · have differs : q ≠ c ++ y :: suffix := by
        rintro rfl
        exact within (List.prefix_append _ _)
      rw [find_node_apart within, Function.update_of_ne differs, shifts.apart _ _ within]
  wellFormed := ⟨Nat.zero_lt_of_lt insideX, wellFormed_update
    (wellFormed_update (wellFormed_no_children base) insideY trivial ⟨suffix, rfl⟩) insideX
    wellFormed (shifts.starts x below)⟩
  starts i starts first := by
    cases c with
    | nil => exact absurd ((shifts.digit x i below starts).trans (Option.some.inj first).symm) differ
    | cons j c =>
        cases first
        exact ⟨c, rfl⟩

theorem splitAbove_ok {current : List ℕ → DigitNode T} (shifts : Shifts current)
    {nodePrefix : List ℕ} (wellFormed : ∀ below, (current below).WellFormed base)
    (differ : nodePrefix ≠ path) (leaves : nodePrefix ≠ getCommonPrefix nodePrefix path)
    (split : splitAbove base getData current nodePrefix path = .ok t') :
    ∃ value, getData .none = .ok value ∧ Inserted base (current nodePrefix) path value t' := by
  rcases paths_cases nodePrefix path with
    same | ⟨i, s, rfl⟩ | ⟨i, s, rfl⟩ | ⟨c, x, y, s, u, differ', rfl, rfl⟩
  · exact absurd same differ
  · exact absurd (getCommonPrefix_self_append nodePrefix (i :: s)).symm leaves
  · rw [splitAbove, getCommonPrefix_append_self, List.drop_left] at split
    obtain ⟨value, got, rest⟩ := Checked.bind_eq_ok.mp split
    rw [if_pos rfl] at rest
    obtain ⟨children, placed, last⟩ := Checked.bind_eq_ok.mp rest
    obtain ⟨inside, rfl⟩ := place_eq_ok.mp placed
    cases last
    exact ⟨value, got, above_inserted shifts inside (wellFormed _)⟩
  · have longer : c ++ y :: u ≠ c := by simp
    rw [splitAbove, getCommonPrefix_apart c differ', List.drop_left, List.drop_left] at split
    obtain ⟨value, got, rest⟩ := Checked.bind_eq_ok.mp split
    rw [if_neg longer] at rest
    obtain ⟨children, placed, rest⟩ := Checked.bind_eq_ok.mp rest
    obtain ⟨insideY, rfl⟩ := place_eq_ok.mp placed
    obtain ⟨children, placed, last⟩ := Checked.bind_eq_ok.mp rest
    obtain ⟨insideX, rfl⟩ := place_eq_ok.mp placed
    cases last
    exact ⟨value, got, apart_inserted shifts c differ' insideX insideY (wellFormed _)⟩

/-- By induction on the trie: one step down where the path goes on below a node. -/
theorem insertInternal_ok (wellFormed : t.WellFormed base)
    (inserted : insertInternal base getData t path = .ok t') :
    ∃ value, getData (t.find path) = .ok value ∧ Inserted base t path value t' := by
  induction t generalizing path t' with
  | none =>
      obtain ⟨value, got, last⟩ := Checked.bind_eq_ok.mp inserted
      cases last
      refine ⟨value, got, ?_, trivial, ?_⟩
      · funext q
        by_cases same : q = path
        · simp [find, same]
        · simp [find, same]
      · intro i _ first
        cases path with
        | nil => cases first
        | cons j path =>
            cases first
            exact ⟨path, rfl⟩
  | leaf nodePrefix data =>
      rw [insertInternal] at inserted
      split at inserted
      next same =>
        subst same
        obtain ⟨value, got, last⟩ := Checked.bind_eq_ok.mp inserted
        cases last
        refine ⟨value, by rw [find, if_pos rfl, got], ?_, trivial, fun i starts _ => starts⟩
        funext q
        by_cases same : q = nodePrefix
        · simp [find, same]
        · simp [find, same]
      next differ =>
        have absent : (DigitNode.leaf nodePrefix data).find path = .none :=
          if_neg fun same => differ same.symm
        rw [absent]
        split at inserted
        next whole =>
          rcases paths_cases nodePrefix path with
            same | ⟨i, s, rfl⟩ | ⟨i, s, rfl⟩ | ⟨c, x, y, s, u, differ', rfl, rfl⟩
          · exact absurd same differ
          · rw [List.drop_left] at inserted
            obtain ⟨value, got, rest⟩ := Checked.bind_eq_ok.mp inserted
            obtain ⟨children, placed, last⟩ := Checked.bind_eq_ok.mp rest
            obtain ⟨inside, rfl⟩ := place_eq_ok.mp placed
            cases last
            exact ⟨value, got, leaf_inserted nodePrefix data inside⟩
          · rw [getCommonPrefix_append_self] at whole
            simp at whole
          · rw [getCommonPrefix_apart c differ'] at whole
            simp at whole
        next leaves => exact splitAbove_ok (leaf_shifts data) (fun _ => trivial) differ leaves inserted
  | node nodePrefix children data ih =>
      rw [insertInternal] at inserted
      split at inserted
      next same =>
        subst same
        obtain ⟨value, got, last⟩ := Checked.bind_eq_ok.mp inserted
        cases last
        refine ⟨value, by rw [find_node_self, got], ?_, wellFormed, fun i starts _ => starts⟩
        funext q
        by_cases same : q = nodePrefix
        · subst same
          rw [find_node_self, Function.update_self]
        · rw [Function.update_of_ne same]
          by_cases within : nodePrefix <+: q
          · obtain ⟨rest, rfl⟩ := within
            cases rest with
            | nil => exact absurd (List.append_nil nodePrefix) same
            | cons j rest => rw [find_node_below, find_node_below]
          · rw [find_node_apart within, find_node_apart within]
      next differ =>
        split at inserted
        next whole =>
          rcases paths_cases nodePrefix path with
            same | ⟨i, s, rfl⟩ | ⟨i, s, rfl⟩ | ⟨c, x, y, s, u, differ', rfl, rfl⟩
          · exact absurd same differ
          · rw [List.drop_left] at inserted
            dsimp only at inserted
            split at inserted
            next inside =>
              obtain ⟨child, below, last⟩ := Checked.bind_eq_ok.mp inserted
              cases last
              obtain ⟨value, got, done⟩ := ih i (wellFormed.2 i).1 below
              refine ⟨value, by rw [find_node_below, got], below_inserted inside wellFormed done⟩
            next => cases inserted
          · rw [getCommonPrefix_append_self] at whole
            simp at whole
          · rw [getCommonPrefix_apart c differ'] at whole
            simp at whole
        next leaves =>
          have absent : (DigitNode.node nodePrefix children data).find path = .none := by
            refine find_node_apart fun within => leaves ?_
            obtain ⟨rest, rfl⟩ := within
            exact (getCommonPrefix_self_append nodePrefix rest).symm
          rw [absent]
          exact splitAbove_ok (node_shifts children data) (fun _ => wellFormed) differ leaves inserted

theorem insert_ok (wellFormed : t.WellFormed base) (inserted : insert base t path getData = .ok t') :
    ∃ value, getData (t.find path) = .ok value ∧ Inserted base t path value t' := by
  rw [insert] at inserted
  split at inserted
  next => cases inserted
  next => exact insertInternal_ok wellFormed inserted

theorem entries_above (base : ℕ) (above : List ℕ) (t : DigitNode T) :
    t.entries base above = (t.entries base []).map fun entry => (above ++ entry.1, entry.2) := by
  induction t generalizing above with
  | none => rfl
  | leaf nodePrefix data => rfl
  | node nodePrefix children data ih =>
      have inner : ∀ i, (children i).entries base (above ++ nodePrefix) =
          ((children i).entries base nodePrefix).map fun entry => (above ++ entry.1, entry.2) := by
        intro i
        rw [ih i (above ++ nodePrefix), ih i nodePrefix, List.map_map]
        exact List.map_congr_left fun entry _ => by simp
      rw [entries, entries, List.nil_append, List.map_append, List.map_map, List.map_flatMap]
      exact congrArg₂ _ rfl (List.flatMap_congr fun i _ => inner i)

theorem StartsWith.head {i : ℕ} {value : T} (starts : t.StartsWith i)
    (held : t.find path = some value) : path.head? = some i := by
  by_contra other
  rw [starts.find_none other] at held
  cases held

/-- The entries are what the trie holds. -/
theorem entries_lists (wellFormed : t.WellFormed base) : Lists t.find (t.entries base []) := by
  induction t with
  | none => exact Lists.empty
  | leaf nodePrefix data => exact (Lists.one nodePrefix data).congr fun _ => rfl
  | node nodePrefix children data ih =>
      rw [entries, List.nil_append]
      have here : Lists (fun q => if q = nodePrefix then data else Option.none)
          (data.toList.map fun d => (nodePrefix, d)) := by
        cases data with
        | none => exact Lists.empty.congr fun q => by simp
        | some d => exact Lists.one nodePrefix d
      have below : Lists (fun q => if nodePrefix <+: q ∧ q ≠ nodePrefix then
            (DigitNode.node nodePrefix children data).find q else Option.none)
          ((List.range base).flatMap fun i => (children i).entries base nodePrefix) := by
        refine Lists.flatMap (fun i q =>
          if nodePrefix <+: q then (children i).find (q.drop nodePrefix.length) else Option.none)
          List.nodup_range (fun i _ => ?_) (fun q v => ?_) fun i _ j _ q v w first second => ?_
        · rw [entries_above]
          refine (ih i (wellFormed.2 i).1).mapKeys (fun _ _ same => List.append_cancel_left same)
            fun q v => ?_
          constructor
          · intro held
            split at held
            next within =>
              obtain ⟨rest, rfl⟩ := within
              rw [List.drop_left] at held
              exact ⟨rest, rfl, held⟩
            next => cases held
          · rintro ⟨rest, rfl, held⟩
            rw [if_pos (List.prefix_append _ _), List.drop_left]
            exact held
        · constructor
          · intro held
            split at held
            next within =>
              obtain ⟨⟨rest, rfl⟩, longer⟩ := within
              cases rest with
              | nil => exact absurd (List.append_nil nodePrefix) longer
              | cons i rest =>
                  rw [find_node_below] at held
                  have inside : i < base := by
                    by_contra past
                    rw [(wellFormed.2 i).2.2 (Nat.not_lt.mp past)] at held
                    cases held
                  refine ⟨i, List.mem_range.mpr inside, ?_⟩
                  rw [if_pos (List.prefix_append _ _), List.drop_left]
                  exact held
            next => cases held
          · rintro ⟨i, _, held⟩
            split at held
            next within =>
              obtain ⟨rest, rfl⟩ := within
              rw [List.drop_left] at held
              have first := (wellFormed.2 i).2.1.head held
              cases rest with
              | nil => cases first
              | cons j rest =>
                  cases first
                  rw [if_pos ⟨List.prefix_append _ _, by simp⟩, find_node_below]
                  exact held
            next => cases held
        · split at first
          next within =>
            rw [if_pos within] at second
            have head := (wellFormed.2 i).2.1.head first
            rw [(wellFormed.2 j).2.1.head second] at head
            exact (Option.some.inj head).symm
          next => cases first
      refine here.append below (fun q v => ?_) fun q v w first second => ?_
      · by_cases same : q = nodePrefix
        · subst same
          simp [find_node_self]
        · by_cases within : nodePrefix <+: q
          · simp [same, within]
          · simp [same, within, find_node_apart within]
      · split at first
        next same => simp [same] at second
        next => cases first

end DigitNode

end P2PLending.Trie
