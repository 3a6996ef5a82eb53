import P2PLending.Trie.ArenaIteration

/-! Insertions whose callback fails. They return with the nodes that they took out still missing, so
that they go unnoticed only in a trie of digits from which there was nothing to take out. -/

namespace P2PLending.Trie.Arena

open Dlc (Result Fault Error)

variable {T : Type}

namespace MultiTrie

/-- What an insertion with some callback makes of a trie, and what it returns. -/
inductive Inserts (t : MultiTrie T) (r : Except (Fault Error) Unit) (t' : MultiTrie T) : Prop
  | insert {S : Type} (getValue : GetValue S T) (path : List ℕ) (s s' : S)
      (ran : MultiTrie.insert getValue path (t, s) = (r, (t', s'))) : Inserts t r t'
  | insertMaxPaths {S : Type} (getValue : GetValue S T) (s s' : S)
      (ran : MultiTrie.insertMaxPaths getValue (t, s) = (r, (t', s'))) : Inserts t r t'

theorem Inserts.whole {t t' : MultiTrie T} (inserts : t.Inserts (.ok ()) t') (whole : Whole t) :
    Whole t' := by
  cases inserts with
  | insert getValue path s s' ran => exact insert_ok whole ran
  | insertMaxPaths getValue s s' ran => exact insertMaxPaths_ok whole ran

theorem Inserts.holed {t t' : MultiTrie T} {e : Error} (inserts : t.Inserts (.error (.err e)) t')
    (whole : Whole t) : Holed t' := by
  cases inserts with
  | insert getValue path s s' ran => exact insert_error whole ran
  | insertMaxPaths getValue s s' ran => exact insertMaxPaths_error whole ran

/-- The first insertion that fails is noticed: an iteration came to the end before it. -/
theorem Inserts.noticed {t t' : MultiTrie T} {e : Error}
    (inserts : t.Inserts (.error (.err e)) t') (whole : Whole t) : ¬ SameAnswers t t' := by
  intro same
  obtain ⟨room, count, ended⟩ := MultiTrieIterator.iterate_ends whole
  refine MultiTrieIterator.iterate_unended (inserts.holed whole) room count ?_
  rw [same.iterate, ended]

/-- An insertion of a history. -/
structure Call (T : Type) where
  before : MultiTrie T
  after : MultiTrie T
  failed : Bool

/-- The insertions into a trie since it was made, the last one first. -/
inductive History : List (Call T) → MultiTrie T → Prop
  | new {info : OracleNumericInfo} {nbRequired minSupportExp maxErrorExp : ℕ}
      {maximizeCoverage : Bool} {t : MultiTrie T}
      (made : MultiTrie.new info nbRequired minSupportExp maxErrorExp maximizeCoverage = .ok t) :
      History [] t
  | inserted {log : List (Call T)} {t t' : MultiTrie T} (history : History log t)
      (inserts : t.Inserts (.ok ()) t') : History (⟨t, t', false⟩ :: log) t'
  | failed {log : List (Call T)} {t t' : MultiTrie T} {e : Error} (history : History log t)
      (inserts : t.Inserts (.error (.err e)) t') : History (⟨t, t', true⟩ :: log) t'

/-- Until an insertion fails nothing is missing. -/
theorem History.whole {log : List (Call T)} {t : MultiTrie T} (history : History log t)
    (fine : ∀ call ∈ log, call.failed = false) : Whole t := by
  induction history with
  | new made => exact new_whole made
  | inserted _ inserts ih =>
      rw [List.forall_mem_cons] at fine
      exact inserts.whole (ih fine.2)
  | failed =>
      rw [List.forall_mem_cons] at fine
      cases fine.1

/-- By induction on the history: the first insertion that fails is noticed. -/
theorem History.unnoticed_iff {log : List (Call T)} {t : MultiTrie T} (history : History log t) :
    (∀ call ∈ log, call.failed = true → SameAnswers call.before call.after) ↔
      ∀ call ∈ log, call.failed = false := by
  refine ⟨fun unnoticed => ?_, fun fine call listed failed => ?_⟩
  · induction history with
    | new => exact fun call none => by cases none
    | inserted _ _ ih =>
        rw [List.forall_mem_cons] at unnoticed ⊢
        exact ⟨rfl, ih unnoticed.2⟩
    | failed history inserts ih =>
        rw [List.forall_mem_cons] at unnoticed
        exact absurd (unnoticed.1 rfl) (inserts.noticed (history.whole (ih unnoticed.2)))
  · rw [fine call listed] at failed
    cases failed

end MultiTrie

/-- An insertion that fails leaves a trie of digits with the answers that it gave if and only if
nothing has been inserted yet. In a history of a trie of tries the insertions that fail leave it
with its answers if and only if there are none. -/
theorem failing_insert_unnoticed_iff (T : Type) :
    (∀ (t t' : DigitTrie T) (getData : Option T → Result T) (room : ℕ) (path : List ℕ) (e : Error),
      DigitTrie.insert getData room path t = (.error (.err e), t') →
        (DigitTrie.SameAnswers t t' ↔ t.root = none)) ∧
    ∀ (log : List (MultiTrie.Call T)) (t : MultiTrie T), MultiTrie.History log t →
      ((∀ call ∈ log, call.failed = true → MultiTrie.SameAnswers call.before call.after) ↔
        ∀ call ∈ log, call.failed = false) :=
  ⟨fun _ _ _ _ _ _ failed => DigitTrie.insert_unnoticed_iff failed,
    fun _ _ history => history.unnoticed_iff⟩

/-! One path, and one oracle of one digit. -/

def refuse : Option ℕ → Result ℕ := fun _ => .error (.err .invalidArgument)

def oneEntry : DigitTrie ℕ where
  store := [.leaf ⟨7, [0, 1]⟩]
  root := some 0
  base := 2

def oneEntryRefused : DigitTrie ℕ := { oneEntry with store := [.none] }

def oneOracle : MultiTrie ℕ where
  store := [.leaf .none]
  nbTries := 1
  nbRequired := 1
  minSupportExp := 0
  maxErrorExp := 1
  maximizeCoverage := true
  oracleNumericInfos := ⟨2, [1]⟩

def oneOracleRefused : MultiTrie ℕ := { oneOracle with store := [.none] }

theorem refused_path_noticed :
    ¬ DigitTrie.SameAnswers oneEntry oneEntryRefused ∧
      ¬ MultiTrie.SameAnswers oneOracle oneOracleRefused := by
  have digits := (failing_insert_unnoticed_iff ℕ).1 oneEntry oneEntryRefused refuse 2 [1]
    .invalidArgument rfl
  have refused : oneOracle.Inserts (.error (.err .invalidArgument)) oneOracleRefused :=
    .insert (fun _ _ _ => .error (.err .invalidArgument)) [0] () () rfl
  have made : MultiTrie.History [] oneOracle :=
    @MultiTrie.History.new ℕ ⟨2, [1]⟩ 1 0 1 true oneOracle rfl
  have tries := (failing_insert_unnoticed_iff ℕ).2
    [⟨oneOracle, oneOracleRefused, true⟩] _ (.failed made refused)
  refine ⟨fun same => ?_, fun same => ?_⟩
  · cases digits.mp same
  · have fine := tries.mp fun call listed _ => by
      rw [List.mem_singleton.mp listed]
      exact same
    cases fine _ List.mem_cons_self

/-- The path that was there is lost with the one that was refused, and looking it up is a panic;
so is looking up anything in the trie of the oracle. -/
theorem refused_path_loses_entry :
    DigitTrie.insert (fun _ => .ok 7) 1 [0, 1] (.new 2) = (.ok (), oneEntry) ∧
      DigitTrie.insert refuse 2 [1] oneEntry =
        (.error (.err .invalidArgument), oneEntryRefused) ∧
      oneEntry.lookUp 1 [0, 1] = .ok (some [([0, 1], 7)]) ∧
      DigitTrie.lookUp oneEntryRefused 1 [0, 1] =
        .error (.panic unreachable) ∧
      oneEntry.iterate 2 2 = ([([0, 1], 7)], some (.ok ())) ∧
      DigitTrie.iterate oneEntryRefused 2 2 =
        ([], some (.error (.panic unreachable))) ∧
      MultiTrie.new ⟨2, [1]⟩ 1 0 1 true = .ok oneOracle ∧
      MultiTrie.insert (fun _ _ _ => .error (.err .invalidArgument)) [0] (oneOracle, ()) =
        (.error (.err .invalidArgument), (oneOracleRefused, ())) ∧
      oneOracle.lookUp [(0, [0])] = .ok none ∧
      MultiTrie.lookUp oneOracleRefused [(0, [0])] =
        .error (.panic unreachable) :=
  ⟨rfl, rfl, rfl, rfl, rfl, rfl, rfl, rfl, rfl, rfl⟩

end P2PLending.Trie.Arena
