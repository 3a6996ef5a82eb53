import P2PLending.Foundation.Words
import Mathlib.Data.Int.Basic

/-! Bitcoin Script for version 0 witness programs, by the consensus rules, for
the opcodes that two-party contracts use. A script is a list of operations with
a byte serialization; conditionals keep one flag per open branch. Signatures,
the hash and the timelocks of the spending input are parameters. -/

namespace P2PLending.Script

instance neZero_opNum : NeZero 17 := ⟨by decide⟩

/-- An operation. `num n` is `OP_1` to `OP_16`, `push` a direct push. -/
inductive Op
  | push (data : Bytes)
  | num (n : Fin 17)
  | opIf
  | notIf
  | opElse
  | endIf
  | depth
  | drop
  | pick
  | twoSwap
  | size
  | equal
  | equalVerify
  | oneSub
  | sha256
  | codeSeparator
  | checkSig
  | checkSigVerify
  | checkMultiSig
  | checkSequenceVerify
  deriving DecidableEq, Repr

def Op.toBytes : Op → Bytes
  | .push data => UInt8.ofNat data.length :: data
  | .num n => [if n = 0 then 0x00 else UInt8.ofNat (0x50 + n.val)]
  | .opIf => [0x63]
  | .notIf => [0x64]
  | .opElse => [0x67]
  | .endIf => [0x68]
  | .depth => [0x74]
  | .drop => [0x75]
  | .pick => [0x79]
  | .twoSwap => [0x72]
  | .size => [0x82]
  | .equal => [0x87]
  | .equalVerify => [0x88]
  | .oneSub => [0x8c]
  | .sha256 => [0xa8]
  | .codeSeparator => [0xab]
  | .checkSig => [0xac]
  | .checkSigVerify => [0xad]
  | .checkMultiSig => [0xae]
  | .checkSequenceVerify => [0xb2]

def toBytes (script : List Op) : Bytes := script.flatMap Op.toBytes

/-- The little-endian bytes of a number of at most `fuel` bytes, none for zero. -/
def leDigits : (fuel n : ℕ) → Bytes
  | 0, _ => []
  | fuel + 1, n => if n = 0 then [] else UInt8.ofNat (n % 256) :: leDigits fuel (n / 256)

/-- Script arithmetic stays far below eight bytes. -/
def leBytes (n : ℕ) : Bytes := leDigits 8 n

def leValue (b : Bytes) : ℕ := b.foldr (fun x n => x.toNat + 256 * n) 0

/-- A script number: little-endian magnitude, the sign in the highest bit. -/
def encodeNum (n : ℤ) : Bytes :=
  let magnitude := leBytes n.natAbs
  let sign : UInt8 := if n < 0 then 0x80 else 0
  match magnitude.getLast? with
  | none => []
  | some top =>
      if top.toNat < 128 then magnitude.dropLast ++ [top + sign] else magnitude ++ [sign]

/-- The number of an element of at most `limit` bytes. -/
def decodeNum (limit : ℕ) (b : Bytes) : Option ℤ :=
  if limit < b.length then none
  else match b.getLast? with
    | none => some 0
    | some top =>
        if top.toNat < 128 then some (leValue b)
        else some (-(leValue (b.dropLast ++ [top - 128]) : ℤ))

/-- An element is false when it is zero or negative zero. -/
def truthy (b : Bytes) : Bool :=
  match b.getLast? with
  | none => false
  | some top => b.dropLast.any (· ≠ 0) || (top ≠ 0 && top ≠ 0x80)

def ofBool (b : Bool) : Bytes := if b then [1] else []

@[simp] theorem truthy_ofBool (b : Bool) : truthy (ofBool b) = b := by
  cases b <;> rfl

/-- What a script asks of the spending input. `checkSig code sig key` covers the
script code from the last executed separator. -/
structure Checker where
  validEncoding : Bytes → Bool
  checkSig : (code sig key : Bytes) → Bool
  sha256 : Bytes → Bytes
  checkSequence : ℤ → Bool

/-- The stack is top first; `code` is the script code that signatures cover. -/
structure State where
  stack : List Bytes
  conditions : List Bool
  code : List Op

variable (C : Checker)

/-- One signature check; a malformed signature aborts the script. -/
def checkOne (code : List Op) (sig key : Bytes) : Option Bool :=
  if sig = [] ∨ C.validEncoding sig = true then
    some (sig ≠ [] && C.checkSig (toBytes code) sig key)
  else none

/-- Match signatures against keys, both top first and each key used once. -/
def matchSigs (code : List Op) : List Bytes → List Bytes → Option Bool
  | [], _ => some true
  | _ :: _, [] => some false
  | sig :: sigs, key :: keys =>
      if keys.length + 1 < sigs.length + 1 then some false
      else do
        let ok ← checkOne C code sig key
        if ok then matchSigs code sigs keys else matchSigs code (sig :: sigs) keys

/-- Take `n` elements, for a count read from the stack. -/
def takeCount (most : ℕ) (stack : List Bytes) : Option (List Bytes × List Bytes) :=
  match stack with
  | [] => none
  | top :: rest => do
      let n ← decodeNum 4 top
      if 0 ≤ n ∧ n ≤ most ∧ n.toNat ≤ rest.length then
        some (rest.take n.toNat, rest.drop n.toNat)
      else none

/-- The keys are counted first, then the signatures; the extra element must be
empty. -/
def checkMultiSig (code : List Op) (stack : List Bytes) : Option (Bool × List Bytes) := do
  let (keys, rest) ← takeCount 20 stack
  let (sigs, rest) ← takeCount keys.length rest
  match rest with
  | [] :: rest => do
      let ok ← matchSigs C code sigs keys
      some (ok, rest)
  | _ => none

def verify (result : Bool) (stack : List Bytes) : Option (List Bytes) :=
  if result then some stack else none

/-- An operation outside of the conditionals, on the stack. -/
def stackStep (code : List Op) : Op → List Bytes → Option (List Bytes)
  | .push data, s => some (data :: s)
  | .num n, s => some (encodeNum n.val :: s)
  | .depth, s => some (encodeNum s.length :: s)
  | .drop, _ :: s => some s
  | .pick, top :: s => do
      let n ← decodeNum 4 top
      if 0 ≤ n then do
        let item ← s[n.toNat]?
        some (item :: s)
      else none
  | .twoSwap, a :: b :: c :: d :: s => some (c :: d :: a :: b :: s)
  | .size, top :: s => some (encodeNum top.length :: top :: s)
  | .equal, a :: b :: s => some (ofBool (a = b) :: s)
  | .equalVerify, a :: b :: s => verify (a = b) s
  | .oneSub, top :: s => do
      let n ← decodeNum 4 top
      some (encodeNum (n - 1) :: s)
  | .sha256, top :: s => some (C.sha256 top :: s)
  | .checkSig, key :: sig :: s => do
      let ok ← checkOne C code sig key
      some (ofBool ok :: s)
  | .checkSigVerify, key :: sig :: s => do
      let ok ← checkOne C code sig key
      verify ok s
  | .checkMultiSig, s => do
      let (ok, s) ← checkMultiSig C code s
      some (ofBool ok :: s)
  | .checkSequenceVerify, top :: s => do
      let n ← decodeNum 5 top
      if 0 ≤ n then
        -- bit 31 of the operand disables the timelock
        if n.toNat.testBit 31 ∨ C.checkSequence n = true then some (top :: s) else none
      else none
  | _, _ => none

/-- The script is executing: every open branch is taken. -/
def State.executing (st : State) : Bool := false ∉ st.conditions

/-- One operation, with the operations after it. -/
def step (op : Op) (rest : List Op) (st : State) : Option State :=
  match op with
  | .opIf | .notIf =>
      if st.executing then
        match st.stack with
        | [] => none
        | top :: s =>
            let taken := if op = .opIf then truthy top else !truthy top
            some { st with stack := s, conditions := taken :: st.conditions }
      else some { st with conditions := false :: st.conditions }
  | .opElse =>
      match st.conditions with
      | [] => none
      | c :: cs => some { st with conditions := (!c) :: cs }
  | .endIf =>
      match st.conditions with
      | [] => none
      | _ :: cs => some { st with conditions := cs }
  | .codeSeparator => some (if st.executing then { st with code := rest } else st)
  | op =>
      if st.executing then do
        let stack ← stackStep C st.code op st.stack
        some { st with stack }
      else some st

def run : List Op → State → Option State
  | [], st => some st
  | op :: rest, st => do
      let st ← step C op rest st
      run rest st

/-- Witness elements have at most 520 bytes, the branches are closed and one
true element is left. -/
def accepts (script : List Op) (witness : List Bytes) : Bool :=
  witness.all (fun b => b.length ≤ 520) &&
    match run C script ⟨witness.reverse, [], script⟩ with
    | some st => st.conditions.isEmpty && (match st.stack with
        | [top] => truthy top
        | _ => false)
    | none => false

/-! Rules that take a run one operation forward, in an executed and in a skipped
branch. They name the stack they need, so a run rewrites without case splits. -/

section Rules
variable {C} {op : Op} {code rest : List Op} {s : List Bytes} {cs : List Bool}

@[simp] theorem run_nil (st : State) : run C [] st = some st := by
  simp only [run]

theorem run_cons (st : State) : run C (op :: rest) st = (step C op rest st).bind (run C rest) := by
  rw [run, Option.bind_eq_bind]

@[simp] theorem run_else (c : Bool) :
    run C (.opElse :: rest) ⟨s, c :: cs, code⟩ = run C rest ⟨s, (!c) :: cs, code⟩ := by
  rw [run_cons]
  rfl

@[simp] theorem run_endIf (c : Bool) :
    run C (.endIf :: rest) ⟨s, c :: cs, code⟩ = run C rest ⟨s, cs, code⟩ := by
  rw [run_cons]
  rfl

section Skipped
variable (off : false ∈ cs)
include off

theorem not_executing : ¬ State.executing ⟨s, cs, code⟩ = true := by
  simp [State.executing, off]

theorem run_skip (plain : op ∉ [.opIf, .notIf, .opElse, .endIf]) :
    run C (op :: rest) ⟨s, cs, code⟩ = run C rest ⟨s, cs, code⟩ := by
  cases op <;> simp_all [run, step, State.executing]

theorem run_notIf_skip :
    run C (.notIf :: rest) ⟨s, cs, code⟩ = run C rest ⟨s, false :: cs, code⟩ := by
  have skipped : step C .notIf rest ⟨s, cs, code⟩ = some ⟨s, false :: cs, code⟩ :=
    if_neg (not_executing off)
  rw [run_cons, skipped, Option.bind_some]

end Skipped

section Executed
variable {top key sig a b c d : Bytes} (on : false ∉ cs)
include on

theorem executing_of : State.executing ⟨s, cs, code⟩ = true := by
  simp [State.executing, on]

/-- The general rule: an operation that is no conditional acts on the stack. -/
theorem run_stackStep (plain : op ∉ [.opIf, .notIf, .opElse, .endIf, .codeSeparator]) :
    run C (op :: rest) ⟨s, cs, code⟩ =
      (stackStep C code op s).bind fun s' => run C rest ⟨s', cs, code⟩ := by
  cases op <;> simp_all [run, step, State.executing, Option.bind_assoc]

theorem run_of_stackStep {s' : List Bytes}
    (plain : op ∉ [.opIf, .notIf, .opElse, .endIf, .codeSeparator])
    (stepped : stackStep C code op s = some s') :
    run C (op :: rest) ⟨s, cs, code⟩ = run C rest ⟨s', cs, code⟩ := by
  rw [run_stackStep on plain, stepped, Option.bind_some]

theorem run_codeSeparator :
    run C (.codeSeparator :: rest) ⟨s, cs, code⟩ = run C rest ⟨s, cs, rest⟩ := by
  have moved : step C .codeSeparator rest ⟨s, cs, code⟩ = some ⟨s, cs, rest⟩ :=
    congrArg some (if_pos (executing_of on))
  rw [run_cons, moved, Option.bind_some]

theorem run_if :
    run C (.opIf :: rest) ⟨top :: s, cs, code⟩ = run C rest ⟨s, truthy top :: cs, code⟩ := by
  have taken : step C .opIf rest ⟨top :: s, cs, code⟩ = some ⟨s, truthy top :: cs, code⟩ :=
    if_pos (executing_of on)
  rw [run_cons, taken, Option.bind_some]

theorem run_notIf :
    run C (.notIf :: rest) ⟨top :: s, cs, code⟩ = run C rest ⟨s, (!truthy top) :: cs, code⟩ := by
  have taken : step C .notIf rest ⟨top :: s, cs, code⟩ = some ⟨s, (!truthy top) :: cs, code⟩ :=
    if_pos (executing_of on)
  rw [run_cons, taken, Option.bind_some]

theorem run_push (data : Bytes) :
    run C (.push data :: rest) ⟨s, cs, code⟩ = run C rest ⟨data :: s, cs, code⟩ := by
  exact run_of_stackStep on (by simp) rfl

theorem run_num (n : Fin 17) :
    run C (.num n :: rest) ⟨s, cs, code⟩ = run C rest ⟨encodeNum n.val :: s, cs, code⟩ := by
  exact run_of_stackStep on (by simp) rfl

theorem run_depth :
    run C (.depth :: rest) ⟨s, cs, code⟩ = run C rest ⟨encodeNum s.length :: s, cs, code⟩ := by
  exact run_of_stackStep on (by simp) rfl

theorem run_drop :
    run C (.drop :: rest) ⟨top :: s, cs, code⟩ = run C rest ⟨s, cs, code⟩ := by
  exact run_of_stackStep on (by simp) rfl

theorem run_pick {n : ℕ} {item : Bytes} (index : decodeNum 4 top = some (n : ℤ))
    (found : s[n]? = some item) :
    run C (.pick :: rest) ⟨top :: s, cs, code⟩ = run C rest ⟨item :: s, cs, code⟩ := by
  apply run_of_stackStep on (by simp)
  show (decodeNum 4 top >>= fun n =>
    if 0 ≤ n then s[n.toNat]? >>= fun item => some (item :: s) else none) = some (item :: s)
  simp [index, found]

theorem run_twoSwap :
    run C (.twoSwap :: rest) ⟨a :: b :: c :: d :: s, cs, code⟩ =
      run C rest ⟨c :: d :: a :: b :: s, cs, code⟩ := by
  exact run_of_stackStep on (by simp) rfl

theorem run_size : run C (.size :: rest) ⟨top :: s, cs, code⟩ =
    run C rest ⟨encodeNum top.length :: top :: s, cs, code⟩ := by
  exact run_of_stackStep on (by simp) rfl

theorem run_equal : run C (.equal :: rest) ⟨a :: b :: s, cs, code⟩ =
    run C rest ⟨ofBool (a = b) :: s, cs, code⟩ := by
  exact run_of_stackStep on (by simp) rfl

theorem run_equalVerify : run C (.equalVerify :: rest) ⟨a :: b :: s, cs, code⟩ =
    if a = b then run C rest ⟨s, cs, code⟩ else none := by
  rw [run_stackStep on (by simp)]
  show (verify (a = b) s).bind _ = _
  by_cases same : a = b <;> simp [verify, same]

theorem run_sha256 : run C (.sha256 :: rest) ⟨top :: s, cs, code⟩ =
    run C rest ⟨C.sha256 top :: s, cs, code⟩ := by
  exact run_of_stackStep on (by simp) rfl

theorem run_checkSig {ok : Bool} (checked : checkOne C code sig key = some ok) :
    run C (.checkSig :: rest) ⟨key :: sig :: s, cs, code⟩ =
      run C rest ⟨ofBool ok :: s, cs, code⟩ := by
  apply run_of_stackStep on (by simp)
  show (checkOne C code sig key >>= fun ok => some (ofBool ok :: s)) = some (ofBool ok :: s)
  simp [checked]

theorem run_checkSigVerify {ok : Bool} (checked : checkOne C code sig key = some ok) :
    run C (.checkSigVerify :: rest) ⟨key :: sig :: s, cs, code⟩ =
      if ok then run C rest ⟨s, cs, code⟩ else none := by
  rw [run_stackStep on (by simp)]
  show (checkOne C code sig key >>= fun ok => verify ok s).bind _ = _
  cases ok <;> simp [verify, checked]

theorem run_checkMultiSig {ok : Bool} {s' : List Bytes}
    (checked : checkMultiSig C code s = some (ok, s')) :
    run C (.checkMultiSig :: rest) ⟨s, cs, code⟩ = run C rest ⟨ofBool ok :: s', cs, code⟩ := by
  apply run_of_stackStep on (by simp)
  show (checkMultiSig C code s >>= fun (ok, s) => some (ofBool ok :: s)) = some (ofBool ok :: s')
  simp [checked]

theorem run_oneSub {n : ℤ} (read : decodeNum 4 top = some n) :
    run C (.oneSub :: rest) ⟨top :: s, cs, code⟩ =
      run C rest ⟨encodeNum (n - 1) :: s, cs, code⟩ := by
  apply run_of_stackStep on (by simp)
  show (decodeNum 4 top >>= fun n => some (encodeNum (n - 1) :: s)) = some (encodeNum (n - 1) :: s)
  simp [read]

theorem run_checkSequenceVerify {n : ℤ} (read : decodeNum 5 top = some n) (positive : 0 ≤ n)
    (enabled : n.toNat.testBit 31 = false) :
    run C (.checkSequenceVerify :: rest) ⟨top :: s, cs, code⟩ =
      if C.checkSequence n = true then run C rest ⟨top :: s, cs, code⟩ else none := by
  have stepped : stackStep C code .checkSequenceVerify (top :: s) =
      if C.checkSequence n = true then some (top :: s) else none := by
    show (decodeNum 5 top >>= fun n =>
      if 0 ≤ n then if n.toNat.testBit 31 ∨ C.checkSequence n = true then some (top :: s) else none
      else none) = _
    simp [read, positive, enabled]
  rw [run_stackStep on (by simp), stepped]
  split
  · rfl
  · rfl

end Executed

/-! What a run that went through found on the stack. -/

section Inverted
variable {key top : Bytes} {final : State} (on : false ∉ cs)
include on

theorem of_run_stackStep (plain : op ∉ [.opIf, .notIf, .opElse, .endIf, .codeSeparator])
    (h : run C (op :: rest) ⟨s, cs, code⟩ = some final) :
    ∃ s', stackStep C code op s = some s' ∧ run C rest ⟨s', cs, code⟩ = some final := by
  rw [run_stackStep on plain] at h
  exact Option.bind_eq_some_iff.mp h

theorem of_run_size (h : run C (.size :: rest) ⟨s, cs, code⟩ = some final) :
    ∃ top s', s = top :: s' ∧
      run C rest ⟨encodeNum top.length :: top :: s', cs, code⟩ = some final := by
  obtain ⟨_, stepped, ran⟩ := of_run_stackStep on (by simp) h
  match s with
  | [] => cases stepped
  | top :: s' =>
      cases stepped
      exact ⟨top, s', rfl, ran⟩

theorem of_run_twoSwap (h : run C (.twoSwap :: rest) ⟨top :: s, cs, code⟩ = some final) :
    ∃ a b c s', s = a :: b :: c :: s' ∧
      run C rest ⟨b :: c :: top :: a :: s', cs, code⟩ = some final := by
  obtain ⟨_, stepped, ran⟩ := of_run_stackStep on (by simp) h
  match s with
  | a :: b :: c :: s' =>
      cases stepped
      exact ⟨a, b, c, s', rfl, ran⟩
  | [] | [_] | [_, _] => cases stepped

theorem of_run_oneSub (h : run C (.oneSub :: rest) ⟨top :: s, cs, code⟩ = some final) :
    ∃ n, decodeNum 4 top = some n ∧
      run C rest ⟨encodeNum (n - 1) :: s, cs, code⟩ = some final := by
  obtain ⟨_, stepped, ran⟩ := of_run_stackStep on (by simp) h
  obtain ⟨n, read, pushed⟩ := Option.bind_eq_some_iff.mp stepped
  cases pushed
  exact ⟨n, read, ran⟩

theorem of_run_equalVerify {a b : Bytes}
    (h : run C (.equalVerify :: rest) ⟨a :: b :: s, cs, code⟩ = some final) :
    a = b ∧ run C rest ⟨s, cs, code⟩ = some final := by
  rw [run_equalVerify on] at h
  split at h
  · exact ⟨‹a = b›, h⟩
  · cases h

theorem of_run_checkSig (h : run C (.checkSig :: rest) ⟨key :: s, cs, code⟩ = some final) :
    ∃ sig s' ok, s = sig :: s' ∧ checkOne C code sig key = some ok ∧
      run C rest ⟨ofBool ok :: s', cs, code⟩ = some final := by
  obtain ⟨_, stepped, ran⟩ := of_run_stackStep on (by simp) h
  match s with
  | [] => cases stepped
  | sig :: s' =>
      obtain ⟨ok, checked, pushed⟩ := Option.bind_eq_some_iff.mp stepped
      cases pushed
      exact ⟨sig, s', ok, rfl, checked, ran⟩

theorem of_run_checkSigVerify
    (h : run C (.checkSigVerify :: rest) ⟨key :: s, cs, code⟩ = some final) :
    ∃ sig s', s = sig :: s' ∧ checkOne C code sig key = some true ∧
      run C rest ⟨s', cs, code⟩ = some final := by
  obtain ⟨_, stepped, ran⟩ := of_run_stackStep on (by simp) h
  match s with
  | [] => cases stepped
  | sig :: s' =>
      obtain ⟨ok, checked, verified⟩ := Option.bind_eq_some_iff.mp stepped
      cases ok with
      | false => cases verified
      | true =>
          cases verified
          exact ⟨sig, _, rfl, checked, ran⟩

end Inverted

/-- Operations without conditionals are skipped together. -/
theorem run_skipAll {ops : List Op} (off : false ∈ cs)
    (plain : ∀ op ∈ ops, op ∉ [.opIf, .notIf, .opElse, .endIf]) :
    run C (ops ++ rest) ⟨s, cs, code⟩ = run C rest ⟨s, cs, code⟩ := by
  induction ops with
  | nil => rfl
  | cons op ops ih =>
      rw [List.cons_append, run_skip off (plain op List.mem_cons_self)]
      exact ih fun other listed => plain other (List.mem_cons_of_mem op listed)

/-- A witness is accepted when the run ends with one true element. -/
theorem accepts_iff {script : List Op} {witness : List Bytes} :
    accepts C script witness = true ↔ (∀ b ∈ witness, b.length ≤ 520) ∧
      ∃ top code, run C script ⟨witness.reverse, [], script⟩ = some ⟨[top], [], code⟩ ∧
        truthy top = true := by
  rw [accepts, Bool.and_eq_true, List.all_eq_true]
  refine and_congr (by simp) ?_
  match run C script ⟨witness.reverse, [], script⟩ with
  | none => simp
  | some ⟨[], conditions, code⟩ => simp
  | some ⟨[top], conditions, code⟩ => simp
  | some ⟨_ :: _ :: _, conditions, code⟩ => simp

end Rules

end P2PLending.Script
