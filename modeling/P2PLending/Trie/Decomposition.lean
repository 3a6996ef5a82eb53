import P2PLending.Dlc.Transactions

/-! The digits of outcome values, and the groups of values that a part of their digits stands
for. The arithmetic is that of machine words, which panics where it leaves them. -/

namespace P2PLending.Trie

open Dlc (Result Fault u64Limit f64OfUsize)

def usizeAdd (a b : ℕ) : Result ℕ :=
  Checked.add u64Limit (.panic "attempt to add with overflow") a b

def usizeSub (a b : ℕ) : Result ℕ :=
  Checked.sub (.panic "attempt to subtract with overflow") a b

def usizeMul (a b : ℕ) : Result ℕ :=
  Checked.mul u64Limit (.panic "attempt to multiply with overflow") a b

/-- `((value as f64) / (base as f64)).floor() as usize`. The quotient has enough places for the
rounding, and one more tells whether something was cut off. -/
def floorOfQuotient (value base : ℕ) : ℕ :=
  let a := f64OfUsize value
  let b := f64OfUsize base
  let places := Nat.log2 b + 54
  let cut := if a * 2 ^ places % b = 0 then 0 else 1
  min (f64OfUsize (2 * (a * 2 ^ places / b) + cut) / 2 ^ (places + 1)) (u64Limit - 1)

/-- The digits of a value, the last one first. In base 1 the loop grows its list for ever. -/
def digitsOf (base : ℕ) : (fuel : ℕ) → ℕ → Result (List ℕ)
  | _, 0 => .ok []
  | 0, _ + 1 => .error (.panic "memory allocation failed")
  | fuel + 1, value + 1 =>
      if base = 0 then
        .error (.panic "attempt to calculate the remainder with a divisor of zero")
      else do
        let rest ← digitsOf base fuel (floorOfQuotient (value + 1) base)
        return (value + 1) % base :: rest

def decomposeValue (value base nbDigits : ℕ) : Result (List ℕ) := do
  let digits ← digitsOf base 65 value
  Dlc.assertEq nbDigits (max digits.length nbDigits)
  return (digits ++ List.replicate (nbDigits - digits.length) 0).reverse

def composeValue (base : ℕ) : List ℕ → Result ℕ
  | values => go 0 values
where
  go (composed : ℕ) : List ℕ → Result ℕ
    | [] => .ok composed
    | value :: values => do
        let pow ← Checked.fit u64Limit (.panic "attempt to multiply with overflow")
          (base ^ values.length)
        let place ← usizeMul value pow
        let composed ← usizeAdd composed place
        go composed values

/-- The digits that both start with, and what is left of each. -/
def takePrefix : List ℕ → List ℕ → List ℕ × List ℕ × List ℕ
  | x :: start, y :: stop =>
      if x = y then
        let (pre, start, stop) := takePrefix start stop
        (x :: pre, start, stop)
      else ([], x :: start, y :: stop)
  | start, stop => ([], start, stop)

/-- Stacks have their last digit first. -/
def removeTail (toRemove : ℕ) : List ℕ → List ℕ
  | x :: y :: below => if x = toRemove then removeTail toRemove (y :: below) else x :: y :: below
  | v => v

def increment : List ℕ → List ℕ
  | [] => []
  | x :: below => (x + 1) :: below

def notTerminated : Fault Dlc.Error := .panic "memory allocation failed"

/-- The prefixes from the start to the end of its first digit, and the digit after it. -/
def groupsFromStart (base : ℕ) : (fuel : ℕ) → List ℕ → Result (List (List ℕ) × List ℕ)
  | 0, _ => .error notTerminated
  | _ + 1, [] => .error (.panic "attempt to subtract with overflow")
  | _ + 1, [x] => .ok ([], [x])
  | fuel + 1, x :: y :: below => do
      let stack := x :: y :: below
      let (listed, stack') :=
        if x = base - 1 then ([stack], increment (removeTail (base - 1) (y :: below)))
        else if x = 0 then ([], removeTail 0 stack)
        else ([stack], increment stack)
      Checked.ensure (∀ d ∈ stack', d < base)
        (.panic "assertion failed: stack.iter().all(|x| x < &base)")
      let (list, last) ← groupsFromStart base fuel stack'
      return (listed ++ list, last)

/-- The prefixes below the end, given what is left of its digits after those on the stack. -/
def groupsToEnd (stop : List ℕ) : (fuel : ℕ) → List ℕ → Result (List (List ℕ))
  | 0, _ => .error notTerminated
  | fuel + 1, stack =>
      if stack = stop then .ok []
      else match stack, stop.reverse[stack.length - 1]? with
        | x :: below, some d =>
            if x = d then groupsToEnd stop fuel (0 :: x :: below)
            else do
              let list ← groupsToEnd stop fuel ((x + 1) :: below)
              return (x :: below) :: list
        | _, _ => .error (.panic "index out of bounds")

def groupByIgnoringDigits (start stop base nbDigits : ℕ) : Result (List (List ℕ)) := do
  Checked.ensure (start ≤ stop) (.panic "assertion failed: start <= end")
  let ds ← decomposeValue start base nbDigits
  let de ← decomposeValue stop base nbDigits
  let (pre, ds, de) := takePrefix ds de
  if (ds = [] ∧ de = []) ∨ ((∀ x ∈ ds, x = 0) ∧ ∀ x ∈ de, x = base - 1) then return [pre]
  else
    let ds := removeTail 0 ds.reverse
    let de := removeTail (base - 1) de.reverse
    let fuel := (base + 2) * (nbDigits + 1)
    let (first, stack) ← groupsFromStart base fuel ds
    let (middle, stack) ← between de fuel stack
    let last ← groupsToEnd de fuel stack
    return (first ++ middle ++ last ++ [de]).map fun x => pre ++ x.reverse
where
  /-- The single digits below the first of the end. -/
  between (de : List ℕ) : (fuel : ℕ) → List ℕ → Result (List (List ℕ) × List ℕ)
    | 0, _ => .error notTerminated
    | fuel + 1, stack =>
        if stack.getLast? = de.getLast? then .ok ([], stack)
        else do
          let (list, last) ← between de fuel (increment stack)
          return (stack :: list, last)

end P2PLending.Trie
