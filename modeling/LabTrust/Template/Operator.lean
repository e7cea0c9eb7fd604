/-
What operators make of values.

* `Fault`: why a template cannot be filled in.
* `BinaryOp.run`: an operator on two values. Whole numbers stay whole except under division; a
  result of more than 128 bits is a fault.
* `slice`: a part of a text or a list.
-/
import LabTrust.Template.Tree

namespace LabTrust.Template

/-- Why a template cannot be filled in. -/
inductive Fault where
  | missingValue
  | badOperand (operator : String)
  | outOfRange
  | notIterable
  | cannotUnpack
  | unknownFilter (name : String)
  | unknownTest (name : String)
  | unknownFunction (name : String)
  | badArguments (name : String)
  deriving DecidableEq, Inhabited

/-- The wording of a fault. -/
def Fault.message : Fault → String
  | missingValue => "undefined value"
  | badOperand operator => "invalid operation: " ++ operator
  | outOfRange => "number out of range"
  | notIterable => "value is not iterable"
  | cannotUnpack => "cannot unpack"
  | unknownFilter name => "unknown filter: " ++ name
  | unknownTest name => "unknown test: " ++ name
  | unknownFunction name => "unknown function: " ++ name
  | badArguments name => "invalid arguments: " ++ name

/-- A value, or why there is none. -/
abbrev Result := Except Fault Value

/-- A whole number, if it has at most 128 bits. -/
def whole (n : Int) : Result :=
  if -0x80000000000000000000000000000000 ≤ n ∧ n < 0x80000000000000000000000000000000 then .ok (.int n) else .error .outOfRange

/-- An operation on two numbers. -/
def arithmetic (name : String) (onInts : Int → Int → Result) (onFloats : Float → Float → Float)
    (a b : Value) : Result :=
  match Value.pair? a b with
  | some (.ints m n) => onInts m n
  | some (.floats x y) => .ok (.float (onFloats x y))
  | none => .error (.badOperand name)

/-- The sum of numbers; texts and lists are joined. -/
def add (a b : Value) : Result :=
  match a, b with
  | .text s _, .text t _ => .ok (.ofText (s ++ t))
  | .list xs, .list ys => .ok (.list (xs ++ ys))
  | a, b => arithmetic "+" (fun m n => whole (m + n)) (· + ·) a b

/-- The product of numbers; a text or a list is repeated. -/
def multiply (a b : Value) : Result :=
  let repeated (v : Value) (n : Int) : Result :=
    if n < 0 then .error (.badOperand "*")
    else
      match v with
      | .text s _ => .ok (.ofText (String.ofList (List.replicate n.toNat s.toList).flatten))
      | .list items => .ok (.list (List.replicate n.toNat items).flatten)
      | _ => .error (.badOperand "*")
  match a, b with
  | .text s safe, .int n | .int n, .text s safe => repeated (.text s safe) n
  | .list items, .int n | .int n, .list items => repeated (.list items) n
  | a, b => arithmetic "*" (fun m n => whole (m * n)) (· * ·) a b

/-- The quotient as a fraction. -/
def divide (a b : Value) : Result :=
  match a.float?, b.float? with
  | some x, some y => .ok (.float (x / y))
  | _, _ => .error (.badOperand "/")

/-- The fraction rounded down, the remainder being at least zero. -/
def floatFloorDivide (x y : Float) : Float :=
  let q := x / y
  let q := if q < 0 then q.ceil else q.floor
  let r := x - q * y
  if r < 0 then (if y > 0 then q - 1 else q + 1) else q

/-- The remainder of fractions, at least zero. -/
def floatRemainder (x y : Float) : Float :=
  let q := x / y
  let q := if q < 0 then q.ceil else q.floor
  let r := x - q * y
  if r < 0 then r + y.abs else r

/-- The whole part of the quotient; the remainder is at least zero. -/
def floorDivide (a b : Value) : Result :=
  arithmetic "//" (fun m n => if n = 0 then .error (.badOperand "//") else whole (m / n))
    floatFloorDivide a b

/-- The remainder, at least zero. -/
def remainder (a b : Value) : Result :=
  arithmetic "%" (fun m n => if n = 0 then .error (.badOperand "%") else whole (m % n))
    floatRemainder a b

/-- A power. -/
def power (a b : Value) : Result :=
  arithmetic "**" (fun m n => if n < 0 ∨ 127 < n ∧ 1 < m.natAbs then .error (.badOperand "**")
    else whole (m.pow n.toNat)) Float.pow a b

/-- A text found in a text. -/
def isInfix (part : List Char) : List Char → Bool
  | [] => part.isEmpty
  | c :: rest => part.isPrefixOf (c :: rest) || isInfix part rest

/-- The second value holds the first. -/
def contains (part container : Value) : Result :=
  match container with
  | .text s _ => .ok (.bool (isInfix part.print.toList s.toList))
  | .list items => .ok (.bool (items.any (Value.same · part)))
  | .map entries => .ok (.bool (Value.lookup? part entries).isSome)
  | .undefined true => .ok (.bool false)
  | _ => .error (.badOperand "in")

/-- A comparison of two values that are there. -/
def compared (a b : Value) (f : Bool) : Result :=
  if a.isMissing || b.isMissing then .error .missingValue else .ok (.bool f)

/-- An operator on two values. -/
def BinaryOp.run (op : BinaryOp) (a b : Value) : Result :=
  match op with
  | add => Template.add a b
  | subtract => arithmetic "-" (fun m n => whole (m - n)) (· - ·) a b
  | multiply => Template.multiply a b
  | divide => Template.divide a b
  | floorDivide => Template.floorDivide a b
  | remainder => Template.remainder a b
  | power => Template.power a b
  | concat => .ok (.ofText (a.print ++ b.print))
  | equal => compared a b (Value.same a b)
  | notEqual => compared a b (!Value.same a b)
  | less => compared a b (Value.order a b == .lt)
  | lessEqual => compared a b (Value.order a b != .gt)
  | greater => compared a b (Value.order a b == .gt)
  | greaterEqual => compared a b (Value.order a b != .lt)
  | contains => if b.isMissing then .error .missingValue else Template.contains a b

/-- A number with the opposite sign. -/
def negated : Value → Result
  | .float x => .ok (.float (-x))
  | v =>
    match v.int? with
    | some n => whole (-n)
    | none => .error (.badOperand "-")

/-! ### Slices -/

/-- Every `step`-th item. -/
def everyNth {α : Type} (step : Nat) : Nat → List α → List α
  | _, [] => []
  | 0, x :: xs => x :: everyNth step (step - 1) xs
  | wait + 1, _ :: xs => everyNth step wait xs

/-- Items from `start` to before `stop`, going forward. A bound before the beginning lies beyond
the end. -/
def sliceForward {α : Type} (start : Int) (stop : Option Int) (step : Nat) (xs : List α) : List α :=
  let beyond := UInt64.size
  let fromEnd (n : Int) : Nat :=
    if 0 ≤ n then n.toNat else if n.natAbs ≤ xs.length then xs.length - n.natAbs else beyond
  let first := fromEnd start
  let last := match stop with
    | some n => fromEnd n
    | none => xs.length
  everyNth step 0 ((xs.drop first).take (last - first))

/-- Items from `start` down to `stop`. -/
def sliceBackward {α : Type} (start stop : Option Int) (step : Nat) (xs : List α) : List α :=
  let length : Int := xs.length
  let first : Nat := match start with
    | none => (length - 1).toNat
    | some n => if n ≥ length then (length - 1).toNat else if n ≥ 0 then n.toNat
      else (length + n).toNat
  let last : Nat := match stop with
    | none => 0
    | some n => if n < 0 then (length + n).toNat else n.toNat
  let count := if last = 0 then (first + step) / step else (first - last + step - 1) / step
  (everyNth step 0 ((xs.take (first + 1)).drop last).reverse).take count

/-- A part of a row of items. -/
def sliceItems {α : Type} (start stop : Option Int) (step : Int) (xs : List α) : List α :=
  if 0 < step then sliceForward (start.getD 0) stop step.toNat xs
  else sliceBackward start stop step.natAbs xs

/-- A bound of a slice. -/
def bound (v : Value) : Except Fault (Option Int) :=
  match v with
  | .none => .ok none
  | v =>
    match v.int? with
    | some n => .ok (some n)
    | none => .error (.badOperand "slice")

/-- A part of a text or a list. -/
def slice (v start stop step : Value) : Result := do
  let start ← bound start
  let stop ← bound stop
  let step := (← bound step).getD 1
  if step = 0 then .error (.badOperand "slice")
  else
    match v with
    | .text s _ => .ok (.ofText (String.ofList (sliceItems start stop step s.toList)))
    | .list items => .ok (.list (sliceItems start stop step items))
    | .none | .undefined true => .ok (.list [])
    | .undefined false => .error .missingValue
    | _ => .error (.badOperand "slice")

end LabTrust.Template
