/-
Values that templates work with.

* `Value`: what an expression can stand for. A value that is missing is `undefined`; the silent
  kind comes from a choice without an alternative and does no harm.
* `Value.ofData`: documents as values.
* `Value.print`, `Value.inspect`: how a value shows on its own, and inside a list or a map.
* `Value.truth`, `Value.same`, `Value.order`: conditions and comparisons.
-/
import LabTrust.Data
import LabTrust.Decimal.Shortest
import LabTrust.Text.Quoted

namespace LabTrust.Template

/-- What an expression stands for. -/
inductive Value where
  | undefined (silent : Bool)
  | none
  | bool (b : Bool)
  | int (n : Int)
  | float (x : Float)
  /-- A text; a safe one is not escaped again. -/
  | text (s : String) (safe : Bool)
  | list (items : List Value)
  | map (entries : List (Value × Value))
  /-- A function that every template can call. -/
  | function (name : String)
  deriving Inhabited

namespace Value

/-- An ordinary text. -/
def ofText (s : String) : Value := text s false

/-- A text of one character. -/
def ofChar (c : Char) : Value := ofText (String.singleton c)

mutual

/-- A document as a value. -/
def ofData : Data → Value
  | .null => none
  | .bool b => bool b
  | .number (.int n) => int n
  | .number (.real s) => ofText s
  | .text s => ofText s
  | .list items => list (ofItems items)
  | .record fields => map (ofFields fields)
  | .unreadable => none

/-- The items of a document as values. -/
def ofItems : List Data → List Value
  | [] => []
  | d :: ds => ofData d :: ofItems ds

/-- The fields of a document as entries. -/
def ofFields : List (String × Data) → List (Value × Value)
  | [] => []
  | (name, d) :: fs => (ofText name, ofData d) :: ofFields fs

end

/-! ### Printing -/

mutual

/-- A value inside a list or a map: texts are quoted. -/
def inspect : Value → String
  | undefined _ => "undefined"
  | none => "None"
  | bool b => if b then "True" else "False"
  | int n => toString n
  | float x => Decimal.write x
  | text s _ => Text.quote s
  | list items => "[" ++ ", ".intercalate (inspectItems items) ++ "]"
  | map entries => "\x7b" ++ ", ".intercalate (inspectEntries entries) ++ "\x7d"
  | function name => name

/-- Each item of a list. -/
def inspectItems : List Value → List String
  | [] => []
  | v :: vs => inspect v :: inspectItems vs

/-- Each entry of a map. -/
def inspectEntries : List (Value × Value) → List String
  | [] => []
  | (k, v) :: es => (inspect k ++ ": " ++ inspect v) :: inspectEntries es

end

/-- A value on its own: a text shows as it is, and what is missing shows as nothing. -/
def print : Value → String
  | undefined _ => ""
  | text s _ => s
  | v => inspect v

/-! ### Conditions -/

/-- What a condition makes of a value. -/
def truth : Value → Bool
  | undefined _ | none => false
  | bool b => b
  | int n => n != 0
  | float x => x != 0
  | text s _ => !s.isEmpty
  | list items => !items.isEmpty
  | map entries => !entries.isEmpty
  | function _ => true

/-- The value is missing where it matters. -/
def isMissing : Value → Bool
  | undefined silent => !silent
  | _ => false

/-- The value is missing. -/
def isUndefined : Value → Bool
  | undefined _ => true
  | _ => false

/-- A value as a whole number. -/
def int? : Value → Option Int
  | int n => some n
  | bool b => some (if b then 1 else 0)
  | _ => .none

/-- A value as a fraction. -/
def float? : Value → Option Float
  | float x => some x
  | v => v.int?.map Float.ofInt

/-- Two values as numbers of one kind. -/
inductive Pair where
  | ints (a b : Int)
  | floats (x y : Float)

/-- Two numbers, as fractions if one of them is one. -/
def pair? (a b : Value) : Option Pair :=
  match a, b with
  | float x, b => b.float?.map (.floats x)
  | a, float y => a.float?.map (.floats · y)
  | a, b => do return .ints (← a.int?) (← b.int?)

mutual

/-- Two values are the same. -/
def same : Value → Value → Bool
  | undefined _, undefined _ => true
  | none, none => true
  | text s _, text t _ => s == t
  | list xs, list ys => sameItems xs ys
  | map xs, map ys => xs.length == ys.length && sameEntries xs ys
  | function f, function g => f == g
  | a, b =>
    match pair? a b with
    | some (.ints m n) => m == n
    | some (.floats x y) => x == y
    | .none => false

/-- Two rows of values are the same. -/
def sameItems : List Value → List Value → Bool
  | [], [] => true
  | x :: xs, y :: ys => same x y && sameItems xs ys
  | _, _ => false

/-- Each entry is found among others. -/
def sameEntries : List (Value × Value) → List (Value × Value) → Bool
  | [], _ => true
  | (k, v) :: es, others =>
    others.any (fun (l, w) => same k l && same v w) && sameEntries es others

end

/-- The place of a value's kind where kinds are compared. -/
def rank : Value → Nat
  | undefined _ => 0
  | none => 1
  | bool _ => 2
  | int _ | float _ => 3
  | text _ _ => 4
  | list _ => 6
  | map _ => 7
  | function _ => 9

mutual

/-- The order of two values. -/
def order : Value → Value → Ordering
  | text s _, text t _ => compare s t
  | list xs, list ys => orderItems xs ys
  | a, b =>
    match pair? a b with
    | some (.ints m n) => compare m n
    | some (.floats x y) => if x < y then .lt else if y < x then .gt else .eq
    | .none => compare a.rank b.rank

/-- The order of two rows of values. -/
def orderItems : List Value → List Value → Ordering
  | [], [] => .eq
  | [], _ :: _ => .lt
  | _ :: _, [] => .gt
  | x :: xs, y :: ys => (order x y).then (orderItems xs ys)

end

/-! ### Parts -/

/-- The entry of a map under a key. -/
def lookup? (key : Value) (entries : List (Value × Value)) : Option Value :=
  (entries.find? fun e => same e.1 key).map (·.2)

/-- A place in a row of `length` items; a negative one counts from the end. -/
def place? (index : Int) (length : Nat) : Option Nat :=
  if 0 ≤ index then some index.toNat
  else if index.natAbs ≤ length then some (length - index.natAbs)
  else .none

/-- A part of a value, or nothing. -/
def part? (v key : Value) : Option Value :=
  match v with
  | map entries => lookup? key entries
  | list items => do items[← place? (← key.int?) items.length]?
  | text s _ => do
    let cs := s.toList
    (cs[← place? (← key.int?) cs.length]?).map ofChar
  | _ => .none

/-- The items that a loop goes through. -/
def items? : Value → Option (List Value)
  | list items => some items
  | map entries => some (entries.map (·.1))
  | text s _ => some (s.toList.map ofChar)
  | none | undefined _ => some []
  | _ => .none

/-- How many parts a value has. -/
def length? : Value → Option Nat
  | list items => some items.length
  | map entries => some entries.length
  | text s _ => some s.length
  | _ => .none

end Value

end LabTrust.Template
