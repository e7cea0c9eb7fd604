/-
The content of a template.

* `Expr`: what stands between the marks of a value, and in statements.
* `Target`: the names that a value is given to.
* `Piece`: text, a value, or a statement with the pieces inside it.
-/
import LabTrust.Template.Value

namespace LabTrust.Template

/-- An operation on two values. -/
inductive BinaryOp where
  | add
  | subtract
  | multiply
  | divide
  | floorDivide
  | remainder
  | power
  | concat
  | equal
  | notEqual
  | less
  | lessEqual
  | greater
  | greaterEqual
  | contains
  deriving DecidableEq, Inhabited

/-- An expression. -/
inductive Expr where
  | literal (v : Value)
  | name (s : String)
  | attribute (e : Expr) (name : String)
  | item (e key : Expr)
  | slice (e : Expr) (start stop step : Option Expr)
  | list (items : List Expr)
  | map (entries : List (Expr × Expr))
  | negate (e : Expr)
  | not (e : Expr)
  | binary (op : BinaryOp) (a b : Expr)
  | and (a b : Expr)
  | or (a b : Expr)
  /-- `yes if condition else no`. -/
  | choose (condition yes : Expr) (no : Option Expr)
  | filter (name : String) (e : Expr) (args : List Expr) (named : List (String × Expr))
  | test (name : String) (e : Expr) (args : List Expr)
  | call (f : Expr) (args : List Expr) (named : List (String × Expr))
  deriving Inhabited

/-- Names for a value, or for its parts in order. -/
inductive Target where
  | name (s : String)
  | parts (ts : List Target)
  deriving Inhabited

/-- A piece of a template. -/
inductive Piece where
  | text (s : List Char)
  | value (e : Expr)
  | branch (condition : Expr) (yes no : List Piece)
  | loop (target : Target) (items : Expr) (keep : Option Expr) (body otherwise : List Piece)
  | assign (target : Target) (e : Expr)
  | scope (bindings : List (Target × Expr)) (body : List Piece)
  deriving Inhabited

end LabTrust.Template
