/-
The tree that documents are read into, and how records are taken out of it.

* `Data`: null, truth values, numbers, text, lists and records. A record keeps the order and the
  repetitions of its fields.
* `Data.fields?`: the values of the named fields of a record. A record may also be written as the
  list of its values in order; a named field that is given twice spoils it; other names do not
  matter.
* `Data.variant?`: the choice that a text makes, or a record of one field without content.
* `field`, `fieldOr`: a needed value, and a value with a default.
-/

namespace LabTrust

/-- A number as documents write it. -/
inductive Numeral where
  /-- Digits alone. -/
  | int (value : Int)
  /-- A fraction, an exponent or a negative zero, as spelled. -/
  | real (spelling : String)
  deriving DecidableEq, Inhabited

/-- A document. -/
inductive Data where
  | null
  | bool (value : Bool)
  | number (value : Numeral)
  | text (value : String)
  | list (items : List Data)
  | record (fields : List (String × Data))
  /-- Text that was written but stands for no characters. -/
  | unreadable
  deriving Inhabited

namespace Data

/-! ### Values -/

/-- A truth value. -/
def bool? : Data → Option Bool
  | bool b => some b
  | _ => none

/-- A text. -/
def text? : Data → Option String
  | text s => some s
  | _ => none

/-- An integer from `low` to `high`. -/
def int? (low high : Int) : Data → Option Int
  | number (.int n) => if low ≤ n ∧ n ≤ high then some n else none
  | _ => none

/-- A number from zero to below `bound`. -/
def nat? (bound : Nat) (d : Data) : Option Nat :=
  (d.int? 0 (bound - 1)).map Int.toNat

/-- A list of values of one kind. -/
def list? {α : Type} (item? : Data → Option α) : Data → Option (List α)
  | list items => items.mapM item?
  | _ => none

/-- Nothing, or a value. -/
def optional? {α : Type} (value? : Data → Option α) : Data → Option (Option α)
  | null => some none
  | d => (value? d).map some

/-- A record of values of one kind. -/
def entries? {α : Type} (value? : Data → Option α) : Data → Option (List (String × α))
  | record fields => fields.mapM fun field => (value? field.2).map (field.1, ·)
  | _ => none

/-- The value of a field of a record, if there is one. -/
def get? (name : String) : Data → Option Data
  | record fields => fields.lookup name
  | _ => none

/-! ### Records and choices -/

/-- The value of a field that is given at most once; `none` if it is given twice. -/
def once? (name : String) (fields : List (String × Data)) : Option (Option Data) :=
  match fields.filter (·.1 == name) with
  | [] => some none
  | [field] => some (some field.2)
  | _ => none

/-- The values of the named fields, in the order of the names. -/
def fields? (names : List String) : Data → Option (List (Option Data))
  | record fields => names.mapM (once? · fields)
  | list items =>
    if items.length ≤ names.length then
      some (items.map some ++ List.replicate (names.length - items.length) none)
    else none
  | _ => none

/-- The name of a choice. `unit` tells what the record form may hold beside the name. -/
def variant? (unit : Data → Bool) : Data → Option String
  | text name => some name
  | record [(name, content)] => if unit content then some name else none
  | _ => none

/-- The value of a field that has to be there. -/
def field {α : Type} (value? : Data → Option α) (d : Option Data) : Option α :=
  d.bind value?

/-- The value of a field, or its default. -/
def fieldOr {α : Type} (default : α) (value? : Data → Option α) : Option Data → Option α
  | none => some default
  | some d => value? d

end Data

end LabTrust
