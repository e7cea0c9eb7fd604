/-
Tables of TOML while they are being read.

A table is made by a header, by a dotted key, or on the way to a table further in; which of these
decides what may still be added to it.
* `Node`: a value, a table, or a list of tables of which the last is open.
* `put`: gives a key of the table under a header a value.
* `openTable`, `openItem`: the headers of a table, and of a further table of a list.
* `close`: the table as a document.
-/
import LabTrust.Data

namespace LabTrust.Toml

/-- How a table came about. -/
inductive Origin where
  /-- On the way to a table further in. -/
  | passing
  /-- By a header of its own, or as the document. -/
  | header
  /-- By a dotted key. -/
  | dotted
  deriving DecidableEq, Inhabited

/-- What stands under a key. -/
inductive Node where
  | value (d : Data)
  | table (origin : Origin) (entries : List (String × Node))
  | tables (items : List (List (String × Node))) (last : List (String × Node))
  deriving Inhabited

/-- The entries of a table. -/
abbrev Entries := List (String × Node)

namespace Entries

/-- What stands under a key. -/
def find? (es : Entries) (key : String) : Option Node := es.lookup key

/-- Puts something under a key. -/
def set (key : String) (node : Node) : Entries → Entries
  | [] => [(key, node)]
  | (k, n) :: es => if k = key then (k, node) :: es else (k, n) :: set key node es

/-- Changes what stands under a key; what is new stands at the end. -/
def alter (key : String) (f : Option Node → Option Node) (es : Entries) : Option Entries :=
  (f (es.find? key)).map (es.set key ·)

/-- Changes the open table that a header leads to. -/
def within (f : Entries → Option Entries) : List String → Entries → Option Entries
  | [], es => f es
  | key :: path, es =>
    es.alter key fun
      | none => (within f path []).map (.table .passing ·)
      | some (.table origin inner) => (within f path inner).map (.table origin ·)
      | some (.tables items last) => (within f path last).map (.tables items ·)
      | some (.value _) => none

/-- Gives a key, with the keys that lead to it, a value. Tables on the way are the dotted key's
own. -/
def put (key : String) (d : Data) : List String → Entries → Option Entries
  | [], es =>
    es.alter key fun
      | none => some (.value d)
      | some _ => none
  | step :: path, es =>
    es.alter step fun
      | none => (put key d path []).map (.table .dotted ·)
      | some (.table .dotted inner) => (put key d path inner).map (.table .dotted ·)
      | some (.table .passing inner) =>
        match path with
        | [] => none
        | path => (put key d path inner).map (.table .passing ·)
      | some _ => none

/-- The header of a table. -/
def openTable (key : String) (es : Entries) : Option Entries :=
  es.alter key fun
    | none => some (.table .header [])
    | some (.table .passing inner) => some (.table .header inner)
    | some _ => none

/-- The header of a further table of a list. -/
def openItem (key : String) (es : Entries) : Option Entries :=
  es.alter key fun
    | none => some (.tables [] [])
    | some (.tables items last) => some (.tables (items ++ [last]) [])
    | some _ => none

end Entries

mutual

/-- What stands under a key, as a document. -/
def Node.close : Node → Data
  | .value d => d
  | .table _ entries => .record (closeEntries entries)
  | .tables items last => .list (closeTables items ++ [.record (closeEntries last)])

/-- A table as the fields of a record. -/
def closeEntries : List (String × Node) → List (String × Data)
  | [] => []
  | (key, node) :: es => (key, node.close) :: closeEntries es

/-- Tables as records. -/
def closeTables : List (List (String × Node)) → List Data
  | [] => []
  | es :: rest => .record (closeEntries es) :: closeTables rest

end

end LabTrust.Toml
