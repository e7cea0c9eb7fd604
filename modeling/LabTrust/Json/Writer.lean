/-
Writing JSON.

* `quote`: a string. A quote, a backslash and controls are escaped; all else is written as it is.
* `write`: a document in one line; `writePretty`: a document with one item a line, each level two
  blanks further in.
-/
import LabTrust.Bytes
import LabTrust.Data

namespace LabTrust.Json

/-- One character of a string. -/
def escapeChar (c : Char) : List Char :=
  if c = '"' then ['\\', '"']
  else if c = '\\' then ['\\', '\\']
  else if c = '\n' then ['\\', 'n']
  else if c = '\x0d' then ['\\', 'r']
  else if c = '\t' then ['\\', 't']
  else if c = '\x08' then ['\\', 'b']
  else if c = '\x0c' then ['\\', 'f']
  else if c.toNat < 32 then ['\\', 'u', '0', '0'] ++ Bytes.hexPair (UInt8.ofNat c.toNat)
  else [c]

/-- A string between quotes. -/
def quote (s : String) : String :=
  String.ofList ('"' :: s.toList.flatMap escapeChar ++ ['"'])

/-- A number. -/
def writeNumeral : Numeral → String
  | .int n => toString n
  | .real spelling => spelling

mutual

/-- A document in one line. -/
def write : Data → String
  | .null => "null"
  | .bool b => if b then "true" else "false"
  | .number n => writeNumeral n
  | .text s => quote s
  | .list items => "[" ++ ",".intercalate (writeItems items) ++ "]"
  | .record fields => "\x7b" ++ ",".intercalate (writeFields fields) ++ "\x7d"
  | .unreadable => "null"

/-- Each item of a list. -/
def writeItems : List Data → List String
  | [] => []
  | d :: ds => write d :: writeItems ds

/-- Each field of a record. -/
def writeFields : List (String × Data) → List String
  | [] => []
  | (name, d) :: fs => (quote name ++ ":" ++ write d) :: writeFields fs

end

/-- The line break before an item at a level. -/
def indent (level : Nat) : String :=
  "\n" ++ String.ofList (List.replicate (2 * level) ' ')

mutual

/-- A document with one item a line, as part of `level` others. -/
def writeAt (level : Nat) : Data → String
  | .list [] => "[]"
  | .list (d :: ds) =>
    "[" ++ ",".intercalate (writeItemsAt (level + 1) (d :: ds)) ++ indent level ++ "]"
  | .record [] => "\x7b\x7d"
  | .record (f :: fs) =>
    "\x7b" ++ ",".intercalate (writeFieldsAt (level + 1) (f :: fs)) ++ indent level ++ "\x7d"
  | d => write d

/-- Each item of a list on a line of its own. -/
def writeItemsAt (level : Nat) : List Data → List String
  | [] => []
  | d :: ds => (indent level ++ writeAt level d) :: writeItemsAt level ds

/-- Each field of a record on a line of its own. -/
def writeFieldsAt (level : Nat) : List (String × Data) → List String
  | [] => []
  | (name, d) :: fs =>
    (indent level ++ quote name ++ ": " ++ writeAt level d) :: writeFieldsAt level fs

end

/-- A document with one item a line. -/
def writePretty (d : Data) : String :=
  writeAt 0 d

end LabTrust.Json
