/-
Reading TOML.

* `value?`: a value: a string, a list, a table in one line, or a word. Lists and tables nest at
  most `deepest` times.
* `Line`: a line of a document: a key with its value, or a header.
* `Toml.read`: a whole document as a record.
-/
import LabTrust.Toml.Quoted
import LabTrust.Toml.Scalar
import LabTrust.Toml.Table

namespace LabTrust.Toml

/-- The deepest nesting of lists and tables in a value. -/
def deepest : Nat := 80

/-- The text after blanks inside a line. -/
def skipGap (s : List Char) : List Char := s.dropWhile isGap

/-- The text after a remark at its front; none if the remark holds a control. -/
def remark? : List Char → Option (List Char)
  | '#' :: s => some (s.dropWhile isPlain)
  | s => some s

/-- The text after blanks, remarks and line ends. -/
def skipSpace : Nat → List Char → Option (List Char)
  | 0, s => some s
  | fuel + 1, s =>
    match skipGap s with
    | '#' :: rest => skipSpace fuel (rest.dropWhile isPlain)
    | s =>
      match lineEnd? s with
      | some rest => skipSpace fuel rest
      | none => some s

/-! ### Keys -/

/-- The characters of a key without quotes. -/
def isBare (c : Char) : Bool := c.isAlphanum || c = '_' || c = '-'

/-- A part of a key. -/
def keyPart? (s : List Char) : Option (String × List Char) :=
  match s with
  | c :: _ =>
    if isBare c then some (String.ofList (s.takeWhile isBare), s.dropWhile isBare)
    else (shortString? s).map fun (key, rest) => (String.ofList key, rest)
  | [] => none

/-- A key: parts with points between them. -/
def key? : Nat → List Char → Option (List String × List Char)
  | 0, _ => none
  | fuel + 1, s =>
    (keyPart? (skipGap s)).bind fun (part, rest) =>
      match skipGap rest with
      | '.' :: rest => (key? fuel rest).map fun (parts, rest) => (part :: parts, rest)
      | rest => some ([part], rest)

/-! ### Values -/

/-- The characters of words. -/
def isWord (c : Char) : Bool := isBare c || c = '+' || c = '.' || c = ':'

/-- A word; a blank between a date and a time of day belongs to it. -/
def word (s : List Char) : List Char × List Char :=
  let first := s.takeWhile isWord
  let rest := s.dropWhile isWord
  match rest with
  | ' ' :: d :: _ =>
    if d.isDigit && date? first == some [] then
      (first ++ ' ' :: (rest.drop 1).takeWhile isWord, (rest.drop 1).dropWhile isWord)
    else (first, rest)
  | _ => (first, rest)

mutual

/-- A value at the front of a text. -/
def value? : Nat → Nat → List Char → Option (Data × List Char)
  | 0, _, _ => none
  | fuel + 1, depth, s =>
    match s with
    | '[' :: rest =>
      match depth with
      | 0 => none
      | depth + 1 => (items? fuel depth rest).map fun (ds, rest) => (.list ds, rest)
    | '\x7b' :: rest =>
      match depth with
      | 0 => none
      | depth + 1 =>
        match skipGap rest with
        | '\x7d' :: rest => some (.record [], rest)
        | rest =>
          (fields? fuel depth [] rest).map fun (es, rest) => (.record (closeEntries es), rest)
    | c :: _ =>
      if c = '"' ∨ c = apostrophe then
        (string? s).map fun (text, rest) => (.text (String.ofList text), rest)
      else
        let (spelling, rest) := word s
        (scalar? spelling).map fun d => (d, rest)
    | [] => none

/-- The items of a list up to its closing bracket. -/
def items? : Nat → Nat → List Char → Option (List Data × List Char)
  | 0, _, _ => none
  | fuel + 1, depth, s =>
    (skipSpace s.length s).bind fun s =>
      match s with
      | ']' :: rest => some ([], rest)
      | s =>
        (value? fuel depth s).bind fun (d, rest) =>
          (skipSpace rest.length rest).bind fun rest =>
            match rest with
            | ',' :: rest => (items? fuel depth rest).map fun (ds, rest) => (d :: ds, rest)
            | ']' :: rest => some ([d], rest)
            | _ => none

/-- The fields of a table in one line up to its closing brace, after those already read. -/
def fields? : Nat → Nat → Entries → List Char → Option (Entries × List Char)
  | 0, _, _, _ => none
  | fuel + 1, depth, es, s =>
    (key? (s.length + 1) s).bind fun (key, rest) =>
      match rest with
      | '=' :: rest =>
        (value? fuel depth (skipGap rest)).bind fun (d, rest) =>
          (es.put (key.getLastD "") d key.dropLast).bind fun es =>
            match skipGap rest with
            | ',' :: rest => fields? fuel depth es rest
            | '\x7d' :: rest => some (es, rest)
            | _ => none
      | _ => none

end

/-! ### Documents -/

/-- A line of a document. -/
inductive Line where
  | pair (key : List String) (d : Data)
  | table (key : List String)
  | item (key : List String)
  | empty

/-- A line without its remark and its end. -/
def documentLine? (s : List Char) : Option (Line × List Char) :=
  match skipGap s with
  | '[' :: '[' :: rest =>
    (key? (rest.length + 1) rest).bind fun (key, rest) =>
      match rest with
      | ']' :: ']' :: rest => some (.item key, rest)
      | _ => none
  | '[' :: rest =>
    (key? (rest.length + 1) rest).bind fun (key, rest) =>
      match rest with
      | ']' :: rest => some (.table key, rest)
      | _ => none
  | '#' :: rest => some (.empty, '#' :: rest)
  | [] => some (.empty, [])
  | s =>
    match lineEnd? s with
    | some _ => some (.empty, s)
    | none =>
      (key? (s.length + 1) s).bind fun (key, rest) =>
        match rest with
        | '=' :: rest =>
          (value? (2 * rest.length + 2) deepest (skipGap rest)).map fun (d, rest) =>
            (.pair key d, rest)
        | _ => none

/-- The lines of a document. -/
def lines : Nat → List Char → Option (List Line)
  | 0, _ => none
  | fuel + 1, s =>
    (documentLine? s).bind fun (line, rest) =>
      (remark? (skipGap rest)).bind fun rest =>
        match rest with
        | [] => some [line]
        | rest =>
          (lineEnd? rest).bind fun rest => (lines fuel rest).map (line :: ·)

/-- A document and the header that holds for what follows. -/
abbrev Open := Entries × List String

/-- What a line adds to a document. -/
def add (state : Open) : Line → Option Open
  | .empty => some state
  | .pair key d =>
    (state.1.within (Entries.put (key.getLastD "") d key.dropLast) state.2).map (·, state.2)
  | .table key =>
    (state.1.within (Entries.openTable (key.getLastD "")) key.dropLast).map (·, key)
  | .item key =>
    (state.1.within (Entries.openItem (key.getLastD "")) key.dropLast).map (·, key)

/-- The record that a document gives. -/
def read (text : String) : Option Data :=
  let s := match text.toList with
    | c :: rest => if c.toNat = 0xfeff then rest else c :: rest
    | [] => []
  (lines (s.length + 1) s).bind fun ls =>
    (ls.foldlM add ([], [])).map fun state => .record (closeEntries state.1)

/-- The record form of a choice holds an empty table or list. -/
def isUnit : Data → Bool
  | .record [] | .list [] => true
  | _ => false

end LabTrust.Toml
