/-
Reading JSON.

The reader works on characters and stray bytes (`Bytes.symbols`). It is lenient inside strings: a
string with a stray byte, or with half a surrogate pair, is kept as `Data.unreadable`, so that
it does no harm where its value does not matter.
* `number?`, `string?`: the lexemes.
* `value?`, `items?`, `fields?`: documents, by the nesting depth that is left.
* `Json.read`: a whole document, with blanks around it.
-/
import LabTrust.Bytes
import LabTrust.Data

namespace LabTrust.Json

/-- A character, or a byte that belongs to none. -/
abbrev Symbol := Option Char

/-! ### Blanks and words -/

/-- The four blanks of the format. -/
def isSpace (s : Symbol) : Bool :=
  s == some ' ' || s == some '\n' || s == some '\t' || s == some '\x0d'

/-- The text after the blanks at its front. -/
def skipSpace (s : List Symbol) : List Symbol :=
  s.dropWhile isSpace

/-- The text after a word at its front. -/
def word? : List Char → List Symbol → Option (List Symbol)
  | [], s => some s
  | c :: word, some d :: s => if c = d then word? word s else none
  | _ :: _, _ => none

/-! ### Strings -/

/-- A part of a string: a character, a sixteen-bit code, or a byte that belongs to no character. -/
inductive Piece where
  | char (c : Char)
  | code (n : Nat)
  | stray
  deriving DecidableEq

/-- What a letter after a backslash stands for. -/
def escape? (c : Char) : Option Char :=
  if c = '"' ∨ c = '\\' ∨ c = '/' then some c
  else if c = 'b' then some '\x08'
  else if c = 'f' then some '\x0c'
  else if c = 'n' then some '\n'
  else if c = 'r' then some '\x0d'
  else if c = 't' then some '\t'
  else none

/-- The value of a hex digit. -/
def hex? : Symbol → Option Nat
  | some c => Bytes.hexValue? c
  | none => none

/-- The parts of a string up to its closing quote, and the text after that. -/
def pieces? : List Symbol → Option (List Piece × List Symbol)
  | [] => none
  | none :: rest => (pieces? rest).map fun (ps, r) => (.stray :: ps, r)
  | some '"' :: rest => some ([], rest)
  | some '\\' :: some 'u' :: a :: b :: c :: d :: rest => do
    let code := 4096 * (← hex? a) + 256 * (← hex? b) + 16 * (← hex? c) + (← hex? d)
    let (ps, r) ← pieces? rest
    return (.code code :: ps, r)
  | some '\\' :: some e :: rest => do
    let c ← escape? e
    let (ps, r) ← pieces? rest
    return (.char c :: ps, r)
  | some '\\' :: _ => none
  | some c :: rest =>
    if c.toNat < 32 then none else (pieces? rest).map fun (ps, r) => (.char c :: ps, r)

/-- The characters of parts; a code that is half of a pair needs the other half after it. -/
def assemble? : List Piece → Option (List Char)
  | [] => some []
  | .stray :: _ => none
  | .char c :: rest => (assemble? rest).map (c :: ·)
  | .code n :: rest =>
    if 0xd800 ≤ n ∧ n < 0xdc00 then
      match rest with
      | .code m :: rest' =>
        if 0xdc00 ≤ m ∧ m < 0xe000 then
          (assemble? rest').map (Char.ofNat (0x10000 + 0x400 * (n - 0xd800) + (m - 0xdc00)) :: ·)
        else none
      | _ => none
    else if 0xdc00 ≤ n ∧ n < 0xe000 then none
    else (assemble? rest).map (Char.ofNat n :: ·)

/-- A string after its opening quote: its characters, if they can be read, and the rest. -/
def string? (s : List Symbol) : Option (Option String × List Symbol) :=
  (pieces? s).map fun (ps, rest) => ((assemble? ps).map String.ofList, rest)

/-! ### Numbers -/

/-- A symbol that is a digit. -/
def isDigit : Symbol → Bool
  | some c => c.isDigit
  | none => false

/-- The digits at the front, and the text after them. -/
def digits (s : List Symbol) : List Char × List Symbol :=
  ((s.takeWhile isDigit).filterMap id, s.dropWhile isDigit)

/-- The value of decimal digits. -/
def decimal (ds : List Char) : Nat :=
  ds.foldl (fun n c => 10 * n + (c.toNat - 48)) 0

/-- Digits without a needless zero in front. -/
def whole? (s : List Symbol) : Option (List Char × List Symbol) :=
  match digits s with
  | ([], _) => none
  | ('0' :: _ :: _, _) => none
  | (ds, rest) => some (ds, rest)

/-- A point and its digits; `none` if the digits are missing. -/
def fraction? : List Symbol → Option (List Char × List Symbol)
  | some '.' :: s =>
    match digits s with
    | ([], _) => none
    | (ds, rest) => some ('.' :: ds, rest)
  | s => some ([], s)

/-- An exponent; `none` if its digits are missing. -/
def exponent? : List Symbol → Option (List Char × List Symbol)
  | some e :: s =>
    if e = 'e' ∨ e = 'E' then
      let (sign, s) := match s with
        | some '+' :: r => (['+'], r)
        | some '-' :: r => (['-'], r)
        | s => ([], s)
      match digits s with
      | ([], _) => none
      | (ds, rest) => some ('e' :: sign ++ ds, rest)
    else some ([], some e :: s)
  | s => some ([], s)

/-- A number without its sign. -/
def unsigned? (negative : Bool) (s : List Symbol) : Option (Numeral × List Symbol) := do
  let (ds, s) ← whole? s
  let (point, s) ← fraction? s
  let (power, s) ← exponent? s
  if point.isEmpty && power.isEmpty && !(negative && ds == ['0']) then
    return (.int (if negative then -(decimal ds : Int) else decimal ds), s)
  else
    return (.real (String.ofList ((if negative then ['-'] else []) ++ ds ++ point ++ power)), s)

/-- A number. -/
def number? : List Symbol → Option (Numeral × List Symbol)
  | some '-' :: s => unsigned? true s
  | s => unsigned? false s

/-! ### Documents -/

/-- A record of read names and values; one name that cannot be read makes it unreadable. -/
def recordOf (fields : List (Option String × Data)) : Data :=
  match fields.mapM fun (name, value) => name.map (·, value) with
  | some named => .record named
  | none => .unreadable

mutual

/-- A value at the front of a text without blanks before it. -/
def value? : Nat → List Symbol → Option (Data × List Symbol)
  | 0, _ => none
  | depth + 1, s =>
    match s with
    | some '{' :: rest =>
      match skipSpace rest with
      | some '}' :: rest => some (.record [], rest)
      | rest => (fields? depth rest).map fun (fs, r) => (recordOf fs, r)
    | some '[' :: rest =>
      match skipSpace rest with
      | some ']' :: rest => some (.list [], rest)
      | rest => (items? depth rest).map fun (ds, r) => (.list ds, r)
    | some '"' :: rest =>
      (string? rest).map fun (text, r) => (text.elim .unreadable .text, r)
    | some 't' :: _ => (word? ['t', 'r', 'u', 'e'] s).map (.bool true, ·)
    | some 'f' :: _ => (word? ['f', 'a', 'l', 's', 'e'] s).map (.bool false, ·)
    | some 'n' :: _ => (word? ['n', 'u', 'l', 'l'] s).map (.null, ·)
    | _ => (number? s).map fun (n, r) => (.number n, r)

/-- The values of a list that has at least one, up to its closing bracket. -/
def items? : Nat → List Symbol → Option (List Data × List Symbol)
  | 0, _ => none
  | depth + 1, s =>
    match value? depth s with
    | none => none
    | some (d, rest) =>
      match skipSpace rest with
      | some ',' :: rest => (items? depth (skipSpace rest)).map fun (ds, r) => (d :: ds, r)
      | some ']' :: rest => some ([d], rest)
      | _ => none

/-- The fields of a record that has at least one, up to its closing brace. -/
def fields? : Nat → List Symbol → Option (List (Option String × Data) × List Symbol)
  | 0, _ => none
  | depth + 1, s =>
    match s with
    | some '"' :: rest =>
      match string? rest with
      | none => none
      | some (name, rest) =>
        match skipSpace rest with
        | some ':' :: rest =>
          match value? depth (skipSpace rest) with
          | none => none
          | some (d, rest) =>
            match skipSpace rest with
            | some ',' :: rest =>
              (fields? depth (skipSpace rest)).map fun (fs, r) => ((name, d) :: fs, r)
            | some '}' :: rest => some ([(name, d)], rest)
            | _ => none
        | _ => none
    | _ => none

end

/-- A whole document: one value with blanks around it. -/
def readSymbols (s : List Symbol) : Option Data :=
  match value? (s.length + 1) (skipSpace s) with
  | some (d, rest) => if (skipSpace rest).isEmpty then some d else none
  | none => none

/-- The document that a byte string spells. -/
def read (bs : Bytes) : Option Data :=
  readSymbols bs.symbols

/-- The record form of a choice holds null. -/
def isUnit : Data → Bool
  | .null => true
  | _ => false

end LabTrust.Json
