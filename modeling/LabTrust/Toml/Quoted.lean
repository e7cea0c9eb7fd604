/-
The four kinds of strings of TOML.

* `string?`: a string of any kind at the front of a text. Between single marks a string stays in
  its line; between triple marks it may hold line ends, the first of which does not count.
* `escape?`: what a backslash stands for, in strings between double quotes.
-/
import LabTrust.Bytes

namespace LabTrust.Toml

/-- The apostrophe. -/
def apostrophe : Char := Char.ofNat 39

/-- A blank inside a line. -/
def isGap (c : Char) : Bool := c = ' ' || c = '\t'

/-- A character that strings and remarks may hold as it is. -/
def isPlain (c : Char) : Bool :=
  c = '\t' || (decide (0x20 ≤ c.toNat) && c.toNat != 0x7f)

/-- The text after a line end at its front. -/
def lineEnd? : List Char → Option (List Char)
  | '\n' :: rest => some rest
  | '\x0d' :: '\n' :: rest => some rest
  | _ => none

/-- The number of hex digits; none if there is another character. -/
def hexNumber? (ds : List Char) : Option Nat :=
  ds.foldlM (fun n c => (Bytes.hexValue? c).map (16 * n + ·)) 0

/-- The character of a code that takes `width` digits, and the text after it. -/
def code? (width : Nat) (s : List Char) : Option (Char × List Char) :=
  if (s.take width).length = width then
    (hexNumber? (s.take width)).bind fun n =>
      if n < 0xd800 ∨ 0xe000 ≤ n ∧ n < 0x110000 then some (Char.ofNat n, s.drop width) else none
  else none

/-- What stands after a backslash: a character, and the text after it. -/
def escape? : List Char → Option (Char × List Char)
  | [] => none
  | c :: rest =>
    if c = 'b' then some ('\x08', rest)
    else if c = 't' then some ('\t', rest)
    else if c = 'n' then some ('\n', rest)
    else if c = 'f' then some ('\x0c', rest)
    else if c = 'r' then some ('\x0d', rest)
    else if c = '"' ∨ c = '\\' then some (c, rest)
    else if c = 'u' then code? 4 rest
    else if c = 'U' then code? 8 rest
    else none

/-- The text after blanks and line ends. -/
def skipLines : Nat → List Char → List Char
  | 0, s => s
  | fuel + 1, s =>
    match s with
    | c :: rest => if isGap c then skipLines fuel rest else (lineEnd? s).elim s (skipLines fuel)
    | [] => []

/-- A backslash at the end of its line: the text after all blanks and line ends that follow. -/
def joinedLine? (s : List Char) : Option (List Char) :=
  (lineEnd? (s.dropWhile isGap)).map fun rest => skipLines rest.length rest

/-- A string of one line up to its mark. -/
def line? (mark : Char) : Nat → List Char → Option (List Char × List Char)
  | 0, _ => none
  | _, [] => none
  | fuel + 1, c :: rest =>
    if c = mark then some ([], rest)
    else if c = '\\' ∧ mark = '"' then
      (escape? rest).bind fun (d, rest) => (line? mark fuel rest).map fun (s, r) => (d :: s, r)
    else if isPlain c then (line? mark fuel rest).map fun (s, r) => (c :: s, r)
    else none

/-- A string of several lines up to its marks. Of up to five marks at its end the last three close
it. -/
def lines? (mark : Char) : Nat → List Char → Option (List Char × List Char)
  | 0, _ => none
  | _, [] => none
  | fuel + 1, c :: rest =>
    if c = mark then
      let count := ((c :: rest).takeWhile (· = mark)).length
      if 3 ≤ count then
        let kept := min (count - 3) 2
        some (List.replicate kept mark, rest.drop (kept + 2))
      else (lines? mark fuel rest).map fun (s, r) => (c :: s, r)
    else if c = '\\' ∧ mark = '"' then
      match joinedLine? rest with
      | some rest => lines? mark fuel rest
      | none =>
        (escape? rest).bind fun (d, rest) => (lines? mark fuel rest).map fun (s, r) => (d :: s, r)
    else
      match lineEnd? (c :: rest) with
      | some rest => (lines? mark fuel rest).map fun (s, r) => ('\n' :: s, r)
      | none =>
        if isPlain c then (lines? mark fuel rest).map fun (s, r) => (c :: s, r) else none

/-- A string of one line that begins with either mark. -/
def shortString? (s : List Char) : Option (List Char × List Char) :=
  match s with
  | c :: rest => if c = '"' ∨ c = apostrophe then line? c (rest.length + 1) rest else none
  | [] => none

/-- A string of any kind. -/
def string? (s : List Char) : Option (List Char × List Char) :=
  match s with
  | a :: b :: c :: rest =>
    if (a = '"' ∨ a = apostrophe) ∧ b = a ∧ c = a then
      let rest := (lineEnd? rest).getD rest
      lines? a (rest.length + 1) rest
    else shortString? s
  | s => shortString? s

end LabTrust.Toml
