/-
Labelled blocks of bytes in text.

* `Pem.read?`: the first block of a text. What stands before and after it does not count; the label
  at its end has to be the label at its beginning; lines with a colon may come first, closed by an
  empty line.
* `Pem.write`: a block as text, sixty-four characters a line.
-/
import LabTrust.Base64
import LabTrust.Text.Blank

namespace LabTrust

/-- A labelled block. -/
structure Pem where
  label : String
  content : Bytes
  deriving DecidableEq, Inhabited

namespace Pem

/-- The text before the first place of a mark, and the text after it. -/
def splitAt? (mark : List Char) : List Char → Option (List Char × List Char)
  | [] => if mark = [] then some ([], []) else none
  | c :: rest =>
    if mark.isPrefixOf (c :: rest) then some ([], (c :: rest).drop mark.length)
    else (splitAt? mark rest).map fun (before, after) => (c :: before, after)

/-- The lines of a text, without their ends; the last is left out if it is empty. -/
def lines (s : List Char) : List (List Char) :=
  let parts := s.splitOn '\n'
  let parts := if parts.getLast? = some [] then parts.dropLast else parts
  parts.map fun line => if line.getLast? = some '\x0d' then line.dropLast else line

/-- The lines in front of a body that end with an empty line, and the body. -/
def splitHeaders (s : List Char) : List Char × List Char :=
  match splitAt? ['\n', '\n'] s with
  | some split => split
  | none =>
    match splitAt? ['\x0d', '\n', '\x0d', '\n'] s with
    | some split => split
    | none => ([], s)

/-- Ends of lines and gaps between words. -/
def isGap (c : Char) : Bool := c = ' ' || c = '\t' || c = '\n' || c = '\x0d'

/-- The first block of a text. -/
def read? (text : List Char) : Option Pem := do
  let (_, s) ← splitAt? "-----BEGIN ".toList text
  let (label, s) ← splitAt? "-----".toList s
  let (body, s) ← splitAt? "-----END ".toList (s.dropWhile isGap)
  let (closing, _) ← splitAt? "-----".toList s
  let (headers, data) := splitHeaders body
  let content ← Base64.decode? ((lines data).flatMap Text.trimEnd)
  if label ≠ [] ∧ label = closing ∧ (lines headers).all (·.contains ':') then
    return ⟨String.ofList label, content⟩
  else none

/-- Text in lines of sixty-four characters; `bound` is at least the number of lines. -/
def wrap : Nat → List Char → List Char
  | 0, _ => []
  | bound + 1, s => if s = [] then [] else s.take 64 ++ '\n' :: wrap bound (s.drop 64)

/-- A block as text. -/
def write (block : Pem) : String :=
  let body := Base64.encode block.content
  "-----BEGIN " ++ block.label ++ "-----\n" ++ String.ofList (wrap body.length body) ++
    "-----END " ++ block.label ++ "-----\n"

end Pem

end LabTrust
