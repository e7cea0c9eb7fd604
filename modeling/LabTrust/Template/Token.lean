/-
The tokens of a template.

A template is text with tags in it: `{{ … }}` for values, `{% … %}` for statements and `{# … #}` for
remarks. A dash at the inner side of a tag's mark drops the blanks outside of it.
* `Token.scan`: the tokens of a text, or none if a tag, a string or a number is broken.
* `splitMark`: where the next tag begins.
* `rawTag?`, `rawText?`: text between `raw` and `endraw`, in which tags mean nothing.
-/
import LabTrust.Bytes
import LabTrust.Text.Blank

namespace LabTrust.Template

/-- A token: text outside of tags, the four marks, and the lexemes inside of tags. -/
inductive Token where
  | data (s : List Char)
  | valueStart
  | valueEnd
  | statementStart
  | statementEnd
  | word (s : String)
  | string (s : String)
  | int (n : Nat)
  | float (x : Float)
  | mark (s : String)
  deriving Inhabited

/-- The three kinds of tags. -/
inductive Tag where
  | value
  | statement
  | remark
  deriving DecidableEq

namespace Token

/-! ### Where tags begin and end -/

/-- The kind of tag that a character after an opening brace begins. -/
def tag? (c : Char) : Option Tag :=
  if c = '\x7b' then some .value
  else if c = '%' then some .statement
  else if c = '#' then some .remark
  else none

/-- The text before the first tag, and the tag with the text after its mark. -/
def splitMark : List Char → List Char × Option (Tag × List Char)
  | [] => ([], none)
  | [c] => ([c], none)
  | c :: d :: rest =>
    match (if c = '\x7b' then tag? d else none) with
    | some tag => ([], some (tag, rest))
    | none =>
      let (before, found) := splitMark (d :: rest)
      (c :: before, found)

/-- The text after `mark` where it first stands, and the character before it. -/
def after? (mark : List Char) : Option Char → List Char → Option (Option Char × List Char)
  | before, s@(c :: rest) =>
    if mark.isPrefixOf s then some (before, s.drop mark.length) else after? mark (some c) rest
  | before, [] => if mark.isEmpty then some (before, []) else none

/-- Blanks that separate lexemes. -/
def isGap (c : Char) : Bool :=
  c = ' ' || c = '\t' || c = '\n' || c = '\x0d' || c = '\x0c'

/-- Whether a dash stands in front, and the text after a dash or a plus sign. -/
def trimSign : List Char → Bool × List Char
  | '-' :: rest => (true, rest)
  | '+' :: rest => (false, rest)
  | s => (false, s)

/-- The text after a statement of one word, and whether a dash closes it; the text begins after the
opening mark. -/
def rawTag? (word : String) (s : List Char) : Option (Bool × List Char) :=
  let s := (trimSign s).2.dropWhile isGap
  if word.toList.isPrefixOf s then
    let (dash, s) := trimSign ((s.drop word.length).dropWhile isGap)
    match s with
    | '%' :: '\x7d' :: rest => some (dash, rest)
    | _ => none
  else none

/-- The text up to the statement `endraw`, whether a dash opens and closes that, and the rest. -/
def rawText? : List Char → Option (List Char × Bool × Bool × List Char)
  | [] => none
  | [_] => none
  | c :: d :: rest =>
    let closing := if c = '\x7b' ∧ d = '%' then rawTag? "endraw" rest else none
    match closing with
    | some (dash, after) => some ([], (trimSign rest).1, dash, after)
    | none => (rawText? (d :: rest)).map fun (text, r) => (c :: text, r)

/-! ### Lexemes -/

/-- The characters that words begin with. -/
def isWordStart (c : Char) : Bool := c = '_' || c.isAlpha

/-- The characters of words. -/
def isWordRest (c : Char) : Bool := c = '_' || c.isAlphanum

/-- What stands for a character after a backslash. -/
def escape? (c : Char) : Option Char :=
  if c = '"' ∨ c = '\\' ∨ c = '/' ∨ c.toNat = 39 then some c
  else if c = 'b' then some '\x08'
  else if c = 'f' then some '\x0c'
  else if c = 'n' then some '\n'
  else if c = 'r' then some '\x0d'
  else if c = 't' then some '\t'
  else none

/-- A character of sixteen bits, as four hex digits. -/
def code? : List Char → Option Nat
  | [a, b, c, d] => do
    return 4096 * (← Bytes.hexValue? a) + 256 * (← Bytes.hexValue? b) +
      16 * (← Bytes.hexValue? c) + (← Bytes.hexValue? d)
  | _ => none

/-- The text of a string up to its closing quote, with escapes as they are spelled. -/
def spelled? (quote : Char) : List Char → Option (List Char × List Char)
  | [] => none
  | '\\' :: c :: rest => (spelled? quote rest).map fun (s, r) => ('\\' :: c :: s, r)
  | c :: rest =>
    if c = quote then some ([], rest) else (spelled? quote rest).map fun (s, r) => (c :: s, r)

/-- The characters of a spelled string. -/
def unescape? : List Char → Option (List Char)
  | [] => some []
  | '\\' :: 'u' :: a :: b :: c :: d :: rest => do
    let n ← code? [a, b, c, d]
    if 0xd800 ≤ n ∧ n < 0xdc00 then
      match rest with
      | '\\' :: 'u' :: e :: f :: g :: h :: rest' => do
        let m ← code? [e, f, g, h]
        if 0xdc00 ≤ m ∧ m < 0xe000 then
          (unescape? rest').map (Char.ofNat (0x10000 + 0x400 * (n - 0xd800) + (m - 0xdc00)) :: ·)
        else none
      | _ => none
    else if 0xdc00 ≤ n ∧ n < 0xe000 then none
    else (unescape? rest).map (Char.ofNat n :: ·)
  | '\\' :: c :: rest => do
    let d ← escape? c
    (unescape? rest).map (d :: ·)
  | ['\\'] => none
  | c :: rest => (unescape? rest).map (c :: ·)

/-- The value of digits to a base; none if one of them is too large. -/
def digits? (base : Nat) (ds : List Char) : Option Nat :=
  if ds.isEmpty then none
  else ds.foldlM (fun n c => (Bytes.hexValue? c).bind fun d =>
    if d < base then some (base * n + d) else none) 0

/-- The part of a number that has been passed. -/
inductive Passed where
  | whole
  | fraction
  | power
  | powerDigits
  deriving DecidableEq

/-- The characters of a decimal number from where `passed` is behind. -/
def numberText (passed : Passed) : List Char → List Char × List Char
  | [] => ([], [])
  | c :: rest =>
    let next : Option Passed :=
      if c = '.' then (if passed = .whole then some .fraction else none)
      else if c = 'e' ∨ c = 'E' then
        (if passed = .whole ∨ passed = .fraction then some .power else none)
      else if c = '+' ∨ c = '-' then (if passed = .power then some .powerDigits else none)
      else if c.isDigit then some (if passed = .power then .powerDigits else passed)
      else if c = '_' then some passed
      else none
    match next with
    | some p =>
      let (s, r) := numberText p rest
      (c :: s, r)
    | none => ([], c :: rest)

/-- The fraction that digits, a point and a power of ten spell. -/
def float? (s : List Char) : Option Float := do
  let whole := s.takeWhile Char.isDigit
  let s := s.drop whole.length
  let (part, s) := match s with
    | '.' :: s => (s.takeWhile Char.isDigit, s.dropWhile Char.isDigit)
    | s => ([], s)
  if whole.isEmpty && part.isEmpty then failure
  let power : Int ← match s with
    | [] => some 0
    | _ :: '-' :: ds => (digits? 10 ds).map fun n => -(n : Int)
    | _ :: '+' :: ds => (digits? 10 ds).map fun n => (n : Int)
    | _ :: ds => (digits? 10 ds).map fun n => (n : Int)
  let n := (whole ++ part).foldl (fun n c => 10 * n + (c.toNat - 48)) 0
  let e : Int := power - part.length
  return if e < 0 then Float.ofScientific n true e.natAbs else Float.ofScientific n false e.natAbs

/-- A number at the front of a text that begins with a digit. -/
def number? (s : List Char) : Option (Token × List Char) := do
  let base := match s with
    | '0' :: c :: _ =>
      if c = 'b' ∨ c = 'B' then 2 else if c = 'o' ∨ c = 'O' then 8
      else if c = 'x' ∨ c = 'X' then 16 else 10
    | _ => 10
  let (spelling, rest) :=
    if base = 10 then numberText .whole s
    else
      let digit (c : Char) := c.isDigit || c = '_' || (base == 16 && (Bytes.hexValue? c).isSome)
      ((s.drop 2).takeWhile digit, (s.drop 2).dropWhile digit)
  if spelling.getLast? = some '_' then failure
  let spelling := spelling.filter (· ≠ '_')
  if base = 10 && !spelling.all Char.isDigit then
    let x ← float? spelling
    return (.float x, rest)
  else
    let n ← digits? base spelling
    if n.log2 < 128 then return (.int n, rest) else failure

/-- The marks of two characters. -/
def longMarks : List String := ["//", "**", "==", "!=", ">=", "<="]

/-- The marks of one character. -/
def shortMarks : List Char :=
  ['+', '-', '*', '/', '%', '.', ',', ':', '~', '|', '=', '>', '<', '(', ')', '[', ']', '\x7b', '\x7d']

/-- The lexeme at the front of a text that is not empty and does not begin with a blank. -/
def lexeme? (s : List Char) : Option (Token × List Char) :=
  match longMarks.find? fun m => m.toList.isPrefixOf s with
  | some m => some (.mark m, s.drop 2)
  | none =>
    match s with
    | [] => none
    | c :: rest =>
      if shortMarks.contains c then some (.mark (String.singleton c), rest)
      else if c = '"' ∨ c.toNat = 39 then
        (spelled? c rest).bind fun (spelling, r) =>
          (unescape? spelling).map fun text => (.string (String.ofList text), r)
      else if c.isDigit then number? s
      else if isWordStart c then
        some (.word (String.ofList (s.takeWhile isWordRest)), s.dropWhile isWordRest)
      else none

/-! ### The whole text -/

/-- Where the scanner stands. -/
inductive Place where
  /-- Outside of tags; `trim` drops the blanks that come first. -/
  | outside (trim : Bool)
  | inValue
  | inStatement

/-- The mark that closes the tag in which the scanner stands. -/
def closing (s : List Char) : Place → Option (Token × Bool × List Char)
  | .outside _ => none
  | .inValue =>
    match trimSign s with
    | (dash, '\x7d' :: '\x7d' :: rest) => some (.valueEnd, dash, rest)
    | _ => none
  | .inStatement =>
    match trimSign s with
    | (dash, '%' :: '\x7d' :: rest) => some (.statementEnd, dash, rest)
    | _ => none

/-- One step outside of tags: the tokens before the next place, that place, and the text there. -/
def outsideStep (s : List Char) : Option (List Token × Place × List Char) :=
  match splitMark s with
  | (before, none) => some ([.data before], .outside false, [])
  | (before, some (tag, rest)) =>
    let (dash, inner) := trimSign rest
    let before := if dash then Text.trimEnd before else before
    match tag with
    | .value => some ([.data before, .valueStart], .inValue, inner)
    | .remark =>
      (after? ['#', '\x7d'] none rest).map fun (last, rest) =>
        ([.data before], .outside (last == some '-'), rest)
    | .statement =>
      match rawTag? "raw" rest with
      | some (dashAfter, body) =>
        (rawText? body).map fun (text, dashBefore, dashEnd, rest) =>
          let text := if dashAfter then text.dropWhile Text.isBlank else text
          let text := if dashBefore then Text.trimEnd text else text
          ([.data before, .data text], .outside dashEnd, rest)
      | none => some ([.data before, .statementStart], .inStatement, inner)

/-- The tokens from a place on; each step takes at least one character. -/
def scanFrom : Nat → Place → List Char → Option (List Token)
  | _, .outside _, [] => some []
  | _, _, [] => none
  | 0, _, _ => none
  | fuel + 1, .outside trim, s =>
    let s := if trim then s.dropWhile Text.isBlank else s
    (outsideStep s).bind fun (tokens, place, rest) =>
      (scanFrom fuel place rest).map (tokens ++ ·)
  | fuel + 1, place, c :: rest =>
    if isGap c then scanFrom fuel place rest
    else
      match closing (c :: rest) place with
      | some (token, dash, rest) => (scanFrom fuel (.outside dash) rest).map (token :: ·)
      | none =>
        (lexeme? (c :: rest)).bind fun (token, rest) =>
          (scanFrom fuel place rest).map (token :: ·)

/-- The tokens of a template. -/
def scan (s : List Char) : Option (List Token) :=
  scanFrom (s.length + 1) (.outside false) s

end Token

end LabTrust.Template
