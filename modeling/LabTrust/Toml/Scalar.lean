/-
Numbers, truth values and times of TOML.

* `scalar?`: the value that a word spells. Digits may be parted by single underscores.
* `integer?`: whole numbers of 64 bits, in four bases.
* `time?`: dates, times of day, and both with or without a difference from universal time.
-/
import LabTrust.Calendar
import LabTrust.Data
import LabTrust.Template.Token

namespace LabTrust.Toml

/-- Digits without their underscores; every underscore has to stand between two digits. -/
def digits? (isDigit : Char → Bool) : List Char → Option (List Char)
  | [] => none
  | [c] => if isDigit c then some [c] else none
  | c :: '_' :: d :: rest =>
    if isDigit c && isDigit d then (digits? isDigit (d :: rest)).map (c :: ·) else none
  | c :: d :: rest => if isDigit c then (digits? isDigit (d :: rest)).map (c :: ·) else none

/-- The value of digits to a base. -/
def valueOf (base : Nat) (ds : List Char) : Nat :=
  ds.foldl (fun n c => base * n + (Bytes.hexValue? c).getD 0) 0

/-- A sign, and the text after it. -/
def sign : List Char → Bool × List Char
  | '-' :: s => (true, s)
  | '+' :: s => (false, s)
  | s => (false, s)

/-- Decimal digits that do not begin with a needless zero. -/
def whole? (s : List Char) : Option (List Char) :=
  match digits? Char.isDigit s with
  | some ('0' :: _ :: _) => none
  | ds => ds

/-- A whole number of 64 bits. -/
def integer? (s : List Char) : Option Int :=
  let bounded (n : Int) : Option Int :=
    if -0x8000000000000000 ≤ n ∧ n < 0x8000000000000000 then some n else none
  let based (base : Nat) (isDigit : Char → Bool) (ds : List Char) : Option Int :=
    (digits? isDigit ds).bind fun ds => bounded (valueOf base ds)
  match s with
  | '0' :: 'x' :: ds => based 16 (fun c => (Bytes.hexValue? c).isSome) ds
  | '0' :: 'o' :: ds => based 8 (fun c => decide ('0' ≤ c) && decide (c ≤ '7')) ds
  | '0' :: 'b' :: ds => based 2 (fun c => c = '0' || c = '1') ds
  | s =>
    let (negative, ds) := sign s
    (whole? ds).bind fun ds =>
      let n : Int := valueOf 10 ds
      bounded (if negative then -n else n)

/-- The digits of an exponent; a sign may stand before them. -/
def exponent? (s : List Char) : Option (List Char) :=
  let (negative, ds) := sign s
  (digits? Char.isDigit ds).map fun ds => if negative then '-' :: ds else ds

/-- The spelling of a fraction without underscores. One too great for any fraction is refused; one
too far below zero is not. -/
def real? (s : List Char) : Option (List Char) :=
  let (negative, body) := sign s
  if body = ['i', 'n', 'f'] ∨ body = ['n', 'a', 'n'] then some s
  else
    let isExponent (c : Char) := c = 'e' || c = 'E'
    let mantissa := body.takeWhile (!isExponent ·)
    let power := body.dropWhile (!isExponent ·)
    let left := mantissa.takeWhile (· ≠ '.')
    let right := mantissa.dropWhile (· ≠ '.')
    if power.isEmpty && right.isEmpty then none
    else do
      let whole ← whole? left
      let part ← match right with
        | [] => some []
        | _ :: ds => (digits? Char.isDigit ds).map ('.' :: ·)
      let power ← match power with
        | [] => some []
        | _ :: e => (exponent? e).map ('e' :: ·)
      let spelling := whole ++ part ++ power
      let x ← Template.Token.float? spelling
      if negative then some ('-' :: spelling) else if x.isInf then none else some spelling

/-- A number of exactly `width` digits, at most `high`. -/
def field? (width high : Nat) (s : List Char) : Option (Nat × List Char) :=
  let ds := s.take width
  if ds.length = width ∧ ds.all Char.isDigit then
    let n := valueOf 10 ds
    if n ≤ high then some (n, s.drop width) else none
  else none

/-- The text after a character at its front. -/
def mark? (c : Char) : List Char → Option (List Char)
  | d :: rest => if c = d then some rest else none
  | [] => none

/-- The text after a date that the calendar has. -/
def date? (s : List Char) : Option (List Char) := do
  let (year, s) ← field? 4 9999 s
  let s ← mark? '-' s
  let (month, s) ← field? 2 12 s
  let s ← mark? '-' s
  let (day, s) ← field? 2 31 s
  if (⟨year, month, day⟩ : Date).Valid then some s else none

/-- The text after the digits behind a second. -/
def secondFraction? : List Char → Option (List Char)
  | '.' :: rest =>
    if (rest.takeWhile Char.isDigit).isEmpty then none else some (rest.dropWhile Char.isDigit)
  | s => some s

/-- The text after a time of day. -/
def timeOfDay? (s : List Char) : Option (List Char) := do
  let (_, s) ← field? 2 23 s
  let s ← mark? ':' s
  let (_, s) ← field? 2 59 s
  let s ← mark? ':' s
  let (_, s) ← field? 2 60 s
  secondFraction? s

/-- A difference from universal time takes the whole text. -/
def isOffset (s : List Char) : Bool :=
  match s with
  | [c] => c = 'z' || c = 'Z'
  | c :: rest =>
    (c = '+' || c = '-') &&
      match (field? 2 23 rest).bind fun (_, s) => (mark? ':' s).bind (field? 2 59) with
      | some (_, []) => true
      | _ => false
  | [] => false

/-- A whole text is a date, a time of day, or both. -/
def isTime (s : List Char) : Bool :=
  match date? s with
  | some [] => true
  | some (c :: rest) =>
    (c = 't' || c = 'T' || c = ' ') &&
      match timeOfDay? rest with
      | some [] => true
      | some offset => isOffset offset
      | none => false
  | none => timeOfDay? s == some []

/-- The value that a word spells. A time is a record under a name of its own. -/
def scalar? (s : List Char) : Option Data :=
  if s = ['t', 'r', 'u', 'e'] then some (.bool true)
  else if s = ['f', 'a', 'l', 's', 'e'] then some (.bool false)
  else
    match integer? s with
    | some n => some (.number (.int n))
    | none =>
      match real? s with
      | some spelling => some (.number (.real (String.ofList spelling)))
      | none =>
        if isTime s then some (.record [("$__toml_private_datetime", .text (String.ofList s))])
        else none

end LabTrust.Toml
