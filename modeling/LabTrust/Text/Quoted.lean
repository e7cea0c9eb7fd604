/-
Text between double quotes, as messages show it.

* `quoteChar`: a quote, a backslash and the controls that have a letter are written with a
  backslash; any other character that does not show is written as its code in lower-case hex.
* `quote`: the quoted text.
-/
import LabTrust.Text.Printable

namespace LabTrust.Text

/-- The digits of `n` in lower-case hex, without leading zeros. -/
def hexDigits (n : Nat) : List Char := Nat.toDigits 16 n

/-- One character inside quotes. -/
def quoteChar (c : Char) : List Char :=
  if c = '"' then ['\\', '"']
  else if c = '\\' then ['\\', '\\']
  else if c = '\n' then ['\\', 'n']
  else if c = '\r' then ['\\', 'r']
  else if c = '\t' then ['\\', 't']
  else if c.toNat = 0 then ['\\', '0']
  else if isPrintable c then [c]
  else ['\\', 'u', '\x7b'] ++ hexDigits c.toNat ++ ['\x7d']

/-- A text between quotes. -/
def quote (s : String) : String :=
  String.ofList ('"' :: s.toList.flatMap quoteChar ++ ['"'])

end LabTrust.Text
