/-
Colours and weights of output.

`Paint.apply` puts a style around a text if output is coloured.
-/
namespace LabTrust.CommandLine

/-- How a part of the output is set off. -/
inductive Style where
  | heading
  | label
  | name
  | faint
  | good
  | bad
  | success
  deriving DecidableEq, Inhabited

/-- The control sequence that ends all styles. -/
def Style.reset : String := "\x1b[0m"

/-- The control sequence that begins a style. -/
def Style.start : Style → String
  | heading => "\x1b[1;4m"
  | label => "\x1b[1m"
  | name => "\x1b[36m"
  | faint => "\x1b[2m"
  | good => "\x1b[32m"
  | bad => "\x1b[31m"
  | success => "\x1b[1;32m"

/-- Whether output is coloured. -/
structure Paint where
  isOn : Bool
  deriving DecidableEq, Inhabited

namespace Paint

/-- The characters of a text, with `more` after each end of styles in it. -/
def resume (more : List Char) : List Char → List Char
  | [] => []
  | '\x1b' :: '[' :: '0' :: 'm' :: rest => '\x1b' :: '[' :: '0' :: 'm' :: more ++ resume more rest
  | c :: rest => c :: resume more rest

/-- A text in a style. The style goes on after an end of styles in the text. -/
def apply (p : Paint) (style : Style) (text : String) : String :=
  if p.isOn then
    style.start ++ String.ofList (resume style.start.toList text.toList) ++ Style.reset
  else text

/-- Colours are on where the arguments do not turn them off and the environment turns them on, or
the output goes to a terminal and the environment does not turn them off. -/
def ofEnvironment (env : String → Option String) (isTerminal isColorless : Bool) : Paint :=
  if isColorless then ⟨false⟩
  else if (env "CLICOLOR_FORCE").any (· ≠ "0") then ⟨true⟩
  else if (env "NO_COLOR").isSome then ⟨false⟩
  else ⟨isTerminal && (env "CLICOLOR").all (· ≠ "0")⟩

end Paint

end LabTrust.CommandLine
