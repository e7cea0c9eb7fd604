/-
Forms of output.

`OutputFormat.read` takes other names and any letter case; `OutputFormat.ofName?` takes exact names.
-/
import LabTrust.Text.LetterCase

namespace LabTrust.CommandLine

/-- A form of output. -/
inductive OutputFormat where
  /-- Lines for people, perhaps in colours. -/
  | pretty
  | json
  deriving DecidableEq, Inhabited

namespace OutputFormat

/-- The name of a form. -/
def name : OutputFormat → String
  | pretty => "pretty"
  | json => "json"

/-- The forms. -/
def all : List OutputFormat := [pretty, json]

/-- The form of an exact name. -/
def ofName? (s : String) : Option OutputFormat := all.find? (·.name = s)

/-- The form that a text names, or what is wrong with it. -/
def read (s : String) : Except String OutputFormat :=
  let lower := String.ofList (Text.lower s.toList)
  if lower = "pretty" ∨ lower = "text" then .ok pretty
  else if lower = "json" then .ok json
  else .error ("Unknown output format: " ++ s ++ "\nValid formats: " ++
    ", ".intercalate (all.map name))

/-- A name leads back to its form. -/
theorem ofName?_name (f : OutputFormat) : ofName? f.name = some f := by
  cases f <;> decide

end OutputFormat

end LabTrust.CommandLine
