/-
Variables of a node's environment.

* `Environment`: variables and their values, in the order of the variables, each once.
* `Environment.set`: gives a variable a value.
* `Environment.overlay`: the variables of two environments; those of the second win.
-/
import LabTrust.Data
import LabTrust.Ordered

namespace LabTrust

/-- Variables and their values, in the order of the variables. -/
@[ext]
structure Environment extends Ordered (Prod.fst : String × String → String)
  deriving DecidableEq, Inhabited

namespace Environment

/-- An environment without variables. -/
def empty : Environment := ⟨.empty⟩

/-- The value of a variable. -/
def find? (env : Environment) (name : String) : Option String :=
  (env.toOrdered.find? name).map Prod.snd

/-- Gives a variable a value. -/
def set (env : Environment) (name value : String) : Environment :=
  ⟨env.put (name, value)⟩

/-- An environment with the values of another put over its own. -/
def overlay (env upper : Environment) : Environment :=
  ⟨env.putAll upper.items⟩

/-- The environment of entries in any order; a later entry wins. -/
def ofList (entries : List (String × String)) : Environment :=
  ⟨Ordered.putAll .empty entries⟩

/-- The environment that a document gives. -/
def ofData? (d : Data) : Option Environment :=
  (d.entries? Data.text?).map ofList

/-- An environment as a document. -/
def toData (env : Environment) : Data :=
  .record (env.items.map fun (name, value) => (name, .text value))

end Environment

end LabTrust
