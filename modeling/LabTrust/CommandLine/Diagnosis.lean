/-
Reports of failed commands.

* `Diagnosis`: what failed, and the causes behind it.
* `Diagnosis.text`: the lines of a report; causes are numbered if there are several.
-/
import LabTrust.Error
import LabTrust.Topology

namespace LabTrust.CommandLine

/-- What failed, and the causes behind it, the nearest first. -/
structure Diagnosis where
  message : String
  causes : List String := []
  deriving DecidableEq, Inhabited

namespace Diagnosis

/-- A failure of the library. What the file system says is a cause of its own. -/
def ofError (e : Error) : Diagnosis where
  message := e.message
  causes := match e with
    | .io _ failure => [failure.message]
    | _ => []

/-- A fault of the topology file at a path. -/
def ofTopology (path : Path) (fault : TopologyFault) : Diagnosis where
  message := fault.headline path
  causes := fault.cause?.toList

/-- A failure on the way to something larger. -/
def within (larger : String) (d : Diagnosis) : Diagnosis :=
  ⟨larger, d.message :: d.causes⟩

/-- A text whose further lines begin with `margin`. -/
def hang (margin text : String) : String := ("\n" ++ margin).intercalate (text.splitOn "\n")

/-- A number at the end of five places. -/
def inFivePlaces (n : Nat) : String :=
  let digits := toString n
  String.ofList (List.replicate (5 - digits.length) ' ') ++ digits

/-- The lines of the causes, the first one having the number `n`. -/
def numbered : Nat → List String → String
  | _, [] => ""
  | n, cause :: rest =>
    "\n" ++ inFivePlaces n ++ ": " ++ hang "       " cause ++ numbered (n + 1) rest

/-- The lines of the causes. -/
def causeLines : List String → String
  | [] => ""
  | [cause] => "\n\nCaused by:\n    " ++ hang "    " cause
  | causes => "\n\nCaused by:" ++ numbered 0 causes

/-- The report of a failure. -/
def text (d : Diagnosis) : String := "Error: " ++ d.message ++ causeLines d.causes ++ "\n"

end Diagnosis

end LabTrust.CommandLine
