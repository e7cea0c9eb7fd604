/-
Kinds of keys.

* `KeySpec`: an algorithm and a size in bits, that of the curve for ECDSA.
* `KeySpec.check`: the five kinds that are made.
-/
import LabTrust.Data
import LabTrust.Error
import LabTrust.Json.Reader

namespace LabTrust

/-- An algorithm for keys. -/
inductive KeyAlgorithm where
  | ecdsa
  | rsa
  deriving DecidableEq, Inhabited

namespace KeyAlgorithm

/-- The name of an algorithm in documents and messages. -/
def name : KeyAlgorithm → String
  | ecdsa => "ecdsa"
  | rsa => "rsa"

/-- The algorithm of a name. -/
def ofName? (s : String) : Option KeyAlgorithm :=
  if s = "ecdsa" then some ecdsa else if s = "rsa" then some rsa else none

/-- The algorithm that a document names. -/
def ofData? (d : Data) : Option KeyAlgorithm :=
  (d.variant? Json.isUnit).bind ofName?

/-- A name leads back to its algorithm. -/
theorem ofName?_name (a : KeyAlgorithm) : ofName? a.name = some a := by
  cases a <;> decide

end KeyAlgorithm

/-- The kind of key that a request asks for. -/
structure KeySpec where
  algorithm : KeyAlgorithm
  size : Nat
  deriving DecidableEq, Inhabited

namespace KeySpec

/-- The kind of key of a request that names none. -/
def default : KeySpec := ⟨.ecdsa, 256⟩

/-- The sizes that are made. -/
def sizes : KeyAlgorithm → List Nat
  | .ecdsa => [256, 384]
  | .rsa => [2048, 3072, 4096]

/-- Refuses a kind of key that is not made. -/
def check (spec : KeySpec) : Except Error Unit :=
  if spec.size ∈ sizes spec.algorithm then .ok ()
  else .error (.unsupportedKey spec.algorithm.name spec.size)

/-- The kind of key that a document asks for. -/
def ofData? (d : Data) : Option KeySpec :=
  match d.fields? ["algo", "size"] with
  | some [algo, size] => do
    return { algorithm := ← Data.field KeyAlgorithm.ofData? algo,
             size := ← Data.field (Data.nat? UInt32.size) size }
  | _ => none

/-- A kind of key as a document. -/
def toData (spec : KeySpec) : Data :=
  .record [("algo", .text spec.algorithm.name), ("size", .number (.int spec.size))]

/-- The default is one of the kinds that are made. -/
theorem check_default : default.check = .ok () := rfl

end KeySpec

end LabTrust
