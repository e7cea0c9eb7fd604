/-
What one issuance makes: a key, a signing request and a certificate, each as the bytes of its file.
-/
import LabTrust.Bytes
import LabTrust.Data

namespace LabTrust

/-- The three files of one issuance. -/
structure Bundle where
  key : Bytes
  request : Bytes
  certificate : Bytes
  deriving DecidableEq, Inhabited

namespace Bundle

/-- The bundle of three texts. -/
def ofTexts (key request certificate : String) : Bundle :=
  ⟨.ofText key, .ofText request, .ofText certificate⟩

/-- The certificate as a text, if it is one. -/
def certificateText? (b : Bundle) : Option String := b.certificate.text?

/-- The key as a text, if it is one. -/
def keyText? (b : Bundle) : Option String := b.key.text?

/-- The bytes that a list of numbers gives. -/
def bytes? (d : Data) : Option Bytes :=
  (d.list? (Data.nat? 256)).map (·.map UInt8.ofNat)

/-- The bundle that a document gives. -/
def ofData? (d : Data) : Option Bundle :=
  match d.fields? ["key", "csr", "cert"] with
  | some [key, csr, cert] => do
    return ⟨← Data.field bytes? key, ← Data.field bytes? csr, ← Data.field bytes? cert⟩
  | _ => none

/-- A bundle as a document. -/
def toData (b : Bundle) : Data :=
  let numbers (bs : Bytes) := Data.list (bs.map fun b => .number (.int b.toNat))
  .record [("key", numbers b.key), ("csr", numbers b.request), ("cert", numbers b.certificate)]

/-- A bundle of texts gives its certificate back. -/
theorem certificateText?_ofTexts (key request certificate : String) :
    (ofTexts key request certificate).certificateText? = some certificate :=
  Bytes.text?_ofText certificate

end Bundle

end LabTrust
