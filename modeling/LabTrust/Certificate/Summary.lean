/-
What a certificate says of itself.

* `CertificateSummary`: names, serial number, validity, hosts, and whether it may sign others.
* `isExpiredAt`: a certificate is still valid at the very end of its validity.
* `isSelfIssued`: a certificate whose issuer is its subject.
-/
import LabTrust.Data
import LabTrust.Instant

namespace LabTrust

/-- The readable content of a certificate. -/
structure CertificateSummary where
  subject : String
  issuer : String
  serial : String
  notBefore : Instant
  notAfter : Instant
  hosts : List String := []
  isAuthority : Bool
  deriving DecidableEq, Inhabited

namespace CertificateSummary

/-- The validity has passed. -/
def isExpiredAt (c : CertificateSummary) (now : Instant) : Bool :=
  now.isAfter c.notAfter

/-- The certificate is its own issuer. -/
def isSelfIssued (c : CertificateSummary) : Bool :=
  c.subject == c.issuer

/-- The instant that a document gives. -/
def instant? (d : Data) : Option Instant :=
  d.text?.bind Instant.parse?

/-- The summary that a document gives. -/
def ofData? (d : Data) : Option CertificateSummary :=
  match d.fields?
    ["subject", "issuer", "serial", "not_before", "not_after", "sans", "is_ca"] with
  | some [subject, issuer, serial, notBefore, notAfter, sans, isCa] => do
    return { subject := ← Data.field Data.text? subject,
             issuer := ← Data.field Data.text? issuer,
             serial := ← Data.field Data.text? serial,
             notBefore := ← Data.field instant? notBefore,
             notAfter := ← Data.field instant? notAfter,
             hosts := ← Data.fieldOr [] (Data.list? Data.text?) sans,
             isAuthority := ← Data.field Data.bool? isCa }
  | _ => none

/-- The fields of a summary as a document. -/
def fields (c : CertificateSummary) : List (String × Data) :=
  [("subject", .text c.subject), ("issuer", .text c.issuer), ("serial", .text c.serial),
    ("not_before", .text c.notBefore.write), ("not_after", .text c.notAfter.write),
    ("sans", .list (c.hosts.map .text)), ("is_ca", .bool c.isAuthority)]

/-- A summary as a document. -/
def toData (c : CertificateSummary) : Data := .record c.fields

end CertificateSummary

end LabTrust
