/-
Reading certificates back.

* `Certificate.ofPem`: the certificate of a PEM text, or what is wrong with it.
* `CertificateSummary.ofPem`: what the certificate of a PEM text says of itself.
* `Certificate.checkIssuedBy`: whether a certificate names the subject of another as its issuer and
  carries a signature made with the other's key. Neither validity nor usage is looked at.
-/
import LabTrust.Certificate.Reader
import LabTrust.Certificate.Summary
import LabTrust.Error
import LabTrust.Key.Suite
import LabTrust.Pem

namespace LabTrust

namespace Certificate

/-- The label of certificates. -/
def label : String := "CERTIFICATE"

/-- The bytes of the certificate in a PEM text. -/
def bytesOfPem (text : String) : Except Error Bytes :=
  match Pem.read? text.toList with
  | none => .error (.badPem "no well-formed block")
  | some block =>
    if block.label = label then .ok block.content else .error (.notCertificate block.label)

/-- The certificate of bytes. -/
def ofBytes (bs : Bytes) : Except Error Certificate :=
  match read? bs with
  | none => .error (.badCertificate "the bytes do not follow the grammar")
  | some c => .ok c

/-- The certificate of a PEM text. -/
def ofPem (text : String) : Except Error Certificate := do
  ofBytes (← bytesOfPem text)

/-- What a certificate says of itself. -/
def summary (c : Certificate) : Except Error CertificateSummary :=
  match c.altNames? with
  | none => .error (.badAlternativeNames "the names do not follow the grammar")
  | some names =>
    .ok { subject := c.subject.text, issuer := c.issuer.text, serial := c.serialText,
          notBefore := { second := c.notBefore }, notAfter := { second := c.notAfter },
          hosts := names.filterMap AltName.shown?, isAuthority := c.isAuthority }

/-- Refuses a certificate that does not name the subject of another as its issuer. Names are compared
as people read them. -/
def checkIssuerName (leaf authority : Certificate) : Except Error Unit :=
  if leaf.issuer.text = authority.subject.text then .ok ()
  else .error (.issuerMismatch leaf.issuer.text authority.subject.text)

/-- The signature of a certificate was made with the key of another. -/
def isSignedBy (suite : Suite) (leaf authority : Certificate) : Bool :=
  match Scheme.ofId? leaf.algorithm.id with
  | some scheme => suite.verify scheme authority.key leaf.body leaf.signature
  | none => false

/-- Refuses a PEM certificate that was not issued by the holder of another. -/
def checkIssuedBy (suite : Suite) (leaf authority : String) : Except Error Unit := do
  let leafBytes ← bytesOfPem leaf
  let authorityBytes ← bytesOfPem authority
  let leaf ← ofBytes leafBytes
  let authority ← ofBytes authorityBytes
  checkIssuerName leaf authority
  if isSignedBy suite leaf authority then return ()
  else throw (.badSignature "the signature is not the authority's")

end Certificate

/-- What the certificate of a PEM text says of itself. -/
def CertificateSummary.ofPem (text : String) : Except Error CertificateSummary := do
  (← Certificate.ofPem text).summary

end LabTrust
