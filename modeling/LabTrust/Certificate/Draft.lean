/-
Certificates as they are written.

* `CertificateDraft`: what a certificate is to say.
* `CertificateDraft.body`: the bytes that the signature covers.
* `Der.sign`: such bytes with their signature.
* `Extension.ofAltNames` and its neighbours: the extensions of roots and of leaves.
-/
import LabTrust.Certificate.Reader
import LabTrust.Key.Suite

namespace LabTrust

/-! ### Extensions -/

namespace Extension

/-- Alternative names; they are critical if the subject is empty. -/
def ofAltNames (subject : DistinguishedName) (names : List AltName) : List Extension :=
  if names.isEmpty then []
  else [⟨altNames, subject.isEmpty, AltName.encodeList names⟩]

/-- A root signs certificates, lists of revoked ones, and other things. -/
def rootUsage : Extension := ⟨keyUsage, true, Der.element Der.bitString [1, 0x86]⟩

/-- A leaf signs, and enciphers keys. -/
def leafUsage : Extension := ⟨keyUsage, true, Der.element Der.bitString [5, 0xa0]⟩

/-- The identifier of a purpose of the certificate standard. -/
def purposeId (n : Nat) : Bytes := [0x2b, 0x06, 0x01, 0x05, 0x05, 0x07, 0x03, UInt8.ofNat n]

/-- A leaf stands for servers and for clients. -/
def leafPurposes : Extension :=
  ⟨extendedKeyUsage, false, Der.element Der.sequence
    (Der.element Der.objectId (purposeId 1) ++ Der.element Der.objectId (purposeId 2))⟩

/-- The short identifier of a public key. -/
def keyId (key : PublicKey) : Bytes := (Hash.sha256.digest key.encoded).take 20

/-- The identifier of a certificate's own key. -/
def ofSubjectKey (id : Bytes) : Extension := ⟨subjectKeyId, false, Der.element Der.octetString id⟩

/-- The identifier of the key that a certificate is signed with. -/
def ofAuthorityKey (id : Bytes) : Extension :=
  ⟨authorityKeyId, false, Der.element Der.sequence (Der.element (Der.context 0) id)⟩

/-- The holder may sign certificates, with chains below it of at most a length, if one is given. -/
def ofRoot (pathLength : Option Nat) : Extension :=
  ⟨basicConstraints, true, Der.element Der.sequence
    (Der.element Der.boolean [0xff] ++ (pathLength.map Der.nat).getD [])⟩

/-- The key identifier in the value of an extension. -/
def readKeyId? (value : Bytes) : Option Bytes :=
  (Der.readTag? Der.octetString value).map (·.1)

end Extension

/-! ### Drafts -/

/-- What a certificate is to say. -/
structure CertificateDraft where
  serial : Nat
  issuer : DistinguishedName
  notBefore : Int
  notAfter : Int
  subject : DistinguishedName
  key : PublicKey
  extensions : List Extension
  deriving DecidableEq, Inhabited

/-- The algorithm of a kind of signature that is made here. -/
def SecretKey.signatureAlgorithm : SecretKey → AlgorithmId
  | .rsa _ =>
    ⟨[0x2a, 0x86, 0x48, 0x86, 0xf7, 0x0d, 0x01, 0x01, 0x0b], some ⟨Der.null, []⟩⟩
  | .ecdsa .p256 _ => ⟨[0x2a, 0x86, 0x48, 0xce, 0x3d, 0x04, 0x03, 0x02], none⟩
  | .ecdsa .p384 _ => ⟨[0x2a, 0x86, 0x48, 0xce, 0x3d, 0x04, 0x03, 0x03], none⟩
  | .edwards _ => ⟨AlgorithmId.edwards, none⟩

/-- The algorithm of a key's signatures names the kind of signatures that it makes. -/
theorem SecretKey.ofId?_signatureAlgorithm (k : SecretKey) :
    Scheme.ofId? k.signatureAlgorithm.id = some k.scheme := by
  rcases k with _ | ⟨_ | _, _⟩ | _ <;> rfl

namespace CertificateDraft

/-- The bytes of a draft that the signature covers. -/
def body (d : CertificateDraft) (algorithm : AlgorithmId) : Bytes :=
  Der.element Der.sequence
    (Der.element (Der.contextParts 0) (Der.nat 2) ++ Der.nat d.serial ++ algorithm.encode ++
      d.issuer.encode ++ Der.element Der.sequence (Der.time d.notBefore ++ Der.time d.notAfter) ++
      d.subject.encode ++ d.key.encoded ++
      Der.element (Der.contextParts 3)
        (Der.element Der.sequence (d.extensions.flatMap Extension.encode)))

/-- The times can be written: their years have four digits. -/
def isWritable (d : CertificateDraft) : Bool :=
  [d.notBefore, d.notAfter].all fun t =>
    let year := (Date.ofDayNumber (t / 86400)).year
    decide (0 ≤ year) && decide (year ≤ 9999)

end CertificateDraft

/-- Bytes with their signature. -/
def Der.sign (suite : Suite) (key : SecretKey) (body : Bytes) (e : Entropy) : Bytes × Entropy :=
  let (signature, e) := suite.sign key body e
  (Der.element Der.sequence (body ++ key.signatureAlgorithm.encode ++ Der.bits signature), e)

end LabTrust
