/-
Certificates as they are read.

* `Certificate`: what a certificate holds, with the bytes that its signature covers.
* `Certificate.read?`: a certificate from its bytes. What follows the parts that a sequence needs
  does not count.
* `Certificate.altNames?`, `Certificate.isAuthority`: what its extensions say.
-/
import LabTrust.Certificate.AltName
import LabTrust.Der.Time
import LabTrust.Key.PublicKey

namespace LabTrust

/-- An extension of a certificate or a request. -/
structure Extension where
  id : Bytes
  critical : Bool
  value : Bytes
  deriving DecidableEq, Inhabited

/-- What a certificate holds. -/
structure Certificate where
  /-- The bytes that the signature covers. -/
  body : Bytes
  version : Nat
  serial : Bytes
  issuer : DistinguishedName
  notBefore : Int
  notAfter : Int
  subject : DistinguishedName
  key : PublicKey
  extensions : List Extension
  algorithm : AlgorithmId
  signature : Bytes
  deriving DecidableEq, Inhabited

namespace Extension

/-- The identifier of an extension of the certificate standard. -/
def standardId (n : Nat) : Bytes := [0x55, 0x1d, UInt8.ofNat n]

def subjectKeyId : Bytes := standardId 14
def keyUsage : Bytes := standardId 15
def altNames : Bytes := standardId 17
def basicConstraints : Bytes := standardId 19
def authorityKeyId : Bytes := standardId 35
def extendedKeyUsage : Bytes := standardId 37

/-- The mark of critical extensions at the front of bytes, if it is there, and the rest. Any octet
but zero says yes. -/
def readCritical (bs : Bytes) : Bool × Bytes :=
  match Der.readTag? Der.boolean bs with
  | some ([b], rest) => (b ≠ 0, rest)
  | _ => (false, bs)

/-- The extension at the front of bytes, and the rest. -/
def read? (bs : Bytes) : Option (Extension × Bytes) := do
  let (body, rest) ← Der.readTag? Der.sequence bs
  let (id, body) ← Der.readTag? Der.objectId body
  let (critical, body) := readCritical body
  let (value, _) ← Der.readTag? Der.octetString body
  return (⟨id, critical, value⟩, rest)

/-- An extension as bytes. The mark stands only on critical ones. -/
def encode (e : Extension) : Bytes :=
  Der.element Der.sequence (Der.element Der.objectId e.id ++
    (if e.critical then Der.element Der.boolean [0xff] else []) ++
    Der.element Der.octetString e.value)

/-- The one extension of a list with an identifier; none if there is none. -/
def unique? (id : Bytes) (extensions : List Extension) : Except Unit (Option Extension) :=
  match extensions.filter (·.id = id) with
  | [] => .ok none
  | [e] => .ok (some e)
  | _ => .error ()

/-- What basic constraints say: whether the holder may sign certificates, and how long the chains
below it may be. -/
def readConstraints? (value : Bytes) : Option (Bool × Option Nat) := do
  let (body, _) ← Der.readTag? Der.sequence value
  let (isAuthority, body) ← match Der.readTag? Der.boolean body with
    | some ([b], rest) => some (decide (b ≠ 0), rest)
    | some _ => none
    | none => some (false, body)
  if body = [] then return (isAuthority, none)
  let (content, rest) ← Der.readTag? Der.integer body
  let n ← Der.natOf? content
  if n < UInt32.size ∧ rest = [] then return (isAuthority, some n) else none

end Extension

namespace Certificate

/-- The version at the front of bytes, if it is there, and the rest. -/
def readVersion? (bs : Bytes) : Option (Nat × Bytes) :=
  match Der.read? bs with
  | some (e, rest) =>
    if e.tag = Der.contextParts 0 then do
      let (content, _) ← Der.readTag? Der.integer e.content
      let n ← Der.natOf? content
      if n < UInt32.size then return (n, rest) else none
    else some (0, bs)
  | none => some (0, bs)

/-- The bytes after an identifier of the issuer or the subject, which is not kept. -/
def skipUniqueId? (tag : UInt8) (bs : Bytes) : Option Bytes :=
  match Der.readTag? tag bs with
  | some (content, rest) => (Der.bitsOf? content).map fun _ => rest
  | none => some bs

/-- The extensions at the end of the signed part. -/
def readExtensions? (bs : Bytes) : Option (List Extension) := do
  if bs = [] then return []
  let (e, _) ← Der.read? bs
  if e.tag = Der.contextParts 3 then
    let (body, _) ← Der.readTag? Der.sequence e.content
    Der.all? Extension.read? body
  else none

/-- The certificate of bytes. -/
def read? (bs : Bytes) : Option Certificate := do
  let (content, _) ← Der.readTag? Der.sequence bs
  let (tbs, after) ← Der.readTag? Der.sequence content
  let (version, tbs) ← readVersion? tbs
  let (serial, tbs) ← Der.readTag? Der.integer tbs
  let (_, tbs) ← AlgorithmId.read? tbs
  let (issuer, tbs) ← DistinguishedName.read? tbs
  let (validity, tbs) ← Der.readTag? Der.sequence tbs
  let (notBefore, validity) ← Der.readTime? validity
  let (notAfter, _) ← Der.readTime? validity
  let (subject, tbs) ← DistinguishedName.read? tbs
  let (key, tbs) ← PublicKey.read? tbs
  let tbs ← skipUniqueId? (Der.context 1) tbs
  let tbs ← skipUniqueId? (Der.context 2) tbs
  let extensions ← readExtensions? tbs
  let (algorithm, rest) ← AlgorithmId.read? after
  let (signature, _) ← Der.readBits? rest
  return { body := Der.taken content after, version, serial, issuer, notBefore, notAfter, subject,
           key, extensions, algorithm, signature }

/-- The alternative names; an extension that stands twice or cannot be read is a failure. -/
def altNames? (c : Certificate) : Option (List AltName) :=
  match Extension.unique? Extension.altNames c.extensions with
  | .ok none => some []
  | .ok (some e) => AltName.readList? e.value
  | .error () => none

/-- The holder may sign certificates. -/
def isAuthority (c : Certificate) : Bool :=
  match Extension.unique? Extension.basicConstraints c.extensions with
  | .ok (some e) => ((Extension.readConstraints? e.value).map (·.1)).getD false
  | _ => false

/-- The serial number as pairs of hex digits. -/
def serialText (c : Certificate) : String :=
  ":".intercalate (c.serial.map fun b => String.ofList (Bytes.hexPair b))

end Certificate

end LabTrust
