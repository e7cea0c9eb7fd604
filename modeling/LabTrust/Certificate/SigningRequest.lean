/-
Requests to sign a key.

* `SigningRequest.body`: the bytes of a request that its signature covers.
* `SigningRequest.read?`: a request from its bytes.
* `SigningRequest.accept?`: what is taken over from a request whose signature is its own key's. Key
  usage, purposes and basic constraints may be asked for; they are not granted.
-/
import LabTrust.Certificate.Draft
import LabTrust.Certificate.Subject

namespace LabTrust

/-- A request to sign a key. -/
structure SigningRequest where
  /-- The bytes that the signature covers. -/
  body : Bytes
  subject : DistinguishedName
  key : PublicKey
  /-- The extensions that are asked for. -/
  extensions : List Extension
  algorithm : AlgorithmId
  signature : Bytes
  deriving DecidableEq, Inhabited

/-- What is taken over from a request. -/
structure AcceptedRequest where
  subject : DistinguishedName
  key : PublicKey
  altNames : List AltName
  deriving DecidableEq, Inhabited

namespace SigningRequest

/-- The identifier of the attribute that asks for extensions. -/
def extensionRequest : Bytes := [0x2a, 0x86, 0x48, 0x86, 0xf7, 0x0d, 0x01, 0x09, 0x0e]

/-- The attribute that asks for extensions, if there are any. -/
def attributes (extensions : List Extension) : Bytes :=
  if extensions.isEmpty then []
  else Der.element Der.sequence (Der.element Der.objectId extensionRequest ++
    Der.element Der.set (Der.element Der.sequence (extensions.flatMap Extension.encode)))

/-- The bytes of a request that its signature covers. -/
def bodyOf (subject : DistinguishedName) (key : PublicKey) (names : List AltName) : Bytes :=
  Der.element Der.sequence (Der.nat 0 ++ subject.encode ++ key.encoded ++
    Der.element (Der.contextParts 0) (attributes (Extension.ofAltNames subject names)))

/-! ### Reading -/

/-- The attribute at the front of bytes: its identifier and its value, and the rest. -/
def readAttribute? (bs : Bytes) : Option ((Bytes × Bytes) × Bytes) := do
  let (content, rest) ← Der.readTag? Der.sequence bs
  let (id, content) ← Der.readTag? Der.objectId content
  let (value, _) ← Der.readTag? Der.set content
  return ((id, value), rest)

/-- The extensions that attributes ask for. -/
def readExtensions? (attributes : List (Bytes × Bytes)) : Option (List Extension) :=
  match attributes.lookup extensionRequest with
  | none => some []
  | some value => do
    let (content, _) ← Der.readTag? Der.sequence value
    Der.all? Extension.read? content

/-- The request of bytes. -/
def read? (bs : Bytes) : Option SigningRequest := do
  let (content, _) ← Der.readTag? Der.sequence bs
  let (info, after) ← Der.readTag? Der.sequence content
  let (version, info) ← Der.readTag? Der.integer info
  let _ ← Der.natOf? version
  let (subject, info) ← DistinguishedName.read? info
  let (key, info) ← PublicKey.read? info
  let (attributes, _) ← Der.readTag? (Der.contextParts 0) info
  let extensions ← readExtensions? (← Der.all? readAttribute? attributes)
  let (algorithm, rest) ← AlgorithmId.read? after
  let (signature, _) ← Der.readBits? rest
  return { body := Der.taken content after, subject, key, extensions, algorithm, signature }

/-! ### Accepting -/

/-- The algorithm of the keys that make a kind of signatures, for the kinds that are taken over. -/
def keyAlgorithm? : Scheme → Option AlgorithmId
  | .rsa .sha1 => none
  | .rsa _ => some (SecretKey.rsa default).algorithm
  | .ecdsa .sha256 => some (SecretKey.ecdsa .p256 1).algorithm
  | .ecdsa .sha384 => some (SecretKey.ecdsa .p384 1).algorithm
  | .ecdsa _ => none
  | .edwards => some (SecretKey.edwards []).algorithm

/-- A text in ASCII. -/
def isPlain (s : String) : Bool := s.toList.all fun c => c.toNat < 128

/-- A text in a name of a kind of its own. -/
def isOtherText (rest : Bytes) : Bool :=
  match Der.readTag? (Der.contextParts 0) rest with
  | some (value, _) => ((Der.readTag? Der.utf8String value).bind fun v => v.1.text?).isSome
  | none => false

/-- An alternative name that is taken over. -/
def acceptName? : AltName → Option AltName
  | .email s => if isPlain s then some (.email s) else none
  | .dns s => if isPlain s then some (.dns s) else none
  | .uri s => if isPlain s then some (.uri s) else none
  | .address octets =>
    if octets.length = 4 ∨ octets.length = 16 then some (.address octets) else none
  | .other id rest => if isOtherText rest then some (.other id rest) else none
  | _ => none

/-- The purposes that are known. -/
def knownPurposes : List Bytes :=
  [[0x55, 0x1d, 0x25, 0x00], Extension.purposeId 1, Extension.purposeId 2, Extension.purposeId 3,
    Extension.purposeId 4, Extension.purposeId 8, Extension.purposeId 9]

/-- The value of an extension lists purposes that are known. -/
def arePurposes (value : Bytes) : Bool :=
  match Der.readTag? Der.sequence value with
  | some (content, _) =>
    match Der.all? (Der.readTag? Der.objectId) content with
    | some purposes => purposes.all knownPurposes.contains
    | none => false
  | none => false

/-- The alternative names that an extension asks for; none if the extension is not taken. -/
def acceptExtension? (e : Extension) : Option (List AltName) :=
  if e.id = Extension.altNames then do (← AltName.readList? e.value).mapM acceptName?
  else if e.id = Extension.keyUsage then (Der.readBits? e.value).map fun _ => []
  else if e.id = Extension.extendedKeyUsage then if arePurposes e.value then some [] else none
  else if e.id = Extension.basicConstraints then
    (Extension.readConstraints? e.value).map fun _ => []
  else none

/-- What is taken over from a request whose signature was made with its own key. -/
def accept? (suite : Suite) (r : SigningRequest) : Option AcceptedRequest := do
  let scheme ← Scheme.ofId? r.algorithm.id
  if !suite.verify scheme r.key r.body r.signature then none
  let algorithm ← keyAlgorithm? scheme
  let subject ← r.subject.copy?
  let names ← r.extensions.mapM acceptExtension?
  return { subject, key := .make algorithm r.key.bits, altNames := names.flatten }

/-- What is taken over from the request of a PEM text. -/
def ofPem? (suite : Suite) (text : String) : Option AcceptedRequest := do
  (← read? (← Pem.read? text.toList).content).accept? suite

end SigningRequest

end LabTrust
