/-
The work of an authority: keys, requests and certificates as texts.

* `Issuance.buildRequest`: a request for a key, signed with it.
* `Issuance.selfSign`: the certificate of a root.
* `Issuance.sign`: a leaf, signed by a root. Of the request it takes over the subject, the key and, if
  no hosts are given, the alternative names; nothing else.
* `Issuance.authority`: the authority that does all this with given signatures.
-/
import LabTrust.Authority
import LabTrust.Certificate.Inspect
import LabTrust.Certificate.SigningRequest
import LabTrust.Key.Generation

namespace LabTrust

namespace Issuance

/-! ### Parts -/

/-- How far the beginning of a validity lies back, for hosts whose clocks are late. -/
def backdate : Int := 300

/-- The last second of the calendar in which a validity may end, and the first one. -/
def calendar : Int × Int :=
  (86400 * (⟨-9999, 1, 1⟩ : Date).dayNumber, 86400 * (⟨10000, 1, 1⟩ : Date).dayNumber - 1)

/-- The beginning and the end of a validity, in whole seconds. -/
def window (now : Instant) (lifetime : Int) : Except Error (Int × Int) :=
  let notAfter := now.second + lifetime
  if calendar.1 ≤ notAfter ∧ notAfter ≤ calendar.2 then .ok (now.second - backdate, notAfter)
  else .error (.expiryOutOfRange (lifetime.tdiv 3600))

/-- The key of a PEM text. -/
def loadKey (stage : Stage) (text : String) : Except Error SecretKey :=
  match SecretKey.ofPem? text with
  | some key => .ok key
  | none => .error (.crypto stage (.badKey "the text holds no key of a kind that is used"))

/-- The alternative name of a host. -/
def altName (stage : Stage) (host : String) : Except Error AltName :=
  match AltName.ofHost? host with
  | some name => .ok name
  | none => .error (.crypto stage (.badHost host))

/-- The alternative names of hosts. -/
def altNames (stage : Stage) (hosts : List String) : Except Error (List AltName) :=
  hosts.mapM (altName stage)

/-- A serial number: positive, and of at most eight bytes. -/
def drawSerial (e : Entropy) : Nat × Entropy := e.drawBelow (1 <<< 62)

/-- A signed document as PEM text. Lengths of more than eight bytes are not written. -/
def publish (stage : Stage) (label : String) (document : Bytes) : Except Error String :=
  if document.length < UInt64.size then .ok (Pem.write ⟨label, document⟩)
  else .error (.crypto stage (.other "the document is too long"))

/-- A signed certificate as PEM text. -/
def certify (suite : Suite) (stage : Stage) (key : SecretKey) (draft : CertificateDraft)
    (e : Entropy) : Except Error (String × Entropy) := do
  if !draft.isWritable then throw (.crypto stage (.other "a year does not have four digits"))
  let (document, e) := Der.sign suite key (draft.body key.signatureAlgorithm) e
  return (← publish stage Certificate.label document, e)

/-! ### Drafts -/

/-- What a root's certificate is to say. -/
def rootDraft (request : Request) (key : SecretKey) (names : List AltName) (validity : Int × Int)
    (serial : Nat) : CertificateDraft :=
  { serial, issuer := request.subject, notBefore := validity.1, notAfter := validity.2,
    subject := request.subject, key := key.publicKey,
    extensions := Extension.ofAltNames request.subject names ++
      [.rootUsage, .ofSubjectKey (Extension.keyId key.publicKey),
        .ofRoot request.pathLength?] }

/-- The one who signs leaves: a name and a key, with the identifier that leaves give for it. -/
structure Issuer where
  name : DistinguishedName
  keyId : Bytes
  key : SecretKey
  deriving DecidableEq, Inhabited

/-- What a leaf's certificate is to say. -/
def leafDraft (issuer : Issuer) (request : AcceptedRequest) (names : List AltName)
    (validity : Int × Int) (serial : Nat) : CertificateDraft :=
  { serial, issuer := issuer.name, notBefore := validity.1, notAfter := validity.2,
    subject := request.subject, key := request.key,
    extensions := .ofAuthorityKey issuer.keyId ::
      (Extension.ofAltNames request.subject names ++ [.leafUsage, .leafPurposes]) }

/-! ### Issuers -/

/-- The identifier of a certificate's key that leaves repeat: the first that the certificate gives,
else the one that is made from the key. -/
def keyIdOf (certificate : Certificate) (key : SecretKey) : Bytes :=
  ((certificate.extensions.filter (·.id = Extension.subjectKeyId)).findSome?
    fun e => Extension.readKeyId? e.value).getD (Extension.keyId key.publicKey)

/-- The key usages of a certificate can be read, if there are any. -/
def hasReadableUsage (certificate : Certificate) : Bool :=
  match Extension.unique? Extension.keyUsage certificate.extensions with
  | .ok none => true
  | .ok (some e) => (Der.readBits? e.value).isSome
  | .error () => false

/-- The issuer of a certificate's text and a key. They are not compared. -/
def issuer? (certificate : String) (key : SecretKey) : Option Issuer := do
  let c ← Certificate.read? (← Pem.read? certificate.toList).content
  let name ← c.subject.copy?
  if hasReadableUsage c then return ⟨name, keyIdOf c key, key⟩ else none

/-- The issuer that a signer's texts give. -/
def loadIssuer (signer : Signer) : Except Error Issuer := do
  let key ← loadKey .signerConstruction signer.key
  match issuer? signer.certificate key with
  | some issuer => return issuer
  | none => throw (.crypto .signerConstruction (.badAuthority "the text holds no such certificate"))

/-! ### Calls -/

/-- The label of requests. -/
def requestLabel : String := "CERTIFICATE REQUEST"

/-- A new key. -/
def generateKey (spec : KeySpec) (e : Entropy) : Except Error (String × Entropy) := do
  spec.check
  match SecretKey.generate? spec e with
  | some (key, e) => return (key.toPem, e)
  | none => throw (.crypto .keyGeneration (.other "no primes were found"))

/-- A request for a key, signed with it. -/
def buildRequest (suite : Suite) (request : Request) (key : String) (e : Entropy) :
    Except Error (String × Entropy) := do
  let key ← loadKey .requestBuild key
  let names ← altNames .requestBuild request.hosts
  let (document, e) :=
    Der.sign suite key (SigningRequest.bodyOf request.subject key.publicKey names) e
  return (← publish .requestBuild requestLabel document, e)

/-- The certificate of a root, signed with its own key. -/
def selfSign (suite : Suite) (now : Instant) (request : Request) (key : String) (e : Entropy) :
    Except Error (String × Entropy) := do
  let key ← loadKey .selfSigning key
  let names ← altNames .selfSigning request.hosts
  let validity ← window now (← request.authorityExpiry)
  let (serial, e) := drawSerial e
  certify suite .selfSigning key (rootDraft request key names validity serial) e

/-- What is taken over from the request of an order. -/
def loadRequest (suite : Suite) (text : String) : Except Error AcceptedRequest :=
  match SigningRequest.ofPem? suite text with
  | some request => .ok request
  | none => .error (.crypto .signing (.badRequest "the text holds no request that is taken"))

/-- A leaf, signed by a root. -/
def sign (suite : Suite) (now : Instant) (order : SigningOrder) (signer : Signer) (e : Entropy) :
    Except Error (String × Entropy) := do
  let issuer ← loadIssuer signer
  let request ← loadRequest suite order.request
  let names ← if order.hosts.isEmpty then pure request.altNames else altNames .signing order.hosts
  let validity ← window now order.lifetime
  let (serial, e) := drawSerial e
  certify suite .signing issuer.key (leafDraft issuer request names validity serial) e

/-- The answer to a call. -/
def answer (suite : Suite) (now : Instant) (e : Entropy) : Call → Except Error (String × Entropy)
  | .generateKey spec => generateKey spec e
  | .buildRequest request key => buildRequest suite request key e
  | .selfSign request key => selfSign suite now request key e
  | .sign order signer => sign suite now order signer e

/-- The authority that makes keys from random values and signs with a suite. -/
def authority (suite : Suite) : Authority Entropy where
  answer now call e :=
    match answer suite now e call with
    | .ok (text, later) => (.ok text, later)
    | .error failure => (.error failure, e)

end Issuance

end LabTrust
