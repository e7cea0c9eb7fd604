/-
Kinds of signatures.

* `Scheme.ofId?`: the kind that an identifier names.
* `Scheme.verify`: whether bytes are the signature of a message by the holder of a public key. For
  points of a curve the key says which curve it is.
-/
import LabTrust.Key.Curve
import LabTrust.Key.Edwards
import LabTrust.Key.PublicKey
import LabTrust.Key.Rsa

namespace LabTrust

namespace AlgorithmId

/-- The identifier of keys whose modulus is hard to take apart. -/
def rsaKey : Bytes := [0x2a, 0x86, 0x48, 0x86, 0xf7, 0x0d, 0x01, 0x01, 0x01]

/-- The identifier of keys that are points of a curve. -/
def curveKey : Bytes := [0x2a, 0x86, 0x48, 0xce, 0x3d, 0x02, 0x01]

/-- The identifier of keys on the twisted curve, and of their signatures. -/
def edwards : Bytes := [0x2b, 0x65, 0x70]

end AlgorithmId

/-- The identifier of a curve. -/
def Curve.id : Curve → Bytes
  | p256 => [0x2a, 0x86, 0x48, 0xce, 0x3d, 0x03, 0x01, 0x07]
  | p384 => [0x2b, 0x81, 0x04, 0x00, 0x22]

/-- The curve that an identifier names. -/
def Curve.ofId? (id : Bytes) : Option Curve :=
  if id = Curve.id .p256 then some .p256 else if id = Curve.id .p384 then some .p384 else none

/-- The curve that the parameters of an algorithm name. -/
def AlgorithmId.curve? (a : AlgorithmId) : Option Curve :=
  match a.parameters with
  | some ⟨tag, content⟩ => if tag = Der.objectId then Curve.ofId? content else none
  | none => none

/-- A kind of signature. -/
inductive Scheme where
  | rsa (hash : Hash)
  | ecdsa (hash : Hash)
  | edwards
  deriving DecidableEq, Inhabited

namespace Scheme

/-- The identifiers of the kinds of signatures. -/
def ids : List (Bytes × Scheme) :=
  [([0x2a, 0x86, 0x48, 0x86, 0xf7, 0x0d, 0x01, 0x01, 0x05], .rsa .sha1),
    ([0x2b, 0x0e, 0x03, 0x02, 0x1d], .rsa .sha1),
    ([0x2a, 0x86, 0x48, 0x86, 0xf7, 0x0d, 0x01, 0x01, 0x0b], .rsa .sha256),
    ([0x2a, 0x86, 0x48, 0x86, 0xf7, 0x0d, 0x01, 0x01, 0x0c], .rsa .sha384),
    ([0x2a, 0x86, 0x48, 0x86, 0xf7, 0x0d, 0x01, 0x01, 0x0d], .rsa .sha512),
    ([0x2a, 0x86, 0x48, 0xce, 0x3d, 0x04, 0x03, 0x02], .ecdsa .sha256),
    ([0x2a, 0x86, 0x48, 0xce, 0x3d, 0x04, 0x03, 0x03], .ecdsa .sha384),
    (AlgorithmId.edwards, .edwards)]

/-- The kind of signature that an identifier names. -/
def ofId? (id : Bytes) : Option Scheme := ids.lookup id

/-- The two numbers of a signature in strict form. -/
def readPair? (bs : Bytes) : Option (Nat × Nat) := do
  let body ← Der.only? Der.sequence bs
  let (r, body) ← Rsa.readNat? body
  let (s, body) ← Rsa.readNat? body
  if body = [] then return (r, s) else none

/-- Two numbers as a signature. -/
def writePair (r s : Nat) : Bytes := Der.element Der.sequence (Der.nat r ++ Der.nat s)

/-- The bytes are the signature of a message by the holder of a key. -/
def verify (scheme : Scheme) (key : PublicKey) (message signature : Bytes) : Bool :=
  match scheme with
  | rsa hash =>
    match Rsa.PublicKey.read? key.bits with
    | some k => Rsa.verify k hash message signature
    | none => false
  | ecdsa hash =>
    match key.algorithm.curve? with
    | none => false
    | some curve =>
      match curve.publicPoint? key.bits, readPair? signature with
      | some point, some (r, s) => curve.verify point (hash.digest message) r s
      | _, _ => false
  | edwards => Edwards.verify key.bits message signature

end Scheme

end LabTrust
