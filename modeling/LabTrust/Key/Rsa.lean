/-
Signatures with numbers that are hard to take apart.

* `Rsa.padded`: what is signed: a hash with the name of its function, filled up to the modulus.
* `Rsa.sign`, `Rsa.verify`: powers of it.
* `Rsa.PublicKey.read?`: a modulus and an exponent from the bits of a public key.
-/
import LabTrust.Der.Element
import LabTrust.Hash
import LabTrust.Key.Modular

namespace LabTrust

namespace Rsa

/-- A modulus and an exponent. -/
structure PublicKey where
  modulus : Nat
  exponent : Nat
  deriving DecidableEq, Inhabited

/-- How many bits a number has. -/
def bitLength (n : Nat) : Nat := if n = 0 then 0 else n.log2 + 1

/-- How many bytes the modulus has. -/
def PublicKey.width (k : PublicKey) : Nat := Bytes.widthOf k.modulus

/-- A key as bytes. -/
def PublicKey.encode (k : PublicKey) : Bytes :=
  Der.element Der.sequence (Der.nat k.modulus ++ Der.nat k.exponent)

/-- The natural number at the front of bytes in strict form, and the rest. -/
def readNat? (bs : Bytes) : Option (Nat × Bytes) := do
  let (content, rest) ← Der.readStrict? Der.integer bs
  return (← Der.natOf? content, rest)

/-- The key of bytes in strict form. -/
def PublicKey.read? (bs : Bytes) : Option PublicKey := do
  let body ← Der.only? Der.sequence bs
  let (modulus, body) ← readNat? body
  let (exponent, body) ← readNat? body
  if body = [] then return ⟨modulus, exponent⟩ else none

/-- The name of a hash function before a hash. -/
def hashName : Hash → Bytes
  | .sha1 => [0x2b, 0x0e, 0x03, 0x02, 0x1a]
  | .sha256 => [0x60, 0x86, 0x48, 0x01, 0x65, 0x03, 0x04, 0x02, 0x01]
  | .sha384 => [0x60, 0x86, 0x48, 0x01, 0x65, 0x03, 0x04, 0x02, 0x02]
  | .sha512 => [0x60, 0x86, 0x48, 0x01, 0x65, 0x03, 0x04, 0x02, 0x03]

/-- What is signed of a message, as many bytes as the modulus has. -/
def padded (width : Nat) (hash : Hash) (message : Bytes) : Bytes :=
  let info := Der.element Der.sequence
    (Der.element Der.sequence (Der.element Der.objectId (hashName hash) ++ Der.element Der.null []) ++
      Der.element Der.octetString (hash.digest message))
  [0, 1] ++ List.replicate (width - 3 - info.length) 0xff ++ 0 :: info

/-- The signature of a message with a secret exponent. -/
def sign (key : PublicKey) (secret : Nat) (hash : Hash) (message : Bytes) : Bytes :=
  Bytes.ofNat key.width
    (Modular.pow key.modulus (Bytes.toNat (padded key.width hash message)) secret)

/-- The least length of a modulus for a hash function, in bytes. -/
def leastWidth : Hash → Nat
  | .sha1 => 128
  | _ => 256

/-- A key that signatures with a hash function are checked with. -/
def PublicKey.isUsable (k : PublicKey) (hash : Hash) : Bool :=
  decide (leastWidth hash ≤ k.width) && decide (bitLength k.modulus ≤ 8192) &&
    k.modulus % 2 == 1 && k.exponent % 2 == 1 && decide (3 ≤ k.exponent) &&
    decide (k.exponent.log2 < 33)

/-- The bytes are the signature of a message by the holder of a key. -/
def verify (key : PublicKey) (hash : Hash) (message signature : Bytes) : Bool :=
  let s := Bytes.toNat signature
  key.isUsable hash && signature.length == key.width && decide (s < key.modulus) &&
    Bytes.ofNat key.width (Modular.pow key.modulus s key.exponent) == padded key.width hash message

end Rsa

end LabTrust
