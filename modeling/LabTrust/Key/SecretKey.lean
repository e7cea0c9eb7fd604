/-
Private keys.

* `SecretKey.ofPem?`: the key of a PEM text, whatever its label, in the standard form for private
  keys. A key whose parts do not belong together is not accepted.
* `SecretKey.toPem`: a key as PEM text.
* `SecretKey.publicKey`, `SecretKey.scheme`: the public key, and the kind of signatures it makes.
-/
import LabTrust.Key.Scheme
import LabTrust.Pem

namespace LabTrust

/-- The parts of a key with a modulus of two primes. -/
structure RsaSecret where
  modulus : Nat
  exponent : Nat
  secret : Nat
  prime1 : Nat
  prime2 : Nat
  deriving DecidableEq, Inhabited

/-- A private key. -/
inductive SecretKey where
  | rsa (key : RsaSecret)
  | ecdsa (curve : Curve) (secret : Nat)
  | edwards (secret : Bytes)
  deriving DecidableEq, Inhabited

namespace RsaSecret

/-- The public part of a key. -/
def publicKey (k : RsaSecret) : Rsa.PublicKey := ⟨k.modulus, k.exponent⟩

/-- A key as bytes. -/
def encode (k : RsaSecret) : Bytes :=
  Der.element Der.sequence (Der.nat 0 ++ Der.nat k.modulus ++ Der.nat k.exponent ++
    Der.nat k.secret ++ Der.nat k.prime1 ++ Der.nat k.prime2 ++
    Der.nat (k.secret % (k.prime1 - 1)) ++ Der.nat (k.secret % (k.prime2 - 1)) ++
    Der.nat (Modular.inverse k.prime1 k.prime2))

/-- The parts belong together, and the modulus has a length that is made. -/
def isConsistent (k : RsaSecret) (secret1 secret2 inverse : Nat) : Bool :=
  let bits := Rsa.bitLength k.modulus
  decide (256 ≤ k.publicKey.width) && decide (bits ≤ 4096) && bits % 2 == 0 &&
    k.modulus == k.prime1 * k.prime2 && k.modulus % 2 == 1 &&
    Rsa.bitLength k.prime1 == bits / 2 && Rsa.bitLength k.prime2 == bits / 2 &&
    k.exponent % 2 == 1 && decide (65537 ≤ k.exponent) && decide (k.exponent.log2 < 33) &&
    decide (bits / 2 < Rsa.bitLength k.secret) && decide (k.secret < k.modulus) &&
    k.secret % 2 == 1 &&
    decide (secret1 < k.prime1) && secret1 % 2 == 1 && decide (secret2 < k.prime2) &&
    secret2 % 2 == 1 && decide (inverse < k.prime1) && inverse * k.prime2 % k.prime1 == 1 &&
    k.exponent * secret1 % (k.prime1 - 1) == 1 && k.exponent * secret2 % (k.prime2 - 1) == 1 &&
    k.secret % (k.prime1 - 1) == secret1 && k.secret % (k.prime2 - 1) == secret2

/-- The key of bytes in strict form. -/
def read? (bs : Bytes) : Option RsaSecret := do
  let body ← Der.only? Der.sequence bs
  let (version, body) ← Rsa.readNat? body
  let (modulus, body) ← Rsa.readNat? body
  let (exponent, body) ← Rsa.readNat? body
  let (secret, body) ← Rsa.readNat? body
  let (prime1, body) ← Rsa.readNat? body
  let (prime2, body) ← Rsa.readNat? body
  let (secret1, body) ← Rsa.readNat? body
  let (secret2, body) ← Rsa.readNat? body
  let (inverse, body) ← Rsa.readNat? body
  let key : RsaSecret := { modulus, exponent, secret, prime1, prime2 }
  if version = 0 ∧ body = [] ∧ key.isConsistent secret1 secret2 inverse then return key else none

end RsaSecret

namespace SecretKey

/-- The algorithm of a key. -/
def algorithm : SecretKey → AlgorithmId
  | rsa _ => ⟨AlgorithmId.rsaKey, some ⟨Der.null, []⟩⟩
  | ecdsa curve _ => ⟨AlgorithmId.curveKey, some ⟨Der.objectId, curve.id⟩⟩
  | edwards _ => ⟨AlgorithmId.edwards, none⟩

/-- The public key of a private one. -/
def publicKey (k : SecretKey) : PublicKey :=
  .make k.algorithm (match k with
    | rsa key => key.publicKey.encode
    | ecdsa curve secret => curve.publicBits secret
    | edwards secret => Edwards.publicBits secret)

/-- The kind of signatures that a key makes. -/
def scheme : SecretKey → Scheme
  | rsa _ => .rsa .sha256
  | ecdsa .p256 _ => .ecdsa .sha256
  | ecdsa .p384 _ => .ecdsa .sha384
  | edwards _ => .edwards

/-! ### Bytes -/

/-- The private part of a key as bytes. -/
def body : SecretKey → Bytes
  | rsa key => key.encode
  | ecdsa curve secret => Der.element Der.sequence (Der.nat 1 ++
      Der.element Der.octetString (Bytes.ofNat curve.width secret) ++
      Der.element (Der.contextParts 1) (Der.bits (curve.publicBits secret)))
  | edwards secret => Der.element Der.octetString secret

/-- A key as bytes. -/
def encode (k : SecretKey) : Bytes :=
  Der.element Der.sequence
    (Der.nat 0 ++ k.algorithm.encode ++ Der.element Der.octetString k.body)

/-- The octets of a strict bit string whose bits are all used. -/
def readBits? (tag : UInt8) (bs : Bytes) : Option (Bytes × Bytes) := do
  let (content, rest) ← Der.readStrict? tag bs
  match content with
  | 0 :: bits => return (bits, rest)
  | _ => none

/-- The secret number of the private part of a key on a curve. The public key has to be there. -/
def readCurve? (curve : Curve) (bs : Bytes) : Option SecretKey := do
  let body ← Der.only? Der.sequence bs
  let (version, body) ← Rsa.readNat? body
  let (octets, body) ← Der.readStrict? Der.octetString body
  let body ← match Der.readStrict? (Der.contextParts 0) body with
    | some (parameters, rest) =>
      if parameters = Der.element Der.objectId curve.id then some rest else none
    | none => some body
  let content ← Der.only? (Der.contextParts 1) body
  let (bits, rest) ← readBits? Der.bitString content
  let secret := Bytes.toNat octets
  if version = 1 ∧ rest = [] ∧ octets.length = curve.width ∧ 0 < secret ∧ secret < curve.order ∧
      bits = curve.publicBits secret then
    return .ecdsa curve secret
  else none

/-- The key of the private part of a key on the twisted curve, and its public key if it is given. -/
def readEdwards? (bs : Bytes) (bits? : Option Bytes) : Option SecretKey := do
  let secret ← Der.only? Der.octetString bs
  if secret.length = 32 ∧ bits?.all (· = Edwards.publicBits secret) then return .edwards secret
  else none

/-- The public key at the end of the later version of the standard form. -/
def readLast? (bs : Bytes) : Option Bytes := do
  let (bits, rest) ← readBits? (Der.context 1) bs
  if rest = [] then return bits else none

/-- The bytes after the attributes of a key, which are not kept. -/
def skipAttributes (bs : Bytes) : Bytes :=
  match Der.readStrict? (Der.contextParts 0) bs with
  | some (_, rest) => rest
  | none => bs

/-- The key of an algorithm, a version, a private part and what follows it. -/
def ofParts? (version : Nat) (algorithm body after : Bytes) : Option SecretKey :=
  let is (k : SecretKey) : Bool := Der.element Der.sequence algorithm == k.algorithm.encode
  if is (.edwards []) then
    match version, after with
    | 0, [] => readEdwards? body none
    | 1, after => (readLast? after).bind fun bits => readEdwards? body (some bits)
    | _, _ => none
  else if version ≠ 0 ∨ after ≠ [] then none
  else if is (.ecdsa .p256 1) then readCurve? .p256 body
  else if is (.ecdsa .p384 1) then readCurve? .p384 body
  else if is (.rsa default) then (RsaSecret.read? body).map .rsa
  else none

/-- The key of bytes in strict form. -/
def read? (bs : Bytes) : Option SecretKey := do
  let content ← Der.only? Der.sequence bs
  let (version, content) ← Rsa.readNat? content
  let (algorithm, content) ← Der.readStrict? Der.sequence content
  let (body, content) ← Der.readStrict? Der.octetString content
  ofParts? version algorithm body (skipAttributes content)

/-- The key of a PEM text. -/
def ofPem? (text : String) : Option SecretKey := do
  read? (← Pem.read? text.toList).content

/-- The label of private keys. -/
def label : String := "PRIVATE KEY"

/-- A key as PEM text. -/
def toPem (k : SecretKey) : String := Pem.write ⟨label, k.encode⟩

end SecretKey

end LabTrust
