/-
Signing and checking signatures.

* `Suite`: how signatures are made and checked, so that what is built on signatures does not hang on
  how they work.
* `Suite.standard`: the signatures of the standards.
-/
import LabTrust.Key.Entropy
import LabTrust.Key.SecretKey

namespace LabTrust

/-- How signatures are made and checked. -/
structure Suite where
  /-- The signature of a message with a key, and the source of random values after it. -/
  sign : SecretKey → Bytes → Entropy → Bytes × Entropy
  /-- Whether bytes are the signature of a message by the holder of a public key. -/
  verify : Scheme → PublicKey → Bytes → Bytes → Bool

namespace Suite

/-- The signature of a hash on a curve. Numbers that do not serve are drawn again. -/
def signOnCurve (curve : Curve) (secret : Nat) (hash : Bytes) : Nat → Entropy → Bytes × Entropy
  | 0, e => ([], e)
  | tries + 1, e =>
    let (once, e) := e.drawBelow curve.order
    let (r, s) := curve.sign secret once hash
    if r = 0 ∨ s = 0 then signOnCurve curve secret hash tries e else (Scheme.writePair r s, e)

/-- The signature of a message with a key. -/
def signWith (key : SecretKey) (message : Bytes) (e : Entropy) : Bytes × Entropy :=
  match key with
  | .rsa k => (Rsa.sign k.publicKey k.secret .sha256 message, e)
  | .ecdsa .p256 secret => signOnCurve .p256 secret (Hash.sha256.digest message) 64 e
  | .ecdsa .p384 secret => signOnCurve .p384 secret (Hash.sha384.digest message) 64 e
  | .edwards secret => (Edwards.sign secret message, e)

/-- The signatures of the standards. -/
def standard : Suite := ⟨signWith, Scheme.verify⟩

end Suite

end LabTrust
