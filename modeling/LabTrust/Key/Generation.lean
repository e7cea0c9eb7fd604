/-
Making keys.

* `Rsa.isPrime`: a test that all primes pass, and hardly any other number.
* `Rsa.generate?`: a key whose modulus has two random primes.
* `SecretKey.generate?`: a key of a kind that is made, from random values.
-/
import LabTrust.KeySpec
import LabTrust.Key.Entropy
import LabTrust.Key.SecretKey

namespace LabTrust

namespace Rsa

/-! ### Primes -/

/-- How often a number can be halved, and what is left; `bound` is at least its number of bits. -/
def halve : Nat → Nat → Nat × Nat
  | 0, n => (0, n)
  | bound + 1, n =>
    if n % 2 = 0 then ((halve bound (n / 2)).1 + 1, (halve bound (n / 2)).2) else (0, n)

/-- One of the first `count` squares, beginning with `x`, leaves minus one. -/
def reachesMinusOne (n : Nat) : Nat → Nat → Bool
  | 0, _ => false
  | count + 1, x => x == n - 1 || reachesMinusOne n count (x * x % n)

/-- The powers of a base are such as they are for a prime. -/
def passes (n base : Nat) : Bool :=
  let (count, odd) := halve n.log2 (n - 1)
  let x := Modular.pow n base odd
  x == 1 || reachesMinusOne n count x

/-- A number passes for random bases. -/
def passesAll (n : Nat) : Nat → Entropy → Bool × Entropy
  | 0, e => (true, e)
  | rounds + 1, e =>
    let (base, e) := e.drawBelow n
    if passes n base then passesAll n rounds e else (false, e)

/-- Divisors that are tried first. -/
def smallPrimes : List Nat :=
  [3, 5, 7, 11, 13, 17, 19, 23, 29, 31, 37, 41, 43, 47, 53, 59, 61, 67, 71, 73, 79, 83, 89, 97]

/-- A large odd number is a prime, as far as random bases tell. -/
def isPrime (n : Nat) (e : Entropy) : Bool × Entropy :=
  if smallPrimes.any fun p => n % p = 0 then (false, e) else passesAll n 24 e

/-! ### Keys -/

/-- The public exponent of keys that are made. -/
def exponent : Nat := 65537

/-- A random odd number of `bits` bits whose two highest are set. -/
def drawOdd (bits : Nat) (e : Entropy) : Nat × Entropy :=
  let (bs, e) := e.draw (bits / 8)
  (3 <<< (bits - 2) + Bytes.toNat bs % (1 <<< (bits - 2)) / 2 * 2 + 1, e)

/-- A prime for a key among the next `tries` random numbers. -/
def drawPrime? (bits : Nat) : Nat → Entropy → Option (Nat × Entropy)
  | 0, _ => none
  | tries + 1, e =>
    let (n, e) := drawOdd bits e
    if (n - 1) % exponent = 0 then drawPrime? bits tries e
    else
      let (prime, e) := isPrime n e
      if prime then some (n, e) else drawPrime? bits tries e

/-- A key whose modulus has `bits` bits. -/
def generate? (bits : Nat) (e : Entropy) : Option (RsaSecret × Entropy) := do
  let (p, e) ← drawPrime? (bits / 2) (100 * bits) e
  let (q, e) ← drawPrime? (bits / 2) (100 * bits) e
  let d := Modular.inverse ((p - 1) * (q - 1)) exponent
  let key : RsaSecret := ⟨p * q, exponent, d, p, q⟩
  if key.isConsistent (d % (p - 1)) (d % (q - 1)) (Modular.inverse p q) then return (key, e)
  else none

end Rsa

/-- A key of a kind that is made. -/
def SecretKey.generate? (spec : KeySpec) (e : Entropy) : Option (SecretKey × Entropy) :=
  match spec.algorithm with
  | .rsa => (Rsa.generate? spec.size e).map fun (key, e) => (.rsa key, e)
  | .ecdsa =>
    let curve : Curve := if spec.size = 384 then .p384 else .p256
    let (secret, e) := e.drawBelow curve.order
    some (.ecdsa curve secret, e)

end LabTrust
