/-
Random values from a seed.

`Entropy.draw` gives bytes that hang on the seed and on how many draws came before, each as a hash of
both, so draws differ and a seed that nobody knows gives values that nobody knows.
-/
import LabTrust.Hash

namespace LabTrust

/-- A source of random values: its seed, and how many hashes were drawn. -/
structure Entropy where
  seed : Bytes
  drawn : Nat := 0
  deriving DecidableEq, Inhabited

namespace Entropy

/-- Hashes of the seed with numbers in turn. -/
def stream (seed : Bytes) : Nat → Nat → Bytes
  | 0, _ => []
  | count + 1, n => Hash.sha512.digest (seed ++ Bytes.ofNat 8 n) ++ stream seed count (n + 1)

/-- Bytes, and the source after them. -/
def draw (count : Nat) (e : Entropy) : Bytes × Entropy :=
  let hashes := (count + 63) / 64
  ((stream e.seed hashes e.drawn).take count, { e with drawn := e.drawn + hashes })

/-- A number below `bound` that is not zero, from sixteen bytes more than it needs. -/
def drawBelow (bound : Nat) (e : Entropy) : Nat × Entropy :=
  let (bs, e) := e.draw (Bytes.widthOf bound + 16)
  (Bytes.toNat bs % (bound - 1) + 1, e)

/-- Another source, with draws of its own. -/
def split (e : Entropy) (n : Nat) : Entropy :=
  ⟨Hash.sha512.digest (e.seed ++ Bytes.ofText "source" ++ Bytes.ofNat 8 n), 0⟩

end Entropy

end LabTrust
