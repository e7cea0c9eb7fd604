/-
Public keys and the algorithms that they are for.
-/
import LabTrust.Der.Element

namespace LabTrust

/-- An algorithm and its parameters, if there are any. -/
structure AlgorithmId where
  id : Bytes
  parameters : Option Der.Element := none
  deriving DecidableEq, Inhabited

/-- A public key, the algorithm it is for, and all of it as bytes. -/
structure PublicKey where
  algorithm : AlgorithmId
  bits : Bytes
  encoded : Bytes
  deriving DecidableEq, Inhabited

/-- The bytes that reading took. -/
def Der.taken (before after : Bytes) : Bytes := before.take (before.length - after.length)

/-- The octets of the bit string at the front of bytes, and the rest. -/
def Der.readBits? (bs : Bytes) : Option (Bytes × Bytes) := do
  let (content, rest) ← Der.readTag? Der.bitString bs
  return ((← Der.bitsOf? content).2, rest)

namespace AlgorithmId

/-- The algorithm at the front of bytes, and the rest. -/
def read? (bs : Bytes) : Option (AlgorithmId × Bytes) := do
  let (body, rest) ← Der.readTag? Der.sequence bs
  let (id, body) ← Der.readTag? Der.objectId body
  if body = [] then return (⟨id, none⟩, rest)
  let (e, _) ← Der.read? body
  return (⟨id, some e⟩, rest)

/-- An algorithm as bytes. -/
def encode (a : AlgorithmId) : Bytes :=
  Der.element Der.sequence (Der.element Der.objectId a.id ++
    (a.parameters.map fun e => Der.element e.tag e.content).getD [])

end AlgorithmId

namespace PublicKey

/-- The public key of an algorithm and bits. -/
def make (algorithm : AlgorithmId) (bits : Bytes) : PublicKey :=
  ⟨algorithm, bits, Der.element Der.sequence (algorithm.encode ++ Der.bits bits)⟩

/-- The public key at the front of bytes, and the rest. -/
def read? (bs : Bytes) : Option (PublicKey × Bytes) := do
  let (body, rest) ← Der.readTag? Der.sequence bs
  let (algorithm, body) ← AlgorithmId.read? body
  let (bits, _) ← Der.readBits? body
  return (⟨algorithm, bits, Der.taken bs rest⟩, rest)

end PublicKey

end LabTrust
