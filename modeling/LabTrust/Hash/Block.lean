/-
Common parts of the hash functions.

* `Hash.padded`: a message filled up to whole blocks, with its length at the end.
* `Hash.words`: the numbers of the parts of a block.
-/
import LabTrust.Bytes

namespace LabTrust

namespace Hash

/-- A message followed by a set bit, zeros, and its length in bits, filled up to whole blocks. -/
def padded (block lengthWidth : Nat) (message : Bytes) : Bytes :=
  let used := message.length + 1 + lengthWidth
  message ++ 0x80 :: List.replicate ((block - used % block) % block) 0 ++
    Bytes.ofNat lengthWidth (8 * message.length)

/-- Parts of a length; `bound` is at least their number. -/
def parts (width : Nat) : Nat → Bytes → List Bytes
  | 0, _ => []
  | bound + 1, bs => if bs = [] then [] else bs.take width :: parts width bound (bs.drop width)

/-- The blocks of a message. -/
def blocks (block lengthWidth : Nat) (message : Bytes) : List Bytes :=
  parts block (message.length + lengthWidth + 1) (padded block lengthWidth message)

/-- The numbers of the parts of a block. -/
def words (width : Nat) (block : Bytes) : List Nat :=
  (parts width block.length block).map Bytes.toNat

end Hash

end LabTrust
