/-
Hash functions.
-/
import LabTrust.Hash.Sha1
import LabTrust.Hash.Sha256
import LabTrust.Hash.Sha512

namespace LabTrust

/-- A hash function. -/
inductive Hash where
  | sha1
  | sha256
  | sha384
  | sha512
  deriving DecidableEq, Inhabited

/-- The hash of a message. -/
def Hash.digest : Hash → Bytes → Bytes
  | sha1, m => Sha1.digest m
  | sha256, m => Sha256.digest m
  | sha384, m => Sha512.digestShort m
  | sha512, m => Sha512.digest m

end LabTrust
