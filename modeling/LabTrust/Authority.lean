/-
Who makes keys, requests and certificates.

* `Call`: what an authority is asked for; it works with texts only, each a PEM document.
* `Authority`: how the asked one answers, from the time and a state of its own.
* `Signer`: the certificate and the key of a lab's root as texts.
-/
import LabTrust.Instant
import LabTrust.Request

namespace LabTrust

/-- The certificate and the key that sign the certificates of a lab. -/
structure Signer where
  certificate : String
  key : String
  deriving DecidableEq, Inhabited

/-- What reports show of a signer: nothing of its key. -/
def Signer.redacted (_ : Signer) : String := "LocalSigner \x7b .. \x7d"

/-- A request to be signed by a lab's root. -/
structure SigningOrder where
  request : String
  /-- The alternative names of the certificate; empty, those of the request. -/
  hosts : List String
  /-- How long the certificate holds, in seconds. -/
  lifetime : Int
  deriving DecidableEq, Inhabited

/-- What an authority is asked for. -/
inductive Call where
  /-- A new private key. -/
  | generateKey (spec : KeySpec)
  /-- A signing request for a key. -/
  | buildRequest (request : Request) (key : String)
  /-- The certificate of a root, signed with its own key. -/
  | selfSign (request : Request) (key : String)
  /-- A certificate signed by a lab's root. -/
  | sign (order : SigningOrder) (signer : Signer)
  deriving DecidableEq, Inhabited

/-- One that answers calls from the time and a state. -/
structure Authority (σ : Type) where
  answer : Instant → Call → σ → Except Error String × σ

end LabTrust
