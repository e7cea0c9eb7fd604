/-
Which kinds of nodes get a certificate.

* `KindPolicy.ofList`: the policy of a list of kinds.
* `KindPolicy.qualifying`: the nodes of those kinds, in the order given.
-/
import LabTrust.Identity
import LabTrust.Ordered

namespace LabTrust

/-- The kinds of nodes that get a certificate: each once, in the order of their names. -/
structure KindPolicy extends Ordered (id : String → String)
  deriving DecidableEq, Inhabited

namespace KindPolicy

/-- The policy of a list of kinds. -/
def ofList (kinds : List String) : KindPolicy :=
  ⟨Ordered.putAll .empty kinds⟩

/-- The kinds. -/
def kinds (p : KindPolicy) : List String := p.items

/-- The kinds of a policy that is not set. -/
def defaultKinds : List String := ["srl"]

/-- The policy that holds unless another is set. -/
def default : KindPolicy := ofList defaultKinds

/-- Nodes of this kind get a certificate. -/
def requires (p : KindPolicy) (kind : String) : Bool :=
  p.kinds.contains kind

/-- The nodes that get a certificate. -/
def qualifying (p : KindPolicy) (nodes : List NodeInfo) : List NodeInfo :=
  nodes.filter fun n => p.requires n.kind

/-- Some node gets a certificate. -/
def isRequired (p : KindPolicy) (nodes : List NodeInfo) : Bool :=
  nodes.any fun n => p.requires n.kind

end KindPolicy

end LabTrust
