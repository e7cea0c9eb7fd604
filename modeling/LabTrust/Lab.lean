/-
The certificates of a lab.

* `ensureRoot`: makes a root unless its certificate and key are on disk.
* `issueLeaf`: makes a certificate for an identity, signed by the root on disk.
* `Lab`: names, directories, templates and policies of one lab.
* `Lab.provision`: the root if some node needs it, then every node that gets a certificate, in
  order. A failure ends it or is recorded, as `FailureMode` says.

Making a root is keyed on its files alone, so it does nothing the second time.
-/
import LabTrust.Program.Pool
import LabTrust.Store.Files

namespace LabTrust

/-! ### Roots -/

/-- The root of a lab. -/
structure RootOutcome where
  files : Triple
  /-- What was made; nothing if the root was there. -/
  generated : Option Bundle
  deriving DecidableEq, Inhabited

/-- This call made the root. -/
def RootOutcome.wasCreated (r : RootOutcome) : Bool := r.generated.isSome

/-- Makes a root in a directory, and its files. -/
def createRoot (directory : Path) (template : Template) (input : RootInput) :
    Action RootOutcome := do
  Action.makeDirectories directory
  let document ← Action.orFail (template.render input.toData)
  let request ← Action.orFail (Request.read (.ofText document))
  Action.orFail request.validate
  discard <| Action.orFail request.authorityExpiry
  let key ← Action.consult (.generateKey request.key)
  let csr ← Action.consult (.buildRequest request key)
  let certificate ← Action.consult (.selfSign request key)
  let bundle := Bundle.ofTexts key csr certificate
  let files ← Store.persist bundle (directory.join (.ofText input.fileName))
  return ⟨files, some bundle⟩

/-- Makes a root unless its certificate and key are there. -/
def ensureRoot (directory : Path) (template : Template) (input : RootInput) :
    Action RootOutcome := do
  let files := Triple.ofPath (directory.join (.ofText input.fileName))
  if ← Store.isComplete files then return ⟨files, none⟩
  createRoot directory template input

/-! ### Leaves -/

/-- The validity that an identity asks for; blank, that of the options. -/
def LeafOptions.lifetime (options : LeafOptions) (input : LeafInput) : Except Error Nat :=
  Expiry.parse (if Text.blank input.expiry then options.expiry else input.expiry)

/-- What is settled about a leaf before anything is made: its request and its lifetime. -/
def LeafOptions.plan (options : LeafOptions) (template : Template) (input : LeafInput) :
    Except Error (Request × Nat) := do
  if Text.blank input.name then throw .namelessInput
  checkName input.name
  let document ← template.render input.toData
  let request ← Request.read (.ofText document)
  request.validate
  request.checkHosts options.hostPolicy
  return (request, ← options.lifetime input)

/-- Makes a certificate for an identity, signed by the root in two files, and its files. -/
def issueLeaf (rootCertificate rootKey : Path) (template : Template) (input : LeafInput)
    (target : Path) (options : LeafOptions) : Action Bundle := do
  let (request, lifetime) ← Action.orFail (options.plan template input)
  let signer ← Signer.read rootCertificate rootKey
  let key ← Action.consult (.generateKey request.key)
  let csr ← Action.consult (.buildRequest request key)
  let order : SigningOrder := ⟨csr, request.hosts, lifetime⟩
  let certificate ← Action.consult (.sign order signer)
  let bundle := Bundle.ofTexts key csr certificate
  discard <| Store.persist bundle (target.join (.ofText input.name))
  return bundle

/-! ### Labs -/

/-- What is fixed about a lab. -/
structure Lab where
  name : String
  layout : LabLayout
  subject : Subject := Subject.default
  rootExpiry : String := rootExpiryDefault
  rootTemplate : Template := Template.ofRoot
  nodeTemplate : Template := Template.ofNode
  options : LeafOptions := {}
  policy : KindPolicy := KindPolicy.default

/-- What happens when a node's certificate cannot be made. -/
inductive FailureMode where
  /-- The first failure ends the work. -/
  | abort
  /-- The failure is recorded and the next node follows. -/
  | proceed
  deriving DecidableEq, Inhabited

/-- How the issuance for one node went. -/
structure Outcome where
  node : String
  result : Except Error Bundle

/-- A node that got no certificate. -/
structure NodeFailure where
  node : String
  error : Error
  deriving DecidableEq, Inhabited

/-- The nodes that got a certificate, and the failures, each in the order of the nodes. -/
structure Report where
  root : Option RootOutcome := none
  issued : List String := []
  failed : List NodeFailure := []
  deriving DecidableEq, Inhabited

namespace Outcome

/-- The name of a node that got a certificate. -/
def issued? (o : Outcome) : Option String :=
  match o.result with
  | .ok _ => some o.node
  | .error _ => none

/-- The failure of a node that got none. -/
def failure? (o : Outcome) : Option NodeFailure :=
  match o.result with
  | .ok _ => none
  | .error e => some ⟨o.node, e⟩

end Outcome

namespace Report

/-- The report of outcomes. -/
def ofOutcomes (root : RootOutcome) (outcomes : List Outcome) : Report :=
  ⟨some root, outcomes.filterMap Outcome.issued?, outcomes.filterMap Outcome.failure?⟩

/-- Some node needed the root. -/
def neededRoot (r : Report) : Bool := r.root.isSome

/-- Every node got its certificate. -/
def isSuccess (r : Report) : Bool := r.failed.isEmpty

end Report

namespace Lab

/-- The template of a file, or the built-in one. -/
def templateOr (builtIn : Template) : Option Path → Action Template
  | none => return builtIn
  | some path => Template.load builtIn.name path

/-- The lab that settings describe. -/
def ofSettings (name : String) (layout : LabLayout) (settings : Settings) : Action Lab := do
  let rootTemplate ← templateOr Template.ofRoot settings.rootTemplate
  let nodeTemplate ← templateOr Template.ofNode settings.nodeTemplate
  return { name, layout, subject := settings.subject, rootExpiry := settings.rootExpiry,
           rootTemplate, nodeTemplate, options := settings.leafOptions, policy := settings.policy }

/-- The identity of a lab's root. -/
def rootInput (lab : Lab) : RootInput := RootInput.ofLab lab.name lab.subject lab.rootExpiry

/-- The identity of a node. -/
def nodeInput (lab : Lab) (node : NodeInfo) : LeafInput :=
  LeafInput.ofNode node lab.name lab.subject

/-- The files of a lab's root. -/
def rootFiles (lab : Lab) : Triple := Triple.root lab.layout.rootDirectory

/-- Makes the lab's root unless it is there. -/
def ensureRoot (lab : Lab) (input : RootInput) : Action RootOutcome :=
  LabTrust.ensureRoot lab.layout.rootDirectory lab.rootTemplate input

/-- Makes a certificate for an identity. -/
def issue (lab : Lab) (input : LeafInput) : Action Bundle :=
  issueLeaf lab.rootFiles.certificate lab.rootFiles.key lab.nodeTemplate input
    (Triple.nodeDirectory lab.layout.nodesDirectory input.name) lab.options

/-- Makes the certificate of a node. -/
def issueTo (lab : Lab) (node : NodeInfo) : Action Bundle := lab.issue (lab.nodeInput node)

/-- Reads the certificate and the key of a node. -/
def load (lab : Lab) (name : String) : Action Bundle := Store.load lab.layout.nodesDirectory name

/-- Makes the certificate of a node, whether that works or not. -/
def tryNode (lab : Lab) (node : NodeInfo) : Program Outcome := do
  return ⟨node.shortName, ← (lab.issueTo node).attempt⟩

/-- Makes the certificates of nodes in order, up to the first failure. -/
def issueInOrder (lab : Lab) : List NodeInfo → Action (List String)
  | [] => return []
  | node :: rest => do
    discard <| lab.issueTo node
    return node.shortName :: (← lab.issueInOrder rest)

/-- Makes the root if some node needs it, and the certificates of the nodes in order. -/
def provision (lab : Lab) (nodes : List NodeInfo) (mode : FailureMode) : Action Report := do
  let qualifying := lab.policy.qualifying nodes
  if qualifying.isEmpty then return {}
  let root ← lab.ensureRoot lab.rootInput
  match mode with
  | .abort => return { root := some root, issued := ← lab.issueInOrder qualifying }
  | .proceed =>
    return .ofOutcomes root (← Action.of (Program.inOrder (qualifying.map lab.tryNode)))

/-- The certificates of nodes, made by at most `limit` workers at a time that take turns. Every limit
is taken, also one beyond what the semaphore that holds the workers back can count. -/
def issueInTurns (lab : Lab) (limit : Nat) (schedule : List Nat) (nodes : List NodeInfo) :
    Program (List Outcome) :=
  Program.interleave (max limit 1) schedule (Program.withSources 1 (nodes.map lab.tryNode))

end Lab

end LabTrust
