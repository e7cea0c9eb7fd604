/-
Certificate requests.

* `Request`: the content of a request document: a common name, a kind of key, blocks of names,
  hosts, and a section that only roots have.
* `Request.read`, `Request.toData`: from a document and to one. What a document leaves out has a
  default.
* `Request.validate`: a request needs a kind of key that is made, and a common name or blocks of
  names none of which is blank.
* `Request.checkHosts`: what a `HostPolicy` says of a request without hosts.
-/
import LabTrust.Expiry
import LabTrust.KeySpec

namespace LabTrust

/-- A block of subject names. -/
structure SubjectNames where
  country : String := ""
  state : String := ""
  locality : String := ""
  organization : String := ""
  unit : String := ""
  deriving DecidableEq, Inhabited

namespace SubjectNames

/-- The values of a block, in order. -/
def values (n : SubjectNames) : List String :=
  [n.country, n.state, n.locality, n.organization, n.unit]

/-- A block without content. -/
def isEmpty (n : SubjectNames) : Bool :=
  n.values.all Text.blank

/-- The block that a document gives. -/
def ofData? (d : Data) : Option SubjectNames :=
  match d.fields? ["C", "ST", "L", "O", "OU"] with
  | some [c, st, l, o, ou] => do
    return { country := ← Data.fieldOr "" Data.text? c,
             state := ← Data.fieldOr "" Data.text? st,
             locality := ← Data.fieldOr "" Data.text? l,
             organization := ← Data.fieldOr "" Data.text? o,
             unit := ← Data.fieldOr "" Data.text? ou }
  | _ => none

/-- A block as a document. -/
def toData (n : SubjectNames) : Data :=
  .record [("C", .text n.country), ("ST", .text n.state), ("L", .text n.locality),
    ("O", .text n.organization), ("OU", .text n.unit)]

end SubjectNames

/-- What a root's request says of the authority. -/
structure AuthoritySection where
  expiry : String := ""
  pathLength : Option UInt8 := none
  deriving DecidableEq, Inhabited

namespace AuthoritySection

/-- The section that a document gives. -/
def ofData? (d : Data) : Option AuthoritySection :=
  match d.fields? ["expiry", "pathlen"] with
  | some [expiry, pathlen] => do
    return { expiry := ← Data.fieldOr "" Data.text? expiry,
             pathLength := (← Data.fieldOr none (Data.optional? (Data.nat? 256)) pathlen).map
               UInt8.ofNat }
  | _ => none

/-- A section as a document. -/
def toData (a : AuthoritySection) : Data :=
  .record [("expiry", .text a.expiry),
    ("pathlen", match a.pathLength with | some n => .number (.int n.toNat) | none => .null)]

end AuthoritySection

/-- What to do with a leaf's request that has no hosts. -/
inductive HostPolicy where
  | warn
  | reject
  deriving DecidableEq, Inhabited

namespace HostPolicy

/-- The name of a policy in documents. -/
def name : HostPolicy → String
  | warn => "warn"
  | reject => "reject"

/-- The policy that a document names; `unit` is what its record form holds. -/
def ofData? (unit : Data → Bool) (d : Data) : Option HostPolicy :=
  match d.variant? unit with
  | some s => if s = "warn" then some warn else if s = "reject" then some reject else none
  | none => none

end HostPolicy

/-- A certificate request. -/
structure Request where
  commonName : String := ""
  key : KeySpec := KeySpec.default
  names : List SubjectNames := []
  hosts : List String := []
  authority : Option AuthoritySection := none
  deriving DecidableEq, Inhabited

namespace Request

/-- The request that a document gives. -/
def ofData? (d : Data) : Option Request :=
  match d.fields? ["CN", "key", "names", "hosts", "ca"] with
  | some [cn, key, names, hosts, ca] => do
    return { commonName := ← Data.fieldOr "" Data.text? cn,
             key := ← Data.fieldOr KeySpec.default KeySpec.ofData? key,
             names := ← Data.fieldOr [] (Data.list? SubjectNames.ofData?) names,
             hosts := ← Data.fieldOr [] (Data.list? Data.text?) hosts,
             authority := ← Data.fieldOr none (Data.optional? AuthoritySection.ofData?) ca }
  | _ => none

/-- A request as a document. -/
def toData (r : Request) : Data :=
  .record [("CN", .text r.commonName), ("key", r.key.toData),
    ("names", .list (r.names.map SubjectNames.toData)), ("hosts", .list (r.hosts.map .text)),
    ("ca", match r.authority with | some a => a.toData | none => .null)]

/-- Reads a rendered document. -/
def read (document : Bytes) : Except Error Request :=
  match Json.read document with
  | none => .error (.badDocument "the text does not follow the grammar")
  | some d =>
    match ofData? d with
    | none => .error (.badDocument "the document does not describe a request")
    | some r => .ok r

/-- The validity that a root's request asks for; blank or missing, five years. -/
def authorityExpiry (r : Request) : Except Error Nat :=
  let asked := (r.authority.map fun a => String.ofList (Text.trim a.expiry.toList)).getD ""
  Expiry.parse (if asked = "" then Expiry.rootDefault else asked)

/-- How long the chains below a root may be, if its request says so. -/
def pathLength? (r : Request) : Option Nat :=
  (r.authority.bind (·.pathLength)).map UInt8.toNat

/-- Refuses a request whose key is not made, or whose subject says nothing. -/
def validate (r : Request) : Except Error Unit := do
  r.key.check
  if !Text.blank r.commonName then .ok ()
  else if r.names.isEmpty then .error .missingSubject
  else if r.names.any SubjectNames.isEmpty then .error .emptyName
  else .ok ()

/-- A request that names no host. -/
def lacksHosts (r : Request) : Bool :=
  r.hosts.all Text.blank

/-- Refuses a request without hosts if the policy says so. -/
def checkHosts (r : Request) (policy : HostPolicy) : Except Error Unit :=
  if r.lacksHosts && policy == .reject then .error (.noHosts r.commonName) else .ok ()

end Request

end LabTrust
