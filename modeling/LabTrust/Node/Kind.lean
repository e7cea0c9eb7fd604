/-
Kinds of nodes.

* `NodeKind`: the container defaults of a kind: its image family, login, environment, binds that an
  environment value switches on, and its command.
* `NodeKind.machine`: the kinds that run a virtual machine; they differ by name only.
* `NodeRegistry`: the kinds that are known, by name; `NodeRegistry.builtIn` holds four.
-/
import LabTrust.Error
import LabTrust.KindPolicy
import LabTrust.Json.Reader
import LabTrust.Node.Environment

namespace LabTrust

/-- How the image of a kind is built. -/
inductive ImageFamily where
  | native
  | machine
  | generic
  deriving DecidableEq, Inhabited

namespace ImageFamily

/-- The word for a family in documents. -/
def name : ImageFamily → String
  | native => "native"
  | machine => "vrnetlab"
  | generic => "generic"

/-- The family of a word. -/
def ofName? (s : String) : Option ImageFamily :=
  if s = "native" then some native
  else if s = "vrnetlab" then some machine
  else if s = "generic" then some generic
  else none

end ImageFamily

/-- A login. -/
structure Credentials where
  username : String
  password : String
  deriving DecidableEq, Inhabited

namespace Credentials

/-- The login of fresh devices. -/
def admin : Credentials := ⟨"admin", "admin"⟩

/-- The login that a document gives. -/
def ofData? (d : Data) : Option Credentials :=
  match d.fields? ["username", "password"] with
  | some [username, password] => do
    return ⟨← Data.field Data.text? username, ← Data.field Data.text? password⟩
  | _ => none

/-- A login as a document. -/
def toData (c : Credentials) : Data :=
  .record [("username", .text c.username), ("password", .text c.password)]

end Credentials

/-- A bind that is added when a variable has a value. -/
structure BindRule where
  variableName : String
  value : String
  bind : String
  deriving DecidableEq, Inhabited

namespace BindRule

/-- The rule that a document gives. -/
def ofData? (d : Data) : Option BindRule :=
  match d.fields? ["var", "value", "bind"] with
  | some [name, value, bind] => do
    return ⟨← Data.field Data.text? name, ← Data.field Data.text? value,
      ← Data.field Data.text? bind⟩
  | _ => none

/-- A rule as a document. -/
def toData (r : BindRule) : Data :=
  .record [("var", .text r.variableName), ("value", .text r.value), ("bind", .text r.bind)]

end BindRule

/-- A kind of nodes. -/
structure NodeKind where
  name : String
  family : ImageFamily
  requiresCertificate : Bool := false
  credentials : Option Credentials := none
  defaults : Environment := .empty
  bindRules : List BindRule := []
  command : Option String := none
  deriving DecidableEq, Inhabited

namespace NodeKind

/-- The kind that a document gives. -/
def ofData? (d : Data) : Option NodeKind :=
  match d.fields? ["kind", "image_family", "requires_ca", "credentials", "default_env",
    "bind_rules", "cmd_template"] with
  | some [kind, family, requires, credentials, env, rules, cmd] => do
    return { name := ← Data.field Data.text? kind,
             family := ← Data.field
               (fun d => (d.variant? Json.isUnit).bind ImageFamily.ofName?) family,
             requiresCertificate := ← Data.fieldOr false Data.bool? requires,
             credentials := ← Data.fieldOr none (Data.optional? Credentials.ofData?) credentials,
             defaults := ← Data.fieldOr .empty Environment.ofData? env,
             bindRules := ← Data.fieldOr [] (Data.list? BindRule.ofData?) rules,
             command := ← Data.fieldOr none (Data.optional? Data.text?) cmd }
  | _ => none

/-- A kind as a document. -/
def toData (k : NodeKind) : Data :=
  .record [("kind", .text k.name), ("image_family", .text k.family.name),
    ("requires_ca", .bool k.requiresCertificate),
    ("credentials", (k.credentials.map Credentials.toData).getD .null),
    ("default_env", k.defaults.toData),
    ("bind_rules", .list (k.bindRules.map BindRule.toData)),
    ("cmd_template", (k.command.map Data.text).getD .null)]

/-- The command of machine images. -/
def machineCommand : String :=
  "--username \x7b\x7b env.USERNAME \x7d\x7d --password \x7b\x7b env.PASSWORD \x7d\x7d " ++
  "--hostname \x7b\x7b node.short_name \x7d\x7d " ++
  "--connection-mode \x7b\x7b env.CONNECTION_MODE \x7d\x7d --trace"

/-- The environment of machine images. -/
def machineDefaults : Environment where
  items := [("CONNECTION_MODE", "tc"),
    ("DOCKER_NET_V4_ADDR", "\x7b\x7b mgmt.ipv4_subnet \x7d\x7d"),
    ("DOCKER_NET_V6_ADDR", "\x7b\x7b mgmt.ipv6_subnet \x7d\x7d"),
    ("PASSWORD", "admin"),
    ("USERNAME", "admin")]

/-- A kind whose image runs a machine. -/
def machine (name : String) : NodeKind where
  name := name
  family := .machine
  credentials := some .admin
  defaults := machineDefaults
  bindRules := [⟨"CONNECTION_MODE", "macvtap", "/dev:/dev"⟩]
  command := some machineCommand

/-- The kind of containers with a network operating system. -/
def srl : NodeKind where
  name := "srl"
  family := .native
  requiresCertificate := true
  credentials := some .admin
  command := some "sudo bash -c /opt/srlinux/bin/sr_linux"

/-- The kind of plain containers. -/
def linux : NodeKind where
  name := "linux"
  family := .generic

end NodeKind

/-- The kinds that are known, in the order of their names. -/
structure NodeRegistry extends Ordered NodeKind.name
  deriving DecidableEq, Inhabited

namespace NodeRegistry

/-- A registry without kinds. -/
def empty : NodeRegistry := ⟨.empty⟩

/-- The kinds. -/
def kinds (r : NodeRegistry) : List NodeKind := r.items

/-- Adds a kind, or replaces the one of the same name. -/
def register (r : NodeRegistry) (kind : NodeKind) : NodeRegistry :=
  ⟨r.put kind⟩

/-- The four built-in kinds. -/
def builtIn : NodeRegistry :=
  [NodeKind.srl, NodeKind.machine "vr-csr", NodeKind.machine "vr-ftosv", NodeKind.linux].foldl
    register empty

/-- The kind of a name, or a failure that names it. -/
def get (r : NodeRegistry) (name : String) : Except Error NodeKind :=
  match r.find? name with
  | some k => .ok k
  | none => .error (.unknownKind name)

/-- The policy of the kinds that need a certificate. -/
def policy (r : NodeRegistry) : KindPolicy :=
  KindPolicy.ofList ((r.kinds.filter (·.requiresCertificate)).map (·.name))

end NodeRegistry

end LabTrust
