/-
Container settings of a node.

* `ManagementNet`: the network that the nodes attach to.
* `NodeConfig`: the settings of one node.
* `NodeKind.apply`: settings with the defaults of a kind. A value that is set wins over a default,
  but every default has to be one that can be filled in.
-/
import LabTrust.Node.Kind
import LabTrust.Template

namespace LabTrust

/-- The network that the nodes attach to. -/
structure ManagementNet where
  network : String := ""
  ipv4Subnet : String := ""
  ipv6Subnet : String := ""
  deriving DecidableEq, Inhabited

namespace ManagementNet

/-- The network that a document gives. -/
def ofData? (d : Data) : Option ManagementNet :=
  match d.fields? ["network", "ipv4_subnet", "ipv6_subnet"] with
  | some [network, v4, v6] => do
    return ⟨← Data.fieldOr "" Data.text? network, ← Data.fieldOr "" Data.text? v4,
      ← Data.fieldOr "" Data.text? v6⟩
  | _ => none

/-- A network as a document. -/
def toData (m : ManagementNet) : Data :=
  .record [("network", .text m.network), ("ipv4_subnet", .text m.ipv4Subnet),
    ("ipv6_subnet", .text m.ipv6Subnet)]

end ManagementNet

/-- The settings of a node's container. -/
structure NodeConfig where
  shortName : String
  longName : String := ""
  kind : String
  image : String := ""
  env : Environment := .empty
  binds : List String := []
  command : String := ""
  deriving DecidableEq, Inhabited

namespace NodeConfig

/-- The settings that a document gives. -/
def ofData? (d : Data) : Option NodeConfig :=
  match d.fields? ["short_name", "long_name", "kind", "image", "env", "binds", "cmd"] with
  | some [short, long, kind, image, env, binds, cmd] => do
    return { shortName := ← Data.field Data.text? short,
             longName := ← Data.fieldOr "" Data.text? long,
             kind := ← Data.field Data.text? kind,
             image := ← Data.fieldOr "" Data.text? image,
             env := ← Data.fieldOr .empty Environment.ofData? env,
             binds := ← Data.fieldOr [] (Data.list? Data.text?) binds,
             command := ← Data.fieldOr "" Data.text? cmd }
  | _ => none

/-- Settings as a document. -/
def toData (c : NodeConfig) : Data :=
  .record [("short_name", .text c.shortName), ("long_name", .text c.longName),
    ("kind", .text c.kind), ("image", .text c.image), ("env", c.env.toData),
    ("binds", .list (c.binds.map .text)), ("cmd", .text c.command)]

/-- What templates see of a node. -/
def names (c : NodeConfig) : Data :=
  .record [("short_name", .text c.shortName), ("long_name", .text c.longName),
    ("kind", .text c.kind)]

end NodeConfig

namespace NodeKind

/-- Puts a default into an environment, filled in for a node. -/
def fillDefault (config : NodeConfig) (net : ManagementNet) (env : Environment)
    (entry : String × String) : Except Error Environment :=
  let context := Data.record [("node", config.names), ("mgmt", net.toData)]
  match Template.expand entry.2 context with
  | .error detail => .error (.badDefault entry.1 detail)
  | .ok value => .ok (env.set entry.1 value)

/-- Adds the bind of a rule whose variable has its value, unless the bind is there. -/
def addBind (env : Environment) (binds : List String) (rule : BindRule) : List String :=
  if env.find? rule.variableName = some rule.value ∧ rule.bind ∉ binds then binds ++ [rule.bind]
  else binds

/-- The command of a node: the kind's, filled in, or else the node's own. -/
def fillCommand (kind : NodeKind) (config : NodeConfig) (env : Environment) (net : ManagementNet) :
    Except Error String :=
  match kind.command with
  | none => .ok config.command
  | some source =>
    let context :=
      Data.record [("node", config.names), ("mgmt", net.toData), ("env", env.toData)]
    (Template.expand source context).mapError (.badCommand config.kind)

/-- The settings of a node with the defaults of its kind. -/
def apply (kind : NodeKind) (config : NodeConfig) (net : ManagementNet) :
    Except Error NodeConfig := do
  let defaults ← kind.defaults.items.foldlM (fillDefault config net) .empty
  let env := defaults.overlay config.env
  let binds := kind.bindRules.foldl (addBind env) config.binds
  let command ← fillCommand kind config env net
  return { config with env, binds, command }

end NodeKind

end LabTrust
