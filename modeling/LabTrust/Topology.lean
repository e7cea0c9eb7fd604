/-
Topology files: the nodes of a lab.

* `Topology.read`: a TOML document with a name and nodes whose names differ.
* `Topology.nodes`: the nodes as certificates see them.
* `Topology.configs`: the containers of the nodes with the defaults of their kinds; nodes of
  unknown kinds stay as written.
-/
import LabTrust.Node.Config
import LabTrust.Toml.Reader

namespace LabTrust

/-- A node of a topology file. -/
structure TopologyNode where
  name : String
  kind : String
  image : String := ""
  env : Environment := .empty
  binds : List String := []
  command : String := ""
  deriving DecidableEq, Inhabited

/-- The node that a document gives. -/
def TopologyNode.ofData? (d : Data) : Option TopologyNode :=
  match d.fields? ["name", "kind", "image", "env", "binds", "cmd"] with
  | some [name, kind, image, env, binds, cmd] => do
    return { name := ← Data.field Data.text? name,
             kind := ← Data.field Data.text? kind,
             image := ← Data.fieldOr "" Data.text? image,
             env := ← Data.fieldOr .empty Environment.ofData? env,
             binds := ← Data.fieldOr [] (Data.list? Data.text?) binds,
             command := ← Data.fieldOr "" Data.text? cmd }
  | _ => none

/-- The nodes of a lab. -/
structure Topology where
  name : String
  net : ManagementNet := {}
  entries : List TopologyNode := []
  deriving DecidableEq, Inhabited

/-- Why a topology file cannot be used. -/
inductive TopologyFault where
  | unreadable (failure : IoFailure)
  | badDocument (detail : String)
  | nameless
  | duplicateNode (name : String)
  deriving DecidableEq, Inhabited

namespace TopologyFault

/-- What a fault of the file at a path means. -/
def headline (path : Path) : TopologyFault → String
  | unreadable _ => "Failed to read topology " ++ path.text
  | badDocument _ | duplicateNode _ => "Invalid topology " ++ path.text
  | nameless => "Topology " ++ path.text ++ " has no name"

/-- What lies behind a fault, if there is more to say. -/
def cause? : TopologyFault → Option String
  | unreadable failure => some failure.message
  | badDocument detail => some ("TOML parse error: " ++ detail)
  | nameless => none
  | duplicateNode name => some ("Duplicate node name " ++ Text.quote name)

end TopologyFault

namespace Topology

/-- The topology that a document gives. -/
def ofData? (d : Data) : Option Topology :=
  match d.fields? ["name", "mgmt", "nodes"] with
  | some [name, mgmt, nodes] => do
    return { name := ← Data.field Data.text? name,
             net := ← Data.fieldOr {} ManagementNet.ofData? mgmt,
             entries := ← Data.fieldOr [] (Data.list? TopologyNode.ofData?) nodes }
  | _ => none

/-- The first name that is given to a second node. -/
def repeatedName? : List String → List String → Option String
  | _, [] => none
  | seen, name :: rest =>
    if seen.contains name then some name else repeatedName? (name :: seen) rest

/-- Reads the bytes of a topology file. -/
def read (content : Bytes) : Except TopologyFault Topology :=
  match content.text? with
  | none => .error (.unreadable .notText)
  | some text =>
    match Toml.read text with
    | none => .error (.badDocument "the text does not follow the grammar")
    | some d =>
      match ofData? d with
      | none => .error (.badDocument "the document does not describe a topology")
      | some t =>
        if Text.blank t.name then .error .nameless
        else
          match repeatedName? [] (t.entries.map (·.name)) with
          | some name => .error (.duplicateNode name)
          | none => .ok t

/-- The nodes as certificates see them. -/
def nodes (t : Topology) : List NodeInfo :=
  t.entries.map fun n => NodeInfo.ofLab t.name n.name n.kind

/-- A node's container as written. -/
def written (t : Topology) (n : TopologyNode) : NodeConfig where
  shortName := n.name
  longName := "clab-" ++ t.name ++ "-" ++ n.name
  kind := n.kind
  image := n.image
  env := n.env
  binds := n.binds
  command := n.command

/-- The containers of the nodes with the defaults of their kinds. -/
def configs (t : Topology) (registry : NodeRegistry) : Except Error (List NodeConfig) :=
  t.entries.mapM fun n =>
    match registry.find? n.kind with
    | some kind => kind.apply (t.written n) t.net
    | none => .ok (t.written n)

end Topology

end LabTrust
