/-
Where certificates lie.

* `Triple`: the three files that belong together, made from one path by suffixes.
* `Triple.root`, `Triple.ofNode`: the files of a lab's root and of a node.
* `checkName`: a node's name has to be one plain file name, because it names a directory and files.
* `LabLayout`: the directories of a lab.
-/
import LabTrust.Error
import LabTrust.Identity

namespace LabTrust

/-- Three files that belong together. -/
structure Triple where
  certificate : Path
  key : Path
  request : Path
  deriving DecidableEq, Inhabited

namespace Triple

/-- The files beside a path: its spelling with a suffix each. -/
def ofPath (p : Path) : Triple :=
  ⟨p.withSuffix ".pem", p.withSuffix "-key.pem", p.withSuffix ".csr"⟩

/-- The files of a root in its directory. -/
def root (directory : Path) : Triple :=
  ofPath (directory.join (Path.ofText rootFileName))

/-- The directory of a node. -/
def nodeDirectory (directory : Path) (name : String) : Path :=
  directory.join (Path.ofText name)

/-- The files of a node. -/
def ofNode (directory : Path) (name : String) : Triple :=
  ofPath ((nodeDirectory directory name).join (Path.ofText name))

end Triple

/-- Refuses a name that is not one plain file name. -/
def checkName (name : String) : Except Error Unit :=
  if (Path.ofText name).components = [.name name.toList] then .ok ()
  else .error (.badNodeName name)

/-- The directories of a lab: one for its root, and one that holds a directory for each node. -/
structure LabLayout where
  rootDirectory : Path
  nodesDirectory : Path
  deriving DecidableEq, Inhabited

/-- The usual directories of a lab below a working directory. -/
def LabLayout.ofLab (workdir : Path) (lab : String) : LabLayout :=
  let nodes := (workdir.join (Path.ofText ("clab-" ++ lab))).join (Path.ofText "ca")
  ⟨nodes.join (Path.ofText "root"), nodes⟩

end LabTrust
