/-
Identities to certify.

* `Subject`: the names that every certificate of a lab shares.
* `NodeInfo`: a node of a lab; `NodeInfo.ofLab` gives it its long and qualified names.
* `LeafInput`, `RootInput`: what a template is filled from, for a node and for a lab's root.
-/
import LabTrust.Data

namespace LabTrust

/-! ### Subject names -/

/-- The subject names that certificates of a lab share. -/
structure Subject where
  country : String
  locality : String
  organization : String
  unit : String
  deriving DecidableEq, Inhabited

namespace Subject

/-- The subject names of a lab whose settings give none. -/
def default : Subject := ⟨"BE", "Antwerp", "Nokia", "Container lab"⟩

/-- The subject names that a document gives. -/
def ofData? (d : Data) : Option Subject :=
  match d.fields? ["country", "locality", "organization", "organization_unit"] with
  | some [c, l, o, ou] => do
    return { country := ← Data.fieldOr "" Data.text? c,
             locality := ← Data.fieldOr "" Data.text? l,
             organization := ← Data.fieldOr "" Data.text? o,
             unit := ← Data.fieldOr "" Data.text? ou }
  | _ => none

/-- Subject names as a document. -/
def toData (s : Subject) : Data :=
  .record [("country", .text s.country), ("locality", .text s.locality),
    ("organization", .text s.organization), ("organization_unit", .text s.unit)]

end Subject

/-! ### Nodes -/

/-- A node of a lab. -/
structure NodeInfo where
  kind : String
  shortName : String
  longName : String
  fqdn : String
  deriving DecidableEq, Inhabited

namespace NodeInfo

/-- A node of `lab` under the usual names. -/
def ofLab (lab shortName kind : String) : NodeInfo where
  kind := kind
  shortName := shortName
  longName := "clab-" ++ lab ++ "-" ++ shortName
  fqdn := shortName ++ "." ++ lab ++ ".io"

/-- The node that a document gives. -/
def ofData? (d : Data) : Option NodeInfo :=
  match d.fields? ["kind", "short_name", "long_name", "fqdn"] with
  | some [kind, short, long, fqdn] => do
    return { kind := ← Data.field Data.text? kind,
             shortName := ← Data.field Data.text? short,
             longName := ← Data.field Data.text? long,
             fqdn := ← Data.field Data.text? fqdn }
  | _ => none

/-- A node as a document. -/
def toData (n : NodeInfo) : Data :=
  .record [("kind", .text n.kind), ("short_name", .text n.shortName),
    ("long_name", .text n.longName), ("fqdn", .text n.fqdn)]

end NodeInfo

/-! ### Leaves -/

/-- The identity of a leaf certificate. -/
structure LeafInput where
  hosts : List String := []
  commonName : String := ""
  country : String := ""
  locality : String := ""
  organization : String := ""
  unit : String := ""
  expiry : String := ""
  name : String
  longName : String := ""
  fqdn : String := ""
  labName : String := ""
  deriving DecidableEq, Inhabited

namespace LeafInput

/-- The identity of a node. -/
def ofNode (node : NodeInfo) (lab : String) (subject : Subject) : LeafInput where
  country := subject.country
  locality := subject.locality
  organization := subject.organization
  unit := subject.unit
  name := node.shortName
  longName := node.longName
  fqdn := node.fqdn
  labName := lab

/-- The names of the fields, in order. -/
def fieldNames : List String :=
  ["hosts", "common_name", "country", "locality", "organization", "organization_unit", "expiry",
    "name", "long_name", "fqdn", "prefix"]

/-- The identity that a document gives. -/
def ofData? (d : Data) : Option LeafInput :=
  match d.fields? fieldNames with
  | some [hosts, cn, c, l, o, ou, expiry, name, long, fqdn, lab] => do
    return { hosts := ← Data.fieldOr [] (Data.list? Data.text?) hosts,
             commonName := ← Data.fieldOr "" Data.text? cn,
             country := ← Data.fieldOr "" Data.text? c,
             locality := ← Data.fieldOr "" Data.text? l,
             organization := ← Data.fieldOr "" Data.text? o,
             unit := ← Data.fieldOr "" Data.text? ou,
             expiry := ← Data.fieldOr "" Data.text? expiry,
             name := ← Data.field Data.text? name,
             longName := ← Data.fieldOr "" Data.text? long,
             fqdn := ← Data.fieldOr "" Data.text? fqdn,
             labName := ← Data.fieldOr "" Data.text? lab }
  | _ => none

/-- An identity as a document; templates see these fields. -/
def toData (i : LeafInput) : Data :=
  .record [("hosts", .list (i.hosts.map .text)), ("common_name", .text i.commonName),
    ("country", .text i.country), ("locality", .text i.locality),
    ("organization", .text i.organization), ("organization_unit", .text i.unit),
    ("expiry", .text i.expiry), ("name", .text i.name), ("long_name", .text i.longName),
    ("fqdn", .text i.fqdn), ("prefix", .text i.labName)]

end LeafInput

/-! ### Roots -/

/-- The file name of a root's files, without what follows it. -/
def rootFileName : String := "root-ca"

/-- The identity of a lab's root. -/
structure RootInput where
  commonName : String := ""
  country : String := ""
  locality : String := ""
  organization : String := ""
  unit : String := ""
  expiry : String := ""
  labName : String
  fileName : String := rootFileName
  deriving DecidableEq, Inhabited

namespace RootInput

/-- The identity of a lab's root under the usual file name. -/
def ofLab (lab : String) (subject : Subject) (expiry : String) : RootInput where
  country := subject.country
  locality := subject.locality
  organization := subject.organization
  unit := subject.unit
  expiry := expiry
  labName := lab

/-- The names of the fields, in order. -/
def fieldNames : List String :=
  ["common_name", "country", "locality", "organization", "organization_unit", "expiry", "prefix",
    "name_prefix"]

/-- The identity that a document gives. -/
def ofData? (d : Data) : Option RootInput :=
  match d.fields? fieldNames with
  | some [cn, c, l, o, ou, expiry, lab, file] => do
    return { commonName := ← Data.fieldOr "" Data.text? cn,
             country := ← Data.fieldOr "" Data.text? c,
             locality := ← Data.fieldOr "" Data.text? l,
             organization := ← Data.fieldOr "" Data.text? o,
             unit := ← Data.fieldOr "" Data.text? ou,
             expiry := ← Data.fieldOr "" Data.text? expiry,
             labName := ← Data.field Data.text? lab,
             fileName := ← Data.fieldOr rootFileName Data.text? file }
  | _ => none

/-- An identity as a document; templates see these fields. -/
def toData (i : RootInput) : Data :=
  .record [("common_name", .text i.commonName), ("country", .text i.country),
    ("locality", .text i.locality), ("organization", .text i.organization),
    ("organization_unit", .text i.unit), ("expiry", .text i.expiry), ("prefix", .text i.labName),
    ("name_prefix", .text i.fileName)]

end RootInput

end LabTrust
