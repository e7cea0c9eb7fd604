/-
Settings that all labs share.

* `Settings`: subject names, validities, what to do about missing hosts, the kinds of nodes that get
  a certificate, and files that replace the built-in templates.
* `Settings.read`, `Settings.write`: from a TOML document and to one.
* `Settings.check`: refuses validities that would only fail when something is signed.
-/
import LabTrust.KindPolicy
import LabTrust.Request
import LabTrust.Toml.Reader
import LabTrust.Toml.Writer

namespace LabTrust

/-- What holds for leaf certificates unless an identity says otherwise. -/
structure LeafOptions where
  hostPolicy : HostPolicy := .warn
  expiry : String := Expiry.leafDefault
  deriving DecidableEq, Inhabited

namespace LeafOptions

/-- The options that a document gives. -/
def ofData? (unit : Data → Bool) (d : Data) : Option LeafOptions :=
  match d.fields? ["host_policy", "leaf_expiry"] with
  | some [policy, expiry] => do
    return { hostPolicy := ← Data.fieldOr .warn (HostPolicy.ofData? unit) policy,
             expiry := ← Data.fieldOr Expiry.leafDefault Data.text? expiry }
  | _ => none

/-- Options as a document. -/
def toData (o : LeafOptions) : Data :=
  .record [("host_policy", .text o.hostPolicy.name), ("leaf_expiry", .text o.expiry)]

end LeafOptions

/-- The validity of a lab's root unless the settings say otherwise: thirty years. -/
def rootExpiryDefault : String := "262800h"

/-- Settings that all labs share. -/
structure Settings where
  subject : Subject := Subject.default
  rootExpiry : String := rootExpiryDefault
  leafExpiry : String := Expiry.leafDefault
  hostPolicy : HostPolicy := .warn
  kinds : List String := KindPolicy.defaultKinds
  rootTemplate : Option Path := none
  nodeTemplate : Option Path := none
  deriving DecidableEq, Inhabited

namespace Settings

/-- The path that a document gives. -/
def path? (d : Data) : Option Path := d.text?.map Path.ofText

/-- The settings that a document gives; `unit` is what the record form of a choice holds. -/
def ofData? (unit : Data → Bool) (d : Data) : Option Settings :=
  match d.fields? ["identity", "ca_expiry", "leaf_expiry", "host_policy", "ca_kinds",
    "root_template", "node_template"] with
  | some [identity, root, leaf, policy, kinds, rootTemplate, nodeTemplate] => do
    return { subject := ← Data.fieldOr Subject.default Subject.ofData? identity,
             rootExpiry := ← Data.fieldOr rootExpiryDefault Data.text? root,
             leafExpiry := ← Data.fieldOr Expiry.leafDefault Data.text? leaf,
             hostPolicy := ← Data.fieldOr .warn (HostPolicy.ofData? unit) policy,
             kinds := ← Data.fieldOr KindPolicy.defaultKinds (Data.list? Data.text?) kinds,
             rootTemplate := ← Data.fieldOr none (Data.optional? path?) rootTemplate,
             nodeTemplate := ← Data.fieldOr none (Data.optional? path?) nodeTemplate }
  | _ => none

/-- Template files that are set, as fields. -/
def templateFields (s : Settings) : List (String × Path) :=
  (s.rootTemplate.map (("root_template", ·))).toList ++
    (s.nodeTemplate.map (("node_template", ·))).toList

/-- Settings as a document. -/
def toData (s : Settings) : Data :=
  .record ([("identity", s.subject.toData), ("ca_expiry", .text s.rootExpiry),
    ("leaf_expiry", .text s.leafExpiry), ("host_policy", .text s.hostPolicy.name),
    ("ca_kinds", .list (s.kinds.map .text))] ++
    s.templateFields.map fun (key, path) => (key, .text path.text))

/-- Refuses a validity without meaning, and names the field. -/
def checkExpiry (field text : String) : Except Error Unit :=
  match Expiry.parse text with
  | .ok _ => .ok ()
  | .error _ => .error (.badSettingsExpiry field text)

/-- Refuses validities without meaning. -/
def check (s : Settings) : Except Error Unit := do
  checkExpiry "ca_expiry" s.rootExpiry
  checkExpiry "leaf_expiry" s.leafExpiry

/-- Reads and checks a TOML document. -/
def read (text : String) : Except Error Settings :=
  match Toml.read text with
  | none => .error (.badSettings "the text does not follow the grammar")
  | some d =>
    match ofData? Toml.isUnit d with
    | none => .error (.badSettings "the document does not describe settings")
    | some s => s.check.map fun _ => s

/-- Settings as a TOML document. -/
def write (s : Settings) : String :=
  Toml.pair "ca_expiry" (Toml.quote s.rootExpiry) ++
  Toml.pair "leaf_expiry" (Toml.quote s.leafExpiry) ++
  Toml.pair "host_policy" (Toml.quote s.hostPolicy.name) ++
  Toml.pair "ca_kinds" (Toml.writeList s.kinds) ++
  String.join (s.templateFields.map fun (key, path) => Toml.pair key (Toml.quote path.text)) ++
  "\n[identity]\n" ++
  Toml.pair "country" (Toml.quote s.subject.country) ++
  Toml.pair "locality" (Toml.quote s.subject.locality) ++
  Toml.pair "organization" (Toml.quote s.subject.organization) ++
  Toml.pair "organization_unit" (Toml.quote s.subject.unit)

/-- The kinds of nodes that get a certificate. -/
def policy (s : Settings) : KindPolicy := KindPolicy.ofList s.kinds

/-- What holds for leaf certificates. -/
def leafOptions (s : Settings) : LeafOptions := ⟨s.hostPolicy, s.leafExpiry⟩

end Settings

end LabTrust
