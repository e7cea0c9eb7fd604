/-
What commands print.

Each result has two forms: lines for people, whose labels may be coloured, and a JSON document.
-/
import LabTrust.Certificate.Summary
import LabTrust.CommandLine.OutputFormat
import LabTrust.CommandLine.Paint
import LabTrust.Json.Writer
import LabTrust.Lab
import LabTrust.Topology

namespace LabTrust.CommandLine

/-! ### Lines -/

namespace Paint

/-- A line of its own. -/
def line (parts : List String) : String := String.join parts ++ "\n"

/-- A label and what it stands for, on a line further in. -/
def entry (p : Paint) (label value : String) : String :=
  line ["  ", p.apply .label label, " ", value]

/-- A document for programs. -/
def document (d : Data) : String := line [Json.writePretty d]

/-- A time with its difference from universal time, which is none. -/
def time (t : Instant) : String := String.ofList t.write.toList.dropLast ++ "+00:00"

end Paint

/-! ### Certificates -/

/-- The lines of a certificate; the end of its validity is good or bad news. -/
def certificateLines (p : Paint) (now : Instant) (c : CertificateSummary) : String :=
  p.entry "Subject:" c.subject ++ p.entry "Issuer:" c.issuer ++ p.entry "Serial:" c.serial ++
    p.entry "Type:" (if c.isAuthority then "CA" else "leaf") ++
    p.entry "Not before:" (Paint.time c.notBefore) ++
    p.entry "Not after:"
      (p.apply (if c.isExpiredAt now then .bad else .good) (Paint.time c.notAfter)) ++
    (if c.hosts.isEmpty then "" else Paint.line ["  ", p.apply .label "SANs:"]) ++
    String.join (c.hosts.map fun host => Paint.line ["    - ", p.apply .name host])

/-- A root on disk. -/
def showRoot (format : OutputFormat) (p : Paint) (now : Instant) (path : Path)
    (c : CertificateSummary) : String :=
  match format with
  | .json => Paint.document c.toData
  | .pretty => Paint.line [p.apply .heading "Root CA", " ", path.text] ++ certificateLines p now c

/-- The certificate of a node. -/
def showNode (format : OutputFormat) (p : Paint) (now : Instant) (node : String) (files : Triple)
    (c : CertificateSummary) : String :=
  match format with
  | .json =>
    Paint.document (.record ([("node", .text node), ("cert", .text files.certificate.text),
      ("key", .text files.key.text)] ++ c.fields))
  | .pretty =>
    Paint.line [p.apply .heading "Node", " ", p.apply .name node] ++
      p.entry "Certificate:" files.certificate.text ++ p.entry "Key:" files.key.text ++
      certificateLines p now c

/-- The certificate of a node that was made by this command. -/
def showIssued (format : OutputFormat) (p : Paint) (now : Instant) (node : String) (files : Triple)
    (c : CertificateSummary) : String :=
  (match format with
    | .json => ""
    | .pretty => Paint.line [p.apply .success "Success:", " Certificate issued."]) ++
    showNode format p now node files c

/-- The root of a lab, made by this command or before. -/
def showOutcome (format : OutputFormat) (p : Paint) (lab : String) (root : RootOutcome) : String :=
  match format with
  | .json =>
    Paint.document (.record [("lab", .text lab), ("created", .bool root.wasCreated),
      ("cert", .text root.files.certificate.text), ("key", .text root.files.key.text),
      ("csr", .text root.files.request.text)])
  | .pretty =>
    (if root.wasCreated then
      Paint.line [p.apply .success "Success:", " Root CA of lab ", p.apply .name lab, " created."]
    else
      Paint.line ["Root CA of lab ", p.apply .name lab, " already present, nothing to do."]) ++
      p.entry "Certificate:" root.files.certificate.text ++ p.entry "Key:" root.files.key.text

/-! ### Topologies -/

/-- A failure of a node as a document. -/
def failureData (f : NodeFailure) : Data :=
  .record [("node", .text f.node), ("error", .text f.error.message)]

/-- What was made for a topology as a document. -/
def reportData (lab : String) (r : Report) (nodes : List NodeConfig) : Data :=
  .record [("lab", .text lab), ("ca_required", .bool r.neededRoot),
    ("root_created", .bool (r.root.any RootOutcome.wasCreated)),
    ("root_cert", (r.root.map fun root => Data.text root.files.certificate.text).getD .null),
    ("issued", .list (r.issued.map .text)), ("failed", .list (r.failed.map failureData)),
    ("nodes", .list (nodes.map NodeConfig.toData))]

/-- The lines of a node's container. -/
def nodeLines (p : Paint) (n : NodeConfig) : String :=
  Paint.line ["  ", p.apply .name n.shortName, " (", n.kind, ")"] ++
    (if n.command = "" then "" else Paint.line ["    cmd: ", n.command]) ++
    String.join (n.binds.map fun bind => Paint.line ["    bind: ", bind])

/-- The lines of the root and of the nodes that needed it. -/
def reportLines (p : Paint) (root : RootOutcome) (r : Report) : String :=
  p.entry "Root CA:" (root.files.certificate.text ++
      (if root.wasCreated then " (created)" else " (reused)")) ++
    String.join (r.issued.map fun node => Paint.line ["  ", p.apply .good "✓", " ", node]) ++
    String.join (r.failed.map fun f =>
      Paint.line ["  ", p.apply .bad "✗", " ", f.node, ": ", f.error.message])

/-- What was made for a topology, and the containers of its nodes if more is to be said. -/
def showReport (format : OutputFormat) (p : Paint) (isVerbose : Bool) (lab : String) (r : Report)
    (nodes : List NodeConfig) : String :=
  match format with
  | .json => Paint.document (reportData lab r nodes)
  | .pretty =>
    Paint.line [p.apply .heading "Lab", " ", p.apply .name lab] ++
      match r.root with
      | none => Paint.line ["  No node requires the lab CA, nothing written."]
      | some root =>
        reportLines p root r ++
          if isVerbose then
            Paint.line [] ++ Paint.line [p.apply .heading "Nodes"] ++
              String.join (nodes.map (nodeLines p))
          else ""

/-! ### Settings -/

/-- Settings, and whether they come from a file. -/
def showSettings (format : OutputFormat) (p : Paint) (isFromFile : Bool) (s : Settings) : String :=
  match format with
  | .json => Paint.document s.toData
  | .pretty =>
    Paint.line [p.apply .label "Current Configuration:"] ++
      (if isFromFile then ""
      else Paint.line ["  ", p.apply .faint "(no config file, using defaults)"]) ++
      Paint.line [] ++ s.write

end LabTrust.CommandLine
