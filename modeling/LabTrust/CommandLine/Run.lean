/-
Commands as programs.

* `Surroundings`: what a command sees of where it runs, besides files and the clock.
* `Invocation.run`: the output of a command, and what failed.
* `run`: arguments to output, report and exit code.
-/
import LabTrust.Certificate.Inspect
import LabTrust.CommandLine.Diagnosis
import LabTrust.CommandLine.Display
import LabTrust.CommandLine.Invocation

namespace LabTrust.CommandLine

/-- What a command sees of where it runs. -/
structure Surroundings where
  env : String → Option String
  /-- The home of the user's account. -/
  accountHome : Option String := none
  isTerminal : Bool := false

/-- A program that fails with a report. -/
abbrev Work (α : Type) := ExceptT Diagnosis Program α

namespace Work

/-- Work of the library. -/
def ofAction {α : Type} (a : Action α) : Work α :=
  ExceptT.mk (a.run.bind fun r => .done (r.mapError Diagnosis.ofError))

/-- A failure of work that is part of something larger. -/
def within {α : Type} (larger : String) (w : Work α) : Work α :=
  ExceptT.mk (w.run.bind fun r => .done (r.mapError (Diagnosis.within larger)))

/-- The result of a program that cannot fail. -/
def ofProgram {α : Type} (p : Program α) : Work α := ExceptT.lift p

/-- A result that is known, or a failure of the library. -/
def ofExcept {α : Type} (r : Except Error α) : Work α :=
  ExceptT.mk (.done (r.mapError Diagnosis.ofError))

/-- A value that has to be there. -/
def some? {α : Type} (message : String) (a : Option α) : Work α :=
  match a with
  | some a => return a
  | none => throw ⟨message, []⟩

end Work

/-! ### Settings -/

/-- The home directory: what the environment says, or the home of the account. -/
def Surroundings.home? (s : Surroundings) : Option String :=
  ((s.env "HOME").filter (· ≠ "")).or s.accountHome

/-- The directory of the user's settings. -/
def Surroundings.settingsDirectory? (s : Surroundings) : Option Path :=
  s.home?.map fun home =>
    (((s.env "XDG_CONFIG_HOME").map Path.ofText).filter Path.isAbsolute).getD
      ((Path.ofText home).join (.ofText ".config"))

/-- The file of the settings: the one given, or the usual one. -/
def settingsPath (s : Surroundings) (given : Option Path) : Work Path :=
  match given with
  | some path => return path
  | none => do
    let directory ← Work.some? "Could not determine config directory" s.settingsDirectory?
    return (directory.join (.ofText programName)).join (.ofText "config.toml")

/-! ### Commands -/

/-- The lab of a name, a place and settings. -/
def openLab (name : String) (workdir : Path) (rootDirectory : Option Path) (settings : Settings) :
    Work Lab :=
  let layout := LabLayout.ofLab workdir name
  let layout := { layout with rootDirectory := rootDirectory.getD layout.rootDirectory }
  .within ("Failed to set up the CA of lab " ++ name)
    (.ofAction (Lab.ofSettings name layout settings))

/-- The lab that is chosen. -/
def LabChoice.open (c : LabChoice) (settings : Settings) : Work Lab :=
  openLab c.name c.workdir c.rootDirectory settings

/-- What holds while a command runs. -/
structure Context where
  settings : Settings
  settingsPath : Path
  format : OutputFormat
  paint : Paint
  isVerbose : Bool

/-- What a command prints, and what failed after that. -/
structure Printed where
  output : String
  complaint : Option Diagnosis := none
  deriving DecidableEq, Inhabited

/-- The time. -/
def now : Work Instant := .ofProgram (.perform .clock)

/-- Makes the root of a lab unless it is there. -/
def makeRoot (c : Context) (choice : LabChoice) : Work Printed := do
  let lab ← choice.open c.settings
  let root ← Work.within ("Failed to create the root CA of lab " ++ choice.name)
    (.ofAction (lab.ensureRoot lab.rootInput))
  return { output := showOutcome c.format c.paint choice.name root }

/-- Shows the root of a lab. -/
def showLabRoot (c : Context) (choice : LabChoice) : Work Printed := do
  let lab ← choice.open c.settings
  let path := lab.rootFiles.certificate
  match ← Work.ofProgram (Action.text <$> .perform (.read path)) with
  | .error failure =>
    throw ⟨"No root CA at " ++ path.text ++ "\n\nCreate it with: " ++ programName ++
      " ca init --lab " ++ choice.name, [failure.message]⟩
  | .ok text =>
    let summary ← Work.within ("Failed to read " ++ path.text)
      (.ofExcept (CertificateSummary.ofPem text))
    return { output := showRoot c.format c.paint (← now) path summary }

/-- The identity that an order describes. -/
def IssueOrder.input (o : IssueOrder) (lab : Lab) : LeafInput :=
  let node := NodeInfo.ofLab lab.name o.node ""
  let input := lab.nodeInput { node with
    longName := o.longName.getD node.longName,
    fqdn := o.fqdn.getD node.fqdn }
  { input with hosts := o.hosts, expiry := o.expiry.getD input.expiry }

/-- Makes a certificate for a node, and the root if it is not there. -/
def issueNode (c : Context) (choice : LabChoice) (order : IssueOrder) : Work Printed := do
  let lab ← choice.open c.settings
  let bundle ← Work.within ("Failed to issue a certificate for " ++ order.node)
    (.ofAction do
      discard <| lab.ensureRoot lab.rootInput
      lab.issue (order.input lab))
  let text ← Work.some? "Issued certificate is not valid UTF-8" bundle.certificateText?
  let summary ← Work.ofExcept (CertificateSummary.ofPem text)
  let files := Triple.ofNode lab.layout.nodesDirectory order.node
  return { output := showIssued c.format c.paint (← now) order.node files summary }

/-- The report of a stored certificate that cannot be read. -/
def loadFailure (choice : LabChoice) (node : String) (e : Error) : Diagnosis :=
  if e.kind = .notFound then
    ⟨"No certificate for node " ++ node ++ " in lab " ++ choice.name ++ ": " ++ e.message ++
      "\n\nIssue one with: " ++ programName ++ " cert issue --lab " ++ choice.name ++ " --node " ++
      node, []⟩
  else .ofError e

/-- Shows the certificate of a node. -/
def showLabNode (c : Context) (choice : LabChoice) (node : String) : Work Printed := do
  let lab ← choice.open c.settings
  match ← Work.ofProgram (lab.load node).attempt with
  | .error e => throw (loadFailure choice node e)
  | .ok bundle =>
    let text ← Work.some? "Stored certificate is not valid UTF-8" bundle.certificateText?
    let summary ← Work.within ("Failed to parse the certificate of " ++ node)
      (.ofExcept (CertificateSummary.ofPem text))
    let files := Triple.ofNode lab.layout.nodesDirectory node
    return { output := showNode c.format c.paint (← now) node files summary }

/-- Reads the topology in a file. -/
def readTopology (path : Path) : Work Topology := do
  let content ← Work.ofProgram (.perform (.read path))
  match (content.mapError TopologyFault.unreadable).bind Topology.read with
  | .ok topology => return topology
  | .error fault => throw (.ofTopology path fault)

/-- Makes the root, and the certificates of the nodes that get one. -/
def issueAll (lab : Lab) (jobs : Nat) (schedule : List Nat) (nodes : List NodeInfo) :
    Work Report := do
  let qualifying := lab.policy.qualifying nodes
  if qualifying.isEmpty then return {}
  let root ← Work.within ("Failed to create the root CA of lab " ++ lab.name)
    (.ofAction (lab.ensureRoot lab.rootInput))
  return .ofOutcomes root (← Work.ofProgram (lab.issueInTurns jobs schedule qualifying))

/-- A report with failures, where none are allowed. -/
def complaint? (isStrict : Bool) (r : Report) : Option Diagnosis :=
  if isStrict && !r.isSuccess then
    some ⟨toString r.failed.length ++ " of " ++ toString (r.failed.length + r.issued.length) ++
      " node certificates failed", []⟩
  else none

/-- Makes the certificates of a whole topology. -/
def provision (c : Context) (order : ProvisionOrder) (schedule : List Nat) : Work Printed := do
  let topology ← readTopology order.topology
  let configs ← Work.ofExcept (topology.configs .builtIn)
  let lab ← openLab topology.name order.workdir order.rootDirectory c.settings
  let report ← issueAll lab order.jobs schedule topology.nodes
  return { output := showReport c.format c.paint c.isVerbose topology.name report configs,
           complaint := complaint? order.isStrict report }

/-- A command; `schedule` says how certificates that are made at a time take turns. -/
def Command.run (c : Context) (schedule : List Nat) : Command → Work Printed
  | makeRoot choice => CommandLine.makeRoot c choice
  | showRoot choice => showLabRoot c choice
  | issue choice order => issueNode c choice order
  | showNode choice node => showLabNode c choice node
  | provision order => CommandLine.provision c order schedule
  | showSettings => do
    let isFromFile ← Work.ofAction (Action.exists? c.settingsPath)
    return { output := CommandLine.showSettings c.format c.paint isFromFile c.settings }
  | showSettingsPath => return { output := Paint.line [c.settingsPath.text] }

/-! ### The whole program -/

/-- How the program ends. -/
structure Exit where
  code : Nat
  output : String
  /-- What goes to the error stream. -/
  report : String
  deriving DecidableEq, Inhabited

namespace Exit

/-- Help on a command: its options and the commands below it. -/
def help (title : List String) (rule : CommandRule) : String :=
  Paint.line ["Usage: ", " ".intercalate title, " [OPTIONS]",
      if rule.commands.isEmpty then "" else " <COMMAND>",
      (rule.operand.map fun operand => " <" ++ operand.long ++ ">").getD ""] ++
    String.join (rule.commands.map fun sub => Paint.line ["  ", sub.name]) ++
    String.join (rule.options.map fun option => Paint.line ["  --", option.long])

/-- The version of the program. -/
def version : String := "0.1.0"

/-- The end of a program whose arguments are not carried out. -/
def ofStop : Stop → Exit
  | .help title rule => ⟨0, help title rule, ""⟩
  | .version title => ⟨0, Paint.line ["-".intercalate title, " ", version], ""⟩
  | .fault fault => ⟨2, "", Paint.line ["error: ", fault.message]⟩

/-- The end of a command. -/
def ofResult : Except Diagnosis Printed → Exit
  | .error d => ⟨1, "", d.text⟩
  | .ok printed =>
    match printed.complaint with
    | none => ⟨0, printed.output, ""⟩
    | some d => ⟨1, printed.output, d.text⟩

end Exit

/-- An invocation: the settings are read first. -/
def Invocation.run (i : Invocation) (s : Surroundings) (schedule : List Nat) : Work Printed := do
  let path ← settingsPath s i.settings
  let settings ← Work.ofAction (Settings.load path)
  i.command.run
    { settings, settingsPath := path, format := i.format,
      paint := .ofEnvironment s.env s.isTerminal i.isColorless, isVerbose := i.isVerbose }
    schedule

/-- The program on arguments. -/
def run (s : Surroundings) (schedule : List Nat) (arguments : List String) : Program Exit :=
  match Invocation.read s.env arguments with
  | .error stop => .done (.ofStop stop)
  | .ok i => Exit.ofResult <$> (i.run s schedule).run

end LabTrust.CommandLine
