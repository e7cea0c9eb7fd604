/-
What the program is called for.

* `Command`: one constructor for each command, with what it needs.
* `Invocation`: a command and what holds for all commands.
* `Invocation.read`: the invocation that arguments describe, by the rule `rule`.
-/
import LabTrust.CommandLine.Grammar
import LabTrust.CommandLine.OutputFormat
import LabTrust.Path

namespace LabTrust.CommandLine

/-- A lab, and where its certificates lie. -/
structure LabChoice where
  name : String
  workdir : Path
  /-- The directory of the root, if it is not the lab's own. -/
  rootDirectory : Option Path := none
  deriving DecidableEq, Inhabited

/-- A certificate to be made for one node. -/
structure IssueOrder where
  node : String
  longName : Option String := none
  fqdn : Option String := none
  hosts : List String := []
  expiry : Option String := none
  deriving DecidableEq, Inhabited

/-- The certificates of a whole topology. -/
structure ProvisionOrder where
  topology : Path
  workdir : Path
  rootDirectory : Option Path := none
  /-- How many certificates are made at a time. -/
  jobs : Nat
  /-- Whether a failure of a node is one of the command. -/
  isStrict : Bool := false
  deriving DecidableEq, Inhabited

/-- A command. -/
inductive Command where
  | makeRoot (lab : LabChoice)
  | showRoot (lab : LabChoice)
  | issue (lab : LabChoice) (order : IssueOrder)
  | showNode (lab : LabChoice) (node : String)
  | provision (order : ProvisionOrder)
  | showSettings
  | showSettingsPath
  deriving DecidableEq, Inhabited

/-- A command and what holds for all commands. -/
structure Invocation where
  /-- The file of the settings, if it is not the usual one. -/
  settings : Option Path := none
  format : OutputFormat := .pretty
  isVerbose : Bool := false
  /-- Colours are not wanted. -/
  isColorless : Bool := false
  command : Command
  deriving DecidableEq, Inhabited

/-! ### Rules -/

/-- An option with a value that is a text. -/
def textOption (long : String) (short : Option Char) (isRequired : Bool) : OptionRule :=
  { long, short, form := .value .text, isRequired }

/-- An option with a path as its value. -/
def pathOption (long : String) (short : Option Char) : OptionRule :=
  { long, short, form := .value .path }

/-- The options of all commands. -/
def commonOptions : List OptionRule :=
  [{ pathOption "config" (some 'c') with standIn := some "LABCA_CONFIG" },
    { long := "output", short := some 'o',
      form := .value (.oneOf (OutputFormat.all.map OutputFormat.name)) },
    { long := "verbose", short := some 'v', form := .switch .set },
    { long := "no-color", form := .switch .set },
    { long := "help", short := some 'h', form := .switch .showHelp },
    { long := "version", short := some 'V', form := .switch .showVersion }]

/-- A command with options of its own. -/
def leafRule (name : String) (options : List OptionRule) : CommandRule :=
  { name, options := options ++ commonOptions }

/-- A command with commands below it. -/
def groupRule (name : String) (commands : List CommandRule) : CommandRule :=
  { name, options := commonOptions, commands }

/-- Where certificates lie. -/
def placeOptions : List OptionRule := [pathOption "workdir" (some 'w'), pathOption "ca-root" none]

/-- Which lab is meant, and where its certificates lie. -/
def labOptions : List OptionRule := textOption "lab" (some 'l') true :: placeOptions

/-- Which node is meant. -/
def nodeOption : OptionRule := textOption "node" (some 'n') true

/-- The name of the program. -/
def programName : String := "labca"

/-- The rule of the whole program. -/
def rule : CommandRule :=
  groupRule programName
    [groupRule "ca" [leafRule "init" labOptions, leafRule "show" labOptions],
      groupRule "cert"
        [leafRule "issue" (labOptions ++ [nodeOption, textOption "long-name" none false,
            textOption "fqdn" none false, { textOption "host" none false with repeats := true },
            textOption "expiry" none false]),
          leafRule "show" (labOptions ++ [nodeOption])],
      { leafRule "provision" (placeOptions ++
          [{ long := "jobs", short := some 'j', form := .value .count },
            { long := "strict", form := .switch .set }]) with
        operand := some { pathOption "topology" none with isRequired := true } },
      groupRule "config" [leafRule "show" [], leafRule "path" []]]

/-! ### Reading -/

namespace Invocation

/-- The directory that labs lie in, if none is given: the current one. -/
def workdir (a : Arguments) : Path := Path.ofText ((a.last? "workdir").getD ".")

/-- The directory of the root that is given. -/
def rootDirectory? (a : Arguments) : Option Path := (a.last? "ca-root").map Path.ofText

/-- The lab that is given. -/
def lab (a : Arguments) : LabChoice :=
  { name := (a.last? "lab").getD "", workdir := workdir a, rootDirectory := rootDirectory? a }

/-- How many certificates are made at a time, if nothing is said. -/
def usualJobs : Nat := 4

/-- The order of a certificate that is given. -/
def issueOrder (a : Arguments) : IssueOrder :=
  { node := (a.last? "node").getD "", longName := a.last? "long-name",
    fqdn := a.last? "fqdn", hosts := a.all "host", expiry := a.last? "expiry" }

/-- The order of a topology's certificates that is given. -/
def provisionOrder (a : Arguments) : ProvisionOrder :=
  { topology := Path.ofText ((a.last? "topology").getD ""), workdir := workdir a,
    rootDirectory := rootDirectory? a,
    jobs := ((a.last? "jobs").bind count?).getD usualJobs, isStrict := a.has "strict" }

/-- The command that is given. -/
def command? (a : Arguments) : Option Command :=
  match a.commands with
  | ["ca", "init"] => some (.makeRoot (lab a))
  | ["ca", "show"] => some (.showRoot (lab a))
  | ["cert", "issue"] => some (.issue (lab a) (issueOrder a))
  | ["cert", "show"] => some (.showNode (lab a) ((a.last? "node").getD ""))
  | ["provision"] => some (.provision (provisionOrder a))
  | ["config", "show"] => some .showSettings
  | ["config", "path"] => some .showSettingsPath
  | _ => none

/-- The invocation that arguments describe, in an environment. -/
def read (env : String → Option String) (arguments : List String) : Except Stop Invocation := do
  let a ← Arguments.read rule env arguments
  match command? a with
  | none => throw (.fault .missingCommand)
  | some command =>
    return { settings := (a.last? "config").map Path.ofText,
             format := ((a.last? "output").bind OutputFormat.ofName?).getD .pretty,
             isVerbose := a.has "verbose", isColorless := a.has "no-color", command }

end Invocation

end LabTrust.CommandLine
