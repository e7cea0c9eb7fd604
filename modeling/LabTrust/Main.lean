/-
The program on the real file system.

Effects are carried out one by one; what the system reports is read back as an `IoFailure`. Each
source of random values has a seed of its own.
-/
import LabTrust.Certificate.Issuance
import LabTrust.CommandLine.Run
import Std.Time.DateTime.Timestamp

namespace LabTrust

namespace Main

/-- The refusal with a number of the system, which may stand with a minus sign. -/
def failureOfCode (code : UInt32) (report : String) : IoFailure :=
  let code := min code (0 - code)
  if code = 2 then .absent
  else if code = 17 then .present
  else if code = 20 then .notDirectory
  else if code = 21 then .isDirectory
  else if code = 36 then .nameTooLong
  else .other report

/-- What the system reports as a refusal. -/
def failureOf (e : IO.Error) : IoFailure :=
  match e with
  | .noFileOrDirectory _ code _ | .inappropriateType _ code _ | .invalidArgument _ code _
  | .noSuchThing _ code _ | .resourceExhausted _ code _ | .alreadyExists _ code _
  | .otherError code _ => failureOfCode code (toString e)
  | e => .other (toString e)

/-- Asks the file system about a path. -/
def ask {α : Type} (path : Path) (io : String → IO α) : IO (Except IoFailure α) := do
  if path.chars.contains (Char.ofNat 0) then return .error .nulInPath
  try return .ok (← io path.text)
  catch e => return .error (failureOf e)

/-- What lies at a path. -/
def lookUp (path : String) : IO EntryKind := do
  let data ← ((← IO.currentDir) / path).metadata
  return match data.type with
    | .dir => .directory
    | _ => .file

/-- Makes a directory unless it is there. -/
def assureDirectory (path : Path) : IO (Except IoFailure Unit) := do
  match ← ask path fun p => IO.FS.createDir p with
  | .ok () => return .ok ()
  | .error failure =>
    match ← ask path lookUp with
    | .ok .directory => return .ok ()
    | _ => return .error failure

/-- Makes the directories of a chain of paths, from the last one that is missing up to the first. -/
def makeChain : List Path → IO (Except IoFailure Unit)
  | [] => return .ok ()
  | path :: above => do
    match ← assureDirectory path with
    | .error .absent =>
      match ← makeChain above with
      | .ok () => assureDirectory path
      | .error failure => return .error failure
    | result => return result

/-- The time. -/
def time : IO Instant := do
  let t := (← Std.Time.Timestamp.now).toNanosecondsSinceUnixEpoch.toInt
  return ⟨t / 1000000000, (t % 1000000000).toNat⟩

/-- The authority's states, for the sources that were used. -/
abbrev Sources := IO.Ref (List (Nat × Entropy))

/-- Asks the authority with the random values of a source. -/
def consult (seed : Entropy) (sources : Sources) (source : Nat) (call : Call) :
    IO (Except Error String) := do
  let used ← sources.get
  let state := (used.lookup source).getD (seed.split source)
  let (result, state) := (Issuance.authority Suite.standard).answer (← time) call state
  sources.set ((source, state) :: used.filter (·.1 ≠ source))
  return result

/-- Carries an effect out. -/
def perform (seed : Entropy) (sources : Sources) : (e : Effect) → IO e.Answer
  | .lookUp path => ask path lookUp
  | .read path => ask path fun p => return (← IO.FS.readBinFile p).toList
  | .makeDirectories path => makeChain (path.chain (path.chars.length + 1))
  | .write path content => ask path fun p => IO.FS.writeBinFile p ⟨content.toArray⟩
  | .consult source call => consult seed sources source call
  | .clock => time

/-- Carries a program out. -/
def carryOut {α : Type} (seed : Entropy) (sources : Sources) : Program α → IO α
  | .done a => return a
  | .step e next => do carryOut seed sources (next (← perform seed sources e))

/-- The variables of the environment that commands look at. -/
def watched : List String :=
  ["HOME", "XDG_CONFIG_HOME", "LABCA_CONFIG", "CLICOLOR", "CLICOLOR_FORCE", "NO_COLOR"]

end Main

end LabTrust

open LabTrust in
/-- Runs the program on arguments and writes its output. -/
def main (arguments : List String) : IO UInt32 := do
  let values ← Main.watched.mapM fun name => return (name, ← IO.getEnv name)
  let output ← IO.getStdout
  let surroundings : CommandLine.Surroundings :=
    { env := fun name => (values.lookup name).join, isTerminal := ← output.isTty }
  let seed : Entropy := { seed := (← IO.getRandomBytes 32).toList }
  let exit ← Main.carryOut seed (← IO.mkRef []) (CommandLine.run surroundings [] arguments)
  output.putStr exit.output
  (← IO.getStderr).putStr exit.report
  return exit.code.toUInt32
