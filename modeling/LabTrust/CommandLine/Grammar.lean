/-
Reading arguments by rules.

* `OptionRule`, `CommandRule`: the options of a command, its operand, and the commands below it.
* `Arguments.read`: the command that arguments name and what they give for its options, or why
  reading stops.

An option that waits for its value takes the next argument unless that begins with a dash. A value is
looked at only when the next option comes or the arguments end, and the values of a command's last
option only after the commands below it are read: so a request for the version that comes in between
is answered.
-/

namespace LabTrust.CommandLine

/-! ### Rules -/

/-- What the value of an option has to be. -/
inductive ValueRule where
  | text
  | path
  | oneOf (words : List String)
  | count
  deriving DecidableEq, Inhabited

/-- A count below two to the power of 64; a plus sign may stand before its digits. -/
def count? (s : String) : Option Nat :=
  let digits := if s.toList.head? = some '+' then s.toList.drop 1 else s.toList
  let n := digits.foldl (fun n c => 10 * n + (c.toNat - 48)) 0
  if digits ≠ [] ∧ digits.all Char.isDigit ∧ n < UInt64.size then some n else none

/-- A text is a value. -/
def ValueRule.accepts : ValueRule → String → Bool
  | text, _ => true
  | path, s => s ≠ ""
  | oneOf words, s => words.contains s
  | count, s => (count? s).isSome

/-- What a switch does when it is given. -/
inductive Switch where
  | set
  | showHelp
  | showVersion
  deriving DecidableEq, Inhabited

/-- An option takes a value or is a switch. -/
inductive OptionForm where
  | value (rule : ValueRule)
  | switch (effect : Switch)
  deriving DecidableEq, Inhabited

/-- An option of a command. -/
structure OptionRule where
  long : String
  short : Option Char := none
  form : OptionForm
  isRequired : Bool := false
  /-- It may be given more than once. -/
  repeats : Bool := false
  /-- The variable of the environment that stands in for it. -/
  standIn : Option String := none
  deriving DecidableEq, Inhabited

/-- A command: its options, its operand, and the commands below it. -/
structure CommandRule where
  name : String
  options : List OptionRule
  operand : Option OptionRule := none
  commands : List CommandRule := []
  deriving Inhabited

/-! ### What is read -/

/-- What is wrong with arguments. -/
inductive UsageFault where
  | unexpected (argument : String)
  | missingValue (option : String)
  | unneededValue (option : String)
  | badValue (option value : String)
  | repeated (option : String)
  | missingOption (option : String)
  | missingCommand
  deriving DecidableEq, Inhabited

/-- The wording of a fault. -/
def UsageFault.message : UsageFault → String
  | unexpected argument => "unexpected argument '" ++ argument ++ "' found"
  | missingValue option => "a value is required for '--" ++ option ++ "' but none was supplied"
  | unneededValue option => "no value is expected for '--" ++ option ++ "'"
  | badValue option value => "invalid value '" ++ value ++ "' for '--" ++ option ++ "'"
  | repeated option => "'--" ++ option ++ "' cannot be used multiple times"
  | missingOption option => "'--" ++ option ++ "' is required but was not provided"
  | missingCommand => "a command is required but none was provided"

/-- Why reading stops. -/
inductive Stop where
  /-- Help on a command is asked for. -/
  | help (title : List String) (rule : CommandRule)
  /-- The version is asked for, at a command. -/
  | version (title : List String)
  | fault (fault : UsageFault)
  deriving Inhabited

/-- What arguments give: the names of the commands, and values of options in order. -/
structure Arguments where
  commands : List String
  given : List (String × String)
  deriving DecidableEq, Inhabited

namespace Arguments

/-- The values of an option, in order. -/
def all (a : Arguments) (option : String) : List String :=
  (a.given.filter (·.1 = option)).map (·.2)

/-- The value of an option; the one given for the innermost command counts. -/
def last? (a : Arguments) (option : String) : Option String := (a.all option).getLast?

/-- A switch is given. -/
def has (a : Arguments) (option : String) : Bool := a.given.any (·.1 = option)

end Arguments

/-! ### Reading -/

/-- A command whose arguments are being read. -/
structure Level where
  /-- The names that lead to the command, the command's own last. -/
  title : List String
  rule : CommandRule
  /-- What was given, with values that were looked at. -/
  given : List (String × String) := []
  /-- The option that was read last, and its value as far as there is one. -/
  pending : Option (OptionRule × Option String) := none
  deriving Inhabited

namespace Level

/-- The option that was read last waits for its value. -/
def awaits (l : Level) : Bool :=
  match l.pending with
  | some (_, none) => true
  | _ => false

/-- Takes over a value that is as it has to be. -/
def push (l : Level) (option : OptionRule) (value : String) : Except Stop Level :=
  let fits := match option.form with
    | .value rule => rule.accepts value
    | .switch _ => true
  if !fits then .error (.fault (.badValue option.long value))
  else if l.given.any (·.1 = option.long) && !option.repeats then
    .error (.fault (.repeated option.long))
  else .ok { l with given := l.given ++ [(option.long, value)], pending := none }

/-- Takes over the option that was read last. -/
def settle (l : Level) : Except Stop Level :=
  match l.pending with
  | none => .ok l
  | some (option, none) => .error (.fault (.missingValue option.long))
  | some (option, some value) => l.push option value

/-- A switch is given. -/
def flip (l : Level) (option : OptionRule) (effect : Switch) : Except Stop Level := do
  let l ← l.settle
  match effect with
  | .set => l.push option ""
  | .showHelp => throw (.help l.title l.rule)
  | .showVersion => throw (.version l.title)

/-- An option is given, with its value if that is a part of the same argument. -/
def take (l : Level) (option : OptionRule) (value? : Option String) : Except Stop Level :=
  match option.form, value? with
  | .switch effect, none => l.flip option effect
  | .switch _, some _ => .error (.fault (.unneededValue option.long))
  | .value _, some value => do (← l.settle).push option value
  | .value _, none => do return { ← l.settle with pending := some (option, none) }

/-- An argument that is no option. -/
def takeOperand (l : Level) (argument : String) : Except Stop Level := do
  match l.rule.operand with
  | none => throw (.fault (.unexpected argument))
  | some operand =>
    let l ← l.settle
    if l.given.any (·.1 = operand.long) then throw (.fault (.unexpected argument))
    return { l with pending := some (operand, some argument) }

/-- The letters of options, the last of them perhaps with its value. -/
def takeLetters (l : Level) : List Char → Except Stop Level
  | [] => .ok l
  | c :: rest =>
    match l.rule.options.find? (·.short = some c) with
    | none => .error (.fault (.unexpected (String.ofList ['-', c])))
    | some option =>
      match option.form with
      | .switch effect => do (← l.flip option effect).takeLetters rest
      | .value _ =>
        if rest = [] then l.take option none
        else
          l.take option (some (String.ofList (if rest.head? = some '=' then rest.drop 1 else rest)))

/-- The name of an option, perhaps with its value. -/
def takeLong (l : Level) (s : List Char) : Except Stop Level :=
  let name := String.ofList (s.takeWhile (· ≠ '='))
  match l.rule.options.find? (·.long = name) with
  | none => .error (.fault (.unexpected ("--" ++ name)))
  | some option =>
    match s.dropWhile (· ≠ '=') with
    | [] => l.take option none
    | _ :: value => l.take option (some (String.ofList value))

/-- One argument that is not the name of a command. -/
def takeArgument (l : Level) (argument : String) : Except Stop Level :=
  match argument.toList with
  | '-' :: '-' :: name => l.takeLong name
  | '-' :: c :: letters => l.takeLetters (c :: letters)
  | _ =>
    match l.pending with
    | some (option, none) => .ok { l with pending := some (option, some argument) }
    | _ => l.takeOperand argument

/-- The command that an argument names. -/
def command? (l : Level) (argument : String) : Option Level :=
  (l.rule.commands.find? (·.name = argument)).map fun rule =>
    { title := l.title ++ [rule.name], rule }

/-- Arguments ask for help on a command: its names follow. -/
def help (l : Level) : List String → Stop
  | [] => .help l.title l.rule
  | name :: rest =>
    match l.command? name with
    | some sub => sub.help rest
    | none => .fault (.unexpected name)

/-- What is missing when all arguments are read. -/
def checkComplete (l : Level) (isLast : Bool) (env : String → Option String) :
    Except Stop Unit := do
  for option in l.rule.operand.toList ++ l.rule.options do
    if !(l.given.any (·.1 = option.long)) then
      if option.isRequired then throw (.fault (.missingOption option.long))
      if let some value := option.standIn.bind env then
        discard <| l.push option value
  if isLast && !l.rule.commands.isEmpty then throw (.fault .missingCommand)

/-- What the environment gives for options that no argument gives. -/
def standIns (l : Level) (env : String → Option String) : List (String × String) :=
  l.rule.options.filterMap fun option =>
    (option.standIn.bind env).map fun value => (option.long, value)

end Level

namespace Arguments

/-- What all levels give, the outermost first. What the environment gives comes before all else. -/
def ofLevels (levels : List Level) (env : String → Option String) : Arguments where
  commands := (levels.getLast?.map (·.title)).getD [] |>.drop 1
  given := (levels.head?.map (·.standIns env)).getD [] ++ levels.flatMap (·.given)

/-- Reads arguments for the innermost command, `above` being the commands around it. -/
def readFrom (env : String → Option String) (above : List Level) (level : Level)
    (isPlain : Bool) : List String → Except Stop Arguments
  | [] => do
    let level ← level.settle
    level.checkComplete true env
    let above ← above.mapM Level.settle
    above.forM fun l => l.checkComplete false env
    return .ofLevels (above.reverse ++ [level]) env
  | argument :: rest =>
    if isPlain then do readFrom env above (← level.takeOperand argument) true rest
    else if argument = "--" then readFrom env above level true rest
    else if level.awaits then do readFrom env above (← level.takeArgument argument) false rest
    else
      match level.command? argument with
      | some sub => readFrom env (level :: above) sub false rest
      | none =>
        if argument = "help" ∧ level.rule.commands ≠ [] then .error (level.help rest)
        else do readFrom env above (← level.takeArgument argument) false rest

/-- Reads arguments by the rule of a command. -/
def read (rule : CommandRule) (env : String → Option String) (arguments : List String) :
    Except Stop Arguments :=
  readFrom env [] { title := [rule.name], rule } false arguments

end Arguments

end LabTrust.CommandLine
