import Regroup.Log.Record
import Regroup.Path
import Regroup.Text.Plain
import Regroup.Text.Similarity

/-!
# The command line

A command line is read argument by argument. An option that takes a value and has none attached
waits for the next argument; its own faults show only when the next option or the end of the line
is reached, and an argument that is not known at all is reported before them.
-/

namespace Regroup.CommandLine

inductive Flag where
  | nodaemon
  | nolog
  | log
  | config
  | rules
  | verbose
  | help
  | version
deriving DecidableEq

namespace Flag

def all : List Flag := [nodaemon, nolog, log, config, rules, verbose, help, version]

def name : Flag → String
  | nodaemon => "nodaemon"
  | nolog => "nolog"
  | log => "log"
  | config => "config"
  | rules => "rules"
  | verbose => "verbose"
  | help => "help"
  | version => "version"

def takesValue : Flag → Bool
  | log | config | rules => true
  | nodaemon | nolog | verbose | help | version => false

/-- How messages show an option. -/
def display (flag : Flag) : String :=
  if flag.takesValue then s!"--{flag.name} <FILE>"
  else if flag = verbose then s!"--{flag.name}..."
  else s!"--{flag.name}"

def named? (name : String) : Option Flag :=
  all.find? fun flag ↦ flag.name == name

/-- Settings change how the daemon runs, the other options ask for information. -/
def isSetting : Flag → Bool
  | nodaemon | nolog | log | config | rules | verbose => true
  | help | version => false

def ofLetter? : Char → Option Flag
  | 'v' => some verbose
  | 'h' => some help
  | 'V' => some version
  | _ => none

/-- The option whose name is most like a name that is none, the last of equals. -/
def resembling? (name : String) : Option Flag :=
  Text.mostSimilar? Flag.name name all

end Flag

/-- What a command line asks for. -/
structure Options where
  nodaemon : Bool := false
  nolog : Bool := false
  log : Option String := none
  config : Option String := none
  rules : Option String := none
  verbose : Nat := 0
deriving DecidableEq

/-- How much the daemon logs. -/
def Options.level (options : Options) : Log.Level :=
  match options.verbose with
  | 0 => .info
  | 1 => .debug
  | _ => .trace

/-! ## Answers that end the program -/

inductive Refusal where
  | unexpectedArgument (argument : String) (resembling : Option Flag) (used : List Flag)
  | unexpectedValue (value : String) (flag : Flag) (isFirst : Bool)
  | missingValue (flag : Flag)
  | repeated (flag : Flag)
deriving DecidableEq

/-- A command line that is not carried out: it asks for information, or it is refused. -/
inductive Ending where
  | help
  | version
  | refused (refusal : Refusal)
deriving DecidableEq

/-- The usage, with the parts of a command line that it shows. -/
def usage (program : String) (parts : List String) : String :=
  let program := Text.plain program
  if parts.isEmpty then s!"Usage: {program} [OPTIONS]"
  else s!"Usage: {program} " ++ " ".intercalate parts

/-- How a usage shows that any of the settings may be given. -/
def anySetting : String :=
  "<" ++ "|".intercalate ((Flag.all.filter Flag.isSetting).map Flag.display) ++ ">"

/-- The parts of a usage for an option that is given a value it does not take. Once an option has
been met before, the settings are no longer told apart. -/
def partsFor (flag : Flag) (isFirst : Bool) : List String :=
  if isFirst then [flag.display]
  else if flag.isSetting then [anySetting]
  else [flag.display, anySetting]

def helpHint : String := "For more information, try '--help'."

namespace Refusal

def summary : Refusal → String
  | unexpectedArgument argument _ _ => s!"error: unexpected argument '{Text.plain argument}' found"
  | unexpectedValue value flag _ =>
    s!"error: unexpected value '{Text.plain value}' for '{flag.display}' found; " ++
      "no more were expected"
  | missingValue flag =>
    s!"error: a value is required for '{flag.display}' but none was supplied"
  | repeated flag => s!"error: the argument '{flag.display}' cannot be used multiple times"

/-- The paragraphs between the summary and the hint. -/
def advice (program : String) : Refusal → List String
  | unexpectedArgument _ none used => [usage program (used.map Flag.display)]
  | unexpectedArgument _ (some flag) used =>
    [s!"  tip: a similar argument exists: '--{flag.name}'", usage program (used.map Flag.display)]
  | unexpectedValue _ flag isFirst => [usage program (partsFor flag isFirst)]
  | missingValue _ => []
  | repeated _ => [usage program []]

end Refusal

def aboutText : String :=
  "CGroup Rules Engine Daemon: moves processes to their cgroup when their uid or gid changes"

def optionLines : List String :=
  ["      --nodaemon       Stay in the foreground instead of detaching",
    "      --nolog          Disable logging",
    "      --log <FILE>     Write the log to FILE instead of the configured log file",
    "      --config <FILE>  Read the daemon configuration from FILE",
    "      --rules <FILE>   Read the classification rules from FILE",
    "  -v, --verbose...     Pass many times for a more verbose output. Passing `-v` adds debug " ++
      "logs, `-vv` enables trace logging",
    "  -h, --help           Print help",
    "  -V, --version        Print version"]

namespace Ending

/-- The whole text of an ending; `program` is the name that the program was called by. -/
def text (program : String) : Ending → String
  | help =>
    s!"{aboutText}\n\n{usage program []}\n\nOptions:\n" ++ "\n".intercalate optionLines ++ "\n"
  | version => "cgrulesd 0.1.0\n"
  | refused refusal =>
    "\n\n".intercalate (refusal.summary :: refusal.advice program ++ [helpHint]) ++ "\n"

def exitCode : Ending → Nat
  | help | version => 0
  | refused _ => 2

end Ending

/-! ## Reading -/

/-- A command line that is being read. `used` holds the options met so far in the order in which
they were met last, `pending` an option whose value is not settled, and `bare` says that the rest
holds no options. -/
structure Reading where
  options : Options := {}
  used : List Flag := []
  pending : Option (Flag × Option String) := none
  bare : Bool := false
deriving DecidableEq

namespace Reading

def isUsed (r : Reading) (flag : Flag) : Bool :=
  r.used.contains flag

def use (r : Reading) (flag : Flag) : Reading :=
  if r.isUsed flag then r else { r with used := r.used ++ [flag] }

def setValue (r : Reading) (flag : Flag) (value : String) : Reading :=
  match flag with
  | .log => { r with options := { r.options with log := some value } }
  | .config => { r with options := { r.options with config := some value } }
  | .rules => { r with options := { r.options with rules := some value } }
  | .nodaemon | .nolog | .verbose | .help | .version => r

/-- An option with its value. -/
def takeValue (r : Reading) (flag : Flag) (value : String) : Except Ending Reading :=
  if r.isUsed flag then .error (.refused (.repeated flag))
  else if value = "" then .error (.refused (.missingValue flag))
  else .ok ((r.use flag).setValue flag value)

/-- Settles the option that waits. -/
def settle (r : Reading) : Except Ending Reading :=
  match r.pending with
  | none => .ok r
  | some (flag, none) => .error (.refused (.missingValue flag))
  | some (flag, some value) => { r with pending := none }.takeValue flag value

/-- The options met, with the one that waits if its value is there. If it was met before, neither
of the two counts. -/
def usedSoFar (r : Reading) : List Flag :=
  match r.pending with
  | some (flag, some _) => if r.isUsed flag then r.used.erase flag else r.used ++ [flag]
  | _ => r.used

/-- An option without a value. A repeated `verbose` counts, up to 255. -/
def takeFlag (r : Reading) (flag : Flag) : Except Ending Reading := do
  let r ← r.settle
  match flag with
  | .help => .error .help
  | .version => .error .version
  | .verbose =>
    .ok { r with
      used := r.used.erase flag ++ [flag]
      options := { r.options with verbose := min 255 (r.options.verbose + 1) } }
  | .nodaemon =>
    if r.isUsed flag then .error (.refused (.repeated flag))
    else .ok { r.use flag with options := { r.options with nodaemon := true } }
  | .nolog =>
    if r.isUsed flag then .error (.refused (.repeated flag))
    else .ok { r.use flag with options := { r.options with nolog := true } }
  | .log | .config | .rules => .ok { r with pending := some (flag, none) }

/-- An argument that starts with two dashes, cut at its first equals sign. -/
def takeLong (r : Reading) (name : String) (value? : Option String) : Except Ending Reading :=
  match Flag.named? name, value? with
  | none, _ =>
    let resembling := Flag.resembling? name
    let used :=
      match resembling with
      | some flag => ({ r with used := r.usedSoFar }.use flag).used
      | none => r.usedSoFar
    .error (.refused (.unexpectedArgument s!"--{name}" resembling used))
  | some flag, none => r.takeFlag flag
  | some flag, some value =>
    if flag.takesValue then do
      let r ← r.settle
      r.takeValue flag value
    else .error (.refused (.unexpectedValue value flag r.used.isEmpty))

/-- The letters of an argument that starts with one dash. -/
def takeLetters (r : Reading) : List Char → Except Ending Reading
  | [] => .ok r
  | letter :: letters =>
    match Flag.ofLetter? letter with
    | none =>
      .error (.refused (.unexpectedArgument (String.ofList ['-', letter]) none []))
    | some flag => do
      let r ← r.takeFlag flag
      r.takeLetters letters

/-- An argument that is no option: the value that is waited for, or one too many. -/
def takeBare (r : Reading) (argument : String) : Except Ending Reading :=
  match r.pending, r.bare with
  | some (flag, none), false => .ok { r with pending := some (flag, some argument) }
  | _, _ => .error (.refused (.unexpectedArgument argument none []))

def take (r : Reading) (argument : String) : Except Ending Reading :=
  if r.bare then r.takeBare argument
  else
    match argument.toList with
    | ['-', '-'] => .ok { r with bare := true }
    | '-' :: '-' :: rest =>
      let name := rest.takeWhile (· ≠ '=')
      let value? := (rest.drop name.length).tail?.map String.ofList
      r.takeLong (String.ofList name) value?
    | '-' :: letter :: letters => r.takeLetters (letter :: letters)
    | _ => r.takeBare argument

end Reading

/-- Reads the arguments that follow the name of the program. -/
def read (arguments : List String) : Except Ending Options := do
  let reading ← arguments.foldlM Reading.take {}
  let reading ← reading.settle
  return reading.options

/-- The name that usage texts show, taken from the path that the program was called by. -/
def programName (path : String) : String :=
  match (Path.pieces path).filter fun piece ↦ piece ≠ "" && piece ≠ "." with
  | [] => "cgrulesd"
  | pieces =>
    match pieces.getLast? with
    | some ".." | none => "cgrulesd"
    | some name => name

end Regroup.CommandLine
