import Tilewright.Config.Basic

/-!
# Arguments

The command line has four options with a value, each with a short and a long name, and flags for
more detail, for help and for the version. Options stand in any order, each at most once.

* A value stands in the next argument, or in the same one: behind an equals sign, or directly behind
  the short name. It must not be empty, and in the next argument it must not look like an option.
* Short names can share one dash, up to one that takes a value.
* Nothing else may stand on the command line. Two dashes end the options, and nothing may follow.

An option that waits for its value is settled when the next option or the end is reached, so that
of several errors the one that is met first is reported.
-/

namespace Tilewright.CommandLine

/-- Why a command line is not carried out as a run. -/
inductive Usage where
  | unknownArgument
  /-- A value is missing or empty. -/
  | invalidValue
  /-- An option is given twice. -/
  | argumentConflict
  /-- A flag is given a value. -/
  | tooManyValues
  /-- Not an error: help was asked for. -/
  | displayHelp
  /-- Not an error: the version was asked for. -/
  | displayVersion
deriving DecidableEq, Repr

/-- The options with a value. -/
inductive Key where
  | config
  | data
  | template
  | output
deriving DecidableEq, Repr

/-- The options without a value. -/
inductive Flag where
  | verbose
  | help
  | version
deriving DecidableEq, Repr

/-- What a name on the command line stands for. -/
inductive Named where
  | key (key : Key)
  | flag (flag : Flag)
deriving DecidableEq, Repr

/-- What a long name stands for. -/
def long? (name : Text) : Option Named :=
  if name = "config".toList then some (.key .config)
  else if name = "data".toList then some (.key .data)
  else if name = "template".toList then some (.key .template)
  else if name = "output".toList then some (.key .output)
  else if name = "verbose".toList then some (.flag .verbose)
  else if name = "help".toList then some (.flag .help)
  else if name = "version".toList then some (.flag .version)
  else none

/-- What a short name stands for. -/
def short? (name : Char) : Option Named :=
  if name = 'c' then some (.key .config)
  else if name = 'd' then some (.key .data)
  else if name = 't' then some (.key .template)
  else if name = 'o' then some (.key .output)
  else if name = 'v' then some (.flag .verbose)
  else if name = 'h' then some (.flag .help)
  else if name = 'V' then some (.flag .version)
  else none

/-! ## Arguments -/

/-- What was given on a command line. -/
structure Arguments where
  config : Option Path := none
  data : Option Path := none
  template : Option Path := none
  output : Option Path := none
  verbose : Bool := false
deriving DecidableEq, Repr

namespace Arguments

/-- The value given for an option. -/
def get (given : Arguments) : Key → Option Path
  | .config => given.config
  | .data => given.data
  | .template => given.template
  | .output => given.output

/-- Adds the value of an option. -/
def set (given : Arguments) (key : Key) (value : Path) : Arguments :=
  match key with
  | .config => { given with config := some value }
  | .data => { given with data := some value }
  | .template => { given with template := some value }
  | .output => { given with output := some value }

/-- Adds the value of an option that must not have one yet. -/
def store (given : Arguments) (key : Key) (value : Text) : Except Usage Arguments :=
  if (given.get key).isSome then .error .argumentConflict
  else if value = [] then .error .invalidValue
  else .ok (given.set key value)

end Arguments

/-! ## Reading -/

/-- What has been read so far, and the option that was met last, with its value if the value stood
in an argument of its own. -/
structure Progress where
  given : Arguments := {}
  waiting : Option (Key × Option Text) := none
deriving DecidableEq, Repr

namespace Progress

/-- Settles the option that was met last. -/
def settle (progress : Progress) : Except Usage Arguments :=
  match progress.waiting with
  | none => .ok progress.given
  | some (_, none) => .error .invalidValue
  | some (key, some value) => progress.given.store key value

/-- Meets an option whose value is still to come. -/
def await (progress : Progress) (key : Key) : Except Usage Progress := do
  return { given := ← progress.settle, waiting := some (key, none) }

/-- Meets an option with its value in the same argument. -/
def attach (progress : Progress) (key : Key) (value : Text) : Except Usage Progress := do
  return { given := ← (← progress.settle).store key value }

/-- Meets a flag. -/
def raise (progress : Progress) (flag : Flag) : Except Usage Progress := do
  let given ← progress.settle
  match flag with
  | .help => throw .displayHelp
  | .version => throw .displayVersion
  | .verbose =>
    if given.verbose then throw .argumentConflict
    else return { given := { given with verbose := true } }

/-- Reads the short names behind a dash. -/
def readShort (progress : Progress) : Text → Except Usage Progress
  | [] => .ok progress
  | name :: rest =>
    match short? name with
    | none => .error .unknownArgument
    | some (.flag flag) => do readShort (← progress.raise flag) rest
    | some (.key key) =>
      match rest with
      | [] => progress.await key
      | '=' :: value => progress.attach key value
      | value => progress.attach key value

/-- Reads the long name behind two dashes, up to an equals sign. -/
def readLong (progress : Progress) (text : Text) : Except Usage Progress :=
  let (name, rest) := text.span (· != '=')
  match long? name, rest with
  | none, _ => .error .unknownArgument
  | some (.flag flag), [] => progress.raise flag
  | some (.flag _), _ :: _ => .error .tooManyValues
  | some (.key key), [] => progress.await key
  | some (.key key), _ :: value => progress.attach key value

/-- Reads one argument. What is no option is the value of the option that waits for one. -/
def read (progress : Progress) : Text → Except Usage Progress
  | '-' :: '-' :: text => progress.readLong text
  | '-' :: name :: rest => progress.readShort (name :: rest)
  | value =>
    match progress.waiting with
    | some (key, none) => .ok { progress with waiting := some (key, some value) }
    | _ => .error .unknownArgument

/-- Reads the arguments up to the end or to two dashes. -/
def readAll : Progress → List Text → Except Usage Arguments
  | progress, [] => progress.settle
  | progress, argument :: arguments =>
    if argument = "--".toList then
      if arguments = [] then progress.settle else .error .unknownArgument
    else do readAll (← progress.read argument) arguments

end Progress

/-- Reads a command line, without the name of the program. -/
def Arguments.ofList (arguments : List Text) : Except Usage Arguments :=
  Progress.readAll {} arguments

end Tilewright.CommandLine
