import Tilewright.CommandLine.Arguments

/-!
# Spelling options

An option can be spelled in several ways. `Setting` is what one option says, `Setting.write` spells
it, and `Setting.apply` adds it to what was given before.
-/

namespace Tilewright.CommandLine

/-- The long name of an option with a value. -/
def Key.long : Key → Text
  | .config => "config".toList
  | .data => "data".toList
  | .template => "template".toList
  | .output => "output".toList

/-- The short name of an option with a value. -/
def Key.short : Key → Char
  | .config => 'c'
  | .data => 'd'
  | .template => 't'
  | .output => 'o'

@[simp] theorem long?_long (key : Key) : long? key.long = some (.key key) := by
  cases key <;> decide

@[simp] theorem short?_short (key : Key) : short? key.short = some (.key key) := by
  cases key <;> decide

/-- What an option says. -/
inductive Setting where
  | file (key : Key) (path : Path)
  | verbose
deriving DecidableEq, Repr

/-- The ways to spell an option. -/
inductive Spelling where
  /-- The short name; a value stands in the next argument. -/
  | short
  /-- The short name with the value directly behind it. -/
  | shortJoined
  /-- The short name, an equals sign and the value. -/
  | shortEquals
  /-- The long name; a value stands in the next argument. -/
  | long
  /-- The long name, an equals sign and the value. -/
  | longEquals
deriving DecidableEq, Repr

namespace Setting

/-- The arguments that spell an option. More detail is asked for by a name alone. -/
def write : Setting → Spelling → List Text
  | .file key path, .short => [['-', key.short], path]
  | .file key path, .shortJoined => ['-' :: key.short :: path]
  | .file key path, .shortEquals => ['-' :: key.short :: '=' :: path]
  | .file key path, .long => ['-' :: '-' :: key.long, path]
  | .file key path, .longEquals => ['-' :: '-' :: key.long ++ '=' :: path]
  | .verbose, .long | .verbose, .longEquals => ["--verbose".toList]
  | .verbose, _ => ["-v".toList]

/-- Adds what an option says; each option can be given once. -/
def apply (setting : Setting) (given : Arguments) : Except Usage Arguments :=
  match setting with
  | .file key path => given.store key path
  | .verbose =>
    if given.verbose then .error .argumentConflict else .ok { given with verbose := true }

/-- The command line that gives settings, each in its spelling. -/
def writeAll (settings : List (Setting × Spelling)) : List Text :=
  settings.flatMap fun (setting, spelling) => setting.write spelling

end Setting

end Tilewright.CommandLine
