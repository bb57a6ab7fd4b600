import Tilewright.CommandLine.Arguments
import Tilewright.Generation

/-!
# Runs from the command line

The arguments name a configuration file, or the three files of a run, or both; a file named in the
arguments goes before one named in the configuration. Without a configuration file the sentinels and
the terminator are the usual ones.

The run reports what it does, and its exit code says how it ended.
-/

namespace Tilewright.CommandLine

/-- How a program ends. -/
inductive ExitCode where
  | success
  | failure
  | usage
deriving DecidableEq, Repr

/-- The number that stands for an exit code. -/
def ExitCode.toNat : ExitCode → Nat
  | .success => 0
  | .failure => 1
  | .usage => 2

/-- Help and the version are no errors. -/
def Usage.exitCode : Usage → ExitCode
  | .displayHelp | .displayVersion => .success
  | _ => .usage

namespace Arguments

/-- The configuration with the files that were named in the arguments. -/
def override (given : Arguments) (config : Config) : Config :=
  { config with
    catalogue := given.data.getD config.catalogue
    host := given.template.getD config.host
    output := given.output.getD config.output }

/-- The configuration of a run. `read` reads a file. -/
def resolve (given : Arguments) (read : Path → Except FileFault Text) : Outcome Config :=
  match given.config with
  | some path => do return given.override (← Config.load path (read path))
  | none =>
    match given.data, given.template, given.output with
    | some catalogue, some host, some output => return { catalogue, host, output }
    | _, _, _ => ⟨[], .error (.config .filesMissing)⟩

/-- The most detailed level that is shown. -/
def level (given : Arguments) : Level :=
  if given.verbose then .debug else .info

/-- The last event of a run. -/
def conclusion : Except Error Nat → Event
  | .ok classes => .generated classes
  | .error error => .failed error

/-- Runs the configuration that the arguments give, and reports how the run ended. -/
def execute (given : Arguments) (tree : FileTree) : Outcome Nat × FileTree :=
  let resolved := given.resolve tree.readText
  match resolved.result with
  | .error error => (⟨resolved.events ++ [.failed error], .error error⟩, tree)
  | .ok config =>
    let (compiled, tree) := config.compile tree
    (⟨resolved.events ++ compiled.events ++ [conclusion compiled.result], compiled.result⟩, tree)

end Arguments

/-- What the user sees of a run. -/
structure Report where
  exitCode : ExitCode
  /-- The events shown. Where the arguments cannot be used the program complains about them
  instead. -/
  journal : Option Journal
deriving DecidableEq, Repr

/-- The journal as it is shown. -/
def Report.log (report : Report) : Option Text :=
  report.journal.map (Journal.render .trace)

/-- Runs a command line on a file tree. -/
def run (arguments : List Text) (tree : FileTree) : Report × FileTree :=
  match Arguments.ofList arguments with
  | .error usage =>
    (⟨usage.exitCode, if usage.exitCode = .success then some [] else none⟩, tree)
  | .ok given =>
    let (outcome, tree) := given.execute tree
    let exitCode := match outcome.result with
      | .ok _ => .success
      | .error _ => .failure
    (⟨exitCode, some (outcome.events.upTo given.level)⟩, tree)

end Tilewright.CommandLine
