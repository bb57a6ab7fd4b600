import Tilewright.CommandLine.Run

/-!
# The program

The outer layer: it reads and replaces files on disk and shows the journal. What is read, in which
order errors count, and what is written is decided by the library.
-/

namespace Tilewright

/-- The fault that an error of the system stands for. -/
def FileFault.ofError (error : IO.Error) : FileFault :=
  match error with
  | .noFileOrDirectory .. | .noSuchThing .. => .notFound
  | .inappropriateType _ code _ => if code = 20 then .notDirectory else .isDirectory
  | .resourceBusy .. => .busy
  | .invalidArgument .. => .nameTooLong
  | _ => .other error.toString.toList

/-- Reads the text of a file on disk. -/
def readDisk (path : Path) : IO (Except FileFault Text) := do
  if let .error fault := FileTree.checkPath path then return .error fault
  try
    return FileTree.decode (← IO.FS.readBinFile (String.ofList path))
  catch error => return .error (.ofError error)

/-- Replaces a file on disk in one step. -/
def replaceOnDisk (path : Path) (text : Text) : IO (Except (Path × FileFault) Unit) := do
  let directory := Path.directory path
  let workingPath := (← IO.currentDir).toString.toList
  if let .error fault := FileTree.checkTemporary workingPath directory then
    return .error (directory, fault)
  if let .error fault := FileTree.checkPath path then return .error (path, fault)
  let temporary := String.ofList directory ++ "/.tmp" ++ toString (← IO.monoNanosNow)
  try
    IO.FS.writeBinFile temporary (FileTree.encode text)
  catch error => return .error (directory, .ofError error)
  try
    IO.FS.rename temporary (String.ofList path)
    return .ok ()
  catch error =>
    IO.FS.removeFile temporary
    return .error (path, .ofError error)

namespace CommandLine

/-- Runs the configuration that arguments give on the files on disk. -/
def Arguments.executeOnDisk (given : Arguments) : IO (Outcome Nat) := do
  let texts ← given.config.toList.mapM fun path => return (path, ← readDisk path)
  let resolved := given.resolve fun path => (texts.lookup path).getD (.error .notFound)
  match resolved.result with
  | .error error => return ⟨resolved.events, .error error⟩
  | .ok config =>
    let generated := config.generate (← readDisk config.catalogue) (← readDisk config.host)
    let compiled ← match generated.result with
      | .error error => pure ⟨generated.events, .error error⟩
      | .ok done => do
        let written ← replaceOnDisk config.output done.text
        pure (generated >>= fun done => config.concluded done written)
    return resolved >>= fun _ => compiled

/-- The text that explains the options. -/
def help : String :=
  "Options: -c/--config FILE, -d/--data FILE, -t/--template FILE, -o/--output FILE, -v/--verbose"

end CommandLine

end Tilewright

open Tilewright in
/-- Runs the program. -/
def main (arguments : List String) : IO UInt32 := do
  match CommandLine.Arguments.ofList (arguments.map String.toList) with
  | .error usage =>
    IO.println CommandLine.help
    return usage.exitCode.toNat.toUInt32
  | .ok given =>
    let outcome ← given.executeOnDisk
    let journal := outcome.events ++ [CommandLine.Arguments.conclusion outcome.result]
    IO.eprint (String.ofList (journal.render given.level))
    return match outcome.result with
      | .ok _ => 0
      | .error _ => 1
