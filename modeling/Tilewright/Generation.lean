import Tilewright.Catalogue.Reader
import Tilewright.Host

/-!
# Generation

A run checks its configuration, reads the catalogue and the host, and replaces the generated file.
`Config.generate` is all of it but the files: it takes what reading the two files gave, and says
which text is to be written. `Config.compile` does the whole run on a file tree. Nothing is written
unless the whole text has been generated.
-/

namespace Tilewright

/-- A generated text and the number of classes in it. -/
structure Generated where
  classes : Nat
  text : Text
deriving DecidableEq, Repr

/-- The text generated from the texts of a catalogue and a host. `origin` says where the host is
from. -/
def generateText (sentinels : Sentinels) (terminator : Text) (origin : Path)
    (catalogue host : Text) : Outcome Text := do
  let terrains ← Catalogue.read catalogue
  let host ← Host.split sentinels origin host
  Outcome.reportAll (host.stampEvents terrains)
  return host.stamp terrains terminator

/-! ## Configurations -/

/-- Reads a configuration and checks it. -/
def Config.ofCheckedText (text : Text) : Except Error Config :=
  match Config.ofText text with
  | .error fault => .error (.unreadableConfig fault)
  | .ok config =>
    match config.validate with
    | .error fault => .error (.config fault)
    | .ok () => .ok config

/-- Reads the configuration that a file holds, and checks it. -/
def Config.load (path : Path) (contents : Except FileFault Text) : Outcome Config :=
  match contents with
  | .error fault => ⟨[], .error (.file path fault)⟩
  | .ok text =>
    match Config.ofCheckedText text with
    | .error error => ⟨[], .error error⟩
    | .ok config => ⟨[.configLoaded config path], .ok config⟩

namespace Config

/-- The text that a configuration generates from what the files of the catalogue and the host
hold. -/
def generate (config : Config) (catalogue host : Except FileFault Text) : Outcome Generated := do
  match config.validate with
  | .error fault => Outcome.ofExcept (.error (.config fault))
  | .ok () =>
    let terrains ← Catalogue.load config.catalogue catalogue
    let host ← Host.load config.sentinels config.host host
    Outcome.reportAll (host.stampEvents terrains)
    return ⟨terrains.length, host.stamp terrains config.terminator⟩

/-- What is reported and answered once the generated text has been written, or could not be. -/
def concluded (config : Config) (generated : Generated) :
    Except (Path × FileFault) Unit → Outcome Nat
  | .error (path, fault) => ⟨[], .error (.file path fault)⟩
  | .ok () =>
    ⟨[.outputWritten config.output generated.classes (FileTree.encode generated.text).size],
      .ok generated.classes⟩

/-- Runs a configuration on a file tree. The answer is the number of classes written. -/
def compile (config : Config) (tree : FileTree) : Outcome Nat × FileTree :=
  let generated := config.generate (tree.readText config.catalogue) (tree.readText config.host)
  match generated.result with
  | .error error => (⟨generated.events, .error error⟩, tree)
  | .ok done =>
    let (written, tree) := tree.replaceFile config.output done.text
    (generated >>= fun done => config.concluded done written, tree)

end Config

end Tilewright
