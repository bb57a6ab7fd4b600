import Tilewright.Text.Blank

/-!
# Configurations

A configuration names the three files of a run, the two sentinel lines that enclose the region of
the host, and the terminator that is written after the last generated class. Sentinels are compared
with the blanks at both ends taken off, so a configuration is valid when neither sentinel is blank
and the two differ after trimming (`Config.validate_eq_ok_iff`).
-/

namespace Tilewright

/-- A path, as it was given. -/
abbrev Path := Text

/-- The lines that enclose the region of a host. -/
structure Sentinels where
  opening : Text := "// start".toList
  closing : Text := "// end".toList
deriving DecidableEq, Repr

/-- The settings of a run. -/
structure Config where
  /-- The file with the rows. -/
  catalogue : Path
  /-- The file with the region. -/
  host : Path
  /-- The file that is generated. -/
  output : Path
  sentinels : Sentinels := {}
  terminator : Text := ['}']
deriving DecidableEq, Repr

/-- Why settings cannot be used. -/
inductive ConfigFault where
  /-- A sentinel is blank. -/
  | blankSentinel
  /-- Both sentinels trim to the same text. -/
  | equalSentinels (sentinel : Text)
  /-- The command line names neither a configuration file nor all three files of a run. -/
  | filesMissing
deriving DecidableEq, Repr

/-- The reason given for settings that cannot be used. -/
def ConfigFault.reason : ConfigFault → Text
  | .blankSentinel => "sentinels must not be blank".toList
  | .equalSentinels sentinel =>
    "start and end sentinels are both `".toList ++ sentinel ++ "`".toList
  | .filesMissing => "--data, --template and --output are required without --config".toList

/-- Checks that the sentinels can be told from blank lines and from each other. -/
def Config.validate (config : Config) : Except ConfigFault Unit :=
  let opening := config.sentinels.opening.trim
  let closing := config.sentinels.closing.trim
  if opening = [] ∨ closing = [] then .error .blankSentinel
  else if opening = closing then .error (.equalSentinels opening)
  else .ok ()

theorem Config.validate_eq_ok_iff (config : Config) :
    config.validate = .ok () ↔
      config.sentinels.opening.trim ≠ [] ∧ config.sentinels.closing.trim ≠ [] ∧
        config.sentinels.opening.trim ≠ config.sentinels.closing.trim := by
  grind [validate]

end Tilewright
