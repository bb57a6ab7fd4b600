import Tilewright.Catalogue.Row
import Tilewright.Config.Reader
import Tilewright.Files.Tree

/-!
# Errors

A run stops at its first error. Each error says what went wrong and where; `Error.message` puts it
into words.
-/

namespace Tilewright

/-- Why a run stopped. -/
inductive Error where
  /-- A line of the catalogue, counted from one with the header, is not a row. -/
  | badRow (line : Nat) (fault : RowFault)
  /-- No line of the host is the sentinel, or none behind the region's start. -/
  | sentinelMissing (sentinel : Text) (origin : Path)
  /-- A file could not be read or replaced. -/
  | file (path : Path) (fault : FileFault)
  /-- The settings cannot be used. -/
  | config (fault : ConfigFault)
  /-- The text of the settings could not be read. -/
  | unreadableConfig (fault : ReadFault)
deriving DecidableEq, Repr

/-- The message of an error. What exactly is wrong with a configuration text is left to the
caller, and of a temporary file nothing is said (`FileFault.message`). -/
def Error.message : Error → Text
  | .badRow line fault =>
    "malformed row at line ".toList ++ Decimal.ofNat line ++ ": ".toList ++ fault.reason
  | .sentinelMissing sentinel origin =>
    "sentinel `".toList ++ sentinel ++ "` not found in ".toList ++ origin
  | .file path fault => path ++ ": ".toList ++ fault.message
  | .config fault => "invalid configuration: ".toList ++ fault.reason
  | .unreadableConfig _ => "could not parse configuration: ".toList

end Tilewright
