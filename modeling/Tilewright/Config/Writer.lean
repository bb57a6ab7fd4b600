import Tilewright.Config.Grammar

/-!
# Writing configurations

Of the many texts that give the same settings, `Config.Given.toText` is one: the fields stand in
their usual order, with a comma and a space between two of them, and every string in double quotes.
`Config.toText` writes a configuration down in full.
-/

namespace Tilewright

/-- The text as a string: a backslash stands before a double quote and before a backslash, and every
other character stands for itself. -/
def Config.writeString (text : Text) : Text :=
  '"' :: text.flatMap (fun c => if c = '"' ∨ c = '\\' then ['\\', c] else [c]) ++ ['"']

/-- A record of fields that are already written. -/
def Config.writeRecord (fields : List Text) : Text :=
  '(' :: Text.joinWith ", ".toList fields ++ [')']

/-- A field of the given name. -/
def Config.writeField (name value : Text) : Text :=
  name ++ ": ".toList ++ value

/-- The sentinel with the name of its field. -/
def SentinelField.write (field : SentinelField) : Text :=
  Config.writeField field.name (Config.writeString field.sentinel)

namespace ConfigField

/-- The value of the field. -/
def writeValue : ConfigField → Text
  | catalogue text | host text | output text | terminator text => Config.writeString text
  | sentinels fields => Config.writeRecord (fields.toList.map SentinelField.write)

/-- The value with the name of the field. -/
def write (field : ConfigField) : Text :=
  Config.writeField field.name field.writeValue

end ConfigField

namespace Config

/-- A text that gives the settings. -/
def Given.toText (given : Given) : Text :=
  writeRecord (given.toList.map ConfigField.write)

/-- Every setting of the configuration. -/
def given (config : Config) : Given where
  catalogue := some config.catalogue
  host := some config.host
  output := some config.output
  sentinels := some ⟨some config.sentinels.opening, some config.sentinels.closing⟩
  terminator := some config.terminator

/-- The text of a configuration, with every setting given. -/
def toText (config : Config) : Text :=
  config.given.toText

end Config

end Tilewright
