import Tilewright.Config.Basic
import Tilewright.Config.Skip

/-!
# Reading configurations

`Config.ofText` reads a configuration. The paths of the three files have to be there; the sentinels
and the terminator may be left out, and so may either sentinel, each by itself. A field may be given
once only. Fields of other names are skipped. Attributes in front of the record switch extensions
on; only `implicit_some` has an effect here, on skipped values.
-/

namespace Tilewright

namespace Scan

/-! ## Attributes -/

/-- Takes fixed texts off, one after the other, with the blanks behind each. A text that is not
there is passed over. Tells whether all were there. -/
def acceptAll : List Text → Scan Bool
  | [] => return true
  | expected :: more => do
    let here ← accept expected
    if here then blank
    let rest ← acceptAll more
    return here && rest

/-- The extensions that an attribute may name, and whether an option may then leave out its
parentheses. -/
def extension (name : Text) : Scan Bool :=
  if name = "implicit_some".toList then return true
  else if name = "unwrap_newtypes".toList ∨ name = "unwrap_variant_newtypes".toList then
    return false
  else throw (.unknownExtension name)

/-- Reads the names of extensions with commas between them. -/
def extensions : (rounds : Nat) → Scan Bool
  | 0 => throw .endOfText
  | rounds + 1 => do
    let implicitSome ← extension (← identifier)
    let another ← comma
    if (← peek?).any isOther then
      if another then return (← extensions rounds) || implicitSome
      else throw .commaExpected
    else return implicitSome

/-- Reads the attributes in front of a record, with the blanks around them. -/
def attributes : (rounds : Nat) → Scan Bool
  | 0 => throw .endOfText
  | rounds + 1 => do
    if (← peek?) ≠ some '#' then return false
    if !(← acceptAll ["#".toList, "!".toList, "[".toList, "enable".toList, "(".toList]) then
      throw .attributeExpected
    blank
    let implicitSome ← extensions (rounds + 1)
    blank
    if !(← acceptAll [")".toList, "]".toList]) then throw .attributeEndExpected
    blank
    return (← attributes rounds) || implicitSome

/-! ## Records -/

/-- Takes the name of a record off. It may be left out. -/
def recordName (name : Text) : Scan Unit := fun text =>
  if text.head?.any isOther then
    match identifier text with
    | .error _ => .error .recordExpected
    | .ok (found, rest) => if found = name then .ok ((), rest) else .error (.otherRecordName found)
  else .ok ((), text)

/-- Reads a record of the given name, field by field. -/
def record {σ : Type} (name : Text) (field : σ → Scan σ) (start : σ) : Scan σ := do
  recordName name
  blank
  if ← accept ['('] then items ')' field start else throw .recordExpected

/-- Reads the value of a text field that must not have one yet. -/
def textField (name : Text) (old : Option Text) : Scan (Option Text) := do
  if old.isSome then throw (.duplicateField name)
  colon
  return some (← string)

end Scan

open Scan

/-! ## Sentinels -/

/-- The fields of the sentinels that were given. -/
structure SentinelFields where
  opening : Option Text := none
  closing : Option Text := none
deriving DecidableEq, Repr

namespace SentinelFields

/-- Reads one more field of the sentinels. -/
def read (implicitSome : Bool) (levels : Nat) (fields : SentinelFields) : Scan SentinelFields := do
  let name ← identifier
  if name = "start".toList then return { fields with opening := ← textField name fields.opening }
  else if name = "end".toList then
    return { fields with closing := ← textField name fields.closing }
  else
    colon
    skip implicitSome levels
    return fields

/-- The sentinels, with each one that was not given filled in. -/
def fill (fields : SentinelFields) : Sentinels where
  opening := fields.opening.getD { : Sentinels }.opening
  closing := fields.closing.getD { : Sentinels }.closing

end SentinelFields

/-! ## Configurations -/

/-- The fields of a configuration that were given. -/
structure ConfigFields where
  catalogue : Option Path := none
  host : Option Path := none
  output : Option Path := none
  sentinels : Option Sentinels := none
  terminator : Option Text := none
deriving DecidableEq, Repr

namespace ConfigFields

/-- How deeply values may nest. -/
def nestingLimit : Nat := 128

/-- Reads one more field of a configuration. Its value stands two levels down, that of a field of
the sentinels four. -/
def read (implicitSome : Bool) (fields : ConfigFields) : Scan ConfigFields := do
  let name ← identifier
  if name = "data_file_path".toList then
    return { fields with catalogue := ← textField name fields.catalogue }
  else if name = "template_file_path".toList then
    return { fields with host := ← textField name fields.host }
  else if name = "output_file_path".toList then
    return { fields with output := ← textField name fields.output }
  else if name = "terminator".toList then
    return { fields with terminator := ← textField name fields.terminator }
  else if name = "sentinels".toList then
    if fields.sentinels.isSome then throw (.duplicateField name)
    colon
    let given ← record "Sentinels".toList (SentinelFields.read implicitSome (nestingLimit - 4)) {}
    return { fields with sentinels := some given.fill }
  else
    colon
    skip implicitSome (nestingLimit - 2)
    return fields

/-- The configuration, if the three files were given. -/
def fill (fields : ConfigFields) : Except ReadFault Config :=
  match fields.catalogue, fields.host, fields.output with
  | none, _, _ => .error (.missingField "data_file_path".toList)
  | _, none, _ => .error (.missingField "template_file_path".toList)
  | _, _, none => .error (.missingField "output_file_path".toList)
  | some catalogue, some host, some output => .ok {
      catalogue, host, output
      sentinels := fields.sentinels.getD {}
      terminator := fields.terminator.getD ['}'] }

end ConfigFields

/-- Reads a configuration; nothing but blanks may stand around it. -/
def Config.ofText (text : Text) : Except ReadFault Config := do
  let scan : Scan Config := do
    blank
    let implicitSome ← attributes (text.length + 1)
    let fields ← record "GeneratorConfig".toList (ConfigFields.read implicitSome) {}
    let config ← fields.fill
    blank
    return config
  let (config, rest) ← scan text
  if rest = [] then return config else throw .trailingText

end Tilewright
