import Mathlib.Data.List.Forall2
import Tilewright.Config.Reader

/-!
# The grammar of configuration texts

`Config.ofText` reads a configuration text from left to right. The grammar says without a reader
which texts give which fields. A gap is made of spaces and comments; a string stands in double
quotes, with escapes, or is raw; a field is a name, a colon and a value; and a record has its fields
in any order, with commas between them and perhaps one behind the last. Attributes may stand before
the record.

`Config.Given` is what a text gives: a setting that is `none` is left out. `Config.Given.Written`
holds for the texts that give the others.
-/

namespace Tilewright

namespace Grammar

/-! ## Gaps -/

/-- A block comment from behind its opening, with `around` block comments open around it. -/
inductive BlockComment : (around : Nat) → Text → Prop where
  | last : BlockComment 0 ['*', '/']
  | close {around rest} (h : BlockComment around rest) :
      BlockComment (around + 1) ('*' :: '/' :: rest)
  | opening {around rest} (h : BlockComment (around + 1) rest) :
      BlockComment around ('/' :: '*' :: rest)
  | other {around c rest} (hclose : ¬ ['*', '/'] <+: c :: rest) (hopen : ¬ ['/', '*'] <+: c :: rest)
      (h : BlockComment around rest) : BlockComment around (c :: rest)

/-- What may stand between two pieces of a text. -/
inductive Gap : Text → Prop where
  | nil : Gap []
  | space {c rest} (hc : c ∈ [' ', '\t', '\n', '\r']) (h : Gap rest) : Gap (c :: rest)
  | line {comment rest} (hcomment : '\n' ∉ comment) (h : Gap rest) :
      Gap ('/' :: '/' :: comment ++ '\n' :: rest)
  | block {comment rest} (hcomment : BlockComment 0 comment) (h : Gap rest) :
      Gap ('/' :: '*' :: comment ++ rest)

/-- What may stand at the end of a text, where a line comment needs no line end. -/
inductive LastGap : Text → Prop where
  | gap {text} (h : Gap text) : LastGap text
  | line {gap comment} (h : Gap gap) (hcomment : '\n' ∉ comment) :
      LastGap (gap ++ '/' :: '/' :: comment)

/-! ## Strings -/

/-- A digit in base sixteen, as a small letter or a capital one. -/
def HexDigit (value : Nat) (digit : Char) : Prop :=
  value < 16 ∧ (digit = value.digitChar ∨ digit = value.digitChar.toUpper)

instance (value : Nat) (digit : Char) : Decidable (HexDigit value digit) :=
  inferInstanceAs (Decidable (_ ∧ _))

/-- The number that digits in base sixteen denote. -/
def hexNumber (values : List Nat) : Nat :=
  values.foldl (fun number value => 16 * number + value) 0

/-- The characters that a backslash and a letter stand for, with these letters. -/
def letters : List (Char × Char) :=
  [('\'', '\''), ('"', '"'), ('\\', '\\'), ('\n', 'n'), ('\r', 'r'), ('\t', 't'), ('\x00', '0')]

/-- A character, and how it may be written between double quotes. -/
inductive Escaped : Char → Text → Prop where
  | plain {c} (hquote : c ≠ '"') (hbackslash : c ≠ '\\') : Escaped c [c]
  | letter {c letter} (h : (c, letter) ∈ letters) : Escaped c ['\\', letter]
  | byte {c highValue lowValue high low} (hhigh : HexDigit highValue high)
      (hlow : HexDigit lowValue low) (hc : c.toNat = 16 * highValue + lowValue) :
      Escaped c ['\\', 'x', high, low]
  | codePoint {c values digits} (hdigits : List.Forall₂ HexDigit values digits)
      (hne : digits ≠ []) (hlength : digits.length ≤ 6) (hc : c.toNat = hexNumber values) :
      Escaped c ('\\' :: 'u' :: '\x7b' :: digits ++ ['\x7d'])

/-- A text, and how it may be written between double quotes. -/
inductive Enclosed : Text → Text → Prop where
  | nil : Enclosed [] []
  | cons {c piece text written} (hc : Escaped c piece) (h : Enclosed text written) :
      Enclosed (c :: text) (piece ++ written)

/-- A text, and how it may be written as a string. A raw string ends at the first quote that as many
marks follow as stand before it. -/
inductive Literal : Text → Text → Prop where
  | escaped {text written} (h : Enclosed text written) : Literal text ('"' :: written ++ ['"'])
  | raw {text marks} (h : ¬ '"' :: List.replicate marks '#' <:+: text) :
      Literal text
        ('r' :: List.replicate marks '#' ++ '"' :: text ++ '"' :: List.replicate marks '#')

/-! ## Records -/

/-- A name, as it is or as a raw identifier. -/
inductive Label (name : Text) : Text → Prop where
  | plain : Label name name
  | raw : Label name ('r' :: '#' :: name)

/-- A field of the given name with one of these values. -/
inductive Field (name : Text) (Value : Text → Prop) : Text → Prop where
  | intro {label before behind value} (hlabel : Label name label) (hbefore : Gap before)
      (hbehind : Gap behind) (hvalue : Value value) :
      Field name Value (label ++ before ++ ':' :: behind ++ value)

/-- Items with commas between them. A comma may stand behind the last item. -/
inductive Items {α : Type} (Item : α → Text → Prop) : List α → Text → Prop where
  | nil {gap} (h : Gap gap) : Items Item [] gap
  | last {before item written behind} (hbefore : Gap before) (hitem : Item item written)
      (hbehind : Gap behind) : Items Item [item] (before ++ written ++ behind)
  | cons {before item written behind items rest} (hbefore : Gap before) (hitem : Item item written)
      (hbehind : Gap behind) (h : Items Item items rest) :
      Items Item (item :: items) (before ++ written ++ behind ++ ',' :: rest)

/-- Fixed texts, with a gap behind each. -/
inductive Tokens : List Text → Text → Prop where
  | nil : Tokens [] []
  | cons {token gap tokens rest} (hgap : Gap gap) (h : Tokens tokens rest) :
      Tokens (token :: tokens) (token ++ gap ++ rest)

/-- What stands in front of the parenthesis of a record: its name, or nothing. -/
inductive Front (name : Text) : Text → Prop where
  | nil : Front name []
  | label {label gap} (hlabel : Label name label) (hgap : Gap gap) : Front name (label ++ gap)

/-- A record of the given name with these items, in any order. -/
inductive Record {α : Type} (name : Text) (Item : α → Text → Prop) (items : List α) :
    Text → Prop where
  | intro {front ordered body} (hfront : Front name front) (horder : ordered.Perm items)
      (hbody : Items Item ordered body) : Record name Item items (front ++ '(' :: body ++ [')'])

/-! ## Attributes -/

/-- The extensions that may be switched on. -/
def extensionNames : List Text :=
  ["implicit_some".toList, "unwrap_newtypes".toList, "unwrap_variant_newtypes".toList]

/-- The name of an extension. -/
inductive Extension (name : Text) : Text → Prop where
  | intro {label} (hname : name ∈ extensionNames) (hlabel : Label name label) :
      Extension name label

/-- An attribute that switches extensions on, with a gap behind it. -/
inductive Attribute : Text → Prop where
  | intro {opening names body closing}
      (hopening : Tokens ["#".toList, "!".toList, "[".toList, "enable".toList, "(".toList] opening)
      (hne : names ≠ []) (hbody : Items Extension names body)
      (hclosing : Tokens [")".toList, "]".toList] closing) : Attribute (opening ++ body ++ closing)

/-- Attributes, one after the other. -/
inductive Attributes : Text → Prop where
  | nil : Attributes []
  | cons {first rest} (hfirst : Attribute first) (h : Attributes rest) : Attributes (first ++ rest)

end Grammar

open Grammar

/-! ## Fields -/

/-- A sentinel that is given. -/
inductive SentinelField where
  | opening (sentinel : Text)
  | closing (sentinel : Text)
deriving DecidableEq, Repr

namespace SentinelField

/-- The name of the field. -/
def name : SentinelField → Text
  | opening _ => "start".toList
  | closing _ => "end".toList

/-- The sentinel. -/
def sentinel : SentinelField → Text
  | opening sentinel | closing sentinel => sentinel

/-- Holds for what gives the sentinel. -/
def Written (field : SentinelField) (text : Text) : Prop :=
  Field field.name (Literal field.sentinel) text

end SentinelField

/-- The sentinels that are given, as fields. -/
def SentinelFields.toList (fields : SentinelFields) : List SentinelField :=
  (fields.opening.map .opening).toList ++ (fields.closing.map .closing).toList

/-- A setting that is given. -/
inductive ConfigField where
  | catalogue (path : Path)
  | host (path : Path)
  | output (path : Path)
  | sentinels (fields : SentinelFields)
  | terminator (text : Text)
deriving DecidableEq, Repr

namespace ConfigField

/-- The name of the field. -/
def name : ConfigField → Text
  | catalogue _ => "data_file_path".toList
  | host _ => "template_file_path".toList
  | output _ => "output_file_path".toList
  | sentinels _ => "sentinels".toList
  | terminator _ => "terminator".toList

/-- The values that the field may have. -/
def Value : ConfigField → Text → Prop
  | catalogue text | host text | output text | terminator text => Literal text
  | sentinels fields => Record "Sentinels".toList SentinelField.Written fields.toList

/-- Holds for what gives the setting. -/
def Written (field : ConfigField) (text : Text) : Prop :=
  Field field.name field.Value text

end ConfigField

/-! ## Configurations -/

namespace Config

/-- The settings that a text gives. -/
structure Given where
  catalogue : Option Path := none
  host : Option Path := none
  output : Option Path := none
  sentinels : Option SentinelFields := none
  terminator : Option Text := none
deriving DecidableEq, Repr

namespace Given

/-- The settings that are given, as fields. -/
def toList (given : Given) : List ConfigField :=
  (given.catalogue.map .catalogue).toList ++ (given.host.map .host).toList ++
    (given.output.map .output).toList ++ (given.sentinels.map .sentinels).toList ++
    (given.terminator.map .terminator).toList

/-- Holds for the texts that give the settings. -/
inductive Written (given : Given) : Text → Prop where
  | intro {before attributes record behind} (hbefore : Gap before)
      (hattributes : Attributes attributes)
      (hrecord : Record "GeneratorConfig".toList ConfigField.Written given.toList record)
      (hbehind : LastGap behind) : Written given (before ++ attributes ++ record ++ behind)

/-- The line that opens the region: it is given, or the usual one. -/
def opening (given : Given) : Text :=
  (given.sentinels.bind (·.opening)).getD "// start".toList

/-- The line that closes the region: it is given, or the usual one. -/
def closing (given : Given) : Text :=
  (given.sentinels.bind (·.closing)).getD "// end".toList

end Given

end Config

end Tilewright
