import Tilewright.Text.Basic

/-!
# Scanning configuration texts

A configuration text is a record in parentheses: fields in any order, each a name, a colon and a
value, with commas between them. This file has the pieces that such texts are made of.

* Blanks are the space, the tab, the line ends and comments. A line comment starts with two
  slashes; a block comment stands between slash-star and star-slash, and such comments nest.
* An identifier has ASCII letters, digits and underscores, and no digit in front. Behind `r#` it may
  also have digits in front, dots and signs.
* A string stands in double quotes and has escapes, or is raw: behind an `r` and some marks `#`, up
  to the next quote that as many marks follow.

A scanner takes pieces off the front of the text, or says what is wrong with it.
-/

namespace Tilewright

/-- What is wrong with a configuration text. -/
inductive ReadFault where
  | endOfText
  | recordExpected
  | otherRecordName (found : Text)
  | identifierExpected
  /-- The name can only be written as a raw identifier. -/
  | rawIdentifierNeeded
  | colonExpected
  | commaExpected
  | stringExpected
  | stringEndExpected
  | badEscape
  | characterExpected
  | floatExpected
  | underscoreInFloat
  | optionExpected
  | optionEndExpected
  | unexpectedCharacter (found : Char)
  | commentEndExpected
  | attributeExpected
  | attributeEndExpected
  | unknownExtension (name : Text)
  | missingField (name : Text)
  | duplicateField (name : Text)
  /-- Values are nested too deeply. -/
  | tooDeep
  | trailingText
deriving DecidableEq, Repr

/-- A scanner takes a piece off the front of a text. -/
abbrev Scan := StateT Text (Except ReadFault)

namespace Scan

/-! ## Characters -/

/-- The blanks outside comments. -/
def isSpace (c : Char) : Bool :=
  c == ' ' || c == '\t' || c == '\n' || c == '\r'

/-- The characters that an identifier may start with. -/
def isFirst (c : Char) : Bool :=
  c.isAlpha || c == '_'

/-- The characters of an identifier. -/
def isOther (c : Char) : Bool :=
  c.isAlphanum || c == '_'

/-- The characters of a raw identifier. -/
def isRaw (c : Char) : Bool :=
  isOther c || c == '.' || c == '+' || c == '-'

/-- The value of a digit in base sixteen. -/
def hexDigit? (c : Char) : Option Nat :=
  if c.isDigit then some (c.toNat - '0'.toNat)
  else if 'a' ≤ c ∧ c ≤ 'f' then some (10 + c.toNat - 'a'.toNat)
  else if 'A' ≤ c ∧ c ≤ 'F' then some (10 + c.toNat - 'A'.toNat)
  else none

/-! ## Small steps -/

/-- The next character, which stays in the text. -/
def peek? : Scan (Option Char) := fun text => .ok (text.head?, text)

/-- The next character; the text must not be at its end. -/
def peek : Scan Char
  | [] => .error .endOfText
  | c :: rest => .ok (c, c :: rest)

/-- Takes a fixed text off the front, if it stands there. -/
def accept (expected : Text) : Scan Bool := fun text =>
  if expected.isPrefixOf text then .ok (true, text.drop expected.length) else .ok (false, text)

/-- Tells whether an identifier stands in front, with no further character of an identifier
behind it. -/
def startsWith (identifier text : Text) : Bool :=
  identifier.isPrefixOf text && !((text.drop identifier.length).head?.any isOther)

/-- Takes an identifier off the front, if it stands there as a whole. -/
def acceptIdentifier (identifier : Text) : Scan Bool := fun text =>
  if startsWith identifier text then .ok (true, text.drop identifier.length)
  else .ok (false, text)

/-! ## Blanks -/

/-- What a reader of blanks is in: nothing, a line comment, or a block comment and the number of
block comments around it. -/
inductive Blank where
  | plain
  | line
  | block (around : Nat)

/-- The text behind the blanks in front. -/
def dropBlank : Blank → Text → Except ReadFault Text
  | .block _, [] => .error .commentEndExpected
  | _, [] => .ok []
  | .plain, '/' :: '/' :: rest => dropBlank .line rest
  | .plain, '/' :: '*' :: rest => dropBlank (.block 0) rest
  | .plain, ['/'] => .error .endOfText
  | .plain, '/' :: c :: _ => .error (.unexpectedCharacter c)
  | .plain, c :: rest => if isSpace c then dropBlank .plain rest else .ok (c :: rest)
  | .line, c :: rest => dropBlank (if c = '\n' then .plain else .line) rest
  | .block around, '/' :: '*' :: rest => dropBlank (.block (around + 1)) rest
  | .block 0, '*' :: '/' :: rest => dropBlank .plain rest
  | .block (around + 1), '*' :: '/' :: rest => dropBlank (.block around) rest
  | .block around, _ :: rest => dropBlank (.block around) rest

/-- Takes off the blanks in front. -/
def blank : Scan Unit := fun text =>
  (dropBlank .plain text).map fun rest => ((), rest)

/-- Takes a comma off, with the blanks around it. Tells whether there was one. -/
def comma : Scan Bool := do
  blank
  let found ← accept [',']
  if found then blank
  return found

/-- Takes a colon off, with the blanks around it. -/
def colon : Scan Unit := do
  blank
  if ← accept [':'] then blank else throw .colonExpected

/-! ## Identifiers -/

/-- Takes an identifier off. What looks like a raw string is none, and a name that goes on with a
character of raw identifiers has to be written as one. Behind an `r` the text must go on. -/
def identifier : Scan Text
  | [] => .error .endOfText
  | ['r'] => .error .endOfText
  | 'r' :: '"' :: _ => .error .identifierExpected
  | 'r' :: '#' :: rest =>
    if rest.head?.any isRaw then .ok (rest.span isRaw) else .error .identifierExpected
  | c :: rest =>
    if isFirst c then
      let (name, behind) := (c :: rest).span isOther
      if behind.head?.any isRaw then .error .rawIdentifierNeeded else .ok (name, behind)
    else if isRaw c then .error .rawIdentifierNeeded
    else .error .identifierExpected

/-! ## Strings -/

/-- Takes off up to `left` digits in base sixteen; a closing brace stops it. -/
def braced : (left : Nat) → Scan (List Nat)
  | 0 => fun text => .ok ([], text)
  | left + 1 => fun
    | [] => .error .endOfText
    | c :: rest =>
      if c = '\x7d' then .ok ([], c :: rest)
      else match hexDigit? c with
        | none => .error .badEscape
        | some digit => (braced left rest).map fun (digits, behind) => (digit :: digits, behind)

/-- The number that digits in base sixteen denote. -/
def ofHexDigits (digits : List Nat) : Nat :=
  digits.foldl (fun n digit => 16 * n + digit) 0

/-- Takes off a digit in base sixteen. -/
def hexDigit : Scan Nat
  | [] => .error .endOfText
  | c :: rest =>
    match hexDigit? c with
    | none => .error .badEscape
    | some digit => .ok (digit, rest)

/-- The character that one letter behind a backslash stands for. -/
def ofLetter? : Char → Option Char
  | '\'' => some '\''
  | '"' => some '"'
  | '\\' => some '\\'
  | 'n' => some '\n'
  | 'r' => some '\r'
  | 't' => some '\t'
  | '0' => some '\x00'
  | _ => none

/-- Takes off the brace behind the digits of a code point, and gives its character. -/
def codePoint (digits : List Nat) : Scan Char
  | [] => .error .endOfText
  | c :: rest =>
    if digits ≠ [] ∧ c = '\x7d' ∧ (ofHexDigits digits).isValidChar then
      .ok (Char.ofNat (ofHexDigits digits), rest)
    else .error .badEscape

/-- Takes off what stands behind a backslash: a letter, two digits behind an `x`, or up to six
digits in braces behind a `u`. -/
def escape : Scan Char
  | [] => .error .endOfText
  | 'x' :: rest => do
    let (high, rest) ← hexDigit rest
    let (low, rest) ← hexDigit rest
    return (Char.ofNat (16 * high + low), rest)
  | ['u'] => .error .endOfText
  | 'u' :: '\x7b' :: rest => do
    let (digits, rest) ← braced 6 rest
    codePoint digits rest
  | c :: rest =>
    match ofLetter? c with
    | some c => .ok (c, rest)
    | none => .error .badEscape

theorem length_of_braced {left : Nat} {text behind : Text} {digits : List Nat}
    (h : braced left text = .ok (digits, behind)) : behind.length ≤ text.length := by
  induction left generalizing text digits with
  | zero => simp_all [braced]
  | succ left ih =>
    cases text with
    | nil => simp [braced] at h
    | cons c rest =>
      simp only [braced] at h
      split at h
      · simp_all
      · split at h
        · simp at h
        · cases hb : braced left rest with
          | error fault => simp [hb, Except.map] at h
          | ok result =>
            simp only [hb, Except.map, Except.ok.injEq, Prod.mk.injEq] at h
            have : behind.length ≤ rest.length := ih (hb.trans (by rw [← h.2]))
            exact Nat.le_succ_of_le this

theorem length_of_hexDigit {text behind : Text} {digit : Nat}
    (h : hexDigit text = .ok (digit, behind)) : behind.length < text.length := by
  cases text with
  | nil => simp [hexDigit] at h
  | cons c rest =>
    simp only [hexDigit] at h
    split at h <;> simp_all

theorem length_of_codePoint {digits : List Nat} {text behind : Text} {c : Char}
    (h : codePoint digits text = .ok (c, behind)) : behind.length < text.length := by
  cases text with
  | nil => simp [codePoint] at h
  | cons d rest =>
    simp only [codePoint] at h
    split at h <;> simp_all

/-- An escape takes at least one character. -/
theorem length_of_escape {text behind : Text} {c : Char}
    (h : escape text = .ok (c, behind)) : behind.length < text.length := by
  unfold escape at h
  split at h
  · simp at h
  · next rest =>
    cases hh : hexDigit rest with
    | error fault => simp [hh, bind, Except.bind] at h
    | ok high =>
      cases hl : hexDigit high.2 with
      | error fault => simp [hh, hl, bind, Except.bind] at h
      | ok low =>
        simp [hh, hl, bind, Except.bind, pure, Except.pure] at h
        have := length_of_hexDigit hh
        have := length_of_hexDigit hl
        simp [← h.2]
        omega
  · simp at h
  · next rest =>
    cases hb : braced 6 rest with
    | error fault => simp [hb, bind, Except.bind] at h
    | ok result =>
      simp only [hb, bind, Except.bind] at h
      have := length_of_braced hb
      have := length_of_codePoint h
      simp only [List.length_cons]
      omega
  · split at h <;> simp_all

/-- Reads a string in double quotes, from behind the opening quote. -/
def quotedFrom (text : Text) : Except ReadFault (Text × Text) :=
  match text with
  | [] => .error .stringEndExpected
  | '"' :: rest => .ok ([], rest)
  | '\\' :: rest =>
    match _h : escape rest with
    | .error fault => .error fault
    | .ok (c, behind) => (quotedFrom behind).map fun (string, rest) => (c :: string, rest)
  | c :: rest => (quotedFrom rest).map fun (string, rest) => (c :: string, rest)
termination_by text.length
decreasing_by
  · have := length_of_escape ‹_›
    simp only [List.length_cons]
    omega
  · simp

/-- Reads up to the first place where the ending stands, and takes the ending off. -/
def rawFrom (ending : Text) : Text → Except ReadFault (Text × Text)
  | [] => .error .stringEndExpected
  | c :: rest =>
    if ending.isPrefixOf (c :: rest) then .ok ([], (c :: rest).drop ending.length)
    else (rawFrom ending rest).map fun (string, rest) => (c :: string, rest)

/-- Takes a string off. -/
def string : Scan Text
  | '"' :: rest => quotedFrom rest
  | 'r' :: rest =>
    let (marks, rest) := rest.span (· == '#')
    match rest with
    | '"' :: rest => rawFrom ('"' :: marks) rest
    | _ => .error .stringExpected
  | _ => .error .stringExpected

end Scan

end Tilewright
