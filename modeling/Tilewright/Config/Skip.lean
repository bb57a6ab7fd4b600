import Tilewright.Config.Scan

/-!
# Values that nobody reads

A configuration may have fields of other names than the known ones. Their values are skipped, but
they must be values: booleans, numbers, characters, strings, options, lists, maps, and records with
or without a name, with fields by name or by position.

Values nest up to a limit. Each list, map, record, option, element, key and value takes one level.
-/

namespace Tilewright.Scan

/-! ## Items between brackets -/

/-- Reads items with commas between them, from behind the opening bracket up to and with the
closing one; a comma may stand behind the last item. Each further round takes a comma off, so the
rounds are fewer than the characters. -/
def itemsFrom {σ : Type} (close : Char) (item : σ → Scan σ) : (rounds : Nat) → σ → Scan σ
  | 0, _ => throw .endOfText
  | rounds + 1, s => do
    blank
    if (← peek) = close then
      let _ ← accept [close]
      return s
    let s ← item s
    if ← comma then itemsFrom close item rounds s
    else if (← peek) = close then
      let _ ← accept [close]
      return s
    else throw .commaExpected

/-- Reads items with commas between them up to the closing bracket, from a starting value on. -/
def items {σ : Type} (close : Char) (item : σ → Scan σ) (start : σ) : Scan σ := fun text =>
  itemsFrom close item (text.length + 1) start text

/-! ## Numbers -/

/-- The characters of a number with a point or an exponent. -/
def isFloatChar (c : Char) : Bool :=
  c.isDigit || c == '.' || c == 'e' || c == 'E' || c == '+' || c == '-' || c == '_'

/-- The characters of a whole number in any base. -/
def isIntegerChar (c : Char) : Bool :=
  (hexDigit? c).isSome || c == '_'

/-- The text behind one sign in front, if there is one. -/
def dropSign : Text → Text
  | '+' :: rest => rest
  | '-' :: rest => rest
  | text => text

/-- Holds for an exponent, from behind its letter. -/
def isExponent (text : Text) : Bool :=
  let digits := dropSign text
  !digits.isEmpty && digits.all Char.isDigit

/-- Holds for a number with an optional sign, point and exponent, and at least one digit before the
exponent. -/
def isFloat (text : Text) : Bool :=
  let (whole, rest) := (dropSign text).span Char.isDigit
  let (fraction, rest) := match rest with
    | '.' :: rest => rest.span Char.isDigit
    | rest => ([], rest)
  !(whole.isEmpty && fraction.isEmpty) && match rest with
    | [] => true
    | c :: rest => (c == 'e' || c == 'E') && isExponent rest

/-- Takes a number with a point or an exponent off. -/
def float : Scan Unit := fun text =>
  match ["inf", "+inf", "-inf", "NaN", "+NaN", "-NaN"].find? (startsWith ·.toList text) with
  | some name => .ok ((), text.drop name.length)
  | none =>
    let (number, rest) := text.span isFloatChar
    if number.isEmpty then .error .floatExpected
    else if number.contains '_' then .error .underscoreInFloat
    else if isFloat number then .ok ((), rest)
    else .error .floatExpected

/-- The base that the front of a whole number names, and its digits. -/
def basePart : Text → Nat × Text
  | '0' :: 'x' :: rest => (16, rest)
  | '0' :: 'b' :: rest => (2, rest)
  | '0' :: 'o' :: rest => (8, rest)
  | text => (10, text)

/-- The text behind a whole number that fits into 64 bits, with a sign or without. Underscores may
stand between digits. -/
def integer? (text : Text) : Option Text :=
  let limit := match text with
    | '+' :: _ => UInt64.size / 2 - 1
    | '-' :: _ => UInt64.size / 2
    | _ => UInt64.size - 1
  let (base, rest) := basePart (dropSign text)
  let (number, rest) := rest.span isIntegerChar
  let digits := number.filterMap hexDigit?
  if number.head?.any (· != '_') && digits.all (· < base) &&
      digits.foldl (fun n digit => base * n + digit) 0 ≤ limit then some rest
  else none

/-- Takes a number off. What cannot be read as a whole number is read as one with a point. -/
def number : Scan Unit := fun text =>
  let body := dropSign text
  if (body.takeWhile isFloatChar).length > (body.takeWhile isIntegerChar).length then float text
  else match integer? text with
    | some rest => .ok ((), rest)
    | none => float text

/-! ## Values -/

/-- Takes a character in single quotes off. -/
def character : Scan Unit
  | '\'' :: '\\' :: rest => do
    let (_, rest) ← escape rest
    match rest with
    | '\'' :: rest => return ((), rest)
    | _ => throw .characterExpected
  | ['\''] => .error .endOfText
  | '\'' :: c :: '\'' :: rest => if c = '\'' then .error .characterExpected else .ok ((), rest)
  | _ => .error .characterExpected

/-- Tells whether the fields of a record go by position, from behind its opening parenthesis: they
go by name when an identifier and a colon come first. -/
def goesByPosition (text : Text) : Except ReadFault Bool :=
  match identifier text with
  | .error _ => .ok true
  | .ok (_, rest) => do
    let rest ← dropBlank .plain rest
    match rest with
    | [] => throw .endOfText
    | c :: _ => return c != ':'

/-- Goes one level down, unless the limit is reached. -/
def enter (inner : Option (Scan Unit)) : Scan (Scan Unit) :=
  match inner with
  | some inner => return inner
  | none => throw .tooDeep

/-- Skips a value, given how values one and two levels further down are skipped, where the limit
allows that. With `implicitSome` an option may leave out its parentheses. -/
def skipWith (implicitSome : Bool) (once twice : Option (Scan Unit)) : Scan Unit := do
  let element (_ : Unit) : Scan Unit := do (← enter twice)
  let field (_ : Unit) : Scan Unit := do
    let value ← enter twice
    let _ ← identifier
    colon
    value
  let entry (_ : Unit) : Scan Unit := do
    let value ← enter twice
    value
    colon
    value
  -- A record, from behind its name.
  let body : Scan Unit := do
    if ← accept ['('] then
      blank
      let byPosition ← fun text => (goesByPosition text).map fun b => (b, text)
      let _ ← enter once
      if byPosition then items ')' element () else items ')' field ()
  if ← acceptIdentifier "true".toList then return
  if ← acceptIdentifier "false".toList then return
  if ← acceptIdentifier "Some".toList then
    blank
    if ← accept ['('] then
      blank
      let value ← enter once
      value
      let _ ← comma
      if !(← accept [')']) then throw .optionEndExpected
      return
    if !implicitSome then throw .optionExpected
    let value ← enter once
    value
    return
  if ← acceptIdentifier "None".toList then return
  if ← accept "()".toList then return
  if ← acceptIdentifier "inf".toList then return
  if ← acceptIdentifier "-inf".toList then return
  if ← acceptIdentifier "NaN".toList then return
  let named ← fun text => match identifier text with
    | .ok (_, rest) => .ok (true, rest)
    | .error _ => .ok (false, text)
  if named then
    blank
    body
    return
  match ← peek with
  | '(' => body
  | '[' =>
    let _ ← accept ['[']
    let _ ← enter once
    items ']' element ()
  | '{' =>
    let _ ← accept ['{']
    let _ ← enter once
    items '}' entry ()
  | '"' => let _ ← string
  | 'r' => let _ ← string
  | '\'' => character
  | c =>
    if c.isDigit || c == '+' || c == '-' || c == '.' then number
    else throw (.unexpectedCharacter c)

/-- Skips a value, with so many levels left below it. -/
def skip (implicitSome : Bool) : (levels : Nat) → Scan Unit
  | 0 => skipWith implicitSome none none
  | 1 => skipWith implicitSome (some (skip implicitSome 0)) none
  | levels + 2 =>
    skipWith implicitSome (some (skip implicitSome (levels + 1))) (some (skip implicitSome levels))

end Tilewright.Scan
