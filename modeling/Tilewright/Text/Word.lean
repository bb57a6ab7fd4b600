import Tilewright.Text.Basic

/-!
# Words

A line is a row of words, written as a shell reads them: blanks (space, tab, line feed) stand
between words, and a word is made of bare characters and of quoted parts that join without a
blank. Outside quotes a backslash keeps the next character; inside double quotes it does so only
before `$`, a backquote, a double quote and a backslash; inside single quotes every character
stands for itself. A quote that stays open and a backslash at the end are faults.

A shell also knows comments: a mark `#` where a word could begin hides the rest of the line.
`Word.split` takes this as a parameter. A catalogue has no comments, so `Word.escapeMarks` puts a
backslash before each bare mark, and the result reads the same with and without comments.

`Word.Style` lists the ways to write a word down, and `Word.write` does so.
-/

namespace Tilewright.Word

/-- The characters between words. -/
def isSeparator (c : Char) : Bool :=
  c == ' ' || c == '\t' || c == '\n'

/-- The characters that a backslash keeps inside double quotes. -/
def isEscapable (c : Char) : Bool :=
  c == '$' || c == '`' || c == '"' || c == '\\'

/-! ## Reading -/

/-- Where a reader of words stands: between two words, in the bare part of a word, inside quotes,
or in a comment. -/
inductive Mode where
  | gap
  | bare
  | single
  | double
  | comment
deriving DecidableEq, Repr

/-- At a separator or the end, a word that was begun ends; between words there is none to end. -/
def Mode.close : Mode → List Text → List Text
  | .gap, words => words
  | _, words => [] :: words

/-- Reads the words from a given standing. The first word of the result is the rest of the word
that is being read. -/
def splitFrom (comments : Bool) : Mode → Text → Option (List Text)
  | .single, [] => none
  | .single, '\'' :: rest => splitFrom comments .bare rest
  | .single, c :: rest => (splitFrom comments .single rest).map (Text.attach c)
  | .double, [] => none
  | .double, '"' :: rest => splitFrom comments .bare rest
  | .double, ['\\'] => none
  | .double, '\\' :: c :: rest =>
    if c = '\n' then splitFrom comments .double rest
    else if isEscapable c then (splitFrom comments .double rest).map (Text.attach c)
    else (splitFrom comments .double rest).map (Text.attach '\\' ∘ Text.attach c)
  | .double, c :: rest => (splitFrom comments .double rest).map (Text.attach c)
  | .comment, [] => some []
  | .comment, c :: rest => splitFrom comments (if c = '\n' then .gap else .comment) rest
  | mode, [] => some (mode.close [])
  | _, '\'' :: rest => splitFrom comments .single rest
  | _, '"' :: rest => splitFrom comments .double rest
  | _, ['\\'] => none
  | _, '\\' :: c :: rest =>
    if c = '\n' then splitFrom comments .bare rest
    else (splitFrom comments .bare rest).map (Text.attach c)
  | mode, c :: rest =>
    if isSeparator c then (splitFrom comments .gap rest).map mode.close
    else if comments && mode = .gap && c = '#' then splitFrom comments .comment rest
    else (splitFrom comments .bare rest).map (Text.attach c)

/-- The words of a line; `none` if a quote stays open or a backslash ends the line. With
`comments` a mark at the beginning of a word hides the rest of the line, without it a mark is a
character like any other. -/
def split (comments : Bool) (line : Text) : Option (List Text) :=
  splitFrom comments .gap line

/-! ## Marks -/

/-- What kind of quotes is open. -/
inductive Quotes where
  | none
  | single
  | double
deriving DecidableEq, Repr

/-- Puts a backslash before each mark outside quotes, starting with the given quotes open. -/
def escapeMarksFrom : Quotes → Text → Text
  | _, [] => []
  | .none, '#' :: rest => '\\' :: '#' :: escapeMarksFrom .none rest
  | .none, '\'' :: rest => '\'' :: escapeMarksFrom .single rest
  | .none, '"' :: rest => '"' :: escapeMarksFrom .double rest
  | .none, '\\' :: c :: rest => '\\' :: c :: escapeMarksFrom .none rest
  | .single, '\'' :: rest => '\'' :: escapeMarksFrom .none rest
  | .double, '"' :: rest => '"' :: escapeMarksFrom .none rest
  | .double, '\\' :: c :: rest => '\\' :: c :: escapeMarksFrom .double rest
  | quotes, c :: rest => c :: escapeMarksFrom quotes rest

/-- The line with each bare mark kept by a backslash. A line without marks stays as it is. -/
def escapeMarks (line : Text) : Text :=
  if line.contains '#' then escapeMarksFrom .none line else line

/-! ## Writing -/

/-- The ways to write a word down. -/
inductive Style where
  | single
  | double
  | bare
deriving DecidableEq, Repr

/-- The characters that need quotes or a backslash. -/
def isSpecial (c : Char) : Bool :=
  isSeparator c || c == '\r' || c == '\'' || c == '"' || c == '\\'

/-- A bare word is not empty and has no special character; every word can be quoted. -/
def Style.fits : Style → Text → Bool
  | .bare, word => !word.isEmpty && word.all (fun c => !isSpecial c)
  | _, _ => true

/-- The word as it is written in a style. In single quotes a single quote ends the quotes, stands
behind a backslash, and opens them again. -/
def write : Style → Text → Text
  | .single, word =>
    '\'' :: word.flatMap (fun c => if c = '\'' then ['\'', '\\', '\'', '\''] else [c]) ++ ['\'']
  | .double, word =>
    '"' :: word.flatMap (fun c => if isEscapable c then ['\\', c] else [c]) ++ ['"']
  | .bare, word => word

/-- A word on a line: how it is written, and what stands between it and the word before. -/
structure Written where
  gap : Text
  style : Style
  word : Text
deriving DecidableEq, Repr

/-- The line on which words are written, with `behind` after the last one. -/
def writeLine (words : List Written) (behind : Text) : Text :=
  words.flatMap (fun written => written.gap ++ write written.style written.word) ++ behind

end Tilewright.Word
