import Tilewright.Config.Basic

/-!
# Paths

A path is a text whose parts are separated by slashes. A slash in front makes it absolute; empty
parts and parts that are a single dot lead nowhere.

`Path.parent?` is the path without its last part that leads somewhere. What was written before that
part stays as it was, so that `a/../b` has the parent `a/..`, but the separators and dots at its end
go.
-/

namespace Tilewright.Path

/-- The parts of a path between its slashes. -/
def parts : Path → List Text
  | [] => [[]]
  | c :: rest => if c = '/' then [] :: parts rest else Text.attach c (parts rest)

/-- Holds for the parts that lead nowhere. -/
def isIdle (part : Text) : Bool :=
  part = [] || part = ['.']

/-- The path without its last part, for the parts behind the head of the path. -/
def dropLastPart (parts : List Text) : Option (List Text) :=
  match parts.reverse.dropWhile isIdle with
  | [] => none
  | _ :: before => some (before.dropWhile isIdle).reverse

/-- The path without its last part, or `none` if it has no part to drop. A dot in front counts as a
part. -/
def parent? (path : Path) : Option Path :=
  match parts path with
  | [] :: rest@(_ :: _) => (dropLastPart rest).map fun before => '/' :: Text.joinWith ['/'] before
  | ['.'] :: rest =>
    match dropLastPart rest with
    | none => some []
    | some before => some (Text.joinWith ['/'] (['.'] :: before))
  | all => (dropLastPart all).map (Text.joinWith ['/'])

/-- The directory in which a file of this path stands: its parent, or the working directory if the
parent says nothing. -/
def directory (path : Path) : Path :=
  match parent? path with
  | none => ['.']
  | some [] => ['.']
  | some parent => parent

/-- A path as seen from a directory: a path with a slash in front stays as it is. -/
def join (base path : Path) : Path :=
  if path.head? = some '/' then path
  else if base = [] ∨ base.getLast? = some '/' then base ++ path
  else base ++ '/' :: path

end Tilewright.Path
