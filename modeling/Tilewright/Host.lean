import Tilewright.Journal
import Tilewright.Placeholder
import Tilewright.Text.Line

/-!
# Hosts

A host is a file with a region between two sentinel lines. What stands before the region is kept;
the region is written once for every terrain, with the terrain's placeholders filled; what stands
behind the region goes, and a terminator takes its place.

A line is a sentinel when the two agree with the blanks at both ends taken off. The region starts
behind the first line that is the opening sentinel, and ends before the next line that is the
closing one.
-/

namespace Tilewright

/-- A host without its sentinels and what is behind its region. -/
structure Host where
  /-- The lines before the region. -/
  lead : Text
  /-- The lines of the region. -/
  region : Text
deriving DecidableEq, Repr

namespace Host

/-! ## Splitting -/

/-- Tells whether a line is a sentinel. -/
def isSentinel (sentinel line : Text) : Bool :=
  line.trim = sentinel.trim

/-- The lines up to the first sentinel, and the lines behind it; `none` if no line is one. -/
def cutAt (sentinel : Text) (lines : List Text) : Option (List Text × List Text) :=
  match lines.span fun line => !isSentinel sentinel line with
  | (_, []) => none
  | (before, _ :: behind) => some (before, behind)

/-- Splits a host at its sentinels. The sentinels are reported by their lines, counted from one; a
missing one is reported with the place that the text is from. -/
def split (sentinels : Sentinels) (origin : Path) (text : Text) : Outcome Host :=
  match cutAt sentinels.opening text.cutLines with
  | none => ⟨[], .error (.sentinelMissing sentinels.opening.trim origin)⟩
  | some (lead, behind) =>
    let starts := lead.length + 1
    match cutAt sentinels.closing behind with
    | none =>
      ⟨[.regionStarts starts], .error (.sentinelMissing sentinels.closing.trim origin)⟩
    | some (region, _) =>
      ⟨[.regionStarts starts, .regionEnds (starts + region.length + 1)],
        .ok ⟨lead.flatten, region.flatten⟩⟩

/-- Splits the host that a file holds. -/
def load (sentinels : Sentinels) (path : Path) (contents : Except FileFault Text) : Outcome Host :=
  match contents with
  | .error fault => ⟨[], .error (.file path fault)⟩
  | .ok text => split sentinels path text

/-! ## Stamping -/

/-- The region, written for a terrain. -/
def expand (host : Host) (terrain : Terrain) (serial : Nat) : Text :=
  Substitution.applyAll (terrain.substitutions serial) host.region

/-- The region written for terrains of consecutive serials, a line feed before each. -/
def expandFrom (host : Host) : (serial : Nat) → List Terrain → Text
  | _, [] => []
  | serial, terrain :: terrains =>
    '\n' :: host.expand terrain serial ++ host.expandFrom (serial + 1) terrains

/-- What stands before the region, the region for every terrain, and the terminator. -/
def stamp (host : Host) (terrains : List Terrain) (terminator : Text) : Text :=
  host.lead ++ host.expandFrom 0 terrains ++ terminator

/-- The placeholders that the region does not use, as they are for this terrain. -/
def unused (host : Host) (terrain : Terrain) : List Text :=
  (terrain.substitutions 0).map Substitution.needle |>.filter fun needle =>
    !Text.occursIn needle host.region

/-- The reports of classes with consecutive serials. -/
def stampedFrom : (serial : Nat) → List Terrain → Journal
  | _, [] => []
  | serial, terrain :: terrains =>
    .classStamped serial terrain.className :: stampedFrom (serial + 1) terrains

/-- What is reported when terrains are stamped: the placeholders that the region does not use, if
there is any terrain, and each class. -/
def stampEvents (host : Host) (terrains : List Terrain) : Journal :=
  (terrains.head?.elim [] fun terrain => (host.unused terrain).map .placeholderUnused) ++
    stampedFrom 0 terrains

end Host

end Tilewright
