import Tilewright.Files.Path

/-!
# File trees

A file tree maps places to files and directories. A place is the list of names from the root down,
and a path leads to a place from the working directory or, with a slash in front, from the root.
Every part of a path but the last must be a directory when it is passed, also a part that leads
nowhere.

A file is replaced in one step: the new contents go into a temporary file beside it, under a name
that nothing has yet, and the temporary file takes the place of the old one. When a step fails the
temporary file is removed, so that the tree is as it was before.

A tree has no links: what stands at a place is a file or a directory, and a name leads nowhere but
to its own place.

The system may refuse a step that the tree would allow, as when it grants no permission. What it
refuses depends on the place and on the bytes that are to be written, and on nothing else: it is the
same before and after every step. So a limit on the size of one file is a refusal, and a disk that
fills up is none.
-/

namespace Tilewright

/-- The names from the root down. -/
abbrev Place := List Text

/-- What stands at a place. -/
inductive Node where
  | file (contents : ByteArray)
  | directory

/-- Why a file could not be read or replaced. -/
inductive FileFault where
  | notFound
  | isDirectory
  | notDirectory
  /-- The contents are not UTF-8. -/
  | notText
  /-- The path ends in a directory that is in use. -/
  | busy
  /-- The path, or a name in it, has too many bytes. -/
  | nameTooLong
  /-- The path holds a null character. -/
  | nullCharacter
  /-- Something else that the system reports. -/
  | other (message : Text)
deriving DecidableEq, Repr

/-- The words in which a system reports the fault. Where a temporary file cannot be made or filled,
the path of this file follows them on a real system, in the form ` at path "..."`. Its name is drawn
anew each time, so that no tree determines it, and it is left out here. -/
def FileFault.message : FileFault → Text
  | .notFound => "No such file or directory (os error 2)".toList
  | .isDirectory => "Is a directory (os error 21)".toList
  | .notDirectory => "Not a directory (os error 20)".toList
  | .notText => "stream did not contain valid UTF-8".toList
  | .busy => "Device or resource busy (os error 16)".toList
  | .nameTooLong => "File name too long (os error 36)".toList
  | .nullCharacter => "file name contained an unexpected NUL byte".toList
  | .other message => message

/-- What the system refuses, and why. No step changes what is refused: it is a matter of the place
and of the bytes, and not of what was written before. -/
structure Refusals where
  /-- Reading the file at a place. -/
  read : Place → Option FileFault := fun _ => none
  /-- Making a file in a directory. -/
  create : Place → Option FileFault := fun _ => none
  /-- Writing contents into a file that was made in a directory. -/
  write : Place → ByteArray → Option FileFault := fun _ _ => none
  /-- Moving a file to a place. -/
  move : Place → Option FileFault := fun _ => none

/-- A state of the file system. Of two entries for one place the first counts. -/
structure FileTree where
  workingDirectory : Place
  entries : List (Place × Node)
  refusals : Refusals := {}

namespace FileTree

/-! ## Entries -/

/-- What stands at a place. The root is always a directory. -/
def node? (tree : FileTree) (place : Place) : Option Node :=
  if place = [] then some .directory else tree.entries.lookup place

/-- Replaces the first entry for a place, or adds one at the end. -/
def putEntry (place : Place) (node : Node) : List (Place × Node) → List (Place × Node)
  | [] => [(place, node)]
  | (other, old) :: entries =>
    if other = place then (other, node) :: entries else (other, old) :: putEntry place node entries

/-- Puts a node at a place. -/
def put (tree : FileTree) (place : Place) (node : Node) : FileTree :=
  { tree with entries := putEntry place node tree.entries }

/-- Removes what stands at a place. -/
def erase (tree : FileTree) (place : Place) : FileTree :=
  { tree with entries := tree.entries.filter fun entry => entry.1 ≠ place }

theorem lookup_cons_of_ne {first other : Place} (h : other ≠ first) (node : Node)
    (entries : List (Place × Node)) :
    ((first, node) :: entries).lookup other = entries.lookup other := by
  have apart : (other == first) = false := beq_false_of_ne h
  simp [List.lookup_cons, apart]

theorem lookup_putEntry (place other : Place) (node : Node) (entries : List (Place × Node)) :
    (putEntry place node entries).lookup other =
      if other = place then some node else entries.lookup other := by
  induction entries with
  | nil =>
    by_cases h : other = place
    · simp [putEntry, h]
    · rw [putEntry, lookup_cons_of_ne h, if_neg h]
  | cons entry entries ih =>
    obtain ⟨first, old⟩ := entry
    rw [putEntry]
    by_cases here : first = place
    · rw [if_pos here, here]
      by_cases h : other = place
      · simp [h]
      · rw [lookup_cons_of_ne h, lookup_cons_of_ne h, if_neg h]
    · rw [if_neg here]
      by_cases h : other = first
      · simp [h, here]
      · rw [lookup_cons_of_ne h, lookup_cons_of_ne h, ih]

/-- After a node is put at a place it stands there, and nothing else has changed. -/
theorem node?_put (tree : FileTree) {place : Place} (h : place ≠ []) (node : Node)
    (other : Place) :
    (tree.put place node).node? other = if other = place then some node else tree.node? other := by
  unfold node? put
  rw [lookup_putEntry]
  by_cases root : other = []
  · subst root
    simp [Ne.symm h]
  · simp [root]

/-! ## Paths -/

/-- Goes from a directory along one part of a path. -/
def step (place : Place) (part : Text) : Place :=
  if Path.isIdle part then place
  else if part = "..".toList then place.dropLast
  else place ++ [part]

/-- How many bytes a text takes. -/
def byteCount (text : Text) : Nat :=
  (String.ofList text).utf8ByteSize

/-- The most bytes that a name may have. -/
def nameLimit : Nat := 255

/-- The most bytes that a path may have. -/
def pathLimit : Nat := 4095

/-- Goes along the parts of a path, as long as there are directories to go from. -/
def walk (tree : FileTree) : Place → List Text → Except FileFault Place
  | place, [] => .ok place
  | place, part :: parts =>
    match tree.node? place with
    | some .directory =>
      if byteCount part > nameLimit then .error .nameTooLong
      else walk tree (step place part) parts
    | some (.file _) => .error .notDirectory
    | none => .error .notFound

/-- Where a path starts. -/
def startOf (tree : FileTree) (path : Path) : Place :=
  if path.head? = some '/' then [] else tree.workingDirectory

/-- Refuses a path that leads nowhere in any tree. -/
def checkPath (path : Path) : Except FileFault Unit :=
  if path.contains '\x00' then .error .nullCharacter
  else if path = [] then .error .notFound
  else if byteCount path > pathLimit then .error .nameTooLong
  else .ok ()

/-- The place that a path leads to; nothing need stand there. -/
def locate (tree : FileTree) (path : Path) : Except FileFault Place := do
  checkPath path
  tree.walk (tree.startOf path) (Path.parts path)

/-- The directory that a path leads to. -/
def locateDirectory (tree : FileTree) (path : Path) : Except FileFault Place := do
  let place ← tree.locate path
  match tree.node? place with
  | some .directory => return place
  | some (.file _) => throw .notDirectory
  | none => throw .notFound

/-- The place that a file would take under a path. Its directory must be there. A path that ends in
a dot, two dots or the root names a directory in use, and one that ends in a slash cannot name a
file. -/
def locateTarget (tree : FileTree) (path : Path) : Except FileFault Place := do
  checkPath path
  let ending := (Path.parts path).reverse.takeWhile (· = [])
  match (Path.parts path).reverse.dropWhile (· = []) with
  | [] => throw .busy
  | last :: before =>
    let directory ← tree.walk (tree.startOf path) before.reverse
    match tree.node? directory with
    | some .directory =>
      if last = ['.'] ∨ last = "..".toList then throw .busy
      else if byteCount last > nameLimit then throw .nameTooLong
      else if ending ≠ [] then throw .notDirectory
      else return directory ++ [last]
    | some (.file _) => throw .notDirectory
    | none => throw .notFound

/-! ## Reading -/

/-- Fails with the fault for which the system refuses a step. -/
def grant : Option FileFault → Except FileFault Unit
  | some fault => .error fault
  | none => .ok ()

/-- The bytes of the file under a path. -/
def readBytes (tree : FileTree) (path : Path) : Except FileFault ByteArray := do
  let place ← tree.locate path
  match tree.node? place with
  | some (.file contents) =>
    grant (tree.refusals.read place)
    return contents
  | some .directory => throw .isDirectory
  | none => throw .notFound

/-- The text that bytes hold in UTF-8. -/
def decode (contents : ByteArray) : Except FileFault Text :=
  match contents.utf8Decode? with
  | some text => .ok text.toList
  | none => .error .notText

/-- The bytes of a text in UTF-8. -/
def encode (text : Text) : ByteArray :=
  (String.ofList text).toUTF8

@[simp] theorem decode_encode (text : Text) : decode (encode text) = .ok text := by
  simp [decode, encode, ← String.utf8Encode_toList]

/-- The text of the file under a path. -/
def readText (tree : FileTree) (path : Path) : Except FileFault Text := do
  decode (← tree.readBytes path)

/-! ## Replacing -/

/-- A name that nothing in the tree has: it holds every name in the tree and is longer than each. -/
def freshName (tree : FileTree) : Text :=
  ".tmp".toList ++ (tree.entries.flatMap fun entry => entry.1).flatten

/-- Every name in the tree is shorter than the fresh one. -/
theorem length_lt_freshName (tree : FileTree) {entry : Place × Node} {name : Text}
    (held : entry ∈ tree.entries) (part : name ∈ entry.1) :
    name.length < tree.freshName.length := by
  have listed : name ∈ tree.entries.flatMap fun entry => entry.1 :=
    List.mem_flatMap.2 ⟨entry, held, part⟩
  have bounded := (List.sublist_flatten_of_mem listed).length_le
  have stem : ".tmp".toList.length = 4 := by decide
  rw [freshName, List.length_append, stem]
  omega

/-- Nothing has the fresh name yet. -/
theorem node?_freshName (tree : FileTree) (directory : Place) :
    tree.node? (directory ++ [tree.freshName]) = none := by
  have absent : tree.entries.lookup (directory ++ [tree.freshName]) = none := by
    refine List.lookup_eq_none_iff.2 fun entry held => bne_iff_ne.2 fun same => ?_
    have part : tree.freshName ∈ entry.1 := by simp [← same]
    exact Nat.lt_irrefl _ (tree.length_lt_freshName held part)
  simp [node?, absent]

/-- How many bytes the name of a temporary file has on disk: a dot, `tmp` and six characters. -/
def temporaryNameSize : Nat := 10

/-- Refuses a directory in which the path of a temporary file cannot be said. That path goes from
the root through the working directory. -/
def checkTemporary (workingPath directory : Path) : Except FileFault Unit := do
  checkPath directory
  if byteCount (Path.join workingPath directory) + 1 + temporaryNameSize > pathLimit then
    throw .nameTooLong

/-- Makes an empty file under a fresh name in a directory. -/
def createTemporary (tree : FileTree) (directory : Path) : Except FileFault (Place × FileTree) := do
  checkTemporary ('/' :: Text.joinWith ['/'] tree.workingDirectory) directory
  let place ← tree.locateDirectory directory
  grant (tree.refusals.create place)
  let temporary := place ++ [tree.freshName]
  return (temporary, tree.put temporary (.file .empty))

/-- Writes contents into a file. -/
def writeBytes (tree : FileTree) (file : Place) (contents : ByteArray) :
    Except FileFault FileTree := do
  grant (tree.refusals.write file.dropLast contents)
  return tree.put file (.file contents)

/-- Moves a file to the place that a path names. A file that stands there goes, a directory stays
and the move fails. -/
def rename (tree : FileTree) (file : Place) (path : Path) : Except FileFault FileTree := do
  let target ← tree.locateTarget path
  match tree.node? target, tree.node? file with
  | some .directory, _ => throw .isDirectory
  | _, some node =>
    grant (tree.refusals.move target)
    return (tree.erase file).put target node
  | _, none => throw .notFound

/-- Replaces the file under a path in one step. The fault comes with the path that it is about: the
directory if no temporary file can be made there, the path itself otherwise. -/
def replaceFile (tree : FileTree) (path : Path) (text : Text) :
    Except (Path × FileFault) Unit × FileTree :=
  match tree.createTemporary (Path.directory path) with
  | .error fault => (.error (Path.directory path, fault), tree)
  | .ok (temporary, tree) =>
    match tree.writeBytes temporary (encode text) with
    | .error fault => (.error (path, fault), tree.erase temporary)
    | .ok tree =>
      match tree.rename temporary path with
      | .error fault => (.error (path, fault), tree.erase temporary)
      | .ok tree => (.ok (), tree)

/-! ## Setting up -/

/-- Makes the directory at a place and those above it, where nothing stands. -/
def makeDirectories (tree : FileTree) (place : Place) : FileTree :=
  ((List.range (place.length + 1)).map place.take).foldl
    (fun tree above => if (tree.node? above).isSome then tree else tree.put above .directory) tree

/-- The tree with nothing but a working directory and the directories above it. -/
def ofWorkingDirectory (place : Place) : FileTree :=
  makeDirectories { workingDirectory := place, entries := [] } place

/-- The place of a path, whatever stands on the way. -/
def placeOf (tree : FileTree) (path : Path) : Place :=
  (Path.parts path).foldl step (tree.startOf path)

/-- Makes a directory and those above it. -/
def addDirectory (tree : FileTree) (path : Path) : FileTree :=
  tree.makeDirectories (tree.placeOf path)

/-- Puts a file under a path, and makes the directories above it. -/
def addFile (tree : FileTree) (path : Path) (contents : ByteArray) : FileTree :=
  (tree.makeDirectories (tree.placeOf path).dropLast).put (tree.placeOf path) (.file contents)

/-- Removes the file under a path, if there is one. -/
def removeFile (tree : FileTree) (path : Path) : FileTree :=
  tree.erase (tree.placeOf path)

/-- Everything below the working directory: its path from there, with a slash behind directories,
and the contents of files. -/
def listing (tree : FileTree) : List (Path × Option ByteArray) :=
  tree.entries.filterMap fun (place, node) =>
    if tree.workingDirectory.isPrefixOf place && place ≠ tree.workingDirectory then
      let path := Text.joinWith ['/'] (place.drop tree.workingDirectory.length)
      match node with
      | .file contents => some (path, some contents)
      | .directory => some (path ++ ['/'], none)
    else none

end FileTree

end Tilewright
