import Mathlib.Tactic.Common
import Tilewright.Files.Tree

/-!
# What a replacement leaves behind

To replace a file a temporary file is made, filled and moved. Each of the three steps can fail, and
whatever happens the temporary file is gone in the end.

* `FileTree.erase_put`: a file that was made where nothing stood can be removed without a trace.
* `FileTree.walk_of_directories`: where a path leads depends on directories only, so that making,
  filling and moving files does not lead it anywhere else.
* `FileTree.CanReplace` is what a replacement needs: with it a replacement succeeds, and without it
  none does (`FileTree.replaceFile_eq_ok_iff`).
* `FileTree.replaceFile_cases`: a replacement fails and leaves the tree as it was, or it succeeds
  and puts the new contents at the place of the path.
* `FileTree.CanReplace.put` and `FileTree.readText_put`: afterwards the file can be replaced again,
  and a text at another place is as it was.
-/

namespace Tilewright

/-- Two steps succeed exactly when the first does, and the second on its result. -/
theorem Except.bind_eq_ok {ε α β : Type} {first : Except ε α} {next : α → Except ε β} {b : β} :
    (first >>= next) = .ok b ↔ ∃ a, first = .ok a ∧ next a = .ok b := by
  cases first <;> simp [bind, Except.bind]

theorem Except.throw_ne_ok {ε α : Type} {error : ε} {a : α} :
    (throw error : Except ε α) ≠ .ok a := by
  simp [throw, throwThe, MonadExceptOf.throw]

namespace FileTree

variable {tree : FileTree} {place : Place}

/-! ## Entries -/

theorem ne_nil_of_node?_ne_directory (h : tree.node? place ≠ some .directory) : place ≠ [] := by
  rintro rfl
  exact h rfl

theorem lookup_of_node?_eq_none (h : tree.node? place = none) :
    tree.entries.lookup place = none := by
  have hdirectory : tree.node? place ≠ some .directory := by simp [h]
  rwa [node?, if_neg (ne_nil_of_node?_ne_directory hdirectory)] at h

theorem putEntry_putEntry (place : Place) (first second : Node) (entries : List (Place × Node)) :
    putEntry place second (putEntry place first entries) = putEntry place second entries := by
  induction entries with
  | nil => simp [putEntry]
  | cons entry entries ih =>
    rcases entry with ⟨other, old⟩
    by_cases h : other = place
    · simp [putEntry, h]
    · simp [putEntry, h, ih]

theorem filter_putEntry (place : Place) (node : Node) (entries : List (Place × Node)) :
    (putEntry place node entries).filter (fun entry => entry.1 ≠ place) =
      entries.filter fun entry => entry.1 ≠ place := by
  induction entries with
  | nil => simp [putEntry]
  | cons entry entries ih =>
    rcases entry with ⟨other, old⟩
    by_cases h : other = place
    · simp [putEntry, h]
    · simpa [putEntry, h] using ih

theorem workingDirectory_put (tree : FileTree) (place : Place) (node : Node) :
    (tree.put place node).workingDirectory = tree.workingDirectory := rfl

/-- Of two nodes that are put at a place the second counts. -/
theorem put_put (tree : FileTree) (place : Place) (first second : Node) :
    (tree.put place first).put place second = tree.put place second := by
  simp only [put, putEntry_putEntry]

/-- A node that was put where nothing stood can be removed without a trace. -/
theorem erase_put (h : tree.node? place = none) (node : Node) :
    (tree.put place node).erase place = tree := by
  have hentries : tree.entries.filter (fun entry => entry.1 ≠ place) = tree.entries := by
    rw [List.filter_eq_self]
    intro entry hentry
    have hother := List.lookup_eq_none_iff.1 (lookup_of_node?_eq_none h) entry hentry
    exact decide_eq_true (Ne.symm (bne_iff_ne.1 hother))
  simp only [put, erase, filter_putEntry, hentries]

/-! ## Directories -/

/-- A file that is put where no directory stands leaves the directories. -/
theorem directory_put {other : Place} (h : tree.node? place ≠ some .directory) (node : Node)
    (hother : tree.node? other = some .directory) :
    (tree.put place node).node? other = some .directory := by
  have hne : other ≠ place := by
    rintro rfl
    exact h hother
  rw [node?_put tree (ne_nil_of_node?_ne_directory h), if_neg hne, hother]

/-- A file that is put where no directory stands makes no directory. -/
theorem directory_of_put {other : Place} {contents : ByteArray}
    (h : tree.node? place ≠ some .directory)
    (hother : (tree.put place (.file contents)).node? other = some .directory) :
    tree.node? other = some .directory := by
  rw [node?_put tree (ne_nil_of_node?_ne_directory h)] at hother
  by_cases hplace : other = place
  · rw [if_pos hplace] at hother
    exact absurd hother (by simp)
  · rwa [if_neg hplace] at hother

section Walking

variable {other : FileTree} {target : Place} {path : Path} {parts : List Text}

/-- A walk goes the same way in every tree with the same working directory that has the directories
of the first. -/
theorem walk_of_directories
    (h : ∀ place, tree.node? place = some .directory → other.node? place = some .directory)
    (hwalk : tree.walk place parts = .ok target) : other.walk place parts = .ok target := by
  induction parts generalizing place with
  | nil => exact hwalk
  | cons part parts ih =>
    rw [walk] at hwalk ⊢
    cases hnode : tree.node? place with
    | none =>
      rw [hnode] at hwalk
      exact absurd hwalk (by simp)
    | some node =>
      cases node with
      | file contents =>
        rw [hnode] at hwalk
        exact absurd hwalk (by simp)
      | directory =>
        simp only [hnode, h place hnode] at hwalk ⊢
        split at hwalk
        · exact absurd hwalk (by simp)
        · next hsize =>
          rw [if_neg hsize]
          exact ih hwalk

theorem walk_append (place : Place) (parts more : List Text) :
    tree.walk place (parts ++ more) =
      tree.walk place parts >>= fun next => tree.walk next more := by
  induction parts generalizing place with
  | nil => rfl
  | cons part parts ih =>
    rw [List.cons_append, walk, walk]
    split
    · split
      · rfl
      · exact ih _
    · rfl
    · rfl

theorem startOf_eq (h : other.workingDirectory = tree.workingDirectory) (path : Path) :
    other.startOf path = tree.startOf path := by
  rw [startOf, startOf, h]

/-- The path leads along `parts` to a directory, and then to the name of a file in it. -/
structure LeadsInto (tree : FileTree) (path : Path) (parts : List Text) (name : Text)
    (directory : Place) : Prop where
  check : checkPath path = .ok ()
  parts_eq : Path.parts path = parts ++ [name]
  name_ne : name ≠ [] ∧ name ≠ ['.'] ∧ name ≠ "..".toList
  size_le : byteCount name ≤ nameLimit
  walk_eq : tree.walk (tree.startOf path) parts = .ok directory
  node_eq : tree.node? directory = some .directory

theorem LeadsInto.locateTarget_eq {name : Text} {directory : Place}
    (h : LeadsInto tree path parts name directory) :
    tree.locateTarget path = .ok (directory ++ [name]) := by
  rcases h.name_ne with ⟨hempty, hdot, hdots⟩
  have hreverse : (Path.parts path).reverse = name :: parts.reverse := by
    simp [h.parts_eq]
  rw [locateTarget, Except.bind_eq_ok]
  refine ⟨(), h.check, ?_⟩
  simp only [hreverse, List.dropWhile_cons, List.takeWhile_cons, hempty, decide_false,
    Bool.false_eq_true, if_false, List.reverse_reverse, Except.bind_eq_ok]
  refine ⟨directory, h.walk_eq, ?_⟩
  rw [h.node_eq]
  simp only [hdot, hdots, or_self, if_false, Nat.not_lt_of_le h.size_le]
  rfl

theorem exists_leadsInto (h : tree.locateTarget path = .ok target) :
    ∃ parts name directory, LeadsInto tree path parts name directory ∧
      target = directory ++ [name] := by
  rw [locateTarget, Except.bind_eq_ok] at h
  rcases h with ⟨⟨⟩, hcheck, h⟩
  cases hparts : (Path.parts path).reverse.dropWhile (· = []) with
  | nil =>
    -- a path of slashes names nothing
    rw [hparts] at h
    exact absurd h Except.throw_ne_ok
  | cons name before =>
    simp only [hparts, Except.bind_eq_ok] at h
    rcases h with ⟨directory, hwalk, h⟩
    split at h
    · next hnode =>
      split at h
      · exact absurd h Except.throw_ne_ok
      · next hdots =>
        split at h
        · exact absurd h Except.throw_ne_ok
        · next hsize =>
          split at h
          · exact absurd h Except.throw_ne_ok
          · next hending =>
            -- no slash stands behind the name, so that it is the last part
            rw [not_or] at hdots
            rw [not_not] at hending
            have hname : name ≠ [] := by
              have hhead := List.head?_dropWhile_not (fun part : Text => decide (part = []))
                (Path.parts path).reverse
              simpa [hparts] using hhead
            have hreverse := List.takeWhile_append_dropWhile (p := fun part : Text => part = [])
              (l := (Path.parts path).reverse)
            rw [hending, hparts, List.nil_append] at hreverse
            have hall : Path.parts path = before.reverse ++ [name] := by
              rw [← List.reverse_reverse (Path.parts path), ← hreverse, List.reverse_cons]
            exact ⟨before.reverse, name, directory,
              ⟨hcheck, hall, ⟨hname, hdots⟩, Nat.le_of_not_lt hsize, hwalk, hnode⟩,
              (Except.ok.inj h).symm⟩
    · exact absurd h Except.throw_ne_ok
    · exact absurd h Except.throw_ne_ok

/-- The place of a file is the same in every tree that has the directories of the first. -/
theorem locateTarget_of_directories (hstart : other.workingDirectory = tree.workingDirectory)
    (h : ∀ place, tree.node? place = some .directory → other.node? place = some .directory)
    (htarget : tree.locateTarget path = .ok target) : other.locateTarget path = .ok target := by
  rcases exists_leadsInto htarget with ⟨parts, name, directory, hleads, rfl⟩
  have hother : LeadsInto other path parts name directory := {
    hleads with
    walk_eq := by
      rw [startOf_eq hstart]
      exact walk_of_directories h hleads.walk_eq
    node_eq := h directory hleads.node_eq }
  exact hother.locateTarget_eq

/-- The place of a path is the same in every tree that has the directories of the first. -/
theorem locate_of_directories (hstart : other.workingDirectory = tree.workingDirectory)
    (h : ∀ place, tree.node? place = some .directory → other.node? place = some .directory)
    (htarget : tree.locate path = .ok target) : other.locate path = .ok target := by
  rw [locate, Except.bind_eq_ok] at htarget ⊢
  rcases htarget with ⟨⟨⟩, hcheck, hwalk⟩
  refine ⟨(), hcheck, ?_⟩
  rw [startOf_eq hstart]
  exact walk_of_directories h hwalk

/-- The path of a file leads to the place of the file. -/
theorem locate_of_locateTarget (h : tree.locateTarget path = .ok target) :
    tree.locate path = .ok target := by
  rcases exists_leadsInto h with ⟨parts, name, directory, hleads, rfl⟩
  rcases hleads.name_ne with ⟨hempty, hdot, hdots⟩
  have hstep : step directory name = directory ++ [name] := by
    have hidle : Path.isIdle name = false := by simp [Path.isIdle, hempty, hdot]
    rw [step, hidle, if_neg (by simp), if_neg hdots]
  have hlast : tree.walk directory [name] = .ok (directory ++ [name]) := by
    rw [walk, hleads.node_eq]
    simp only [if_neg (Nat.not_lt_of_le hleads.size_le), walk, hstep]
  rw [locate, hleads.check, hleads.parts_eq, walk_append, hleads.walk_eq]
  exact hlast

end Walking

/-! ## Replacing -/

section Replacing

variable {path : Path} {text : Text} {made written after : FileTree} {temporary : Place}

theorem grant_eq_ok_iff {refusal : Option FileFault} : grant refusal = .ok () ↔ refusal = none := by
  cases refusal <;> simp [grant]

/-- A temporary file is made where nothing stands. -/
theorem createTemporary_eq_ok_iff :
    tree.createTemporary path = .ok (temporary, made) ↔
      ∃ directory,
        checkTemporary ('/' :: Text.joinWith ['/'] tree.workingDirectory) path = .ok () ∧
        tree.locateDirectory path = .ok directory ∧ tree.refusals.create directory = none ∧
        temporary = directory ++ [tree.freshName] ∧ made = tree.put temporary (.file .empty) := by
  simp only [createTemporary, Except.bind_eq_ok]
  constructor
  · rintro ⟨⟨⟩, hcheck, directory, hdirectory, ⟨⟩, hgrant, h⟩
    rcases Prod.mk.inj (Except.ok.inj h) with ⟨rfl, rfl⟩
    exact ⟨directory, hcheck, hdirectory, grant_eq_ok_iff.1 hgrant, rfl, rfl⟩
  · rintro ⟨directory, hcheck, hdirectory, hgrant, rfl, rfl⟩
    exact ⟨(), hcheck, directory, hdirectory, (), grant_eq_ok_iff.2 hgrant, rfl⟩

theorem writeBytes_eq_ok_iff {contents : ByteArray} :
    made.writeBytes temporary contents = .ok written ↔
      made.refusals.write temporary.dropLast contents = none ∧
        written = made.put temporary (.file contents) := by
  rw [writeBytes, Except.bind_eq_ok]
  constructor
  · rintro ⟨⟨⟩, hgrant, h⟩
    exact ⟨grant_eq_ok_iff.1 hgrant, (Except.ok.inj h).symm⟩
  · rintro ⟨hgrant, rfl⟩
    exact ⟨(), grant_eq_ok_iff.2 hgrant, rfl⟩

/-- A file is moved to a place where no directory stands. -/
theorem rename_eq_ok_iff :
    written.rename temporary path = .ok after ↔
      ∃ target node, written.locateTarget path = .ok target ∧
        written.node? target ≠ some .directory ∧ written.node? temporary = some node ∧
        written.refusals.move target = none ∧
        after = (written.erase temporary).put target node := by
  rw [rename, Except.bind_eq_ok]
  constructor
  · rintro ⟨target, htarget, h⟩
    split at h
    · exact absurd h Except.throw_ne_ok
    · next node hnode hdirectory =>
      rw [Except.bind_eq_ok] at h
      rcases h with ⟨⟨⟩, hgrant, hafter⟩
      exact ⟨target, node, htarget, hdirectory, hnode, grant_eq_ok_iff.1 hgrant,
        (Except.ok.inj hafter).symm⟩
    · exact absurd h Except.throw_ne_ok
  · rintro ⟨target, node, htarget, hdirectory, hnode, hgrant, rfl⟩
    refine ⟨target, htarget, ?_⟩
    rw [hnode, hgrant]
    split
    · next h => exact absurd h hdirectory
    · next found hfound _ =>
      rcases Option.some.inj hfound with rfl
      rfl
    · next h _ => exact absurd h (by simp)

/-- What a replacement needs: a directory that takes a temporary file with the text, and a place in
a directory, which may be another one, to which the file may be moved. -/
structure CanReplace (tree : FileTree) (path : Path) (text : Text) (directory target : Place) :
    Prop where
  check : checkTemporary ('/' :: Text.joinWith ['/'] tree.workingDirectory)
    (Path.directory path) = .ok ()
  directory_eq : tree.locateDirectory (Path.directory path) = .ok directory
  create_eq : tree.refusals.create directory = none
  write_eq : tree.refusals.write directory (encode text) = none
  target_eq : tree.locateTarget path = .ok target
  target_node : tree.node? target ≠ some .directory
  move_eq : tree.refusals.move target = none

/-- With all that it needs a replacement succeeds. -/
theorem CanReplace.replaceFile_eq {directory target : Place}
    (h : CanReplace tree path text directory target) :
    tree.replaceFile path text = (.ok (), tree.put target (.file (encode text))) := by
  have hfresh := node?_freshName tree directory
  have hfile : tree.node? (directory ++ [tree.freshName]) ≠ some .directory := by simp [hfresh]
  have hroot := ne_nil_of_node?_ne_directory hfile
  have hmake := createTemporary_eq_ok_iff.2
    ⟨directory, h.check, h.directory_eq, h.create_eq, rfl, rfl⟩
  have hwrite : (tree.put (directory ++ [tree.freshName]) (.file .empty)).writeBytes
      (directory ++ [tree.freshName]) (encode text) =
      .ok (tree.put (directory ++ [tree.freshName]) (.file (encode text))) := by
    rw [writeBytes_eq_ok_iff, put_put, List.dropLast_concat]
    exact ⟨h.write_eq, rfl⟩
  -- the temporary file is not on the way to the target
  have htarget : (tree.put (directory ++ [tree.freshName]) (.file (encode text))).locateTarget
      path = .ok target :=
    locateTarget_of_directories (workingDirectory_put ..) (fun _ => directory_put hfile _)
      h.target_eq
  have hmove := rename_eq_ok_iff.2 ⟨target, .file (encode text), htarget,
    fun hdirectory => h.target_node (directory_of_put hfile hdirectory),
    by rw [node?_put tree hroot, if_pos rfl], h.move_eq, rfl⟩
  rw [replaceFile, hmake]
  dsimp only
  rw [hwrite]
  dsimp only
  rw [hmove, erase_put hfresh]

/-- All that a replacement can do: fail and leave the tree as it was, or have all that it needs. -/
theorem fails_or_canReplace (tree : FileTree) (path : Path) (text : Text) :
    (∃ fault, tree.replaceFile path text = (.error fault, tree)) ∨
      ∃ directory target, CanReplace tree path text directory target := by
  cases hmake : tree.createTemporary (Path.directory path) with
  | error fault =>
    refine .inl ⟨(Path.directory path, fault), ?_⟩
    rw [replaceFile, hmake]
  | ok pair =>
    rcases pair with ⟨temporary, made⟩
    rcases createTemporary_eq_ok_iff.1 hmake with
      ⟨directory, hcheck, hdirectory, hcreate, rfl, rfl⟩
    have hfresh := node?_freshName tree directory
    have hfile : tree.node? (directory ++ [tree.freshName]) ≠ some .directory := by simp [hfresh]
    cases hwrite : (tree.put (directory ++ [tree.freshName]) (.file .empty)).writeBytes
        (directory ++ [tree.freshName]) (encode text) with
    | error fault =>
      -- the temporary file goes as it came
      refine .inl ⟨(path, fault), ?_⟩
      rw [replaceFile, hmake]
      dsimp only
      rw [hwrite, erase_put hfresh]
    | ok written =>
      rcases writeBytes_eq_ok_iff.1 hwrite with ⟨hgrant, rfl⟩
      rw [List.dropLast_concat] at hgrant
      rw [put_put] at hwrite
      cases hmove : (tree.put (directory ++ [tree.freshName]) (.file (encode text))).rename
          (directory ++ [tree.freshName]) path with
      | error fault =>
        refine .inl ⟨(path, fault), ?_⟩
        rw [replaceFile, hmake]
        dsimp only
        rw [hwrite]
        dsimp only
        rw [hmove, erase_put hfresh]
      | ok after =>
        rcases rename_eq_ok_iff.1 hmove with ⟨target, -, htarget, htargetNode, -, hmoveGrant, -⟩
        have hplace : tree.locateTarget path = .ok target :=
          locateTarget_of_directories (workingDirectory_put ..).symm
            (fun _ => directory_of_put hfile) htarget
        exact .inr ⟨directory, target, hcheck, hdirectory, hcreate, hgrant, hplace,
          fun hnode => htargetNode (directory_put hfile _ hnode), hmoveGrant⟩

/-- A replacement succeeds exactly when it has all that it needs. -/
theorem replaceFile_eq_ok_iff :
    (tree.replaceFile path text).1 = .ok () ↔
      ∃ directory target, CanReplace tree path text directory target := by
  constructor
  · intro hok
    rcases fails_or_canReplace tree path text with ⟨fault, hfails⟩ | hcan
    · rw [hfails] at hok
      cases hok
    · exact hcan
  · rintro ⟨directory, target, hcan⟩
    rw [hcan.replaceFile_eq]

/-- A replacement fails and leaves the tree as it was, or it puts the new contents at the place of
the path. -/
theorem replaceFile_cases (tree : FileTree) (path : Path) (text : Text) :
    (∃ fault, tree.replaceFile path text = (.error fault, tree)) ∨
      ∃ place, tree.locateTarget path = .ok place ∧ tree.node? place ≠ some .directory ∧
        tree.replaceFile path text = (.ok (), tree.put place (.file (encode text))) := by
  rcases fails_or_canReplace tree path text with hfails | ⟨directory, target, hcan⟩
  · exact .inl hfails
  · exact .inr ⟨target, hcan.target_eq, hcan.target_node, hcan.replaceFile_eq⟩

end Replacing

/-! ## Afterwards -/

/-- After a file is put at the place of a path the path still leads there, and only there something
has changed. -/
theorem put_file {path : Path} (hplace : tree.locateTarget path = .ok place)
    (hdirectory : tree.node? place ≠ some .directory) (contents : ByteArray) :
    (tree.put place (.file contents)).locate path = .ok place ∧
      (tree.put place (.file contents)).node? place = some (.file contents) ∧
      ∀ other, other ≠ place →
        (tree.put place (.file contents)).node? other = tree.node? other := by
  have hroot : place ≠ [] := ne_nil_of_node?_ne_directory hdirectory
  refine ⟨?_, ?_, ?_⟩
  · apply locate_of_locateTarget
    exact locateTarget_of_directories (workingDirectory_put ..)
      (fun _ => directory_put hdirectory _) hplace
  · rw [node?_put tree hroot, if_pos rfl]
  · intro other hother
    rw [node?_put tree hroot, if_neg hother]

section Afterwards

variable {path : Path} {text : Text} {directory target : Place}

/-- A replacement that fails leaves the tree as it was. -/
theorem replaceFile_eq_of_error {error : Path × FileFault}
    (h : (tree.replaceFile path text).1 = .error error) :
    tree.replaceFile path text = (.error error, tree) := by
  rcases tree.replaceFile_cases path text with ⟨fault, hfails⟩ | ⟨target, -, -, hreplace⟩
  · rw [hfails] at h ⊢
    rw [Except.error.inj h]
  · rw [hreplace] at h
    cases h

/-- After a replacement the file under the path holds the text. -/
theorem eq_encode_of_replaceFile {after : FileTree} {contents : ByteArray}
    (h : tree.replaceFile path text = (.ok (), after)) (hplace : after.locate path = .ok place)
    (hfile : after.node? place = some (.file contents)) : contents = encode text := by
  rcases tree.replaceFile_cases path text with
    ⟨fault, hfails⟩ | ⟨target, htarget, hdirectory, hreplace⟩
  · rw [hfails] at h
    cases h
  · rcases put_file htarget hdirectory (encode text) with ⟨hafter, htext, -⟩
    rcases (Prod.mk.inj (hreplace.symm.trans h)).2 with rfl
    rcases Except.ok.inj (hafter.symm.trans hplace) with rfl
    rw [htext] at hfile
    exact (Node.file.inj (Option.some.inj hfile)).symm

theorem locateDirectory_eq_ok_iff :
    tree.locateDirectory path = .ok place ↔
      tree.locate path = .ok place ∧ tree.node? place = some .directory := by
  rw [locateDirectory, Except.bind_eq_ok]
  constructor
  · rintro ⟨found, hfound, h⟩
    split at h
    · next hnode =>
      rcases Except.ok.inj h with rfl
      exact ⟨hfound, hnode⟩
    · exact absurd h Except.throw_ne_ok
    · exact absurd h Except.throw_ne_ok
  · rintro ⟨hplace, hnode⟩
    refine ⟨place, hplace, ?_⟩
    rw [hnode]
    rfl

/-- A file that was replaced can be replaced again. -/
theorem CanReplace.put (h : CanReplace tree path text directory target) (contents : ByteArray) :
    CanReplace (tree.put target (.file contents)) path text directory target := by
  have hdirectories : ∀ place, tree.node? place = some .directory →
      (tree.put target (.file contents)).node? place = some .directory :=
    fun _ => directory_put h.target_node _
  rcases locateDirectory_eq_ok_iff.1 h.directory_eq with ⟨hlocate, hnode⟩
  exact {
    check := h.check
    directory_eq := locateDirectory_eq_ok_iff.2
      ⟨locate_of_directories (workingDirectory_put ..) hdirectories hlocate,
        hdirectories directory hnode⟩
    create_eq := h.create_eq
    write_eq := h.write_eq
    target_eq := locateTarget_of_directories (workingDirectory_put ..) hdirectories h.target_eq
    target_node := by
      rw [node?_put tree (ne_nil_of_node?_ne_directory h.target_node), if_pos rfl]
      simp
    move_eq := h.move_eq }

/-- A text is read back from its bytes. -/
theorem readText_of_readBytes {tree : FileTree} {path : Path} {text : Text}
    (h : tree.readBytes path = .ok (encode text)) : tree.readText path = .ok text := by
  rw [readText, h]
  exact decode_encode text

/-- A text is as it was, unless a file is put at its place. -/
theorem readText_put (hdirectory : tree.node? place ≠ some .directory) (contents : ByteArray)
    (hplace : tree.locate path ≠ .ok place) (hread : tree.readText path = .ok text) :
    (tree.put place (.file contents)).readText path = .ok text := by
  simp only [readText, readBytes, Except.bind_eq_ok] at hread ⊢
  rcases hread with ⟨bytes, ⟨found, hfound, hbytes⟩, htext⟩
  have hne : found ≠ place := by
    rintro rfl
    exact hplace hfound
  refine ⟨bytes, ⟨found, ?_, ?_⟩, htext⟩
  · exact locate_of_directories (workingDirectory_put ..) (fun _ => directory_put hdirectory _)
      hfound
  · rw [node?_put tree (ne_nil_of_node?_ne_directory hdirectory), if_neg hne]
    exact hbytes

end Afterwards

end FileTree

end Tilewright
