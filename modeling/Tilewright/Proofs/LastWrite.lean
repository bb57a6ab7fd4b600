import Tilewright.Proofs.Pieces
import Tilewright.Proofs.Replacement

/-!
# Replacing one file, and one after another

A replacement changes the file under its path, or nothing at all. So after any number of
replacements each file holds what the last one that succeeded for it has put there.

* `FileTree.TakesTemporary` says that a temporary file can be made in a directory. It decides which
  path an error is about (`FileTree.path_of_replaceFile_error`).
* `Path.directory_eq_self_iff`: only the path of a single dot is its own directory.
* `FileTree.SameDirectories` is what a replacement keeps; where a path leads depends on nothing else
  (`FileTree.SameDirectories.locate_eq_ok_iff`).
* `FileTree.replaceFiles` replaces files one after the other, and `FileTree.node?_replaceFiles` says
  what stands at a place then.
* `FileTree.replaceFile_or_nothing`: one file is replaced, or nothing, and the last success counts.
* `FileTree.replaceFile_dot_about_directory`: at the single dot an error about the directory does not
  mean that no temporary file can be made there.
-/

namespace Tilewright

/-! ## Directories of paths -/

namespace Path

theorem parts_ne_nil (path : Path) : parts path ≠ [] := by
  cases path with
  | nil => simp [parts]
  | cons c rest =>
    rw [parts]
    split <;> simp

/-- Cutting a path into parts loses nothing but the slashes between them. -/
theorem joinWith_parts (path : Path) : Text.joinWith ['/'] (parts path) = path := by
  induction path with
  | nil => rfl
  | cons c rest ih =>
    rw [parts]
    split
    · next hslash =>
      rw [Text.joinWith_nil_cons _ (parts_ne_nil rest), ih, hslash]
      rfl
    · rw [Text.joinWith_attach _ _ (parts_ne_nil rest), ih]

/-- What is dropped holds a part that leads somewhere. -/
theorem exists_of_dropLastPart_eq_some {all before : List Text}
    (h : dropLastPart all = some before) :
    ∃ behind last, all = before ++ behind ∧ last ∈ behind ∧ last ≠ [] := by
  unfold dropLastPart at h
  split at h
  · cases h
  · next last front hlast =>
    rcases Option.some.inj h with rfl
    have hne : last ≠ [] := by
      rintro rfl
      have hhead := List.head?_dropWhile_not isIdle all.reverse
      simp [hlast, isIdle] at hhead
    have hall := congrArg List.reverse
      (List.takeWhile_append_dropWhile (p := isIdle) (l := all.reverse))
    have hfront := List.takeWhile_append_dropWhile (p := isIdle) (l := front)
    rw [hlast, List.reverse_append, List.reverse_reverse, List.reverse_cons, List.append_assoc,
      ← hfront, List.reverse_append, List.append_assoc] at hall
    exact ⟨_, last, hall.symm, by simp, hne⟩

/-- Parts that lead somewhere make a path longer. -/
theorem length_joinWith_lt {before behind : List Text} {last : Text} (hlast : last ∈ behind)
    (hne : last ≠ []) :
    (Text.joinWith ['/'] before).length < (Text.joinWith ['/'] (before ++ behind)).length := by
  have hlength : 0 < last.length := List.length_pos_iff.2 hne
  have hpiece : last <:+: Text.joinWith ['/'] behind := Text.infix_joinWith_of_mem hlast
  cases behind with
  | nil => cases hlast
  | cons first more =>
    cases before with
    | nil => exact Nat.lt_of_lt_of_le hlength (List.IsInfix.length_le hpiece)
    | cons piece before =>
      rw [List.cons_append, Text.joinWith_cons, Text.joinWith_cons, List.flatMap_append,
        List.flatMap_cons]
      simp only [List.length_append, List.length_cons]
      omega

/-- A parent is shorter than its path. -/
theorem length_parent?_lt {path parent : Path} (h : parent? path = some parent) :
    parent.length < path.length := by
  have hjoin := joinWith_parts path
  unfold parent? at h
  split at h
  · next first more hparts =>
    -- a slash in front stays
    rcases Option.map_eq_some_iff.1 h with ⟨before, hbefore, rfl⟩
    rcases exists_of_dropLastPart_eq_some hbefore with ⟨behind, last, hall, hlast, hne⟩
    rw [hparts, hall, Text.joinWith_nil_cons _ (by simp [← hall])] at hjoin
    have hshorter : (Text.joinWith ['/'] before).length <
        (Text.joinWith ['/'] (before ++ behind)).length := length_joinWith_lt hlast hne
    rw [← hjoin, List.length_cons, List.length_append, List.length_singleton]
    omega
  · next more hparts =>
    cases hmore : dropLastPart more with
    | none =>
      rw [hmore] at h
      rw [← Option.some.inj h, ← hjoin, hparts, Text.joinWith_cons]
      simp
    | some before =>
      rw [hmore] at h
      rcases exists_of_dropLastPart_eq_some hmore with ⟨behind, last, hall, hlast, hne⟩
      rw [← Option.some.inj h, ← hjoin, hparts, hall, ← List.cons_append]
      exact length_joinWith_lt hlast hne
  · rcases Option.map_eq_some_iff.1 h with ⟨before, hbefore, rfl⟩
    rcases exists_of_dropLastPart_eq_some hbefore with ⟨behind, last, hall, hlast, hne⟩
    rw [← hjoin, hall]
    exact length_joinWith_lt hlast hne

/-- Only the path of a single dot is its own directory. -/
theorem directory_eq_self_iff {path : Path} : directory path = path ↔ path = ['.'] := by
  constructor
  · intro h
    unfold directory at h
    split at h
    · exact h.symm
    · exact h.symm
    · next parent _ hparent =>
      have hshorter := length_parent?_lt hparent
      rw [h] at hshorter
      exact absurd hshorter (Nat.lt_irrefl _)
  · rintro rfl
    rfl

end Path

namespace FileTree

variable {tree other after : FileTree} {path : Path} {text : Text}

/-! ## One file -/

/-- A temporary file can be made in a directory: its path can be said and leads to a directory, and
the system lets a file be made there. -/
def TakesTemporary (tree : FileTree) (directory : Path) : Prop :=
  checkTemporary ('/' :: Text.joinWith ['/'] tree.workingDirectory) directory = .ok () ∧
    ∃ place, tree.locate directory = .ok place ∧ tree.node? place = some .directory ∧
      tree.refusals.create place = none

theorem takesTemporary_iff {directory : Path} :
    tree.TakesTemporary directory ↔ ∃ made, tree.createTemporary directory = .ok made := by
  constructor
  · rintro ⟨hcheck, place, hplace, hnode, hcreate⟩
    have hdirectory := locateDirectory_eq_ok_iff.2 ⟨hplace, hnode⟩
    exact ⟨_, createTemporary_eq_ok_iff.2 ⟨place, hcheck, hdirectory, hcreate, rfl, rfl⟩⟩
  · rintro ⟨⟨temporary, made⟩, hmake⟩
    rcases createTemporary_eq_ok_iff.1 hmake with ⟨place, hcheck, hdirectory, hcreate, -, -⟩
    rcases locateDirectory_eq_ok_iff.1 hdirectory with ⟨hplace, hnode⟩
    exact ⟨hcheck, place, hplace, hnode, hcreate⟩

/-- An error is about the directory if no temporary file can be made there, and about the path
itself otherwise. -/
theorem path_of_replaceFile_error {about : Path} {fault : FileFault}
    (h : (tree.replaceFile path text).1 = .error (about, fault)) :
    (tree.TakesTemporary (Path.directory path) → about = path) ∧
      (¬ tree.TakesTemporary (Path.directory path) → about = Path.directory path) := by
  rw [takesTemporary_iff]
  unfold replaceFile at h
  cases hmake : tree.createTemporary (Path.directory path) with
  | error cause =>
    rw [hmake] at h
    refine ⟨fun hmade => ?_, fun _ => ?_⟩
    · rcases hmade with ⟨made, hmade⟩
      cases hmade
    · exact (Prod.mk.inj (Except.error.inj h)).1.symm
  | ok made =>
    rcases made with ⟨temporary, made⟩
    rw [hmake] at h
    refine ⟨fun _ => ?_, fun hnone => absurd ⟨_, rfl⟩ hnone⟩
    dsimp only at h
    split at h
    · exact (Prod.mk.inj (Except.error.inj h)).1.symm
    · split at h
      · exact (Prod.mk.inj (Except.error.inj h)).1.symm
      · cases h

/-! ## What stays -/

/-- Both trees have the same directories, and the same way of looking at them. -/
structure SameDirectories (tree other : FileTree) : Prop where
  workingDirectory : other.workingDirectory = tree.workingDirectory
  refusals : other.refusals = tree.refusals
  directory_iff : ∀ place, other.node? place = some .directory ↔ tree.node? place = some .directory

theorem SameDirectories.refl (tree : FileTree) : SameDirectories tree tree :=
  ⟨rfl, rfl, fun _ => Iff.rfl⟩

theorem SameDirectories.trans (h : SameDirectories tree other)
    (hafter : SameDirectories other after) :
    SameDirectories tree after where
  workingDirectory := hafter.workingDirectory.trans h.workingDirectory
  refusals := hafter.refusals.trans h.refusals
  directory_iff place := (hafter.directory_iff place).trans (h.directory_iff place)

/-- A path leads to the same place in both trees, or nowhere. -/
theorem SameDirectories.locate_eq_ok_iff (h : SameDirectories tree other) (path : Path)
    (place : Place) : other.locate path = .ok place ↔ tree.locate path = .ok place := by
  constructor
  · exact locate_of_directories h.workingDirectory.symm fun place => (h.directory_iff place).1
  · exact locate_of_directories h.workingDirectory fun place => (h.directory_iff place).2

/-- A file that is put where no directory stands leaves the directories. -/
theorem sameDirectories_put {place : Place} (h : tree.node? place ≠ some .directory)
    (contents : ByteArray) : SameDirectories tree (tree.put place (.file contents)) where
  workingDirectory := rfl
  refusals := rfl
  directory_iff _ := ⟨directory_of_put h, directory_put h _⟩

/-- All that one replacement can do: it succeeds for a place and puts the contents there, and at
every other place, or when it fails, all stays. -/
theorem replaceFile_step (tree : FileTree) (path : Path) (text : Text) :
    SameDirectories tree (tree.replaceFile path text).2 ∧
      ∀ place,
        ((tree.replaceFile path text).1 = .ok () ∧ tree.locate path = .ok place →
          (tree.replaceFile path text).2.node? place = some (.file (encode text))) ∧
        (¬ ((tree.replaceFile path text).1 = .ok () ∧ tree.locate path = .ok place) →
          (tree.replaceFile path text).2.node? place = tree.node? place) := by
  rcases tree.replaceFile_cases path text with
    ⟨fault, hreplace⟩ | ⟨target, htarget, hnode, hreplace⟩
  · rw [hreplace]
    refine ⟨.refl tree, fun place => ⟨?_, fun _ => rfl⟩⟩
    rintro ⟨hok, -⟩
    cases hok
  · rw [hreplace]
    rcases put_file htarget hnode (encode text) with ⟨-, hhere, helsewhere⟩
    have hlocate := locate_of_locateTarget htarget
    refine ⟨sameDirectories_put hnode _, fun place => ⟨?_, ?_⟩⟩
    · rintro ⟨-, hplace⟩
      rw [hlocate] at hplace
      rw [← Except.ok.inj hplace]
      exact hhere
    · intro hother
      apply helsewhere
      rintro rfl
      exact hother ⟨rfl, hlocate⟩

/-! ## One after another -/

/-- A replacement that was tried: what was to be written where, and what came of it. -/
structure Attempt where
  path : Path
  text : Text
  result : Except (Path × FileFault) Unit

/-- Replaces files one after the other, each in the tree that the one before it left. -/
def replaceFiles : List (Path × Text) → FileTree → List Attempt × FileTree
  | [], tree => ([], tree)
  | (path, text) :: calls, tree =>
    let next := tree.replaceFile path text
    let rest := replaceFiles calls next.2
    (⟨path, text, next.1⟩ :: rest.1, rest.2)

/-- The attempt succeeded, and its path leads to the place. -/
def Attempt.PutAt (tree : FileTree) (place : Place) (attempt : Attempt) : Prop :=
  attempt.result = .ok () ∧ tree.locate attempt.path = .ok place

theorem SameDirectories.putAt_iff (h : SameDirectories tree other) (place : Place)
    (attempt : Attempt) : attempt.PutAt other place ↔ attempt.PutAt tree place := by
  unfold Attempt.PutAt
  rw [h.locate_eq_ok_iff]

/-- Where no attempt succeeded, all is as it was. -/
theorem node?_replaceFiles_of_forall {calls : List (Path × Text)} {place : Place}
    (h : ∀ attempt ∈ (replaceFiles calls tree).1, ¬ attempt.PutAt tree place) :
    (replaceFiles calls tree).2.node? place = tree.node? place := by
  induction calls generalizing tree with
  | nil => rfl
  | cons call calls ih =>
    rcases tree.replaceFile_step call.1 call.2 with ⟨hsame, hstep⟩
    have hfirst := (hstep place).2 (h _ List.mem_cons_self)
    rw [← hfirst]
    apply ih
    intro attempt hattempt hput
    exact h attempt (List.mem_cons_of_mem _ hattempt) ((hsame.putAt_iff place attempt).1 hput)

/-- Where an attempt succeeded and none after it, its contents stand. -/
theorem node?_replaceFiles {calls : List (Path × Text)} {place : Place}
    {before behind : List Attempt} {last : Attempt}
    (hattempts : (replaceFiles calls tree).1 = before ++ last :: behind)
    (hlast : last.PutAt tree place) (hbehind : ∀ later ∈ behind, ¬ later.PutAt tree place) :
    (replaceFiles calls tree).2.node? place = some (.file (encode last.text)) := by
  induction calls generalizing tree before with
  | nil => exact absurd hattempts (by simp [replaceFiles])
  | cons call calls ih =>
    rcases tree.replaceFile_step call.1 call.2 with ⟨hsame, hstep⟩
    cases before with
    | nil =>
      -- the first attempt is the last that succeeded
      rcases List.cons.inj hattempts with ⟨rfl, rfl⟩
      rw [← (hstep place).1 hlast]
      show (replaceFiles calls (tree.replaceFile call.1 call.2).2).2.node? place = _
      apply node?_replaceFiles_of_forall
      intro attempt hattempt hput
      exact hbehind attempt hattempt ((hsame.putAt_iff place attempt).1 hput)
    | cons first before =>
      have hrest := (List.cons.inj hattempts).2
      apply ih hrest
      · exact (hsame.putAt_iff place last).2 hlast
      · intro later hlater hput
        exact hbehind later hlater ((hsame.putAt_iff place later).1 hput)

/-- **A replacement replaces one file or does nothing.** If it succeeds then its path leads to the
file, which holds the bytes of the text, and every other place is as it was, so that no temporary
file is left. If it fails then the whole tree is as it was, and the error is about the directory of
the path if no temporary file can be made there, and about the path itself otherwise. For every path
but the single dot, which alone is its own directory, the error is about the directory exactly when
no temporary file can be made there. A replacement succeeds exactly when it has all that it needs.
After any number of replacements each place holds the contents of the last one that succeeded for
it, or what it held before if none did. -/
theorem replaceFile_or_nothing (tree : FileTree) :
    (∀ (path : Path) (text : Text),
      ((tree.replaceFile path text).1 = .ok () ↔
        ∃ directory target, tree.CanReplace path text directory target) ∧
      match tree.replaceFile path text with
      | (.ok _, after) =>
        ∃ place, tree.locate path = .ok place ∧ after.locate path = .ok place ∧
          after.node? place = some (.file (encode text)) ∧
          (∀ other, other = place ∨ after.node? other = tree.node? other) ∧
          (∀ other found, after.locate other = .ok found ↔ tree.locate other = .ok found) ∧
          after.workingDirectory = tree.workingDirectory ∧ after.refusals = tree.refusals
      | (.error (about, _), after) =>
        after = tree ∧
          (tree.TakesTemporary (Path.directory path) → about = path) ∧
          (¬ tree.TakesTemporary (Path.directory path) → about = Path.directory path) ∧
          (path ≠ ['.'] →
            (about = Path.directory path ↔ ¬ tree.TakesTemporary (Path.directory path)))) ∧
      ∀ calls : List (Path × Text),
        (replaceFiles calls tree).1.map (fun attempt => (attempt.path, attempt.text)) = calls ∧
        ∀ place,
          (∀ before last behind, (replaceFiles calls tree).1 = before ++ last :: behind →
            last.PutAt tree place → (∀ later ∈ behind, ¬ later.PutAt tree place) →
            (replaceFiles calls tree).2.node? place = some (.file (encode last.text))) ∧
          ((∀ attempt ∈ (replaceFiles calls tree).1, ¬ attempt.PutAt tree place) →
            (replaceFiles calls tree).2.node? place = tree.node? place) := by
  refine ⟨fun path text => ⟨replaceFile_eq_ok_iff, ?single⟩, fun calls => ⟨?asked, ?sequence⟩⟩
  case single =>
    rcases tree.replaceFile_cases path text with
      ⟨⟨about, fault⟩, hreplace⟩ | ⟨place, htarget, hnode, hreplace⟩
    · have habout := path_of_replaceFile_error (congrArg Prod.fst hreplace)
      rw [hreplace]
      refine ⟨rfl, habout.1, habout.2, fun hdot => ⟨?_, habout.2⟩⟩
      intro hdirectory htakes
      rw [habout.1 htakes] at hdirectory
      exact hdot (Path.directory_eq_self_iff.1 hdirectory.symm)
    · rw [hreplace]
      rcases put_file htarget hnode (encode text) with ⟨hlocate, hhere, helsewhere⟩
      refine ⟨place, locate_of_locateTarget htarget, hlocate, hhere, ?_, ?_, rfl, rfl⟩
      · exact fun other => or_iff_not_imp_left.2 (helsewhere other)
      · exact (sameDirectories_put hnode _).locate_eq_ok_iff
  case asked =>
    induction calls generalizing tree with
    | nil => rfl
    | cons call calls ih => exact congrArg (call :: ·) (ih (tree.replaceFile call.1 call.2).2)
  case sequence =>
    intro place
    exact ⟨fun before last behind hattempts hlast hbehind =>
      node?_replaceFiles hattempts hlast hbehind, node?_replaceFiles_of_forall⟩

/-- A working directory with one file. -/
def oldTree : FileTree :=
  (ofWorkingDirectory ["w".toList]).addFile "old".toList (encode "x".toList)

/-- A single dot is the directory in which the temporary file is made, and it cannot be replaced. The
error is about this directory although it takes a temporary file. -/
theorem replaceFile_dot_about_directory :
    Path.directory ['.'] = ['.'] ∧ oldTree.TakesTemporary (Path.directory ['.']) ∧
      oldTree.replaceFile ['.'] "b".toList = (.error (['.'], .busy), oldTree) ∧
      ¬ ∀ about fault, (oldTree.replaceFile ['.'] "b".toList).1 = .error (about, fault) →
        (about = Path.directory ['.'] ↔ ¬ oldTree.TakesTemporary (Path.directory ['.'])) := by
  have htakes : oldTree.TakesTemporary (Path.directory ['.']) :=
    ⟨rfl, ["w".toList], rfl, rfl, rfl⟩
  have hreplace : oldTree.replaceFile ['.'] "b".toList = (.error (['.'], .busy), oldTree) := rfl
  refine ⟨rfl, htakes, hreplace, ?_⟩
  intro hexactly
  exact (hexactly ['.'] .busy (congrArg Prod.fst hreplace)).1 rfl htakes

/-- A new file is written twice, and in between something is to stand below a file. -/
def someCalls : List (Path × Text) :=
  [("new".toList, "a".toList), ("old/x".toList, "b".toList), (".//new".toList, "c".toList)]

theorem replaceFiles_someCalls :
    (oldTree.replaceFile "old/x".toList "b".toList).1 = .error ("old".toList, .notDirectory) ∧
      ¬ oldTree.TakesTemporary "old".toList ∧
      (replaceFiles someCalls oldTree).2.node? ["w".toList, "new".toList] =
        some (.file (encode "c".toList)) ∧
      (replaceFiles someCalls oldTree).2.node? ["w".toList, "old".toList] =
        some (.file (encode "x".toList)) := by
  rcases replaceFile_or_nothing oldTree with ⟨hsingle, hsequence⟩
  have hreplace : oldTree.replaceFile "old/x".toList "b".toList =
      (.error ("old".toList, .notDirectory), oldTree) := rfl
  have herror := (hsingle "old/x".toList "b".toList).2
  rw [hreplace] at herror
  have hattempts : (replaceFiles someCalls oldTree).1 =
      [⟨"new".toList, "a".toList, .ok ()⟩,
        ⟨"old/x".toList, "b".toList, .error ("old".toList, .notDirectory)⟩] ++
      ⟨".//new".toList, "c".toList, .ok ()⟩ :: [] := rfl
  refine ⟨congrArg Prod.fst hreplace, ?_, ?_, ?_⟩
  · exact (herror.2.2.2 (by decide)).1 rfl
  · exact ((hsequence someCalls).2 _).1 _ _ _ hattempts ⟨rfl, rfl⟩ (by simp)
  · apply ((hsequence someCalls).2 _).2
    rw [hattempts]
    intro attempt hattempt hput
    simp only [List.cons_append, List.nil_append, List.mem_cons, List.not_mem_nil,
      or_false] at hattempt
    rcases hattempt with rfl | rfl | rfl
    · exact absurd hput.2 (by decide)
    · exact absurd hput.1 (by simp)
    · exact absurd hput.2 (by decide)

end FileTree

end Tilewright
