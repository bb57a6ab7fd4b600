import Tilewright.CommandLine.Run
import Tilewright.CommandLine.Spelling
import Tilewright.Proofs.Verbosity

/-!
# The order and the spelling of options

What a command line says depends on its options alone: not on how each is spelled, and not on where
it stands. An option that stands there twice is a conflict, wherever that is.

* `Progress.readAll_write_append` is one option: however it is spelled, what was met before is
  settled first, then what the option says is added, and then the rest is read.
* `Progress.readAll_writeAll` is the whole command line: the settings are added from left to right.
* `Arguments.Says` holds for arguments that are exactly what settings say; it asks only which
  settings there are, so that their order does not count (`Arguments.Says.unique`).
* `Arguments.ofList_writeAll`: different options are read as what they say, in any order and any
  spelling, and a repeated one is a conflict.
-/

namespace Tilewright.CommandLine

namespace Setting

/-- The option that a setting belongs to. -/
def option : Setting → Named
  | .file key _ => .key key
  | .verbose => .flag .verbose

/-- Holds if every spelling can carry the setting: a path is not empty, and cannot be taken for an
option or for the equals sign behind a short name. -/
def Spellable : Setting → Prop
  | .file _ path => path ≠ [] ∧ path.head? ≠ some '-' ∧ path.head? ≠ some '='
  | .verbose => True

end Setting

/-! ## One option -/

namespace Progress

variable {progress : Progress} {key : Key} {path : Path}

theorem read_short (progress : Progress) (key : Key) :
    progress.read ['-', key.short] = progress.await key := by
  cases key <;> rfl

theorem read_shortJoined (progress : Progress) (hempty : path ≠ [])
    (hequals : path.head? ≠ some '=') :
    progress.read ('-' :: key.short :: path) = progress.attach key path := by
  cases path with
  | nil => exact absurd rfl hempty
  | cons c path =>
    have hc : c ≠ '=' := fun h => hequals (congrArg some h)
    cases key <;> simp [read, readShort, Key.short, short?, hc]

theorem read_shortEquals (progress : Progress) (key : Key) (path : Path) :
    progress.read ('-' :: key.short :: '=' :: path) = progress.attach key path := by
  cases key <;> rfl

theorem read_long (progress : Progress) (key : Key) :
    progress.read ('-' :: '-' :: key.long) = progress.await key := by
  cases key <;> rfl

theorem read_longEquals (progress : Progress) (key : Key) (path : Path) :
    progress.read ('-' :: '-' :: key.long ++ '=' :: path) = progress.attach key path := by
  cases key <;> rfl

theorem read_shortVerbose (progress : Progress) :
    progress.read "-v".toList = progress.raise .verbose := by
  show (progress.raise .verbose >>= fun raised => raised.readShort []) = _
  cases progress.raise .verbose <;> rfl

/-- The value of an option that waits for one is only noted. -/
theorem read_value (given : Arguments) (key : Key) (hdash : path.head? ≠ some '-') :
    read ⟨given, some (key, none)⟩ path = .ok ⟨given, some (key, some path)⟩ := by
  cases path with
  | nil => rfl
  | cons c path =>
    have hc : c ≠ '-' := fun h => hdash (congrArg some h)
    unfold read
    split
    · next h => exact absurd (List.cons.inj h).1 hc
    · next h => exact absurd (List.cons.inj h).1 hc
    · rfl

/-- The arguments of a path are its option and then the path, or both in one. -/
theorem write_file_cases (key : Key) (hpath : (Setting.file key path).Spellable)
    (spelling : Spelling) :
    (∃ name, (Setting.file key path).write spelling = [name, path] ∧ name ≠ "--".toList ∧
        ∀ progress : Progress, progress.read name = progress.await key) ∨
      ∃ argument, (Setting.file key path).write spelling = [argument] ∧ argument ≠ "--".toList ∧
        ∀ progress : Progress, progress.read argument = progress.attach key path := by
  rcases hpath with ⟨hempty, -, hequals⟩
  have hdash : key.short ≠ '-' := by cases key <;> decide
  have hlong : key.long ≠ [] := by cases key <;> decide
  cases spelling with
  | short => exact .inl ⟨_, rfl, by simp [hdash], fun progress => progress.read_short key⟩
  | shortJoined =>
    exact .inr ⟨_, rfl, by simp [hdash], fun progress => progress.read_shortJoined hempty hequals⟩
  | shortEquals =>
    exact .inr ⟨_, rfl, by simp [hdash], fun progress => progress.read_shortEquals key path⟩
  | long => exact .inl ⟨_, rfl, by simp [hlong], fun progress => progress.read_long key⟩
  | longEquals =>
    exact .inr ⟨_, rfl, by simp [hlong], fun progress => progress.read_longEquals key path⟩

/-- The flag for more detail has two spellings. -/
theorem write_verbose_eq (spelling : Spelling) :
    ∃ argument, Setting.verbose.write spelling = [argument] ∧ argument ≠ "--".toList ∧
      ∀ progress : Progress, progress.read argument = progress.raise .verbose := by
  have hshort : "-v".toList ≠ "--".toList := by decide
  have hlong : "--verbose".toList ≠ "--".toList := by decide
  cases spelling with
  | short => exact ⟨_, rfl, hshort, read_shortVerbose⟩
  | shortJoined => exact ⟨_, rfl, hshort, read_shortVerbose⟩
  | shortEquals => exact ⟨_, rfl, hshort, read_shortVerbose⟩
  | long => exact ⟨_, rfl, hlong, fun _ => rfl⟩
  | longEquals => exact ⟨_, rfl, hlong, fun _ => rfl⟩

/-- However an option is spelled, what was met before it is settled, what it says is added, and the
rest is read. The rest decides when the option itself is settled, but not to what it comes. -/
theorem readAll_write_append {setting : Setting} (hsetting : setting.Spellable)
    (spelling : Spelling) {rest : List Text} {next : Arguments → Except Usage Arguments}
    (hrest : ∀ progress : Progress, progress.readAll rest = progress.settle >>= next)
    (progress : Progress) :
    progress.readAll (setting.write spelling ++ rest) =
      progress.settle >>= fun given => setting.apply given >>= next := by
  cases setting with
  | file key path =>
    rcases write_file_cases key hsetting spelling with
      ⟨name, hwrite, hname, hread⟩ | ⟨argument, hwrite, hargument, hread⟩
    · -- the path is noted, and stored when the rest is read
      have hpath : path ≠ "--".toList := by
        rintro rfl
        exact hsetting.2.1 rfl
      rw [hwrite, List.cons_append, List.singleton_append, readAll_cons_of_ne hname, hread, await]
      cases progress.settle with
      | error usage => rfl
      | ok given =>
        show readAll ⟨given, some (key, none)⟩ (path :: rest) = _
        rw [readAll_cons_of_ne hpath, read_value given key hsetting.2.1]
        exact hrest ⟨given, some (key, some path)⟩
    · rw [hwrite, List.singleton_append, readAll_cons_of_ne hargument, hread, attach]
      cases progress.settle with
      | error usage => rfl
      | ok given =>
        show ((given.store key path >>= fun stored => pure ⟨stored, none⟩) >>=
          fun progress : Progress => progress.readAll rest) = given.store key path >>= next
        cases given.store key path with
        | error usage => rfl
        | ok stored => exact hrest ⟨stored, none⟩
  | verbose =>
    rcases write_verbose_eq spelling with ⟨argument, hwrite, hargument, hread⟩
    rw [hwrite, List.singleton_append, readAll_cons_of_ne hargument, hread, raise]
    cases progress.settle with
    | error usage => rfl
    | ok given =>
      show ((if given.verbose then throw .argumentConflict
          else pure ⟨{ given with verbose := true }, none⟩) >>=
        fun progress : Progress => progress.readAll rest) = Setting.verbose.apply given >>= next
      unfold Setting.apply
      split
      · rfl
      · exact hrest ⟨{ given with verbose := true }, none⟩

/-- Settings are added from left to right, however they are spelled. -/
theorem readAll_writeAll {settings : List (Setting × Spelling)}
    (hsettings : ∀ entry ∈ settings, entry.1.Spellable) (progress : Progress) :
    progress.readAll (Setting.writeAll settings) =
      progress.settle >>= fun given =>
        (settings.map Prod.fst).foldlM (fun given setting => setting.apply given) given := by
  induction settings generalizing progress with
  | nil =>
    show progress.settle = progress.settle >>= pure
    cases progress.settle <;> rfl
  | cons entry settings ih =>
    rw [List.forall_mem_cons] at hsettings
    have hstep := readAll_write_append hsettings.1 entry.2 (ih hsettings.2) progress
    simpa [Setting.writeAll, List.foldlM_cons] using hstep

end Progress

/-! ## What settings say -/

namespace Arguments

variable {given other : Arguments} {before settings : List Setting} {setting : Setting}

/-- The arguments are exactly what the settings say. -/
def Says (given : Arguments) (settings : List Setting) : Prop :=
  (∀ key path, given.get key = some path ↔ .file key path ∈ settings) ∧
    (given.verbose = true ↔ .verbose ∈ settings)

theorem says_nil : Says {} [] := by
  constructor
  · intro key path
    cases key <;> simp [get]
  · simp

/-- Settings say one thing only. -/
theorem Says.unique (h : given.Says settings) (hother : other.Says settings) : given = other := by
  have hget : ∀ key, given.get key = other.get key := by
    intro key
    apply Option.ext
    intro path
    rw [h.1, hother.1]
  have hverbose : given.verbose = other.verbose := by
    rw [Bool.eq_iff_iff, h.2, hother.2]
  rcases given with ⟨config, data, template, output, verbose⟩
  rcases other with ⟨_, _, _, _, _⟩
  rw [mk.injEq]
  exact ⟨hget .config, hget .data, hget .template, hget .output, hverbose⟩

/-- What settings say does not depend on their order. -/
theorem Says.of_perm {others : List Setting} (h : given.Says settings)
    (hperm : others.Perm settings) : given.Says others := by
  constructor
  · intro key path
    rw [h.1, hperm.mem_iff]
  · rw [h.2, hperm.mem_iff]

theorem get_set (given : Arguments) (key other : Key) (path : Path) :
    (given.set key path).get other = if other = key then some path else given.get other := by
  cases key <;> cases other <;> rfl

theorem verbose_set (given : Arguments) (key : Key) (path : Path) :
    (given.set key path).verbose = given.verbose := by
  cases key <;> rfl

/-- A file was given exactly if some setting before was about its option. -/
theorem Says.isSome_get_iff (h : given.Says before) (key : Key) :
    (given.get key).isSome = true ↔ Named.key key ∈ before.map Setting.option := by
  rw [Option.isSome_iff_exists, List.mem_map]
  constructor
  · rintro ⟨path, hpath⟩
    exact ⟨.file key path, (h.1 key path).1 hpath, rfl⟩
  · rintro ⟨setting, hsetting, hoption⟩
    cases setting with
    | file found path =>
      rcases Named.key.inj hoption with rfl
      exact ⟨path, (h.1 found path).2 hsetting⟩
    | verbose => cases hoption

theorem Says.verbose_iff (h : given.Says before) :
    given.verbose = true ↔ Named.flag .verbose ∈ before.map Setting.option := by
  rw [h.2, List.mem_map]
  constructor
  · intro hverbose
    exact ⟨.verbose, hverbose, rfl⟩
  · rintro ⟨setting, hsetting, hoption⟩
    cases setting with
    | file found path => cases hoption
    | verbose => exact hsetting

/-- A setting of a new option is added to what was said before. -/
theorem Says.apply_of_new (h : given.Says before) (hsetting : setting.Spellable)
    (hnew : setting.option ∉ before.map Setting.option) :
    ∃ after, setting.apply given = .ok after ∧ after.Says (before ++ [setting]) := by
  cases setting with
  | file key path =>
    have hfree : given.get key = none := by
      rw [← Option.not_isSome_iff_eq_none, h.isSome_get_iff]
      exact hnew
    refine ⟨given.set key path, ?_, ?_, ?_⟩
    · simp [Setting.apply, store, hfree, hsetting.1]
    · intro other found
      rw [get_set, List.mem_append, List.mem_singleton, Setting.file.injEq, ← h.1]
      by_cases hkey : other = key
      · simp [hkey, hfree, eq_comm]
      · simp [hkey]
    · rw [verbose_set, h.2]
      simp
  | verbose =>
    have hquiet : ¬ given.verbose = true := by
      rw [h.verbose_iff]
      exact hnew
    refine ⟨{ given with verbose := true }, if_neg hquiet, ?_, ?_⟩
    · intro key path
      rw [List.mem_append, List.mem_singleton, ← h.1]
      cases key <;> simp [get]
    · simp

/-- A setting of an option that was given before is a conflict. -/
theorem Says.apply_of_repeated (h : given.Says before)
    (hrepeated : setting.option ∈ before.map Setting.option) :
    setting.apply given = .error .argumentConflict := by
  cases setting with
  | file key path => exact if_pos ((h.isSome_get_iff key).2 hrepeated)
  | verbose => exact if_pos (h.verbose_iff.2 hrepeated)

/-- Settings of different options are all added. -/
theorem Says.foldlM_of_nodup (h : given.Says before) (hsettings : ∀ s ∈ settings, s.Spellable)
    (hnodup : ((before ++ settings).map Setting.option).Nodup) :
    ∃ after, settings.foldlM (fun given setting => setting.apply given) given = .ok after ∧
      after.Says (before ++ settings) := by
  induction settings generalizing given before with
  | nil => exact ⟨given, rfl, by rwa [List.append_nil]⟩
  | cons setting settings ih =>
    rw [List.forall_mem_cons] at hsettings
    have hnew : setting.option ∉ before.map Setting.option := by
      intro hmem
      rw [List.map_append, List.map_cons, List.nodup_append] at hnodup
      exact hnodup.2.2 _ hmem _ List.mem_cons_self rfl
    rcases h.apply_of_new hsettings.1 hnew with ⟨next, hnext, hnextAll⟩
    rw [List.append_cons] at hnodup ⊢
    rcases ih hnextAll hsettings.2 hnodup with ⟨after, hafter, hall⟩
    refine ⟨after, ?_, hall⟩
    rw [List.foldlM_cons, hnext]
    exact hafter

/-- The first setting of an option that was given before is where the reading stops. -/
theorem Says.foldlM_of_not_nodup (h : given.Says before) (hsettings : ∀ s ∈ settings, s.Spellable)
    (hbefore : (before.map Setting.option).Nodup)
    (hrepeated : ¬ ((before ++ settings).map Setting.option).Nodup) :
    settings.foldlM (fun given setting => setting.apply given) given =
      .error .argumentConflict := by
  induction settings generalizing given before with
  | nil => exact absurd hbefore (by rwa [List.append_nil] at hrepeated)
  | cons setting settings ih =>
    rw [List.forall_mem_cons] at hsettings
    rw [List.foldlM_cons]
    by_cases hmem : setting.option ∈ before.map Setting.option
    · rw [h.apply_of_repeated hmem]
      rfl
    · rcases h.apply_of_new hsettings.1 hmem with ⟨next, hnext, hnextAll⟩
      rw [hnext]
      apply ih hnextAll hsettings.2
      · rw [List.map_append, List.map_singleton, List.nodup_append]
        refine ⟨hbefore, by simp, ?_⟩
        rintro option hoption _ hlast rfl
        exact hmem (List.mem_singleton.1 hlast ▸ hoption)
      · rwa [← List.append_cons]

/-! ## Command lines -/

/-- **The order and the spelling of options do not matter.** A command line of different options is
read as what they say, and every other command line that gives the same settings, in any order and
however they are spelled, is read in the same way, resolves to the same configuration and runs in
the same way. A command line that repeats an option is a conflict, wherever the repetition
stands. -/
theorem ofList_writeAll {settings : List (Setting × Spelling)}
    (hsettings : ∀ entry ∈ settings, entry.1.Spellable) :
    (((settings.map Prod.fst).map Setting.option).Nodup →
        ∃ given : Arguments, given.Says (settings.map Prod.fst) ∧
          ofList (Setting.writeAll settings) = .ok given ∧
          ∀ others : List (Setting × Spelling),
            (others.map Prod.fst).Perm (settings.map Prod.fst) →
            ofList (Setting.writeAll others) = .ok given ∧
              ∀ tree : FileTree,
                (ofList (Setting.writeAll others)).map (fun given => given.resolve tree.readText) =
                    (ofList (Setting.writeAll settings)).map
                      (fun given => given.resolve tree.readText) ∧
                  run (Setting.writeAll others) tree = run (Setting.writeAll settings) tree) ∧
      (¬ ((settings.map Prod.fst).map Setting.option).Nodup →
        ofList (Setting.writeAll settings) = .error .argumentConflict) := by
  have hread : ∀ entries : List (Setting × Spelling), (∀ entry ∈ entries, entry.1.Spellable) →
      ofList (Setting.writeAll entries) =
        (entries.map Prod.fst).foldlM (fun given setting => setting.apply given) {} :=
    fun entries hentries => Progress.readAll_writeAll hentries {}
  have hspellable : ∀ setting ∈ settings.map Prod.fst, setting.Spellable := by
    intro setting hmem
    rcases List.mem_map.1 hmem with ⟨entry, hentry, rfl⟩
    exact hsettings entry hentry
  refine ⟨?different, ?repeated⟩
  case different =>
    intro hnodup
    rcases says_nil.foldlM_of_nodup hspellable hnodup with ⟨given, hgiven, hstate⟩
    refine ⟨given, hstate, (hread settings hsettings).trans hgiven, ?_⟩
    intro others hperm
    have hothers : ∀ entry ∈ others, entry.1.Spellable := fun entry hentry =>
      hspellable _ (hperm.subset (List.mem_map_of_mem hentry))
    have hotherNodup := (hperm.map Setting.option).nodup_iff.2 hnodup
    rcases says_nil.foldlM_of_nodup
      (fun setting hmem => hspellable setting (hperm.subset hmem)) hotherNodup with
      ⟨found, hfound, hfoundSays⟩
    -- both command lines are read as what the same settings say
    have hsame : found = given := hfoundSays.unique (hstate.of_perm hperm)
    have hboth : ofList (Setting.writeAll others) = ofList (Setting.writeAll settings) := by
      rw [hread others hothers, hread settings hsettings, hfound, hgiven, hsame]
    refine ⟨?_, fun tree => ⟨by rw [hboth], by unfold run; rw [hboth]⟩⟩
    rw [hread others hothers, hfound, hsame]
  case repeated =>
    intro hrepeated
    rw [hread settings hsettings]
    exact says_nil.foldlM_of_not_nodup hspellable List.nodup_nil hrepeated

/-- Three settings. A value may look like the name of another option, and hold equals signs. -/
def someSettings : List (Setting × Spelling) :=
  [(.file .data "output=x".toList, .shortJoined), (.verbose, .long),
    (.file .output "d".toList, .short)]

/-- The same settings in another order and other spellings. -/
def sameSettings : List (Setting × Spelling) :=
  [(.file .output "d".toList, .longEquals), (.file .data "output=x".toList, .long),
    (.verbose, .short)]

theorem ofList_someSettings :
    Setting.writeAll someSettings = ["-doutput=x", "--verbose", "-o", "d"].map String.toList ∧
      Setting.writeAll sameSettings =
        ["--output=d", "--data", "output=x", "-v"].map String.toList ∧
      ofList (Setting.writeAll sameSettings) =
        .ok { data := "output=x".toList, output := "d".toList, verbose := true } ∧
      ofList (Setting.writeAll (someSettings ++ sameSettings)) = .error .argumentConflict := by
  have hsome : ∀ entry ∈ someSettings, entry.1.Spellable := by
    simp [someSettings, Setting.Spellable]
  have hall : ∀ entry ∈ someSettings ++ sameSettings, entry.1.Spellable := by
    simp [someSettings, sameSettings, Setting.Spellable]
  rcases (ofList_writeAll hsome).1 (by decide) with ⟨given, -, hgiven, hothers⟩
  have hread : given = { data := "output=x".toList, output := "d".toList, verbose := true } := by
    have hlist : ofList (Setting.writeAll someSettings) =
        .ok { data := "output=x".toList, output := "d".toList, verbose := true } := by decide
    rw [hgiven] at hlist
    exact Except.ok.inj hlist
  refine ⟨by decide, by decide, ?_, (ofList_writeAll hall).2 (by decide)⟩
  rw [← hread]
  exact (hothers sameSettings (by decide)).1

end Arguments

end Tilewright.CommandLine
