import Tilewright.CommandLine.Run
import Tilewright.Proofs.AllOrNothing

/-!
# The merged configuration

The configuration of a run is made from a file and from the arguments. Whichever way it is made, it
has been checked, or needs no check.

* `Config.compile_eq_config_error_iff`: a run rejects its configuration exactly when the check does.
* `Config.validate_of_load`: what a file gives has been checked, and the check is about the sentinels
  alone.
* `Arguments.resolve_of_config` and `Arguments.resolve_of_not_config` say what the arguments give,
  with a configuration file and without one.
* `Arguments.resolve_merges`: the settings come from where they should, and are valid.
-/

namespace Tilewright

/-! ## Rejected configurations -/

theorem fault?_eq_some_iff {ε α : Type} {result : Except ε α} {error : ε} :
    fault? result = some error ↔ result = .error error := by
  cases result <;> simp [fault?]

theorem mem_of_firstOf_eq_some {obstacles : List (Option Error)} {error : Error}
    (h : firstOf obstacles = some error) : some error ∈ obstacles := by
  rcases List.exists_of_findSome?_eq_some h with ⟨obstacle, hmem, rfl⟩
  exact hmem

/-- The first line that is not a row is reported as such. -/
theorem Catalogue.eq_badRow_of_firstBadRow? {number : Nat} {lines : List Text} {error : Error}
    (h : firstBadRow? number lines = some error) : ∃ line fault, error = .badRow line fault := by
  rcases List.exists_of_findSome?_eq_some h with ⟨⟨line, number⟩, -, hbad⟩
  rcases Option.map_eq_some_iff.1 hbad with ⟨fault, -, rfl⟩
  exact ⟨number, fault, rfl⟩

theorem Host.eq_sentinelMissing_of_missing {sentinel : Text} {origin : Path} {lines : List Text}
    {error : Error} (h : missing sentinel origin lines = some error) :
    error = .sentinelMissing sentinel.trim origin := by
  unfold missing at h
  split at h
  · exact absurd h (by simp)
  · exact (Option.some.inj h).symm

namespace Config

variable {config : Config} {fault : ConfigFault}

/-- A generation rejects its configuration exactly when the check does: every other obstacle is about
a file. -/
theorem generate_eq_config_error_iff (catalogue host : Except FileFault Text) :
    (config.generate catalogue host).result = .error (.config fault) ↔
      config.validate = .error fault := by
  constructor
  · intro h
    rw [← fault?_eq_some_iff, fault?_generate] at h
    have hmem := mem_of_firstOf_eq_some h
    simp only [inputObstacles, List.mem_cons, List.not_mem_nil, or_false] at hmem
    rcases hmem with hvalid | hfile | hrow | hfile | hopening | hclosing
    · rcases Option.map_eq_some_iff.1 hvalid.symm with ⟨found, hfound, hsame⟩
      rw [fault?_eq_some_iff.1 hfound, Error.config.inj hsame]
    · rcases Option.map_eq_some_iff.1 hfile.symm with ⟨_, _, hsame⟩
      exact Error.noConfusion hsame
    · rcases Option.bind_eq_some_iff.1 hrow.symm with ⟨_, _, hbad⟩
      rcases Catalogue.eq_badRow_of_firstBadRow? hbad with ⟨_, _, hsame⟩
      exact Error.noConfusion hsame
    · rcases Option.map_eq_some_iff.1 hfile.symm with ⟨_, _, hsame⟩
      exact Error.noConfusion hsame
    · rcases Option.bind_eq_some_iff.1 hopening.symm with ⟨_, _, hmissing⟩
      exact Error.noConfusion (Host.eq_sentinelMissing_of_missing hmissing)
    · rcases Option.bind_eq_some_iff.1 hclosing.symm with ⟨_, _, hmissing⟩
      exact Error.noConfusion (Host.eq_sentinelMissing_of_missing hmissing)
  · intro h
    rw [generate_of_invalid h]

/-- A run rejects its configuration exactly when the check does. -/
theorem compile_eq_config_error_iff {tree : FileTree} :
    (config.compile tree).1.result = .error (.config fault) ↔ config.validate = .error fault := by
  rw [← generate_eq_config_error_iff (tree.readText config.catalogue) (tree.readText config.host)]
  cases hgenerate : (config.generate (tree.readText config.catalogue)
      (tree.readText config.host)).result with
  | error error =>
    rw [(compile_of_generate_error hgenerate).1]
    simp
  | ok generated =>
    rw [(compile_of_generate_ok hgenerate).1]
    -- what is left is the file of the output
    rcases (tree.replaceFile config.output generated.text).1 with ⟨path, cause⟩ | written <;>
      simp [concluded]

/-! ## Loading -/

/-- What is read from a text counts if it passes the check. -/
theorem ofCheckedText_eq_ok_iff {text : Text} :
    ofCheckedText text = .ok config ↔ ofText text = .ok config ∧ config.validate = .ok () := by
  unfold ofCheckedText
  cases ofText text with
  | error fault => simp
  | ok read =>
    constructor
    · intro h
      dsimp only at h
      cases hvalid : read.validate with
      | error fault =>
        rw [hvalid] at h
        cases h
      | ok checked =>
        rw [hvalid] at h
        cases h
        exact ⟨rfl, hvalid⟩
    · rintro ⟨hread, hvalid⟩
      cases hread
      simp only [hvalid]

/-- A text that passes the check makes a configuration. -/
theorem load_of_checked {path : Path} {text : Text} (h : ofCheckedText text = .ok config) :
    load path (.ok text) = ⟨[.configLoaded config path], .ok config⟩ := by
  simp only [load, h]

/-- What a file gives has been checked. -/
theorem validate_of_load {path : Path} {contents : Except FileFault Text}
    (h : (load path contents).result = .ok config) : config.validate = .ok () := by
  cases contents with
  | error fault => exact absurd h (by simp [load])
  | ok text =>
    cases hchecked : ofCheckedText text with
    | error error => exact absurd h (by simp [load, hchecked])
    | ok checked =>
      rw [load_of_checked hchecked] at h
      rw [← Except.ok.inj h]
      exact (ofCheckedText_eq_ok_iff.1 hchecked).2

/-- The check is about the sentinels alone. -/
theorem validate_congr {other : Config} (h : other.sentinels = config.sentinels) :
    other.validate = config.validate := by
  unfold validate
  rw [h]

/-- The usual sentinels can be told apart. -/
theorem validate_of_usual (h : config.sentinels = {}) : config.validate = .ok () := by
  rw [validate_eq_ok_iff, h]
  decide

/-- The configuration with another file in the place that an option is about. -/
def withFile (config : Config) (key : CommandLine.Key) (path : Path) : Config :=
  match key with
  | .config => config
  | .data => { config with catalogue := path }
  | .template => { config with host := path }
  | .output => { config with output := path }

end Config

/-! ## Merging -/

namespace CommandLine.Arguments

variable {given : Arguments} {read : Path → Except FileFault Text}

/-- With a configuration file the arguments give what the file gives, but for the files that they
name themselves. -/
theorem resolve_of_config {path : Path} (h : given.config = some path) :
    given.resolve read =
      ⟨(Config.load path (read path)).events,
        (Config.load path (read path)).result.map given.override⟩ := by
  rw [resolve, h]
  dsimp only
  rcases Config.load path (read path) with ⟨events, result⟩
  cases result with
  | error error => rfl
  | ok loaded => simp [Except.map]

/-- An option puts its file into the place that it is about. -/
theorem override_set {key : Key} (hkey : key ≠ .config) (value : Path) (config : Config) :
    (given.set key value).override config = (given.override config).withFile key value := by
  cases key with
  | config => exact absurd rfl hkey
  | data => rfl
  | template => rfl
  | output => rfl

theorem config_set {key : Key} (hkey : key ≠ .config) (value : Path) :
    (given.set key value).config = given.config := by
  cases key with
  | config => exact absurd rfl hkey
  | data => rfl
  | template => rfl
  | output => rfl

/-- With a configuration file an option changes the file that it is about, and no other setting. -/
theorem resolve_set {path : Path} (h : given.config = some path) {key : Key}
    (hkey : key ≠ .config) (value : Path) :
    ((given.set key value).resolve read).result =
      (given.resolve read).result.map (·.withFile key value) := by
  rw [resolve_of_config h, resolve_of_config ((config_set hkey value).trans h)]
  cases (Config.load path (read path)).result with
  | error error => rfl
  | ok loaded => exact congrArg Except.ok (override_set hkey value loaded)

/-- Without a configuration file the arguments name all three files, and nothing else is to be
settled; or they do not, and there is no run. -/
theorem resolve_of_not_config (read : Path → Except FileFault Text) (h : given.config = none) :
    (∃ catalogue host output, given.data = some catalogue ∧ given.template = some host ∧
        given.output = some output ∧ given.resolve read = ⟨[], .ok { catalogue, host, output }⟩) ∨
      ¬ (given.data.isSome ∧ given.template.isSome ∧ given.output.isSome) ∧
        given.resolve read = ⟨[], .error (.config .filesMissing)⟩ := by
  rcases given with ⟨config, data, template, output, verbose⟩
  cases h
  cases data with
  | none => exact .inr ⟨by simp, rfl⟩
  | some catalogue =>
    cases template with
    | none => exact .inr ⟨by simp, rfl⟩
    | some host =>
      cases output with
      | none => exact .inr ⟨by simp, rfl⟩
      | some output => exact .inl ⟨catalogue, host, output, rfl, rfl, rfl, rfl⟩

/-- Without a configuration file the arguments say all of the configuration. -/
theorem resolve_eq_ok_iff_of_not_config (read : Path → Except FileFault Text)
    (h : given.config = none) (config : Config) :
    (given.resolve read).result = .ok config ↔
      given.data = some config.catalogue ∧ given.template = some config.host ∧
        given.output = some config.output ∧ config.sentinels = {} ∧
        config.terminator = "\x7d".toList := by
  rcases resolve_of_not_config read h with
    ⟨catalogue, host, output, hdata, htemplate, houtput, hresolve⟩ | ⟨hmissing, hresolve⟩
  · rw [hresolve, hdata, htemplate, houtput]
    constructor
    · intro hsame
      rw [← Except.ok.inj hsame]
      exact ⟨rfl, rfl, rfl, rfl, rfl⟩
    · rcases config with ⟨_, _, _, _, _⟩
      rintro ⟨⟨⟩, ⟨⟩, ⟨⟩, rfl, rfl⟩
      rfl
  · rw [hresolve]
    constructor
    · intro hsame
      exact absurd hsame (by simp)
    · rintro ⟨hdata, htemplate, houtput, -, -⟩
      exact absurd (by simp [hdata, htemplate, houtput]) hmissing

/-- Without a configuration file nothing is read. -/
theorem resolve_congr_of_not_config (h : given.config = none)
    (read other : Path → Except FileFault Text) : given.resolve other = given.resolve read := by
  rw [resolve, resolve, h]

/-- Every configuration that the arguments give is valid. -/
theorem validate_of_resolve {config : Config} (h : (given.resolve read).result = .ok config) :
    config.validate = .ok () := by
  cases hconfig : given.config with
  | some path =>
    rw [resolve_of_config hconfig] at h
    cases hload : (Config.load path (read path)).result with
    | error error =>
      rw [hload] at h
      exact absurd h (by simp [Except.map])
    | ok loaded =>
      rw [hload] at h
      have hmerged : given.override loaded = config := Except.ok.inj h
      have hsentinels : config.sentinels = loaded.sentinels := by rw [← hmerged]; rfl
      rw [Config.validate_congr hsentinels]
      exact Config.validate_of_load hload
  | none =>
    rcases resolve_of_not_config read hconfig with
      ⟨catalogue, host, output, -, -, -, hresolve⟩ | ⟨-, hresolve⟩
    · rw [hresolve] at h
      rw [← Except.ok.inj h]
      exact Config.validate_of_usual rfl
    · rw [hresolve] at h
      exact absurd h (by simp)

/-- **The merged configuration is as it was asked for, and valid.** Every configuration that the
arguments give passes the check, so that no run of it stops because of its configuration. With a
configuration file the sentinels and the terminator are those of the file, each of the three files is
the one that its option names or else that of the configuration file, and one more option changes
its own file only. Without one the three options are needed and settle everything; nothing is read. -/
theorem resolve_merges (given : Arguments) (tree : FileTree) :
    (∀ config, (given.resolve tree.readText).result = .ok config →
      config.validate = .ok () ∧
        ∀ (later : FileTree) (fault : ConfigFault),
          (config.compile later).1.result ≠ .error (.config fault)) ∧
      (∀ path, given.config = some path →
        (∀ error, (Config.load path (tree.readText path)).result = .error error →
          (given.resolve tree.readText).result = .error error) ∧
        (∀ loaded, (Config.load path (tree.readText path)).result = .ok loaded →
          (given.resolve tree.readText).result = .ok {
            catalogue := given.data.getD loaded.catalogue
            host := given.template.getD loaded.host
            output := given.output.getD loaded.output
            sentinels := loaded.sentinels
            terminator := loaded.terminator }) ∧
        ∀ key value, key ≠ .config →
          ((given.set key value).resolve tree.readText).result =
            (given.resolve tree.readText).result.map (·.withFile key value)) ∧
      (given.config = none →
        ((∃ config, (given.resolve tree.readText).result = .ok config) ↔
          given.data.isSome ∧ given.template.isSome ∧ given.output.isSome) ∧
        (∀ config, (given.resolve tree.readText).result = .ok config ↔
          given.data = some config.catalogue ∧ given.template = some config.host ∧
            given.output = some config.output ∧
            config.sentinels = ⟨"// start".toList, "// end".toList⟩ ∧
            config.terminator = "\x7d".toList) ∧
        (∀ error, (given.resolve tree.readText).result = .error error →
          error = .config .filesMissing) ∧
        ∀ read, given.resolve read = given.resolve tree.readText) := by
  refine ⟨?valid, ?withFile, ?withoutFile⟩
  case valid =>
    intro config h
    have hvalid := validate_of_resolve h
    refine ⟨hvalid, ?_⟩
    intro later fault hrejected
    rw [Config.compile_eq_config_error_iff, hvalid] at hrejected
    exact absurd hrejected (by simp)
  case withFile =>
    intro path hpath
    refine ⟨?_, ?_, fun key value hkey => resolve_set hpath hkey value⟩
    · intro error hload
      rw [resolve_of_config hpath, hload]
      rfl
    · intro loaded hload
      rw [resolve_of_config hpath, hload]
      rfl
  case withoutFile =>
    intro hnone
    have hiff := resolve_eq_ok_iff_of_not_config tree.readText hnone
    have hcongr := resolve_congr_of_not_config hnone tree.readText
    rcases resolve_of_not_config tree.readText hnone with
      ⟨catalogue, host, output, hdata, htemplate, houtput, hresolve⟩ | ⟨hmissing, hresolve⟩
    · refine ⟨?_, hiff, ?_, hcongr⟩
      · simp [hresolve, hdata, htemplate, houtput]
      · simp [hresolve]
    · refine ⟨?_, hiff, ?_, hcongr⟩
      · simp only [hresolve, reduceCtorEq, exists_false, hmissing]
      · intro error herror
        rw [hresolve] at herror
        exact (Except.error.inj herror).symm

/-- A configuration that names the files of a run and one sentinel. -/
def recordedText : Text :=
  "(data_file_path: \"rows\", template_file_path: \"host.js\", ".toList ++
    "output_file_path: \"gen.js\", sentinels: (start: \" #\"),)".toList

/-- A working directory with that configuration. -/
def configTree : FileTree :=
  (FileTree.ofWorkingDirectory ["w".toList]).addFile "c.ron".toList (FileTree.encode recordedText)

/-- What that configuration says. -/
def recordedConfig : Config where
  catalogue := "rows".toList
  host := "host.js".toList
  output := "gen.js".toList
  sentinels := { opening := " #".toList }

/-- The file names all that the arguments leave out; without it they have to name the output too. -/
theorem resolve_configTree :
    let given : Arguments := { config := some "c.ron".toList, output := some "p".toList }
    let files : Arguments := { data := some "d".toList, template := some "t".toList }
    (Config.load "c.ron".toList (configTree.readText "c.ron".toList)).result = .ok recordedConfig ∧
      (given.resolve configTree.readText).result = .ok { recordedConfig with output := "p".toList } ∧
      ((given.set .data "d".toList).resolve configTree.readText).result =
        .ok { recordedConfig with catalogue := "d".toList, output := "p".toList } ∧
      (({ recordedConfig with output := "p".toList }).compile configTree).1.result ≠
        .error (.config .blankSentinel) ∧
      ((files.set .output "o".toList).resolve configTree.readText).result =
        .ok { catalogue := "d".toList, host := "t".toList, output := "o".toList } ∧
      ∀ error, (files.resolve configTree.readText).result = .error error →
        error = .config .filesMissing := by
  intro given files
  have hload : (Config.load "c.ron".toList (configTree.readText "c.ron".toList)).result =
      .ok recordedConfig := by
    have hread : configTree.readText "c.ron".toList = .ok recordedText :=
      FileTree.readText_of_readBytes rfl
    have hchecked : Config.ofCheckedText recordedText = .ok recordedConfig := by decide +kernel
    rw [hread, Config.load_of_checked hchecked]
  rcases resolve_merges given configTree with ⟨hvalid, hwith, -⟩
  rcases hwith "c.ron".toList rfl with ⟨-, hmerged, hset⟩
  have hresolve := hmerged recordedConfig hload
  refine ⟨hload, hresolve, ?_, (hvalid _ hresolve).2 _ _, ?_, ?_⟩
  · rw [hset .data "d".toList (by decide), hresolve]
    rfl
  · exact (((resolve_merges (files.set .output "o".toList) configTree).2.2 rfl).2.1 _).2
      ⟨rfl, rfl, rfl, rfl, rfl⟩
  · exact ((resolve_merges files configTree).2.2 rfl).2.2.1

end CommandLine.Arguments

end Tilewright
