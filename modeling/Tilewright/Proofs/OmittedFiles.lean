import Tilewright.CommandLine.Run
import Tilewright.Proofs.MergedConfig

/-!
# Files that a configuration omits

A configuration text is read in two steps: its fields are collected, and then they are completed.
The usual sentinels and the usual terminator complete it, but the three files have to be there.

* `ConfigFields.ofText` is the first step alone, and `Config.ofText_of_fields` says that a
  configuration is what the second step makes of the fields.
* `ConfigFields.omitted` are the files that are not there, and `ConfigFields.fill_cases` says what
  comes of them.
* `Arguments.supply` puts the files that were named in the arguments among the fields.
* `Arguments.resolve_needs_named_files`: the fields are completed before the arguments are looked at,
  so that a configuration has to name also the files that the arguments name.
-/

namespace Tilewright

open Scan

/-! ## Fields -/

namespace ConfigFields

/-- Takes a record of fields off the front, and what may stand before it. -/
def scan (text : Text) : Except ReadFault (ConfigFields × Text) :=
  let scan : Scan ConfigFields := do
    blank
    let implicitSome ← attributes (text.length + 1)
    record "GeneratorConfig".toList (read implicitSome) {}
  scan text

/-- The fields that a text gives; nothing but blanks may stand around them. -/
def ofText (text : Text) : Except ReadFault ConfigFields := do
  let (fields, rest) ← scan text
  let rest ← dropBlank .plain rest
  if rest = [] then return fields else throw .trailingText

/-- The names of the files that are not there. -/
def omitted (fields : ConfigFields) : List Text :=
  [(fields.catalogue, "data_file_path".toList), (fields.host, "template_file_path".toList),
    (fields.output, "output_file_path".toList)].filterMap fun (path, name) =>
      if path.isNone then some name else none

/-- Fields are completed when the three files are there. -/
theorem fill_eq_ok_iff {fields : ConfigFields} {config : Config} :
    fields.fill = .ok config ↔
      fields.catalogue = some config.catalogue ∧ fields.host = some config.host ∧
        fields.output = some config.output ∧ config.sentinels = fields.sentinels.getD {} ∧
        config.terminator = fields.terminator.getD ['}'] := by
  rcases fields with ⟨catalogue, host, output, sentinels, terminator⟩
  rcases config with ⟨_, _, _, _, _⟩
  cases catalogue <;> cases host <;> cases output <;> simp [fill, eq_comm]

/-- Either a file is not there, and the first such file is reported, or the fields are completed. -/
theorem fill_cases (fields : ConfigFields) :
    (∃ name more, fields.omitted = name :: more ∧ fields.fill = .error (.missingField name)) ∨
      fields.omitted = [] ∧ ∃ config, fields.fill = .ok config := by
  rcases fields with ⟨catalogue, host, output, sentinels, terminator⟩
  cases catalogue with
  | none => exact .inl ⟨_, _, rfl, rfl⟩
  | some catalogue =>
    cases host with
    | none => exact .inl ⟨_, _, rfl, rfl⟩
    | some host =>
      cases output with
      | none => exact .inl ⟨_, _, rfl, rfl⟩
      | some output => exact .inr ⟨rfl, _, rfl⟩

/-- Fields stand in a text with blanks behind them. -/
theorem ofText_eq_ok_iff {text : Text} {fields : ConfigFields} :
    ofText text = .ok fields ↔
      ∃ rest, scan text = .ok (fields, rest) ∧ dropBlank .plain rest = .ok [] := by
  unfold ofText
  cases scan text with
  | error fault => simp [bind, Except.bind]
  | ok scanned =>
    rcases scanned with ⟨found, rest⟩
    cases hrest : dropBlank .plain rest with
    | error fault => simp [bind, Except.bind, hrest]
    | ok behind =>
      by_cases hnil : behind = [] <;>
        simp [bind, Except.bind, pure, Except.pure, throw, throwThe, MonadExceptOf.throw, hrest, hnil]

end ConfigFields

namespace Config

/-- Fields are completed as soon as they have been collected, before what stands behind them is
looked at. -/
theorem ofText_eq (text : Text) :
    ofText text = (do
      let (fields, rest) ← ConfigFields.scan text
      let config ← fields.fill
      let rest ← dropBlank .plain rest
      if rest = [] then return config else throw .trailingText) := by
  unfold ofText ConfigFields.scan
  simp only [bind, StateT.bind, pure, liftM, monadLift, MonadLift.monadLift]
  cases blank text with
  | error fault => rfl
  | ok blanks =>
    simp only [Except.bind]
    cases attributes (List.length text + 1) blanks.2 with
    | error fault => rfl
    | ok extensions =>
      simp only
      cases record "GeneratorConfig".toList (ConfigFields.read extensions.1) {} extensions.2 with
      | error fault => rfl
      | ok fields =>
        simp only [StateT.lift]
        cases fields.1.fill with
        | error fault => rfl
        | ok config =>
          simp only [bind, Except.bind, pure, Except.pure, blank]
          cases dropBlank .plain fields.2 <;> rfl

/-- What is read from a text that gives fields is what they are completed to. -/
theorem ofText_of_fields {text : Text} {fields : ConfigFields}
    (h : ConfigFields.ofText text = .ok fields) : ofText text = fields.fill := by
  rcases ConfigFields.ofText_eq_ok_iff.1 h with ⟨rest, hscan, hrest⟩
  rw [ofText_eq, hscan]
  simp only [bind, Except.bind]
  cases fields.fill with
  | error fault => rfl
  | ok config => simp [hrest, pure, Except.pure]

/-- Fields that cannot be completed make no configuration. -/
theorem load_of_fill_error {path : Path} {text : Text} {fields : ConfigFields} {fault : ReadFault}
    (h : ConfigFields.ofText text = .ok fields) (hfill : fields.fill = .error fault) :
    load path (.ok text) = ⟨[], .error (.unreadableConfig fault)⟩ := by
  simp only [load, ofCheckedText, ofText_of_fields h, hfill]

/-- Fields that can be completed make a configuration if they pass the check. -/
theorem load_of_fill_ok {path : Path} {text : Text} {fields : ConfigFields} {config : Config}
    (h : ConfigFields.ofText text = .ok fields) (hfill : fields.fill = .ok config)
    (hvalid : config.validate = .ok ()) :
    load path (.ok text) = ⟨[.configLoaded config path], .ok config⟩ := by
  apply load_of_checked
  exact ofCheckedText_eq_ok_iff.2 ⟨(ofText_of_fields h).trans hfill, hvalid⟩

end Config

/-! ## Arguments -/

namespace CommandLine.Arguments

variable {given : Arguments}

/-- The fields with the files that were named in the arguments. -/
def supply (given : Arguments) (fields : ConfigFields) : ConfigFields :=
  { fields with
    catalogue := given.data.or fields.catalogue
    host := given.template.or fields.host
    output := given.output.or fields.output }

/-- Files that are there already may be named again. -/
theorem fill_supply {fields : ConfigFields} {loaded : Config} (h : fields.fill = .ok loaded) :
    (given.supply fields).fill = .ok (given.override loaded) := by
  rw [ConfigFields.fill_eq_ok_iff] at h ⊢
  rcases h with ⟨hcatalogue, hhost, houtput, hsentinels, hterminator⟩
  refine ⟨?_, ?_, ?_, hsentinels, hterminator⟩
  · simp only [supply, override, hcatalogue, Option.or_some]
  · simp only [supply, override, hhost, Option.or_some]
  · simp only [supply, override, houtput, Option.or_some]

/-- **A configuration has to name also the files that the arguments name.** Where the fields of a
configuration and the files named in the arguments make a valid configuration, the arguments give
that configuration exactly when the text omits no file. Otherwise the first file that it omits is
reported, whatever the arguments say. -/
theorem resolve_needs_named_files {tree : FileTree} {path : Path} {text : Text}
    {fields : ConfigFields} {config : Config} (hconfig : given.config = some path)
    (hread : tree.readText path = .ok text) (hfields : ConfigFields.ofText text = .ok fields)
    (hfill : (given.supply fields).fill = .ok config) (hvalid : config.validate = .ok ()) :
    ((given.resolve tree.readText).result = .ok config ↔ fields.omitted = []) ∧
      ∀ name more, fields.omitted = name :: more →
        given.resolve tree.readText = ⟨[], .error (.unreadableConfig (.missingField name))⟩ := by
  rw [resolve_of_config hconfig, hread]
  rcases fields.fill_cases with ⟨name, more, homitted, hloaded⟩ | ⟨homitted, loaded, hloaded⟩
  · rw [Config.load_of_fill_error hfields hloaded, homitted]
    refine ⟨by simp [Except.map], ?_⟩
    intro first others hsame
    rw [(List.cons.inj hsame).1]
    rfl
  · -- the arguments replace files of a configuration that is valid already
    have hmerged : given.override loaded = config := by
      rw [fill_supply hloaded] at hfill
      exact Except.ok.inj hfill
    have hsentinels : loaded.sentinels = config.sentinels := by rw [← hmerged]; rfl
    have hloadedValid := (Config.validate_congr hsentinels).trans hvalid
    rw [Config.load_of_fill_ok hfields hloaded hloadedValid, homitted, ← hmerged]
    exact ⟨iff_of_true rfl rfl, fun name more hnil => absurd hnil (by simp)⟩

/-- A configuration that omits the catalogue. -/
def omittingText : Text :=
  "(template_file_path: \"t\", output_file_path: \"o\")".toList

/-- A working directory with that configuration. -/
def omittingTree : FileTree :=
  (FileTree.ofWorkingDirectory ["w".toList]).addFile "c.ron".toList (FileTree.encode omittingText)

/-- The files that the configuration names. -/
def omittingFields : ConfigFields where
  host := "t".toList
  output := "o".toList

/-- The arguments `--config c.ron --data d`. -/
def namingArguments : Arguments where
  config := "c.ron".toList
  data := "d".toList

theorem readText_omittingTree : omittingTree.readText "c.ron".toList = .ok omittingText :=
  FileTree.readText_of_readBytes rfl

theorem ofText_omittingText : ConfigFields.ofText omittingText = .ok omittingFields := by
  decide +kernel

theorem resolve_namingArguments :
    ConfigFields.ofText omittingText = .ok omittingFields ∧
      (namingArguments.supply omittingFields).fill =
        .ok { catalogue := "d".toList, host := "t".toList, output := "o".toList } ∧
      namingArguments.resolve omittingTree.readText =
        ⟨[], .error (.unreadableConfig (.missingField "data_file_path".toList))⟩ := by
  have hfill : (namingArguments.supply omittingFields).fill =
      .ok { catalogue := "d".toList, host := "t".toList, output := "o".toList } := rfl
  have hresolve := resolve_needs_named_files rfl readText_omittingTree ofText_omittingText hfill rfl
  exact ⟨ofText_omittingText, hfill, hresolve.2 _ _ rfl⟩

/-- The arguments and the fields make a valid configuration, but the arguments do not give it. -/
theorem not_completed_by_arguments :
    ¬ ∀ (arguments : List Text) (given : Arguments) (tree : FileTree) (path : Path) (text : Text)
        (fields : ConfigFields) (config : Config), Arguments.ofList arguments = .ok given →
      given.config = some path → tree.readText path = .ok text →
      ConfigFields.ofText text = .ok fields → (given.supply fields).fill = .ok config →
      config.validate = .ok () → (given.resolve tree.readText).result = .ok config := by
  intro h
  have hresolve := h ["--config".toList, "c.ron".toList, "--data".toList, "d".toList]
    namingArguments omittingTree "c.ron".toList omittingText omittingFields
    { catalogue := "d".toList, host := "t".toList, output := "o".toList } (by decide) rfl
    readText_omittingTree ofText_omittingText rfl rfl
  exact absurd hresolve (by decide +kernel)

end CommandLine.Arguments

end Tilewright
