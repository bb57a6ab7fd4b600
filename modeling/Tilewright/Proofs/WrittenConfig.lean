import Mathlib.Tactic.Convert
import Tilewright.Config.Writer
import Tilewright.Proofs.FieldByField

/-!
# Configurations that are written down

Settings are written down as a text of the grammar, and what is read from such a text is completed
and checked.

* `Config.Given.written_toText`: all settings can be written, whatever characters their texts have.
* `Config.Given.ofCheckedText_written` says for every text of the grammar which configuration it
  makes, or what is wrong with it.
* `Config.ofCheckedText_toText`: a valid configuration that is written down is read back.
-/

namespace Tilewright

open Grammar

namespace Config

/-! ## Writing -/

/-- A backslash takes away what a quote and a backslash mean, and nothing else means anything. -/
theorem enclosed_flatMap (text : Text) :
    Enclosed text (text.flatMap fun c => if c = '"' ∨ c = '\\' then ['\\', c] else [c]) := by
  induction text with
  | nil => exact .nil
  | cons c text ih =>
    rw [List.flatMap_cons]
    refine .cons ?_ ih
    split
    · next hc =>
      apply Escaped.letter
      rcases hc with rfl | rfl <;> decide
    · next hc => exact .plain (fun h => hc (.inl h)) (fun h => hc (.inr h))

theorem literal_writeString (text : Text) : Literal text (writeString text) :=
  .escaped (enclosed_flatMap text)

theorem field_writeField {name value : Text} {Value : Text → Prop} (h : Value value) :
    Field name Value (writeField name value) := by
  have hspace : Gap [' '] := .space (by simp) .nil
  simpa [writeField] using @Field.intro name Value name [] [' '] value .plain .nil hspace h

section Items

variable {α : Type} {Item : α → Text → Prop} {items : List α}

theorem items_space {body : Text} (h : Items Item items body) : Items Item items (' ' :: body) := by
  have hspace {gap : Text} (hgap : Gap gap) : Gap (' ' :: gap) := .space (by simp) hgap
  cases h with
  | nil h => exact .nil (hspace h)
  | last hbefore hitem hbehind => exact .last (hspace hbefore) hitem hbehind
  | cons hbefore hitem hbehind h => exact .cons (hspace hbefore) hitem hbehind h

theorem items_joinWith {write : α → Text} (h : ∀ item, Item item (write item)) :
    Items Item items (Text.joinWith ", ".toList (items.map write)) := by
  induction items with
  | nil => exact .nil .nil
  | cons item items ih =>
    cases items with
    | nil => simpa using Items.last .nil (h item) .nil
    | cons next items =>
      rw [List.map_cons, List.map_cons, Text.joinWith_cons_cons]
      simpa using Items.cons .nil (h item) .nil (items_space ih)

theorem record_writeRecord {name : Text} {write : α → Text} (h : ∀ item, Item item (write item)) :
    Record name Item items (writeRecord (items.map write)) :=
  .intro .nil (.refl items) (items_joinWith h)

end Items

end Config

theorem SentinelField.written_write (field : SentinelField) : field.Written field.write :=
  Config.field_writeField (Config.literal_writeString field.sentinel)

theorem ConfigField.written_write (field : ConfigField) : field.Written field.write := by
  apply Config.field_writeField
  cases field with
  | catalogue text | host text | output text | terminator text =>
    exact Config.literal_writeString text
  | sentinels fields => exact Config.record_writeRecord SentinelField.written_write

namespace Config

/-- All settings can be written, whatever characters their texts have. -/
theorem Given.written_toText (given : Given) : given.Written given.toText := by
  have hrecord : Record "GeneratorConfig".toList ConfigField.Written given.toList given.toText :=
    record_writeRecord ConfigField.written_write
  simpa using Given.Written.intro .nil .nil hrecord (.gap .nil)

/-! ## Completing -/

theorem validate_eq_blank {config : Config}
    (h : config.sentinels.opening.trim = [] ∨ config.sentinels.closing.trim = []) :
    config.validate = .error .blankSentinel := by
  rw [validate, if_pos h]

theorem validate_eq_equal {config : Config} (hopening : config.sentinels.opening.trim ≠ [])
    (h : config.sentinels.opening.trim = config.sentinels.closing.trim) :
    config.validate = .error (.equalSentinels config.sentinels.opening.trim) := by
  have hclosing : config.sentinels.closing.trim ≠ [] := h ▸ hopening
  rw [validate, if_neg (not_or.2 ⟨hopening, hclosing⟩), if_pos h]

theorem ofCheckedText_of_validate {text : Text} {config : Config} {fault : ConfigFault}
    (h : ofText text = .ok config) (hfault : config.validate = .error fault) :
    ofCheckedText text = .error (.config fault) := by
  rw [ofCheckedText, h]
  simp only [hfault]

theorem ofCheckedText_of_ofText_error {text : Text} {fault : ReadFault}
    (h : ofText text = .error fault) : ofCheckedText text = .error (.unreadableConfig fault) := by
  rw [ofCheckedText, h]

namespace Given

variable {given : Given} {text : Text}

/-- Each sentinel that is left out is filled in by itself. -/
theorem getD_sentinels (given : Given) :
    given.collected.sentinels.getD {} = ⟨given.opening, given.closing⟩ := by
  rcases given with ⟨_, _, _, _ | ⟨_ | _, _ | _⟩, _⟩ <;> rfl

/-- With the three files there, what was left out is filled in. -/
theorem ofText_written (h : given.Written text) {catalogue host output : Path}
    (hcatalogue : given.catalogue = some catalogue) (hhost : given.host = some host)
    (houtput : given.output = some output) :
    ofText text = .ok {
      catalogue, host, output
      sentinels := ⟨given.opening, given.closing⟩
      terminator := given.terminator.getD ['\x7d'] } := by
  rw [ofText_of_fields (fields_ofText h), ConfigFields.fill_eq_ok_iff]
  exact ⟨hcatalogue, hhost, houtput, given.getD_sentinels.symm, rfl⟩

/-- Without one of the three files the first that is not there is reported. -/
theorem ofText_omitted (h : given.Written text)
    (homitted : given.catalogue = none ∨ given.host = none ∨ given.output = none) :
    ∃ name, given.collected.omitted.head? = some name ∧
      ofText text = .error (.missingField name) := by
  rw [ofText_of_fields (fields_ofText h)]
  -- the fields are completed before a sentinel is looked at
  rcases given.collected.fill_cases with ⟨name, more, hnames, hfill⟩ | ⟨-, config, hfill⟩
  · exact ⟨name, by rw [hnames]; rfl, hfill⟩
  · rw [ConfigFields.fill_eq_ok_iff] at hfill
    rcases hfill with ⟨hcatalogue, hhost, houtput, -, -⟩
    rcases homitted with hnone | hnone | hnone
    · exact absurd (hnone.symm.trans hcatalogue) (by simp)
    · exact absurd (hnone.symm.trans hhost) (by simp)
    · exact absurd (hnone.symm.trans houtput) (by simp)

/-- **Configurations are decoded field by field, with independent defaults, and only valid ones are
returned.** Whatever settings are given, there are texts that give them. From any such text that
gives the three files a configuration is returned exactly when both sentinels are something else
than blanks and differ after trimming, where a sentinel that is not given is the usual one; the
configuration has what was given, as it was given, and else what is usual. Otherwise the sentinels
are reported; an opening sentinel that trims to the usual closing one is not enough. Where a file
is not given, the first such file is reported, whatever the sentinels are. -/
theorem ofCheckedText_written (given : Given) :
    (∃ text, given.Written text) ∧ ∀ text, given.Written text →
      (∀ catalogue host output, given.catalogue = some catalogue → given.host = some host →
          given.output = some output →
        (∀ config, ofCheckedText text = .ok config ↔
          (given.opening.trim ≠ [] ∧ given.closing.trim ≠ [] ∧
              given.opening.trim ≠ given.closing.trim) ∧
            config = {
              catalogue, host, output
              sentinels := ⟨given.opening, given.closing⟩
              terminator := given.terminator.getD "\x7d".toList }) ∧
          (given.opening.trim = [] ∨ given.closing.trim = [] →
            ofCheckedText text = .error (.config .blankSentinel)) ∧
          (given.opening.trim ≠ [] → given.opening.trim = given.closing.trim →
            ofCheckedText text = .error (.config (.equalSentinels given.opening.trim))) ∧
          ∀ opening, given.sentinels = some { opening := some opening } →
            opening.trim = "// end".toList →
            ofCheckedText text = .error (.config (.equalSentinels "// end".toList))) ∧
      (given.catalogue = none ∨ given.host = none ∨ given.output = none →
        ∃ name, given.collected.omitted.head? = some name ∧
          ofCheckedText text = .error (.unreadableConfig (.missingField name))) := by
  refine ⟨⟨given.toText, given.written_toText⟩, ?_⟩
  intro text h
  constructor
  · intro catalogue host output hcatalogue hhost houtput
    have hread := ofText_written h hcatalogue hhost houtput
    have hequal (hopening : given.opening.trim ≠ [])
        (hsame : given.opening.trim = given.closing.trim) :=
      ofCheckedText_of_validate hread (validate_eq_equal hopening hsame)
    refine ⟨?_, ?_, hequal, ?_⟩
    · intro config
      rw [ofCheckedText_eq_ok_iff, hread]
      constructor
      · rintro ⟨hconfig, hvalid⟩
        rw [← Except.ok.inj hconfig] at hvalid ⊢
        exact ⟨(validate_eq_ok_iff _).1 hvalid, rfl⟩
      · rintro ⟨hvalid, rfl⟩
        exact ⟨rfl, (validate_eq_ok_iff _).2 hvalid⟩
    · intro hblank
      exact ofCheckedText_of_validate hread (validate_eq_blank hblank)
    · intro opening hsentinels htrim
      have hopening : given.opening = opening := by rw [Given.opening, hsentinels]; rfl
      have hclosing : given.closing = "// end".toList := by rw [Given.closing, hsentinels]; rfl
      -- the closing sentinel was left out, and the usual one clashes with what was given
      rw [hopening, hclosing, htrim] at hequal
      exact hequal (by decide) (by decide)
  · intro homitted
    rcases ofText_omitted h homitted with ⟨name, hname, hread⟩
    exact ⟨name, hname, ofCheckedText_of_ofText_error hread⟩

/-- Settings without an opening sentinel and without a terminator. -/
def shuffled : Given where
  catalogue := "d\n".toList
  host := "H".toList
  output := "o.".toList
  sentinels := some { closing := "\"end\" ".toList }

/-- A text that gives them in another order. -/
def shuffledText : Text :=
  "/* set */GeneratorConfig(output_file_path: \"o\\x2e\",".toList ++
    "sentinels:(end:r#\"\"end\" \"#,),r#data_file_path:\"d\\n\",".toList ++
    "template_file_path:\"\\u\x7b048\x7d\") // end".toList

theorem written_shuffledText : shuffled.Written shuffledText := by
  have hspace : Gap [' '] := .space (by decide) .nil
  have hsettings : Gap ("/* set */".toList ++ []) :=
    .block (.other (by decide) (by decide) (.other (by decide) (by decide)
      (.other (by decide) (by decide) (.other (by decide) (by decide)
        (.other (by decide) (by decide) .last))))) .nil
  have hend : LastGap ([' '] ++ "// end".toList) :=
    @LastGap.line _ " end".toList hspace (by decide)
  have houtput : ConfigField.Written (.output "o.".toList) "output_file_path: \"o\\x2e\"".toList :=
    @Field.intro _ _ _ [] [' '] _ .plain .nil hspace
      (.escaped (.cons (.plain (by decide) (by decide)) (.cons
        (@Escaped.byte '.' 2 14 '2' 'e' (by decide) (by decide) (by decide)) .nil)))
  have hclosing : SentinelField.Written (.closing "\"end\" ".toList) "end:r#\"\"end\" \"#".toList :=
    @Field.intro _ _ _ [] [] _ .plain .nil .nil (@Literal.raw "\"end\" ".toList 1 (by decide))
  have hsentinels : ConfigField.Written (.sentinels { closing := some "\"end\" ".toList })
      "sentinels:(end:r#\"\"end\" \"#,)".toList :=
    @Field.intro _ _ _ [] [] _ .plain .nil .nil
      (.intro .nil (.refl _) (.cons .nil hclosing .nil (.nil .nil)))
  have hcatalogue : ConfigField.Written (.catalogue "d\n".toList)
      "r#data_file_path:\"d\\n\"".toList :=
    @Field.intro _ _ _ [] [] _ .raw .nil .nil
      (.escaped (.cons (.plain (by decide) (by decide)) (.cons (.letter (by decide)) .nil)))
  have hhost : ConfigField.Written (.host "H".toList)
      "template_file_path:\"\\u\x7b048\x7d\"".toList :=
    @Field.intro _ _ _ [] [] _ .plain .nil .nil
      (.escaped (.cons (@Escaped.codePoint 'H' [0, 4, 8] "048".toList
        (.cons (by decide) (.cons (by decide) (.cons (by decide) .nil))) (by decide) (by decide)
        (by decide)) .nil))
  have hitems := Items.cons .nil houtput .nil (.cons .nil hsentinels .nil
    (.cons .nil hcatalogue .nil (.last .nil hhost .nil)))
  have hrecord : Record "GeneratorConfig".toList ConfigField.Written shuffled.toList _ :=
    .intro (.label .plain .nil) (by decide +kernel) hitems
  convert Written.intro hsettings .nil hrecord hend using 1
  decide +kernel

/-- Settings whose opening sentinel trims to the closing one that is left out. -/
def clashing : Given where
  catalogue := "d".toList
  host := "h".toList
  output := "o".toList
  sentinels := some { opening := "\t// end ".toList }

/-- Every setting is as it is given or else the usual one. Sentinels that cannot be told apart are
reported where the three files are given; where one is not, that is reported. -/
theorem ofCheckedText_shuffledText :
    shuffled.Written shuffledText ∧
      ofCheckedText shuffledText = .ok {
        catalogue := "d\n".toList
        host := "H".toList
        output := "o.".toList
        sentinels := ⟨"// start".toList, "\"end\" ".toList⟩
        terminator := "\x7d".toList } ∧
      ofCheckedText clashing.toText = .error (.config (.equalSentinels "// end".toList)) ∧
      ofCheckedText { clashing with sentinels := some { closing := " ".toList } }.toText =
        .error (.config .blankSentinel) ∧
      ofCheckedText { clashing with sentinels := some ⟨some " #".toList, some ['#']⟩ }.toText =
        .error (.config (.equalSentinels ['#'])) ∧
      ofCheckedText { clashing with host := none }.toText =
        .error (.unreadableConfig (.missingField "template_file_path".toList)) := by
  refine ⟨written_shuffledText, ?_, ?_, ?_, ?_, ?_⟩
  · have hfiles := ((ofCheckedText_written shuffled).2 _ written_shuffledText).1 _ _ _ rfl rfl rfl
    exact (hfiles.1 _).2 ⟨by decide, rfl⟩
  · have hfiles := ((ofCheckedText_written clashing).2 _ (written_toText _)).1 _ _ _ rfl rfl rfl
    exact hfiles.2.2.2 _ rfl (by decide)
  · have hfiles := ((ofCheckedText_written { clashing with sentinels := some { closing :=
      " ".toList } }).2 _ (written_toText _)).1 _ _ _ rfl rfl rfl
    exact hfiles.2.1 (.inr (by decide))
  · have hfiles := ((ofCheckedText_written { clashing with sentinels := some ⟨some " #".toList,
      some ['#']⟩ }).2 _ (written_toText _)).1 _ _ _ rfl rfl rfl
    exact hfiles.2.2.1 (by decide) (by decide)
  · rcases ((ofCheckedText_written { clashing with host := none }).2 _ (written_toText _)).2
      (.inr (.inl rfl)) with ⟨name, hname, hmissing⟩
    rw [hmissing, ← Option.some.inj hname]

end Given

/-- A configuration that is written down is read back if it is valid. -/
theorem ofCheckedText_toText (config : Config) :
    ofCheckedText config.toText = .ok config ↔ config.validate = .ok () := by
  have hread : ofText config.toText = .ok config :=
    Given.ofText_written config.given.written_toText rfl rfl rfl
  rw [ofCheckedText_eq_ok_iff, hread]
  simp

end Config

end Tilewright
