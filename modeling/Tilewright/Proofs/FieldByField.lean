import Tilewright.Proofs.ConfigRecords
import Tilewright.Proofs.OmittedFiles

/-!
# Configurations field by field

* `SentinelFields.collects` and `ConfigFields.collects` say how the two kinds of records are read.
* `Config.Given.fields_ofText`: the fields that a text gives are collected from it.
-/

namespace Tilewright

open Grammar Scan

/-! ## Sentinels -/

namespace SentinelFields

/-- The sentinels that are given, with one more. -/
def give (fields : SentinelFields) : SentinelField → SentinelFields
  | .opening sentinel => { fields with opening := some sentinel }
  | .closing sentinel => { fields with closing := some sentinel }

/-- Holds when the sentinel has not been given yet. -/
def Lacks (fields : SentinelFields) : SentinelField → Prop
  | .opening _ => fields.opening = none
  | .closing _ => fields.closing = none

theorem isName_name (field : SentinelField) : isName field.name = true := by
  cases field with
  | opening sentinel => exact (by decide : isName "start".toList = true)
  | closing sentinel => exact (by decide : isName "end".toList = true)

/-- A sentinel that has not been given yet is read. -/
theorem read_written {implicitSome : Bool} {levels : Nat} {fields : SentinelFields}
    {field : SentinelField} {written : Text} (hlacks : fields.Lacks field)
    (h : field.Written written) (rest : Text) :
    read implicitSome levels fields (written ++ rest) = .ok (fields.give field, rest) := by
  cases field with
  | opening sentinel =>
    rcases bind_identifier_text (by decide : isName "start".toList = true) h rest with
      ⟨behind, htext, hnext⟩
    rw [read, hnext, if_pos rfl,
      show fields.opening = none from hlacks, bind_of_ok _ htext]
    rfl
  | closing sentinel =>
    rcases bind_identifier_text (by decide : isName "end".toList = true) h rest with
      ⟨behind, htext, hnext⟩
    rw [read, hnext, if_neg (by decide), if_pos rfl,
      show fields.closing = none from hlacks, bind_of_ok _ htext]
    rfl

/-- The sentinels of a record are collected. -/
theorem collects (implicitSome : Bool) (levels : Nat) :
    Collects SentinelField.name SentinelField.Written (read implicitSome levels) give Lacks where
  named h := named_field (isName_name _) h
  read hlacks h rest := read_written hlacks h rest
  lacks_give := by
    intro fields a b hne hlacks
    cases a <;> cases b <;> first | exact hlacks | exact absurd rfl hne
  give_comm := by
    intro fields a b hne
    cases a <;> cases b <;> first | rfl | exact absurd rfl hne

theorem nodup_names (fields : SentinelFields) : (fields.toList.map SentinelField.name).Nodup := by
  rcases fields with ⟨_ | opening, _ | closing⟩ <;>
    simp [SentinelFields.toList, SentinelField.name]

theorem foldl_give (fields : SentinelFields) : fields.toList.foldl give {} = fields := by
  rcases fields with ⟨_ | opening, _ | closing⟩ <;> rfl

theorem record_written {implicitSome : Bool} {levels : Nat} {fields : SentinelFields}
    {written : Text}
    (h : Record "Sentinels".toList SentinelField.Written fields.toList written) (rest : Text) :
    record "Sentinels".toList (read implicitSome levels) {} (written ++ rest) =
      .ok (fields, rest) := by
  have hlacks : ∀ field ∈ fields.toList, Lacks {} field := by
    intro field hfield
    cases field <;> rfl
  rw [Scan.record_written (collects implicitSome levels) (by decide) h fields.nodup_names hlacks,
    foldl_give]

end SentinelFields

/-! ## Configurations -/

namespace ConfigFields

/-- The settings that are given, with one more. -/
def give (fields : ConfigFields) : ConfigField → ConfigFields
  | .catalogue path => { fields with catalogue := some path }
  | .host path => { fields with host := some path }
  | .output path => { fields with output := some path }
  | .sentinels given => { fields with sentinels := some given.fill }
  | .terminator text => { fields with terminator := some text }

/-- Holds when the setting has not been given yet. -/
def Lacks (fields : ConfigFields) : ConfigField → Prop
  | .catalogue _ => fields.catalogue = none
  | .host _ => fields.host = none
  | .output _ => fields.output = none
  | .sentinels _ => fields.sentinels = none
  | .terminator _ => fields.terminator = none

theorem isName_name (field : ConfigField) : isName field.name = true := by
  cases field with
  | catalogue path => exact (by decide : isName "data_file_path".toList = true)
  | host path => exact (by decide : isName "template_file_path".toList = true)
  | output path => exact (by decide : isName "output_file_path".toList = true)
  | sentinels given => exact (by decide : isName "sentinels".toList = true)
  | terminator text => exact (by decide : isName "terminator".toList = true)

/-- A setting that has not been given yet is read. -/
theorem read_written {implicitSome : Bool} {fields : ConfigFields} {field : ConfigField}
    {written : Text} (hlacks : fields.Lacks field) (h : field.Written written) (rest : Text) :
    read implicitSome fields (written ++ rest) = .ok (fields.give field, rest) := by
  cases field with
  | catalogue path =>
    rcases bind_identifier_text (by decide : isName "data_file_path".toList = true) h rest with
      ⟨behind, htext, hnext⟩
    rw [read, hnext, if_pos rfl,
      show fields.catalogue = none from hlacks, bind_of_ok _ htext]
    rfl
  | host path =>
    rcases bind_identifier_text (by decide : isName "template_file_path".toList = true) h rest with
      ⟨behind, htext, hnext⟩
    rw [read, hnext, if_neg (by decide), if_pos rfl,
      show fields.host = none from hlacks, bind_of_ok _ htext]
    rfl
  | output path =>
    rcases bind_identifier_text (by decide : isName "output_file_path".toList = true) h rest with
      ⟨behind, htext, hnext⟩
    rw [read, hnext, if_neg (by decide), if_neg (by decide), if_pos rfl,
      show fields.output = none from hlacks, bind_of_ok _ htext]
    rfl
  | terminator text =>
    rcases bind_identifier_text (by decide : isName "terminator".toList = true) h rest with
      ⟨behind, htext, hnext⟩
    rw [read, hnext, if_neg (by decide), if_neg (by decide), if_neg (by decide), if_pos rfl,
      show fields.terminator = none from hlacks, bind_of_ok _ htext]
    rfl
  | sentinels given =>
    rcases bind_identifier_field (by decide : isName "sentinels".toList = true) h rest with
      ⟨before, behind, value, hbefore, hbehind, hvalue, hnext⟩
    have hopen := solid_record (by decide : isName "Sentinels".toList = true) hvalue rest
    rw [read, hnext, if_neg (by decide), if_neg (by decide), if_neg (by decide),
      if_neg (by decide), if_pos rfl, show fields.sentinels = none from hlacks]
    simp only [Option.isSome_none, Bool.false_eq_true, if_false]
    rw [bind_of_ok _ (colon_gap hbefore hbehind hopen),
      bind_of_ok _ (SentinelFields.record_written hvalue rest)]
    rfl

/-- The settings of a record are collected. -/
theorem collects (implicitSome : Bool) :
    Collects ConfigField.name ConfigField.Written (read implicitSome) give Lacks where
  named h := named_field (isName_name _) h
  read hlacks h rest := read_written hlacks h rest
  lacks_give := by
    intro fields a b hne hlacks
    cases a <;> cases b <;> first | exact hlacks | exact absurd rfl hne
  give_comm := by
    intro fields a b hne
    cases a <;> cases b <;> first | rfl | exact absurd rfl hne

end ConfigFields

namespace Config.Given

variable {given : Given} {text : Text}

/-- No two settings have one name. -/
theorem nodup_names (given : Given) : (given.toList.map ConfigField.name).Nodup := by
  rcases given with ⟨_ | _, _ | _, _ | _, _ | _, _ | _⟩ <;>
    exact of_decide_eq_true rfl

/-- The fields that are collected when these settings are given. -/
def collected (given : Given) : ConfigFields where
  catalogue := given.catalogue
  host := given.host
  output := given.output
  sentinels := given.sentinels.map SentinelFields.fill
  terminator := given.terminator

theorem foldl_give (given : Given) : given.toList.foldl ConfigFields.give {} = given.collected := by
  rcases given with ⟨_ | _, _ | _, _ | _, _ | _, _ | _⟩ <;> rfl

/-- What is collected from a text are the settings that it gives. -/
theorem fields_ofText (h : given.Written text) :
    ConfigFields.ofText text = .ok given.collected := by
  cases h with
  | @intro before attributes written behind hbefore hattributes hrecord hbehind =>
    have hname : isName "GeneratorConfig".toList = true := by decide
    have hlacks : ∀ field ∈ given.toList, ConfigFields.Lacks {} field := by
      intro field hfield
      cases field <;> rfl
    have hsolid := solid_attributes hattributes (solid_record hname hrecord behind)
    have hlength : attributes.length ≤ (before ++ attributes ++ written ++ behind).length := by
      simp only [List.length_append]
      omega
    rcases attributes_record hname hrecord hattributes behind hlength with
      ⟨implicitSome, hextensions⟩
    rw [ConfigFields.ofText_eq_ok_iff]
    refine ⟨behind, ?_, dropBlank_lastGap hbehind⟩
    simp only [List.append_assoc] at hextensions ⊢
    rw [ConfigFields.scan, bind_of_ok _ (blank_gap hbefore hsolid), bind_of_ok _ hextensions,
      record_written (ConfigFields.collects implicitSome) hname hrecord given.nodup_names hlacks,
      foldl_give]

end Config.Given

end Tilewright
