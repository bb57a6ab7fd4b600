import Tilewright.Catalogue.Writer
import Tilewright.Proofs.Marks
import Tilewright.Proofs.Writing

/-!
# Catalogues that were written down

A terrain can be written down in many ways: some of its fields may be any of several words, a word
may be written in any style that fits it, and the gaps may be wide or narrow. All of them are read
back as the same terrain.

* `Terrain.Fields` is a choice of fields for a terrain, and `Catalogue.Row` is a terrain with one of
  the ways to write it down.
* `Catalogue.under` puts rows under a header.
* `Catalogue.read_under`: the terrains are read back from their rows, and every catalogue of
  terrains has rows.
* `Catalogue.read_stray_newline` is why a line feed at the end needs a row that it can end.
* `Catalogue.result_read_write`: the catalogue that is written by default is one of them.
-/

namespace Tilewright

/-! ## Fields -/

/-- Fields for a terrain, where there is a choice. -/
structure Terrain.Fields (terrain : Terrain) where
  income : Text
  repair : Text
  hideaway : Text
  vision : Text
  land : Text
  shallow : Text
  value : Text
  income_iff : income = ['1'] ↔ terrain.generatesIncome = true
  ground_iff : repair = ['G'] ↔ terrain.repair = .ground
  naval_iff : repair = ['N'] ↔ terrain.repair = .naval
  air_iff : repair = ['A'] ↔ terrain.repair = .air
  hideaway_iff : hideaway = ['1'] ↔ terrain.hidesUnits = true
  vision_eq : vision = Decimal.ofInt terrain.vision.toInt ∨
    (vision = ['-'] ∧ terrain.vision = 0)
  land_iff : land = ['1'] ↔ terrain.isLand = true
  shallow_iff : shallow = ['1'] ↔ terrain.isShallowWater = true
  value_iff : value = ['-'] ↔ terrain.holdsValue = false

namespace Terrain.Fields

variable {terrain : Terrain}

/-- All nineteen fields, in the order of the columns. -/
def toList (fields : terrain.Fields) : List Text :=
  [terrain.name, terrain.shortName] ++
  terrain.moveCosts.toList.map (fun (_, cost) => Decimal.ofNat cost.toNat) ++
  [Decimal.ofInt terrain.defense.toInt, fields.income, fields.repair, fields.hideaway,
    fields.vision, fields.land, fields.shallow, fields.value, terrain.description]

theorem isSet_eq {field : Text} {set : Bool} (h : field = ['1'] ↔ set = true) :
    isSet field = set := by
  cases set <;> simp_all [isSet]

theorem ofCode_repair (fields : terrain.Fields) : Repair.ofCode fields.repair = terrain.repair := by
  have hground := fields.ground_iff
  have hnaval := fields.naval_iff
  have hair := fields.air_iff
  unfold Repair.ofCode
  cases hrepair : terrain.repair <;> simp_all

theorem visionOfField_vision (fields : terrain.Fields) :
    visionOfField fields.vision = .ok terrain.vision := by
  rcases fields.vision_eq with h | ⟨h, hzero⟩
  · rw [h, visionOfField_ofInt]
  · rw [h, hzero]
    rfl

theorem holdsValue_eq (fields : terrain.Fields) :
    decide (fields.value ≠ dash) = terrain.holdsValue := by
  have hvalue : fields.value = dash ↔ terrain.holdsValue = false := fields.value_iff
  cases hholds : terrain.holdsValue <;> simp_all

/-- Whatever fields are chosen, the terrain is read from them. -/
theorem ofFields_toList (fields : terrain.Fields) : ofFields fields.toList = .ok terrain := by
  -- each of the nineteen fields is read by its own rule
  simp only [toList, MoveCosts.toList, MoveType.all, List.map_cons, List.map_nil,
    List.cons_append, List.nil_append, ofFields, costOfField_ofNat, numberOfField_ofInt,
    visionOfField_vision, bind, Except.bind, pure, Except.pure, isSet_eq fields.income_iff,
    isSet_eq fields.hideaway_iff, isSet_eq fields.land_iff, isSet_eq fields.shallow_iff,
    ofCode_repair, holdsValue_eq]
  rfl

end Terrain.Fields

/-- The fields that are written by default. -/
def Terrain.defaultFields (terrain : Terrain) : terrain.Fields where
  income := fieldOfFlag terrain.generatesIncome
  repair := terrain.repair.code
  hideaway := fieldOfFlag terrain.hidesUnits
  vision := Decimal.ofInt terrain.vision.toInt
  land := fieldOfFlag terrain.isLand
  shallow := fieldOfFlag terrain.isShallowWater
  value := fieldOfFlag terrain.holdsValue
  income_iff := by cases terrain.generatesIncome <;> decide
  ground_iff := by cases terrain.repair <;> decide
  naval_iff := by cases terrain.repair <;> decide
  air_iff := by cases terrain.repair <;> decide
  hideaway_iff := by cases terrain.hidesUnits <;> decide
  vision_eq := .inl rfl
  land_iff := by cases terrain.isLand <;> decide
  shallow_iff := by cases terrain.isShallowWater <;> decide
  value_iff := by cases terrain.holdsValue <;> decide

theorem Terrain.toList_defaultFields (terrain : Terrain) :
    terrain.defaultFields.toList = terrain.toFields := rfl

/-- The texts of a terrain that fits on one line hold no line feed. -/
structure Terrain.OneLine (terrain : Terrain) : Prop where
  name : '\n' ∉ terrain.name
  shortName : '\n' ∉ terrain.shortName
  description : '\n' ∉ terrain.description

theorem Terrain.OneLine.newline_not_mem_defaultFields {terrain : Terrain} (h : terrain.OneLine) :
    ∀ field ∈ terrain.defaultFields.toList, '\n' ∉ field := by
  have hnat (n : Nat) : '\n' ∉ Decimal.ofNat n := Decimal.not_mem_ofNat (by decide) n
  have hint (i : Int) : '\n' ∉ Decimal.ofInt i := Decimal.not_mem_ofInt (by decide) (by decide) i
  have hflag (set : Bool) : '\n' ∉ fieldOfFlag set := by
    cases set <;> decide
  have hcode : '\n' ∉ terrain.repair.code := by
    cases terrain.repair <;> decide
  intro field hfield
  simp only [Fields.toList, List.mem_append, List.mem_map, List.mem_cons, List.not_mem_nil,
    or_false] at hfield
  rcases hfield with ((rfl | rfl) | ⟨cost, -, rfl⟩) | hfield
  · exact h.name
  · exact h.shortName
  · exact hnat _
  · rcases hfield with rfl | rfl | rfl | rfl | rfl | rfl | rfl | rfl | rfl
    · exact hint _
    · exact hflag _
    · exact hcode
    · exact hflag _
    · exact hint _
    · exact hflag _
    · exact hflag _
    · exact hflag _
    · exact h.description

namespace Catalogue

/-! ## Rows -/

/-- A terrain, and a way to write it down on one line. -/
structure Row where
  terrain : Terrain
  fields : terrain.Fields
  words : List Word.Written
  behind : Text
  apart : Word.WrittenApart words behind
  words_eq : words.map Word.Written.word = fields.toList
  newline : ∀ field ∈ fields.toList, '\n' ∉ field

namespace Row

/-- The line of the row. -/
def text (row : Row) : Text :=
  Word.writeLine row.words row.behind

theorem fields?_text (row : Row) : fields? row.text = some row.fields.toList := by
  have hreads : Word.Reads row.text (row.words.map Word.Written.word) :=
    Word.reads_writeLine row.apart
  rw [row.words_eq] at hreads
  rw [fields?, Word.split_escapeMarks]
  exact Word.split_eq_some_iff_reads.2 hreads

theorem result_readRow_text (row : Row) (number : Nat) :
    (readRow number row.text).result = .ok row.terrain := by
  simp only [readRow, fields?_text, readFields, Terrain.Fields.ofFields_toList]

theorem isRow_text (row : Row) : Text.IsRow row.text := by
  refine Word.isRow_writeLine row.apart ?_ ?_
  · intro hnil
    have hlength := congrArg List.length row.words_eq
    simp [hnil, Terrain.Fields.toList] at hlength
  · intro written hwritten
    have hfield : written.word ∈ row.fields.toList := row.words_eq ▸ List.mem_map_of_mem hwritten
    exact row.newline _ hfield

/-- The row of a terrain in which every field is in single quotes. -/
def ofTerrain (terrain : Terrain) (h : terrain.OneLine) : Row where
  terrain := terrain
  fields := terrain.defaultFields
  words := Word.spaced terrain.defaultFields.toList
  behind := []
  apart := Word.writtenApart_spaced _
  words_eq := Word.map_word_spaced _
  newline := h.newline_not_mem_defaultFields

theorem text_ofTerrain {terrain : Terrain} (h : terrain.OneLine) :
    (ofTerrain terrain h).text = writeRow terrain := by
  rw [text, ofTerrain, Word.writeLine_spaced, Terrain.toList_defaultFields]
  rfl

end Row

/-- Every terrain that fits on one line has a row, and so has each of many. -/
theorem exists_rows {terrains : List Terrain} (h : ∀ terrain ∈ terrains, terrain.OneLine) :
    ∃ rows : List Row, rows.map Row.terrain = terrains ∧
      rows.map Row.text = terrains.map writeRow := by
  induction terrains with
  | nil => exact ⟨[], rfl, rfl⟩
  | cons terrain terrains ih =>
    have hterrain : terrain.OneLine := h terrain (by simp)
    rcases ih fun other hother => h other (List.mem_cons_of_mem _ hother) with ⟨rows, hrows, htexts⟩
    refine ⟨.ofTerrain terrain hterrain :: rows, ?_, ?_⟩
    · rw [List.map_cons, hrows]
      rfl
    · rw [List.map_cons, List.map_cons, htexts, Row.text_ofTerrain]

/-! ## Catalogues -/

/-- The rows one below the other under a header, perhaps with a line feed behind the last row. -/
def under (header : Text) (rows : List Row) (final : Bool) : Text :=
  header ++ '\n' ::
    (Text.joinWith ['\n'] (rows.map Row.text) ++ Text.ending (rows.map Row.text) final)

/-- Consecutive rows are read in order. -/
theorem result_readRows_map_text (rows : List Row) (number : Nat) :
    (readRows number (rows.map Row.text)).result = .ok (rows.map Row.terrain) := by
  induction rows generalizing number with
  | nil => rfl
  | cons row rows ih =>
    rw [List.map_cons, readRows, Outcome.result_bind_eq_ok]
    refine ⟨row.terrain, row.result_readRow_text number, ?_⟩
    rw [Outcome.result_bind_eq_ok]
    exact ⟨rows.map Row.terrain, ih (number + 1), rfl⟩

theorem result_read_under {header : Text} (hheader : '\n' ∉ header) (rows : List Row)
    (final : Bool) : (read (under header rows final)).result = .ok (rows.map Row.terrain) := by
  have hrows : ∀ text ∈ rows.map Row.text, Text.IsRow text := by
    intro text htext
    rcases List.mem_map.1 htext with ⟨row, -, rfl⟩
    exact row.isRow_text
  rw [read, under, Text.drop_lines_header hheader, Text.lines_joinWith hrows]
  exact result_readRows_map_text rows 2

/-- **What was written down is read back.** Under any header, rows of terrains give exactly these
terrains, in order, whatever fields, styles and gaps were chosen for each of them. Every catalogue
of terrains whose texts hold no line feed can be written down in this way. -/
theorem read_under (header : Text) (hheader : '\n' ∉ header) :
    (∀ (rows : List Row) (final : Bool),
        (read (under header rows final)).result = .ok (rows.map Row.terrain)) ∧
      ∀ terrains : List Terrain, (∀ terrain ∈ terrains, terrain.OneLine) →
        ∃ rows : List Row, rows.map Row.terrain = terrains := by
  constructor
  · intro rows final
    exact result_read_under hheader rows final
  · intro terrains hterrains
    rcases exists_rows hterrains with ⟨rows, hrows, -⟩
    exact ⟨rows, hrows⟩

/-- A row with gaps and styles of all kinds, words that stand for nothing in the columns of flags,
and numbers at the ends of their ranges. -/
def portRow : Row where
  terrain := {
    name := "Sea Port".toList
    shortName := "#1'".toList
    description := "$5 \\ #\r".toList
    moveCosts := { infantry := 4294967295, mech := 1, ship := 1, transport := 1 }
    defense := -2147483648
    generatesIncome := true
    repair := .naval
    isLand := true }
  fields := {
    income := "1".toList
    repair := "N".toList
    hideaway := "#".toList
    vision := "-".toList
    land := "1".toList
    shallow := []
    value := "-".toList
    income_iff := by decide
    ground_iff := by decide
    naval_iff := by decide
    air_iff := by decide
    hideaway_iff := by decide
    vision_eq := .inr (by decide)
    land_iff := by decide
    shallow_iff := by decide
    value_iff := by decide }
  words := [⟨[' ', '\t'], .double, "Sea Port".toList⟩, ⟨['\t'], .single, "#1'".toList⟩] ++
    ["4294967295", "1", "0", "0", "0", "0", "1", "1", "-2147483648", "1", "N", "#", "-",
      "1"].map (fun word => ⟨[' '], .bare, word.toList⟩) ++
    [⟨[' '], .single, []⟩, ⟨[' '], .bare, "-".toList⟩, ⟨[' '], .double, "$5 \\ #\r".toList⟩]
  behind := [' ']
  apart := by constructor <;> decide
  words_eq := by decide
  newline := by decide

theorem read_portRow :
    '\n' ∉ "name".toList ∧
      under "name".toList [portRow] true =
        ("name\n \t\"Sea Port\"\t'#1'\\''' 4294967295 1 0 0 0 0 1 1 -2147483648 1 N # - 1 '' - " ++
          "\"\\$5 \\\\ #\r\" \n").toList ∧
      (read (under "name".toList [portRow] true)).result = .ok [portRow.terrain] ∧
      ∃ rows : List Row, rows.map Row.terrain = [portRow.terrain, portRow.terrain] := by
  have hheader : '\n' ∉ "name".toList := by decide
  have honeLine : portRow.terrain.OneLine := by constructor <;> decide
  refine ⟨hheader, by decide +kernel, (read_under _ hheader).1 [portRow] true, ?_⟩
  refine (read_under _ hheader).2 _ ?_
  intro terrain hterrain
  simp only [List.mem_cons, List.not_mem_nil, or_false, or_self] at hterrain
  exact hterrain ▸ honeLine

/-- Where there are no rows a line feed at the end makes a blank line, and a blank line is no row.
A line feed in a field ends the line, even if the field counts for nothing. -/
theorem read_stray_newline :
    (read ("name".toList ++ '\n' ::
        (Text.joinWith ['\n'] (([] : List Row).map Row.text) ++ ['\n']))).result =
      .error (.badRow 2 (.fieldCount 0)) ∧
    (read ("name".toList ++ '\n' ::
        "Plain Pln 1 1 1 1 1 1 0 0 2 '\n' - 0 - 1 1 0 Open".toList)).result =
      .error (.badRow 2 .unbalancedQuotes) := by
  constructor
  · rfl
  · rfl

/-- The catalogue that is written by default is read back. -/
theorem result_read_write {header : Text} (hheader : '\n' ∉ header) {terrains : List Terrain}
    (hterrains : ∀ terrain ∈ terrains, terrain.OneLine) :
    (read (write header terrains)).result = .ok terrains := by
  cases terrains with
  | nil =>
    have hlines : (Text.lines header).drop 1 = [] := by
      rcases eq_or_ne header [] with rfl | hne
      · rfl
      · simp [Text.lines, Text.cutLines_of_not_mem hheader hne]
    rw [write, List.flatMap_nil, List.append_nil, read, hlines]
    rfl
  | cons terrain terrains =>
    rcases exists_rows hterrains with ⟨rows, hrows, htexts⟩
    have hunder : write header (terrain :: terrains) = under header rows false := by
      rw [write, under, htexts, List.map_cons, Text.joinWith_cons, List.flatMap_cons,
        List.flatMap_map]
      simp [Text.ending]
    rw [hunder, result_read_under hheader, hrows]

end Catalogue

end Tilewright
