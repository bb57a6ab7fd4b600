import Tilewright.Proofs.Columns
import Tilewright.Proofs.Lines
import Tilewright.Proofs.Marks
import Tilewright.Proofs.Writing

/-!
# Reading in order

A catalogue is read line by line. Either every line behind the header is a row, and the terrains
are those of the lines, in order; or the reading stops at the first line that is none.

* `Catalogue.Readable` and `Catalogue.Refusal` say which lines are rows, and why the others are not.
* `Catalogue.readRows_append`: rows that were read are reported, and the reading goes on behind
  them.
* `Catalogue.readRows_of_first_bad`: at a line that is no row the reading stops.
* `Catalogue.read_whole_or_up_to_first_bad`: a catalogue is read whole, or up to the first bad line.
-/

namespace Tilewright.Catalogue

/-! ## One line -/

/-- A line is a row if it splits into nineteen fields, and every column of numbers can hold its
field. -/
def Readable (line : Text) : Prop :=
  ∃ fields, fields? line = some fields ∧ fields.length = fieldCount ∧
    ∀ column : Column, column.fits (column.field fields) = true

/-- Why a line is no row, in the words of the report. -/
inductive Refusal (line : Text) : Text → Prop where
  | quotes : fields? line = none → Refusal line "unbalanced quotes".toList
  | count {fields : List Text} : fields? line = some fields → fields.length ≠ 19 →
    Refusal line ("expected 19 fields, found ".toList ++ Decimal.ofNat fields.length)
  | number {fields : List Text} {fault : RowFault} : fields? line = some fields →
    fields.length = 19 → Terrain.ofFields fields = .error fault → Refusal line fault.reason

theorem readable_iff {line : Text} : Readable line ↔ ∃ terrain, decode line = .ok terrain := by
  unfold Readable decode
  cases fields? line with
  | none => simp
  | some fields =>
    simp only [Option.some.injEq, exists_eq_left']
    exact Terrain.exists_ofFields_eq_ok_iff.symm

theorem readable_of_decode {line : Text} {terrain : Terrain} (h : decode line = .ok terrain) :
    Readable line :=
  readable_iff.2 ⟨terrain, h⟩

theorem not_readable_of_decode {line : Text} {fault : RowFault} (h : decode line = .error fault) :
    ¬ Readable line := by
  rw [readable_iff]
  rintro ⟨terrain, hterrain⟩
  rw [h] at hterrain
  exact absurd hterrain (by simp)

theorem refusal_of_decode {line : Text} {fault : RowFault} (h : decode line = .error fault) :
    Refusal line fault.reason := by
  rw [decode] at h
  cases hfields : fields? line with
  | none =>
    rw [hfields] at h
    rcases Except.error.inj h with rfl
    exact .quotes hfields
  | some fields =>
    rw [hfields] at h
    dsimp only at h
    by_cases hlength : fields.length = fieldCount
    · exact .number hfields hlength h
    · rw [Terrain.ofFields_of_length_ne hlength] at h
      rcases Except.error.inj h with rfl
      exact .count hfields hlength

/-- A line of blanks has no fields. -/
theorem fields?_of_isGap {line : Text} (h : Word.IsGap line) : fields? line = some [] := by
  have hreads : Word.Reads (line ++ []) [] := Word.reads_gap h .nil
  rw [List.append_nil] at hreads
  rw [fields?, Word.split_escapeMarks]
  exact Word.split_eq_some_iff_reads.2 hreads

/-- A line of blanks is refused for its missing fields. -/
theorem refusal_of_isGap {line : Text} (h : Word.IsGap line) :
    ¬ Readable line ∧ Refusal line "expected 19 fields, found 0".toList := by
  have hfields := fields?_of_isGap h
  constructor
  · rintro ⟨fields, hsome, hlength, -⟩
    rcases Option.some.inj (hfields.symm.trans hsome) with rfl
    exact absurd hlength (by decide)
  · exact Refusal.count hfields (by decide)

/-! ## Consecutive lines -/

/-- The reports of terrains that were read from consecutive lines, of which the first has this
number. -/
def decodedFrom : (number : Nat) → List Terrain → Journal
  | _, [] => []
  | number, terrain :: terrains =>
    .rowDecoded number terrain.name terrain.moveCosts.impassable ::
      decodedFrom (number + 1) terrains

theorem readRow_of_decode_ok {line : Text} {terrain : Terrain} (h : decode line = .ok terrain)
    (number : Nat) :
    readRow number line =
      ⟨[.rowDecoded number terrain.name terrain.moveCosts.impassable], .ok terrain⟩ := by
  unfold decode at h
  unfold readRow
  cases hfields : fields? line with
  | none =>
    rw [hfields] at h
    exact absurd h (by simp)
  | some fields =>
    rw [hfields] at h
    have hterrain : Terrain.ofFields fields = .ok terrain := h
    dsimp only
    rw [readFields, hterrain]

theorem readRow_of_decode_error {line : Text} {fault : RowFault} (h : decode line = .error fault)
    (number : Nat) : readRow number line = ⟨[], .error (.badRow number fault)⟩ := by
  unfold decode at h
  unfold readRow
  cases hfields : fields? line with
  | none =>
    rw [hfields] at h
    rcases Except.error.inj h with rfl
    rfl
  | some fields =>
    rw [hfields] at h
    have hfault : Terrain.ofFields fields = .error fault := h
    dsimp only
    rw [readFields, hfault]

/-- Rows that were read are reported, and the reading goes on behind them. -/
theorem readRows_append {lines : List Text} {terrains : List Terrain}
    (h : lines.map decode = terrains.map .ok) (number : Nat) (behind : List Text) :
    readRows number (lines ++ behind) =
      ⟨decodedFrom number terrains ++ (readRows (number + lines.length) behind).events,
        (readRows (number + lines.length) behind).result.map (terrains ++ ·)⟩ := by
  induction lines generalizing number terrains with
  | nil =>
    rcases List.map_eq_nil_iff.1 h.symm with rfl
    rw [List.nil_append, List.length_nil, Nat.add_zero]
    rcases readRows number behind with ⟨events, result⟩
    cases result <;> rfl
  | cons line lines ih =>
    cases terrains with
    | nil => exact absurd h (by simp)
    | cons terrain terrains =>
      rw [List.map_cons, List.map_cons, List.cons.injEq] at h
      have hnumber : number + (line :: lines).length = number + 1 + lines.length := by
        rw [List.length_cons]
        omega
      rw [List.cons_append, readRows, readRow_of_decode_ok h.1, ih h.2, hnumber]
      -- what becomes of the lines behind decides how both sides end
      rcases readRows (number + 1 + lines.length) behind with ⟨events, result⟩
      cases result <;> simp [decodedFrom, Except.map]

/-- Rows alone are all read. -/
theorem readRows_of_decode {lines : List Text} {terrains : List Terrain}
    (h : lines.map decode = terrains.map .ok) (number : Nat) :
    readRows number lines = ⟨decodedFrom number terrains, .ok terrains⟩ := by
  have happend := readRows_append h number []
  rw [List.append_nil, readRows] at happend
  simpa [Except.map] using happend

/-- At a line that is no row the reading stops, and nothing behind it counts. -/
theorem readRows_of_first_bad {good : List Text} {terrains : List Terrain}
    (hgood : good.map decode = terrains.map .ok) {bad : Text} {fault : RowFault}
    (hbad : decode bad = .error fault) (number : Nat) (behind : List Text) :
    readRows number (good ++ bad :: behind) =
      ⟨decodedFrom number terrains, .error (.badRow (number + good.length) fault)⟩ := by
  have hrest : readRows (number + good.length) (bad :: behind) =
      ⟨[], .error (.badRow (number + good.length) fault)⟩ := by
    rw [readRows, readRow_of_decode_error hbad]
    rfl
  rw [readRows_append hgood, hrest, List.append_nil]
  rfl

/-- Lines are rows up to the first that is none. -/
theorem exists_terrains_or_first_bad (lines : List Text) :
    (∃ terrains : List Terrain, lines.map decode = terrains.map .ok) ∨
      ∃ good bad behind fault, ∃ terrains : List Terrain, lines = good ++ bad :: behind ∧
        good.map decode = terrains.map .ok ∧ decode bad = .error fault := by
  induction lines with
  | nil => exact .inl ⟨[], rfl⟩
  | cons line lines ih =>
    cases hline : decode line with
    | error fault => exact .inr ⟨[], line, lines, fault, [], rfl, rfl, hline⟩
    | ok terrain =>
      rcases ih with ⟨terrains, hterrains⟩ |
        ⟨good, bad, behind, fault, terrains, rfl, hgood, hbad⟩
      · refine .inl ⟨terrain :: terrains, ?_⟩
        rw [List.map_cons, List.map_cons, hline, hterrains]
      · refine .inr ⟨line :: good, bad, behind, fault, terrain :: terrains, rfl, ?_, hbad⟩
        rw [List.map_cons, List.map_cons, hline, hgood]

theorem readable_of_mem {lines : List Text} {terrains : List Terrain}
    (h : lines.map decode = terrains.map .ok) : ∀ line ∈ lines, Readable line := by
  intro line hline
  have hmem : decode line ∈ terrains.map Except.ok := h ▸ List.mem_map_of_mem hline
  rcases List.mem_map.1 hmem with ⟨terrain, -, hterrain⟩
  exact readable_of_decode hterrain.symm

/-! ## Catalogues -/

/-- The lines of a catalogue behind its header. -/
def dataLines (text : Text) : List Text :=
  text.lines.drop 1

/-- The first line is not looked at. -/
theorem dataLines_of_header {header other rest : Text} (hheader : '\n' ∉ header)
    (hother : '\n' ∉ other) (hrest : rest = [] ∨ ∃ more, rest = '\n' :: more) :
    dataLines (other ++ rest) = dataLines (header ++ rest) := by
  have halone {line : Text} (h : '\n' ∉ line) : dataLines line = [] := by
    rcases eq_or_ne line [] with rfl | hne
    · rfl
    · rw [dataLines, Text.lines, Text.cutLines_of_not_mem h hne]
      rfl
  rcases hrest with rfl | ⟨more, rfl⟩
  · rw [List.append_nil, List.append_nil, halone hheader, halone hother]
  · rw [dataLines, dataLines, Text.drop_lines_header hheader, Text.drop_lines_header hother]

/-- **A catalogue is read whole and in order, or up to its first bad line.** If every line behind
the header is a row then there is one terrain for each, which is what that line says, and each is
reported. Otherwise the rows before the first line that is none are reported, and the error is the
number of that line, counted from one with the header, and why it is no row; nothing behind it
counts. The header itself is not looked at, and a blank line has no fields. -/
theorem read_whole_or_up_to_first_bad (text : Text) :
    ((∃ terrains : List Terrain, (∀ line ∈ dataLines text, Readable line) ∧
        terrains.length = (dataLines text).length ∧
        (dataLines text).map decode = terrains.map .ok ∧
        read text = ⟨decodedFrom 2 terrains, .ok terrains⟩) ∨
      ∃ good bad behind fault, ∃ terrains : List Terrain,
        dataLines text = good ++ bad :: behind ∧
        (∀ line ∈ good, Readable line) ∧ ¬ Readable bad ∧ Refusal bad fault.reason ∧
        good.map decode = terrains.map .ok ∧
        read text = ⟨decodedFrom 2 terrains, .error (.badRow (good.length + 2) fault)⟩ ∧
        ∀ other : Text, (dataLines other).take (good.length + 1) = good ++ [bad] →
          read other = read text) ∧
    (∀ header rest, text = header ++ rest → '\n' ∉ header →
      (rest = [] ∨ ∃ more, rest = '\n' :: more) →
      ∀ other, '\n' ∉ other → read (other ++ rest) = read text) ∧
    ∀ blank : Text, (∀ c ∈ blank, c = ' ' ∨ c = '\t') →
      ¬ Readable blank ∧ Refusal blank "expected 19 fields, found 0".toList := by
  refine ⟨?_, ?_, ?_⟩
  · rcases exists_terrains_or_first_bad (dataLines text) with ⟨terrains, hterrains⟩ |
      ⟨good, bad, behind, fault, terrains, hlines, hgood, hbad⟩
    · have hlength : terrains.length = (dataLines text).length := by
        simpa using (congrArg List.length hterrains).symm
      exact .inl ⟨terrains, readable_of_mem hterrains, hlength, hterrains,
        readRows_of_decode hterrains 2⟩
    · have hread : read text =
          ⟨decodedFrom 2 terrains, .error (.badRow (good.length + 2) fault)⟩ := by
        rw [read, ← dataLines, hlines, readRows_of_first_bad hgood hbad, Nat.add_comm]
      refine .inr ⟨good, bad, behind, fault, terrains, hlines, readable_of_mem hgood,
        not_readable_of_decode hbad, refusal_of_decode hbad, hgood, hread, ?_⟩
      intro other hother
      -- the other text has the same first bad line
      have hotherLines : dataLines other =
          good ++ bad :: (dataLines other).drop (good.length + 1) := by
        conv_lhs => rw [← List.take_append_drop (good.length + 1) (dataLines other), hother]
        simp
      rw [hread, read, ← dataLines, hotherLines, readRows_of_first_bad hgood hbad, Nat.add_comm]
  · rintro header rest rfl hheader hrest other hother
    rw [read, read, ← dataLines, ← dataLines, dataLines_of_header hheader hother hrest]
  · intro blank hblank
    exact refusal_of_isGap hblank

/-- Behind a header: a row, a line of blanks, and a line with an open quote. -/
def rowThenBlanks : Text :=
  "\nPlain Pln 1 1 1 1 1 1 0 0 2 0 - 0 - 1 1 0 Open\n \t\n'".toList

theorem read_rowThenBlanks :
    '\n' ∉ "name '".toList ∧ '\n' ∉ "#".toList ∧
      read ("#".toList ++ rowThenBlanks) = read ("name '".toList ++ rowThenBlanks) ∧
      Refusal " \t".toList "expected 19 fields, found 0".toList ∧
      read ("name '".toList ++ rowThenBlanks) =
        ⟨[.rowDecoded 2 "Plain".toList [.ship, .transport]],
          .error (.badRow 3 (.fieldCount 0))⟩ := by
  have hheader : '\n' ∉ "name '".toList := by decide
  have hother : '\n' ∉ "#".toList := by decide
  have hblank : Word.IsGap " \t".toList := by decide
  rcases read_whole_or_up_to_first_bad ("name '".toList ++ rowThenBlanks) with
    ⟨-, hheaders, hblanks⟩
  refine ⟨hheader, hother, ?_, ?_, rfl⟩
  · exact hheaders _ rowThenBlanks rfl hheader (.inr ⟨rowThenBlanks.tail, rfl⟩) _ hother
  · exact (hblanks " \t".toList hblank).2

end Tilewright.Catalogue
