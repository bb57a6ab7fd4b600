import Mathlib.Data.List.Basic
import Tilewright.Proofs.Framing
import Tilewright.Proofs.Hygiene
import Tilewright.Proofs.InOrder
import Tilewright.Proofs.Locality

/-!
# Line ends with returns

Some systems end a line with a return and a line feed. Such a text has the same lines as the text
with line feeds alone, each with a return in front of its line feed.

* `Text.withReturns` puts the returns in, and `Text.cutLines_withReturns` says what becomes of the
  lines. `Text.lines_withReturns` and `Text.trim_withReturns`: the returns go with the line ends, and
  with the blanks around a sentinel.
* `Catalogue.read_withReturns` and `Catalogue.read_append_newline`: a catalogue is read alike.
* `Host.split_withReturns`: a host is split at the same lines.
* `Host.expand_withReturns`: a region is expanded line by line.
* `line_ends_irrelevant`: the style of line ends is kept where text is copied, and is of no account
  where it is read.
-/

namespace Tilewright

namespace Text

/-! ## Lines -/

/-- The text with a return in front of each line feed. -/
def withReturns (text : Text) : Text :=
  text.flatMap fun c => if c = '\n' then ['\r', '\n'] else [c]

theorem withReturns_append (text more : Text) :
    withReturns (text ++ more) = withReturns text ++ withReturns more :=
  List.flatMap_append

theorem withReturns_of_not_mem {text : Text} (h : '\n' ∉ text) : withReturns text = text := by
  induction text with
  | nil => rfl
  | cons c text ih =>
    rw [List.mem_cons, not_or] at h
    rw [withReturns, List.flatMap_cons, if_neg (Ne.symm h.1)]
    exact congrArg (c :: ·) (ih h.2)

/-- A line gets a return in front of its line feed. -/
theorem withReturns_line {body : Text} (h : '\n' ∉ body) :
    withReturns (body ++ ['\n']) = body ++ ['\r', '\n'] := by
  rw [withReturns_append, withReturns_of_not_mem h]
  rfl

theorem flatten_map_withReturns (lines : List Text) :
    (lines.map withReturns).flatten = withReturns lines.flatten := by
  induction lines with
  | nil => rfl
  | cons line lines ih => rw [List.map_cons, List.flatten_cons, List.flatten_cons, ih,
      withReturns_append]

theorem IsLineBefore.withReturns {line rest : Text} (h : IsLineBefore line rest) :
    IsLineBefore (withReturns line) (withReturns rest) := by
  rcases h with ⟨body, hbody, rfl⟩ | ⟨hline, hne, rfl⟩
  · refine .inl ⟨body ++ ['\r'], by simpa using hbody, ?_⟩
    rw [withReturns_line hbody, List.append_assoc]
    rfl
  · rw [withReturns_of_not_mem hline]
    exact .inr ⟨hline, hne, rfl⟩

theorem IsCut.map_withReturns {lines : List Text} (h : IsCut lines) :
    IsCut (lines.map withReturns) := by
  induction h with
  | nil => exact .nil
  | cons hline _ ih =>
    refine .cons ?_ ih
    rw [flatten_map_withReturns]
    exact hline.withReturns

/-- The text with returns has the same lines, each with a return. -/
theorem cutLines_withReturns (text : Text) :
    cutLines (withReturns text) = (cutLines text).map withReturns := by
  rw [cutLines_eq_iff, flatten_map_withReturns, flatten_cutLines]
  exact ⟨(isCut_cutLines text).map_withReturns, rfl⟩

/-- A line of a text ends in its only line feed, or has none. -/
theorem exists_body_of_mem_cutLines {text line : Text} (h : line ∈ cutLines text) :
    ∃ body, '\n' ∉ body ∧ (line = body ++ ['\n'] ∨ line = body) := by
  rcases List.append_of_mem h with ⟨before, behind, hlines⟩
  have hcut := isCut_cutLines text
  rw [hlines, isCut_append_cons] at hcut
  rcases hcut.2.1 with ⟨body, hbody, hline⟩ | ⟨hline, -, -⟩
  · exact ⟨body, hbody, .inl hline⟩
  · exact ⟨line, hline, .inr rfl⟩

/-! ## What is dropped with the line ends -/

/-- Of several blanks at the end the trimmed text keeps none. -/
theorem trim_append_of_blank {blanks : Text} (h : ∀ c ∈ blanks, isBlank c = true) (text : Text) :
    trim (text ++ blanks) = trim text := by
  have hreverse : ∀ c ∈ blanks.reverse, isBlank c = true := fun c hc => h c (List.mem_reverse.1 hc)
  unfold trim trimStart
  rw [List.dropWhile_append]
  split
  · next hempty =>
    -- the text is blank as a whole
    rw [List.isEmpty_iff.1 hempty, List.dropWhile_eq_nil_iff.2 h]
  · unfold trimEnd
    rw [List.reverse_append, List.dropWhile_append_of_pos hreverse]

/-- The return is a blank like the line feed behind it. -/
theorem trim_withReturns {text line : Text} (h : line ∈ cutLines text) :
    trim (withReturns line) = trim line := by
  have hnewline : ∀ c ∈ ['\n'], isBlank c = true := List.forall_mem_singleton.2 (by decide)
  have hboth : ∀ c ∈ ['\r', '\n'], isBlank c = true :=
    List.forall_mem_cons.2 ⟨by decide, hnewline⟩
  rcases exists_body_of_mem_cutLines h with ⟨body, hbody, rfl | rfl⟩
  · rw [withReturns_line hbody, trim_append_of_blank hboth, trim_append_of_blank hnewline]
  · rw [withReturns_of_not_mem hbody]

/-- The return goes with the line feed behind it. -/
theorem chomp_append_return_newline (line : Text) : chomp (line ++ ['\r', '\n']) = line := by
  have hreverse : (line ++ ['\r', '\n']).reverse = '\n' :: '\r' :: line.reverse := by simp
  unfold chomp
  rw [hreverse]
  exact List.reverse_reverse line

/-- A text that had no returns has the same lines with them. -/
theorem lines_withReturns {text : Text} (h : '\r' ∉ text) :
    lines (withReturns text) = lines text := by
  unfold lines
  rw [cutLines_withReturns, List.map_map]
  refine List.map_congr_left ?_
  intro line hline
  have hreturn : '\r' ∉ line := by
    intro hmem
    have hflat : '\r' ∈ (cutLines text).flatten := List.mem_flatten.2 ⟨line, hline, hmem⟩
    rw [flatten_cutLines] at hflat
    exact h hflat
  rw [Function.comp_apply]
  rcases exists_body_of_mem_cutLines hline with ⟨body, hbody, rfl | rfl⟩
  · have hlast : body.getLast? ≠ some '\r' := by
      intro hlast
      exact hreturn (List.mem_append_left _ (List.mem_of_getLast? hlast))
    rw [withReturns_line hbody, chomp_append_return_newline, chomp_append_newline hlast]
  · rw [withReturns_of_not_mem hbody]

/-- A line feed that the last line lacks can be put behind it. -/
theorem lines_append_newline {text : Text} (hne : text ≠ []) (hnewline : text.getLast? ≠ some '\n')
    (hreturn : text.getLast? ≠ some '\r') : lines (text ++ ['\n']) = lines text := by
  have hcut := isCut_cutLines text
  have hflat := flatten_cutLines text
  rcases List.eq_nil_or_concat (cutLines text) with hnil | ⟨before, last, hlines⟩
  · rw [hnil] at hflat
    exact absurd hflat.symm hne
  · rw [List.concat_eq_append] at hlines
    rw [hlines, isCut_append_cons] at hcut
    rw [hlines, List.flatten_append, List.flatten_singleton] at hflat
    have hend : text.getLast? = last.getLast? := by
      rw [← hflat, List.getLast?_append_of_ne_nil _ hcut.2.1.ne_nil]
    rw [hend] at hnewline hreturn
    rcases hcut.2.1 with hline | ⟨hline, -, -⟩
    · exact absurd (isLine_iff.1 hline).1 hnewline
    · have hmore : cutLines (text ++ ['\n']) = before ++ [last ++ ['\n']] := by
        rw [cutLines_eq_iff, isCut_append_cons]
        exact ⟨⟨hcut.1, .inl ⟨last, hline, rfl⟩, .nil⟩, by rw [← hflat]; simp⟩
      rw [lines, lines, hmore, hlines, List.map_append, List.map_append, List.map_singleton,
        List.map_singleton, chomp_append_newline hreturn, chomp_of_not_mem hline]

end Text

/-! ## Catalogues -/

namespace Catalogue

theorem read_congr {text other : Text} (h : dataLines other = dataLines text) :
    read other = read text := by
  rw [read, read, ← dataLines, ← dataLines, h]

theorem read_withReturns {text : Text} (h : '\r' ∉ text) : read text.withReturns = read text := by
  apply read_congr
  rw [dataLines, dataLines, Text.lines_withReturns h]

theorem read_append_newline {text : Text} (hnewline : text.getLast? ≠ some '\n')
    (hreturn : text.getLast? ≠ some '\r') : read (text ++ ['\n']) = read text := by
  apply read_congr
  rcases eq_or_ne text [] with rfl | hne
  · -- one empty line more, but it is the header
    rfl
  · rw [dataLines, dataLines, Text.lines_append_newline hne hnewline hreturn]

end Catalogue

/-! ## Hosts -/

namespace Host

/-- The host with a return in front of each line feed. -/
def withReturns (host : Host) : Host :=
  ⟨host.lead.withReturns, host.region.withReturns⟩

/-- Lines that are changed at their ends only are cut at the same places. -/
theorem cutAt_map {change : Text → Text} {lines : List Text}
    (h : ∀ line ∈ lines, (change line).trim = line.trim) (sentinel : Text) :
    cutAt sentinel (lines.map change) =
      (cutAt sentinel lines).map fun (before, behind) =>
        (before.map change, behind.map change) := by
  cases hcut : cutAt sentinel lines with
  | none =>
    rw [cutAt_eq_none_iff] at hcut
    rw [Option.map_none, cutAt_eq_none_iff, List.forall_mem_map]
    intro line hline
    rw [h line hline]
    exact hcut line hline
  | some pair =>
    rcases pair with ⟨before, behind⟩
    rcases exists_of_cutAt_eq_some hcut with ⟨line, rfl, hline, hbefore⟩
    rw [List.map_append, List.map_cons]
    refine cutAt_append_cons ?_ ?_ _
    · rw [List.forall_mem_map]
      intro other hother
      rw [h other (List.mem_append_left _ hother)]
      exact hbefore other hother
    · rw [h line (List.mem_append_right _ List.mem_cons_self)]
      exact hline

/-- A host with returns is split at the same lines, and its parts have returns. -/
theorem split_withReturns (sentinels : Sentinels) (origin : Path) (text : Text) :
    split sentinels origin text.withReturns =
      ⟨(split sentinels origin text).events,
        (split sentinels origin text).result.map withReturns⟩ := by
  have htrim : ∀ line ∈ text.cutLines, line.withReturns.trim = line.trim :=
    fun line => Text.trim_withReturns
  unfold split
  rw [Text.cutLines_withReturns, cutAt_map htrim]
  cases hopening : cutAt sentinels.opening text.cutLines with
  | none => rfl
  | some pair =>
    rcases pair with ⟨lead, behind⟩
    have hbehind : ∀ line ∈ behind, line.withReturns.trim = line.trim := by
      rcases exists_of_cutAt_eq_some hopening with ⟨opening, hlines, -⟩
      intro line hline
      refine htrim line ?_
      rw [hlines]
      exact List.mem_append_right _ (List.mem_cons_of_mem _ hline)
    simp only [Option.map_some, cutAt_map hbehind, List.length_map]
    cases hclosing : cutAt sentinels.closing behind with
    | none => rfl
    | some pair =>
      rcases pair with ⟨region, rest⟩
      simp only [Option.map_some, List.length_map, Text.flatten_map_withReturns]
      rfl

end Host

/-! ## Regions -/

/-- A text with returns is what stands between the line feeds, with both characters in their
place. -/
theorem Text.joinWith_splitOn (text : Text) :
    joinWith ['\r', '\n'] (text.splitOn '\n') = withReturns text := by
  induction text with
  | nil => rfl
  | cons c text ih =>
    have hne := List.splitOn_ne_nil '\n' text
    rw [List.splitOn_cons_eq_if_modifyHead, withReturns, List.flatMap_cons, ← withReturns]
    by_cases hc : c = '\n'
    · rw [if_pos (by simpa using hc), if_pos hc, joinWith_nil_cons _ hne, ih]
    · have hattach : (text.splitOn '\n').modifyHead (c :: ·) = attach c (text.splitOn '\n') := by
        cases hpieces : text.splitOn '\n' with
        | nil => exact absurd hpieces hne
        | cons piece pieces => rfl
      rw [if_neg (by simpa using hc), if_neg hc, hattach, joinWith_attach _ _ hne, ih]
      rfl

/-- Where needles hold none of several characters, a text is filled on both sides of them. -/
theorem Substitution.applyAll_append_between {substitutions : List Substitution} {between : Text}
    (hne : between ≠ []) (hneedles : ∀ s ∈ substitutions, s.needle ≠ [])
    (hbetween : ∀ c ∈ between, ∀ s ∈ substitutions, c ∉ s.needle) (before behind : Text) :
    applyAll substitutions (before ++ between ++ behind) =
      applyAll substitutions before ++ between ++ applyAll substitutions behind := by
  -- nothing is filled in between two of the characters
  have hempty : applyAll substitutions [] = [] := by
    apply applyAll_of_not_infix
    intro s hs hinfix
    exact hneedles s hs (List.infix_nil.1 hinfix)
  induction between generalizing before with
  | nil => exact absurd rfl hne
  | cons c between ih =>
    rw [List.forall_mem_cons] at hbetween
    have hcut := applyAll_append_cons hbetween.1 before (between ++ behind)
    rw [List.append_assoc, List.cons_append, hcut]
    cases between with
    | nil => simp
    | cons next more =>
      have hmore := ih (List.cons_ne_nil next more) hbetween.2 []
      rw [hempty, List.nil_append] at hmore
      rw [hmore]
      simp only [List.append_assoc, List.cons_append]

theorem Terrain.return_not_mem_needle (terrain : Terrain) (serial : Nat) :
    ∀ s ∈ terrain.substitutions serial, '\r' ∉ s.needle :=
  not_mem_needle (by decide) terrain serial

theorem Terrain.needle_ne_nil (terrain : Terrain) (serial : Nat) :
    ∀ s ∈ terrain.substitutions serial, s.needle ≠ [] := by
  intro s hs
  apply Placeholder.ne_nil_of_mem_needles
  rw [← Placeholder.needles_substitutions_eq terrain serial]
  exact List.mem_map_of_mem hs

/-- A region with returns is expanded line by line, and the returns stay with the line ends. -/
theorem Host.expand_withReturns (host : Host) (terrain : Terrain) (serial : Nat) :
    host.withReturns.expand terrain serial =
      Text.joinWith ['\r', '\n'] ((host.region.splitOn '\n').map fun line =>
        expand { host with region := line } terrain serial) := by
  have hbetween : ∀ c ∈ ['\r', '\n'], ∀ s ∈ terrain.substitutions serial, c ∉ s.needle := by
    simpa using ⟨terrain.return_not_mem_needle serial, terrain.newline_not_mem_needle serial⟩
  have hcut := Substitution.applyAll_append_between (List.cons_ne_nil '\r' ['\n'])
    (terrain.needle_ne_nil serial) hbetween
  have hfill := Substitution.applyAll_joinWith_of_append hcut
    (List.splitOn_ne_nil '\n' host.region)
  rw [Text.joinWith_splitOn] at hfill
  exact hfill

/-- **The style of line ends does not count.** A catalogue without returns is read alike with a return
in front of each line feed, and with a line feed behind its last line: the same terrains, or the same
error, and the same reports. A host is split at the same lines, and its parts are the same but for
the returns. What is written for a region with returns are its lines, written one by one, with a
return and a line feed between two of them. -/
theorem line_ends_irrelevant :
    (∀ text : Text, '\r' ∉ text →
      Catalogue.read text.withReturns = Catalogue.read text ∧
        (text.getLast? ≠ some '\n' →
          Catalogue.read (text ++ ['\n']) = Catalogue.read text ∧
            Catalogue.read (text ++ ['\n']).withReturns = Catalogue.read text)) ∧
      (∀ (sentinels : Sentinels) (origin : Path) (text : Text),
        Host.split sentinels origin text.withReturns =
          ⟨(Host.split sentinels origin text).events,
            (Host.split sentinels origin text).result.map fun host =>
              ⟨host.lead.withReturns, host.region.withReturns⟩⟩) ∧
      ∀ (lead region : Text) (terrain : Terrain) (serial : Nat),
        Host.expand ⟨lead, region.withReturns⟩ terrain serial =
          Text.joinWith ['\r', '\n'] ((region.splitOn '\n').map fun line =>
            Host.expand ⟨lead, line⟩ terrain serial) := by
  refine ⟨?catalogue, ?host, ?region⟩
  case catalogue =>
    intro text htext
    refine ⟨Catalogue.read_withReturns htext, ?_⟩
    intro hnewline
    have hlast : text.getLast? ≠ some '\r' := fun hlast => htext (List.mem_of_getLast? hlast)
    have hmore : '\r' ∉ text ++ ['\n'] := by simpa using htext
    rw [Catalogue.read_withReturns hmore, Catalogue.read_append_newline hnewline hlast]
    exact ⟨rfl, rfl⟩
  case host => exact Host.split_withReturns
  case region =>
    intro lead region terrain serial
    exact Host.expand_withReturns ⟨lead, region⟩ terrain serial

/-- The return behind a row is no part of its last field, and an empty row has no fields, also with a
return in it. A return in front of a sentinel's line feed does not hide the sentinel. -/
theorem line_ends_of_empty_row :
    let rows := "name\nPlain Pln 1 1 1 1 1 1 0 0 2 0 - 0 - 1 1 0 Open".toList
    let catalogue := "name\n\n'Sea".toList
    let host := "// start\n/*name*/\nTemplate\n// end\n".toList
    '\r' ∉ rows ∧ rows.getLast? ≠ some '\n' ∧
      (Catalogue.read (Text.withReturns (rows ++ ['\n']))).result =
        .ok [{ name := "Plain".toList, shortName := "Pln".toList, description := "Open".toList
               moveCosts := ⟨1, 1, 1, 1, 1, 1, 0, 0⟩, defense := 2
               isLand := true, isShallowWater := true, holdsValue := true }] ∧
      '\r' ∉ catalogue ∧ catalogue.getLast? ≠ some '\n' ∧
      (Catalogue.read (Text.withReturns (catalogue ++ ['\n']))).result =
        .error (.badRow 2 (.fieldCount 0)) ∧
      (Host.split {} "host".toList (Text.withReturns host)).result =
        .ok ⟨[], "/*name*/\r\nTemplate\r\n".toList⟩ ∧
      Host.expand ⟨[], Text.withReturns "/*name*/\nTemplate".toList⟩
        { name := "Sea Port".toList } 3 = "\"Sea Port\"\r\nSeaPort".toList := by
  intro rows catalogue host
  have hrowsReturn : '\r' ∉ rows := by decide
  have hrowsLast : rows.getLast? ≠ some '\n' := by decide
  have hreturn : '\r' ∉ catalogue := by decide
  have hlast : catalogue.getLast? ≠ some '\n' := by decide
  rcases line_ends_irrelevant with ⟨hcatalogue, hhost, hregion⟩
  refine ⟨hrowsReturn, hrowsLast, ?_, hreturn, hlast, ?_, ?_, ?_⟩
  · rw [((hcatalogue rows hrowsReturn).2 hrowsLast).2]
    rfl
  · rw [((hcatalogue catalogue hreturn).2 hlast).2]
    rfl
  · rw [hhost]
    rfl
  · rw [hregion]
    rfl

end Tilewright
