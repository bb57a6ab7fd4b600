import Mathlib.Data.List.TakeDrop
import Mathlib.Data.List.TakeWhile
import Tilewright.Host
import Tilewright.Proofs.Lines

/-!
# Framed regions

A host is split where two sentinel lines frame its region. `Host.Frame` takes a text with a framed
region apart: the lines before the region, the opening sentinel, the lines of the region, the
closing sentinel, and whatever is behind.

* `Host.cutAt_append_cons` and `Host.exists_of_cutAt_eq_some`: lines are cut at the first sentinel.
* `Host.Frame.split_eq` and `Host.exists_frame`: a host is split exactly where a frame is.
* `Host.Frame.eq_of_text_eq`: a text has one frame at most.
* `Host.split_cases`: a sentinel is missing, or the text is split at its frame.
* `Host.split_eq_ok_iff_frame`: what a split gives, when it fails, and on what it depends.

Each failure names its sentinel by the trimmed text. Two sentinels that trim to the same text are
named alike, so that the error alone does not tell which of the two is missing
(`Host.split_equal_sentinels`); the report of the region's start does.
-/

namespace Tilewright.Host

variable {sentinel : Text} {before behind lines : List Text} {sentinels : Sentinels}

/-! ## Cutting at a sentinel -/

theorem cutAt_append_cons (hbefore : ∀ line ∈ before, line.trim ≠ sentinel.trim) {line : Text}
    (hline : line.trim = sentinel.trim) (behind : List Text) :
    cutAt sentinel (before ++ line :: behind) = some (before, behind) := by
  have hplain : ∀ other ∈ before, (!isSentinel sentinel other) = true := by
    intro other hother
    simpa [isSentinel] using hbefore other hother
  rw [cutAt, List.span_eq_takeWhile_dropWhile, List.takeWhile_append_of_pos hplain,
    List.dropWhile_append_of_pos hplain]
  simp [isSentinel, hline]

theorem exists_of_cutAt_eq_some (h : cutAt sentinel lines = some (before, behind)) :
    ∃ line, lines = before ++ line :: behind ∧ line.trim = sentinel.trim ∧
      ∀ other ∈ before, other.trim ≠ sentinel.trim := by
  rw [cutAt, List.span_eq_takeWhile_dropWhile] at h
  split at h
  · exact absurd h (by simp)
  · next first line more hspan =>
    rcases Prod.mk.inj hspan with ⟨rfl, hdrop⟩
    rcases Prod.mk.inj (Option.some.inj h) with ⟨rfl, rfl⟩
    refine ⟨line, ?_, ?_, ?_⟩
    · rw [← hdrop, List.takeWhile_append_dropWhile]
    · -- the first line that was not dropped is the sentinel
      have hhead := List.head?_dropWhile_not (fun other => !isSentinel sentinel other) lines
      rw [hdrop] at hhead
      simpa [isSentinel] using hhead
    · intro other hother
      simpa [isSentinel] using List.mem_takeWhile_imp hother

theorem cutAt_eq_none_iff :
    cutAt sentinel lines = none ↔ ∀ line ∈ lines, line.trim ≠ sentinel.trim := by
  constructor
  · intro h line hline hsentinel
    rw [cutAt, List.span_eq_takeWhile_dropWhile] at h
    split at h
    · next first hspan =>
      have hall := List.dropWhile_eq_nil_iff.1 (Prod.mk.inj hspan).2 line hline
      simp [isSentinel, hsentinel] at hall
    · exact absurd h (by simp)
  · intro h
    rw [Option.eq_none_iff_forall_ne_some]
    rintro ⟨before, behind⟩ hcut
    rcases exists_of_cutAt_eq_some hcut with ⟨line, rfl, hline, -⟩
    exact h line (by simp) hline

/-! ## Frames -/

/-- A text with a region between two sentinels. Only the closing sentinel may lack its line feed,
because a line follows every other one. -/
@[ext]
structure Frame (sentinels : Sentinels) where
  /-- The lines before the region. -/
  lead : List Text
  opening : Text
  /-- The lines of the region. -/
  region : List Text
  closing : Text
  /-- What is behind the region. -/
  rest : Text
  lead_isLine : ∀ line ∈ lead, Text.IsLine line
  lead_trim : ∀ line ∈ lead, line.trim ≠ sentinels.opening.trim
  opening_isLine : Text.IsLine opening
  opening_trim : opening.trim = sentinels.opening.trim
  region_isLine : ∀ line ∈ region, Text.IsLine line
  region_trim : ∀ line ∈ region, line.trim ≠ sentinels.closing.trim
  closing_isLine : Text.IsLineBefore closing rest
  closing_trim : closing.trim = sentinels.closing.trim

namespace Frame

/-- The text up to the closing sentinel, which it still holds. -/
def through (frame : Frame sentinels) : Text :=
  frame.lead.flatten ++ frame.opening ++ frame.region.flatten ++ frame.closing

/-- The whole text. -/
def text (frame : Frame sentinels) : Text :=
  frame.through ++ frame.rest

/-- The host that the frame stands for. -/
def host (frame : Frame sentinels) : Host :=
  ⟨frame.lead.flatten, frame.region.flatten⟩

/-- The same frame with something else behind it. -/
def withRest (frame : Frame sentinels) (rest : Text)
    (h : Text.IsLineBefore frame.closing rest) : Frame sentinels :=
  { frame with rest := rest, closing_isLine := h }

theorem text_withRest (frame : Frame sentinels) {rest : Text}
    (h : Text.IsLineBefore frame.closing rest) :
    (frame.withRest rest h).text = frame.through ++ rest := rfl

/-- The lines of the frame are the lines of its text. -/
theorem cutLines_text (frame : Frame sentinels) :
    frame.text.cutLines = frame.lead ++ frame.opening ::
      (frame.region ++ frame.closing :: frame.rest.cutLines) := by
  have hclosing : Text.IsLineBefore frame.closing frame.rest.cutLines.flatten := by
    rw [Text.flatten_cutLines]
    exact frame.closing_isLine
  rw [Text.cutLines_eq_iff, Text.isCut_append_cons, Text.isCut_append_cons]
  refine ⟨⟨frame.lead_isLine, .inl frame.opening_isLine, frame.region_isLine, hclosing,
    Text.isCut_cutLines frame.rest⟩, ?_⟩
  simp [text, through]

theorem cutAt_opening (frame : Frame sentinels) :
    cutAt sentinels.opening frame.text.cutLines =
      some (frame.lead, frame.region ++ frame.closing :: frame.rest.cutLines) := by
  rw [frame.cutLines_text]
  exact cutAt_append_cons frame.lead_trim frame.opening_trim _

theorem cutAt_closing (frame : Frame sentinels) :
    cutAt sentinels.closing (frame.region ++ frame.closing :: frame.rest.cutLines) =
      some (frame.region, frame.rest.cutLines) :=
  cutAt_append_cons frame.region_trim frame.closing_trim _

/-- A framed text is split at its frame. -/
theorem split_eq (frame : Frame sentinels) (origin : Path) :
    split sentinels origin frame.text =
      ⟨[.regionStarts (frame.lead.length + 1),
        .regionEnds (frame.lead.length + 1 + frame.region.length + 1)], .ok frame.host⟩ := by
  rw [split, frame.cutAt_opening]
  dsimp only
  rw [frame.cutAt_closing]
  rfl

/-- A text has one frame at most. -/
theorem eq_of_text_eq {frame other : Frame sentinels} (h : frame.text = other.text) :
    frame = other := by
  -- both are cut at the same places
  have hopening := frame.cutAt_opening
  rw [h, other.cutAt_opening, Option.some.injEq, Prod.mk.injEq] at hopening
  rcases hopening with ⟨hlead, hbehind⟩
  have hclosing := frame.cutAt_closing
  rw [← hbehind, other.cutAt_closing, Option.some.injEq, Prod.mk.injEq] at hclosing
  rcases hclosing with ⟨hregion, hrest⟩
  -- so that only the sentinels themselves are left to compare
  have hlines := frame.cutLines_text
  rw [h, other.cutLines_text, hlead, hregion, hrest] at hlines
  have hsentinels := List.append_cancel_left hlines
  rw [List.cons.injEq] at hsentinels
  have hlast := List.append_cancel_left hsentinels.2
  rw [List.cons.injEq] at hlast
  have htext := congrArg List.flatten hrest
  rw [Text.flatten_cutLines, Text.flatten_cutLines] at htext
  exact Frame.ext hlead.symm hsentinels.1.symm hregion.symm hlast.1.symm htext.symm

/-- What is behind the closing sentinel does not count. -/
theorem split_eq_of_through_eq {frame other : Frame sentinels} (h : frame.through = other.through)
    (origin : Path) : split sentinels origin frame.text = split sentinels origin other.text := by
  -- the closing sentinel stays a line if nothing follows
  have hends (frame : Frame sentinels) : Text.IsLineBefore frame.closing [] := by
    rcases frame.closing_isLine with hline | ⟨hnewline, hne, -⟩
    · exact .inl hline
    · exact .inr ⟨hnewline, hne, rfl⟩
  have hsame : frame.withRest [] (hends frame) = other.withRest [] (hends other) := by
    apply eq_of_text_eq
    rw [text_withRest, text_withRest, h]
  have hlead : frame.lead = other.lead := (Frame.ext_iff.1 hsame).1
  have hregion : frame.region = other.region := (Frame.ext_iff.1 hsame).2.2.1
  rw [frame.split_eq, other.split_eq, host, host, hlead, hregion]

end Frame

/-- Lines with two sentinels in order are those of a frame. -/
theorem exists_frame_of_cutLines_eq {text opening closing : Text} {lead region rest : List Text}
    (hlines : text.cutLines = lead ++ opening :: (region ++ closing :: rest))
    (hlead : ∀ line ∈ lead, line.trim ≠ sentinels.opening.trim)
    (hopening : opening.trim = sentinels.opening.trim)
    (hregion : ∀ line ∈ region, line.trim ≠ sentinels.closing.trim)
    (hclosing : closing.trim = sentinels.closing.trim) :
    ∃ frame : Frame sentinels, frame.text = text := by
  rcases Text.cutLines_eq_iff.1 hlines with ⟨hcut, htext⟩
  rw [Text.isCut_append_cons, Text.isCut_append_cons] at hcut
  rcases hcut with ⟨hleadLines, hopeningLine, hregionLines, hclosingLine, -⟩
  -- the closing sentinel stands behind the opening one
  have hbehind : (region ++ closing :: rest).flatten ≠ [] := by simp [hclosingLine.ne_nil]
  let frame : Frame sentinels := {
    lead := lead
    opening := opening
    region := region
    closing := closing
    rest := rest.flatten
    lead_isLine := hleadLines
    lead_trim := hlead
    opening_isLine := hopeningLine.isLine hbehind
    opening_trim := hopening
    region_isLine := hregionLines
    region_trim := hregion
    closing_isLine := hclosingLine
    closing_trim := hclosing }
  refine ⟨frame, ?_⟩
  rw [← htext]
  simp [frame, Frame.text, Frame.through]

/-! ## Missing sentinels -/

/-- No line of the text is the opening sentinel. -/
def LacksOpening (sentinels : Sentinels) (text : Text) : Prop :=
  ∀ line ∈ text.cutLines, line.trim ≠ sentinels.opening.trim

/-- A line of the text is the opening sentinel, and behind the first such line none is the closing
sentinel. -/
def LacksClosing (sentinels : Sentinels) (text : Text) : Prop :=
  ∃ before line behind, text.cutLines = before ++ line :: behind ∧
    (∀ other ∈ before, other.trim ≠ sentinels.opening.trim) ∧
    line.trim = sentinels.opening.trim ∧
    ∀ other ∈ behind, other.trim ≠ sentinels.closing.trim

instance (sentinels : Sentinels) (text : Text) : Decidable (LacksOpening sentinels text) :=
  inferInstanceAs (Decidable (∀ line ∈ _, _))

section Missing

variable {origin : Path} {text : Text}

theorem split_of_lacksOpening (h : LacksOpening sentinels text) (origin : Path) :
    split sentinels origin text =
      ⟨[], .error (.sentinelMissing sentinels.opening.trim origin)⟩ := by
  rw [split, cutAt_eq_none_iff.2 h]

theorem exists_split_of_lacksClosing (h : LacksClosing sentinels text) (origin : Path) :
    ∃ number, split sentinels origin text =
      ⟨[.regionStarts number], .error (.sentinelMissing sentinels.closing.trim origin)⟩ := by
  rcases h with ⟨before, line, behind, hlines, hbefore, hline, hbehind⟩
  refine ⟨before.length + 1, ?_⟩
  rw [split, hlines, cutAt_append_cons hbefore hline]
  dsimp only
  rw [cutAt_eq_none_iff.2 hbehind]

/-- A text lacks the opening sentinel, or it lacks the closing one, or it has a frame. -/
theorem lacks_or_exists_frame (sentinels : Sentinels) (text : Text) :
    LacksOpening sentinels text ∨ LacksClosing sentinels text ∨
      ∃ frame : Frame sentinels, frame.text = text := by
  cases hopening : cutAt sentinels.opening text.cutLines with
  | none => exact .inl (cutAt_eq_none_iff.1 hopening)
  | some pair =>
    rcases pair with ⟨lead, behind⟩
    rcases exists_of_cutAt_eq_some hopening with ⟨opening, hlines, hopeningTrim, hlead⟩
    cases hclosing : cutAt sentinels.closing behind with
    | none =>
      exact .inr (.inl ⟨lead, opening, behind, hlines, hlead, hopeningTrim,
        cutAt_eq_none_iff.1 hclosing⟩)
    | some pair =>
      rcases pair with ⟨region, rest⟩
      rcases exists_of_cutAt_eq_some hclosing with ⟨closing, rfl, hclosingTrim, hregion⟩
      exact .inr (.inr (exists_frame_of_cutLines_eq hlines hlead hopeningTrim hregion
        hclosingTrim))

/-- All that a split can come to. -/
theorem split_cases (sentinels : Sentinels) (origin : Path) (text : Text) :
    (LacksOpening sentinels text ∧ split sentinels origin text =
      ⟨[], .error (.sentinelMissing sentinels.opening.trim origin)⟩) ∨
    (LacksClosing sentinels text ∧ ∃ number, split sentinels origin text =
      ⟨[.regionStarts number], .error (.sentinelMissing sentinels.closing.trim origin)⟩) ∨
    ∃ frame : Frame sentinels, frame.text = text ∧ ∃ starts ends, split sentinels origin text =
      ⟨[.regionStarts starts, .regionEnds ends], .ok frame.host⟩ := by
  rcases lacks_or_exists_frame sentinels text with hopening | hclosing | ⟨frame, rfl⟩
  · exact .inl ⟨hopening, split_of_lacksOpening hopening origin⟩
  · exact .inr (.inl ⟨hclosing, exists_split_of_lacksClosing hclosing origin⟩)
  · exact .inr (.inr ⟨frame, rfl, _, _, frame.split_eq origin⟩)

/-- A text that is split has a frame, and the split gives its parts. -/
theorem exists_frame {host : Host} (h : (split sentinels origin text).result = .ok host) :
    ∃ frame : Frame sentinels, frame.text = text ∧ frame.host = host := by
  rcases split_cases sentinels origin text with ⟨-, hsplit⟩ | ⟨-, number, hsplit⟩ |
    ⟨frame, hframe, starts, ends, hsplit⟩ <;> rw [hsplit] at h
  · exact absurd h (by simp)
  · exact absurd h (by simp)
  · exact ⟨frame, hframe, Except.ok.inj h⟩

/-- The region is not even found to start if and only if no line is the opening sentinel. -/
theorem split_eq_start_missing_iff :
    split sentinels origin text =
        ⟨[], .error (.sentinelMissing sentinels.opening.trim origin)⟩ ↔
      LacksOpening sentinels text := by
  constructor
  · intro h
    rcases split_cases sentinels origin text with ⟨hopening, -⟩ | ⟨-, number, hsplit⟩ |
      ⟨frame, -, starts, ends, hsplit⟩
    · exact hopening
    · exact absurd (hsplit.symm.trans h) (by simp)
    · exact absurd (hsplit.symm.trans h) (by simp)
  · intro h
    exact split_of_lacksOpening h origin

/-- The region is found to start but not to end if and only if no line behind the first opening
sentinel is the closing one. -/
theorem split_eq_end_missing_iff :
    (∃ number, split sentinels origin text =
        ⟨[.regionStarts number], .error (.sentinelMissing sentinels.closing.trim origin)⟩) ↔
      LacksClosing sentinels text := by
  constructor
  · rintro ⟨number, h⟩
    rcases split_cases sentinels origin text with ⟨-, hsplit⟩ | ⟨hclosing, -⟩ |
      ⟨frame, -, starts, ends, hsplit⟩
    · exact absurd (hsplit.symm.trans h) (by simp)
    · exact hclosing
    · exact absurd (hsplit.symm.trans h) (by simp)
  · intro h
    exact exists_split_of_lacksClosing h origin

/-- What is missing is the error, in whatever way it is missing. -/
theorem split_eq_error_iff {error : Error} :
    (split sentinels origin text).result = .error error ↔
      (LacksOpening sentinels text ∧
        error = .sentinelMissing sentinels.opening.trim origin) ∨
      (LacksClosing sentinels text ∧
        error = .sentinelMissing sentinels.closing.trim origin) := by
  constructor
  · intro h
    rcases split_cases sentinels origin text with ⟨hopening, hsplit⟩ |
      ⟨hclosing, number, hsplit⟩ | ⟨frame, -, starts, ends, hsplit⟩ <;> rw [hsplit] at h
    · exact .inl ⟨hopening, (Except.error.inj h).symm⟩
    · exact .inr ⟨hclosing, (Except.error.inj h).symm⟩
    · exact absurd h (by simp)
  · rintro (⟨hopening, rfl⟩ | ⟨hclosing, rfl⟩)
    · rw [split_of_lacksOpening hopening]
    · rcases exists_split_of_lacksClosing hclosing origin with ⟨number, hsplit⟩
      rw [hsplit]

end Missing

/-! ## Splitting -/

/-- Only the trimmed sentinels count. -/
theorem split_congr_trim {other : Sentinels}
    (hopening : other.opening.trim = sentinels.opening.trim)
    (hclosing : other.closing.trim = sentinels.closing.trim) (origin : Path) (text : Text) :
    split other origin text = split sentinels origin text := by
  have hcut {one two : Text} (h : one.trim = two.trim) : cutAt one = cutAt two := by
    funext lines
    rw [cutAt, cutAt]
    simp only [isSentinel, h]
  rw [split, split, hcut hopening, hcut hclosing, hopening, hclosing]

/-- **A host is split exactly where its region is framed.** The split gives a lead and a region if
and only if the text has a frame with these, and no text has two frames. It fails if and only if a
sentinel is missing: before the region starts, if no line is the opening one; once the region has
started, if no line behind the first opening one is the closing one. If the sentinels do not trim to
the same text, the error alone tells these two apart. Nothing behind the closing sentinel counts,
and of the sentinels only the trimmed text. -/
theorem split_eq_ok_iff_frame (sentinels : Sentinels) (origin : Path) (text : Text) :
    (∀ host, (split sentinels origin text).result = .ok host ↔
      ∃ frame : Frame sentinels, frame.text = text ∧ frame.host = host) ∧
    (∀ frame other : Frame sentinels, frame.text = text → other.text = text → frame = other) ∧
    (∀ error, (split sentinels origin text).result = .error error ↔
      (LacksOpening sentinels text ∧
        error = .sentinelMissing sentinels.opening.trim origin) ∨
      (LacksClosing sentinels text ∧
        error = .sentinelMissing sentinels.closing.trim origin)) ∧
    (split sentinels origin text =
        ⟨[], .error (.sentinelMissing sentinels.opening.trim origin)⟩ ↔
      LacksOpening sentinels text) ∧
    ((∃ number, split sentinels origin text =
        ⟨[.regionStarts number], .error (.sentinelMissing sentinels.closing.trim origin)⟩) ↔
      LacksClosing sentinels text) ∧
    (sentinels.opening.trim ≠ sentinels.closing.trim →
      ((split sentinels origin text).result =
          .error (.sentinelMissing sentinels.opening.trim origin) ↔
        LacksOpening sentinels text) ∧
      ((split sentinels origin text).result =
          .error (.sentinelMissing sentinels.closing.trim origin) ↔
        LacksClosing sentinels text)) ∧
    (∀ frame : Frame sentinels, frame.text = text → ∀ rest,
      Text.IsLineBefore frame.closing rest →
      split sentinels origin (frame.through ++ rest) = split sentinels origin text) ∧
    ∀ other : Sentinels, other.opening.trim = sentinels.opening.trim →
      other.closing.trim = sentinels.closing.trim →
      split other origin text = split sentinels origin text := by
  refine ⟨?_, ?_, ?_, split_eq_start_missing_iff, split_eq_end_missing_iff, ?_, ?_, ?_⟩
  · intro host
    constructor
    · exact exists_frame
    · rintro ⟨frame, rfl, rfl⟩
      rw [frame.split_eq]
  · intro frame other hframe hother
    exact Frame.eq_of_text_eq (hframe.trans hother.symm)
  · intro error
    exact split_eq_error_iff
  · -- the names tell the two failures apart
    intro hdiffer
    rw [split_eq_error_iff, split_eq_error_iff]
    simp [hdiffer, Ne.symm hdiffer]
  · rintro frame rfl rest hrest
    have hthrough : (frame.withRest rest hrest).through = frame.through := rfl
    rw [← frame.text_withRest hrest, Frame.split_eq_of_through_eq hthrough]
  · intro other hopening hclosing
    exact split_congr_trim hopening hclosing origin text

/-- A frame with returns and blanks at line ends, an opening sentinel in the region, a closing one
before it, and a line without a line feed behind. -/
def portFrame : Frame {} where
  lead := ["a\r\n".toList, "// end\n".toList]
  opening := " \t// start\u00a0\r\n".toList
  region := ["Template\n".toList, "// start\n".toList]
  closing := "// end\u2003\n".toList
  rest := "\x7d".toList
  lead_isLine := by decide
  lead_trim := by decide
  opening_isLine := by decide
  opening_trim := by decide
  region_isLine := by decide
  region_trim := by decide
  closing_isLine := by decide
  closing_trim := by decide

theorem split_portFrame :
    (split {} "host".toList portFrame.text).result =
        .ok ⟨"a\r\n// end\n".toList, "Template\n// start\n".toList⟩ ∧
      (∀ frame : Frame {}, frame.text = portFrame.text → frame = portFrame) ∧
      ({} : Sentinels).opening.trim ≠ ({} : Sentinels).closing.trim ∧
      (split {} "host".toList "// end\n".toList).result =
        .error (.sentinelMissing "// start".toList "host".toList) ∧
      Text.IsLineBefore portFrame.closing "// end\n".toList ∧
      split {} "host".toList (portFrame.through ++ "// end\n".toList) =
        split {} "host".toList portFrame.text ∧
      split ⟨"\t// start".toList, "// end ".toList⟩ "host".toList portFrame.text =
        split {} "host".toList portFrame.text := by
  have hdiffer : ({} : Sentinels).opening.trim ≠ ({} : Sentinels).closing.trim := by decide
  have hlacks : LacksOpening {} "// end\n".toList := by decide
  have hrest : Text.IsLineBefore portFrame.closing "// end\n".toList := by decide
  rcases split_eq_ok_iff_frame {} "host".toList portFrame.text with
    ⟨hok, hunique, -, -, -, -, hbehind, htrim⟩
  rcases (split_eq_ok_iff_frame {} "host".toList "// end\n".toList).2.2.2.2.2.1 hdiffer with
    ⟨hmissing, -⟩
  exact ⟨(hok _).2 ⟨portFrame, rfl, by decide⟩, fun frame h => hunique frame portFrame h rfl,
    hdiffer, hmissing.2 hlacks, hrest, hbehind portFrame rfl _ hrest,
    htrim _ (by decide) (by decide)⟩

/-- Of sentinels that are alike, a missing one is named like the other: the text has the opening
sentinel, and the error says that it is missing. -/
theorem split_equal_sentinels :
    ¬ ∀ (sentinels : Sentinels) (origin : Path) (text : Text),
      (split sentinels origin text).result =
          .error (.sentinelMissing sentinels.opening.trim origin) ↔
        ∀ line ∈ text.cutLines, line.trim ≠ sentinels.opening.trim := by
  intro h
  have hmissing := (h ⟨"x".toList, "x".toList⟩ "host.js".toList "x\n".toList).1 rfl
  exact hmissing "x\n".toList (by decide) (by decide)

end Tilewright.Host
