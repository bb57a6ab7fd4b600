import Mathlib.Data.List.Infix
import Mathlib.Data.List.Perm.Basic
import Tilewright.Proofs.Framing
import Tilewright.Proofs.InOrder

/-!
# What the generated text depends on

A generated text is the lead of the host, one expansion for each line of the catalogue behind its
header, and the terminator. An expansion depends on the region of the host, on the line, and on how
many lines stand before it, and on nothing else.

* `expansionOf` is the expansion of a line, and `assemble` puts expansions together.
* `generateText_eq_ok_iff_composed`: a text is generated if and only if it is composed in this way.
* `SameThrough` relates hosts that agree up to the closing sentinel.
* `Host.expand_serial_irrelevant`: where no serial is asked for, the place of a line does not count.
* `generateText_depends`: which parts of the texts of two runs bear on which parts of what they
  generate.
-/

namespace Tilewright

open Catalogue (dataLines)

/-! ## Expansions -/

/-- The region written for what a line says, with this many lines before it. -/
def expansionOf (region : Text) (serial : Nat) (line : Text) : Except RowFault Text :=
  (Catalogue.decode line).map fun terrain => Host.expand ⟨[], region⟩ terrain serial

theorem expansionOf_of_ok {line : Text} {terrain : Terrain}
    (h : Catalogue.decode line = .ok terrain) (region : Text) (serial : Nat) :
    expansionOf region serial line = .ok (Host.expand ⟨[], region⟩ terrain serial) := by
  rw [expansionOf, h, Except.map]

theorem expansionOf_of_error {line : Text} {fault : RowFault}
    (h : Catalogue.decode line = .error fault) (region : Text) (serial : Nat) :
    expansionOf region serial line = .error fault := by
  rw [expansionOf, h, Except.map]

/-- A lead, expansions with a line feed before each, and a terminator. -/
def assemble (lead : Text) (expansions : List Text) (terminator : Text) : Text :=
  lead ++ expansions.flatMap (fun expansion => '\n' :: expansion) ++ terminator

/-- Further expansions go before the terminator. -/
theorem assemble_prefix {expansions more : List Text} (h : expansions <+: more)
    (lead terminator : Text) :
    lead ++ expansions.flatMap (fun expansion => '\n' :: expansion) <+:
      assemble lead more terminator := by
  rcases h with ⟨behind, rfl⟩
  rw [assemble, List.flatMap_append, ← List.append_assoc, List.append_assoc]
  exact List.prefix_append _ _

/-- Terrains of consecutive serials are expanded one after the other. -/
theorem Host.expandFrom_eq_flatMap (host : Host) (serial : Nat) (terrains : List Terrain) :
    host.expandFrom serial terrains =
      (terrains.mapIdx fun i terrain => host.expand terrain (serial + i)).flatMap
        fun expansion => '\n' :: expansion := by
  induction terrains generalizing serial with
  | nil => rfl
  | cons terrain terrains ih =>
    rw [expandFrom, ih, List.mapIdx_cons, List.flatMap_cons]
    simp only [Nat.add_zero, Nat.add_assoc, Nat.add_comm 1]

theorem Host.stamp_eq_assemble (host : Host) (terrains : List Terrain) (terminator : Text) :
    host.stamp terrains terminator =
      assemble host.lead (terrains.mapIdx fun i terrain => host.expand terrain i) terminator := by
  rw [stamp, host.expandFrom_eq_flatMap, assemble]
  simp only [Nat.zero_add]

/-- If lines say terrains then their expansions are those of the terrains. -/
theorem mapIdx_expansionOf {lines : List Text} {terrains : List Terrain}
    (h : lines.map Catalogue.decode = terrains.map .ok) (host : Host) :
    lines.mapIdx (expansionOf host.region) =
      (terrains.mapIdx fun i terrain => host.expand terrain i).map .ok := by
  apply List.ext_getElem?
  intro i
  have hi : (lines[i]?).map Catalogue.decode = (terrains[i]?).map .ok := by
    rw [← List.getElem?_map, ← List.getElem?_map, h]
  rw [List.getElem?_mapIdx, List.getElem?_map, List.getElem?_mapIdx]
  cases hline : lines[i]? with
  | none =>
    cases hterrain : terrains[i]? with
    | none => rfl
    | some terrain => simp [hline, hterrain] at hi
  | some line =>
    cases hterrain : terrains[i]? with
    | none => simp [hline, hterrain] at hi
    | some terrain =>
      rw [hline, hterrain, Option.map_some, Option.map_some, Option.some.injEq] at hi
      rw [Option.map_some, Option.map_some, Option.map_some, expansionOf_of_ok hi]
      rfl

/-- Lines that have expansions say terrains. -/
theorem exists_terrains_of_expansionOf {region : Text} {lines expansions : List Text}
    (h : lines.mapIdx (expansionOf region) = expansions.map .ok) :
    ∃ terrains : List Terrain, lines.map Catalogue.decode = terrains.map .ok := by
  rcases Catalogue.exists_terrains_or_first_bad lines with hall |
    ⟨good, bad, behind, fault, terrains, rfl, -, hbad⟩
  · exact hall
  · -- the first bad line has no expansion
    have hmem : expansionOf region good.length bad ∈ expansions.map Except.ok := by
      rw [← h]
      exact List.mem_of_getElem? (i := good.length) (by simp)
    rcases List.mem_map.1 hmem with ⟨expansion, -, hexpansion⟩
    rw [expansionOf_of_error hbad] at hexpansion
    exact absurd hexpansion (by simp)

/-! ## Composition -/

/-- The output is composed of the parts of a host and of the expansions of the lines of a
catalogue. -/
structure Composed (sentinels : Sentinels) (terminator : Text) (origin : Path)
    (catalogue hostText output : Text) (host : Host) (expansions : List Text) : Prop where
  split_eq : (Host.split sentinels origin hostText).result = .ok host
  expansions_eq : (dataLines catalogue).mapIdx (expansionOf host.region) = expansions.map .ok
  output_eq : output = assemble host.lead expansions terminator

section Composition

variable {sentinels : Sentinels} {terminator output : Text} {origin : Path}
  {catalogue hostText : Text}

/-- A text is generated if and only if it is composed. -/
theorem generateText_eq_ok_iff_composed :
    (generateText sentinels terminator origin catalogue hostText).result = .ok output ↔
      ∃ host expansions,
        Composed sentinels terminator origin catalogue hostText output host expansions := by
  simp only [generateText, Outcome.result_bind_eq_ok]
  constructor
  · rintro ⟨terrains, hterrains, host, hhost, -, -, houtput⟩
    have hlines := Catalogue.result_readRows_eq_ok_iff.1 hterrains
    refine ⟨host, _, hhost, mapIdx_expansionOf hlines host, ?_⟩
    rw [← host.stamp_eq_assemble]
    exact (Except.ok.inj houtput).symm
  · rintro ⟨host, expansions, composed⟩
    rcases exists_terrains_of_expansionOf composed.expansions_eq with ⟨terrains, hlines⟩
    refine ⟨terrains, Catalogue.result_readRows_eq_ok_iff.2 hlines, host, composed.split_eq, (),
      rfl, ?_⟩
    have hexpansions := composed.expansions_eq
    rw [mapIdx_expansionOf hlines host] at hexpansions
    have hsame := (List.map_injective_iff.2 fun _ _ h => Except.ok.inj h) hexpansions
    rw [composed.output_eq, ← hsame, ← host.stamp_eq_assemble]
    rfl

namespace Composed

variable {host : Host} {expansions : List Text}

theorem length_eq
    (run : Composed sentinels terminator origin catalogue hostText output host expansions) :
    expansions.length = (dataLines catalogue).length := by
  simpa using (congrArg List.length run.expansions_eq).symm

/-- The expansion at a place is the one of the line at that place. -/
theorem getElem?_eq
    (run : Composed sentinels terminator origin catalogue hostText output host expansions)
    (i : Nat) :
    ((dataLines catalogue)[i]?).map (expansionOf host.region i) =
      (expansions[i]?).map .ok := by
  rw [← List.getElem?_mapIdx, run.expansions_eq, List.getElem?_map]

end Composed

end Composition

/-! ## Serials that do not count -/

/-- The region asks for the serial once the name of the class is written. -/
def AsksForSerial (region : Text) (terrain : Terrain) : Prop :=
  Placeholder.tag "serial".toList <:+:
    Substitution.apply ⟨Placeholder.classWord, terrain.className⟩ region

instance (region : Text) (terrain : Terrain) : Decidable (AsksForSerial region terrain) :=
  decidable_of_iff _ Text.occursIn_iff

/-- The serial is filled right after the name of the class, and it is filled in nowhere else. -/
theorem Terrain.exists_substitutions_eq (terrain : Terrain) :
    ∃ more, ∀ serial, terrain.substitutions serial =
      ⟨Placeholder.classWord, terrain.className⟩ ::
        Placeholder.fill "serial" (Decimal.ofNat serial) :: more :=
  ⟨_, fun _ => rfl⟩

/-- Where no serial is asked for, every serial gives the same expansion. -/
theorem Host.expand_serial_irrelevant {region : Text} {terrain : Terrain}
    (h : ¬ AsksForSerial region terrain) (lead : Text) (serial other : Nat) :
    Host.expand ⟨lead, region⟩ terrain serial = Host.expand ⟨lead, region⟩ terrain other := by
  have hfill (serial : Nat) : (Placeholder.fill "serial" (Decimal.ofNat serial)).apply
        (Substitution.apply ⟨Placeholder.classWord, terrain.className⟩ region) =
      Substitution.apply ⟨Placeholder.classWord, terrain.className⟩ region :=
    Substitution.apply_of_not_infix h
  rcases terrain.exists_substitutions_eq with ⟨more, hmore⟩
  rw [Host.expand, Host.expand, hmore, hmore]
  simp only [Substitution.applyAll_cons, hfill]

/-- The line says a terrain for which the region asks for the serial. -/
def LineAsksForSerial (region line : Text) : Prop :=
  ∃ terrain, Catalogue.decode line = .ok terrain ∧ AsksForSerial region terrain

instance (region line : Text) : Decidable (LineAsksForSerial region line) :=
  decidable_of_iff (∃ terrain ∈ (Catalogue.decode line).toOption, AsksForSerial region terrain) (by
    unfold LineAsksForSerial
    cases Catalogue.decode line <;> simp [Except.toOption])

theorem expansionOf_serial_irrelevant {region line : Text} (h : ¬ LineAsksForSerial region line)
    (serial other : Nat) : expansionOf region serial line = expansionOf region other line := by
  cases hline : Catalogue.decode line with
  | error fault => rw [expansionOf_of_error hline, expansionOf_of_error hline]
  | ok terrain =>
    have hterrain : ¬ AsksForSerial region terrain := fun hasks => h ⟨terrain, hline, hasks⟩
    rw [expansionOf_of_ok hline, expansionOf_of_ok hline,
      Host.expand_serial_irrelevant hterrain [] serial other]

/-- Where no serial is asked for, the expansions are those of the lines by themselves. -/
theorem mapIdx_expansionOf_eq_map {region : Text} {lines : List Text}
    (h : ∀ line ∈ lines, ¬ LineAsksForSerial region line) :
    lines.mapIdx (expansionOf region) = lines.map (expansionOf region 0) := by
  apply List.ext_getElem
  · simp
  · intro i hi _
    rw [List.getElem_mapIdx, List.getElem_map]
    exact expansionOf_serial_irrelevant (h _ (List.getElem_mem _)) i 0

/-- Lines for which no serial is asked are expanded by themselves. -/
theorem Composed.map_expansionOf_eq {sentinels : Sentinels} {terminator output : Text}
    {origin : Path} {catalogue hostText : Text} {host : Host} {expansions : List Text}
    (run : Composed sentinels terminator origin catalogue hostText output host expansions)
    (h : ∀ line ∈ dataLines catalogue, ¬ LineAsksForSerial host.region line) :
    (dataLines catalogue).map (expansionOf host.region 0) = expansions.map .ok := by
  rw [← run.expansions_eq, mapIdx_expansionOf_eq_map h]

/-! ## Two runs -/

/-- The texts are the same behind their first lines. -/
def SameBehindHeader (text other : Text) : Prop :=
  ∃ header otherHeader rest, text = header ++ rest ∧ other = otherHeader ++ rest ∧
    '\n' ∉ header ∧ '\n' ∉ otherHeader ∧ (rest = [] ∨ ∃ more, rest = '\n' :: more)

theorem SameBehindHeader.dataLines_eq {text other : Text} (h : SameBehindHeader text other) :
    dataLines other = dataLines text := by
  rcases h with ⟨header, otherHeader, rest, rfl, rfl, hheader, hother, hrest⟩
  exact Catalogue.dataLines_of_header hheader hother hrest

/-- Both texts have frames, and they are the same up to and including the closing sentinel. -/
def SameThrough (sentinels : Sentinels) (hostText otherText : Text) : Prop :=
  ∃ frame other : Host.Frame sentinels, frame.text = hostText ∧ other.text = otherText ∧
    frame.through = other.through

/-- Runs on hosts that agree up to the closing sentinel have the same host. -/
theorem SameThrough.host_eq {sentinels : Sentinels} {origin otherOrigin : Path}
    {hostText otherText : Text} {host otherHost : Host}
    (h : SameThrough sentinels hostText otherText)
    (hsplit : (Host.split sentinels origin hostText).result = .ok host)
    (hotherSplit : (Host.split sentinels otherOrigin otherText).result = .ok otherHost) :
    otherHost = host := by
  rcases h with ⟨frame, other, rfl, rfl, hthrough⟩
  rw [frame.split_eq] at hsplit
  rw [Host.Frame.split_eq_of_through_eq hthrough.symm, frame.split_eq] at hotherSplit
  exact Except.ok.inj (hotherSplit.symm.trans hsplit)

namespace Composed

variable {sentinels : Sentinels} {terminator : Text} {origin otherOrigin : Path}
  {catalogue otherCatalogue hostText otherHostText output otherOutput : Text} {host : Host}
  {expansions otherExpansions : List Text}
  (run : Composed sentinels terminator origin catalogue hostText output host expansions)
  (other : Composed sentinels terminator otherOrigin otherCatalogue otherHostText otherOutput host
    otherExpansions)

include run other

/-- Lines that are the same at a place have the same expansion at that place. -/
theorem getElem?_congr {i : Nat}
    (h : (dataLines otherCatalogue)[i]? = (dataLines catalogue)[i]?) :
    otherExpansions[i]? = expansions[i]? := by
  have hmap := other.getElem?_eq i
  rw [h, run.getElem?_eq] at hmap
  exact (Option.map_injective (fun _ _ => Except.ok.inj) hmap).symm

/-- The same lines give the same text. -/
theorem output_congr
    (h : dataLines otherCatalogue = dataLines catalogue) :
    otherOutput = output := by
  have hexpansions : otherExpansions = expansions := by
    apply List.ext_getElem?
    intro i
    exact run.getElem?_congr other (by rw [h])
  rw [other.output_eq, run.output_eq, hexpansions]

/-- One line that is different has one expansion that may be different. -/
theorem expansions_eq_set {k : Nat} {line : Text}
    (hk : k < (dataLines catalogue).length)
    (h : dataLines otherCatalogue = (dataLines catalogue).set k line) :
    ∃ expansion, expansionOf host.region k line = .ok expansion ∧
      otherExpansions = expansions.set k expansion := by
  have hlength : otherExpansions.length = expansions.length := by
    rw [run.length_eq, other.length_eq, h, List.length_set]
  have hkExpansions : k < expansions.length := by
    rw [run.length_eq]
    exact hk
  have hkOther : k < otherExpansions.length := by
    rw [hlength]
    exact hkExpansions
  refine ⟨otherExpansions[k], ?_, ?_⟩
  · have hline := other.getElem?_eq k
    rw [h, List.getElem?_set_self hk, List.getElem?_eq_getElem hkOther] at hline
    exact Option.some.inj hline
  · apply List.ext_getElem?
    intro i
    by_cases hi : i = k
    · subst hi
      rw [List.getElem?_set_self hkExpansions, List.getElem?_eq_getElem hkOther]
    · rw [List.getElem?_set_ne (Ne.symm hi)]
      apply run.getElem?_congr other
      rw [h, List.getElem?_set_ne (Ne.symm hi)]

/-- Further lines give further expansions. -/
theorem expansions_prefix
    (h : dataLines catalogue <+: dataLines otherCatalogue) :
    expansions <+: otherExpansions := by
  rw [List.prefix_iff_getElem?]
  intro i hi
  have hiLines : i < (dataLines catalogue).length := by
    rw [← run.length_eq]
    exact hi
  rw [← List.getElem?_eq_getElem hi]
  apply run.getElem?_congr other
  rw [List.getElem?_eq_getElem hiLines]
  exact List.prefix_iff_getElem?.1 h i hiLines

/-- A line for which no serial is asked has the same expansion wherever it stands. -/
theorem getElem?_eq_of_line {i j : Nat} {line : Text}
    (hi : (dataLines catalogue)[i]? = some line)
    (hj : (dataLines otherCatalogue)[j]? = some line)
    (hserial : ¬ LineAsksForSerial host.region line) : otherExpansions[j]? = expansions[i]? := by
  have hrun := run.getElem?_eq i
  have hother := other.getElem?_eq j
  rw [hi, Option.map_some] at hrun
  rw [hj, Option.map_some, expansionOf_serial_irrelevant hserial j i, hrun] at hother
  exact (Option.map_injective (fun _ _ => Except.ok.inj) hother).symm

/-- If no serial is asked for, lines in another order give expansions in another order. -/
theorem expansions_perm
    (hserial : ∀ line ∈ dataLines catalogue, ¬ LineAsksForSerial host.region line)
    (h : (dataLines otherCatalogue).Perm (dataLines catalogue)) :
    otherExpansions.Perm expansions := by
  have hotherSerial : ∀ line ∈ dataLines otherCatalogue,
      ¬ LineAsksForSerial host.region line := by
    intro line hline
    exact hserial line (h.mem_iff.1 hline)
  have hmap := h.map (expansionOf host.region 0)
  rw [run.map_expansionOf_eq hserial, other.map_expansionOf_eq hotherSerial] at hmap
  exact (List.map_perm_map_iff fun _ _ => Except.ok.inj).1 hmap

end Composed

/-- **A generated text depends on the right parts of what it is generated from.** It is composed of
the lead, one expansion for each line behind the header, and the terminator, and the expansion of a
line is that of the region, of the place and of the line. So two runs with hosts that agree up to
the closing sentinel have the same expansion wherever they have the same line at the same place.
* Texts that are the same behind their headers give the same output.
* A line that is put in another's place changes its own expansion and no other.
* Further rows only add to the output before the terminator.
* Where no serial is asked for, the place of a line does not count: the line has the same expansion
  wherever it stands in either run, and a new order of the lines is a new order of the
  expansions. -/
theorem generateText_depends {sentinels : Sentinels} {terminator : Text}
    {origin otherOrigin : Path}
    {catalogue otherCatalogue hostText otherHostText output otherOutput : Text}
    (hrun : (generateText sentinels terminator origin catalogue hostText).result = .ok output)
    (hother : (generateText sentinels terminator otherOrigin otherCatalogue otherHostText).result =
      .ok otherOutput) :
    ∃ host otherHost expansions otherExpansions,
      Composed sentinels terminator origin catalogue hostText output host expansions ∧
      Composed sentinels terminator otherOrigin otherCatalogue otherHostText otherOutput otherHost
        otherExpansions ∧
      expansions.length = (dataLines catalogue).length ∧
      (SameThrough sentinels hostText otherHostText →
        otherHost = host ∧
        (∀ i : Nat, (dataLines otherCatalogue)[i]? = (dataLines catalogue)[i]? →
          otherExpansions[i]? = expansions[i]?) ∧
        (SameBehindHeader catalogue otherCatalogue → otherOutput = output) ∧
        (∀ k line, k < (dataLines catalogue).length →
          dataLines otherCatalogue = (dataLines catalogue).set k line →
          ∃ expansion, expansionOf host.region k line = .ok expansion ∧
            otherExpansions = expansions.set k expansion) ∧
        (catalogue.lines <+: otherCatalogue.lines →
          ∃ body, output = body ++ terminator ∧ body <+: otherOutput) ∧
        (∀ (i j : Nat) (line : Text), (dataLines catalogue)[i]? = some line →
          (dataLines otherCatalogue)[j]? = some line →
          ¬ LineAsksForSerial host.region line → otherExpansions[j]? = expansions[i]?) ∧
        ((∀ line ∈ dataLines catalogue, ¬ LineAsksForSerial host.region line) →
          (dataLines catalogue).map (expansionOf host.region 0) = expansions.map .ok ∧
          ((dataLines otherCatalogue).Perm (dataLines catalogue) →
            otherExpansions.Perm expansions))) := by
  rcases generateText_eq_ok_iff_composed.1 hrun with ⟨host, expansions, run⟩
  rcases generateText_eq_ok_iff_composed.1 hother with ⟨otherHost, otherExpansions, other⟩
  refine ⟨host, otherHost, expansions, otherExpansions, run, other, run.length_eq, ?_⟩
  intro hthrough
  have hhost : otherHost = host := hthrough.host_eq run.split_eq other.split_eq
  subst hhost
  refine ⟨rfl, ?_, ?_, ?_, ?_, ?_, ?_⟩
  · intro i hline
    exact run.getElem?_congr other hline
  · intro hbehind
    exact run.output_congr other hbehind.dataLines_eq
  · intro k line hk hset
    exact run.expansions_eq_set other hk hset
  · intro hlines
    have hprefix := run.expansions_prefix other (hlines.drop 1)
    refine ⟨_, run.output_eq, ?_⟩
    rw [other.output_eq]
    exact assemble_prefix hprefix _ _
  · intro i j line hi hj hserial
    exact run.getElem?_eq_of_line other hi hj hserial
  · intro hserial
    constructor
    · exact run.map_expansionOf_eq hserial
    · intro hperm
      exact run.expansions_perm other hserial hperm

def plainThenSea : Text :=
  ("#\nPlain Pln 1 1 1 1 1 1 0 0 2 0 - 0 - 1 1 0 Open\n" ++
    "Sea Sea 0 0 0 0 0 1 1 1 0 0 - 0 - 0 0 - Water\n").toList

/-- The rows of `plainThenSea` in the other order. -/
def seaThenPlain : Text :=
  ("\nSea Sea 0 0 0 0 0 1 1 1 0 0 - 0 - 0 0 - Water\r\n" ++
    "Plain Pln 1 1 1 1 1 1 0 0 2 0 - 0 - 1 1 0 Open").toList

theorem generateText_seaThenPlain :
    (generateText {} ";".toList "a".toList plainThenSea Host.portFrame.text).result =
        .ok "a\r\n// end\n\nPlain\n// start\n\nSea\n// start\n;".toList ∧
      (generateText {} ";".toList "b".toList seaThenPlain Host.portFrame.through).result =
        .ok "a\r\n// end\n\nSea\n// start\n\nPlain\n// start\n;".toList ∧
      SameThrough {} Host.portFrame.text Host.portFrame.through ∧
      (∀ line ∈ dataLines plainThenSea, ¬ LineAsksForSerial Host.portFrame.host.region line) ∧
      ∃ expansions otherExpansions : List Text,
        Composed {} ";".toList "a".toList plainThenSea Host.portFrame.text
          "a\r\n// end\n\nPlain\n// start\n\nSea\n// start\n;".toList
          Host.portFrame.host expansions ∧
        Composed {} ";".toList "b".toList seaThenPlain Host.portFrame.through
          "a\r\n// end\n\nSea\n// start\n\nPlain\n// start\n;".toList
          Host.portFrame.host otherExpansions ∧
        otherExpansions.Perm expansions := by
  have hrun : (generateText {} ";".toList "a".toList plainThenSea Host.portFrame.text).result =
      .ok "a\r\n// end\n\nPlain\n// start\n\nSea\n// start\n;".toList := rfl
  have hother : (generateText {} ";".toList "b".toList seaThenPlain
      Host.portFrame.through).result =
      .ok "a\r\n// end\n\nSea\n// start\n\nPlain\n// start\n;".toList := rfl
  have hthrough : SameThrough {} Host.portFrame.text Host.portFrame.through :=
    ⟨Host.portFrame, Host.portFrame.withRest [] (by decide), rfl, by decide, rfl⟩
  rcases generateText_depends hrun hother with
    ⟨host, otherHost, expansions, otherExpansions, run, other, -, hdepends⟩
  have hhost : host = Host.portFrame.host :=
    Except.ok.inj (run.split_eq.symm.trans (congrArg Outcome.result (Host.portFrame.split_eq _)))
  subst hhost
  have hserial : ∀ line ∈ dataLines plainThenSea,
      ¬ LineAsksForSerial Host.portFrame.host.region line := by decide +kernel
  have hperm : (dataLines seaThenPlain).Perm (dataLines plainThenSea) := by decide +kernel
  rcases hdepends hthrough with ⟨rfl, -, -, -, -, -, hplaces⟩
  rcases hplaces hserial with ⟨-, hexpansions⟩
  exact ⟨hrun, hother, hthrough, hserial, expansions, otherExpansions, run, other,
    hexpansions hperm⟩

end Tilewright
