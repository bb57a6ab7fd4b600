import Mathlib.Data.List.TakeDrop
import Mathlib.Data.List.TakeWhile
import Tilewright.Generation

/-!
# What stands in the way of a run

A run stops at its first error. Each stage has obstacles that can be told from what it reads, and
the error of the stage is the first of them that is there.

* `firstOf` picks the first obstacle, and `Outcome.fault?_bind` puts the obstacles of two stages
  behind one another.
* `Catalogue.decode` is what a line says without regard to the others: `Catalogue.fault?_readRows`
  and `Catalogue.result_readRows_eq_ok_iff` read a catalogue line by line.
* `Host.fault?_split` has an obstacle for each sentinel.
* `Config.fault?_generate` and `Config.exists_of_generate_eq_ok` take a generation apart.
-/

namespace Tilewright

/-- The error of a result, if it is one. -/
def fault? {ε α : Type} : Except ε α → Option ε
  | .error error => some error
  | .ok _ => none

/-- The first of several obstacles that is there. -/
def firstOf (obstacles : List (Option Error)) : Option Error :=
  obstacles.findSome? id

theorem firstOf_cons (obstacle : Option Error) (obstacles : List (Option Error)) :
    firstOf (obstacle :: obstacles) = obstacle.or (firstOf obstacles) := by
  cases obstacle <;> rfl

theorem firstOf_append (first second : List (Option Error)) :
    firstOf (first ++ second) = (firstOf first).or (firstOf second) :=
  List.findSome?_append

theorem firstOf_nil : firstOf [] = none := rfl

/-- The obstacles of a second stage count only if the first stage has none. -/
theorem Outcome.fault?_bind {α β : Type} {first : Outcome α} {next : α → Outcome β}
    {obstacle : Option Error}
    (hnext : ∀ a, first.result = .ok a → fault? (next a).result = obstacle) :
    fault? (first >>= next).result = (fault? first.result).or obstacle := by
  rcases first with ⟨events, result⟩
  cases result with
  | error error => rfl
  | ok a => exact hnext a rfl

/-- A second stage that always succeeds adds no obstacle. -/
theorem Outcome.fault?_bind_of_forall {α β : Type} {first : Outcome α} {next : α → Outcome β}
    (hnext : ∀ a, fault? (next a).result = none) :
    fault? (first >>= next).result = fault? first.result := by
  rw [Outcome.fault?_bind fun a _ => hnext a, Option.or_none]

/-! ## Catalogues -/

namespace Catalogue

/-- What a line of the catalogue says. -/
def decode (line : Text) : Except RowFault Terrain :=
  match fields? line with
  | none => .error .unbalancedQuotes
  | some fields => Terrain.ofFields fields

/-- The first of consecutive lines that is not a row. The first line has this number. -/
def firstBadRow? (number : Nat) (lines : List Text) : Option Error :=
  (lines.zipIdx number).findSome? fun (line, number) =>
    (fault? (decode line)).map (.badRow number)

theorem firstBadRow?_cons (number : Nat) (line : Text) (lines : List Text) :
    firstBadRow? number (line :: lines) =
      ((fault? (decode line)).map (.badRow number)).or (firstBadRow? (number + 1) lines) := by
  rw [firstBadRow?, List.zipIdx_cons, List.findSome?_cons]
  cases h : (fault? (decode line)).map (Error.badRow number) <;> simp [h, firstBadRow?]

theorem result_readRow (number : Nat) (line : Text) :
    (readRow number line).result = (decode line).mapError (.badRow number) := by
  unfold readRow decode
  cases hfields : fields? line with
  | none => rfl
  | some fields =>
    dsimp only
    unfold readFields
    cases Terrain.ofFields fields <;> rfl

/-- The first line that is not a row stops the reading, and nothing else does. -/
theorem fault?_readRows (number : Nat) (lines : List Text) :
    fault? (readRows number lines).result = firstBadRow? number lines := by
  induction lines generalizing number with
  | nil => rfl
  | cons line lines ih =>
    have hrow : fault? (readRow number line).result =
        (fault? (decode line)).map (.badRow number) := by
      rw [result_readRow]
      cases decode line <;> rfl
    have hrows : fault? (readRows number (line :: lines)).result =
        (fault? (readRow number line).result).or (firstBadRow? (number + 1) lines) := by
      refine Outcome.fault?_bind ?_
      intro terrain _
      rw [Outcome.fault?_bind_of_forall fun _ => rfl, ih]
    rw [hrows, hrow, firstBadRow?_cons]

/-- The terrains are those that the lines say, one for each line. -/
theorem result_readRows_eq_ok_iff {number : Nat} {lines : List Text} {terrains : List Terrain} :
    (readRows number lines).result = .ok terrains ↔ lines.map decode = terrains.map .ok := by
  induction lines generalizing number terrains with
  | nil =>
    rw [readRows, List.map_nil, eq_comm (a := ([] : List (Except RowFault Terrain))),
      List.map_eq_nil_iff]
    exact ⟨fun h => (Except.ok.inj h).symm, fun h => h ▸ rfl⟩
  | cons line lines ih =>
    have hrow (terrain : Terrain) :
        (readRow number line).result = .ok terrain ↔ decode line = .ok terrain := by
      rw [result_readRow]
      cases decode line <;> simp [Except.mapError]
    simp only [readRows, Outcome.result_bind_eq_ok, hrow, ih, Outcome.pure_eq, Except.ok.injEq]
    constructor
    · rintro ⟨terrain, hterrain, rest, hrest, rfl⟩
      rw [List.map_cons, List.map_cons, hterrain, hrest]
    · intro h
      rw [List.map_cons] at h
      cases terrains with
      | nil => exact absurd h (by simp)
      | cons terrain rest =>
        rw [List.map_cons, List.cons.injEq] at h
        exact ⟨terrain, h.1, rest, h.2, rfl⟩

/-- There are as many terrains as lines. -/
theorem length_of_result_readRows_eq_ok {number : Nat} {lines : List Text}
    {terrains : List Terrain} (h : (readRows number lines).result = .ok terrains) :
    terrains.length = lines.length := by
  have hlength := congrArg List.length (result_readRows_eq_ok_iff.1 h)
  rw [List.length_map, List.length_map] at hlength
  exact hlength.symm

end Catalogue

/-! ## Hosts -/

namespace Host

/-- The obstacle that no line is the sentinel. -/
def missing (sentinel : Text) (origin : Path) (lines : List Text) : Option Error :=
  if lines.any (isSentinel sentinel) then none else some (.sentinelMissing sentinel.trim origin)

/-- The lines behind the first one that is the sentinel. -/
def linesBehind (sentinel : Text) (lines : List Text) : List Text :=
  (lines.dropWhile fun line => !isSentinel sentinel line).drop 1

theorem cutAt_eq (sentinel : Text) (lines : List Text) :
    cutAt sentinel lines =
      if lines.any (isSentinel sentinel) then
        some (lines.takeWhile fun line => !isSentinel sentinel line, linesBehind sentinel lines)
      else none := by
  rw [cutAt, List.span_eq_takeWhile_dropWhile, linesBehind]
  split
  · next before h =>
    -- no line ends the lines in front of the sentinel
    have hnone : lines.any (isSentinel sentinel) = false := by
      have hall := List.dropWhile_eq_nil_iff.1 (Prod.mk.inj h).2
      simpa using hall
    rw [hnone]
    rfl
  · next before first behind h =>
    rcases Prod.mk.inj h with ⟨rfl, hbehind⟩
    have hsome : lines.any (isSentinel sentinel) = true := by
      by_contra hnone
      have hall : lines.dropWhile (fun line => !isSentinel sentinel line) = [] := by
        rw [List.dropWhile_eq_nil_iff]
        simpa using hnone
      rw [hall] at hbehind
      exact absurd hbehind (by simp)
    rw [hsome, hbehind]
    rfl

/-- The opening sentinel is looked for first, and the closing one only behind it. -/
theorem fault?_split (sentinels : Sentinels) (origin : Path) (text : Text) :
    fault? (split sentinels origin text).result =
      (missing sentinels.opening origin text.cutLines).or
        (missing sentinels.closing origin (linesBehind sentinels.opening text.cutLines)) := by
  rw [split, cutAt_eq, missing, missing]
  by_cases hopening : text.cutLines.any (isSentinel sentinels.opening) = true
  · rw [if_pos hopening, if_pos hopening]
    dsimp only
    rw [cutAt_eq]
    by_cases hclosing : (linesBehind sentinels.opening text.cutLines).any
        (isSentinel sentinels.closing) = true
    · rw [if_pos hclosing, if_pos hclosing]
      rfl
    · rw [if_neg hclosing, if_neg hclosing]
      rfl
  · rw [if_neg hopening, if_neg hopening]
    rfl

/-- Nothing but the two ends of the region is reported. -/
theorem mem_events_load {sentinels : Sentinels} {path : Path} {contents : Except FileFault Text}
    {event : Event} (h : event ∈ (load sentinels path contents).events) :
    ∃ line, event = .regionStarts line ∨ event = .regionEnds line := by
  cases contents with
  | error fault => cases h
  | ok text =>
    unfold load split at h
    dsimp only at h
    split at h
    · cases h
    · split at h
      · exact ⟨_, .inl (List.mem_singleton.1 h)⟩
      · rcases List.mem_cons.1 h with hstarts | hends
        · exact ⟨_, .inl hstarts⟩
        · exact ⟨_, .inr (List.mem_singleton.1 hends)⟩

end Host

/-! ## Generations -/

namespace Config

variable {config : Config} {catalogue host : Except FileFault Text}

/-- What can stand in the way of a generation, in the order in which it counts. -/
def inputObstacles (config : Config) (catalogue host : Except FileFault Text) :
    List (Option Error) :=
  [(fault? config.validate).map .config,
    (fault? catalogue).map (.file config.catalogue),
    catalogue.toOption.bind fun text => Catalogue.firstBadRow? 2 (text.lines.drop 1),
    (fault? host).map (.file config.host),
    host.toOption.bind fun text =>
      Host.missing config.sentinels.opening config.host text.cutLines,
    host.toOption.bind fun text =>
      Host.missing config.sentinels.closing config.host
        (Host.linesBehind config.sentinels.opening text.cutLines)]

theorem fault?_loadCatalogue (path : Path) (contents : Except FileFault Text) :
    fault? (Catalogue.load path contents).result =
      ((fault? contents).map (.file path)).or
        (contents.toOption.bind fun text => Catalogue.firstBadRow? 2 (text.lines.drop 1)) := by
  cases contents with
  | error fault => rfl
  | ok text =>
    have hread : fault? (Catalogue.load path (.ok text)).result =
        fault? (Catalogue.read text).result := Outcome.fault?_bind_of_forall fun _ => rfl
    rw [hread, Catalogue.read, Catalogue.fault?_readRows]
    rfl

theorem fault?_loadHost (sentinels : Sentinels) (path : Path)
    (contents : Except FileFault Text) :
    fault? (Host.load sentinels path contents).result =
      ((fault? contents).map (.file path)).or
        ((contents.toOption.bind fun text =>
            Host.missing sentinels.opening path text.cutLines).or
          (contents.toOption.bind fun text =>
            Host.missing sentinels.closing path
              (Host.linesBehind sentinels.opening text.cutLines))) := by
  cases contents with
  | error fault => rfl
  | ok text => exact Host.fault?_split sentinels path text

/-- A configuration that fails its check is rejected before anything is read. -/
theorem generate_of_invalid {fault : ConfigFault} (invalid : config.validate = .error fault)
    (catalogue host : Except FileFault Text) :
    config.generate catalogue host = ⟨[], .error (.config fault)⟩ := by
  rw [generate, invalid]
  rfl

theorem generate_of_valid (valid : config.validate = .ok ())
    (catalogue host : Except FileFault Text) :
    config.generate catalogue host = do
      let terrains ← Catalogue.load config.catalogue catalogue
      let host ← Host.load config.sentinels config.host host
      Outcome.reportAll (host.stampEvents terrains)
      return ⟨terrains.length, host.stamp terrains config.terminator⟩ := by
  rw [generate, valid]

/-- A generation stops at the first obstacle. -/
theorem fault?_generate (config : Config) (catalogue host : Except FileFault Text) :
    fault? (config.generate catalogue host).result =
      firstOf (config.inputObstacles catalogue host) := by
  rw [inputObstacles]
  simp only [firstOf_cons, firstOf_nil, Option.or_none]
  cases hvalid : config.validate with
  | error fault =>
    rw [generate_of_invalid hvalid]
    rfl
  | ok valid =>
    have hhost : ∀ terrains : List Terrain, fault? (do
        let host ← Host.load config.sentinels config.host host
        Outcome.reportAll (host.stampEvents terrains)
        return ⟨terrains.length, host.stamp terrains config.terminator⟩ :
          Outcome Generated).result =
        fault? (Host.load config.sentinels config.host host).result :=
      fun _ => Outcome.fault?_bind_of_forall fun _ => rfl
    rw [generate_of_valid hvalid, Outcome.fault?_bind fun terrains _ => hhost terrains,
      fault?_loadCatalogue, fault?_loadHost, Option.or_assoc]
    rfl

/-- What a generation that succeeds has read, and what it has made of it. -/
theorem exists_of_generate_eq_ok {generated : Generated}
    (h : (config.generate catalogue host).result = .ok generated) :
    ∃ catalogueText hostText terrains split, catalogue = .ok catalogueText ∧ host = .ok hostText ∧
      (Catalogue.read catalogueText).result = .ok terrains ∧
      (Host.split config.sentinels config.host hostText).result = .ok split ∧
      generated = ⟨terrains.length, split.stamp terrains config.terminator⟩ := by
  cases hvalid : config.validate with
  | error fault =>
    rw [generate_of_invalid hvalid] at h
    exact absurd h (by simp)
  | ok valid =>
    rw [generate_of_valid hvalid, Outcome.result_bind_eq_ok] at h
    rcases h with ⟨terrains, hterrains, h⟩
    rw [Outcome.result_bind_eq_ok] at h
    rcases h with ⟨split, hsplit, h⟩
    cases catalogue with
    | error fault => exact absurd hterrains (by simp [Catalogue.load])
    | ok catalogueText =>
      cases host with
      | error fault => exact absurd hsplit (by simp [Host.load])
      | ok hostText =>
        rw [Catalogue.load, Outcome.result_bind_eq_ok] at hterrains
        rcases hterrains with ⟨read, hread, hsame⟩
        have hterrains : read = terrains := Except.ok.inj hsame
        have hgenerated : ⟨terrains.length, split.stamp terrains config.terminator⟩ = generated :=
          Except.ok.inj h
        exact ⟨catalogueText, hostText, terrains, split, rfl, rfl, hterrains ▸ hread, hsplit,
          hgenerated.symm⟩

end Config

end Tilewright
