import Tilewright.Proofs.Repetition
import Tilewright.Proofs.Verbosity

/-!
# How a run ends

The last event of a run says how it ended, and only the last one does: the stages of a run report
neither a failure nor a conclusion, whether they succeed or not.

* `Outcome.Underway` holds of a stage that leaves the ending to the run. It holds of two stages one
  after the other, and so of all of them (`Config.underway_compile`, `Arguments.underway_resolve`).
* `Arguments.Stops` is the first error of a run, and `Arguments.Completes` is a run without one.
* `CommandLine.run_follows_stages`: the exit code, the files and the journal agree on how the run
  ended.
-/

namespace Tilewright

/-! ## Stages -/

/-- Tells whether an event ends a run. -/
def Event.ends : Event → Bool
  | .generated _ | .failed _ => true
  | _ => false

namespace Outcome

variable {α β : Type}

/-- No event of the stage ends the run. -/
def Underway (outcome : Outcome α) : Prop :=
  ∀ event ∈ outcome.events, event.ends = false

theorem underway_pure (a : α) : (pure a : Outcome α).Underway := by
  intro event hevent
  cases hevent

theorem underway_error (error : Error) : (⟨[], .error error⟩ : Outcome α).Underway := by
  intro event hevent
  cases hevent

theorem underway_single {event : Event} (h : event.ends = false) (result : Except Error α) :
    (⟨[event], result⟩ : Outcome α).Underway := by
  intro reported hreported
  rwa [List.mem_singleton.1 hreported]

theorem Underway.bind {first : Outcome α} {next : α → Outcome β} (hfirst : first.Underway)
    (hnext : ∀ a, (next a).Underway) : (first >>= next).Underway := by
  rcases first with ⟨events, result⟩
  cases result with
  | error error => exact hfirst
  | ok a =>
    intro event hevent
    rcases List.mem_append.1 hevent with hbefore | hbehind
    · exact hfirst event hbefore
    · exact hnext a event hbehind

end Outcome

open Outcome

/-! ## Catalogues and hosts -/

theorem Catalogue.underway_readRow (number : Nat) (line : Text) :
    (readRow number line).Underway := by
  unfold readRow
  split
  · exact underway_error _
  · unfold readFields
    split
    · exact underway_error _
    · exact underway_single rfl _

theorem Catalogue.underway_readRows (number : Nat) (lines : List Text) :
    (readRows number lines).Underway := by
  induction lines generalizing number with
  | nil => exact underway_pure []
  | cons line lines ih =>
    refine (underway_readRow number line).bind fun terrain => ?_
    exact (ih (number + 1)).bind fun terrains => underway_pure _

theorem Catalogue.underway_load (path : Path) (contents : Except FileFault Text) :
    (load path contents).Underway := by
  cases contents with
  | error fault => exact underway_error _
  | ok text =>
    refine (underway_readRows 2 _).bind fun terrains => ?_
    exact (underway_single rfl _).bind fun _ => underway_pure _

theorem Host.underway_load (sentinels : Sentinels) (path : Path)
    (contents : Except FileFault Text) : (load sentinels path contents).Underway := by
  intro event hevent
  rcases mem_events_load hevent with ⟨line, rfl | rfl⟩ <;> rfl

theorem Host.not_ends_of_mem_stampedFrom {serial : Nat} {terrains : List Terrain} {event : Event}
    (h : event ∈ stampedFrom serial terrains) : event.ends = false := by
  induction terrains generalizing serial with
  | nil => cases h
  | cons terrain terrains ih =>
    rcases List.mem_cons.1 h with rfl | hlater
    · rfl
    · exact ih hlater

theorem Host.underway_stampEvents (host : Host) (terrains : List Terrain) :
    (Outcome.reportAll (host.stampEvents terrains)).Underway := by
  intro event hevent
  rcases List.mem_append.1 hevent with hunused | hstamped
  · cases terrains with
    | nil => cases hunused
    | cons terrain terrains =>
      rcases List.mem_map.1 hunused with ⟨needle, -, rfl⟩
      rfl
  · exact not_ends_of_mem_stampedFrom hstamped

/-! ## Configurations -/

namespace Config

theorem underway_load (path : Path) (contents : Except FileFault Text) :
    (load path contents).Underway := by
  unfold load
  split
  · exact underway_error _
  · split
    · exact underway_error _
    · exact underway_single rfl _

theorem underway_generate (config : Config) (catalogue host : Except FileFault Text) :
    (config.generate catalogue host).Underway := by
  unfold generate
  split
  · exact underway_error _
  · refine (Catalogue.underway_load _ _).bind fun terrains => ?_
    refine (Host.underway_load _ _ _).bind fun host => ?_
    exact (host.underway_stampEvents terrains).bind fun _ => underway_pure _

theorem underway_concluded (config : Config) (generated : Generated)
    (written : Except (Path × FileFault) Unit) : (config.concluded generated written).Underway := by
  cases written with
  | error fault => exact underway_error _
  | ok _ => exact underway_single rfl _

/-- A configuration that is run reports no ending. -/
theorem underway_compile (config : Config) (tree : FileTree) :
    (config.compile tree).1.Underway := by
  have hgenerate := config.underway_generate (tree.readText config.catalogue)
    (tree.readText config.host)
  unfold compile
  dsimp only
  split
  · exact hgenerate
  · exact hgenerate.bind fun done => config.underway_concluded done _

end Config

/-! ## Runs -/

namespace CommandLine

namespace Arguments

variable {given : Arguments} {tree : FileTree}

theorem underway_resolve (given : Arguments) (read : Path → Except FileFault Text) :
    (given.resolve read).Underway := by
  unfold resolve
  split
  · exact (Config.underway_load _ _).bind fun config => underway_pure _
  · split
    · exact underway_pure _
    · exact underway_error _

/-- The run has no error: it has a configuration, which generates so many classes. -/
structure Completes (given : Arguments) (tree : FileTree) (config : Config) (classes : Nat) :
    Prop where
  resolve : (given.resolve tree.readText).result = .ok config
  compile : (config.compile tree).1.result = .ok classes

/-- This is the first error of the run. -/
inductive Stops (given : Arguments) (tree : FileTree) (error : Error) : Prop where
  | resolve (h : (given.resolve tree.readText).result = .error error)
  | compile {config : Config} (hconfig : (given.resolve tree.readText).result = .ok config)
      (h : (config.compile tree).1.result = .error error)

/-- A run either has no error, or has a first one. -/
theorem completes_or_stops (given : Arguments) (tree : FileTree) :
    (∃ config classes, given.Completes tree config classes) ∨ ∃ error, given.Stops tree error := by
  cases hresolve : (given.resolve tree.readText).result with
  | error error => exact .inr ⟨error, .resolve hresolve⟩
  | ok config =>
    cases hcompile : (config.compile tree).1.result with
    | error error => exact .inr ⟨error, .compile hresolve hcompile⟩
    | ok classes => exact .inl ⟨config, classes, hresolve, hcompile⟩

/-- Neither stage of a run reports an ending. -/
theorem not_ends_of_mem_stages {config : Config} {event : Event}
    (h : event ∈ (given.resolve tree.readText).events ++ (config.compile tree).1.events) :
    event.ends = false := by
  rcases List.mem_append.1 h with hresolve | hcompile
  · exact given.underway_resolve _ event hresolve
  · exact config.underway_compile tree event hcompile

/-- What a run reports and leaves behind when it has no error. -/
theorem execute_of_completes {config : Config} {classes : Nat}
    (h : given.Completes tree config classes) :
    ∃ before, (∀ event ∈ before, event.ends = false) ∧
      given.execute tree =
        (⟨before ++ [.generated classes], .ok classes⟩, (config.compile tree).2) := by
  refine ⟨(given.resolve tree.readText).events ++ (config.compile tree).1.events, ?_, ?_⟩
  · exact fun event => not_ends_of_mem_stages
  · unfold execute
    simp only [h.resolve, h.compile]
    rfl

/-- What a run reports when it has an error. It leaves nothing behind. -/
theorem execute_of_stops {error : Error} (h : given.Stops tree error) :
    ∃ before, (∀ event ∈ before, event.ends = false) ∧
      given.execute tree = (⟨before ++ [.failed error], .error error⟩, tree) := by
  cases h with
  | resolve hresolve =>
    refine ⟨(given.resolve tree.readText).events, given.underway_resolve _, ?_⟩
    unfold execute
    simp only [hresolve]
  | @compile config hresolve hcompile =>
    refine ⟨(given.resolve tree.readText).events ++ (config.compile tree).1.events, ?_, ?_⟩
    · exact fun event => not_ends_of_mem_stages
    · unfold execute
      simp only [hresolve, hcompile, Config.compile_of_error hcompile]
      rfl

end Arguments

/-- Every run shows what is important enough for the usual journal. -/
theorem Arguments.info_le_level (given : Arguments) :
    Level.info.detail ≤ given.level.detail := by
  unfold Arguments.level
  split
  · exact Nat.le_succ 2
  · exact Nat.le_refl 2

/-- The last event of a run is always shown. -/
theorem upTo_append_ending (given : Arguments) (before : Journal) {last : Event}
    (hlast : last.ends = true) :
    Journal.upTo given.level (before ++ [last]) = before.upTo given.level ++ [last] := by
  have hinfo : last.level.detail ≤ Level.info.detail := by
    cases last with
    | generated classes => exact Nat.le_refl 2
    | failed error => exact Nat.zero_le 2
    | _ => cases hlast
  have hshown : decide (last.level.detail ≤ given.level.detail) = true :=
    decide_eq_true (Nat.le_trans hinfo given.info_le_level)
  unfold Journal.upTo
  rw [List.filter_append]
  congr 1
  exact List.filter_cons_of_pos (l := []) hshown

/-- The journal shown ends with the last event, and nothing before it is an error or says that the
run is complete. -/
def EndsWith (journal : Option Journal) (last : Event) : Prop :=
  ∃ before, journal = some (before ++ [last]) ∧
    ∀ event ∈ before, event.level ≠ .error ∧ ∀ classes, event ≠ .generated classes

/-- What was reported before the end is shown in part, and the end as a whole. -/
theorem endsWith_upTo (given : Arguments) {before : Journal} {last : Event}
    (hbefore : ∀ event ∈ before, event.ends = false) (hlast : last.ends = true) :
    EndsWith (some (Journal.upTo given.level (before ++ [last]))) last := by
  refine ⟨before.upTo given.level, congrArg some (upTo_append_ending given before hlast), ?_⟩
  intro event hevent
  have hends := hbefore event (List.mem_filter.1 hevent).1
  cases event with
  | generated classes => cases hends
  | failed error => cases hends
  | _ => exact ⟨Level.noConfusion, fun classes => Event.noConfusion⟩

/-- The exit code of a run with this result. -/
def exitCodeOf : Except Error Nat → ExitCode
  | .ok _ => .success
  | .error _ => .failure

section

variable {arguments : List Text} {given : Arguments} {tree : FileTree}

/-- The report of a run is taken from what was carried out. -/
theorem run_of_execute (hgiven : Arguments.ofList arguments = .ok given) {before : Journal}
    {last : Event} {result : Except Error Nat} {after : FileTree}
    (hbefore : ∀ event ∈ before, event.ends = false) (hlast : last.ends = true)
    (hexecute : given.execute tree = (⟨before ++ [last], result⟩, after)) :
    ∃ journal, EndsWith journal last ∧
      run arguments tree = (⟨exitCodeOf result, journal⟩, after) := by
  refine ⟨_, endsWith_upTo given hbefore hlast, ?_⟩
  unfold run
  rw [hgiven]
  dsimp only
  rw [hexecute]
  rfl

theorem run_of_completes (hgiven : Arguments.ofList arguments = .ok given) {config : Config}
    {classes : Nat} (h : given.Completes tree config classes) :
    ∃ journal, EndsWith journal (.generated classes) ∧
      run arguments tree = (⟨.success, journal⟩, (config.compile tree).2) := by
  rcases Arguments.execute_of_completes h with ⟨before, hbefore, hexecute⟩
  exact run_of_execute hgiven hbefore rfl hexecute

theorem run_of_stops (hgiven : Arguments.ofList arguments = .ok given) {error : Error}
    (h : given.Stops tree error) :
    ∃ journal, EndsWith journal (.failed error) ∧
      run arguments tree = (⟨.failure, journal⟩, tree) := by
  rcases Arguments.execute_of_stops h with ⟨before, hbefore, hexecute⟩
  exact run_of_execute hgiven hbefore rfl hexecute

/-- Arguments that can be used run without an error, or with a first one. -/
theorem run_success_or_failure (hgiven : Arguments.ofList arguments = .ok given)
    (tree : FileTree) :
    ((∃ config classes, given.Completes tree config classes) ∧
        (run arguments tree).1.exitCode = .success) ∨
      ((¬ ∃ config classes, given.Completes tree config classes) ∧
        (run arguments tree).1.exitCode = .failure) := by
  by_cases hcompletes : ∃ config classes, given.Completes tree config classes
  · rcases hcompletes with ⟨config, classes, h⟩
    rcases run_of_completes hgiven h with ⟨journal, -, hrun⟩
    exact .inl ⟨⟨config, classes, h⟩, by rw [hrun]⟩
  · rcases given.completes_or_stops tree with h | ⟨error, h⟩
    · exact absurd h hcompletes
    · rcases run_of_stops hgiven h with ⟨journal, -, hrun⟩
      exact .inr ⟨hcompletes, by rw [hrun]⟩

end

/-- **The exit code, the files and the journal of a run agree.** Arguments that cannot be used change
nothing. Any others run their configuration: the exit code says whether there was an error. A run
with an error leaves the tree as it was and ends its journal with the message of the first one; a
run without one leaves what its configuration compiles to and ends with the number of classes. More
detail changes what is shown, and nothing else. -/
theorem run_follows_stages (arguments : List Text) (tree : FileTree) :
    (∀ usage, Arguments.ofList arguments = .error usage →
      (run arguments tree).2 = tree ∧
        (run arguments tree).1.exitCode.toNat =
          if usage = .displayHelp ∨ usage = .displayVersion then 0 else 2) ∧
    ∀ given, Arguments.ofList arguments = .ok given →
      ((run arguments tree).1.exitCode.toNat = 0 ↔
        ∃ config classes, given.Completes tree config classes) ∧
      ((run arguments tree).1.exitCode.toNat = 1 ↔
        ¬ ∃ config classes, given.Completes tree config classes) ∧
      (∀ config classes, given.Completes tree config classes →
        (run arguments tree).2 = (config.compile tree).2 ∧
          ∃ last, EndsWith (run arguments tree).1.journal last ∧ last.level = .info ∧
            last.message =
              "generated ".toList ++ Decimal.ofNat classes ++ " terrain classes".toList) ∧
      ((¬ ∃ config classes, given.Completes tree config classes) →
        (run arguments tree).2 = tree ∧
          ∃ error last, given.Stops tree error ∧ EndsWith (run arguments tree).1.journal last ∧
            last.level = .error ∧ last.message = error.message) ∧
      (given.verbose = false → ∀ flag ∈ verboseNames,
        (run (flag :: arguments) tree).2 = (run arguments tree).2 ∧
          (run (flag :: arguments) tree).1.exitCode = (run arguments tree).1.exitCode ∧
          (run (flag :: arguments) tree).1.journal.map withoutDebug =
            (run arguments tree).1.journal) := by
  constructor
  · intro usage husage
    unfold run
    rw [husage]
    refine ⟨rfl, ?_⟩
    cases usage <;> rfl
  · intro given hgiven
    have hexit := run_success_or_failure hgiven tree
    refine ⟨?success, ?failure, ?completes, ?stops, ?detail⟩
    case success =>
      rcases hexit with ⟨hcompletes, hcode⟩ | ⟨hcompletes, hcode⟩ <;>
        simp [hcode, hcompletes, ExitCode.toNat]
    case failure =>
      rcases hexit with ⟨hcompletes, hcode⟩ | ⟨hcompletes, hcode⟩ <;>
        simp [hcode, hcompletes, ExitCode.toNat]
    case completes =>
      intro config classes h
      rcases run_of_completes hgiven h with ⟨journal, hends, hrun⟩
      rw [hrun]
      exact ⟨rfl, .generated classes, hends, rfl, rfl⟩
    case stops =>
      intro hcompletes
      rcases given.completes_or_stops tree with h | ⟨error, h⟩
      · exact absurd h hcompletes
      · rcases run_of_stops hgiven h with ⟨journal, hends, hrun⟩
        rw [hrun]
        exact ⟨rfl, error, .failed error, h, hends, rfl, rfl⟩
    case detail =>
      intro hverbose flag hflag
      exact run_verbose hflag hgiven hverbose tree

/-- The arguments that name the files of `Config.plainConfig`. -/
def plainArguments : List Text :=
  ["-d".toList, "./rows".toList, "--template=host.js".toList, "-o".toList,
    "gen//.././/plain.js".toList]

/-- A run of them succeeds, with and without more detail; a run without the host fails, and one with
an unknown flag is not carried out. -/
theorem run_plainArguments :
    ((run plainArguments Config.plainTree).1.exitCode.toNat = 0 ∧
      (run plainArguments Config.plainTree).2 =
        (Config.plainConfig.compile Config.plainTree).2 ∧
      (run ("-v".toList :: plainArguments) Config.plainTree).2 =
        (run plainArguments Config.plainTree).2) ∧
    (run (plainArguments.take 2) Config.plainTree).1.exitCode.toNat = 1 ∧
    (run ["--watch".toList] Config.plainTree).1.exitCode.toNat = 2 := by
  let given : Arguments :=
    { data := some Config.plainConfig.catalogue, template := some Config.plainConfig.host
      output := some Config.plainConfig.output }
  have hgiven : Arguments.ofList plainArguments = .ok given := by decide
  have hcompletes : given.Completes Config.plainTree Config.plainConfig 1 := ⟨rfl, rfl⟩
  rcases (run_follows_stages plainArguments Config.plainTree).2 given hgiven with
    ⟨hsuccess, -, hafter, -, hdetail⟩
  refine ⟨⟨hsuccess.2 ⟨_, _, hcompletes⟩, (hafter _ _ hcompletes).1,
    (hdetail rfl "-v".toList (by decide)).1⟩, ?_, ?_⟩
  · have hfew : Arguments.ofList (plainArguments.take 2) =
        .ok { data := some Config.plainConfig.catalogue } := by decide
    refine ((run_follows_stages _ Config.plainTree).2 _ hfew).2.1.2 ?_
    rintro ⟨config, classes, h⟩
    cases h.resolve
  · have hunknown : Arguments.ofList ["--watch".toList] = .error .unknownArgument := by decide
    exact ((run_follows_stages _ Config.plainTree).1 _ hunknown).2

end CommandLine

end Tilewright
