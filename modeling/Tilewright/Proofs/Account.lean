import Tilewright.Proofs.InOrder
import Tilewright.Proofs.Repetition

/-!
# The account of a run

What a run reports down to the debugging events is an account of what it did. Each stage reports
what it has done once it is done, so the reports say how far the run came.

* `Entry` is an event as the journal shows it: `Entry.decoded`, `Entry.loaded`, `Entry.stamped`
  and `Entry.written` are the four that a run can show.
* `Catalogue.load_of_decode` and `Catalogue.load_of_first_bad` are the events of a catalogue;
  `Config.generate_of_hostUnread` and `Config.generate_of_hostRead` go on behind it.
* `Config.Course` lists the courses that a run can take, each with its result, its entries and the
  tree that it leaves.
* `Config.compile_iff_course`: a run takes the course that its files allow, and no other.
-/

namespace Tilewright

/-! ## Entries -/

/-- What the journal shows of an event. -/
structure Entry where
  level : Level
  message : Text
  fields : List (Text × Text)
deriving DecidableEq, Repr

/-- An event as it is shown. -/
def Event.entry (event : Event) : Entry :=
  ⟨event.level, event.message, event.fields⟩

/-- The debugging events and all that is more important, as they are shown. -/
def Journal.entries (journal : Journal) : List Entry :=
  (journal.upTo .debug).map Event.entry

namespace Entry

/-- A line of the catalogue was read. The tags are those of the move types whose cost is zero, in
the order of the columns. -/
def decoded (line : Nat) (terrain : Terrain) : Entry where
  level := .debug
  message := "decoded terrain row".toList
  fields := [("line".toList, Decimal.ofNat line), ("name".toList, terrain.name),
    ("impassable".toList, Text.joinWith ",".toList
      ((MoveType.all.filter fun m => terrain.moveCosts.cost m = 0).map MoveType.tagName))]

/-- The catalogue under the path was read, with so many rows. -/
def loaded (path : Path) (count : Nat) : Entry where
  level := .info
  message := "loaded terrain catalogue".toList
  fields := [("path".toList, path), ("count".toList, Decimal.ofNat count)]

/-- The class of a terrain is written. Its name is that of the terrain without the spaces. -/
def stamped (serial : Nat) (terrain : Terrain) : Entry where
  level := .debug
  message := "stamping terrain class".toList
  fields := [("serial".toList, Decimal.ofNat serial),
    ("class".toList, terrain.name.filter fun c => c != ' ')]

/-- The file under the path was written, with so many classes and bytes. -/
def written (path : Path) (classes bytes : Nat) : Entry where
  level := .info
  message := "wrote generated terrain".toList
  fields := [("output".toList, path), ("classes".toList, Decimal.ofNat classes),
    ("bytes".toList, Decimal.ofNat bytes)]

/-- Terrains that were read from the lines behind the header, which is line one. -/
def allDecoded (terrains : List Terrain) : List Entry :=
  (terrains.zipIdx 2).map fun entry => decoded entry.2 entry.1

/-- Terrains whose classes are written, with serials from zero on. -/
def allStamped (terrains : List Terrain) : List Entry :=
  terrains.zipIdx.map fun entry => stamped entry.2 entry.1

end Entry

namespace Journal

theorem entries_append (first second : Journal) :
    entries (first ++ second) = entries first ++ entries second := by
  rw [entries, upTo, List.filter_append, List.map_append]
  rfl

/-- Events in full detail are not shown. -/
theorem entries_of_trace {journal : Journal} (h : ∀ event ∈ journal, event.level = .trace) :
    entries journal = [] := by
  have hnone : journal.upTo .debug = [] := by
    refine List.filter_eq_nil_iff.2 fun event hevent => ?_
    rw [h event hevent]
    decide
  rw [entries, hnone]
  rfl

end Journal

/-! ## Catalogues -/

namespace Catalogue

theorem entries_decodedFrom (number : Nat) (terrains : List Terrain) :
    (decodedFrom number terrains).entries =
      (terrains.zipIdx number).map fun entry => Entry.decoded entry.2 entry.1 := by
  induction terrains generalizing number with
  | nil => rfl
  | cons terrain terrains ih =>
    have himpassable : terrain.moveCosts.impassable =
        MoveType.all.filter fun m => terrain.moveCosts.cost m = 0 := by
      refine List.filter_congr fun m _ => ?_
      simp [MoveCosts.isPassable, bne, beq_eq_decide]
    rw [List.zipIdx_cons, List.map_cons, ← ih (number + 1), Entry.decoded, ← himpassable]
    rfl

/-- A catalogue whose lines are rows reports each of them, and then all of them together. -/
theorem load_of_decode {text : Text} {terrains : List Terrain}
    (h : (dataLines text).map decode = terrains.map .ok) (path : Path) :
    load path (.ok text) =
      ⟨decodedFrom 2 terrains ++ [.catalogueLoaded path terrains.length], .ok terrains⟩ := by
  have hread : read text = ⟨decodedFrom 2 terrains, .ok terrains⟩ := readRows_of_decode h 2
  unfold load
  dsimp only
  rw [hread]
  rfl

theorem entries_loaded (terrains : List Terrain) (path : Path) :
    Journal.entries (decodedFrom 2 terrains ++ [.catalogueLoaded path terrains.length]) =
      Entry.allDecoded terrains ++ [Entry.loaded path terrains.length] := by
  rw [Journal.entries_append, entries_decodedFrom]
  rfl

/-- A catalogue with a bad line reports the rows before the first one, and nothing else. -/
theorem load_of_first_bad {text : Text} {good : List Text} {bad : Text} {behind : List Text}
    {terrains : List Terrain} {fault : RowFault} (hlines : dataLines text = good ++ bad :: behind)
    (hgood : good.map decode = terrains.map .ok) (hbad : decode bad = .error fault) (path : Path) :
    load path (.ok text) =
      ⟨decodedFrom 2 terrains, .error (.badRow (good.length + 2) fault)⟩ := by
  have hread : read text = ⟨decodedFrom 2 terrains, .error (.badRow (good.length + 2) fault)⟩ := by
    rw [read, ← dataLines, hlines, readRows_of_first_bad hgood hbad, Nat.add_comm]
  unfold load
  dsimp only
  rw [hread]
  rfl

end Catalogue

/-! ## Hosts -/

namespace Host

/-- Where the region starts and ends is not shown. -/
theorem entries_load (sentinels : Sentinels) (path : Path) (contents : Except FileFault Text) :
    (load sentinels path contents).events.entries = [] := by
  apply Journal.entries_of_trace
  intro event hevent
  rcases mem_events_load hevent with ⟨line, rfl | rfl⟩ <;> rfl

theorem entries_stampedFrom (serial : Nat) (terrains : List Terrain) :
    Journal.entries (stampedFrom serial terrains) =
      (terrains.zipIdx serial).map fun entry => Entry.stamped entry.2 entry.1 := by
  induction terrains generalizing serial with
  | nil => rfl
  | cons terrain terrains ih =>
    rw [List.zipIdx_cons, List.map_cons, ← ih (serial + 1)]
    rfl

/-- Of what is reported when terrains are stamped, the classes are shown. -/
theorem entries_stampEvents (host : Host) (terrains : List Terrain) :
    (host.stampEvents terrains).entries = Entry.allStamped terrains := by
  rw [stampEvents, Journal.entries_append, entries_stampedFrom, Journal.entries_of_trace]
  · rfl
  · cases terrains with
    | nil => simp
    | cons terrain terrains =>
      intro event hevent
      rcases List.mem_map.1 hevent with ⟨needle, -, rfl⟩
      rfl

end Host

/-! ## Runs -/

namespace Config

variable {config : Config} {tree : FileTree} {terrains : List Terrain}

/-- The run got through the catalogue: the configuration is valid, and each line behind the header
is the row of one of the terrains. -/
structure CatalogueRead (config : Config) (tree : FileTree) (terrains : List Terrain) : Prop where
  valid : config.validate = .ok ()
  read : ∃ text, tree.readText config.catalogue = .ok text ∧
    (Catalogue.dataLines text).map Catalogue.decode = terrains.map .ok

/-- The host of a run, if its file can be read and split. -/
def hostOf (config : Config) (tree : FileTree) : Except Error Host :=
  (Host.load config.sentinels config.host (tree.readText config.host)).result

/-- The courses that a run can take on a tree: its result, its entries, and the tree that it
leaves. -/
inductive Course (config : Config) (tree : FileTree) :
    Except Error Nat → List Entry → FileTree → Prop where
  /-- The configuration is not valid. Nothing is reported. -/
  | invalid {fault} (h : config.validate = .error fault) :
    Course config tree (.error (.config fault)) [] tree
  /-- The file of the catalogue cannot be read. Nothing is reported. -/
  | catalogueUnread {fault} (valid : config.validate = .ok ())
      (h : tree.readText config.catalogue = .error fault) :
    Course config tree (.error (.file config.catalogue fault)) [] tree
  /-- A line of the catalogue is no row. The rows before it are reported. -/
  | badRow {text good bad behind terrains fault} (valid : config.validate = .ok ())
      (htext : tree.readText config.catalogue = .ok text)
      (hlines : Catalogue.dataLines text = good ++ bad :: behind)
      (hgood : good.map Catalogue.decode = terrains.map .ok)
      (hbad : Catalogue.decode bad = .error fault) :
    Course config tree (.error (.badRow (good.length + 2) fault)) (Entry.allDecoded terrains) tree
  /-- The host cannot be read, or lacks a sentinel. The catalogue is reported. -/
  | hostUnread {terrains error} (read : CatalogueRead config tree terrains)
      (h : config.hostOf tree = .error error) :
    Course config tree (.error error)
      (Entry.allDecoded terrains ++ [Entry.loaded config.catalogue terrains.length]) tree
  /-- The output cannot be written. All the classes are reported as well. -/
  | outputUnwritten {terrains host path fault} (read : CatalogueRead config tree terrains)
      (hhost : config.hostOf tree = .ok host)
      (h : (tree.replaceFile config.output (host.stamp terrains config.terminator)).1 =
        .error (path, fault)) :
    Course config tree (.error (.file path fault))
      (Entry.allDecoded terrains ++ [Entry.loaded config.catalogue terrains.length] ++
        Entry.allStamped terrains) tree
  /-- The output was written, and its size is reported. -/
  | complete {terrains host after place contents} (read : CatalogueRead config tree terrains)
      (hhost : config.hostOf tree = .ok host)
      (h : tree.replaceFile config.output (host.stamp terrains config.terminator) = (.ok (), after))
      (hplace : after.locate config.output = .ok place)
      (hfile : after.node? place = some (.file contents)) :
    Course config tree (.ok terrains.length)
      (Entry.allDecoded terrains ++ [Entry.loaded config.catalogue terrains.length] ++
        Entry.allStamped terrains ++
        [Entry.written config.output terrains.length contents.size]) after

/-! ### Generating -/

theorem exists_load_eq (config : Config) (tree : FileTree) :
    ∃ events, Host.load config.sentinels config.host (tree.readText config.host) =
        ⟨events, config.hostOf tree⟩ ∧ Journal.entries events = [] :=
  ⟨_, rfl, Host.entries_load _ _ _⟩

/-- A generation that got through the catalogue, and not through the host. -/
theorem generate_of_hostUnread (read : CatalogueRead config tree terrains) {error : Error}
    (h : config.hostOf tree = .error error) :
    ∃ events, config.generate (tree.readText config.catalogue) (tree.readText config.host) =
        ⟨events, .error error⟩ ∧
      Journal.entries events =
        Entry.allDecoded terrains ++ [Entry.loaded config.catalogue terrains.length] := by
  rcases read with ⟨valid, text, htext, hterrains⟩
  rcases exists_load_eq config tree with ⟨events, hload, hevents⟩
  rw [generate_of_valid valid, htext, Catalogue.load_of_decode hterrains, hload, h]
  simp only [Outcome.bind_ok, Outcome.bind_error]
  refine ⟨_, rfl, ?_⟩
  rw [Journal.entries_append, Catalogue.entries_loaded, hevents, List.append_nil]

/-- A generation that got through the catalogue and the host. -/
theorem generate_of_hostRead (read : CatalogueRead config tree terrains) {host : Host}
    (h : config.hostOf tree = .ok host) :
    ∃ events, config.generate (tree.readText config.catalogue) (tree.readText config.host) =
        ⟨events, .ok ⟨terrains.length, host.stamp terrains config.terminator⟩⟩ ∧
      Journal.entries events =
        Entry.allDecoded terrains ++ [Entry.loaded config.catalogue terrains.length] ++
          Entry.allStamped terrains := by
  rcases read with ⟨valid, text, htext, hterrains⟩
  rcases exists_load_eq config tree with ⟨events, hload, hevents⟩
  rw [generate_of_valid valid, htext, Catalogue.load_of_decode hterrains, hload, h]
  simp only [Outcome.bind_ok, Outcome.reportAll, Outcome.pure_eq, List.append_nil]
  refine ⟨_, rfl, ?_⟩
  rw [Journal.entries_append, Catalogue.entries_loaded, Journal.entries_append, hevents,
    Host.entries_stampEvents, List.nil_append]

/-! ### Compiling -/

/-- Every course is taken where it can be. -/
theorem Course.compile_eq {result : Except Error Nat} {shown : List Entry} {after : FileTree}
    (h : Course config tree result shown after) :
    ∃ events, config.compile tree = (⟨events, result⟩, after) ∧ Journal.entries events = shown := by
  cases h with
  | invalid h =>
    exact ⟨[], compile_eq_of_generate_error (generate_of_invalid h _ _), rfl⟩
  | catalogueUnread valid h =>
    refine ⟨[], compile_eq_of_generate_error ?_, rfl⟩
    rw [generate_of_valid valid, h]
    rfl
  | badRow valid htext hlines hgood hbad =>
    refine ⟨_, compile_eq_of_generate_error ?_, Catalogue.entries_decodedFrom 2 _⟩
    rw [generate_of_valid valid, htext, Catalogue.load_of_first_bad hlines hgood hbad]
    rfl
  | hostUnread read h =>
    rcases generate_of_hostUnread read h with ⟨events, hgenerate, hevents⟩
    exact ⟨events, compile_eq_of_generate_error hgenerate, hevents⟩
  | outputUnwritten read hhost h =>
    rcases generate_of_hostRead read hhost with ⟨events, hgenerate, hevents⟩
    refine ⟨events, ?_, hevents⟩
    rw [compile_eq_of_generate_ok hgenerate (FileTree.replaceFile_eq_of_error h)]
    simp [concluded]
  | complete read hhost h hplace hfile =>
    rcases generate_of_hostRead read hhost with ⟨events, hgenerate, hevents⟩
    refine ⟨_, compile_eq_of_generate_ok hgenerate h, ?_⟩
    rw [Journal.entries_append, hevents, FileTree.eq_encode_of_replaceFile h hplace hfile]
    rfl

/-- One of the courses can be taken. -/
theorem exists_course (config : Config) (tree : FileTree) :
    ∃ result shown after, Course config tree result shown after := by
  cases valid : config.validate with
  | error fault => exact ⟨_, _, _, .invalid valid⟩
  | ok _ =>
    cases htext : tree.readText config.catalogue with
    | error fault => exact ⟨_, _, _, .catalogueUnread valid htext⟩
    | ok text =>
      rcases Catalogue.exists_terrains_or_first_bad (Catalogue.dataLines text) with
        ⟨terrains, hterrains⟩ | ⟨good, bad, behind, fault, terrains, hlines, hgood, hbad⟩
      · have read : CatalogueRead config tree terrains := ⟨valid, text, htext, hterrains⟩
        cases hhost : config.hostOf tree with
        | error error => exact ⟨_, _, _, .hostUnread read hhost⟩
        | ok host =>
          rcases tree.replaceFile_cases config.output (host.stamp terrains config.terminator) with
            ⟨⟨path, fault⟩, hfails⟩ | ⟨place, hplace, hdirectory, hreplace⟩
          · exact ⟨_, _, _, .outputUnwritten read hhost (congrArg Prod.fst hfails)⟩
          · rcases FileTree.put_file hplace hdirectory
              (FileTree.encode (host.stamp terrains config.terminator)) with ⟨hafter, hfile, -⟩
            exact ⟨_, _, _, .complete read hhost hreplace hafter hfile⟩
      · exact ⟨_, _, _, .badRow valid htext hlines hgood hbad⟩

/-- **The journal is an account of the run.** A run takes the course that its configuration and its
files allow, and no other. Row by row it reports what it read, then the whole catalogue, then class
by class what it writes, and last the output with its size; it stops where the course stops, and
what it has not done is not reported. -/
theorem compile_iff_course (config : Config) (tree : FileTree) (result : Except Error Nat)
    (shown : List Entry) (after : FileTree) :
    ((config.compile tree).1.result = result ∧ (config.compile tree).1.events.entries = shown ∧
        (config.compile tree).2 = after) ↔
      Course config tree result shown after := by
  constructor
  · rcases exists_course config tree with ⟨_, _, _, hcourse⟩
    rcases hcourse.compile_eq with ⟨events, hcompile, hshown⟩
    rw [hcompile]
    rintro ⟨rfl, rfl, rfl⟩
    rwa [hshown]
  · intro hcourse
    rcases hcourse.compile_eq with ⟨events, hcompile, hshown⟩
    rw [hcompile]
    exact ⟨rfl, hshown, rfl⟩

/-- A run over one terrain that neither ships nor transports can enter. -/
example : (plainConfig.compile plainTree).1.events.entries =
    [.decoded 2 { name := "Plain".toList, moveCosts := ⟨1, 1, 1, 1, 1, 1, 0, 0⟩ },
      .loaded "./rows".toList 1,
      .stamped 0 { name := "Plain".toList },
      .written "gen//.././/plain.js".toList 1 13] := by
  rfl

end Config

end Tilewright
