import Tilewright.Proofs.Obstacles
import Tilewright.Proofs.Replacement

/-!
# Runs are all or nothing

A run reads two files and replaces a third one, which may be one of the two. It leaves the tree as
it was, or it generates the whole text and puts it at the place of the output, and nothing else
changes.

* `Config.obstacles` lists what can stand in the way, in the order in which it counts. The last
  obstacle is the output, and `Config.isSome_outputObstacle_iff` says of the tree when it is there.
* `Config.compile_all_or_nothing`: the first obstacle is the error of the run, and without one the
  run is complete.
-/

namespace Tilewright.Config

/-- The text that is generated from the files of a tree, if all of it can be. -/
def generatedText? (config : Config) (tree : FileTree) : Option Text :=
  (config.generate (tree.readText config.catalogue)
    (tree.readText config.host)).result.toOption.map Generated.text

/-- What stands in the way of the file of a text that was generated. -/
def outputObstacle (config : Config) (tree : FileTree) : Option Error :=
  (config.generatedText? tree).bind fun text =>
    (fault? (tree.replaceFile config.output text).1).map fun (path, fault) => .file path fault

/-- What can stand in the way of a run on a tree, in the order in which it counts: what can stand in
the way of the text, and then what can stand in the way of its file. -/
def obstacles (config : Config) (tree : FileTree) : List (Option Error) :=
  config.inputObstacles (tree.readText config.catalogue) (tree.readText config.host) ++
    [config.outputObstacle tree]

variable {config : Config} {tree : FileTree}

/-- The output is in the way of a text that was generated if the tree lacks something that is needed
to replace its file. -/
theorem isSome_outputObstacle_iff :
    (config.outputObstacle tree).isSome ↔
      ∃ text, config.generatedText? tree = some text ∧
        ¬ ∃ directory target, tree.CanReplace config.output text directory target := by
  rw [outputObstacle]
  cases config.generatedText? tree with
  | none => simp
  | some text =>
    rw [Option.bind_some, Option.isSome_map]
    simp only [Option.some.injEq, exists_eq_left']
    rw [← FileTree.replaceFile_eq_ok_iff]
    cases (tree.replaceFile config.output text).1 <;> simp [fault?]

/-- The output is in the way only of a text that was generated. -/
theorem firstOf_obstacles (config : Config) (tree : FileTree) :
    firstOf (config.obstacles tree) =
      (fault? (config.generate (tree.readText config.catalogue)
        (tree.readText config.host)).result).or (config.outputObstacle tree) := by
  rw [obstacles, firstOf_append, firstOf_cons, firstOf_nil, Option.or_none, fault?_generate]

/-- A run whose text is not generated ends with the generation. -/
theorem compile_eq_of_generate_error {events : Journal} {error : Error}
    (h : config.generate (tree.readText config.catalogue) (tree.readText config.host) =
      ⟨events, .error error⟩) :
    config.compile tree = (⟨events, .error error⟩, tree) := by
  rw [compile]
  simp only [h]

/-- A run whose text is generated ends with the replacement of the output. -/
theorem compile_eq_of_generate_ok {events : Journal} {generated : Generated}
    (h : config.generate (tree.readText config.catalogue) (tree.readText config.host) =
      ⟨events, .ok generated⟩) {written : Except (Path × FileFault) Unit} {after : FileTree}
    (hreplace : tree.replaceFile config.output generated.text = (written, after)) :
    config.compile tree =
      (⟨events ++ (config.concluded generated written).events,
        (config.concluded generated written).result⟩, after) := by
  rw [compile]
  simp only [h, hreplace, Outcome.bind_ok]

theorem compile_of_generate_error {error : Error}
    (h : (config.generate (tree.readText config.catalogue)
      (tree.readText config.host)).result = .error error) :
    (config.compile tree).1.result = .error error ∧ (config.compile tree).2 = tree := by
  rcases hgenerate : config.generate (tree.readText config.catalogue)
    (tree.readText config.host) with ⟨events, result⟩
  rw [hgenerate] at h
  subst h
  rw [compile_eq_of_generate_error hgenerate]
  exact ⟨rfl, rfl⟩

theorem compile_of_generate_ok {generated : Generated}
    (h : (config.generate (tree.readText config.catalogue)
      (tree.readText config.host)).result = .ok generated) :
    (config.compile tree).1.result =
        (config.concluded generated (tree.replaceFile config.output generated.text).1).result ∧
      (config.compile tree).2 = (tree.replaceFile config.output generated.text).2 := by
  rcases hgenerate : config.generate (tree.readText config.catalogue)
    (tree.readText config.host) with ⟨events, result⟩
  rw [hgenerate] at h
  subst h
  rw [compile_eq_of_generate_ok hgenerate rfl]
  exact ⟨rfl, rfl⟩

theorem outputObstacle_of_generate_ok {generated : Generated}
    (h : (config.generate (tree.readText config.catalogue)
      (tree.readText config.host)).result = .ok generated) :
    config.outputObstacle tree =
      (fault? (tree.replaceFile config.output generated.text).1).map fun (path, fault) =>
        .file path fault := by
  rw [outputObstacle, generatedText?, h]
  rfl

/-- A run stops at the first obstacle. -/
theorem fault?_compile (config : Config) (tree : FileTree) :
    fault? (config.compile tree).1.result = firstOf (config.obstacles tree) := by
  rw [firstOf_obstacles]
  cases hgenerate : (config.generate (tree.readText config.catalogue)
      (tree.readText config.host)).result with
  | error error =>
    rw [(compile_of_generate_error hgenerate).1]
    rfl
  | ok generated =>
    rw [(compile_of_generate_ok hgenerate).1, outputObstacle_of_generate_ok hgenerate]
    cases (tree.replaceFile config.output generated.text).1 <;> rfl

/-- **A run is all or nothing.** It stops with the first obstacle, if there is one, and leaves the
tree as it was. The output is an obstacle if it cannot be replaced by the text, which is a matter of
the tree that the run starts with. If there is no obstacle then both files were read, every line of
the catalogue behind its header has become a class, and the output holds the whole generated text.
Every other place is as it was. -/
theorem compile_all_or_nothing (config : Config) (tree : FileTree) :
    fault? (config.compile tree).1.result = firstOf (config.obstacles tree) ∧
      ((config.outputObstacle tree).isSome ↔
        ∃ text, config.generatedText? tree = some text ∧
          ¬ ∃ directory target, tree.CanReplace config.output text directory target) ∧
      match (config.compile tree).1.result, (config.compile tree).2 with
      | .error _, after => after = tree
      | .ok classes, after =>
        ∃ catalogue host terrains split place,
          tree.readText config.catalogue = .ok catalogue ∧
          tree.readText config.host = .ok host ∧
          (Catalogue.read catalogue).result = .ok terrains ∧
          (Host.split config.sentinels config.host host).result = .ok split ∧
          classes = (catalogue.lines.drop 1).length ∧
          tree.locate config.output = .ok place ∧
          after.locate config.output = .ok place ∧
          after.node? place =
            some (.file (FileTree.encode (split.stamp terrains config.terminator))) ∧
          (∀ other, other = place ∨ after.node? other = tree.node? other) ∧
          after.workingDirectory = tree.workingDirectory ∧ after.refusals = tree.refusals := by
  refine ⟨fault?_compile config tree, isSome_outputObstacle_iff, ?_⟩
  cases hgenerate : (config.generate (tree.readText config.catalogue)
      (tree.readText config.host)).result with
  | error error =>
    -- nothing was written
    rcases compile_of_generate_error hgenerate with ⟨hresult, htree⟩
    rw [hresult, htree]
  | ok generated =>
    rcases compile_of_generate_ok hgenerate with ⟨hresult, htree⟩
    rw [hresult, htree]
    rcases tree.replaceFile_cases config.output generated.text with
      ⟨⟨path, fault⟩, hreplace⟩ | ⟨place, hplace, hdirectory, hreplace⟩
    · -- the output could not be replaced
      rw [hreplace]
      rfl
    · rw [hreplace]
      obtain ⟨catalogue, host, terrains, split, hcatalogue, hhost, hterrains, hsplit, rfl⟩ :=
        exists_of_generate_eq_ok hgenerate
      obtain ⟨hafter, hfile, hothers⟩ := FileTree.put_file hplace hdirectory
        (FileTree.encode (split.stamp terrains config.terminator))
      have hclasses : terrains.length = (catalogue.lines.drop 1).length :=
        Catalogue.length_of_result_readRows_eq_ok hterrains
      refine ⟨catalogue, host, terrains, split, place, hcatalogue, hhost, hterrains, hsplit,
        hclasses, FileTree.locate_of_locateTarget hplace, hafter, hfile, ?_, rfl, rfl⟩
      exact fun other => or_iff_not_imp_left.2 (hothers other)

/-- A working directory with a catalogue, a host and another directory. -/
def plainTree : FileTree :=
  let row := "#\nPlain Pln 1 1 1 1 1 1 0 0 2 0 - 0 - 1 1 0 Open".toList
  let region := "// start\nTemplate /*land*/\n// end\n".toList
  let tree := (FileTree.ofWorkingDirectory ["w".toList]).addDirectory "gen".toList
  (tree.addFile "rows".toList (FileTree.encode row)).addFile "host.js".toList
    (FileTree.encode region)

/-- The output is said by way of another directory. -/
def plainConfig : Config where
  catalogue := "./rows".toList
  host := "host.js".toList
  output := "gen//.././/plain.js".toList

/-- A run that meets no obstacle. -/
theorem compile_plainConfig :
    plainConfig.generatedText? plainTree = some "\nPlain true\n\x7d".toList ∧
      firstOf (plainConfig.obstacles plainTree) = none ∧
      plainConfig.outputObstacle plainTree = none ∧
      (plainConfig.compile plainTree).1.result = .ok 1 ∧
      (plainConfig.compile plainTree).2.node? ["w".toList, "plain.js".toList] =
        some (.file (FileTree.encode "\nPlain true\n\x7d".toList)) := by
  have htext : plainConfig.generatedText? plainTree = some "\nPlain true\n\x7d".toList := rfl
  have hcan := FileTree.replaceFile_eq_ok_iff.1
    (show (plainTree.replaceFile plainConfig.output "\nPlain true\n\x7d".toList).1 = .ok () from rfl)
  have hresult : (plainConfig.compile plainTree).1.result = .ok 1 := rfl
  rcases compile_all_or_nothing plainConfig plainTree with ⟨hfirst, houtput, -⟩
  rw [hresult] at hfirst
  refine ⟨htext, hfirst.symm, ?_, hresult, rfl⟩
  rw [← Option.not_isSome_iff_eq_none, houtput, htext]
  rintro ⟨text, hsame, hcannot⟩
  rcases Option.some.inj hsame with rfl
  exact hcannot hcan

end Tilewright.Config
