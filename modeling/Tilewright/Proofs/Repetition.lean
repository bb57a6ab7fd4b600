import Tilewright.Proofs.AllOrNothing

/-!
# Runs that are repeated

A run that wrote its output to a place of its own finds its sources as they were. So the next run
generates the same text, and puts it where it already is.

* `Config.compile_of_canReplace` and `Config.exists_of_compile_eq_ok`: a run succeeds if and only if
  the text is generated and its file can be replaced.
* `Config.compile_of_error`: a run that fails leaves the tree as it was.
* `Config.history` is several runs, one after the other.
* `Config.compile_again`: once a configuration has run, it changes nothing anymore.
-/

namespace Tilewright

/-- Both paths lead to the same place. -/
def FileTree.SamePlace (tree : FileTree) (path other : Path) : Prop :=
  ∃ place, tree.locate path = .ok place ∧ tree.locate other = .ok place

theorem FileTree.not_samePlace {tree : FileTree} {path other : Path} {place otherPlace : Place}
    (hplace : tree.locate path = .ok place) (hother : tree.locate other = .ok otherPlace)
    (hne : place ≠ otherPlace) : ¬ tree.SamePlace path other := by
  rintro ⟨shared, hshared, hotherShared⟩
  rw [hplace] at hshared
  rw [hother] at hotherShared
  exact hne ((Except.ok.inj hshared).trans (Except.ok.inj hotherShared).symm)

namespace Config

variable {config : Config} {tree : FileTree}

/-! ## Success and failure -/

/-- If a text is generated and its file can be replaced then the run succeeds. -/
theorem compile_of_canReplace {events : Journal} {generated : Generated} {directory target : Place}
    (hgenerate : config.generate (tree.readText config.catalogue) (tree.readText config.host) =
      ⟨events, .ok generated⟩)
    (hcan : tree.CanReplace config.output generated.text directory target) :
    config.compile tree =
      (⟨events ++ [.outputWritten config.output generated.classes
          (FileTree.encode generated.text).size], .ok generated.classes⟩,
        tree.put target (.file (FileTree.encode generated.text))) := by
  rw [compile]
  simp only [hgenerate, hcan.replaceFile_eq]
  rfl

/-- If a run succeeds then its text was generated and its file could be replaced. -/
theorem exists_of_compile_eq_ok {classes : Nat}
    (h : (config.compile tree).1.result = .ok classes) :
    ∃ events generated directory target,
      config.generate (tree.readText config.catalogue) (tree.readText config.host) =
        ⟨events, .ok generated⟩ ∧
      tree.CanReplace config.output generated.text directory target := by
  rcases hgenerate : config.generate (tree.readText config.catalogue)
    (tree.readText config.host) with ⟨events, result⟩
  have hresult : (config.generate (tree.readText config.catalogue)
      (tree.readText config.host)).result = result := by rw [hgenerate]
  cases result with
  | error error =>
    rw [(compile_of_generate_error hresult).1] at h
    exact absurd h (by simp)
  | ok generated =>
    rcases FileTree.fails_or_canReplace tree config.output generated.text with
      ⟨⟨path, fault⟩, hfails⟩ | ⟨directory, target, hcan⟩
    · -- a run without its file is no success
      rw [(compile_of_generate_ok hresult).1, hfails] at h
      exact absurd h (by simp [concluded])
    · exact ⟨events, generated, directory, target, rfl, hcan⟩

/-- A run that fails leaves the tree as it was. -/
theorem compile_of_error {error : Error} (h : (config.compile tree).1.result = .error error) :
    (config.compile tree).2 = tree := by
  cases hgenerate : (config.generate (tree.readText config.catalogue)
      (tree.readText config.host)).result with
  | error fault => exact (compile_of_generate_error hgenerate).2
  | ok generated =>
    rcases compile_of_generate_ok hgenerate with ⟨hresult, hafter⟩
    rcases tree.replaceFile_cases config.output generated.text with
      ⟨fault, hreplace⟩ | ⟨place, -, -, hreplace⟩
    · rw [hafter, hreplace]
    · -- a file that was replaced is a success
      rw [hresult, hreplace] at h
      exact absurd h (by simp [concluded])

/-! ## Repetition -/

/-- The texts that were read are still there after the output was put at another place. -/
theorem generate_put {generated : Generated} {target : Place} (contents : ByteArray)
    (hgenerate : (config.generate (tree.readText config.catalogue)
      (tree.readText config.host)).result = .ok generated)
    (htarget : tree.node? target ≠ some .directory)
    (hcatalogue : tree.locate config.catalogue ≠ .ok target)
    (hhost : tree.locate config.host ≠ .ok target) :
    config.generate ((tree.put target (.file contents)).readText config.catalogue)
        ((tree.put target (.file contents)).readText config.host) =
      config.generate (tree.readText config.catalogue) (tree.readText config.host) := by
  rcases exists_of_generate_eq_ok hgenerate with
    ⟨catalogue, host, -, -, hcatalogueText, hhostText, -⟩
  rw [FileTree.readText_put htarget contents hcatalogue hcatalogueText,
    FileTree.readText_put htarget contents hhost hhostText, hcatalogueText, hhostText]

/-- A run that wrote to a place of its own comes to the same once more, and leaves the tree as it
is. -/
theorem compile_compile {classes : Nat}
    (hcatalogue : ¬ tree.SamePlace config.output config.catalogue)
    (hhost : ¬ tree.SamePlace config.output config.host)
    (hrun : (config.compile tree).1.result = .ok classes) :
    config.compile (config.compile tree).2 = config.compile tree := by
  rcases exists_of_compile_eq_ok hrun with ⟨events, generated, directory, target, hgenerate, hcan⟩
  have houtput := FileTree.locate_of_locateTarget hcan.target_eq
  have hagain := generate_put (FileTree.encode generated.text)
    (congrArg Outcome.result hgenerate) hcan.target_node
    (fun hplace => hcatalogue ⟨target, houtput, hplace⟩)
    (fun hplace => hhost ⟨target, houtput, hplace⟩)
  rw [hgenerate] at hagain
  rw [compile_of_canReplace hgenerate hcan, compile_of_canReplace hagain (hcan.put _),
    FileTree.put_put]

/-! ## Histories -/

/-- A run as part of a history. -/
structure Run where
  config : Config
  outcome : Outcome Nat
  /-- The tree that the run leaves. -/
  after : FileTree

/-- Runs configurations one after the other, each on the tree that the one before it left. -/
def history : List Config → FileTree → List Run
  | [], _ => []
  | config :: configs, tree =>
    ⟨config, (config.compile tree).1, (config.compile tree).2⟩ ::
      history configs (config.compile tree).2

/-- If a configuration leaves a tree as it is, and the others fail, then the tree stays and each run
of the configuration comes to the same. -/
theorem history_of_compile_eq {outcome : Outcome Nat}
    (hsettled : config.compile tree = (outcome, tree)) {configs : List Config}
    (hothers : ∀ run ∈ history configs tree, run.config ≠ config →
      ∃ error, run.outcome.result = .error error) :
    ∀ run ∈ history configs tree,
      run.after = tree ∧ (run.config = config → run.outcome = outcome) := by
  induction configs with
  | nil => simp [history]
  | cons next configs ih =>
    -- the tree is the same before and after the first run
    have hnext : (next.compile tree).2 = tree ∧ (next = config → (next.compile tree).1 = outcome) := by
      by_cases hsame : next = config
      · rw [hsame, hsettled]
        exact ⟨rfl, fun _ => rfl⟩
      · rcases hothers _ List.mem_cons_self hsame with ⟨error, herror⟩
        exact ⟨compile_of_error herror, fun h => absurd h hsame⟩
    rw [history, hnext.1] at hothers ⊢
    intro run hrun
    rcases List.mem_cons.1 hrun with rfl | hrun
    · exact ⟨rfl, hnext.2⟩
    · exact ih (fun run hrun => hothers run (List.mem_cons_of_mem _ hrun)) run hrun

/-- **Once a configuration has run, it changes nothing anymore.** If its output does not lead to the
place of the catalogue or of the host, then after a run that succeeded the next one succeeds in the
same way and leaves the tree exactly as it is. So does every run after it, as long as all that runs
in between fails, and what fails leaves the tree as well. -/
theorem compile_again {config : Config} {tree : FileTree} {classes : Nat}
    (hcatalogue : ¬ tree.SamePlace config.output config.catalogue)
    (hhost : ¬ tree.SamePlace config.output config.host)
    (hrun : (config.compile tree).1.result = .ok classes) :
    config.compile (config.compile tree).2 = config.compile tree ∧
      ∀ configs : List Config,
        (∀ run ∈ history configs (config.compile tree).2, run.config ≠ config →
          ∃ error, run.outcome.result = .error error) →
        ∀ run ∈ history configs (config.compile tree).2,
          run.after = (config.compile tree).2 ∧
            (run.config = config → run.outcome.result = .ok classes) := by
  have hagain := compile_compile hcatalogue hhost hrun
  refine ⟨hagain, ?_⟩
  intro configs hothers run hmem
  have hsettled : config.compile (config.compile tree).2 =
      ((config.compile tree).1, (config.compile tree).2) := hagain
  rcases history_of_compile_eq hsettled hothers run hmem with ⟨hafter, houtcome⟩
  refine ⟨hafter, ?_⟩
  intro hsame
  rw [houtcome hsame, hrun]

/-- A catalogue that is not there, and the output in place of the host. -/
def strayConfig : Config where
  catalogue := "gen/rows".toList
  host := "host.js".toList
  output := "host.js".toList

theorem compile_plainConfig_again :
    ¬ plainTree.SamePlace plainConfig.output plainConfig.catalogue ∧
      ¬ plainTree.SamePlace plainConfig.output plainConfig.host ∧
      (plainConfig.compile plainTree).1.result = .ok 1 ∧
      plainConfig.compile (plainConfig.compile plainTree).2 = plainConfig.compile plainTree ∧
      (history [strayConfig, plainConfig] (plainConfig.compile plainTree).2).length = 2 ∧
      ∀ run ∈ history [strayConfig, plainConfig] (plainConfig.compile plainTree).2,
        run.after = (plainConfig.compile plainTree).2 ∧
          (run.config = plainConfig → run.outcome.result = .ok 1) := by
  have houtput : plainTree.locate plainConfig.output = .ok ["w".toList, "plain.js".toList] := rfl
  have hrows : plainTree.locate plainConfig.catalogue = .ok ["w".toList, "rows".toList] := rfl
  have hregion : plainTree.locate plainConfig.host = .ok ["w".toList, "host.js".toList] := rfl
  have hcatalogue := FileTree.not_samePlace houtput hrows (by decide)
  have hhost := FileTree.not_samePlace houtput hregion (by decide)
  have hrun : (plainConfig.compile plainTree).1.result = .ok 1 := rfl
  rcases compile_again hcatalogue hhost hrun with ⟨hagain, hhistory⟩
  refine ⟨hcatalogue, hhost, hrun, hagain, rfl, hhistory [strayConfig, plainConfig] ?_⟩
  intro run hmem hne
  rcases List.mem_cons.1 hmem with rfl | hmem
  · exact ⟨.file "gen/rows".toList .notFound, rfl⟩
  · rcases List.mem_singleton.1 hmem with rfl
    exact absurd rfl hne

end Config

end Tilewright
