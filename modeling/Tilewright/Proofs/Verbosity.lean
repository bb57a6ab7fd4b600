import Tilewright.CommandLine.Run
import Tilewright.Proofs.Replacement

/-!
# Asking for more detail

The flag for more detail decides which events are shown, and nothing else.

* `Progress.readAll_louder`: where the flag is not among the arguments, they are read in the same way
  whether or not it was met before. Two facts carry this: an option is settled, stored and met
  without a look at the flag, and a flag that has been met stays (`Progress.verbose_readAll`).
* `run_verbose`: in front of such arguments the flag changes neither the exit code nor the files, and
  without the events that it adds the journal is the same.
-/

namespace Tilewright.CommandLine

/-- The arguments, with more detail asked for. -/
def Arguments.louder (given : Arguments) : Arguments :=
  { given with verbose := true }

/-- What has been read so far, with more detail asked for. -/
def Progress.louder (progress : Progress) : Progress :=
  { progress with given := progress.given.louder }

/-! ## Options -/

namespace Arguments

variable {given stored : Arguments}

theorem store_louder (given : Arguments) (key : Key) (value : Text) :
    given.louder.store key value = (given.store key value).map louder := by
  have hget : given.louder.get key = given.get key := by cases key <;> rfl
  have hset : given.louder.set key value = (given.set key value).louder := by cases key <;> rfl
  unfold store
  rw [hget, hset]
  split
  · rfl
  · split <;> rfl

theorem verbose_store {key : Key} {value : Text} (h : given.store key value = .ok stored) :
    stored.verbose = given.verbose := by
  unfold store at h
  split at h
  · cases h
  · split at h
    · cases h
    · rw [← Except.ok.inj h]
      cases key <;> rfl

end Arguments

namespace Progress

variable {progress next : Progress}

theorem settle_louder (progress : Progress) :
    progress.louder.settle = progress.settle.map Arguments.louder := by
  rcases progress with ⟨given, waiting⟩
  match waiting with
  | none => rfl
  | some (_, none) => rfl
  | some (key, some value) => exact given.store_louder key value

theorem verbose_settle {given : Arguments} (h : progress.settle = .ok given) :
    given.verbose = progress.given.verbose := by
  rcases progress with ⟨before, waiting⟩
  match waiting with
  | none => rw [← Except.ok.inj h]
  | some (_, none) => cases h
  | some (key, some value) => exact Arguments.verbose_store h

theorem await_louder (progress : Progress) (key : Key) :
    progress.louder.await key = (progress.await key).map louder := by
  unfold await
  rw [settle_louder]
  cases progress.settle <;> rfl

theorem verbose_await {key : Key} (h : progress.await key = .ok next) :
    next.given.verbose = progress.given.verbose := by
  unfold await at h
  rw [Except.bind_eq_ok] at h
  rcases h with ⟨given, hsettle, hnext⟩
  rw [← Except.ok.inj hnext]
  exact verbose_settle hsettle

theorem attach_louder (progress : Progress) (key : Key) (value : Text) :
    progress.louder.attach key value = (progress.attach key value).map louder := by
  unfold attach
  rw [settle_louder]
  cases progress.settle with
  | error usage => rfl
  | ok given =>
    show (given.louder.store key value >>= _) = _
    rw [Arguments.store_louder]
    show _ = Except.map louder (given.store key value >>= _)
    cases given.store key value <;> rfl

theorem verbose_attach {key : Key} {value : Text} (h : progress.attach key value = .ok next) :
    next.given.verbose = progress.given.verbose := by
  unfold attach at h
  simp only [Except.bind_eq_ok] at h
  rcases h with ⟨given, hsettle, stored, hstore, hnext⟩
  rw [← Except.ok.inj hnext]
  exact (Arguments.verbose_store hstore).trans (verbose_settle hsettle)

/-- Only the flag for more detail can be met without ending the reading, and it is met once. -/
theorem verbose_raise {flag : Flag} (h : progress.raise flag = .ok next) :
    next.given.verbose = true := by
  unfold raise at h
  rw [Except.bind_eq_ok] at h
  rcases h with ⟨given, -, hnext⟩
  cases flag with
  | help => cases hnext
  | version => cases hnext
  | verbose =>
    dsimp only at hnext
    split at hnext
    · cases hnext
    · rw [← Except.ok.inj hnext]

/-! ## Arguments -/

/-- Once more detail has been asked for, this stays. -/
theorem verbose_readShort {text : Text} (h : progress.readShort text = .ok next)
    (hverbose : progress.given.verbose = true) : next.given.verbose = true := by
  induction text generalizing progress with
  | nil => rwa [← Except.ok.inj h]
  | cons name rest ih =>
    unfold readShort at h
    split at h
    · cases h
    · rw [Except.bind_eq_ok] at h
      rcases h with ⟨raised, hraise, hrest⟩
      exact ih hrest (verbose_raise hraise)
    · split at h
      · rw [verbose_await h, hverbose]
      · rw [verbose_attach h, hverbose]
      · rw [verbose_attach h, hverbose]

theorem readShort_louder {text : Text} (h : progress.readShort text = .ok next)
    (hverbose : next.given.verbose = false) :
    progress.louder.readShort text = .ok next.louder := by
  cases text with
  | nil => rw [← Except.ok.inj h]; rfl
  | cons name rest =>
    unfold readShort at h ⊢
    split at h
    · cases h
    · -- a flag among the names would have been noticed
      rw [Except.bind_eq_ok] at h
      rcases h with ⟨raised, hraise, hrest⟩
      rw [verbose_readShort hrest (verbose_raise hraise)] at hverbose
      cases hverbose
    · split at h
      · rw [await_louder, h]; rfl
      · rw [attach_louder, h]; rfl
      · rw [attach_louder, h]; rfl

theorem verbose_readLong {text : Text} (h : progress.readLong text = .ok next)
    (hverbose : progress.given.verbose = true) : next.given.verbose = true := by
  unfold readLong at h
  dsimp only at h
  split at h
  · cases h
  · exact verbose_raise h
  · cases h
  · rw [verbose_await h, hverbose]
  · rw [verbose_attach h, hverbose]

theorem readLong_louder {text : Text} (h : progress.readLong text = .ok next)
    (hverbose : next.given.verbose = false) :
    progress.louder.readLong text = .ok next.louder := by
  unfold readLong at h ⊢
  dsimp only at h ⊢
  split at h
  · cases h
  · rw [verbose_raise h] at hverbose
    cases hverbose
  · cases h
  · rw [await_louder, h]; rfl
  · rw [attach_louder, h]; rfl

theorem verbose_read {argument : Text} (h : progress.read argument = .ok next)
    (hverbose : progress.given.verbose = true) : next.given.verbose = true := by
  unfold read at h
  split at h
  · exact verbose_readLong h hverbose
  · exact verbose_readShort h hverbose
  · split at h
    · rwa [← Except.ok.inj h]
    · cases h

theorem read_louder {argument : Text} (h : progress.read argument = .ok next)
    (hverbose : next.given.verbose = false) :
    progress.louder.read argument = .ok next.louder := by
  unfold read at h ⊢
  split at h
  · exact readLong_louder h hverbose
  · exact readShort_louder h hverbose
  · rcases progress with ⟨given, waiting⟩
    match waiting with
    | none => cases h
    | some (_, none) => rw [← Except.ok.inj h]; rfl
    | some (_, some _) => cases h

theorem readAll_cons_of_ne {argument : Text} (h : argument ≠ "--".toList)
    (arguments : List Text) :
    progress.readAll (argument :: arguments) =
      progress.read argument >>= fun next => next.readAll arguments :=
  if_neg h

theorem readAll_dashes (arguments : List Text) :
    progress.readAll ("--".toList :: arguments) =
      if arguments = [] then progress.settle else .error .unknownArgument :=
  if_pos rfl

theorem verbose_readAll {arguments : List Text} {given : Arguments}
    (h : progress.readAll arguments = .ok given) (hverbose : progress.given.verbose = true) :
    given.verbose = true := by
  induction arguments generalizing progress with
  | nil => rw [verbose_settle h, hverbose]
  | cons argument arguments ih =>
    by_cases hdashes : argument = "--".toList
    · rw [hdashes, readAll_dashes] at h
      split at h
      · rw [verbose_settle h, hverbose]
      · cases h
    · rw [readAll_cons_of_ne hdashes, Except.bind_eq_ok] at h
      rcases h with ⟨next, hread, hrest⟩
      exact ih hrest (verbose_read hread hverbose)

/-- Arguments that do not ask for more detail are read in the same way behind the flag that does. -/
theorem readAll_louder {arguments : List Text} {given : Arguments}
    (h : progress.readAll arguments = .ok given) (hverbose : given.verbose = false) :
    progress.louder.readAll arguments = .ok given.louder := by
  induction arguments generalizing progress with
  | nil =>
    show progress.louder.settle = _
    rw [settle_louder, show progress.settle = .ok given from h]
    rfl
  | cons argument arguments ih =>
    by_cases hdashes : argument = "--".toList
    · rw [hdashes, readAll_dashes] at h ⊢
      split at h
      · next hlast =>
        rw [if_pos hlast, settle_louder, h]
        rfl
      · cases h
    · rw [readAll_cons_of_ne hdashes, Except.bind_eq_ok] at h ⊢
      rcases h with ⟨next, hread, hrest⟩
      -- the flag is not met later, so it has not been met in this argument
      have hnext : next.given.verbose = false := by
        by_contra hmet
        rw [verbose_readAll hrest (Bool.not_eq_false _ ▸ hmet)] at hverbose
        cases hverbose
      exact ⟨next.louder, read_louder hread hnext, ih hrest⟩

end Progress

/-! ## Runs -/

/-- The flag for more detail has a long and a short name. -/
def verboseNames : List Text := ["--verbose".toList, "-v".toList]

/-- In front of arguments that do not ask for more detail, the flag is all that it adds to them. -/
theorem Arguments.ofList_verbose {flag : Text} (hflag : flag ∈ verboseNames)
    {arguments : List Text} {given : Arguments} (h : ofList arguments = .ok given)
    (hverbose : given.verbose = false) : ofList (flag :: arguments) = .ok given.louder := by
  have hread : Progress.read {} flag = .ok (Progress.louder {}) := by
    simp only [verboseNames, List.mem_cons, List.not_mem_nil, or_false] at hflag
    rcases hflag with rfl | rfl <;> decide
  have hdashes : flag ≠ "--".toList := by
    simp only [verboseNames, List.mem_cons, List.not_mem_nil, or_false] at hflag
    rcases hflag with rfl | rfl <;> decide
  unfold ofList at h ⊢
  rw [Progress.readAll_cons_of_ne hdashes, hread]
  exact Progress.readAll_louder h hverbose

theorem Arguments.execute_louder (given : Arguments) (tree : FileTree) :
    given.louder.execute tree = given.execute tree := rfl

/-- A journal without its debugging events. -/
def withoutDebug (journal : Journal) : Journal :=
  journal.filter fun event => event.level ≠ .debug

/-- Without the debugging events the more detailed journal is the usual one. -/
theorem withoutDebug_upTo_debug (journal : Journal) :
    withoutDebug (journal.upTo .debug) = journal.upTo .info := by
  unfold withoutDebug Journal.upTo
  rw [List.filter_filter]
  congr 1
  funext event
  cases event.level <;> rfl

/-- **The flag for more detail changes what is shown, and nothing else.** -/
theorem run_verbose {flag : Text} (hflag : flag ∈ verboseNames) {arguments : List Text}
    {given : Arguments} (h : Arguments.ofList arguments = .ok given)
    (hverbose : given.verbose = false) (tree : FileTree) :
    (run (flag :: arguments) tree).2 = (run arguments tree).2 ∧
      (run (flag :: arguments) tree).1.exitCode = (run arguments tree).1.exitCode ∧
      (run (flag :: arguments) tree).1.journal.map withoutDebug =
        (run arguments tree).1.journal := by
  have hlevel : given.level = .info := by
    unfold Arguments.level
    rw [hverbose]
    rfl
  unfold run
  rw [Arguments.ofList_verbose hflag h hverbose, h]
  dsimp only
  rw [Arguments.execute_louder, hlevel]
  exact ⟨rfl, rfl, congrArg some (withoutDebug_upTo_debug _)⟩

end Tilewright.CommandLine
