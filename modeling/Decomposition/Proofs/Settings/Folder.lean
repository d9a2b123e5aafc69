import Decomposition.Settings.Folder
import Decomposition.Proofs.Files.Tree
import Decomposition.Proofs.Outcome
import Decomposition.Proofs.Settings.File

namespace Decomposition

theorem Datum.sameNumber_self (x : Float) : Datum.sameNumber x x = true := by
  rw [Datum.sameNumber, Bool.or_eq_true, Float.beq_self_iff, Float.isNaN_eq_decide_eq_nan,
    Bool.and_self, decide_eq_true_eq]
  exact ne_or_eq x Float.nan

namespace Settings

/-- All standard tolerances are there, as they are in all settings that come about. -/
def IsComplete (s : Settings) : Prop :=
  ∀ entry ∈ standardTolerances, s.tolerances.contains entry.1 = true

theorem contains_completeTolerances (given : Tolerances) (name : String) :
    (completeTolerances given).contains name =
      (given.contains name || (OrderedMap.ofList standardTolerances).contains name) :=
  OrderedMap.contains_insertAll _ given name

/-- The constructor makes settings complete. -/
theorem isComplete_of_tolerances {s : Settings} {given : Tolerances}
    (made : s.tolerances = completeTolerances given) : s.IsComplete := by
  intro entry mem
  have standard : (OrderedMap.ofList standardTolerances).contains entry.1 = true := by
    revert entry
    decide
  rw [made, contains_completeTolerances, standard, Bool.or_true]

theorem IsComplete.setTolerance {s : Settings} (complete : s.IsComplete) (name : String)
    (value : Float) : (s.setTolerance name value).IsComplete := by
  intro entry mem
  refine (s.tolerances.contains_insert name entry.1 value).trans ?_
  rw [complete entry mem, Bool.or_true]

theorem isComplete_of_ofTable {env : Environment} {t : SettingsTable} {s : Settings}
    (made : ofTable env t = .ok s) : s.IsComplete := by
  obtain ⟨threads, _, afterThreads⟩ := Fault.exists_of_bind_eq_ok made
  obtain ⟨elems, _, afterElems⟩ := Fault.exists_of_bind_eq_ok afterThreads
  obtain ⟨given, _, built⟩ := Fault.exists_of_bind_eq_ok afterElems
  cases built
  exact isComplete_of_tolerances rfl

/-- Where no standard tolerance is missing, completion finds what was there before. -/
theorem IsComplete.get?_completeTolerances {s : Settings} (complete : s.IsComplete)
    (name : String) : (completeTolerances s.tolerances).get? name = s.tolerances.get? name := by
  rw [completeTolerances, OrderedMap.get?_insertAll]
  cases found : s.tolerances.get? name with
  | some value => rfl
  | none =>
      rw [Option.none_or]
      by_contra present
      obtain ⟨value, standard⟩ := Option.ne_none_iff_exists'.1 present
      obtain ⟨entry, mem, same, _⟩ := OrderedMap.exists_mem_of_get? standard
      have absent := complete entry mem
      rw [OrderedMap.contains_eq_isSome, beq_iff_eq.1 same, found] at absent
      cases absent

/-- Completion leaves complete settings as they are, up to the order of the tolerances. -/
theorem same_of_isComplete {s : Settings} (writable : s.Writable) (complete : s.IsComplete) :
    Settings.same { s with tolerances := completeTolerances s.tolerances } s = true := by
  have found := complete.get?_completeTolerances
  have size : (completeTolerances s.tolerances).size = s.tolerances.size :=
    OrderedMap.size_eq_of_get? found
  have values : ((completeTolerances s.tolerances).entries.all fun entry =>
      (s.tolerances.get? entry.1).any (Datum.sameNumber entry.2)) = true := by
    refine List.all_eq_true.2 fun entry mem => ?_
    rw [← found, OrderedMap.get?_self_of_mem mem]
    exact Datum.sameNumber_self entry.2
  obtain ⟨level, levelText, _⟩ := writable.logLevel
  obtain ⟨solver, solverText, _⟩ := writable.defaultSolver
  obtain ⟨threads, threadsInt, _⟩ := writable.numThreads
  obtain ⟨elems, elemsInt, _⟩ := writable.maxElems
  rw [Settings.same, levelText, solverText, threadsInt, elemsInt]
  dsimp only
  rw [size, values]
  simp [Datum.same, Datum.agrees, Datum.compareNumbers, Datum.asInteger?]

end Settings

namespace SettingsFolder

/-- Whatever is loaded is complete, the standard settings included. -/
theorem isComplete_load {folder : SettingsFolder} {env : Environment} {path : Option FilePath}
    {s : Settings} (loaded : folder.load env path = .ok s) : s.IsComplete := by
  obtain ⟨text, _, parsed⟩ := Fault.exists_of_bind_eq_ok loaded
  cases text with
  | none =>
      cases parsed
      exact Settings.isComplete_of_tolerances rfl
  | some text =>
      obtain ⟨reading, _, made⟩ := Fault.exists_of_bind_eq_ok parsed
      exact Settings.isComplete_of_ofTable made

end SettingsFolder

/-- The settings that come about: the constructor takes any values, tables and files are read, and
tolerances are set. -/
inductive Settings.Made : Settings → Prop
  | constructor (s : Settings) (given : Tolerances) :
      Made { s with tolerances := completeTolerances given }
  /-- Other values are assigned, and the tolerances come into another order. -/
  | assign {s t : Settings} (before : Made s)
      (same : ∀ name, t.tolerances.get? name = s.tolerances.get? name) : Made t
  | ofTable {env : Environment} {t : SettingsTable} {s : Settings} (made : ofTable env t = .ok s) :
      Made s
  | load {folder : SettingsFolder} {env : Environment} {path : Option FilePath} {s : Settings}
      (loaded : folder.load env path = .ok s) : Made s
  | setTolerance {s : Settings} (before : Made s) (name : String) (value : Float) :
      Made (s.setTolerance name value)

/-- No standard tolerance is ever missing, and nothing else is asked of settings. -/
theorem Settings.made_iff_isComplete {s : Settings} : s.Made ↔ s.IsComplete := by
  constructor
  · intro made
    induction made with
    | constructor s given => exact isComplete_of_tolerances rfl
    | assign _ same complete =>
        intro entry mem
        rw [OrderedMap.contains_eq_isSome, same, ← OrderedMap.contains_eq_isSome]
        exact complete entry mem
    | ofTable made => exact isComplete_of_ofTable made
    | load loaded => exact SettingsFolder.isComplete_load loaded
    | setTolerance _ name value complete => exact complete.setTolerance name value
  · intro complete
    exact .assign (.constructor s s.tolerances) fun name =>
      (complete.get?_completeTolerances name).symm

namespace SettingsFolder
variable {folder : SettingsFolder} {path : Option FilePath} {l : Location}

/-- The local file is preferred to the one in the home folder. -/
theorem text_of_read {content : String}
    (read : folder.tree.read (path.getD standardPath) = .ok (some content)) :
    folder.text path = .ok (some content) := by
  cases path with
  | some path => exact read
  | none =>
      change (folder.tree.read standardPath).map _ = _
      rw [show folder.tree.read standardPath = _ from read]
      rfl

theorem load_of_text {content : String} (text : folder.text path = .ok (some content))
    (env : Environment) : folder.load env path = SettingsFile.parse env content.toList := by
  rw [load, text]
  rfl

/-- What is saved is loaded again, whatever the environment. -/
theorem load_save {s : Settings} (made : s.Made) (writable : s.Writable)
    (place : folder.tree.place (path.getD standardPath) = .ok l)
    (free : folder.tree.hasFolder l = false) :
    ∃ saved, folder.save s path = .ok saved ∧ ∀ env, ∃ loaded,
      saved.load env path = .ok loaded ∧ loaded.same s = true := by
  let content := String.ofList (SettingsFile.render s)
  let saved : SettingsFolder := ⟨folder.home, folder.tree.withFile l content⟩
  have done : folder.save s path = .ok saved := by
    rw [save, FileTree.put_of_free content place free]
    rfl
  have text : saved.text path = .ok (some content) :=
    text_of_read (FileTree.read_withFile content free place)
  have complete := Settings.made_iff_isComplete.1 made
  refine ⟨saved, done, fun env => ⟨_, ?_, Settings.same_of_isComplete writable complete⟩⟩
  rw [load_of_text text, String.toList_ofList, SettingsFile.parse_render writable env]

/-- Settings with names and texts that look like other lines, and numbers of all layouts. -/
def smallSettings : Settings :=
  { logLevel := .text " [a] = \"b\" "
    defaultSolver := .text "1e+5"
    numThreads := .int 4
    maxElems := .int 0
    tolerances := Settings.completeTolerances (.ofList
      [("log_level", Binary64.ofDecimal false 1 20), ("[x]", Binary64.infinity),
        ("", Binary64.ofDecimal true 25 (-1)), ("optimality", Binary64.ofDecimal true 0 0)]) }

theorem load_save_smallSettings :
    ∃ saved, empty.save smallSettings (some ⟨.workingFolder, [.enter "opendw.toml"]⟩) = .ok saved ∧
      ∀ env, ∃ loaded, saved.load env (some ⟨.workingFolder, [.enter "opendw.toml"]⟩) = .ok loaded ∧
        loaded.same smallSettings = true := by
  have writable : smallSettings.Writable :=
    { logLevel := ⟨_, rfl, by decide⟩
      defaultSolver := ⟨_, rfl, by decide⟩
      numThreads := ⟨4, rfl, by decide +kernel⟩
      maxElems := ⟨0, rfl, by decide +kernel⟩
      names := by decide +kernel
      numbers := by decide +kernel }
  have place : FileTree.empty.place ⟨.workingFolder, [.enter "opendw.toml"]⟩ =
      .ok ⟨false, 0, ["opendw.toml"]⟩ :=
    FileTree.place_eq_ok.2 ⟨by simp [FilePath.impossible, PathStep.impossible], by decide, rfl⟩
  exact load_save (.constructor smallSettings _) writable place rfl

end SettingsFolder

end Decomposition
