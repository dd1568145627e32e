import UtteranceTemplate.CommandLine.Run
import UtteranceTemplate.Proofs.SettingsLoading

/-!
Where commands take the vocabulary and the letter case from.

The vocabulary comes from the first path that is not empty, of the option, the
environment and the settings (`Surroundings.TakesPath`), and without one it is the
bundled vocabulary (`Surroundings.Loads`). Whether letter case is ignored is asked
for, said by the settings, or so by default (`Surroundings.TakesCase`). The relations
say what there is to load and what fails on the way;
`Surroundings.vocabulary_of_loads` and `Surroundings.ignoresCase_of_takesCase` say
that commands do so and report what fails.
-/

namespace UtteranceTemplate

namespace Settings

variable {tree : FileTree}

/-- There are no settings exactly if it is known that nothing is where they
belong. -/
theorem load_eq_missing_iff_areSaved :
    load tree = .error .missing ↔ areSaved tree = .ok false := by
  rw [load_eq_missing_iff, areSaved, FileTree.hasEntry]
  obtain ⟨entry, hlook⟩ | (hlook | hlook) | hlook :=
    look_path_cases tree <;> simp [hlook]

theorem areSaved_of_load_eq_ok {settings : Settings} (h : load tree = .ok settings) :
    areSaved tree = .ok true := by
  unfold load at h
  split at h
  · cases h
  · cases h
  · assumption

/-- If settings that may be there are not loaded, either nobody can know whether they
are there or they are. -/
theorem areSaved_of_load_eq_error {fault : SettingsFault}
    (h : load tree = .error fault) (hne : fault ≠ .missing) :
    (∃ reason, areSaved tree = .error reason ∧ fault = .unreachable reason) ∨
      areSaved tree = .ok true := by
  unfold load at h
  split at h
  · rename_i reason hreason
    cases h
    exact Or.inl ⟨reason, hreason, rfl⟩
  · cases h
    exact absurd rfl hne
  · exact Or.inr ‹_›

end Settings

/-- Why there is nothing to match with. -/
inductive Failure
  /-- The settings cannot be loaded. -/
  | settings (fault : SettingsFault)
  /-- It cannot be known whether there is a vocabulary at a path. -/
  | unreachable (path : FilePath) (fault : FileFault)
  /-- There is no vocabulary at a path. -/
  | noFile (path : FilePath)
  /-- The vocabulary at a path cannot be loaded. -/
  | vocabulary (path : FilePath) (fault : LoadFault)
  /-- The template cannot be compiled. -/
  | template (error : TemplateError)

namespace Failure

/-- Whether the failure is one that is meant to be reported: of the settings, of the
vocabulary or of the template as such. -/
def isReported : Failure → Bool
  | .settings fault => fault.isReported
  | .unreachable _ _ => false
  | .vocabulary _ fault => fault.isReported
  | .noFile _ | .template _ => true

def message (surroundings : Surroundings) : Failure → Text
  | .settings fault => fault.message (surroundings.pathText Settings.path)
  | .unreachable path fault => fault.message (surroundings.pathText path)
  | .noFile path => "Vocabulary file not found: ".text ++ surroundings.pathText path
  | .vocabulary path fault => fault.message (surroundings.pathText path)
  | .template error => error.message

end Failure

/-- Whether no path is given: none at all, or an empty one. -/
def IsUnset (given : Option Text) : Prop := ∀ path, given = some path → path = []

theorem filter_eq_none_of_isUnset {given : Option Text} (h : IsUnset given) :
    given.filter (!·.isEmpty) = none := by
  rw [Option.filter_eq_none_iff]
  intro path hpath
  simp [h path hpath]

theorem filter_eq_some_of_ne_nil {given : Option Text} {path : Text}
    (h : given = some path) (hne : path ≠ []) :
    given.filter (!·.isEmpty) = some path := by
  rw [Option.filter_eq_some_iff]
  exact ⟨h, by simpa using hne⟩

/-- A path is given or it is not. -/
theorem isUnset_or_exists (given : Option Text) :
    IsUnset given ∨ ∃ path, given = some path ∧ path ≠ [] := by
  by_cases h : IsUnset given
  · exact Or.inl h
  · rw [IsUnset] at h
    push Not at h
    exact Or.inr h

namespace Surroundings

variable (surroundings : Surroundings)

/-- The path from which the vocabulary is taken: the first that is not empty, of the
one that is asked for, the one in the environment and the one in the settings. -/
inductive TakesPath (asked : Option Text) :
    Except SettingsFault (Option FilePath) → Prop
  | asked {path : Text} (hasked : asked = some path) (hne : path ≠ []) :
      TakesPath asked (.ok (some (.ofText path)))
  | environment {path : Text} (hasked : IsUnset asked)
      (henvironment : surroundings.vocabularyPath = some path) (hne : path ≠ []) :
      TakesPath asked (.ok (some (.ofText path)))
  | settings {settings : Settings} {path : Text} (hasked : IsUnset asked)
      (henvironment : IsUnset surroundings.vocabularyPath)
      (hload : Settings.load surroundings.tree = .ok settings)
      (hpath : settings.vocabularyPath = some path) (hne : path ≠ []) :
      TakesPath asked (.ok (some (FilePath.ofText path).inProject))
  | unset {settings : Settings} (hasked : IsUnset asked)
      (henvironment : IsUnset surroundings.vocabularyPath)
      (hload : Settings.load surroundings.tree = .ok settings)
      (hpath : IsUnset settings.vocabularyPath) : TakesPath asked (.ok none)
  | unsaved (hasked : IsUnset asked)
      (henvironment : IsUnset surroundings.vocabularyPath)
      (hload : Settings.load surroundings.tree = .error .missing) :
        TakesPath asked (.ok none)
  | broken {fault : SettingsFault} (hasked : IsUnset asked)
      (henvironment : IsUnset surroundings.vocabularyPath)
      (hload : Settings.load surroundings.tree = .error fault)
        (hne : fault ≠ .missing) :
      TakesPath asked (.error fault)

/-- The vocabulary to use, or why there is none. -/
inductive Loads (asked : Option Text) : Except Failure Vocabulary → Prop
  | settings {fault : SettingsFault}
      (hpath : surroundings.TakesPath asked (.error fault)) :
      Loads asked (.error (.settings fault))
  | bundled (hpath : surroundings.TakesPath asked (.ok none)) :
      Loads asked (.ok .bundled)
  | unreachable {path : FilePath} {fault : FileFault}
      (hpath : surroundings.TakesPath asked (.ok (some path)))
      (hentry : surroundings.tree.hasEntry path = .error fault) :
      Loads asked (.error (.unreachable path fault))
  | noFile {path : FilePath} (hpath : surroundings.TakesPath asked (.ok (some path)))
      (hentry : surroundings.tree.hasEntry path = .ok false) :
        Loads asked (.error (.noFile path))
  | faulty {path : FilePath} {fault : LoadFault}
      (hpath : surroundings.TakesPath asked (.ok (some path)))
      (hentry : surroundings.tree.hasEntry path = .ok true)
      (hload : Vocabulary.load surroundings.tree path = .error fault) :
      Loads asked (.error (.vocabulary path fault))
  | loaded {path : FilePath} {vocabulary : Vocabulary}
      (hpath : surroundings.TakesPath asked (.ok (some path)))
      (hentry : surroundings.tree.hasEntry path = .ok true)
      (hload : Vocabulary.load surroundings.tree path = .ok vocabulary) :
      Loads asked (.ok vocabulary)

/-- Whether letter case is ignored: not if it is asked for, else as the settings say,
and without settings it is. -/
inductive TakesCase (caseSensitive : Bool) : Except Failure Bool → Prop
  | asked (hasked : caseSensitive = true) : TakesCase caseSensitive (.ok false)
  | settings {settings : Settings} (hasked : caseSensitive = false)
      (hload : Settings.load surroundings.tree = .ok settings) :
      TakesCase caseSensitive (.ok settings.ignoreCase)
  | unsaved (hasked : caseSensitive = false)
      (hload : Settings.load surroundings.tree = .error .missing) :
      TakesCase caseSensitive (.ok true)
  | broken {fault : SettingsFault} (hasked : caseSensitive = false)
      (hload : Settings.load surroundings.tree = .error fault)
        (hne : fault ≠ .missing) :
      TakesCase caseSensitive (.error (.settings fault))

variable {surroundings} {asked : Option Text} {caseSensitive : Bool}

/-- The path is the one that is chosen. -/
theorem chooseVocabulary_of_takesPath
    {outcome : Except SettingsFault (Option FilePath)}
    (h : surroundings.TakesPath asked outcome) :
    Settings.chooseVocabulary surroundings.tree asked surroundings.vocabularyPath =
      outcome := by
  rw [Settings.chooseVocabulary]
  cases h with
  | asked hasked hne => rw [filter_eq_some_of_ne_nil hasked hne]
  | environment hasked henvironment hne =>
      rw [filter_eq_none_of_isUnset hasked,
        filter_eq_some_of_ne_nil henvironment hne]
  | settings hasked henvironment hload hpath hne =>
      rw [filter_eq_none_of_isUnset hasked, filter_eq_none_of_isUnset henvironment,
        Settings.areSaved_of_load_eq_ok hload, hload]
      simp [Except.map, filter_eq_some_of_ne_nil hpath hne]
  | unset hasked henvironment hload hpath =>
      rw [filter_eq_none_of_isUnset hasked, filter_eq_none_of_isUnset henvironment,
        Settings.areSaved_of_load_eq_ok hload, hload]
      simp [Except.map, filter_eq_none_of_isUnset hpath]
  | unsaved hasked henvironment hload =>
      rw [filter_eq_none_of_isUnset hasked, filter_eq_none_of_isUnset henvironment,
        Settings.load_eq_missing_iff_areSaved.mp hload]
  | broken hasked henvironment hload hne =>
      rw [filter_eq_none_of_isUnset hasked, filter_eq_none_of_isUnset henvironment]
      rcases Settings.areSaved_of_load_eq_error hload hne with ⟨reason, hsaved,
        rfl⟩ | hsaved
      · rw [hsaved]
      · rw [hsaved, hload]
        rfl

/-- Whatever the surroundings are, a path is taken, or there is none, or the
settings fail. -/
theorem exists_takesPath (surroundings : Surroundings) (asked : Option Text) :
    ∃ outcome, surroundings.TakesPath asked outcome := by
  rcases isUnset_or_exists asked with hasked | ⟨path, hasked, hne⟩
  · rcases isUnset_or_exists surroundings.vocabularyPath with henvironment |
      ⟨path, hpath, hne⟩
    · cases hload : Settings.load surroundings.tree with
      | ok settings =>
          rcases isUnset_or_exists settings.vocabularyPath with hpath |
            ⟨path, hpath, hne⟩
          · exact ⟨_, .unset hasked henvironment hload hpath⟩
          · exact ⟨_, .settings hasked henvironment hload hpath hne⟩
      | error fault =>
          by_cases hmissing : fault = .missing
          · exact ⟨_, .unsaved hasked henvironment (hmissing ▸ hload)⟩
          · exact ⟨_, .broken hasked henvironment hload hmissing⟩
    · exact ⟨_, .environment hasked hpath hne⟩
  · exact ⟨_, .asked hasked hne⟩

theorem exists_loads (surroundings : Surroundings) (asked : Option Text) :
    ∃ outcome, surroundings.Loads asked outcome := by
  obtain ⟨path | path?, hpath⟩ := surroundings.exists_takesPath asked
  · exact ⟨_, .settings hpath⟩
  · cases path? with
    | none => exact ⟨_, .bundled hpath⟩
    | some path =>
        cases hentry : surroundings.tree.hasEntry path with
        | error fault => exact ⟨_, .unreachable hpath hentry⟩
        | ok isThere =>
            cases isThere with
            | false => exact ⟨_, .noFile hpath hentry⟩
            | true =>
                cases hload : Vocabulary.load surroundings.tree path with
                | error fault => exact ⟨_, .faulty hpath hentry hload⟩
                | ok vocabulary => exact ⟨_, .loaded hpath hentry hload⟩

theorem exists_takesCase (surroundings : Surroundings) (caseSensitive : Bool) :
    ∃ outcome, surroundings.TakesCase caseSensitive outcome := by
  cases caseSensitive with
  | true => exact ⟨_, .asked rfl⟩
  | false =>
      cases hload : Settings.load surroundings.tree with
      | ok settings => exact ⟨_, .settings rfl hload⟩
      | error fault =>
          by_cases hmissing : fault = .missing
          · exact ⟨_, .unsaved rfl (hmissing ▸ hload)⟩
          · exact ⟨_, .broken rfl hload hmissing⟩

/-- There is one vocabulary to use, or one reason why there is none. -/
theorem Loads.unique {outcome other : Except Failure Vocabulary}
    (h : surroundings.Loads asked outcome) (h' : surroundings.Loads asked other) :
    outcome = other := by
  cases h <;> cases h' <;> grind [→ chooseVocabulary_of_takesPath]

theorem TakesCase.unique {outcome other : Except Failure Bool}
    (h : surroundings.TakesCase caseSensitive outcome)
    (h' : surroundings.TakesCase caseSensitive other) : outcome = other := by
  cases h <;> cases h' <;> grind

theorem withoutSettings_of_isReported {fault : SettingsFault}
    (h : fault.isReported = true) :
    surroundings.withoutSettings fault =
      .failing (fault.message (surroundings.pathText Settings.path)) := by
  unfold withoutSettings
  split
  · cases h
  · rw [if_pos h]

/-- A command loads the vocabulary, and ends with a failure that is reported. -/
theorem vocabulary_of_loads {outcome : Except Failure Vocabulary}
    (h : surroundings.Loads asked outcome) :
    (∀ vocabulary, outcome = .ok vocabulary →
        ∃ trace, surroundings.vocabulary asked = .ok (vocabulary, trace)) ∧
      ∀ failure, outcome = .error failure → failure.isReported = true →
        surroundings.vocabulary asked =
          .error (.failing (failure.message surroundings)) := by
  constructor
  · rintro vocabulary rfl
    rw [Surroundings.vocabulary]
    cases h with
    | bundled hpath =>
        rw [chooseVocabulary_of_takesPath hpath]
        exact ⟨[], rfl⟩
    | loaded hpath hentry hload =>
        simp only [chooseVocabulary_of_takesPath hpath, loadVocabulary,
          hentry, hload]
        exact ⟨_, rfl⟩
  · rintro failure rfl hreported
    rw [Surroundings.vocabulary]
    cases h with
    | settings hpath =>
        simp only [chooseVocabulary_of_takesPath hpath,
          withoutSettings_of_isReported hreported]
        rfl
    | unreachable hpath hentry => cases hreported
    | noFile hpath hentry =>
        simp only [chooseVocabulary_of_takesPath hpath, loadVocabulary, hentry]
        rfl
    | faulty hpath hentry hload =>
        simp only [chooseVocabulary_of_takesPath hpath, loadVocabulary,
          hentry, hload, withoutVocabulary]
        rw [Failure.isReported] at hreported
        rw [if_pos hreported]
        rfl

/-- A command takes the letter case, and ends with a failure that is reported. -/
theorem ignoresCase_of_takesCase {outcome : Except Failure Bool}
    (h : surroundings.TakesCase caseSensitive outcome) :
    (∀ ignoreCase, outcome = .ok ignoreCase →
        surroundings.ignoresCase caseSensitive = .ok ignoreCase) ∧
      ∀ failure, outcome = .error failure → failure.isReported = true →
        surroundings.ignoresCase caseSensitive =
          .error (.failing (failure.message surroundings)) := by
  rw [ignoresCase]
  constructor
  · rintro ignoreCase rfl
    cases h with
    | asked hasked => rw [if_pos hasked]
    | settings hasked hload =>
        simp only [hasked, Settings.areSaved_of_load_eq_ok hload, hload]
        rfl
    | unsaved hasked hload =>
        simp only [hasked, Settings.load_eq_missing_iff_areSaved.mp hload]
        rfl
  · rintro failure rfl hreported
    cases h with
    | broken hasked hload hne =>
        rw [Failure.isReported] at hreported
        rcases Settings.areSaved_of_load_eq_error hload hne with ⟨reason, _,
          rfl⟩ | hsaved
        · cases hreported
        · simp only [hasked, hsaved, hload, withoutSettings_of_isReported hreported]
          rfl

end Surroundings

end UtteranceTemplate
