import UtteranceTemplate.Proofs.JsonReading
import UtteranceTemplate.Proofs.Outcomes
import UtteranceTemplate.Proofs.TextFiles
import UtteranceTemplate.Settings

/-!
What loading the settings of a project comes to, whatever there is in its directory.

The two names on the path of the settings are followed as `Settings.look_path`
says: there is something at its end, there is nothing, or the settings' directory
may not be entered. In the first case the settings are loaded from a text that
writes them (`Settings.Writes`), and whatever else the file is or holds is
reported, except for what is too large to be read (`Settings.IsTooLarge`).
`Settings.load_outcomes` puts it together.
-/

namespace UtteranceTemplate

namespace Settings

/-- The names of the settings' directory and of their file, in bytes. -/
def directoryName : List UInt8 := Utf8.encode ".voice-templates".text

@[inherit_doc directoryName]
def fileName : List UInt8 := Utf8.encode "config.json".text

def directoryPlace : Location := ⟨true, 0, [directoryName]⟩

def place : Location := ⟨true, 0, [directoryName, fileName]⟩

variable {tree : FileTree} {text : Text} {settings : Settings}

theorem locate_path (tree : FileTree) :
    tree.locate path = tree.enter directoryPlace fileName := by
  have hfault : path.fault? = none := by decide
  have hnames : path.names.map Utf8.encodeName =
    [directoryName, fileName] := by decide
  have hlength : ¬ FileTree.pathLimit <
    path.size [directoryName, fileName] := by decide
  have htop : tree.enter (.top path.anchor) directoryName =
    .ok directoryPlace := by rfl
  simp only [FileTree.locate, hfault, hnames, if_neg hlength, FileTree.follow, htop]
  cases tree.enter directoryPlace fileName <;> rfl

/-- What there is at the path of the settings. -/
theorem look_path (tree : FileTree) :
    tree.look path =
      match tree.entries.get? directoryPlace with
      | none => .error .missing
      | some (.file _) | some .sealedFile => .error .notDirectory
      | some .sealedDirectory => .error .denied
      | some .directory =>
          match tree.entries.get? place with
          | none => .error .missing
          | some entry => .ok entry := by
  have hlength : ¬ FileTree.nameLimit < fileName.length := by decide
  have hname : fileName ≠ [0x2e, 0x2e] := by decide
  have hdirectory : tree.entry? directoryPlace =
    tree.entries.get? directoryPlace := rfl
  have hplace : tree.entry? (directoryPlace.child fileName) =
    tree.entries.get? place := rfl
  rw [FileTree.look, locate_path, FileTree.enter, hdirectory]
  cases tree.entries.get? directoryPlace with
  | none => rfl
  | some entry =>
      cases entry with
      | file | sealedFile | sealedDirectory => rfl
      | directory =>
          simp only [if_neg hlength, if_neg hname, hplace]
          cases tree.entries.get? place <;> rfl

/-- There is something at the path of the settings, there is nothing, or
nobody can know. -/
theorem look_path_cases (tree : FileTree) :
    (∃ entry, tree.look path = .ok entry) ∨
      (tree.look path = .error .missing ∨ tree.look path = .error .notDirectory) ∨
        tree.look path = .error .denied := by
  rw [look_path]
  split
  case h_1 => exact .inr (.inl (.inl rfl))
  case h_2 | h_3 => exact .inr (.inl (.inr rfl))
  case h_4 => exact .inr (.inr rfl)
  case h_5 =>
    split
    · exact .inr (.inl (.inl rfl))
    · exact .inl ⟨_, rfl⟩

theorem load_of_nothing
    (h : tree.look path = .error .missing ∨ tree.look path = .error .notDirectory) :
    load tree = .error .missing := by
  rcases h with h | h <;> simp [load, areSaved, FileTree.hasEntry, h]

theorem load_of_denied (h : tree.look path = .error .denied) :
    load tree = .error (.unreachable .denied) := by
  simp [load, areSaved, FileTree.hasEntry, h]

theorem load_of_readText_eq_ok (h : tree.readText path = .ok text) :
    load tree = decode text := by
  obtain ⟨bytes, _, hlook, _⟩ := FileTree.readText_eq_ok_iff.mp h
  simp [load, areSaved, FileTree.hasEntry, hlook, h]

theorem load_of_readText_eq_error {fault : ReadFault} {entry : FileEntry}
    (hlook : tree.look path = .ok entry) (h : tree.readText path = .error fault) :
    load tree = .error (.unreadable fault) := by
  simp [load, areSaved, FileTree.hasEntry, hlook, h]

/-- Whether a JSON object writes settings: a value that is not there, or a path that
is `null`, is left as it is by default. -/
structure Writes (members : List (Text × Json)) (settings : Settings) : Prop where
  vocabularyPath :
    match settings.vocabularyPath with
    | some t => Entries.get? members vocabularyPathKey = some (.text t)
    | none =>
        Entries.get? members vocabularyPathKey = none ∨
          Entries.get? members vocabularyPathKey = some .null
  ignoreCase :
    Entries.get? members ignoreCaseKey = some (.bool settings.ignoreCase) ∨
      Entries.get? members ignoreCaseKey = none ∧ settings.ignoreCase = true

theorem vocabularyPathOf_eq_ok_iff {members : List (Text × Json)}
    {found : Option Text} :
    vocabularyPathOf members = .ok found ↔
      match found with
      | some t => Entries.get? members vocabularyPathKey = some (.text t)
      | none =>
          Entries.get? members vocabularyPathKey = none ∨
            Entries.get? members vocabularyPathKey = some .null := by
  unfold vocabularyPathOf
  split <;> cases found <;> simp_all

theorem ignoreCaseOf_eq_ok_iff {members : List (Text × Json)} {found : Bool} :
    ignoreCaseOf members = .ok found ↔
      Entries.get? members ignoreCaseKey = some (.bool found) ∨
        Entries.get? members ignoreCaseKey = none ∧ found = true := by
  unfold ignoreCaseOf
  split <;> cases found <;> simp_all

theorem ofJson_eq_ok_iff {json : Json} :
    ofJson json = .ok settings ↔
      ∃ members, json = .object members ∧ Writes members settings := by
  cases json with
  | object members =>
      have hwrites : Writes members settings ↔
          vocabularyPathOf members = .ok settings.vocabularyPath ∧
            ignoreCaseOf members = .ok settings.ignoreCase := by
        rw [vocabularyPathOf_eq_ok_iff, ignoreCaseOf_eq_ok_iff]
        exact ⟨fun h => ⟨h.vocabularyPath, h.ignoreCase⟩, fun h => ⟨h.1, h.2⟩⟩
      obtain ⟨vocabularyPath, ignoreCase⟩ := settings
      simp only [Json.object.injEq, exists_eq_left', hwrites, ofJson]
      cases vocabularyPathOf members with
      | error fault => simp
      | ok found =>
          rw [map_eq_ok_iff]
          constructor
          · rintro ⟨said, hsaid, heq⟩
            cases heq
            exact ⟨rfl, hsaid⟩
          · rintro ⟨hfound, hsaid⟩
            obtain rfl := Except.ok.inj hfound
            exact ⟨ignoreCase, hsaid, rfl⟩
  | _ => simp [ofJson]

theorem decode_eq_ok_iff :
    decode text = .ok settings ↔
      ∃ members, Json.decode text = .ok (.object members) ∧
        Writes members settings := by
  rw [decode]
  cases Json.decode text with
  | error fault => simp
  | ok json => simp [ofJson_eq_ok_iff]

section Reported

variable {members : List (Text × Json)} {fault : SettingsFault}

theorem isReported_of_vocabularyPathOf
    (h : vocabularyPathOf members = .error fault) :
    fault.isReported = true := by
  unfold vocabularyPathOf at h
  split at h <;> cases h
  rfl

theorem isReported_of_ignoreCaseOf (h : ignoreCaseOf members = .error fault) :
    fault.isReported = true := by
  unfold ignoreCaseOf at h
  split at h <;> cases h
  rfl

/-- A JSON value that writes no settings is reported. -/
theorem isReported_of_ofJson {json : Json} (h : ofJson json = .error fault) :
    fault.isReported = true := by
  unfold ofJson at h
  split at h
  · split at h
    · rename_i hfound
      cases h
      exact isReported_of_vocabularyPathOf hfound
    · exact isReported_of_ignoreCaseOf (map_eq_error_iff.mp h)
  · cases h
    rfl

/-- A text that writes no settings is reported, or it is not read as JSON. -/
theorem isReported_or_of_decode (h : decode text = .error fault) :
    fault.isReported = true ∨
      ∃ reason, Json.decode text = .error reason ∧ fault = .notJson reason text := by
  rw [decode] at h
  cases hdecode : Json.decode text with
  | error reason =>
      rw [hdecode] at h
      cases h
      exact .inr ⟨reason, rfl, rfl⟩
  | ok json =>
      rw [hdecode] at h
      exact .inl (isReported_of_ofJson h)

theorem decode_ne_missing : decode text ≠ .error .missing := by
  intro h
  rcases isReported_or_of_decode h with hreported | ⟨reason, _, hfault⟩
  · cases hreported
  · cases hfault

end Reported

/-- Settings are loaded exactly if the text of the file is that of a JSON object
that writes them. -/
theorem load_eq_ok_iff :
    load tree = .ok settings ↔
      ∃ text members, tree.readText path = .ok text ∧
        Json.decode text = .ok (.object members) ∧ Writes members settings := by
  cases hread : tree.readText path with
  | ok text => simp [load_of_readText_eq_ok hread, decode_eq_ok_iff]
  | error fault =>
      refine iff_of_false ?_ (by simp)
      obtain ⟨entry, hlook⟩ | hnothing | hdenied := look_path_cases tree
      · simp [load_of_readText_eq_error hlook hread]
      · simp [load_of_nothing hnothing]
      · simp [load_of_denied hdenied]

/-- There are no settings exactly if there is nothing at their path. -/
theorem load_eq_missing_iff :
    load tree = .error .missing ↔
      tree.look path = .error .missing ∨ tree.look path = .error .notDirectory := by
  refine ⟨fun h => ?_, load_of_nothing⟩
  obtain ⟨entry, hlook⟩ | hnothing | hdenied := look_path_cases tree
  · cases hread : tree.readText path with
    | ok text => exact absurd (load_of_readText_eq_ok hread ▸ h) decode_ne_missing
    | error fault => simp [load_of_readText_eq_error hlook hread] at h
  · exact hnothing
  · simp [load_of_denied hdenied] at h

/-- Whether a text is refused for what is too large in it: a whole number that
has too many digits, which then stand in the text, or an array or an object
that lies too deep. -/
def IsTooLarge (text : Text) : Prop :=
  (∃ digits, Json.decode text = .error (.longInteger digits) ∧
      Json.Token.HoldsLongInteger digits text) ∨
    ∃ isArray, Json.decode text = .error (.tooDeep isArray)

theorem decode_unreported_iff :
    (∃ fault, decode text = .error fault ∧ fault.isReported = false) ↔
      IsTooLarge text := by
  constructor
  · rintro ⟨fault, hfault, hunreported⟩
    rcases isReported_or_of_decode hfault with hreported | ⟨reason, hreason, rfl⟩
    · rw [hunreported] at hreported
      cases hreported
    · cases reason with
      | malformed => cases hunreported
      | longInteger digits =>
          exact .inl ⟨digits, hreason, Json.holdsLongInteger_of_decode hreason⟩
      | tooDeep isArray => exact .inr ⟨isArray, hreason⟩
  · rintro (⟨digits, hdecode, _⟩ | ⟨isArray, hdecode⟩)
    · exact ⟨.notJson (.longInteger digits) text, by rw [decode, hdecode], rfl⟩
    · exact ⟨.notJson (.tooDeep isArray) text, by rw [decode, hdecode], rfl⟩

/-- Loading fails in a way that is neither that there are no settings nor reported
exactly if the settings' directory may not be entered or something in the text of the
file is too large. -/
theorem load_unreported_iff :
    (∃ fault, load tree = .error fault ∧ fault ≠ .missing ∧
      fault.isReported = false) ↔
      tree.look path = .error .denied ∨ ∃ text, tree.readText path = .ok text ∧
        IsTooLarge text := by
  cases hread : tree.readText path with
  | ok text =>
      obtain ⟨bytes, _, hlook, _⟩ := FileTree.readText_eq_ok_iff.mp hread
      have hne : ∀ fault, decode text = .error fault → fault ≠ .missing := by
        rintro _ hfault rfl
        exact decode_ne_missing hfault
      simp only [load_of_readText_eq_ok hread, hlook, reduceCtorEq, false_or,
        Except.ok.injEq, exists_eq_left', ← decode_unreported_iff]
      exact exists_congr fun fault => and_congr_right fun hfault =>
        and_iff_right (hne fault hfault)
  | error fault =>
      obtain ⟨entry, hlook⟩ | hnothing | hdenied := look_path_cases tree
      · simp [load_of_readText_eq_error hlook hread, hlook, SettingsFault.isReported]
      · have hload := load_of_nothing hnothing
        rcases hnothing with hnothing | hnothing <;> simp [hload, hnothing]
      · simp [load_of_denied hdenied, hdenied, SettingsFault.isReported]

/-- Whatever there is in the project's directory: there are no settings exactly
if there is nothing at their path; they are loaded exactly if the text of the
file is that of a JSON object that writes them; and any other failure is
reported, unless the settings' directory may not be entered or something in the
text of the file is too large. -/
theorem load_outcomes (tree : FileTree) :
    (load tree = .error .missing ↔
        tree.look path = .error .missing ∨ tree.look path = .error .notDirectory) ∧
      (∀ settings, load tree = .ok settings ↔
        ∃ text members, tree.readText path = .ok text ∧
          Json.decode text = .ok (.object members) ∧ Writes members settings) ∧
      (((∃ settings, load tree = .ok settings) ∨ load tree = .error .missing ∨
          ∃ fault, load tree = .error fault ∧ fault.isReported = true) ↔
        ¬ (tree.look path = .error .denied ∨
          ∃ text, tree.readText path = .ok text ∧ IsTooLarge text)) := by
  refine ⟨load_eq_missing_iff, fun settings => load_eq_ok_iff, ?_⟩
  rw [← load_unreported_iff]
  cases load tree with
  | ok settings => simp
  | error fault =>
      by_cases hmissing : fault = .missing
      · simp [hmissing]
      · simp [hmissing]

/-- A file that holds nothing but a whole number of 4301 digits is neither
loaded nor reported. -/
theorem not_load_outcomes_longInteger :
    let text : Text := List.replicate 4301 '1'
    let tree : FileTree :=
      ⟨[(directoryPlace, .directory), (place, .file (Utf8.encode text))]⟩
    load tree = .error (.notJson (.longInteger 4301) text) ∧
      ¬ ((∃ settings, load tree = .ok settings) ∨ load tree = .error .missing ∨
        ∃ fault, load tree = .error fault ∧ fault.isReported = true) := by
  intro text tree
  have hone : ∀ c ∈ text, c = '1' := fun c hc => List.eq_of_mem_replicate hc
  have hlook : tree.look path = .ok (.file (Utf8.encode text)) := by
    rw [look_path]
    rfl
  have hascii : Utf8.IsAscii text := by
    intro c hc
    rw [hone c hc]
    decide
  have hreturn : .char '\r' ∉ text := by
    intro hmem
    cases hone _ hmem
  have hdecode : Json.decode text = .error (.longInteger 4301) := by
    have hlength : text.length = 4301 := List.length_replicate
    rw [← hlength]
    apply Json.decode_of_digits
    · intro c hc
      rw [hone c hc]
      rfl
    · simp [text]
    · rw [hlength]
      decide
  have hload : load tree = .error (.notJson (.longInteger 4301) text) := by
    rw [load_of_readText_eq_ok (FileTree.readText_of_isAscii hlook hascii hreturn),
      decode, hdecode]
  refine ⟨hload, ?_⟩
  rw [hload]
  rintro (⟨settings, hsettings⟩ | hmissing | ⟨fault, hfault, hreported⟩)
  · cases hsettings
  · cases hmissing
  · obtain rfl := Except.error.inj hfault
    cases hreported

end Settings

end UtteranceTemplate
