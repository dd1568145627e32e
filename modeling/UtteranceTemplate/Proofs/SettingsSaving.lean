import UtteranceTemplate.Proofs.FileTrees
import UtteranceTemplate.Proofs.JsonWriting
import UtteranceTemplate.Proofs.SettingsLoading

/-!
What saving the settings of a project comes to, whatever there was in its directory.

A save that succeeds leaves a file with the written values where the settings belong
and changes nothing else; these values are loaded from it if they are settings
(`Settings.IsSaved`). A save that fails on the directory or on the file changes
nothing. `Settings.save_then_load` puts it together.
-/

namespace UtteranceTemplate

namespace Settings

variable {tree made saved : FileTree} {bytes : List UInt8}
  {vocabularyPath ignoreCase : Json}

section Places

theorem locate_directory (tree : FileTree) :
    tree.locate directory = .ok directoryPlace := by
  have hfault : directory.fault? = none := by decide
  have hnames : directory.names.map Utf8.encodeName = [directoryName] := by decide
  have hlength : ¬ FileTree.pathLimit < directory.size [directoryName] := by decide
  simp only [FileTree.locate, hfault, hnames, if_neg hlength]
  rfl

theorem hasDirectory_of_entry?_place (htree : tree.IsWellFormed) {entry : FileEntry}
    (h : tree.entry? place = some entry) : tree.HasDirectory directoryPlace :=
  htree place entry h

/-- The settings' directory is made if there is nothing in its place, and stays
if it is there. -/
theorem makeDirectory_eq_ok_iff :
    tree.makeDirectory directory = .ok made ↔
      tree.entry? directoryPlace = none ∧
        made = tree.putAt directoryPlace .directory ∨
        tree.HasDirectory directoryPlace ∧ made = tree := by
  simp only [FileTree.makeDirectory, locate_directory, FileTree.HasDirectory]
  cases tree.entry? directoryPlace with
  | none => simp [@eq_comm _ made]
  | some entry => cases entry <;> simp [FileEntry.isDirectory, @eq_comm _ made]

/-- The place of the settings is reached through their directory. -/
theorem locate_path_eq_ok_iff {location : Location} :
    tree.locate path = .ok location ↔
      tree.entry? directoryPlace = some .directory ∧ location = place := by
  have hlength : ¬ FileTree.nameLimit < fileName.length := by decide
  have hname : fileName ≠ [0x2e, 0x2e] := by decide
  rw [locate_path, FileTree.enter]
  split
  case h_5 hentry =>
    rw [if_neg hlength, if_neg hname, hentry]
    constructor
    · intro h
      exact ⟨rfl, (Except.ok.inj h).symm⟩
    · rintro ⟨_, rfl⟩
      rfl
  all_goals simp_all

/-- Whether there is nothing at a place, or a file that may be replaced. -/
def IsFree (tree : FileTree) (location : Location) : Prop :=
  tree.entry? location = none ∨ ∃ bytes, tree.entry? location = some (.file bytes)

/-- The settings are written exactly if their directory may be entered and
their place is free. -/
theorem write_eq_ok_iff :
    made.write path bytes = .ok saved ↔
      made.entry? directoryPlace = some .directory ∧ IsFree made place ∧
        saved = made.putAt place (.file bytes) := by
  cases hlocate : made.locate path with
  | error fault =>
      have hnot : made.entry? directoryPlace ≠ some .directory := by
        intro hdirectory
        rw [locate_path_eq_ok_iff.mpr ⟨hdirectory, rfl⟩] at hlocate
        cases hlocate
      simp [FileTree.write, hlocate, hnot]
  | ok location =>
      obtain ⟨hdirectory, rfl⟩ := locate_path_eq_ok_iff.mp hlocate
      simp only [FileTree.write, hlocate, hdirectory, true_and, IsFree]
      cases made.entry? place with
      | none => simp [eq_comm]
      | some entry => cases entry <;> simp [eq_comm]

end Places

section Values

theorem reread_toJson (vocabularyPath ignoreCase : Json) :
    Json.reread (toJson vocabularyPath ignoreCase) =
      toJson (Json.reread vocabularyPath) (Json.reread ignoreCase) := by
  have hpath : Json.joined vocabularyPathKey = vocabularyPathKey :=
    Json.joined_eq_self (by decide)
  have hcase : Json.joined ignoreCaseKey = ignoreCaseKey :=
    Json.joined_eq_self (by decide)
  simp only [toJson, Json.reread, Json.rereadMembers, hpath, hcase]
  rfl

theorem ofJson_toJson_badVocabularyPath (hnull : vocabularyPath ≠ .null)
    (htext : ∀ t, vocabularyPath ≠ .text t) :
    ofJson (toJson vocabularyPath ignoreCase) = .error .badVocabularyPath := by
  cases vocabularyPath with
  | null => exact absurd rfl hnull
  | text t => exact absurd rfl (htext t)
  | _ => rfl

theorem ofJson_toJson_badIgnoreCase
    (hpath : vocabularyPath = .null ∨ ∃ t, vocabularyPath = .text t)
    (hbool : ∀ b, ignoreCase ≠ .bool b) :
    ofJson (toJson vocabularyPath ignoreCase) = .error .badIgnoreCase := by
  rcases hpath with rfl | ⟨t, rfl⟩
  all_goals
    cases ignoreCase with
    | bool b => exact absurd rfl (hbool b)
    | _ => rfl

/-- Settings that are written are read again. -/
theorem decode_encode
    (h : Json.encodeFault? 0 (toJson vocabularyPath ignoreCase) = none) :
    decode (encode vocabularyPath ignoreCase) =
      ofJson (toJson (Json.reread vocabularyPath) (Json.reread ignoreCase)) := by
  have hspacing : Json.Decoder.IsSpacing ['\n'] := List.forall_mem_singleton.mpr rfl
  rw [decode, encode, Json.decode_encode h hspacing, reread_toJson]

theorem isPlain_encode (vocabularyPath ignoreCase : Json) :
    Json.IsPlain (encode vocabularyPath ignoreCase) :=
  (Json.isPlain_encode _).append (.cons (by decide) Json.isPlain_nil)

/-- A file with written settings is read as it was written. -/
theorem readText_encode
    (hlook : tree.look path =
      .ok (.file (Utf8.encode (encode vocabularyPath ignoreCase)))) :
    tree.readText path = .ok (encode vocabularyPath ignoreCase) := by
  have hplain := isPlain_encode vocabularyPath ignoreCase
  apply FileTree.readText_of_isAscii hlook
  · intro c hc
    rcases hplain c hc with rfl | ⟨_, hhigh⟩
    · decide
    · omega
  · intro hreturn
    have hnot : ¬ Json.IsPlainChar '\r' := by decide
    exact hnot (hplain _ hreturn)

end Values

section Saving

theorem save_eq_ok_iff :
    save tree vocabularyPath ignoreCase = (saved, none) ↔
      Json.encodeFault? 0 (toJson vocabularyPath ignoreCase) = none ∧
        ∃ made, tree.makeDirectory directory = .ok made ∧
          made.write path (Utf8.encode (encode vocabularyPath ignoreCase)) =
            .ok saved := by
  unfold save
  cases tree.makeDirectory directory with
  | error fault => simp
  | ok made =>
      cases Json.encodeFault? 0 (toJson vocabularyPath ignoreCase) with
      | some fault => simp
      | none =>
          cases hwrite : made.write path
            (Utf8.encode (encode vocabularyPath ignoreCase)) <;> simp [hwrite]

/-- In a well-formed tree nothing stands in the way of settings whose directory has
just been made. -/
theorem isFree_of_made (htree : tree.IsWellFormed)
    (hnone : tree.entry? directoryPlace = none) :
    IsFree (tree.putAt directoryPlace .directory) place := by
  left
  rw [FileTree.entry?_putAt_of_ne (by decide)]
  cases hplace : tree.entry? place with
  | none => rfl
  | some entry =>
      obtain ⟨holder, hholder, _⟩ := hasDirectory_of_entry?_place htree hplace
      rw [hnone] at hholder
      cases hholder

/-- Saving succeeds exactly if the values can be written and nothing stands in the
way: the settings' directory is not there, or it may be entered and the place of the
settings is free. -/
theorem save_eq_none_iff (htree : tree.IsWellFormed) :
    (save tree vocabularyPath ignoreCase).2 = none ↔
      Json.encodeFault? 0 (toJson vocabularyPath ignoreCase) = none ∧
        (tree.entry? directoryPlace = none ∨
          tree.entry? directoryPlace = some .directory ∧ IsFree tree place) := by
  have hpair : (save tree vocabularyPath ignoreCase).2 = none ↔
      ∃ saved, save tree vocabularyPath ignoreCase = (saved, none) :=
    ⟨fun h => ⟨_, Prod.ext rfl h⟩, fun ⟨_, h⟩ => by rw [h]⟩
  simp only [hpair, save_eq_ok_iff, exists_and_left, write_eq_ok_iff,
    makeDirectory_eq_ok_iff]
  refine and_congr_right fun _ => ⟨?_, ?_⟩
  · rintro ⟨saved, made, ⟨hnone, _⟩ | ⟨_, rfl⟩, hentered, hfree, _⟩
    · exact .inl hnone
    · exact .inr ⟨hentered, hfree⟩
  · rintro (hnone | ⟨hentered, hfree⟩)
    · exact ⟨_, _, .inl ⟨hnone, rfl⟩, FileTree.entry?_putAt_self (by decide),
        isFree_of_made htree hnone, rfl⟩
    · exact ⟨_, _, .inr ⟨⟨_, hentered, rfl⟩, rfl⟩, hentered, hfree, rfl⟩

/-- A save that fails on the directory or on the file has changed nothing. -/
theorem eq_of_save_eq_file (htree : tree.IsWellFormed) {blocked : FilePath}
    {fault : FileFault}
    (h : save tree vocabularyPath ignoreCase = (saved, some (.file blocked fault))) :
    saved = tree := by
  unfold save at h
  cases hmake : tree.makeDirectory directory with
  | error reason =>
      rw [hmake] at h
      exact (Prod.mk.inj h).1.symm
  | ok made =>
      simp only [hmake] at h
      split at h
      · cases (Prod.mk.inj h).2
      · split at h
        · rename_i reason hwrite
          obtain rfl := (Prod.mk.inj h).1
          rcases makeDirectory_eq_ok_iff.mp hmake with ⟨hnone, rfl⟩ | ⟨_, rfl⟩
          · have hentered :
                FileTree.entry? (tree.putAt directoryPlace .directory)
                  directoryPlace = some .directory :=
              FileTree.entry?_putAt_self (by decide)
            rw [write_eq_ok_iff.mpr
              ⟨hentered, isFree_of_made htree hnone, rfl⟩] at hwrite
            cases hwrite
          · rfl
        · cases (Prod.mk.inj h).2

/-- Whatever comes of it, saving leaves a tree well-formed. -/
theorem isWellFormed_save (htree : tree.IsWellFormed)
    (vocabularyPath ignoreCase : Json) :
    (save tree vocabularyPath ignoreCase).1.IsWellFormed := by
  unfold save
  cases hmake : tree.makeDirectory directory with
  | error fault => exact htree
  | ok made =>
      have hmade := htree.makeDirectory hmake
      simp only
      split
      · exact hmade
      · split
        · exact hmade
        · rename_i hwrite
          exact hmade.write hwrite

/-- What a save that succeeds leaves of a project: settings, their directory, which
was there or has been made, and nothing else that has changed. They are loaded as
they were saved if there is no path, or one that holds no half of a pair, and else
exactly if no first half stands right in front of a second one. A value that is no
setting is refused by the name of its key, that of the path first. -/
structure IsSaved (tree saved : FileTree)
    (vocabularyPath ignoreCase : Json) : Prop where
  areSaved : areSaved saved = .ok true
  directory : saved.entry? directoryPlace = some .directory ∧
    (tree.entry? directoryPlace = none ∨
      tree.entry? directoryPlace = some .directory)
  file : saved.entry? place =
    some (.file (Utf8.encode (encode vocabularyPath ignoreCase)))
  unchanged : ∀ location, location ≠ directoryPlace → location ≠ place →
    saved.entry? location = tree.entry? location
  loads_null : ∀ b, vocabularyPath = .null → ignoreCase = .bool b →
    load saved = .ok ⟨none, b⟩
  loads_text : ∀ t b, vocabularyPath = .text t → (∀ c ∈ t, c.isHalf = false) →
    ignoreCase = .bool b → load saved = .ok ⟨some t, b⟩
  loads_text_iff : ∀ t b, vocabularyPath = .text t → ignoreCase = .bool b →
    (load saved = .ok ⟨some t, b⟩ ↔ Json.IsUnpaired t)
  badVocabularyPath : vocabularyPath ≠ .null → (∀ t, vocabularyPath ≠ .text t) →
    ∃ fault, load saved = .error fault ∧ fault.Names vocabularyPathKey
  badIgnoreCase : (vocabularyPath = .null ∨ ∃ t, vocabularyPath = .text t) →
    (∀ b, ignoreCase ≠ .bool b) →
      ∃ fault, load saved = .error fault ∧ fault.Names ignoreCaseKey
  reported : ∀ fault, load saved = .error fault → fault.isReported = true

/-- A save that succeeds writes the file, and has made its directory if there
was none. -/
theorem entries_of_save (h : save tree vocabularyPath ignoreCase = (saved, none)) :
    saved.entry? directoryPlace = some .directory ∧
      (tree.entry? directoryPlace = none ∨
        tree.entry? directoryPlace = some .directory) ∧
      saved.entry? place =
        some (.file (Utf8.encode (encode vocabularyPath ignoreCase))) := by
  obtain ⟨_, made, hmake, hwrite⟩ := save_eq_ok_iff.mp h
  obtain ⟨hentered, _, rfl⟩ := write_eq_ok_iff.mp hwrite
  refine ⟨?_, ?_, FileTree.entry?_putAt_self (by decide)⟩
  · rw [FileTree.entry?_putAt_of_ne (by decide), hentered]
  · rcases makeDirectory_eq_ok_iff.mp hmake with ⟨hnone, _⟩ | ⟨_, rfl⟩
    · exact .inl hnone
    · exact .inr hentered

/-- A save that succeeds changes nothing but the file and its directory. -/
theorem entry?_of_save (h : save tree vocabularyPath ignoreCase = (saved, none))
    {location : Location} (hdirectory : location ≠ directoryPlace)
    (hplace : location ≠ place) :
    saved.entry? location = tree.entry? location := by
  obtain ⟨_, made, hmake, hwrite⟩ := save_eq_ok_iff.mp h
  obtain ⟨_, _, rfl⟩ := write_eq_ok_iff.mp hwrite
  rw [FileTree.entry?_putAt_of_ne hplace]
  rcases makeDirectory_eq_ok_iff.mp hmake with ⟨_, rfl⟩ | ⟨_, rfl⟩
  · exact FileTree.entry?_putAt_of_ne hdirectory
  · rfl

/-- After a save that succeeds the written values are checked as settings. -/
theorem load_of_save (h : save tree vocabularyPath ignoreCase = (saved, none)) :
    areSaved saved = .ok true ∧
      load saved =
        ofJson (toJson (Json.reread vocabularyPath) (Json.reread ignoreCase)) := by
  obtain ⟨hdirectory, _, hfile⟩ := entries_of_save h
  have hlook : saved.look path =
      .ok (.file (Utf8.encode (encode vocabularyPath ignoreCase))) := by
    rw [FileTree.look, locate_path_eq_ok_iff.mpr ⟨hdirectory, rfl⟩]
    simp only [hfile]
  refine ⟨by simp [areSaved, FileTree.hasEntry, hlook], ?_⟩
  rw [load_of_readText_eq_ok (readText_encode hlook),
    decode_encode (save_eq_ok_iff.mp h).1]

theorem isSaved_of_save (h : save tree vocabularyPath ignoreCase = (saved, none)) :
    IsSaved tree saved vocabularyPath ignoreCase := by
  obtain ⟨hdirectory, hearlier, hfile⟩ := entries_of_save h
  obtain ⟨hsaved, hload⟩ := load_of_save h
  exact {
    areSaved := hsaved
    directory := ⟨hdirectory, hearlier⟩
    file := hfile
    unchanged := fun _ hne hne' => entry?_of_save h hne hne'
    loads_null := by
      rintro b rfl rfl
      rw [hload]
      rfl
    loads_text := by
      rintro t b rfl ht rfl
      rw [hload, Json.reread, Json.reread, Json.joined_eq_self ht]
      rfl
    loads_text_iff := by
      rintro t b rfl rfl
      have hjoined : load saved = .ok ⟨some (Json.joined t), b⟩ := hload
      rw [← Json.joined_eq_self_iff, hjoined]
      simp
    badVocabularyPath := by
      intro hnull htext
      refine ⟨.badVocabularyPath, ?_, SettingsFault.names_badVocabularyPath⟩
      rw [hload]
      apply ofJson_toJson_badVocabularyPath (mt Json.reread_eq_null_iff.mp hnull)
      intro t ht
      obtain ⟨s, hs, _⟩ := Json.reread_eq_text_iff.mp ht
      exact htext s hs
    badIgnoreCase := by
      intro hpath hbool
      refine ⟨.badIgnoreCase, ?_, SettingsFault.names_badIgnoreCase⟩
      rw [hload]
      apply ofJson_toJson_badIgnoreCase
      · rcases hpath with rfl | ⟨t, rfl⟩
        · exact .inl rfl
        · exact .inr ⟨_, rfl⟩
      · exact fun b hb => hbool b (Json.reread_eq_bool_iff.mp hb)
    reported := fun fault h => isReported_of_ofJson (hload ▸ h) }

/-- From any state of a project and for any values: a save that succeeds leaves
settings that are loaded as they were saved, or refused for the first value that is
no setting, and changes nothing else; and a save that fails on the directory or on
the file changes nothing. -/
theorem save_then_load (htree : tree.IsWellFormed)
    (vocabularyPath ignoreCase : Json) :
    let result := save tree vocabularyPath ignoreCase
    (result.2 = none → IsSaved tree result.1 vocabularyPath ignoreCase) ∧
      (∀ blocked fault, result.2 = some (.file blocked fault) → result.1 = tree) ∧
      result.1.IsWellFormed := by
  intro result
  refine ⟨fun h => ?_, fun blocked fault h => ?_,
    isWellFormed_save htree vocabularyPath ignoreCase⟩
  · exact isSaved_of_save (Prod.ext rfl h)
  · exact eq_of_save_eq_file htree (Prod.ext rfl h)

def brokenTree : FileTree :=
  (FileTree.empty.putAt directoryPlace .directory).putAt place
    (.file (Utf8.encode "\x7b".text))

theorem isWellFormed_brokenTree : brokenTree.IsWellFormed := by
  have hdirectory : (FileTree.empty.putAt directoryPlace .directory).IsWellFormed :=
    FileTree.isWellFormed_empty.putAt (by decide) ⟨.directory, rfl, rfl⟩ fun _ => rfl
  refine hdirectory.putAt (by decide) ⟨.directory, rfl, rfl⟩ ?_
  rintro ⟨entry, hentry, _⟩
  cases hentry

/-- Broken settings are replaced by a path with quotes, a backslash, a
control character and a character beyond the first 65536 code points, which
is loaded again. -/
theorem save_then_load_replaced :
    let shown := "it's \"\\😀\x07\".yaml".text
    let result := save brokenTree (.text shown) (.bool false)
    brokenTree.IsWellFormed ∧ (∀ settings, load brokenTree ≠ .ok settings) ∧
      result.2 = none ∧ load result.1 = .ok ⟨some shown, false⟩ := by
  intro shown result
  have hsaved : result.2 = none := by
    rw [save_eq_none_iff isWellFormed_brokenTree]
    exact ⟨rfl, .inr ⟨rfl, .inr ⟨_, rfl⟩⟩⟩
  obtain ⟨hok, _⟩ :=
    save_then_load isWellFormed_brokenTree (.text shown) (.bool false)
  have hbroken : ∀ settings, load brokenTree ≠ .ok settings := by
    intro settings h
    have hfails : (load brokenTree).toOption = none := by decide +kernel
    rw [h] at hfails
    cases hfails
  have hwhole : ∀ c ∈ shown, c.isHalf = false := by decide
  exact ⟨isWellFormed_brokenTree, hbroken, hsaved,
    (hok hsaved).loads_text _ _ rfl hwhole rfl⟩

end Saving

end Settings

end UtteranceTemplate
