import Mathlib.Data.List.Forall2
import UtteranceTemplate.Proofs.VocabularyEntries
import UtteranceTemplate.Vocabulary.Load

/-!
What loading a vocabulary comes to, whatever there is at the end of the path.

A file that cannot be read is reported, whatever the reason, unless there can be no
file of that path at all (`FilePath.fault?`). So is a text that is not YAML, and a
document that is no vocabulary. What goes unreported is a value that nothing can be
made of: a scalar of the text that looks like a value of some type and is none, and a
value to blame that cannot be shown (`Vocabulary.loads_or_reports`).
-/

namespace UtteranceTemplate

namespace Vocabulary

variable {tree : FileTree} {path : FilePath} {text : Text}

theorem ofYaml_of_decode_eq_ok {document : Document}
    (h : Yaml.decode text = .ok document) :
    ofYaml text = (ofDocument document).mapError .contents := by
  rw [ofYaml, h]

theorem ofYaml_of_decode_eq_error {fault : Yaml.Fault}
    (h : Yaml.decode text = .error fault) :
    ofYaml text = .error (.yaml fault) := by
  rw [ofYaml, h]

theorem ofYaml_eq_ok_iff {vocabulary : Vocabulary} :
    ofYaml text = .ok vocabulary ↔
      ∃ document, Yaml.decode text = .ok document ∧
        ofDocument document = .ok vocabulary := by
  cases hdecode : Yaml.decode text with
  | error fault => simp [ofYaml_of_decode_eq_error hdecode]
  | ok document =>
      rw [ofYaml_of_decode_eq_ok hdecode, mapError_eq_ok_iff]
      simp

theorem load_of_readText_eq_ok (h : tree.readText path = .ok text) :
    load tree path = ofYaml text := by
  rw [load, h]

theorem load_of_readText_eq_error {fault : ReadFault}
    (h : tree.readText path = .error fault) :
    load tree path = .error (.unreadable fault) := by
  rw [load, h]

/-- Loading gives a vocabulary exactly if the file can be read, its text writes a
document, and the entity types of the document are all in order; they are then those
of the vocabulary. -/
theorem load_eq_ok_iff {vocabulary : Vocabulary} :
    load tree path = .ok vocabulary ↔
      ∃ text document entries, tree.readText path = .ok text ∧
        Yaml.decode text = .ok document ∧ HasEntityTypes document entries ∧
          List.Forall₂ (Lists document) entries vocabulary.entries := by
  cases hread : tree.readText path with
  | error fault => simp [load_of_readText_eq_error hread]
  | ok text =>
      rw [load_of_readText_eq_ok hread, ofYaml_eq_ok_iff]
      simp [ofDocument_eq_ok_iff]

/-- Whether a text holds a value that nothing can be made of: one that looks like a
value of some type and is none, or, in a document that is no vocabulary, one that
cannot be shown where it is to blame. -/
def IsUnreportable (text : Text) : Prop :=
  (∃ fault, Yaml.decode text = .error fault ∧ fault ≠ .malformed) ∨
    ∃ document value, Yaml.decode text = .ok document ∧ BlamesFirst document value ∧
      document.isShowable value = false

theorem ofYaml_unreported_iff :
    (∃ fault, ofYaml text = .error fault ∧ fault.isReported = false) ↔
      IsUnreportable text := by
  cases hdecode : Yaml.decode text with
  | error fault => simp [ofYaml_of_decode_eq_error hdecode, IsUnreportable, hdecode,
      LoadFault.isReported]
  | ok document =>
      have hunshowable :
          (∃ fault, ofYaml text = .error fault ∧ fault.isReported = false) ↔
          ofDocument document = .error .unshowable := by
        rw [ofYaml_of_decode_eq_ok hdecode]
        cases ofDocument document <;> simp [Except.mapError, LoadFault.isReported]
      rw [hunshowable, ofDocument_eq_unshowable_iff]
      simp [IsUnreportable, hdecode]

/-- A path that no file can have fails as such, whatever files there are. -/
theorem load_eq_fault_iff {fault : FileFault} (h : fault.isOfSystem = false) :
    load tree path = .error (.unreadable (.file fault)) ↔
      path.fault? = some fault := by
  rw [← FileTree.readText_eq_error_iff h tree path]
  cases hread : tree.readText path with
  | error found => simp [load_of_readText_eq_error hread]
  | ok text =>
      rw [load_of_readText_eq_ok hread]
      cases hdecode : Yaml.decode text with
      | error fault => simp [ofYaml_of_decode_eq_error hdecode]
      | ok document =>
          rw [ofYaml_of_decode_eq_ok hdecode]
          cases ofDocument document <;> simp [Except.mapError]

theorem load_unreported_iff :
    (∃ fault, load tree path = .error fault ∧ fault.isReported = false) ↔
      (∃ name ∈ path.names, ∃ c ∈ name, c = .char '\x00' ∨ Utf8.isRefused c = true) ∨
        ∃ text, tree.readText path = .ok text ∧ IsUnreportable text := by
  rw [← FilePath.isSome_fault?_iff]
  cases hread : tree.readText path with
  | error reason =>
      have hreported : (LoadFault.unreadable reason).isReported = false ↔
          path.fault?.isSome = true := by
        cases reason with
        | file found =>
            refine ⟨fun hsystem => ?_, fun hsome => ?_⟩
            · rw [(FileTree.readText_eq_error_iff hsystem tree path).mp hread]
              rfl
            · obtain ⟨fault, hfault⟩ := Option.isSome_iff_exists.mp hsome
              have hsame :=
                (FileTree.readText_of_fault? hfault tree).symm.trans hread
              obtain rfl : fault = found := by simpa using hsame
              exact FilePath.isOfSystem_of_fault? hfault
        | encoding found =>
            refine iff_of_false nofun fun hsome => ?_
            obtain ⟨fault, hfault⟩ := Option.isSome_iff_exists.mp hsome
            rw [FileTree.readText_of_fault? hfault] at hread
            cases hread
      simp [load_of_readText_eq_error hread, hreported]
  | ok text =>
      have hnone : path.fault? = none := by
        cases hfault : path.fault? with
        | none => rfl
        | some fault =>
            rw [FileTree.readText_of_fault? hfault] at hread
            cases hread
      rw [load_of_readText_eq_ok hread, ofYaml_unreported_iff]
      simp [hnone]

/-- Whatever the path, the files and their contents: loading gives a vocabulary
exactly if the text of the file writes entity types that are all in order, and these
are then its own. A path with half of a pair that stands for no byte cannot be
encoded, and this is not reported. Where loading gives no vocabulary it reports so,
unless the path is of that kind or holds a null character, or the text holds a value
that nothing can be made of. -/
theorem loads_or_reports (tree : FileTree) (path : FilePath) :
    (∀ vocabulary, load tree path = .ok vocabulary ↔
        ∃ text document entries, tree.readText path = .ok text ∧
          Yaml.decode text = .ok document ∧ HasEntityTypes document entries ∧
            List.Forall₂ (Lists document) entries vocabulary.entries) ∧
      (load tree path = .error (.unreadable (.file .unencodable)) ↔
        ∃ name ∈ path.names, ∃ c ∈ name, Utf8.isRefused c = true) ∧
      (((∃ vocabulary, load tree path = .ok vocabulary) ∨
          ∃ fault, load tree path = .error fault ∧ fault.isReported = true) ↔
        ¬ ((∃ name ∈ path.names, ∃ c ∈ name, c = .char '\x00' ∨
          Utf8.isRefused c = true) ∨
          ∃ text, tree.readText path = .ok text ∧ IsUnreportable text)) := by
  refine ⟨fun vocabulary => load_eq_ok_iff, ?_, ?_⟩
  · rw [load_eq_fault_iff rfl, FilePath.fault?_eq_unencodable_iff]
  · rw [← load_unreported_iff]
    cases load tree path with
    | ok vocabulary => simp
    | error fault => simp

/-- A phrase that looks like a date in a thirteenth month is neither loaded
nor reported. -/
theorem not_loads_or_reports_thirteenthMonth :
    let text := "entity_types:\n  app: [2020-13-45]\n".text
    let tree : FileTree :=
      ⟨[(⟨true, 0, [Utf8.encode "v.yaml".text]⟩, .file (Utf8.encode text))]⟩
    let path := FilePath.ofText "v.yaml".text
    load tree path = .error (.yaml (.calendar .month)) ∧
      ¬ ((∃ vocabulary, load tree path = .ok vocabulary) ∨
        ∃ fault, load tree path = .error fault ∧ fault.isReported = true) := by
  intro text tree path
  have hload : load tree path = .error (.yaml (.calendar .month)) := by
    decide +kernel
  refine ⟨hload, ?_⟩
  rw [hload]
  rintro (⟨vocabulary, hvocabulary⟩ | ⟨fault, hfault, hreported⟩)
  · cases hvocabulary
  · obtain rfl := Except.error.inj hfault
    cases hreported

end Vocabulary

end UtteranceTemplate
