import UtteranceTemplate.Files.Tree
import UtteranceTemplate.Vocabulary.Checked
import UtteranceTemplate.Yaml.Decode

/-!
Loading vocabularies from YAML files.
-/

namespace UtteranceTemplate

/-- Why a vocabulary cannot be loaded. -/
inductive LoadFault
  /-- The file cannot be read. -/
  | unreadable (fault : ReadFault)
  /-- The text of the file has no value. -/
  | yaml (fault : Yaml.Fault)
  /-- The value is no vocabulary. -/
  | contents (fault : VocabularyFault)
  deriving DecidableEq, Repr

namespace Vocabulary

def ofYaml (text : Text) : Except LoadFault Vocabulary :=
  match Yaml.decode text with
  | .error fault => .error (.yaml fault)
  | .ok document => (ofDocument document).mapError .contents

def load (tree : FileTree) (path : FilePath) : Except LoadFault Vocabulary :=
  match tree.readText path with
  | .error fault => .error (.unreadable fault)
  | .ok text => ofYaml text

/-- The line that traces a loaded vocabulary, with the written form of its path. -/
def loadedLine (path : Text) (vocabulary : Vocabulary) : Text :=
  "DEBUG voice_templates.vocabulary: Loaded ".text ++ Text.ofNat vocabulary.size ++
    " entity type(s) from ".text ++ path

end Vocabulary

namespace LoadFault

/-- Whether the fault says that the file holds no vocabulary. The other faults are of
a single value or name that nothing can be made of. -/
def isReported : LoadFault → Bool
  | .unreadable (.file fault) => fault.isOfSystem
  | .unreadable (.encoding _) => true
  | .yaml fault => fault == .malformed
  | .contents fault => fault != .unshowable

/-- The fault in words, with the written form of the path. What is wrong with a
malformed text is not said. -/
def message (path : Text) (fault : LoadFault) : Text :=
  match fault with
  | .unreadable reason =>
      if fault.isReported then "Cannot read ".text ++ path ++ ": ".text ++
        reason.message path
      else reason.message path
  | .yaml .malformed => "Invalid YAML in ".text ++ path
  | .yaml fault => fault.message
  | .contents fault => fault.message path

/-- The fault of the bundled vocabulary in words, with the name of what it
comes from. -/
def bundledMessage (source : Text) : LoadFault → Text
  | .unreadable fault => fault.message source
  | .yaml .malformed => "Invalid bundled vocabulary".text
  | fault => fault.message source

end LoadFault

end UtteranceTemplate
