import UtteranceTemplate.Catalogue
import UtteranceTemplate.Document
import UtteranceTemplate.Text.WordChar
import UtteranceTemplate.Vocabulary.Fault

/-!
Checked vocabularies. A mapping is a vocabulary if every name is a row of word
characters and every value a sequence of texts; a document is one if its entity types
are. The first entry that is not in order is the fault, and in an entry the name
comes before the value.
-/

namespace UtteranceTemplate

namespace Vocabulary

def isName (name : Text) : Bool := !name.isEmpty && name.all isWordChar

/-- A fault that shows a value, if the value can be shown. -/
def blame (document : Document) (value : Value) (fault : Text → VocabularyFault) :
    VocabularyFault :=
  if document.isShowable value then fault (document.quoted value) else .unshowable

def checkName (document : Document) (name : Scalar) : Except VocabularyFault Text :=
  match name.asText?.filter isName with
  | some name => .ok name
  | none => .error (blame document (.scalar name) .invalidName)

/-- The phrases of an entry, from its items. -/
def checkPhrases (document : Document) (name : Text) :
    List Value → Except VocabularyFault (List Text)
  | [] => .ok []
  | item :: rest =>
      match Document.text? item with
      | some phrase => (checkPhrases document name rest).map (phrase :: ·)
      | none => .error (blame document item (.notText name))

def checkEntry (document : Document) (name : Scalar) (value : Value) :
    Except VocabularyFault (Text × List Text) :=
  match checkName document name with
  | .error fault => .error fault
  | .ok name =>
      match document.items? value with
      | none => .error (.notPhrases name)
      | some items =>
          (checkPhrases document name items).map fun phrases => (name, phrases)

def checkEntries (document : Document) :
    List (Scalar × Value) → Except VocabularyFault (List (Text × List Text))
  | [] => .ok []
  | (name, value) :: rest =>
      match checkEntry document name value with
      | .error fault => .error fault
      | .ok entry => (checkEntries document rest).map (entry :: ·)

def ofEntries (document : Document) (entries : Entries Scalar Value) :
    Except VocabularyFault Vocabulary :=
  (checkEntries document entries).map fun entries => ⟨entries⟩

def entityTypesKey : Scalar := .text "entity_types".text

def ofDocument (document : Document) : Except VocabularyFault Vocabulary :=
  match document.entries? document.root with
  | none => .error .notMapping
  | some members =>
      match members.get? entityTypesKey with
      | none => .error .noEntityTypes
      | some value =>
          match document.entries? value with
          | none => .error .entityTypesNotMapping
          | some entries => ofEntries document entries

end Vocabulary

end UtteranceTemplate
