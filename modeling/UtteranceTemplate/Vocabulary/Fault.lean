import UtteranceTemplate.Text.Basic

/-!
What can be wrong with the contents of a vocabulary.
-/

namespace UtteranceTemplate

/-- What is wrong with the contents of a vocabulary; values are given as
messages show them. -/
inductive VocabularyFault
  /-- The document is no mapping. -/
  | notMapping
  /-- The document has no entity types. -/
  | noEntityTypes
  /-- The entity types of the document are no mapping. -/
  | entityTypesNotMapping
  /-- A name that no typed slot could use. -/
  | invalidName (shown : Text)
  /-- The value under a name is no list of phrases. -/
  | notPhrases (name : Text)
  /-- A phrase is no text. -/
  | notText (name shown : Text)
  /-- The value to blame holds a whole number that is too long to be shown. -/
  | unshowable
  deriving DecidableEq, Repr

namespace VocabularyFault

/-- The fault in words, with the name of what the vocabulary comes from. -/
def message (source : Text) : VocabularyFault → Text
  | .notMapping =>
      "Invalid vocabulary format in ".text ++ source ++ ": expected mapping".text
  | .noEntityTypes => "Missing required key 'entity_types' in ".text ++ source
  | .entityTypesNotMapping => "'entity_types' must be a mapping in ".text ++ source
  | .invalidName shown =>
      "Invalid entity type name ".text ++ shown ++ " in ".text ++ source
  | .notPhrases name =>
      "Entity type '".text ++ name ++
        "' must be a list of phrases in ".text ++ source
  | .notText name shown =>
      "Entity type '".text ++ name ++ "' has non-string phrase ".text ++ shown ++
        " in ".text ++ source
  | .unshowable =>
      "Exceeds the limit (4300 digits) for integer string conversion; ".text ++
        "use sys.set_int_max_str_digits() to increase the limit".text

end VocabularyFault

end UtteranceTemplate
