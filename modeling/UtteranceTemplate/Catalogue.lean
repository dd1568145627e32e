import UtteranceTemplate.Entries
import UtteranceTemplate.Text.Basic

/-!
Catalogues: ordered lists of phrases under names, in order. A vocabulary is a
catalogue whose names and phrases are texts; it holds the phrases that a typed slot
accepts. The order of the phrases decides which one a pattern prefers.
-/

namespace UtteranceTemplate

/-- Lists of phrases under names, in order. -/
structure Catalogue (Name Phrase : Type) where
  entries : Entries Name (List Phrase)
  deriving DecidableEq, Repr

/-- The phrases of each entity type, by its name. -/
abbrev Vocabulary := Catalogue Text Text

namespace Catalogue

variable {Name Phrase : Type}

def names (catalogue : Catalogue Name Phrase) : List Name := catalogue.entries.keys

def size (catalogue : Catalogue Name Phrase) : Nat := catalogue.entries.length

def lookup? [BEq Name] (catalogue : Catalogue Name Phrase) (name : Name) :
    Option (List Phrase) :=
  catalogue.entries.get? name

/-- Whether the catalogue has phrases, or an empty list of them, under the name. -/
def contains [BEq Name] (catalogue : Catalogue Name Phrase) (name : Name) : Bool :=
  (catalogue.lookup? name).isSome

end Catalogue

end UtteranceTemplate
