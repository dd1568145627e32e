import UtteranceTemplate.Vocabulary.Checked

/-!
Vocabularies given by rows of JSON: names with phrases. They are checked like any
other, or taken as they are; then names need not be texts, phrases may be any JSON,
and a text in place of phrases stands for its characters and an object for its keys.
-/

namespace UtteranceTemplate

/-- A vocabulary that was taken as it was given. -/
abbrev UncheckedVocabulary := Catalogue Scalar Json

/-- What nothing can be done with, by the kind of the value. -/
inductive GivenFault
  /-- A value cannot be a name. -/
  | noName (kind : String)
  /-- A value in place of phrases has no parts. -/
  | noParts (kind : String)
  /-- A phrase has no words. -/
  | noWords (kind : String)
  deriving DecidableEq, Repr

namespace GivenFault

def message : GivenFault → Text
  | .noName kind => s!"unhashable type: '{kind}'".text
  | .noParts kind => s!"'{kind}' object is not iterable".text
  | .noWords kind => s!"'{kind}' object has no attribute 'split'".text

end GivenFault

namespace Json

def kind : Json → String
  | .null => "NoneType"
  | .bool _ => "bool"
  | .int _ => "int"
  | .float _ => "float"
  | .text _ => "str"
  | .array _ => "list"
  | .object _ => "dict"

/-- Whether a value counts for nothing: nothing at all, false, zero, or
without parts. -/
def isVoid : Json → Bool
  | .null => true
  | .bool b => !b
  | .int n => n == 0
  | .float x => x == 0.0
  | .text t => t.isEmpty
  | .array items => items.isEmpty
  | .object members => members.isEmpty

/-- The parts of a value that may stand in place of phrases. -/
def parts : Json → Except GivenFault (List Json)
  | .text t => .ok (t.map fun c => .text [c])
  | .array items => .ok items
  | .object members => .ok (members.map fun member => .text member.1)
  | json => .error (.noParts json.kind)

/-- The phrase that a value is; one that counts for nothing is empty. -/
def phrase : Json → Except GivenFault Text
  | .text t => .ok t
  | json => if json.isVoid then .ok [] else .error (.noWords json.kind)

def name (json : Json) : Except GivenFault Scalar :=
  match Document.scalarOfJson? json with
  | some name => .ok name
  | none => .error (.noName json.kind)

end Json

/-- The rows of a vocabulary by name; of a repeated name the last one counts. -/
def givenRows (rows : List (Json × Json)) :
    Except GivenFault (Entries Scalar Json) :=
  (rows.mapM fun row => (Json.name row.1).map fun name => (name, row.2)).map
    Entries.ofPairs

namespace UncheckedVocabulary

/-- The form in which a vocabulary is shown: its names. -/
def quoted (vocabulary : UncheckedVocabulary) : Text :=
  "EntityVocabulary([".text ++
    joinWith ", ".text (vocabulary.names.map Scalar.quoted) ++ "])".text

def ofRows (rows : Entries Scalar Json) : Except GivenFault UncheckedVocabulary :=
  (rows.mapM fun row => (Json.parts row.2).map fun phrases =>
    (row.1, phrases)).map Catalogue.mk

/-- A vocabulary as one whose phrases might be any JSON. -/
def ofVocabulary (vocabulary : Vocabulary) : UncheckedVocabulary :=
  ⟨vocabulary.entries.map fun (name, phrases) => (.text name, phrases.map .text)⟩

/-- The part of a vocabulary that templates can use: names and phrases that
are texts. -/
def textual (vocabulary : UncheckedVocabulary) : Vocabulary :=
  ⟨vocabulary.entries.filterMap fun (name, phrases) =>
    name.asText?.map fun name =>
      (name, phrases.filterMap fun json => json.phrase.toOption)⟩

/-- What is wrong with the first phrase of an entity type that has no words. -/
def fault? (vocabulary : UncheckedVocabulary) (type : Text) : Option GivenFault :=
  ((vocabulary.lookup? (.text type)).getD []).findSome? fun json =>
    match json.phrase with
    | .ok _ => none
    | .error fault => some fault

end UncheckedVocabulary

namespace Vocabulary

def ofRows (rows : Entries Scalar Json) : Except VocabularyFault Vocabulary :=
  let (containers, values) := Document.addItems #[] (rows.map Prod.snd)
  ofEntries ⟨containers, .scalar .null⟩ (rows.keys.zip values)

end Vocabulary

end UtteranceTemplate
