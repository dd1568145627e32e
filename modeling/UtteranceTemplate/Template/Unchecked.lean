import UtteranceTemplate.Template.Compile
import UtteranceTemplate.Vocabulary.Given

/-!
Compiling a template against a vocabulary that was taken as it was given. A phrase
without words is found out when a typed slot of its type is taken in, behind the
faults of the slot itself; all else is compiling against the part of the
vocabulary that is in order.
-/

namespace UtteranceTemplate

/-- Why a template cannot be compiled against a vocabulary that was taken as
it was given. -/
inductive UncheckedError
  /-- The template is not in order. -/
  | template (error : TemplateError)
  /-- The vocabulary is not. -/
  | phrase (fault : GivenFault)
  deriving DecidableEq, Repr

namespace UncheckedVocabulary

def pieceFault? (vocabulary : UncheckedVocabulary) (piece : Piece) :
    Option GivenFault :=
  match piece.fragment with
  | .typedSlot _ type => vocabulary.fault? type
  | _ => none

/-- The pieces up to the first one with a fault in its phrases, and the fault;
nothing if the template fails before. -/
def faultAmong? (vocabulary : UncheckedVocabulary) (template : Text)
    (draft : Draft) :
    List Piece → Option (List Piece × GivenFault)
  | [] => none
  | piece :: rest =>
      match draft.add vocabulary.textual template piece with
      | .error _ => none
      | .ok draft =>
          match vocabulary.pieceFault? piece with
          | some fault => some ([piece], fault)
          | none =>
              (vocabulary.faultAmong? template draft rest).map fun (pieces, fault) =>
                (piece :: pieces, fault)

/-- The pieces of a template up to the first one with a fault in its phrases,
and the fault. -/
def faultIn? (vocabulary : UncheckedVocabulary) (template : Text) :
    Option (List Piece × GivenFault) :=
  vocabulary.faultAmong? template {} (Reading.ofTemplate template).pieces

def compile (vocabulary : UncheckedVocabulary) (template : Text) :
    Except UncheckedError Matcher :=
  match vocabulary.faultIn? template with
  | some (_, fault) => .error (.phrase fault)
  | none => (Template.compile vocabulary.textual template).mapError .template

/-- Compiles a template, and takes the empty template for no matcher at all. -/
def compileNonempty (vocabulary : UncheckedVocabulary) (template : Text) :
    Except UncheckedError (Option Matcher) :=
  if template.isEmpty then .ok none else (vocabulary.compile template).map some

def trace (vocabulary : UncheckedVocabulary) (template : Text) : List Text :=
  match vocabulary.faultIn? template with
  | some (pieces, _) => pieces.map Template.pieceLine
  | none => Template.trace vocabulary.textual template

end UncheckedVocabulary

end UtteranceTemplate
