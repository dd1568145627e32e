import UtteranceTemplate.Text.Basic

/-!
Why a template cannot be compiled.
-/

namespace UtteranceTemplate

/-- Why a template cannot be compiled. -/
inductive TemplateError
  /-- A typed slot names an entity type that the vocabulary does not have. -/
  | unknownEntityType (name : Text)
  /-- No fragment can be read where `rest` starts. -/
  | malformed (rest template : Text)
  /-- A slot fragment repeats the name of an earlier one. -/
  | repeatedSlot (slot fragment template : Text)
  deriving DecidableEq, Repr

namespace TemplateError

/-- A fragment and its template, as messages show them. -/
def place (fragment template : Text) : Text :=
  "Malformed fragment '".text ++ fragment ++ "' in template '".text ++
    template ++ [.char '\'']

def message : TemplateError → Text
  | .unknownEntityType name =>
      "No entity type by the name '".text ++ name ++ [.char '\'']
  | .malformed rest template => place rest template
  | .repeatedSlot slot fragment template =>
      place fragment template ++ ": slot '".text ++ slot ++
        "' is already declared".text

end TemplateError

end UtteranceTemplate
