import UtteranceTemplate.Template.Draft
import UtteranceTemplate.Text.Quoted

/-!
Compiling a template against a vocabulary, and the trace of what was read on the way.

The outcome is decided by the leftmost piece that cannot be taken in; if all of them
can, by whether the template was read to its end.
-/

namespace UtteranceTemplate

namespace Template

def compile (vocabulary : Vocabulary) (template : Text) :
    Except TemplateError Matcher :=
  let reading := Reading.ofTemplate template
  match Draft.addAll vocabulary template {} reading.pieces with
  | .error error => .error error
  | .ok draft =>
      if reading.unread.isEmpty then .ok (draft.finish template)
      else .error (.malformed reading.unread.trim template)

/-- The pieces of a template that compiling takes up, in order: all that can be read,
or those up to the first one that cannot be taken in. -/
def tracedPieces (vocabulary : Vocabulary) (template : Text) : List Piece :=
  Draft.tried vocabulary template {} (Reading.ofTemplate template).pieces

/-- Compiles a template, and takes the empty template for no matcher at all. -/
def compileNonempty (vocabulary : Vocabulary) (template : Text) :
    Except TemplateError (Option Matcher) :=
  if template.isEmpty then .ok none else (compile vocabulary template).map some

/-- The line that traces a piece: its kind, its position and its source. -/
def pieceLine (piece : Piece) : Text :=
  "DEBUG voice_templates.compiler: ".text ++ piece.fragment.production.name.text ++
    " at ".text ++ Text.ofNat piece.position ++ ": ".text ++ piece.source.quoted

/-- The line that traces a finished matcher: its template and its pattern. -/
def matcherLine (matcher : Matcher) : Text :=
  "DEBUG voice_templates.compiler: Compiled ".text ++ matcher.template.quoted ++
    " -> ".text ++ matcher.pattern.quoted

def trace (vocabulary : Vocabulary) (template : Text) : List Text :=
  (tracedPieces vocabulary template).map pieceLine ++
    match compile vocabulary template with
    | .ok matcher => [matcherLine matcher]
    | .error _ => []

end Template

end UtteranceTemplate
