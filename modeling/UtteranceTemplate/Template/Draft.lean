import UtteranceTemplate.Catalogue
import UtteranceTemplate.Matcher
import UtteranceTemplate.Pattern.Braces
import UtteranceTemplate.Template.Error
import UtteranceTemplate.Template.Reading

/-!
Drafts: the matcher of a template as far as its fragments have been taken in.

Every fragment contributes the tokens of a pattern that begins with the space in
front of its first word: a parameter contributes nothing, an untyped slot a capture
of free text, a typed slot a capture of the phrases of its type, alternatives a
group, and words themselves. The braces of a template stay bare so that they can make
text optional; the braces of a phrase are literal.
-/

namespace UtteranceTemplate

open Pattern

namespace Fragment

/-- A character of a template as a token: a brace stays bare. -/
def templateToken (c : CodePoint) : Token :=
  if c = '{' then .leftBrace else if c = '}' then .rightBrace else .char c

/-- The tokens of a text of a template: single-spaced, with bare braces. -/
def templateTokens (text : Text) : List Token := text.singleSpaced.map templateToken

/-- The tokens of a phrase: single-spaced and literal throughout. -/
def phraseTokens (text : Text) : List Token := text.singleSpaced.map .char

/-- The branches of several texts, each behind a space unless it is empty. -/
def branchTokens (tokensOf : Text → List Token) (texts : List Text) : List Token :=
  joinWith [.bar] (texts.map fun text => if text.isEmpty then []
    else .char ' ' :: tokensOf text)

def untypedTokens : List Token := [.openCapture, .char ' ', .anyText, .close]

def typedTokens (phrases : List Text) : List Token :=
  .openCapture :: branchTokens phraseTokens phrases ++ [.close]

def alternativesTokens (choices : List Text) : List Token :=
  .openGroup :: branchTokens templateTokens choices ++ [.close]

def wordsTokens (run : Text) : List Token := .char ' ' :: templateTokens run

end Fragment

/-- A matcher in the making. -/
structure Draft where
  slots : List Text := []
  slotTypes : Entries Text Text := []
  parameters : Entries Text Text := []
  tokens : List Token := []
  deriving DecidableEq, Repr

namespace Draft

/-- Declares the slot of a piece, unless its name is taken. -/
def declare (template : Text) (draft : Draft) (piece : Piece) (slot : Text) :
    Except TemplateError Draft :=
  if draft.slots.contains slot then .error (.repeatedSlot slot piece.source template)
  else .ok { draft with slots := draft.slots ++ [slot] }

/-- Takes in the next piece of a template. A typed slot is looked up before
it is declared. -/
def add (vocabulary : Vocabulary) (template : Text) (draft : Draft) (piece : Piece) :
    Except TemplateError Draft :=
  match piece.fragment with
  | .parameter name value =>
      .ok { draft with parameters := draft.parameters.put name value }
  | .untypedSlot slot =>
      (draft.declare template piece slot).map fun draft =>
        { draft with tokens := draft.tokens ++ Fragment.untypedTokens }
  | .typedSlot slot type =>
      match vocabulary.lookup? type with
      | none => .error (.unknownEntityType type)
      | some phrases =>
          (draft.declare template piece slot).map fun draft =>
            { draft with
              slotTypes := draft.slotTypes.put slot type
              tokens := draft.tokens ++ Fragment.typedTokens phrases }
  | .alternatives choices =>
      .ok { draft with
        tokens := draft.tokens ++ Fragment.alternativesTokens choices }
  | .words run =>
      .ok { draft with tokens := draft.tokens ++ Fragment.wordsTokens run }

/-- Takes in a row of pieces, up to the first one that fails. -/
def addAll (vocabulary : Vocabulary) (template : Text) (draft : Draft) :
    List Piece → Except TemplateError Draft
  | [] => .ok draft
  | piece :: rest =>
      match draft.add vocabulary template piece with
      | .ok draft => draft.addAll vocabulary template rest
      | .error error => .error error

/-- The pieces that are tried: all of them, or those up to the first one that
fails. -/
def tried (vocabulary : Vocabulary) (template : Text) (draft : Draft) :
    List Piece → List Piece
  | [] => []
  | piece :: rest =>
      piece ::
        match draft.add vocabulary template piece with
        | .ok draft => draft.tried vocabulary template rest
        | .error _ => []

def finish (template : Text) (draft : Draft) : Matcher :=
  { template
    slots := draft.slots
    slotTypes := draft.slotTypes
    parameters := draft.parameters
    pattern := Token.textOf (Token.resolveBraces draft.tokens) }

end Draft

end UtteranceTemplate
