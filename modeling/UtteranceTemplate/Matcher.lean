import UtteranceTemplate.Entries
import UtteranceTemplate.Pattern.Reader
import UtteranceTemplate.Utterance

/-!
Matchers: compiled templates. A matcher holds a pattern text together with the names
of the slots that the pattern's captures fill, the entity types of the typed slots,
and the bound parameters.

Matching reads the pattern text, matches the whole normalized utterance, and pairs
the slots with the captures.
-/

namespace UtteranceTemplate

/-- A compiled template: the slots in the order of their captures, the entity types
of the typed ones, the values bound to parameters, and the pattern text. -/
structure Matcher where
  template : Text
  slots : List Text := []
  slotTypes : Entries Text Text := []
  parameters : Entries Text Text := []
  pattern : Text := []
  deriving Repr

/-- What a matched utterance says: the text that each slot took, or `none` if it took
nothing, and the values bound to parameters. -/
structure Match where
  template : Text
  utterance : Text
  slots : Entries Text (Option Text)
  parameters : Entries Text Text
  deriving DecidableEq, Repr

namespace Matcher

/-- Whether two matchers are equal; the order of slot types and parameters
does not count. -/
def sameAs (left right : Matcher) : Bool :=
  left.template == right.template && left.slots == right.slots &&
    left.slotTypes.sameAs right.slotTypes &&
      left.parameters.sameAs right.parameters &&
    left.pattern == right.pattern

/-- What the captures of the pattern keep of a text that it matches as a whole. -/
def captures? (matcher : Matcher) (subject : Text) (ignoreCase : Bool) :
    Except Pattern.Fault (Option Captures) :=
  (Pattern.read matcher.pattern).map fun pattern =>
    pattern.fullMatch? ignoreCase subject

/-- The value of a slot whose capture kept something: the text without the blanks
around it, or nothing if no character is left. -/
def slotValue (kept : Option Text) : Option Text :=
  match kept with
  | none => none
  | some text =>
      let value := text.trim
      if value.isEmpty then none else some value

/-- The values of the slots; a repeated slot keeps its first place and takes
its last value. -/
def slotValues (slots : List Text) (captures : Captures) :
    Entries Text (Option Text) :=
  Entries.ofPairs (slots.zip (captures.map slotValue))

def match? (matcher : Matcher) (utterance : Text) (ignoreCase : Bool) :
    Except Pattern.Fault (Option Match) :=
  (matcher.captures? (Utterance.normalize utterance) ignoreCase).map fun found =>
    found.map fun captures =>
      { template := matcher.template
        utterance
        slots := slotValues matcher.slots captures
        parameters := matcher.parameters }

end Matcher

end UtteranceTemplate
