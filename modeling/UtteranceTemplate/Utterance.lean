import UtteranceTemplate.Text.Blank

/-!
Utterances: what somebody said, as text. Patterns see an utterance in its normal
form, every word behind a single space, so that a pattern's pieces can each begin
with the space that separates them from what came before.
-/

namespace UtteranceTemplate

namespace Utterance

/-- Every word of the utterance behind a single space. -/
def normalize (utterance : Text) : Text :=
  utterance.words.flatMap fun word => ' ' :: word

end Utterance

end UtteranceTemplate
