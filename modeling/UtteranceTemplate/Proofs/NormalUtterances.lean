import UtteranceTemplate.Proofs.Respacing
import UtteranceTemplate.Proofs.WholeWords

/-!
The normal form of an utterance.

Words that are each behind a space are the words of the text that they make
(`Text.words_flatMap_space`), so an utterance's normal form keeps its words and
forgets its spacing (`Utterance.normalize_eq_normalize_iff`). The normal forms are
told by their shape (`Utterance.IsNormal`): normalizing leaves these texts alone, and
no others (`Utterance.normalize_eq_self_iff`). A matcher reads nothing but the normal
form, so it takes utterances with the same words alike
(`Matcher.match?_of_normalize_eq`).
-/

namespace UtteranceTemplate

open Text

namespace Text

variable {text : Text}

/-- Words that are each behind a space are read back. -/
theorem words_flatMap_space {parts : List Text} (hne : ∀ word ∈ parts, word ≠ [])
    (hletters : ∀ word ∈ parts, ∀ c ∈ word, isBlank c = false) :
    words (parts.flatMap fun word => ' ' :: word) = parts := by
  induction parts with
  | nil => rfl
  | cons word parts ih =>
      obtain ⟨hword, hparts⟩ := List.forall_mem_cons.mp hne
      obtain ⟨hletter, hletters⟩ := List.forall_mem_cons.mp hletters
      have hbegins :
          beginsInWord (parts.flatMap fun word => ' ' :: word) = false := by
        cases parts <;> rfl
      have hapart : (endsInWord word &&
          beginsInWord (parts.flatMap fun word => ' ' :: word)) = false := by
        rw [hbegins, Bool.and_false]
      rw [List.flatMap_cons, List.cons_append, words_blank_cons (by decide),
        words_append_of_not_touching hapart, words_of_letters hword hletter,
        ih hparts hletters, List.singleton_append]

theorem IsSpaced.not_two_spaces (h : IsSpaced text) : ¬ "  ".text <:+: text := by
  rintro ⟨front, back, rfl⟩
  rw [List.append_assoc] at h
  obtain ⟨c, more, hmore, hc⟩ := h.of_append.head_of_space_cons
  obtain ⟨rfl, _⟩ := List.cons.inj hmore
  exact absurd hc (by decide)

theorem IsSpaced.getLast?_ne_space (h : IsSpaced text) :
    text.getLast? ≠ some (.char ' ') := by
  intro hlast
  rw [← List.append_nil text] at h
  exact absurd (h.last_of_append (by simp) ' ' hlast) (by decide)

/-- A text whose blanks are spaces, no two of them in a row and none at the
end, is spaced. -/
theorem isSpaced_of_blank (hblank : ∀ c ∈ text, isBlank c = true → c = ' ')
    (hsingle : ¬ "  ".text <:+: text) (hlast : text.getLast? ≠ some (.char ' ')) :
    IsSpaced text := by
  induction text with
  | nil => exact trivial
  | cons c rest ih =>
      obtain ⟨hfirst, hothers⟩ := List.forall_mem_cons.mp hblank
      refine ⟨fun hc => ⟨hfirst hc, ?_⟩, ih hothers ?_ ?_⟩
      · obtain rfl := hfirst hc
        cases rest with
        | nil => exact absurd rfl hlast
        | cons d more =>
            refine ⟨d, more, rfl, ?_⟩
            cases hd : isBlank d with
            | false => rfl
            | true =>
                obtain rfl := hothers d List.mem_cons_self hd
                exact absurd ⟨[], more, rfl⟩ hsingle
      · intro hspaces
        exact hsingle (hspaces.trans (List.suffix_cons c rest).isInfix)
      · intro hspace
        exact hlast (by rw [List.getLast?_cons, hspace]; rfl)

end Text

namespace SpacedRows

/-- Behind a letter, the words of a spaced text and their spaces are the text
itself. -/
theorem behind_ofText_of_isSpaced {text : Text} (h : IsSpaced text) :
    ofText.behind text = text := by
  induction text with
  | nil => rfl
  | cons c rest ih =>
      cases hc : isBlank c with
      | true =>
          -- the word behind the space has a row of its own, with that space in front
          obtain ⟨rfl, d, more, rfl, hd⟩ := h.1 hc
          have hbegins : ofText.begins (d :: more) = true := by
            simp [ofText, beginsInWord, hd]
          calc ofText.behind (' ' :: d :: more)
              = Utterance.normalize (' ' :: d :: more) := rfl
            _ = Utterance.normalize (d :: more) := by
                rw [Utterance.normalize, words_blank_cons hc, Utterance.normalize]
            _ = .char ' ' :: ofText.behind (d :: more) :=
              row_of_begins_eq joins_ofText.toIsLawful hbegins
            _ = .char ' ' :: d :: more := by rw [ih h.2]
      | false =>
          have hbegins : ofText.begins (c :: rest) = true := by
            simp [ofText, beginsInWord, hc]
          rw [behind, hbegins, joins_ofText.row_letter_cons
            (isLetter_ofText hc) trivial, ih h.2]
          rfl

end SpacedRows

namespace Utterance

variable {text left right : Text}

/-- The shape of the normal forms: nothing, or a space in front of each word. -/
structure IsNormal (text : Text) : Prop where
  head : text = [] ∨ text.head? = some (.char ' ')
  blank : ∀ c ∈ text, isBlank c = true → c = ' '
  single : ¬ "  ".text <:+: text
  last : text.getLast? ≠ some (.char ' ')

theorem IsNormal.isSpaced (h : IsNormal text) : IsSpaced text :=
  isSpaced_of_blank h.blank h.single h.last

/-- The normal form is the row of words with single spaces between them, behind one
more space if there is a word at all. -/
theorem normalize_eq_singleSpaced (utterance : Text) :
    normalize utterance = if utterance.singleSpaced = [] then []
      else .char ' ' :: utterance.singleSpaced := by
  by_cases hwords : utterance.words = []
  · simp [normalize, singleSpaced, hwords, joinWith]
  · have hne : utterance.singleSpaced ≠ [] :=
      joinWith_ne_nil hwords (words_ne_nil utterance)
    rw [if_neg hne, SpacedRows.normalize_of_words_ne_nil hwords]

theorem isNormal_normalize (utterance : Text) : IsNormal (normalize utterance) where
  head := by
    rw [normalize_eq_singleSpaced]
    split
    · exact Or.inl rfl
    · exact Or.inr rfl
  blank := fun _ hc => (isSpaced_normalize utterance).eq_space_of_mem hc
  single := (isSpaced_normalize utterance).not_two_spaces
  last := (isSpaced_normalize utterance).getLast?_ne_space

theorem normalize_of_isNormal (h : IsNormal text) : normalize text = text := by
  have hbehind := SpacedRows.behind_ofText_of_isSpaced h.isSpaced
  have hbegins : SpacedRows.ofText.begins text = false := by
    rcases h.head with rfl | hhead
    · rfl
    · simp [SpacedRows.ofText, beginsInWord, hhead, show isBlank ' ' =
        true by decide]
  rw [SpacedRows.behind, hbegins] at hbehind
  exact hbehind

/-- Normalizing leaves the normal forms alone, and no other text. -/
theorem normalize_eq_self_iff : normalize text = text ↔ IsNormal text := by
  constructor
  · intro h
    rw [← h]
    exact isNormal_normalize text
  · exact normalize_of_isNormal

/-- The normal form has the words of the utterance. -/
theorem words_normalize (utterance : Text) :
    (normalize utterance).words = utterance.words :=
  words_flatMap_space (words_ne_nil utterance) (not_isBlank_of_mem_words utterance)

/-- Utterances have the same normal form exactly if they have the same words. -/
theorem normalize_eq_normalize_iff : normalize left = normalize right ↔
    left.words = right.words := by
  constructor
  · intro h
    rw [← words_normalize left, h, words_normalize]
  · intro h
    rw [normalize, h, normalize]

end Utterance

/-- A matcher takes utterances with the same normal form alike: what it reports of
one it reports of the other, and so it does with not matching at all. -/
theorem Matcher.match?_of_normalize_eq {left right : Text}
    (h : Utterance.normalize left = Utterance.normalize right) (matcher : Matcher)
    (ignoreCase : Bool) :
    matcher.match? right ignoreCase =
      (matcher.match? left ignoreCase).map
        (Option.map fun found => { found with utterance := right }) := by
  rw [Matcher.match?, Matcher.match?, h]
  cases matcher.captures? (Utterance.normalize right) ignoreCase with
  | error fault => rfl
  | ok kept => cases kept <;> rfl

/-- The normal form stands for the words of an utterance: it is the same for the same
words only, stays as it is when it is normalized again, and has the shape of a normal
form. So every matcher comes to the same outcome for utterances with the same words,
with the same slots if it matches. -/
theorem Utterance.normalize_canonical (left right : Text) :
    (normalize left = normalize right ↔ left.words = right.words) ∧
    normalize (normalize left) = normalize left ∧
    IsNormal (normalize left) ∧
    (left.words = right.words → ∀ (matcher : Matcher) (ignoreCase : Bool),
      matcher.match? right ignoreCase =
        (matcher.match? left ignoreCase).map
          (Option.map fun found => { found with utterance := right })) := by
  refine ⟨normalize_eq_normalize_iff,
    normalize_eq_self_iff.mpr (isNormal_normalize left), isNormal_normalize left, ?_⟩
  intro hwords
  exact Matcher.match?_of_normalize_eq (normalize_eq_normalize_iff.mpr hwords)

/-- A tab, a line feed and wide spaces between the words make no difference to what
the slots take. -/
theorem Utterance.normalize_canonical_wideSpaces :
    let matcher : Matcher :=
      { template := "note [text] for [day:t]".text
        slots := ["text".text, "day".text]
        slotTypes := [("day".text, ['t'])]
        pattern := " note( .+?) for( today| next week)".text }
    let left : Text := " note call \t home for next  week\n".text
    let right : Text := "note\u3000call home for\u2003next week".text
    let found : Match :=
      { template := matcher.template, utterance := left
        slots :=
          [("text".text, some "call home".text), ("day".text, some "next week".text)]
        parameters := [] }
    left ≠ right ∧ left.words = right.words ∧
      normalize left = " note call home for next week".text ∧
      normalize right = normalize left ∧ IsNormal (normalize left) ∧
      matcher.match? left true = .ok (some found) ∧
      matcher.match? right true = .ok (some { found with utterance := right }) := by
  intro matcher left right found
  have hwords : left.words = right.words := by decide
  have hfound : matcher.match? left true = .ok (some found) := by decide
  obtain ⟨hiff, _, hnormal, hmatch⟩ := normalize_canonical left right
  refine ⟨by decide, hwords, by decide, (hiff.mpr hwords).symm, hnormal, hfound, ?_⟩
  rw [hmatch hwords matcher true, hfound]
  rfl

end UtteranceTemplate
