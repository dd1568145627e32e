import UtteranceTemplate.Proofs.CaseFolding
import UtteranceTemplate.Proofs.SingleSpacing

/-!
Texts that are the same letter by letter, and what is left of a text behind
given letters.

`after?` takes given letters off the start of a text. It leaves a rest exactly if the
text begins with a part that has the same letters (`after?_eq_some_iff`). The same
letters have the same blanks, so a text is trimmed if its letters are those of a
trimmed text (`Trimmed.of_sameLetters`).
-/

namespace UtteranceTemplate

namespace Text

/-- Whether two texts have the same letters in the same order, up to case if
`ignoreCase` is set. -/
def sameLetters (ignoreCase : Bool) : Text → Text → Bool
  | [], [] => true
  | c :: left, d :: right =>
      sameLetter ignoreCase c d && sameLetters ignoreCase left right
  | [], _ :: _ | _ :: _, [] => false

/-- What is left of a text behind the letters of `wanted`, if the text begins
with them. -/
def after? (ignoreCase : Bool) : Text → Text → Option Text
  | [], text => some text
  | _ :: _, [] => none
  | c :: wanted, d :: text =>
      if sameLetter ignoreCase c d then after? ignoreCase wanted text else none

variable {ignoreCase : Bool}

@[simp] theorem after?_nil
    (text : Text) : after? ignoreCase [] text = some text := rfl

theorem after?_append (front back text : Text) :
    after? ignoreCase (front ++ back) text =
      (after? ignoreCase front text).bind (after? ignoreCase back) := by
  induction front generalizing text with
  | nil => rfl
  | cons c front ih =>
      cases text with
      | nil => rfl
      | cons d text =>
          simp only [List.cons_append, after?]
          split
          · exact ih text
          · rfl

theorem after?_eq_some_iff {wanted text rest : Text} :
    after? ignoreCase wanted text = some rest ↔
      ∃ piece, text = piece ++ rest ∧
        sameLetters ignoreCase wanted piece = true := by
  induction wanted generalizing text with
  | nil =>
      constructor
      · intro h
        exact ⟨[], Option.some.inj h, rfl⟩
      · rintro ⟨piece, rfl, hsame⟩
        cases piece with
        | nil => rfl
        | cons d piece => cases hsame
  | cons c wanted ih =>
      constructor
      · intro h
        cases text with
        | nil => cases h
        | cons d text =>
            by_cases hcd : sameLetter ignoreCase c d = true
            · simp only [after?, hcd, if_true] at h
              obtain ⟨piece, rfl, hsame⟩ := ih.mp h
              exact ⟨d :: piece, rfl, by simp [sameLetters, hcd, hsame]⟩
            · simp [after?, hcd] at h
      · rintro ⟨piece, rfl, hsame⟩
        cases piece with
        | nil => cases hsame
        | cons d piece =>
            simp only [sameLetters, Bool.and_eq_true] at hsame
            simp only [List.cons_append, after?, hsame.1, if_true]
            exact ih.mpr ⟨piece, rfl, hsame.2⟩

/-- In exact case only a text itself has its letters. -/
theorem sameLetters_false_iff {left right : Text} :
    sameLetters false left right = true ↔ left = right := by
  induction left generalizing right with
  | nil => cases right <;> simp [sameLetters]
  | cons c left ih => cases right <;> simp [sameLetters, ih]

/-- Behind the letters of a text that begins with a space the same letters begin
with a space too. -/
theorem exists_of_sameLetters_space_cons {wanted piece : Text}
    (h : sameLetters ignoreCase (' ' :: wanted) piece = true) :
    ∃ body, piece = .char ' ' :: body ∧
      sameLetters ignoreCase wanted body = true := by
  cases piece with
  | nil => cases h
  | cons d body =>
      simp only [sameLetters, Bool.and_eq_true] at h
      rw [sameLetter_of_isBlank (by decide)] at h
      exact ⟨body, by rw [← eq_of_beq h.1], h.2⟩

theorem map_isBlank_eq_of_sameLetters {left right : Text}
    (h : sameLetters ignoreCase left right = true) :
    left.map isBlank = right.map isBlank := by
  induction left generalizing right with
  | nil =>
      cases right with
      | nil => rfl
      | cons d right => cases h
  | cons c left ih =>
      cases right with
      | nil => cases h
      | cons d right =>
          simp only [sameLetters, Bool.and_eq_true] at h
          simp [isBlank_eq_of_sameLetter h.1, ih h.2]

theorem length_eq_of_sameLetters {left right : Text}
    (h : sameLetters ignoreCase left right = true) : left.length = right.length := by
  have hlength := congrArg List.length (map_isBlank_eq_of_sameLetters h)
  rwa [List.length_map, List.length_map] at hlength

theorem trimmed_iff_map_isBlank (text : Text) :
    Trimmed text ↔
      (text.map isBlank).head? ≠ some true ∧
        (text.map isBlank).getLast? ≠ some true := by
  have hnot : ∀ found : Option CodePoint,
      found.map isBlank ≠ some true ↔ ∀ c, found = some c → isBlank c = false := by
    intro found
    cases found <;> simp
  rw [List.head?_map, List.getLast?_map, hnot, hnot]
  exact ⟨fun h => ⟨h.head, h.last⟩, fun h => ⟨h.1, h.2⟩⟩

theorem Trimmed.of_sameLetters {left right : Text} (hleft : Trimmed left)
    (h : sameLetters ignoreCase left right = true) : Trimmed right := by
  rw [trimmed_iff_map_isBlank] at hleft ⊢
  rw [← map_isBlank_eq_of_sameLetters h]
  exact hleft

end Text

end UtteranceTemplate
