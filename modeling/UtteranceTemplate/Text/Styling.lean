import UtteranceTemplate.Text.Basic

/-!
Styling of terminals: an escape character, an opening bracket, parameters, and a
letter. What is printed for other readers than a terminal goes without it.
-/

namespace UtteranceTemplate

namespace Text

/-- The character that starts a styling. -/
def escapeChar : CodePoint := '\x1b'

def isStyleParameter (c : CodePoint) : Bool := c.isDigit || c == ';' || c == '?'

def continuesStyle (held : Text) (c : CodePoint) : Bool :=
  if held.length ≤ 1 then c == '[' else isStyleParameter c

/-- A text without its stylings; `held` is the start of one that comes before
the text. -/
def dropStyling (held : Text) : Text → Text
  | [] => held
  | c :: rest =>
      if !held.isEmpty && continuesStyle held c then dropStyling (held ++ [c]) rest
      else if 2 ≤ held.length && c.isAlpha then dropStyling [] rest
      else if c = escapeChar then held ++ dropStyling [c] rest
      else held ++ c :: dropStyling [] rest

def unstyled (text : Text) : Text := dropStyling [] text

/-- A text without the escape character has no stylings. -/
theorem unstyled_of_not_mem {text : Text} (h : escapeChar ∉ text) :
    text.unstyled = text := by
  unfold unstyled
  induction text with
  | nil => rfl
  | cons c rest ih =>
      simp only [List.mem_cons, not_or] at h
      simp [dropStyling, Ne.symm h.1, ih h.2]

theorem not_isHalf_of_continuesStyle {held : Text} {c : CodePoint}
    (h : continuesStyle held c = true) : c.isHalf = false := by
  cases c with
  | char => rfl
  | half =>
      rw [continuesStyle] at h
      split at h <;> simp [isStyleParameter, CodePoint.isDigit] at h

/-- Stylings hold no halves, so none gets lost with them. -/
theorem filter_isHalf_dropStyling {held text : Text}
    (h : held.filter CodePoint.isHalf = []) :
    (dropStyling held text).filter CodePoint.isHalf =
      text.filter CodePoint.isHalf := by
  fun_induction dropStyling held text with
  | case1 => exact h
  | case2 held c rest hcontinues ih =>
      have hc : c.isHalf = false :=
        not_isHalf_of_continuesStyle (Bool.and_eq_true_iff.mp hcontinues).2
      rw [ih (by simp [h, hc]), List.filter_cons_of_neg (by simp [hc])]
  | case3 held c rest _ hletter ih =>
      have hc : c.isHalf = false := by
        cases c with
        | char => rfl
        | half => simp [CodePoint.isAlpha] at hletter
      rw [ih rfl, List.filter_cons_of_neg (by simp [hc])]
  | case4 held rest _ _ ih =>
      rw [List.filter_append, h, ih rfl]
      rfl
  | case5 held c rest _ _ _ ih =>
      rw [List.filter_append, h, List.nil_append, List.filter_cons, ih rfl,
        ← List.filter_cons]

theorem filter_isHalf_unstyled (text : Text) :
    text.unstyled.filter CodePoint.isHalf = text.filter CodePoint.isHalf :=
  filter_isHalf_dropStyling rfl

end Text

end UtteranceTemplate
