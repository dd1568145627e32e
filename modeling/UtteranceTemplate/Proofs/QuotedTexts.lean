import Mathlib.Algebra.Group.Nat.Defs
import UtteranceTemplate.Text.Quoted

/-!
Quoted texts are told apart.

What is written for a character between quotation marks determines the character and
where what is written for it ends (`Text.quotedChar_append_inj`). So a quoted text
determines the text (`Text.quoted_inj`), also where something stands behind it
(`Text.quoted_append_inj`).
-/

namespace UtteranceTemplate

namespace Text

theorem digitChar_inj : ∀ m < 16, ∀ n < 16, m.digitChar = n.digitChar → m = n := by
  decide

theorem length_hexadecimal
    (width n : Nat) : (hexadecimal width n).length = width := by
  induction width generalizing n with
  | zero => rfl
  | succ width ih => rw [hexadecimal, List.length_append, ih, List.length_singleton]

theorem hexadecimal_inj {width m n : Nat} (hm : m < 16 ^ width) (hn : n < 16 ^ width)
    (h : hexadecimal width m = hexadecimal width n) : m = n := by
  induction width generalizing m n with
  | zero =>
      rw [Nat.pow_zero] at hm hn
      omega
  | succ width ih =>
      rw [Nat.pow_succ] at hm hn
      obtain ⟨hrest, hlast⟩ := List.append_inj' h rfl
      have hdigit : m % 16 = n % 16 := by
        apply digitChar_inj _ (Nat.mod_lt m (by decide)) _ (Nat.mod_lt n (by decide))
        simpa using hlast
      have hfront : m / 16 = n / 16 := ih (by omega) (by omega) hrest
      omega

/-- The letters that stand behind a backslash for a character, with the character. -/
def quotedLetters (mark : CodePoint) : List (CodePoint × CodePoint) :=
  [(mark, mark), ('\\', '\\'), ('t', '\t'), ('n', '\n'), ('r', '\r')]

/-- The letters that stand behind a backslash in front of a code, with its width. -/
def codeLetters : List (CodePoint × Nat) := [('x', 2), ('u', 4), ('U', 8)]

/-- How a character is shown between quotation marks. -/
inductive ShowsChar (mark c : CodePoint) : Text → Prop
  | plain (hmark : c ≠ mark) (hslash : c ≠ '\\') : ShowsChar mark c [c]
  | marked {letter : CodePoint} (hletter : (letter, c) ∈ quotedLetters mark) :
      ShowsChar mark c ['\\', letter]
  | code {letter : CodePoint} {width : Nat} (hletter : (letter, width) ∈ codeLetters)
      (hn : c.toNat < 16 ^ width) :
      ShowsChar mark c ('\\' :: letter :: hexadecimal width c.toNat)

theorem showsChar_quotedChar (mark c : CodePoint) :
    ShowsChar mark c (quotedChar mark c) := by
  unfold quotedChar
  split
  case isTrue hspecial =>
    rw [Bool.or_eq_true, decide_eq_true_eq, decide_eq_true_eq] at hspecial
    rcases hspecial with rfl | rfl
    · exact .marked List.mem_cons_self
    · exact .marked (by simp [quotedLetters])
  case isFalse hspecial =>
    rw [Bool.or_eq_true, decide_eq_true_eq, decide_eq_true_eq, not_or] at hspecial
    split
    case isTrue htab => exact .marked (by simp [quotedLetters, htab])
    split
    case isTrue hfeed => exact .marked (by simp [quotedLetters, hfeed])
    split
    case isTrue hreturn => exact .marked (by simp [quotedLetters, hreturn])
    split
    case isTrue => exact .plain hspecial.1 hspecial.2
    case isFalse =>
      unfold escapedByCode
      split
      case isTrue hn => exact .code (by simp [codeLetters]) hn
      split
      case isTrue hn => exact .code (by simp [codeLetters]) hn
      case isFalse =>
        have hlast := c.toNat_lt
        exact .code (by simp [codeLetters]) (by omega)

/-- A quotation mark is one of two. -/
def IsMark (mark : CodePoint) : Prop := mark = '\'' ∨ mark = '"'

theorem isMark_quoteMark (text : Text) : IsMark text.quoteMark := by
  unfold quoteMark
  split
  · exact Or.inr rfl
  · exact Or.inl rfl

variable {mark : CodePoint}

theorem eq_of_mem_quotedLetters (hmark : IsMark mark) {letter c d : CodePoint}
    (hc : (letter, c) ∈ quotedLetters mark) (hd : (letter, d) ∈ quotedLetters mark) :
    c = d := by
  simp only [quotedLetters, List.mem_cons, Prod.mk.injEq, List.not_mem_nil,
    or_false] at hc hd
  rcases hmark with rfl | rfl <;> grind

/-- No letter in front of a code stands for a character itself. -/
theorem not_mem_codeLetters (hmark : IsMark mark) {letter c : CodePoint}
    {width : Nat} (hc : (letter, c) ∈ quotedLetters mark) :
    (letter, width) ∉ codeLetters := by
  simp only [quotedLetters, codeLetters, List.mem_cons, Prod.mk.injEq,
    List.not_mem_nil, or_false] at hc ⊢
  rcases hmark with rfl | rfl <;> grind

theorem eq_of_mem_codeLetters {letter : CodePoint} {width other : Nat}
    (hwidth : (letter, width) ∈ codeLetters)
    (hother : (letter, other) ∈ codeLetters) :
    width = other := by
  simp only [codeLetters, List.mem_cons, Prod.mk.injEq, List.not_mem_nil,
    or_false] at hwidth hother
  grind

theorem ShowsChar.inj (hmark : IsMark mark) {c d : CodePoint}
    {shown other s t : Text} (hc : ShowsChar mark c shown)
    (hd : ShowsChar mark d other) (h : shown ++ s = other ++ t) : c = d ∧ s = t := by
  cases hc with
  | plain _ hslash =>
      cases hd with
      | plain => exact List.cons.inj h
      | marked | code => exact absurd (List.cons.inj h).1 hslash
  | marked hletter =>
      cases hd with
      | plain _ hslash => exact absurd (List.cons.inj h).1.symm hslash
      | marked hother =>
          obtain ⟨rfl, hrest⟩ := List.cons.inj (List.cons.inj h).2
          exact ⟨eq_of_mem_quotedLetters hmark hletter hother, hrest⟩
      | code hother =>
          obtain ⟨rfl, _⟩ := List.cons.inj (List.cons.inj h).2
          exact absurd hother (not_mem_codeLetters hmark hletter)
  | @code _ width hletter hn =>
      cases hd with
      | plain _ hslash => exact absurd (List.cons.inj h).1.symm hslash
      | marked hother =>
          obtain ⟨rfl, _⟩ := List.cons.inj (List.cons.inj h).2
          exact absurd hletter (not_mem_codeLetters hmark hother)
      | @code _ other hother hn' =>
          obtain ⟨rfl, hrest⟩ := List.cons.inj (List.cons.inj h).2
          obtain rfl := eq_of_mem_codeLetters hletter hother
          obtain ⟨hcodes, hrest⟩ :=
            List.append_inj hrest (by simp only [length_hexadecimal])
          exact ⟨CodePoint.toNat_inj.mp (hexadecimal_inj hn hn' hcodes), hrest⟩

theorem quotedChar_append_inj (hmark : IsMark mark) {c d : CodePoint} {s t : Text}
    (h : quotedChar mark c ++ s = quotedChar mark d ++ t) : c = d ∧ s = t :=
  (showsChar_quotedChar mark c).inj hmark (showsChar_quotedChar mark d) h

/-- What is shown of a character does not begin with the quotation mark. -/
theorem quotedChar_append_ne (hmark : IsMark mark) (c : CodePoint) (s t : Text) :
    quotedChar mark c ++ s ≠ mark :: t := by
  have hshows := showsChar_quotedChar mark c
  have hslash : (.char '\\') ≠ mark := by
    rcases hmark with rfl | rfl <;> decide
  generalize quotedChar mark c = shown at hshows
  intro h
  cases hshows with
  | plain hne => exact absurd (List.cons.inj h).1 hne
  | marked | code => exact absurd (List.cons.inj h).1 hslash

/-- The quotation mark ends a text that is shown. -/
theorem flatMap_quotedChar_append_inj (hmark : IsMark mark) {text other s t : Text}
    (h : text.flatMap (quotedChar mark) ++ mark :: s =
      other.flatMap (quotedChar mark) ++ mark :: t) : text = other ∧ s = t := by
  induction text generalizing other with
  | nil =>
      cases other with
      | nil => exact ⟨rfl, (List.cons.inj h).2⟩
      | cons d other =>
          rw [List.flatMap_cons, List.append_assoc] at h
          exact absurd h.symm (quotedChar_append_ne hmark d _ _)
  | cons c text ih =>
      rw [List.flatMap_cons, List.append_assoc] at h
      cases other with
      | nil => exact absurd h (quotedChar_append_ne hmark c _ _)
      | cons d other =>
          rw [List.flatMap_cons, List.append_assoc] at h
          obtain ⟨rfl, hrest⟩ := quotedChar_append_inj hmark h
          obtain ⟨rfl, htail⟩ := ih hrest
          exact ⟨rfl, htail⟩

/-- A quoted text determines the text, and where it ends. -/
theorem quoted_append_inj {text other s t : Text}
    (h : text.quoted ++ s = other.quoted ++ t) : text = other ∧ s = t := by
  have hopened : ∀ text s : Text, text.quoted ++ s = text.quoteMark ::
      (text.flatMap (quotedChar text.quoteMark) ++ text.quoteMark :: s) := by
    intro text s
    simp [quoted]
  rw [hopened, hopened] at h
  obtain ⟨hmark, hrest⟩ := List.cons.inj h
  rw [hmark] at hrest
  exact flatMap_quotedChar_append_inj (isMark_quoteMark other) hrest

/-- No two texts are quoted alike. -/
theorem quoted_inj {text other : Text} (h : text.quoted = other.quoted) :
    text = other := by
  have happend : text.quoted ++ [] = other.quoted ++ [] := by rw [h]
  exact (quoted_append_inj happend).1

end Text

end UtteranceTemplate
