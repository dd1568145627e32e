import UtteranceTemplate.Pattern.Braces

/-!
Reading the written form of tokens gives the tokens back.

A written row is ambiguous at two places only: a bare opening brace may turn out to
count repetitions, and a question mark behind the opening of a capture would make it
something else. Rows without either are legible (`Legible`), and `lexFrom_textOf`
reads them back, each token at its place. After the braces of a row are resolved no
opening brace counts repetitions (`uncounted_resolveFrom`).
-/

namespace UtteranceTemplate

namespace Pattern

namespace Token

/-- A row of tokens with the positions that they have in the written form. -/
def placed (position : Nat) : List Token → List (Nat × Token)
  | [] => []
  | token :: rest => (position, token) :: placed (position + token.text.length) rest

@[simp] theorem map_snd_placed (position : Nat) (tokens : List Token) :
    (placed position tokens).map Prod.snd = tokens := by
  induction tokens generalizing position with
  | nil => rfl
  | cons token tokens ih => simp [placed, ih]

@[simp] theorem textOf_nil : textOf [] = [] := rfl

@[simp] theorem textOf_cons (token : Token) (tokens : List Token) :
    textOf (token :: tokens) = token.text ++ textOf tokens := by
  simp [textOf]

@[simp] theorem textOf_append (front back : List Token) :
    textOf (front ++ back) = textOf front ++ textOf back := by
  simp [textOf]

def isChar : Token → Bool
  | .char _ => true
  | _ => false

theorem dropWhile_isChar_char_cons (c : CodePoint) (tokens : List Token) :
    (.char c :: tokens).dropWhile isChar = tokens.dropWhile isChar := rfl

/-- Rows in which no opening brace has a closing brace behind it with only
characters between. -/
def Uncounted : List Token → Prop
  | [] => True
  | token :: rest =>
      (token = .leftBrace → (rest.dropWhile isChar).head? ≠ some .rightBrace) ∧
        Uncounted rest

/-- Rows whose written form can be read back. -/
def Legible : List Token → Prop
  | [] => True
  | token :: rest =>
      (token = .leftBrace → countsRepetitions (textOf rest) = false) ∧
        (token = .openCapture → rest.head? ≠ some .optional) ∧ Legible rest

/-- Tokens that open no brace and no capture may stand in front of a legible row. -/
theorem Legible.append_left {front back : List Token} (hleft : .leftBrace ∉ front)
    (hopen : .openCapture ∉ front) (hback : Legible back) :
    Legible (front ++ back) := by
  induction front with
  | nil => exact hback
  | cons token front ih =>
      simp only [List.mem_cons, not_or] at hleft hopen
      exact ⟨fun heq => absurd heq.symm hleft.1, fun heq => absurd heq.symm hopen.1,
        ih hleft.2 hopen.2⟩

theorem Uncounted.of_append (front : List Token) {back : List Token}
    (h : Uncounted (front ++ back)) :
    Uncounted back := by
  induction front with
  | nil => exact h
  | cons token front ih => exact ih h.2

theorem not_isAlphanum_of_isSpecial {c : CodePoint} (h : isSpecial c = true) :
    c.isAlphanum = false := by
  simp only [isSpecial, List.contains_eq_mem, decide_eq_true_eq] at h
  have hnot := List.all_eq_true.mp
    (show List.all _ (fun c : CodePoint => !c.isAlphanum) = true by decide) c h
  simpa using hnot

theorem lexFrom_char {c : CodePoint} (h : isSpecial c = false) (position : Nat)
    (rest : Text) :
    lexFrom position (c :: rest) =
      consToken position (.char c) (lexFrom (position + 1) rest) := by
  simp only [isSpecial, List.contains_eq_mem, decide_eq_false_iff_not,
    List.mem_cons, not_or, List.not_mem_nil, not_false_eq_true, and_true] at h
  rw [lexFrom.eq_def]
  split <;> simp_all

theorem lexFrom_openCapture {rest : Text} (h : rest.head? ≠ some (.char '?'))
    (position : Nat) :
    lexFrom position ('(' :: rest) =
      consToken position .openCapture (lexFrom (position + 1) rest) := by
  cases rest with
  | nil => simp [lexFrom]
  | cons c rest =>
      have hne : c ≠ '?' := by simpa using h
      simp [lexFrom, hne]

/-- Only a question mark is written with a question mark in front. -/
theorem head?_textOf_ne {tokens : List Token} (h : tokens.head? ≠ some .optional) :
    (textOf tokens).head? ≠ some (.char '?') := by
  cases tokens with
  | nil => simp
  | cons token rest =>
      cases token with
      | char c =>
          by_cases hc : isSpecial c = true
          · simp [text, hc]
          · have hne : c ≠ '?' := by
              rintro rfl
              exact hc (by decide)
            simp [text, hc, hne]
      | optional => simp at h
      | leftBrace | rightBrace | openCapture | openGroup | close | bar | anyText =>
          simp [text]

/-- Reading a legible row back gives its tokens, each at its place, and no fault. -/
theorem lexFrom_textOf {tokens : List Token} (h : Legible tokens) (position : Nat) :
    lexFrom position (textOf tokens) = (placed position tokens, none) := by
  induction tokens generalizing position with
  | nil => rfl
  | cons token rest ih =>
      obtain ⟨hbrace, hcapture, hrest⟩ := h
      rw [textOf_cons]
      cases token with
      | char c =>
          by_cases hc : isSpecial c = true
          · simp [text, hc, lexFrom, not_isAlphanum_of_isSpecial hc, ih hrest,
              consToken, placed]
          · simp only [Bool.not_eq_true] at hc
            simp [text, hc, lexFrom_char, ih hrest, consToken, placed]
      | leftBrace => simp [text, lexFrom, hbrace rfl, ih hrest, consToken, placed]
      | openCapture =>
          have hhead := head?_textOf_ne (hcapture rfl)
          simp [text, lexFrom_openCapture hhead, ih hrest, consToken, placed]
      | rightBrace | openGroup | close | bar | optional | anyText =>
          simp [text, lexFrom, ih hrest, consToken, placed]

/-- The tokens of a legible row are read off its written form, without a fault. -/
theorem lex_textOf {tokens : List Token} (h : Legible tokens) :
    lex (textOf tokens) = (placed 0 tokens, none) :=
  lexFrom_textOf h 0

/-- Behind digits only the token of a bare closing brace is written as one. -/
theorem head?_dropWhile_isChar {tokens : List Token} {rest : Text}
    (h : (textOf tokens).dropWhile CodePoint.isDigit = .char '}' :: rest) :
    (tokens.dropWhile isChar).head? = some .rightBrace := by
  induction tokens with
  | nil => simp at h
  | cons token tokens ih =>
      cases token with
      | char c =>
          by_cases hc : isSpecial c = true
          · simp [text, hc, CodePoint.isDigit] at h
          · simp only [text, hc, if_false, Bool.false_eq_true, textOf_cons,
              List.singleton_append, List.dropWhile_cons] at h
            split at h
            · rw [dropWhile_isChar_char_cons, ih h]
            · simp only [List.cons.injEq] at h
              rw [h.1] at hc
              exact absurd (by decide) hc
      | rightBrace => rfl
      | leftBrace | openCapture | openGroup | close | bar | optional | anyText =>
          simp [text, CodePoint.isDigit] at h

/-- A closing brace behind one comma among digits is bare too. -/
theorem head?_dropWhile_isChar_of_comma {tokens : List Token} {rest : Text}
    (h : (textOf tokens).dropWhile CodePoint.isDigit = .char ',' :: rest)
    (hrest : (rest.dropWhile CodePoint.isDigit).head? = some (.char '}')) :
    (tokens.dropWhile isChar).head? = some .rightBrace := by
  induction tokens with
  | nil => simp at h
  | cons token tokens ih =>
      cases token with
      | char c =>
          by_cases hc : isSpecial c = true
          · simp [text, hc, CodePoint.isDigit] at h
          · simp only [text, hc, if_false, Bool.false_eq_true, textOf_cons,
              List.singleton_append, List.dropWhile_cons] at h
            split at h
            · rw [dropWhile_isChar_char_cons, ih h]
            · simp only [List.cons.injEq] at h
              obtain ⟨more, hmore⟩ := List.head?_eq_some_iff.mp hrest
              rw [← h.2] at hmore
              rw [dropWhile_isChar_char_cons, head?_dropWhile_isChar hmore]
      | rightBrace | leftBrace | openCapture | openGroup | close | bar | optional
      | anyText =>
          simp [text, CodePoint.isDigit] at h

/-- An opening brace counts repetitions only if characters and a bare closing
brace follow. -/
theorem not_countsRepetitions {tokens : List Token}
    (h : (tokens.dropWhile isChar).head? ≠ some .rightBrace) :
    countsRepetitions (textOf tokens) = false := by
  cases hcounts : countsRepetitions (textOf tokens) with
  | false => rfl
  | true =>
      exfalso
      unfold countsRepetitions at hcounts
      split at hcounts
      · cases hcounts
      · split at hcounts
        · rename_i hdigits
          exact h (head?_dropWhile_isChar hdigits)
        · rename_i hdigits
          exact h (head?_dropWhile_isChar_of_comma hdigits (by simpa using hcounts))
        · cases hcounts

theorem resolveFrom_false_of_not_mem {tokens : List Token}
    (h : .rightBrace ∉ tokens) :
    resolveFrom false tokens = tokens := by
  induction tokens with
  | nil => rfl
  | cons token rest ih =>
      simp only [List.mem_cons, not_or] at h
      cases token <;> simp_all [resolveFrom]

/-- Resolving braces makes nothing but groups and their question marks. -/
theorem mem_of_mem_resolveFrom {token : Token} {tokens : List Token} {inside : Bool}
    (hgroup : token ≠ .openGroup) (hclose : token ≠ .close)
    (hoptional : token ≠ .optional) (h : token ∈ resolveFrom inside tokens) :
    token ∈ tokens := by
  fun_induction resolveFrom inside tokens with
  | case1 => exact h
  | case2 rest ih =>
      exact List.mem_cons_of_mem _ (ih (by simpa [hclose, hoptional] using h))
  | case3 next rest _ ih =>
      exact List.mem_cons.mpr ((List.mem_cons.mp h).imp_right ih)
  | case4 _ rest _ _ ih =>
      exact List.mem_cons_of_mem _ (ih (by simpa [hgroup] using h))
  | case5 _ rest _ _ ih =>
      exact List.mem_cons.mpr ((List.mem_cons.mp h).imp_right ih)
  | case6 _ next rest _ _ ih =>
      exact List.mem_cons.mpr ((List.mem_cons.mp h).imp_right ih)

/-- Inside optional text the first token that is no character is not a bare
closing brace. -/
theorem head?_resolveFrom_true {tokens : List Token} (h : .rightBrace ∈ tokens) :
    ((resolveFrom true tokens).dropWhile isChar).head? ≠ some .rightBrace := by
  induction tokens with
  | nil => simp at h
  | cons token rest ih =>
      cases token with
      | char c => exact ih (by simpa using h)
      | leftBrace | rightBrace | openCapture | openGroup | close | bar | optional
      | anyText =>
          simp [resolveFrom, isChar]

/-- When braces are resolved no opening brace is left that could count
repetitions. -/
theorem uncounted_resolveFrom (inside : Bool) (tokens : List Token)
    (hinside : inside = true → .rightBrace ∈ tokens) :
    Uncounted (resolveFrom inside tokens) := by
  induction tokens generalizing inside with
  | nil => exact trivial
  | cons token rest ih =>
      have hfalse := ih false (by simp)
      cases inside with
      | true =>
          have hmem := hinside rfl
          by_cases htoken : token = .rightBrace
          · subst htoken
            exact ⟨by simp, by simp, hfalse⟩
          · have hrest : .rightBrace ∈ rest :=
              (List.mem_cons.mp hmem).resolve_left (Ne.symm htoken)
            have hstep : resolveFrom true (token :: rest) =
                token :: resolveFrom true rest := by
              cases token <;> simp_all [resolveFrom]
            rw [hstep]
            exact ⟨fun _ => head?_resolveFrom_true hrest, ih true fun _ => hrest⟩
      | false =>
          by_cases htoken : token = .leftBrace
          · subst htoken
            by_cases hrest : .rightBrace ∈ rest
            · have hstep : resolveFrom false (.leftBrace :: rest) =
                  .openGroup :: resolveFrom true rest := by simp [resolveFrom, hrest]
              rw [hstep]
              exact ⟨by simp, ih true fun _ => hrest⟩
            · have hstep : resolveFrom false (.leftBrace :: rest) =
                  .leftBrace :: resolveFrom false rest := by
                simp [resolveFrom, hrest]
              rw [hstep]
              refine ⟨fun _ hhead => hrest ?_, hfalse⟩
              rw [resolveFrom_false_of_not_mem hrest] at hhead
              exact (List.dropWhile_sublist _).subset (List.mem_of_head? hhead)
          · have hstep : resolveFrom false (token :: rest) =
                token :: resolveFrom false rest := by
              cases token <;> simp_all [resolveFrom]
            rw [hstep]
            exact ⟨fun heq => absurd heq htoken, hfalse⟩

end Token

end Pattern

end UtteranceTemplate
