import UtteranceTemplate.Proofs.FragmentReading

/-!
The finished pattern as a rewriting of texts.

A draft is made of tokens, so a brace that stands for itself cannot be taken for one
that opens optional text. A pattern can be made of texts as well. Every character
that means something gets a backslash in front (`Text.marked`), the backslashes that
are not wanted are taken away again, one character at a time (`Text.unmarked`), and a
single pass over what the fragments give together looks for braces, with a backslash
and the character behind it as one unit (`Pattern.rewriteOptional`).

Both ways give the same pattern (`Template.pattern_eq_rewriteOptional`). A row of
tokens is written so that its units are the units of the pass
(`Pattern.cutOptional?_text_append`, `Pattern.rewriteOptional_textOf`), and taking
away one kind of backslash never makes or breaks another one
(`Text.unmarked_marked`).
-/

namespace UtteranceTemplate

open Pattern Token

namespace Text

def marked (isMarked : CodePoint → Bool) (text : Text) : Text :=
  text.flatMap fun c => if isMarked c then ['\\', c] else [c]

/-- A text without the backslashes that stand in front of a character, looked for
from left to right. -/
def unmarked (c : CodePoint) : Text → Text
  | '\\' :: d :: rest =>
      if d = c then c :: unmarked c rest else '\\' :: unmarked c (d :: rest)
  | d :: rest => d :: unmarked c rest
  | [] => []

variable {isMarked : CodePoint → Bool} {c : CodePoint}

theorem unmarked_cons_of_ne {d : CodePoint} (h : d ≠ '\\') (rest : Text) :
    unmarked c (d :: rest) = d :: unmarked c rest := by
  rw [unmarked.eq_def]
  split <;> simp_all

/-- What begins with a backslash or with a character that has none does not begin
with a marked one. -/
theorem head?_marked_ne (hmarked : isMarked c = true) (hc : c ≠ '\\') (text : Text) :
    (marked isMarked text).head? ≠ some c := by
  cases text with
  | nil => simp [marked]
  | cons d text =>
      by_cases hd : isMarked d = true
      · simp [marked, hd, Ne.symm hc]
      · have hne : d ≠ c := fun heq => hd (heq ▸ hmarked)
        simp [marked, hd, hne]

/-- A backslash stays as it is in front of anything but the character. -/
theorem unmarked_backslash_cons {rest : Text} (h : rest.head? ≠ some c) :
    unmarked c (.char '\\' :: rest) = .char '\\' :: unmarked c rest := by
  cases rest with
  | nil => rfl
  | cons d rest =>
      have hne : d ≠ c := by simpa using h
      rw [unmarked, if_neg hne]

/-- Where the backslash itself is marked, taking away the backslashes of a character
leaves all others: no two characters come together that were none of its. -/
theorem unmarked_marked (hbackslash : isMarked '\\' = true)
    (hmarked : isMarked c = true) (hc : c ≠ '\\') (text : Text) :
    unmarked c (marked isMarked text) =
      marked (fun d => isMarked d && d != c) text := by
  induction text with
  | nil => rfl
  | cons d text ih =>
      rw [marked, marked, List.flatMap_cons, List.flatMap_cons, ← marked,
        ← marked, ← ih]
      by_cases hd : isMarked d = true
      · by_cases heq : d = c
        · subst heq
          simp [hd, unmarked]
        · have hrest : unmarked c (d :: marked isMarked text) =
              d :: unmarked c (marked isMarked text) := by
            by_cases hslash : d = '\\'
            · subst hslash
              exact unmarked_backslash_cons (head?_marked_ne hmarked hc text)
            · exact unmarked_cons_of_ne hslash _
          simp [hd, heq, unmarked, hrest]
      · have hslash : d ≠ '\\' := fun heq => hd (heq ▸ hbackslash)
        simp [hd, unmarked_cons_of_ne hslash]

/-- A line feed is blank, and the only blank of a single-spaced text is the space. -/
theorem newline_not_mem_singleSpaced (text : Text) :
    .char '\n' ∉ text.singleSpaced := by
  intro hmem
  rcases mem_of_mem_singleSpaced hmem with hspace | ⟨_, hblank⟩
  · exact absurd hspace (by decide)
  · exact absurd hblank (by decide)

end Text

namespace Pattern

/-- What stands in front of the first closing brace of a text, and what stands behind
it. A backslash and the character behind it are passed over together; a line feed
cannot be that character. -/
def cutOptional? : Text → Option (Text × Text)
  | [] => none
  | '}' :: rest => some ([], rest)
  | ['\\'] => none
  | '\\' :: c :: rest =>
      if c = '\n' then none
      else (cutOptional? rest).map fun cut => ('\\' :: c :: cut.1, cut.2)
  | c :: rest => (cutOptional? rest).map fun cut => (c :: cut.1, cut.2)

theorem length_lt_of_cutOptional? {text : Text} {cut : Text × Text}
    (h : cutOptional? text = some cut) : cut.2.length < text.length := by
  fun_induction cutOptional? text generalizing cut with
  | case1 | case3 | case4 => cases h
  | case2 rest =>
      cases h
      exact Nat.lt_succ_self _
  | case5 c rest _ ih =>
      obtain ⟨found, hfound, heq⟩ := Option.map_eq_some_iff.mp h
      have hlt := ih hfound
      rw [← heq]
      exact Nat.lt_succ_of_lt (Nat.lt_succ_of_lt hlt)
  | case6 c rest _ _ _ ih =>
      obtain ⟨found, hfound, heq⟩ := Option.map_eq_some_iff.mp h
      have hlt := ih hfound
      rw [← heq]
      exact Nat.lt_succ_of_lt hlt

/-- A text with an optional group in place of every pair of braces, from left to
right. A backslash and the character behind it are passed over together, so a brace
behind a backslash neither opens nor closes. -/
def rewriteOptional : Text → Text
  | [] => []
  | '\\' :: c :: rest => '\\' :: c :: rewriteOptional rest
  | '{' :: rest =>
      match _ : cutOptional? rest with
      | some cut => "(?:".text ++ cut.1 ++ ")?".text ++ rewriteOptional cut.2
      | none => '{' :: rewriteOptional rest
  | c :: rest => c :: rewriteOptional rest
termination_by text => text.length
decreasing_by
  · simp only [List.length_cons]; omega
  · rename_i hcut
    exact Nat.lt_succ_of_lt (length_lt_of_cutOptional? hcut)
  · exact Nat.lt_succ_self _
  · exact Nat.lt_succ_self _

variable {c : CodePoint} {token : Token} {tokens : List Token}

theorem cutOptional?_cons {c : CodePoint} (hslash : c ≠ '\\') (hright : c ≠ '}')
    (rest : Text) :
    cutOptional? (c :: rest) = (cutOptional? rest).map fun cut =>
      (c :: cut.1, cut.2) := by
  rw [cutOptional?.eq_def]
  split <;> simp_all

theorem rewriteOptional_cons {c : CodePoint} (hslash : c ≠ '\\') (hleft : c ≠ '{')
    (rest : Text) :
    rewriteOptional (c :: rest) = c :: rewriteOptional rest := by
  rw [rewriteOptional.eq_def]
  split <;> simp_all

theorem rewriteOptional_brace_some {rest : Text} {cut : Text × Text}
    (h : cutOptional? rest = some cut) :
    rewriteOptional ('{' :: rest) =
      "(?:".text ++ cut.1 ++ ")?".text ++ rewriteOptional cut.2 := by
  rw [rewriteOptional]
  split <;> simp_all

theorem rewriteOptional_brace_none {rest : Text} (h : cutOptional? rest = none) :
    rewriteOptional (.char '{' :: rest) = .char '{' :: rewriteOptional rest := by
  rw [rewriteOptional]
  split <;> simp_all

/-- A character that is written as it is, is neither a backslash nor a brace. -/
theorem ne_of_isSpecial_eq_false (h : isSpecial c = false) :
    c ≠ '\\' ∧ c ≠ '{' ∧ c ≠ '}' := by
  refine ⟨?_, ?_, ?_⟩ <;> rintro rfl <;> exact absurd h (by decide)

/-- The way to a closing brace passes over a token as a whole, unless the
token is one. -/
theorem cutOptional?_text_append (hright : token ≠ .rightBrace)
    (hnewline : token ≠ .char '\n') (rest : Text) :
    cutOptional? (token.text ++ rest) =
      (cutOptional? rest).map fun cut => (token.text ++ cut.1, cut.2) := by
  cases token with
  | rightBrace => exact absurd rfl hright
  | char c =>
      by_cases hc : isSpecial c = true
      · have hne : c ≠ '\n' := fun heq => hnewline (congrArg Token.char heq)
        simp [Token.text, hc, cutOptional?, hne]
      · simp only [Bool.not_eq_true] at hc
        obtain ⟨hslash, _, hbrace⟩ := ne_of_isSpecial_eq_false hc
        simp [Token.text, hc, cutOptional?_cons hslash hbrace]
  | leftBrace | openCapture | openGroup | close | bar | optional | anyText =>
      cases hrest : cutOptional? rest <;> simp [Token.text, cutOptional?, hrest]

/-- A closing brace is found in the written form of a row exactly if the row holds
one as a token. -/
theorem isSome_cutOptional?_textOf_iff (hnewline : .char '\n' ∉ tokens) :
    (cutOptional? (textOf tokens)).isSome ↔ .rightBrace ∈ tokens := by
  induction tokens with
  | nil => simp [cutOptional?]
  | cons token rest ih =>
      simp only [List.mem_cons, not_or] at hnewline
      by_cases hright : token = .rightBrace
      · subst hright
        simp [Token.text, cutOptional?]
      · rw [textOf_cons, cutOptional?_text_append hright (Ne.symm hnewline.1),
          Option.isSome_map, ih hnewline.2]
        simp [Ne.symm hright]

/-- The pass over a text leaves a token as it is, unless the token opens a brace. -/
theorem rewriteOptional_text_append (h : token ≠ .leftBrace) (rest : Text) :
    rewriteOptional (token.text ++ rest) = token.text ++ rewriteOptional rest := by
  cases token with
  | leftBrace => exact absurd rfl h
  | char c =>
      by_cases hc : isSpecial c = true
      · simp [Token.text, hc, rewriteOptional]
      · simp only [Bool.not_eq_true] at hc
        obtain ⟨hslash, hbrace, _⟩ := ne_of_isSpecial_eq_false hc
        simp [Token.text, hc, rewriteOptional_cons hslash hbrace]
  | rightBrace | openCapture | openGroup | close | bar | optional | anyText =>
      simp [Token.text, rewriteOptional]

/-- The pass resolves the braces of a row, outside optional text and inside
it up to its end. -/
theorem rewriteOptional_textOf_both (hnewline : .char '\n' ∉ tokens) :
    rewriteOptional (textOf tokens) = textOf (resolveFrom false tokens) ∧
      ∀ cut, cutOptional? (textOf tokens) = some cut →
        cut.1 ++ ")?".text ++ rewriteOptional cut.2 =
          textOf (resolveFrom true tokens) := by
  induction tokens with
  | nil => exact ⟨by simp [rewriteOptional, resolveFrom], by simp [cutOptional?]⟩
  | cons token rest ih =>
      simp only [List.mem_cons, not_or] at hnewline
      obtain ⟨houtside, hinside⟩ := ih hnewline.2
      refine ⟨?_, ?_⟩
      · by_cases hleft : token = .leftBrace
        · subst hleft
          have hmem := isSome_cutOptional?_textOf_iff hnewline.2
          cases hcut : cutOptional? (textOf rest) with
          | none =>
              have hnot : .rightBrace ∉ rest := by simpa [hcut] using hmem
              simp [Token.text, resolveFrom, hnot, rewriteOptional_brace_none hcut,
                houtside]
          | some cut =>
              have hin : .rightBrace ∈ rest := by simpa [hcut] using hmem
              have hgroup := hinside cut hcut
              simp [Token.text, resolveFrom, hin, rewriteOptional_brace_some hcut,
                ← hgroup, String.text]
        · rw [resolveFrom_false_cons fun heq => absurd heq hleft,
            textOf_cons, textOf_cons, rewriteOptional_text_append hleft, houtside]
      · intro cut hcut
        by_cases hright : token = .rightBrace
        · subst hright
          obtain rfl : ([], textOf rest) = cut := by
            simpa [Token.text, cutOptional?] using hcut
          simp [Token.text, resolveFrom, houtside, String.text]
        · rw [textOf_cons, cutOptional?_text_append hright
            (Ne.symm hnewline.1)] at hcut
          obtain ⟨found, hfound, rfl⟩ := Option.map_eq_some_iff.mp hcut
          have hstep : resolveFrom true (token :: rest) =
              token :: resolveFrom true rest := by
            cases token <;> simp_all [resolveFrom]
          rw [hstep, textOf_cons, ← hinside found hfound]
          simp

/-- Rewriting the written form of a row is writing the row with its braces
resolved. -/
theorem rewriteOptional_textOf (hnewline : .char '\n' ∉ tokens) :
    rewriteOptional (textOf tokens) = textOf (resolveBraces tokens) :=
  (rewriteOptional_textOf_both hnewline).1

end Pattern

namespace Fragment

/-- A single-spaced text with backslashes in front of what means something. The one
in front of a space is taken away again, and those in front of braces if the braces
keep their meaning. -/
def literalText (keepsBraces : Bool) (text : Text) : Text :=
  let literal :=
    (text.singleSpaced.marked fun c => isSpecial c || c == ' ').unmarked ' '
  if keepsBraces then (literal.unmarked '{').unmarked '}' else literal

/-- Texts with bars between them, each behind a space unless it is empty. -/
def alternationText (keepsBraces : Bool) (texts : List Text) : Text :=
  joinWith ['|'] (texts.map fun text =>
    if text.isEmpty then [] else ' ' :: literalText keepsBraces text)

/-- What a fragment gives to the text of a pattern, before braces are looked for. -/
def patternText (vocabulary : Vocabulary) : Fragment → Text
  | .parameter _ _ => []
  | .untypedSlot _ => "( .+?)".text
  | .typedSlot _ type =>
      .char '(' :: alternationText false
        ((vocabulary.lookup? type).getD []) ++ [.char ')']
  | .alternatives choices =>
      "(?:".text ++ alternationText true choices ++ [.char ')']
  | .words run => ' ' :: literalText true run

theorem unmarked_space_marked (text : Text) :
    (text.marked fun c => isSpecial c || c == ' ').unmarked ' ' =
      text.marked isSpecial := by
  rw [Text.unmarked_marked (by decide) (by decide) (by decide)]
  congr 1
  funext c
  by_cases hspace : c = ' '
  · subst hspace
    rfl
  · have hne : (c == ' ') = false := beq_eq_false_iff_ne.mpr hspace
    simp [bne, hne]

theorem textOf_phraseTokens (text : Text) :
    textOf (phraseTokens text) = literalText false text := by
  rw [literalText, if_neg Bool.false_ne_true, unmarked_space_marked,
    phraseTokens, textOf, List.flatMap_map]
  rfl

theorem textOf_templateTokens (text : Text) :
    textOf (templateTokens text) = literalText true text := by
  rw [literalText, if_pos rfl, unmarked_space_marked,
    Text.unmarked_marked (by decide) (by decide) (by decide),
    Text.unmarked_marked (by decide) (by decide) (by decide), templateTokens, textOf,
    List.flatMap_map, Text.marked]
  congr 1
  funext c
  by_cases hleft : c = '{'
  · subst hleft
    rfl
  · by_cases hright : c = '}'
    · subst hright
      rfl
    · simp [templateToken, Token.text, hleft, hright]

theorem textOf_branchTokens {tokensOf : Text → List Token} {keepsBraces : Bool}
    (h : ∀ text, textOf (tokensOf text) = literalText keepsBraces text)
    (texts : List Text) :
    textOf (branchTokens tokensOf texts) = alternationText keepsBraces texts := by
  rw [branchTokens, textOf_joinWith, List.map_map, alternationText]
  congr 1
  refine List.map_congr_left fun text _ => ?_
  rw [Function.comp_apply]
  split
  · rfl
  · rw [textOf_cons, h]
    rfl

/-- The tokens of a fragment are written as what it gives to the text of a
pattern. -/
theorem textOf_tokens (vocabulary : Vocabulary) (fragment : Fragment) :
    textOf (fragment.tokens vocabulary) = fragment.patternText vocabulary := by
  cases fragment with
  | parameter name value => rfl
  | untypedSlot name => rfl
  | typedSlot name type =>
      simp only [tokens, typedTokens, List.cons_append, textOf_cons, textOf_append,
        textOf_branchTokens textOf_phraseTokens]
      rfl
  | alternatives choices =>
      simp only [tokens, alternativesTokens, List.cons_append, textOf_cons,
        textOf_append, textOf_branchTokens textOf_templateTokens]
      rfl
  | words run =>
      rw [tokens, wordsTokens, textOf_cons, textOf_templateTokens]
      rfl

theorem newline_not_mem_phraseTokens (text : Text) :
    .char '\n' ∉ phraseTokens text :=
  fun hmem => Text.newline_not_mem_singleSpaced text
    (mem_singleSpaced_of_mem_phraseTokens hmem)

theorem newline_not_mem_templateTokens (text : Text) :
    .char '\n' ∉ templateTokens text :=
  fun hmem => Text.newline_not_mem_singleSpaced text
    (mem_singleSpaced_of_mem_templateTokens hmem)

theorem newline_not_mem_branchTokens {tokensOf : Text → List Token}
    (h : ∀ text, .char '\n' ∉ tokensOf text) (texts : List Text) :
    .char '\n' ∉ branchTokens tokensOf texts := by
  intro hmem
  rcases eq_or_exists_of_mem_branchTokens hmem with hbar | hspace | ⟨text, _, hin⟩
  · cases hbar
  · exact absurd (Token.char.inj hspace) (by decide)
  · exact h text hin

/-- No fragment asks for a line feed. -/
theorem newline_not_mem_tokens (vocabulary : Vocabulary) (fragment : Fragment) :
    .char '\n' ∉ fragment.tokens vocabulary := by
  cases fragment with
  | parameter name value => simp [tokens]
  | untypedSlot name => simp [tokens, untypedTokens]
  | typedSlot name type =>
      simpa [tokens, typedTokens]
        using newline_not_mem_branchTokens newline_not_mem_phraseTokens _
  | alternatives choices =>
      simpa [tokens, alternativesTokens] using
        newline_not_mem_branchTokens newline_not_mem_templateTokens choices
  | words run => simpa [tokens, wordsTokens] using newline_not_mem_templateTokens run

end Fragment

namespace Template

variable {vocabulary : Vocabulary} {template : Text} {matcher : Matcher}

/-- The pattern of a compiled matcher is the text that the fragments of its template
give together, with an optional group in place of every pair of braces that no
backslash stands in front of. -/
theorem pattern_eq_rewriteOptional (h : compile vocabulary template = .ok matcher) :
    matcher.pattern =
      rewriteOptional
        ((fragments template).flatMap (Fragment.patternText vocabulary)) := by
  obtain ⟨draft, hholds, rfl⟩ := exists_draft_of_compile h
  have hnewline : .char '\n' ∉ draft.tokens := by
    rw [hholds.tokens]
    intro hmem
    obtain ⟨fragment, _, hin⟩ := List.mem_flatMap.mp hmem
    exact fragment.newline_not_mem_tokens vocabulary hin
  have htext : textOf draft.tokens =
      (fragments template).flatMap (Fragment.patternText vocabulary) := by
    rw [hholds.tokens, textOf, List.flatMap_assoc]
    congr 1
    funext fragment
    exact fragment.textOf_tokens vocabulary
  rw [Draft.finish, ← rewriteOptional_textOf hnewline, htext]

end Template

end UtteranceTemplate
