import UtteranceTemplate.Proofs.JsonTexts
import UtteranceTemplate.Proofs.MatchLines

/-!
Which code points stand next to each other in a compiled matcher.

A pattern takes the words of the template and of the phrases over as they are and
puts ASCII around them. So where the template and the phrases hold no two halves of a
pair next to each other, the pattern holds none (`Template.isUnpaired_pattern`).
Names and bound values consist of word characters, of which none is a half
(`isHalf_eq_false_of_isWordChar`).
-/

namespace UtteranceTemplate

open Pattern

/-- Whether no phrase holds the two halves of a pair next to each other. -/
def Vocabulary.IsUnpaired (vocabulary : Vocabulary) : Prop :=
  ∀ type phrases, vocabulary.lookup? type = some phrases →
    ∀ phrase ∈ phrases, Json.IsUnpaired phrase

namespace Json

theorem IsUnpaired.trim {text : Text}
    (h : IsUnpaired text) : IsUnpaired text.trim := by
  rw [← Text.takeWhile_append_trimStart text] at h
  obtain ⟨gap, _, hgap⟩ := text.trimStart.exists_gap_of_trimEnd
  rw [hgap] at h
  exact h.of_append_right.of_append_left

/-- Single spacing drops blanks and puts spaces in, so it brings no halves
together. -/
theorem IsUnpaired.singleSpaced {text : Text} (h : IsUnpaired text) :
    IsUnpaired text.singleSpaced := by
  induction text with
  | nil => exact h
  | cons c rest ih =>
      obtain ⟨hnext, hrest⟩ := List.isChain_cons.mp h
      cases hc : isBlank c with
      | true =>
          rw [Text.singleSpaced_blank_cons hc]
          exact ih hrest
      | false =>
          cases hbegins : Text.beginsInWord rest with
          | true =>
              rw [Text.singleSpaced_letter_cons hc hbegins]
              exact List.IsChain.cons (ih hrest)
                (Text.head?_singleSpaced_of_beginsInWord hbegins ▸ hnext)
          | false =>
              by_cases hnil : Text.words rest = []
              · rw [Text.singleSpaced, Text.words_letter_cons hc, hnil, hbegins]
                exact List.isChain_singleton c
              · rw [Text.singleSpaced_letter_cons_of_not hc hbegins hnil]
                exact List.IsChain.cons ((ih hrest).cons rfl) fun d hd =>
                  pairOf?_of_right c (Option.some.inj hd ▸ rfl)

theorem isUnpaired_of_isWordChar {text : Text}
    (h : ∀ c ∈ text, isWordChar c = true) :
    IsUnpaired text :=
  isUnpaired_of_forall fun c hc => isHalf_eq_false_of_isWordChar (h c hc)

end Json

namespace Pattern.Token

/-- The code point that a token stands for, or a space where it stands for none. -/
def letter : Token → CodePoint
  | .char c => c
  | _ => ' '

/-- Whether tokens do not bring the two halves of a pair together. -/
def IsUnpaired (tokens : List Token) : Prop := Json.IsUnpaired (tokens.map letter)

variable {tokens : List Token}

theorem isHalf_eq_false_or_eq_letter {token : Token} {c : CodePoint}
    (h : c ∈ token.text) :
    c.isHalf = false ∨ c = token.letter := by
  cases token with
  | char d =>
      -- a backslash may stand in front, which is no half
      have hmem : c = '\\' ∨ c = d := by
        rw [text] at h
        split at h
        · simpa using h
        · exact Or.inr (List.mem_singleton.mp h)
      rcases hmem with rfl | rfl
      · exact Or.inl rfl
      · exact Or.inr rfl
  | _ =>
      left
      revert c
      simp [text]

theorem isUnpaired_text (token : Token) : Json.IsUnpaired token.text := by
  cases token with
  | char c =>
      rw [text]
      split
      · exact Json.IsUnpaired.cons (List.isChain_singleton c) rfl
      · exact List.isChain_singleton c
  | _ => exact Json.isUnpaired_of_forall (by simp [text])

theorem text_ne_nil (token : Token) : token.text ≠ [] := by
  cases token with
  | char c =>
      rw [text]
      split <;> simp
  | _ => simp [text]

/-- What is written holds a pair only where two tokens make one. -/
theorem IsUnpaired.textOf (h : IsUnpaired tokens) :
    Json.IsUnpaired (textOf tokens) := by
  induction tokens with
  | nil => exact List.isChain_nil
  | cons token rest ih =>
      obtain ⟨hnext, hrest⟩ := List.isChain_cons.mp h
      rw [textOf_cons]
      refine List.IsChain.append (isUnpaired_text token) (ih hrest)
        fun c hc d hd => ?_
      rcases isHalf_eq_false_or_eq_letter (List.mem_of_getLast? hc) with hc | rfl
      · exact Json.pairOf?_of_left hc d
      · cases rest with
        | nil => cases hd
        | cons next rest =>
            rw [textOf_cons, List.head?_append_of_ne_nil _ (text_ne_nil next)] at hd
            rcases isHalf_eq_false_or_eq_letter (List.mem_of_head? hd) with hd | rfl
            · exact Json.pairOf?_of_right _ hd
            · exact hnext _ rfl

/-- What resolving braces begins with stands for no half, or stood in front
already. -/
theorem isHalf_letter_or_head?_resolveFrom {inside : Bool} {token : Token}
    (h : token ∈ (resolveFrom inside tokens).head?) :
    token.letter.isHalf = false ∨ tokens.head? = some token := by
  revert h
  fun_cases resolveFrom inside tokens with
  | case1 => exact nofun
  | case2 | case4 => exact fun h => Or.inl (Option.some.inj h ▸ rfl)
  | case3 | case5 | case6 => exact Or.inr

theorem IsUnpaired.resolveFrom (inside : Bool) (h : IsUnpaired tokens) :
    IsUnpaired (resolveFrom inside tokens) := by
  have hkeep : ∀ {token : Token} {rest : List Token} (inside : Bool),
      IsUnpaired (token :: rest) → IsUnpaired (Token.resolveFrom inside rest) →
        IsUnpaired (token :: Token.resolveFrom inside rest) := by
    intro token rest inside hcons hrest
    refine List.IsChain.cons hrest fun d hd => ?_
    obtain ⟨next, hnext, rfl⟩ := Option.map_eq_some_iff.mp (List.head?_map ▸ hd)
    rcases isHalf_letter_or_head?_resolveFrom hnext with hhalf | hhead
    · exact Json.pairOf?_of_right _ hhalf
    · exact (List.isChain_cons.mp hcons).1 _ (by rw [List.head?_map, hhead]; rfl)
  fun_induction Token.resolveFrom inside tokens with
  | case1 => exact h
  | case2 rest ih => exact ((ih h.tail).cons rfl).cons rfl
  | case3 token rest _ ih => exact hkeep true h (ih h.tail)
  | case4 _ rest _ _ ih => exact (ih h.tail).cons rfl
  | case5 _ rest _ _ ih => exact hkeep false h (ih h.tail)
  | case6 _ token rest _ _ ih => exact hkeep false h (ih h.tail)

end Pattern.Token

namespace Fragment

open Pattern.Token

variable {vocabulary : Vocabulary} {text source : Text} {texts : List Text}
  {fragment : Fragment}

theorem isUnpaired_phraseTokens (h : Json.IsUnpaired text) :
    Token.IsUnpaired (phraseTokens text) := by
  rw [Token.IsUnpaired, phraseTokens, List.map_map]
  exact (List.map_id text.singleSpaced).symm ▸ h.singleSpaced

theorem isUnpaired_templateTokens (h : Json.IsUnpaired text) :
    Token.IsUnpaired (templateTokens text) := by
  have hletter : ∀ c, (templateToken c).letter = c ∨
      (templateToken c).letter = ' ' := by
    intro c
    unfold templateToken
    split
    · exact Or.inr rfl
    · split
      · exact Or.inr rfl
      · exact Or.inl rfl
  rw [Token.IsUnpaired, templateTokens, List.map_map]
  refine List.isChain_map_of_isChain _ (fun c d hpair => ?_) h.singleSpaced
  rcases hletter c with hc | hc
  · rcases hletter d with hd | hd
    · simpa only [Function.comp_apply, hc, hd] using hpair
    · exact Json.pairOf?_of_right _ (by rw [Function.comp_apply, hd]; rfl)
  · exact Json.pairOf?_of_left (by rw [Function.comp_apply, hc]; rfl) _

theorem map_letter_joinWith (rows : List (List Token)) :
    (joinWith [.bar] rows).map letter =
      joinWith [.char ' '] (rows.map (·.map letter)) := by
  fun_induction joinWith [Token.bar] rows with
  | case1 => rfl
  | case2 => rfl
  | case3 row next rest ih =>
      rw [List.map_append, List.map_append, ih]
      rfl

theorem isUnpaired_branchTokens {tokensOf : Text → List Token}
    (h : ∀ text ∈ texts, Token.IsUnpaired (tokensOf text)) :
    Token.IsUnpaired (branchTokens tokensOf texts) := by
  rw [Token.IsUnpaired, branchTokens, map_letter_joinWith]
  refine Json.isUnpaired_joinWith rfl fun part hpart => ?_
  obtain ⟨row, hrow, rfl⟩ := List.mem_map.mp hpart
  obtain ⟨text, htext, rfl⟩ := List.mem_map.mp hrow
  split
  · exact List.isChain_nil
  · exact (h text htext).cons rfl

theorem isUnpaired_of_mem_choicesOf {interior choice : Text}
    (h : Json.IsUnpaired interior) (hchoice : choice ∈ choicesOf interior) :
    Json.IsUnpaired choice := by
  obtain ⟨piece, hpiece, rfl⟩ := List.mem_map.mp hchoice
  rw [← Text.joinWith_cutAt '|' interior] at h
  exact (Json.isUnpaired_of_mem_joinWith h hpiece).trim

/-- What stands between an opening and the closing behind it. -/
theorem isUnpaired_enclosed {opening : Token} {tokens : List Token}
    (hopening : opening.letter.isHalf = false) (h : Token.IsUnpaired tokens) :
    Token.IsUnpaired (opening :: tokens ++ [.close]) := by
  rw [Token.IsUnpaired, List.map_append]
  exact Json.IsUnpaired.append (h.cons hopening) (List.isChain_singleton _)
    fun d hd => Option.some.inj hd ▸ rfl

/-- The tokens of a fragment bring no halves together, and begin with none. -/
theorem IsSource.isUnpaired_tokens (h : fragment.IsSource source)
    (hsource : Json.IsUnpaired source) (hvocabulary : vocabulary.IsUnpaired) :
    Token.IsUnpaired (fragment.tokens vocabulary) ∧
      ∀ token ∈ (fragment.tokens vocabulary).head?, token.letter.isHalf = false := by
  cases h with
  | parameter => exact ⟨List.isChain_nil, by simp [tokens]⟩
  | untypedSlot =>
      have hfree : ∀ c ∈ untypedTokens.map letter, c.isHalf = false := by decide
      exact ⟨Json.isUnpaired_of_forall hfree,
        fun token ht => Option.some.inj ht ▸ rfl⟩
  | @typedSlot _ type =>
      refine ⟨isUnpaired_enclosed rfl
        (isUnpaired_branchTokens fun phrase hphrase => ?_),
        fun token ht => Option.some.inj ht ▸ rfl⟩
      cases hlookup : vocabulary.lookup? type with
      | none => simp [hlookup] at hphrase
      | some phrases =>
          rw [hlookup] at hphrase
          exact isUnpaired_phraseTokens
            (hvocabulary type phrases hlookup phrase hphrase)
  | @alternatives interior =>
      refine ⟨isUnpaired_enclosed rfl
        (isUnpaired_branchTokens fun choice hchoice => ?_),
        fun token ht => Option.some.inj ht ▸ rfl⟩
      have hinterior : Json.IsUnpaired interior :=
        Json.IsUnpaired.of_append_left (List.IsChain.tail hsource)
      exact isUnpaired_templateTokens (isUnpaired_of_mem_choicesOf hinterior hchoice)
  | words =>
      exact ⟨(isUnpaired_templateTokens hsource).cons rfl,
        fun token ht => Option.some.inj ht ▸ rfl⟩

/-- The entity type of a typed slot consists of word characters. -/
theorem IsSource.isWordChar_of_type {slot type : Text} (h : fragment.IsSource source)
    (hslot : fragment.slot? = some (slot, some type)) :
    ∀ c ∈ type, UtteranceTemplate.isWordChar c = true := by
  cases h with
  | typedSlot _ htype =>
      cases hslot
      exact htype.2.1
  | parameter | untypedSlot | alternatives | words => cases hslot

end Fragment

namespace Template

variable {vocabulary : Vocabulary} {template : Text} {matcher : Matcher}

/-- The tokens of a template bring no halves together, and begin with none. -/
theorem ReadsAs.isUnpaired_tokensOf {text unread : Text}
    {parts : List (Text × Fragment)} (h : ReadsAs text parts unread)
    (htext : Json.IsUnpaired text) (hvocabulary : vocabulary.IsUnpaired) :
    Token.IsUnpaired (tokensOf vocabulary parts) ∧
      ∀ token ∈ (tokensOf vocabulary parts).head?, token.letter.isHalf = false := by
  induction h with
  | stop => exact ⟨List.isChain_nil, by simp [tokensOf]⟩
  | part _ _ hsource _ _ ih =>
      obtain ⟨hrow, hhead⟩ :=
        hsource.isUnpaired_tokens htext.of_append_right.of_append_left hvocabulary
      obtain ⟨hrest, hnext⟩ := ih htext.of_append_right.of_append_right
      rw [tokensOf, List.flatMap_cons, ← tokensOf]
      constructor
      · rw [Token.IsUnpaired, List.map_append]
        refine Json.IsUnpaired.append hrow hrest fun d hd => ?_
        obtain ⟨token, htoken, rfl⟩ :=
          Option.map_eq_some_iff.mp (List.head?_map ▸ hd)
        exact hnext token htoken
      · intro token htoken
        rw [List.head?_append, Option.mem_def, Option.or_eq_some_iff] at htoken
        rcases htoken with hfirst | ⟨_, hlater⟩
        · exact hhead token hfirst
        · exact hnext token hlater

/-- Compiling brings no halves together: not those of the template, and not those
of the phrases. -/
theorem isUnpaired_pattern (h : compile vocabulary template = .ok matcher)
    (htemplate : Json.IsUnpaired template) (hvocabulary : vocabulary.IsUnpaired) :
    Json.IsUnpaired matcher.pattern := by
  obtain ⟨hreads, _, hmade⟩ := isMadeOf_of_compile h
  rw [hmade.pattern]
  exact ((hreads.isUnpaired_tokensOf htemplate hvocabulary).1.resolveFrom
    false).textOf

theorem isWordChar_of_mem_slotTypes (h : compile vocabulary template = .ok matcher)
    {slot type : Text} (hmem : (slot, type) ∈ matcher.slotTypes) :
    (∀ c ∈ slot, isWordChar c = true) ∧ ∀ c ∈ type, isWordChar c = true := by
  obtain ⟨hreads, _, hmade⟩ := isMadeOf_of_compile h
  rw [hmade.slotTypes] at hmem
  obtain ⟨⟨_, type?⟩, hslot, htyped⟩ := List.mem_filterMap.mp hmem
  obtain ⟨_, rfl, ⟨⟩⟩ := Option.map_eq_some_iff.mp htyped
  obtain ⟨part, hpart, hname⟩ := List.mem_filterMap.mp hslot
  have hsource := hreads.isSource_of_mem hpart
  exact ⟨hsource.isWordChar.1 _ hname, hsource.isWordChar_of_type hname⟩

end Template

end UtteranceTemplate
