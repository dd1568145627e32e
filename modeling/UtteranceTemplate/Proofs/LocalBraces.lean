import UtteranceTemplate.Proofs.FragmentReading

/-!
Templates whose braces are local: each pair lies within one run of words or
one alternative.

Resolving the braces of such a template is resolving those of its texts one by one
(`Fragment.resolveBraces_flatMap_tokens`), so its pattern is the items of its
fragments one behind the other (`Draft.Holds.read_pattern`).
-/

namespace UtteranceTemplate

open Pattern Token

def isBrace (c : CodePoint) : Bool := c == '{' || c == '}'

theorem not_isBrace_of_isBlank (c : CodePoint) (hblank : isBlank c = true) :
    isBrace c = false := by
  by_contra hbrace
  simp only [isBrace, Bool.not_eq_false, Bool.or_eq_true, beq_iff_eq] at hbrace
  rcases hbrace with rfl | rfl <;> exact absurd hblank (by decide)

theorem filter_isBrace_singleSpaced (text : Text) :
    text.singleSpaced.filter isBrace = text.filter isBrace :=
  Text.filter_singleSpaced isBrace not_isBrace_of_isBlank text

theorem closingBrace_mem_of_mem_singleSpaced {text : Text}
    (h : .char '}' ∈ text.singleSpaced) :
    .char '}' ∈ text :=
  ((Text.mem_of_mem_singleSpaced h).resolve_left (by decide)).1

namespace Pattern.Token

/-- Whether a token is a bare brace. -/
def isBrace : Token → Bool
  | .leftBrace | .rightBrace => true
  | _ => false

end Pattern.Token

namespace Fragment

theorem isBrace_templateToken (c : CodePoint) :
    Token.isBrace (templateToken c) = UtteranceTemplate.isBrace c := by
  unfold templateToken UtteranceTemplate.isBrace
  split
  · simp_all [Token.isBrace]
  · split
    · simp_all [Token.isBrace]
    · simp_all [Token.isBrace]

theorem filter_isBrace_map_templateToken (text : Text) :
    (text.map templateToken).filter Token.isBrace =
      (text.filter UtteranceTemplate.isBrace).map templateToken := by
  rw [List.filter_map]
  congr 1
  apply List.filter_congr
  intro c _
  exact isBrace_templateToken c

theorem filter_isBrace_templateTokens (text : Text) :
    (templateTokens text).filter Token.isBrace =
      (text.filter UtteranceTemplate.isBrace).map templateToken := by
  rw [templateTokens, filter_isBrace_map_templateToken, filter_isBrace_singleSpaced]

/-- Tokens with the braces of a text whose last brace is not an opening one
are closed. -/
theorem closed_of_filter_isBrace {tokens : List Token} {text : Text}
    (hbraces : tokens.filter Token.isBrace =
      (text.filter UtteranceTemplate.isBrace).map templateToken)
    (h : endsOpen text = false) : Closed tokens := by
  rintro before after rfl
  by_contra hnone
  -- all braces behind an opening brace without a closing one are opening ones
  have hopening : ∀ token ∈ after.filter Token.isBrace, token = .leftBrace := by
    intro token htoken
    obtain ⟨hmem, hbrace⟩ := List.mem_filter.mp htoken
    cases token with
    | leftBrace => rfl
    | rightBrace => exact absurd hmem hnone
    | char | openCapture | openGroup | close | bar | optional | anyText =>
        cases hbrace
  have hlast : ((before ++ .leftBrace :: after).filter Token.isBrace).getLast? =
      some .leftBrace := by
    have hsplit : (before ++ .leftBrace :: after).filter Token.isBrace =
        before.filter Token.isBrace ++ .leftBrace :: after.filter Token.isBrace := by
      rw [List.filter_append]
      rfl
    rw [hsplit, List.getLast?_append, List.getLast?_cons]
    cases hfound : (after.filter Token.isBrace).getLast? with
    | none => rfl
    | some token => rw [hopening token (List.mem_of_getLast? hfound)]; rfl
  rw [hbraces, List.getLast?_map] at hlast
  obtain ⟨c, hc, htoken⟩ := Option.map_eq_some_iff.mp hlast
  rw [eq_of_templateToken_eq_leftBrace htoken] at hc
  have hends : endsOpen text = true := beq_iff_eq.mpr hc
  rw [hends] at h
  cases h

/-- Behind every opening brace of a text stands a closing one if the last brace is
not an opening one. -/
theorem closed_templateTokens {text : Text} (h : endsOpen text = false) :
    Closed (templateTokens text) :=
  closed_of_filter_isBrace (filter_isBrace_templateTokens text) h

theorem closed_cons {token : Token} {tokens : List Token}
    (htoken : token ≠ .leftBrace) (h : Closed tokens) :
    Closed (token :: tokens) := by
  intro before after hsplit
  cases before with
  | nil => exact absurd (List.cons.inj hsplit).1 htoken
  | cons first before => exact h before after (List.cons.inj hsplit).2

/-- Where no closing brace follows, resolving the braces of a row leaves what
follows as it is. -/
theorem resolveFrom_append_of_rightBrace_not_mem {rest : List Token}
    (hrest : .rightBrace ∉ rest) (inside : Bool) {tokens : List Token}
    (hinside : inside = true → .rightBrace ∈ tokens) :
    resolveFrom inside (tokens ++ rest) = resolveFrom inside tokens ++ rest := by
  induction tokens generalizing inside with
  | nil =>
      cases inside with
      | true => simp at hinside
      | false => simpa [resolveFrom] using resolveFrom_false_of_not_mem hrest
  | cons token tokens ih =>
      have hfalse := ih false (by simp)
      cases inside with
      | true =>
          by_cases hright : token = .rightBrace
          · subst hright
            simp [resolveFrom, hfalse]
          · have hmem : .rightBrace ∈ tokens :=
              (List.mem_cons.mp (hinside rfl)).resolve_left (Ne.symm hright)
            have htrue := ih true fun _ => hmem
            cases token <;> simp_all [resolveFrom]
      | false =>
          by_cases hleft : token = .leftBrace
          · subst hleft
            by_cases hmem : .rightBrace ∈ tokens
            · have htrue := ih true fun _ => hmem
              simp [resolveFrom, hmem, htrue]
            · simp [resolveFrom, hmem, hrest, hfalse]
          · rw [List.cons_append, resolveFrom_false_cons fun heq => absurd heq hleft,
              resolveFrom_false_cons fun heq => absurd heq hleft, hfalse,
                List.cons_append]

theorem resolveBraces_spaced_append {text : Text} {rest : List Token}
    (h : endsOpen text = true → .rightBrace ∉ rest) :
    resolveBraces ((.char ' ' :: templateTokens text) ++ rest) =
      resolveBraces (.char ' ' :: templateTokens text) ++ resolveBraces rest := by
  by_cases hopen : endsOpen text = true
  · have hrest := h hopen
    rw [resolveBraces, resolveFrom_append_of_rightBrace_not_mem hrest
      false (by simp)]
    rw [resolveBraces, resolveBraces, resolveFrom_false_of_not_mem hrest]
  · have hclosed := closed_templateTokens (Bool.eq_false_iff.mpr hopen)
    exact resolveBraces_append_of_closed _ _ (closed_cons (by simp) hclosed)

theorem resolveBraces_rowTokens_append {text : Text} {rest : List Token}
    (h : endsOpen text = true → .rightBrace ∉ rest) :
    resolveBraces (rowTokens templateTokens text ++ rest) =
      resolveBraces (rowTokens templateTokens text) ++ resolveBraces rest := by
  unfold rowTokens
  split
  · rfl
  · exact resolveBraces_spaced_append h

theorem closingBrace_mem_of_rightBrace_mem {text : Text}
    (h : .rightBrace ∈ rowTokens templateTokens text) : .char '}' ∈ text := by
  unfold rowTokens at h
  split at h
  · cases h
  · have hmem : .rightBrace ∈ templateTokens text := by simpa using h
    exact closingBrace_mem_of_mem_singleSpaced
      (rightBrace_mem_map_templateToken.mp hmem)

/-- The braces of alternatives are resolved one alternative at a time. -/
theorem resolveBraces_joinWith_append {texts : List Text} {rest : List Token}
    (h : BracesAreLocal texts)
    (hrest : ∀ text ∈ texts, endsOpen text = true → .rightBrace ∉ rest) :
    resolveBraces (joinWith [.bar] (texts.map (rowTokens templateTokens)) ++ rest) =
      joinWith [.bar]
        (texts.map fun text => resolveBraces (rowTokens templateTokens text)) ++
        resolveBraces rest := by
  induction texts with
  | nil => rfl
  | cons text texts ih =>
      obtain ⟨hlater, hlocal⟩ := List.pairwise_cons.mp h
      have hrests :=
        ih hlocal fun other hother => hrest other (List.mem_cons_of_mem _ hother)
      cases texts with
      | nil => exact resolveBraces_rowTokens_append (hrest text List.mem_cons_self)
      | cons next texts =>
          have hfollowing : endsOpen text = true → .rightBrace ∉
              Token.bar ::
                (joinWith [.bar] ((next :: texts).map (rowTokens templateTokens)) ++
                rest) := by
            intro hopen hmem
            rcases List.mem_append.mp
              ((List.mem_cons.mp hmem).resolve_left (by simp)) with
              hmem | hmem
            · rcases mem_joinWith hmem with hbar | ⟨row, hrow, hright⟩
              · simp at hbar
              · obtain ⟨other, hother, rfl⟩ := List.mem_map.mp hrow
                exact hlater other hother hopen
                  (closingBrace_mem_of_rightBrace_mem hright)
            · exact hrest text List.mem_cons_self hopen hmem
          have hbar : ∀ more,
              resolveBraces (.bar :: more) = .bar :: resolveBraces more :=
            fun more => resolveFrom_false_cons (by simp)
          simp only [List.map_cons] at hrests hfollowing ⊢
          simp only [joinWith, List.append_assoc, List.cons_append, List.nil_append]
          rw [resolveBraces_rowTokens_append hfollowing, hbar, hrests]

theorem rightBrace_mem_tokens {vocabulary : Vocabulary} {fragment : Fragment}
    (h : .rightBrace ∈ fragment.tokens vocabulary) :
    ∃ text ∈ fragment.bracedTexts, .char '}' ∈ text := by
  cases fragment with
  | parameter name value => simp [tokens] at h
  | untypedSlot name => simp [tokens, untypedTokens] at h
  | typedSlot name type =>
      have hnot :=
        (fillsCapture_captureTokens vocabulary (some type)).brace_not_mem.2
      simp only [tokens, typedTokens, List.cons_append, List.mem_cons,
        List.mem_append] at h
      rcases h with h | h | h
      · cases h
      · exact absurd h hnot
      · simp at h
  | alternatives choices =>
      simp only [tokens, alternativesTokens, List.cons_append, List.mem_cons,
        List.mem_append] at h
      rcases h with h | h | h
      · cases h
      · rcases mem_joinWith h with hbar | ⟨row, hrow, hright⟩
        · simp at hbar
        · obtain ⟨text, htext, rfl⟩ := List.mem_map.mp hrow
          exact ⟨text, htext, closingBrace_mem_of_rightBrace_mem hright⟩
      · simp at h
  | words run =>
      have hmem : .rightBrace ∈ templateTokens run := by
        simpa [tokens, wordsTokens] using h
      exact ⟨run, List.mem_cons_self,
        closingBrace_mem_of_mem_singleSpaced
          (rightBrace_mem_map_templateToken.mp hmem)⟩

theorem resolveBraces_tokens_append (vocabulary : Vocabulary) {fragment : Fragment}
    {rest : List Token} (h : BracesAreLocal fragment.bracedTexts)
    (hrest : ∀ text ∈ fragment.bracedTexts, endsOpen text = true →
      .rightBrace ∉ rest) :
    resolveBraces (fragment.tokens vocabulary ++ rest) =
      fragment.resolvedTokens vocabulary ++ resolveBraces rest := by
  cases fragment with
  | parameter name value => rfl
  | untypedSlot name => rfl
  | typedSlot name type =>
      obtain ⟨hleft, hright⟩ :=
        (fillsCapture_captureTokens vocabulary (some type)).brace_not_mem
      apply resolveFrom_append_of_not_mem false
      · simpa [tokens, typedTokens, captureTokens] using hleft
      · simpa [tokens, typedTokens, captureTokens] using hright
  | alternatives choices =>
      have hclose : ∀ more,
          resolveBraces (.close :: more) = .close :: resolveBraces more :=
        fun more => resolveFrom_false_cons (by simp)
      have hopening : ∀ more,
          resolveBraces (.openGroup :: more) = .openGroup :: resolveBraces more :=
        fun more => resolveFrom_false_cons (by simp)
      have hchoices := @resolveBraces_joinWith_append choices (.close :: rest) h
          fun text htext hopen =>
        by simpa using hrest text htext hopen
      have htokens : (alternatives choices).tokens vocabulary ++ rest =
          .openGroup :: (joinWith [.bar] (choices.map (rowTokens templateTokens)) ++
            .close :: rest) := by
        have hbranches : branchTokens templateTokens choices =
            joinWith [.bar] (choices.map (rowTokens templateTokens)) := rfl
        simp [tokens, alternativesTokens, hbranches]
      rw [htokens, hopening, hchoices, hclose]
      simp [resolvedTokens]
  | words run => exact resolveBraces_spaced_append (hrest run List.mem_cons_self)

/-- If the braces of a row of fragments are local, they are resolved one text
at a time. -/
theorem resolveBraces_flatMap_tokens (vocabulary : Vocabulary)
    {fragments : List Fragment}
    (h : BracesAreLocal (fragments.flatMap bracedTexts)) :
    resolveBraces (fragments.flatMap (tokens vocabulary)) =
      fragments.flatMap (resolvedTokens vocabulary) := by
  induction fragments with
  | nil => rfl
  | cons fragment fragments ih =>
      rw [List.flatMap_cons] at h
      obtain ⟨hfirst, hothers, hlater⟩ := List.pairwise_append.mp h
      rw [List.flatMap_cons, resolveBraces_tokens_append vocabulary hfirst,
        ih hothers, List.flatMap_cons]
      intro text htext hopen hmem
      obtain ⟨other, hother, hright⟩ := List.mem_flatMap.mp hmem
      obtain ⟨closing, hclosing, hbrace⟩ := rightBrace_mem_tokens hright
      exact hlater text htext closing
        (List.mem_flatMap.mpr ⟨other, hother, hclosing⟩) hopen hbrace

theorem adds_flatMap_resolvedTokens (vocabulary : Vocabulary)
    (fragments : List Fragment) :
    Adds (fragments.flatMap (resolvedTokens vocabulary))
      (fragments.flatMap (items vocabulary)) := by
  induction fragments with
  | nil => exact Adds.nil
  | cons fragment fragments ih =>
      exact (adds_resolvedTokens vocabulary fragment).append ih

end Fragment

/-- The pattern of a template whose braces are local reads as the items of its
fragments, one behind the other. -/
theorem Draft.Holds.read_pattern {vocabulary : Vocabulary}
    {fragments : List Fragment} {draft : Draft}
    (h : draft.Holds vocabulary fragments)
    (hlocal : BracesAreLocal (fragments.flatMap Fragment.bracedTexts))
    (template : Text) :
    Pattern.read (draft.finish template).pattern =
      .ok (seq ((fragments.flatMap (Fragment.items vocabulary)).flatMap
        Pattern.items)) := by
  have hlegible := h.grouped.legible (Draft.uncounted_resolveBraces draft)
  have hadds := Fragment.adds_flatMap_resolvedTokens vocabulary fragments .start
  rw [← Fragment.resolveBraces_flatMap_tokens vocabulary hlocal, ← h.tokens] at hadds
  have hread := (read_textOf hlegible).trans hadds.ofTokens?
  rw [Branches.pattern, Branches.branch_pushAll_of_items_eq_nil rfl] at hread
  exact hread

end UtteranceTemplate
