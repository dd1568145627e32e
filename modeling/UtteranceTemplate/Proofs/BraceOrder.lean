import UtteranceTemplate.Proofs.LocalBraces
import UtteranceTemplate.Proofs.Seams

/-!
The braces of a template and those of its tokens are the same, in the same order.

Names and brackets hold no braces, phrases hold none that are bare, and neither
single spacing nor trimming nor cutting at bars drops or moves one
(`Fragment.filter_isBrace_tokens`). So the tokens of a template whose last
brace is not an opening one are closed (`Template.ReadsAs.closed`).
-/

namespace UtteranceTemplate

open Pattern Token Text

theorem not_isBrace_of_isWordChar {c : CodePoint} (h : isWordChar c = true) :
    isBrace c = false := by
  by_contra hbrace
  simp only [isBrace, Bool.not_eq_false, Bool.or_eq_true, beq_iff_eq] at hbrace
  rcases hbrace with rfl | rfl
  · exact absurd h (by decide)
  · exact absurd h (by decide)

namespace Fragment

theorem IsPadded.filter_isBrace {name text : Text} (h : IsPadded name text) :
    text.filter UtteranceTemplate.isBrace = [] := by
  obtain ⟨_, hname, before, after, hbefore, hafter, rfl⟩ := h
  have hletters : name.filter UtteranceTemplate.isBrace = [] := by
    rw [List.filter_eq_nil_iff]
    intro c hc
    simp [not_isBrace_of_isWordChar (hname c hc)]
  rw [List.filter_append, List.filter_append, hletters,
    filter_eq_nil_of_isGap not_isBrace_of_isBlank hbefore,
    filter_eq_nil_of_isGap not_isBrace_of_isBlank hafter]
  rfl

theorem filter_isBrace_flatten_cutAt (text : Text) :
    (cutAt '|' text).flatten.filter UtteranceTemplate.isBrace =
      text.filter UtteranceTemplate.isBrace := by
  have hbar : (['|'] : Text).filter UtteranceTemplate.isBrace = [] := rfl
  have hjoin := filter_joinWith UtteranceTemplate.isBrace hbar (cutAt '|' text)
  rw [joinWith_cutAt] at hjoin
  exact hjoin.symm

theorem filter_isBrace_choicesOf (interior : Text) :
    ((choicesOf interior).flatten).filter UtteranceTemplate.isBrace =
      interior.filter UtteranceTemplate.isBrace := by
  calc ((choicesOf interior).flatten).filter UtteranceTemplate.isBrace
    _ = ((cutAt '|' interior).map
      (List.filter UtteranceTemplate.isBrace)).flatten := by
        rw [choicesOf, List.filter_flatten, List.map_map]
        congr 1
        apply List.map_congr_left
        intro choice _
        exact filter_trim not_isBrace_of_isBlank choice
    _ = (cutAt '|' interior).flatten.filter UtteranceTemplate.isBrace := by
      rw [List.filter_flatten]
    _ = interior.filter UtteranceTemplate.isBrace :=
      filter_isBrace_flatten_cutAt interior

theorem filter_isBrace_branchTokens (choices : List Text) :
    (branchTokens templateTokens choices).filter Token.isBrace =
      (choices.flatten.filter UtteranceTemplate.isBrace).map templateToken := by
  have hbar : [Token.bar].filter Token.isBrace = [] := rfl
  rw [branchTokens, filter_joinWith Token.isBrace hbar, List.filter_flatten,
    List.filter_flatten, List.map_flatten, List.map_map, List.map_map]
  congr 1
  apply List.map_congr_left
  intro choice _
  by_cases hnil : choice = []
  · subst hnil
    rfl
  · have hne : choice.isEmpty = false := by simpa using hnil
    simp only [Function.comp_apply, hne]
    exact filter_isBrace_templateTokens choice

theorem filter_isBrace_eq_nil {tokens : List Token} (hleft : .leftBrace ∉ tokens)
    (hright : .rightBrace ∉ tokens) : tokens.filter Token.isBrace = [] := by
  rw [List.filter_eq_nil_iff]
  intro token htoken hbrace
  cases token with
  | leftBrace => exact hleft htoken
  | rightBrace => exact hright htoken
  | char | openCapture | openGroup | close | bar | optional | anyText => cases hbrace

/-- The braces of the texts of a fragment are those of its source. -/
theorem IsSource.filter_isBrace_bracedTexts {fragment : Fragment} {source : Text}
    (h : fragment.IsSource source) :
    fragment.bracedTexts.flatten.filter UtteranceTemplate.isBrace =
      source.filter UtteranceTemplate.isBrace := by
  cases h with
  | parameter hname hvalue =>
      simp [List.filter_append, hname.filter_isBrace,
        hvalue.filter_isBrace, bracedTexts, UtteranceTemplate.isBrace]
  | untypedSlot hname =>
      simp [List.filter_append, hname.filter_isBrace, bracedTexts,
        UtteranceTemplate.isBrace]
  | typedSlot hname htype =>
      simp [List.filter_append, hname.filter_isBrace,
        htype.filter_isBrace, bracedTexts, UtteranceTemplate.isBrace]
  | @alternatives interior hne hclose =>
      simp [List.filter_append, bracedTexts, ← filter_isBrace_choicesOf interior,
        UtteranceTemplate.isBrace]
  | words hne hopen => simp [bracedTexts]

/-- The bare braces among the tokens of a fragment are those of its texts. -/
theorem filter_isBrace_tokens (vocabulary : Vocabulary) (fragment : Fragment) :
    (fragment.tokens vocabulary).filter Token.isBrace =
      (fragment.bracedTexts.flatten.filter UtteranceTemplate.isBrace).map
        templateToken := by
  cases fragment with
  | parameter name value => rfl
  | untypedSlot name => rfl
  | typedSlot name type =>
      obtain ⟨hnoLeft, hnoRight⟩ :=
        (fillsCapture_captureTokens vocabulary (some type)).brace_not_mem
      have hnone := filter_isBrace_eq_nil hnoLeft hnoRight
      rw [captureTokens] at hnone
      simp [List.filter_append, tokens, typedTokens, hnone, bracedTexts,
        Token.isBrace]
  | alternatives choices =>
      have hchoices := filter_isBrace_branchTokens choices
      simp [List.filter_append, tokens, alternativesTokens, hchoices, bracedTexts,
        Token.isBrace]
  | words run =>
      have hrun := filter_isBrace_templateTokens run
      simpa [tokens, wordsTokens, bracedTexts, Token.isBrace] using hrun

end Fragment

theorem endsOpen_eq_false {text : Text} (h : text.filter isBrace = []) :
    endsOpen text = false := by
  unfold isBrace at h
  simp [endsOpen, h]

theorem bracesAreLocal_of_endsOpen_eq_false {texts : List Text}
    (h : ∀ text ∈ texts, endsOpen text = false) : BracesAreLocal texts := by
  apply List.pairwise_of_forall_mem_list
  intro text htext later _ hopen
  rw [h text htext] at hopen
  cases hopen

namespace Template

variable {text : Text} {parts : List (Text × Fragment)}

def bracedTextsOf (parts : List (Text × Fragment)) : List Text :=
  parts.flatMap fun part => part.2.bracedTexts

theorem bracedTextsOf_cons (part : Text × Fragment)
    (parts : List (Text × Fragment)) :
    bracedTextsOf (part :: parts) = part.2.bracedTexts ++ bracedTextsOf parts :=
  List.flatMap_cons

/-- The braces of a template that is read to its end are those of the texts
of its fragments. -/
theorem ReadsAs.filter_isBrace_bracedTextsOf (h : ReadsAs text parts []) :
    (bracedTextsOf parts).flatten.filter UtteranceTemplate.isBrace =
      text.filter UtteranceTemplate.isBrace := by
  generalize hend : ([] : Text) = nothing at h
  induction h with
  | stop hgap _ _ =>
      rw [← hend, List.append_nil, filter_eq_nil_of_isGap
        not_isBrace_of_isBlank hgap]
      rfl
  | part hgap _ hsource _ _ ih =>
      rw [bracedTextsOf_cons, List.flatten_append, List.filter_append, ih hend,
        hsource.filter_isBrace_bracedTexts, List.filter_append,
        filter_eq_nil_of_isGap not_isBrace_of_isBlank hgap, List.nil_append,
          List.filter_append]

theorem filter_isBrace_tokensOf (vocabulary : Vocabulary)
    (parts : List (Text × Fragment)) :
    (tokensOf vocabulary parts).filter Token.isBrace =
      ((bracedTextsOf parts).flatten.filter UtteranceTemplate.isBrace).map
        Fragment.templateToken := by
  induction parts with
  | nil => rfl
  | cons part parts ih =>
      rw [tokensOf_cons, List.filter_append, ih, Fragment.filter_isBrace_tokens,
        bracedTextsOf_cons, List.flatten_append, List.filter_append, List.map_append]

/-- The bare braces of a template that is read to its end are those of its tokens. -/
theorem ReadsAs.filter_isBrace (h : ReadsAs text parts [])
    (vocabulary : Vocabulary) :
    (tokensOf vocabulary parts).filter Token.isBrace =
      (text.filter UtteranceTemplate.isBrace).map Fragment.templateToken := by
  rw [filter_isBrace_tokensOf, h.filter_isBrace_bracedTextsOf]

theorem ReadsAs.closed (h : ReadsAs text parts []) (hopen : endsOpen text = false)
    (vocabulary : Vocabulary) : Closed (tokensOf vocabulary parts) :=
  Fragment.closed_of_filter_isBrace (h.filter_isBrace vocabulary) hopen

/-- A template without braces has none in the texts of its fragments. -/
theorem ReadsAs.filter_isBrace_eq_nil (h : ReadsAs text parts [])
    (hfree : text.filter UtteranceTemplate.isBrace = []) :
    ∀ braced ∈ bracedTextsOf parts,
      braced.filter UtteranceTemplate.isBrace = [] := by
  have hflatten := h.filter_isBrace_bracedTextsOf
  rw [hfree, List.filter_flatten, List.flatten_eq_nil_iff] at hflatten
  intro braced hbraced
  exact hflatten _ (List.mem_map_of_mem hbraced)

def itemsOf (vocabulary : Vocabulary) (parts : List (Text × Fragment)) :
    List Pattern :=
  parts.flatMap fun part => part.2.items vocabulary

/-- The tokens of fragments whose braces are local add the items of the fragments. -/
theorem adds_resolveBraces_tokensOf (vocabulary : Vocabulary)
    (h : ∀ braced ∈ bracedTextsOf parts, endsOpen braced = false) :
    Adds (resolveBraces (tokensOf vocabulary parts)) (itemsOf vocabulary parts) := by
  have hlocal :
      BracesAreLocal ((parts.map Prod.snd).flatMap Fragment.bracedTexts) := by
    rw [List.flatMap_map]
    exact bracesAreLocal_of_endsOpen_eq_false h
  have hadds := Fragment.adds_flatMap_resolvedTokens vocabulary (parts.map Prod.snd)
  rw [← Fragment.resolveBraces_flatMap_tokens vocabulary hlocal, List.flatMap_map,
    List.flatMap_map] at hadds
  exact hadds

/-- Fragments without braces add their items as they stand. -/
theorem adds_tokensOf (vocabulary : Vocabulary)
    (h : ∀ braced ∈ bracedTextsOf parts,
      braced.filter UtteranceTemplate.isBrace = []) :
    Adds (tokensOf vocabulary parts) (itemsOf vocabulary parts) := by
  have hflatten :
      (bracedTextsOf parts).flatten.filter UtteranceTemplate.isBrace = [] := by
    rw [List.filter_flatten, List.flatten_eq_nil_iff]
    intro row hrow
    obtain ⟨braced, hbraced, rfl⟩ := List.mem_map.mp hrow
    exact h braced hbraced
  have hnone := filter_isBrace_tokensOf vocabulary parts
  rw [hflatten, List.map_nil, List.filter_eq_nil_iff] at hnone
  have hright : Token.rightBrace ∉ tokensOf vocabulary parts :=
    fun hmem => hnone _ hmem rfl
  have hadds := adds_resolveBraces_tokensOf vocabulary fun braced hbraced =>
    endsOpen_eq_false (h braced hbraced)
  rw [resolveBraces, resolveFrom_false_of_not_mem hright] at hadds
  exact hadds

end Template

end UtteranceTemplate
