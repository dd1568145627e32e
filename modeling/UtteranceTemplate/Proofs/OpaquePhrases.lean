import UtteranceTemplate.Proofs.OptionalRewrite
import UtteranceTemplate.Proofs.WiderVocabularies

/-!
Phrases are opaque: nothing in a phrase opens, closes or becomes optional text, and
nothing in it is an operator.

What a template gives to a pattern apart from its slots is its frame
(`Template.frame`), which no vocabulary has a part in. A group of phrases holds no
brace as a token, so resolving braces leaves the groups as they are and comes to
resolving the frame (`Frame.resolveFrom_around`). So a finished pattern is the frame
with the groups in its places, one for each slot and in their order
(`Template.phrases_opaque`), and a group goes through the phrases of its type, letter
by letter, and nothing else (`Fragment.choosesPhrase`).
-/

namespace UtteranceTemplate

open Pattern Token

/-- What stands around the groups of slots: a row of tokens in front of the first
one, and one behind each. -/
structure Frame where
  first : List Token
  gaps : List (List Token)
  deriving DecidableEq, Repr

namespace Frame

def around (frame : Frame) (groups : List (List Token)) : List Token :=
  frame.first ++ (List.zipWith (· ++ ·) groups frame.gaps).flatten

/-- The frame that a row makes if free text marks the places of the groups. -/
def ofRow : List Token → Frame
  | [] => ⟨[], []⟩
  | token :: row =>
      if token = .anyText then ⟨[], (ofRow row).first :: (ofRow row).gaps⟩
      else ⟨token :: (ofRow row).first, (ofRow row).gaps⟩

variable {row front : List Token} {token : Token} {groups : List (List Token)}

theorem ofRow_mark (row : List Token) :
    ofRow (.anyText :: row) = ⟨[], (ofRow row).first :: (ofRow row).gaps⟩ := by
  rw [ofRow, if_pos rfl]

theorem ofRow_cons (h : token ≠ .anyText) (row : List Token) :
    ofRow (token :: row) = ⟨token :: (ofRow row).first, (ofRow row).gaps⟩ := by
  rw [ofRow, if_neg h]

theorem ofRow_append (h : .anyText ∉ front) (row : List Token) :
    ofRow (front ++ row) = ⟨front ++ (ofRow row).first, (ofRow row).gaps⟩ := by
  induction front with
  | nil => rfl
  | cons token front ih =>
      simp only [List.mem_cons, not_or] at h
      rw [List.cons_append, ofRow_cons (Ne.symm h.1), ih h.2]
      rfl

theorem around_mark (group : List Token) (groups : List (List Token))
    (row : List Token) :
    (ofRow (.anyText :: row)).around (group :: groups) =
      group ++ (ofRow row).around groups := by
  simp [ofRow_mark, around]

theorem around_cons (h : token ≠ .anyText) (row : List Token)
    (groups : List (List Token)) :
    (ofRow (token :: row)).around groups = token :: (ofRow row).around groups := by
  simp [ofRow_cons h, around]

theorem around_append (h : .anyText ∉ front) (row : List Token)
    (groups : List (List Token)) :
    (ofRow (front ++ row)).around groups = front ++ (ofRow row).around groups := by
  simp [ofRow_append h, around]

/-- A frame is made of the tokens of its row. -/
theorem mem_of_mem_ofRow
    (h : token ∈ (ofRow row).first ++ (ofRow row).gaps.flatten) :
    token ∈ row := by
  induction row with
  | nil => simp [ofRow] at h
  | cons next row ih =>
      by_cases hmark : next = .anyText
      · subst hmark
        rw [ofRow_mark] at h
        exact List.mem_cons_of_mem _ (ih (by simpa using h))
      · rw [ofRow_cons hmark] at h
        rcases List.mem_cons.mp h with rfl | h
        · exact List.mem_cons_self
        · exact List.mem_cons_of_mem _ (ih h)

/-- Resolving braces leaves the places of the groups. -/
theorem length_gaps_resolveFrom (inside : Bool) (row : List Token) :
    (ofRow (resolveFrom inside row)).gaps.length = (ofRow row).gaps.length := by
  induction row generalizing inside with
  | nil => rfl
  | cons token row ih =>
      have hfalse := ih false
      have htrue := ih true
      cases inside with
      | true => cases token <;> simp_all [resolveFrom, ofRow]
      | false =>
          by_cases hright : .rightBrace ∈ row <;> cases token <;>
            simp_all [resolveFrom, ofRow]

/-- Groups without braces bring no closing brace into a row. -/
theorem rightBrace_mem_around_iff
    (hbraces : ∀ group ∈ groups, .leftBrace ∉ group ∧ .rightBrace ∉ group)
    (hlength : groups.length = (ofRow row).gaps.length) :
    .rightBrace ∈ (ofRow row).around groups ↔ .rightBrace ∈ row := by
  induction row generalizing groups with
  | nil =>
      have hnil : groups = [] := List.length_eq_zero_iff.mp hlength
      simp [hnil, ofRow, around]
  | cons token row ih =>
      by_cases hmark : token = .anyText
      · subst hmark
        cases groups with
        | nil => simp [ofRow_mark] at hlength
        | cons group groups =>
            obtain ⟨⟨_, hright⟩, hbraces⟩ := List.forall_mem_cons.mp hbraces
            have hrest := ih hbraces (by simpa [ofRow_mark] using hlength)
            simp [around_mark, hrest, hright]
      · have hrest := ih hbraces (by simpa [ofRow_cons hmark] using hlength)
        simp [around_cons hmark, hrest]

/-- Resolving braces around groups without braces is resolving those of the frame. -/
theorem resolveFrom_around
    (hbraces : ∀ group ∈ groups, .leftBrace ∉ group ∧ .rightBrace ∉ group)
    (hlength : groups.length = (ofRow row).gaps.length) (inside : Bool) :
    resolveFrom inside ((ofRow row).around groups) =
      (ofRow (resolveFrom inside row)).around groups := by
  induction row generalizing inside groups with
  | nil =>
      have hnil : groups = [] := List.length_eq_zero_iff.mp hlength
      subst hnil
      rfl
  | cons token row ih =>
      by_cases hmark : token = .anyText
      · subst hmark
        cases groups with
        | nil => simp [ofRow_mark] at hlength
        | cons group groups =>
            obtain ⟨⟨hleft, hright⟩, hbraces⟩ := List.forall_mem_cons.mp hbraces
            have hrest := ih hbraces (by simpa [ofRow_mark] using hlength) inside
            have hstep : resolveFrom inside (.anyText :: row) =
                .anyText :: resolveFrom inside row := by
              cases inside <;> rfl
            rw [around_mark, resolveFrom_append_of_not_mem inside hleft hright,
              hrest, hstep, around_mark]
      · have hlength' : groups.length = (ofRow row).gaps.length := by
          simpa [ofRow_cons hmark] using hlength
        have hmem := rightBrace_mem_around_iff hbraces hlength'
        have hfalse := ih hbraces hlength' false
        have htrue := ih hbraces hlength' true
        rw [around_cons hmark]
        cases inside with
        | true => cases token <;> simp_all [resolveFrom, around_cons]
        | false =>
            by_cases hright : .rightBrace ∈ row <;> cases token <;>
              simp_all [resolveFrom, around_cons]

end Frame

namespace Fragment

variable {fragment : Fragment} {token : Token}

/-- What a fragment gives to the tokens of a template for every vocabulary; a mark
stands for the group of a slot. -/
def outline : Fragment → List Token
  | .parameter _ _ => []
  | .untypedSlot _ | .typedSlot _ _ => [.anyText]
  | .alternatives choices => alternativesTokens choices
  | .words run => wordsTokens run

/-- The tokens of the group of a slot, by its entity type if it has one. -/
def groupTokens (vocabulary : Vocabulary) (type : Option Text) : List Token :=
  .openCapture :: captureTokens vocabulary type ++ [.close]

theorem brace_not_mem_groupTokens (vocabulary : Vocabulary) (type : Option Text) :
    .leftBrace ∉ groupTokens vocabulary type ∧
      .rightBrace ∉ groupTokens vocabulary type := by
  obtain ⟨hleft, hright⟩ :=
    (fillsCapture_captureTokens vocabulary type).brace_not_mem
  simp [groupTokens, hleft, hright]

theorem tokens_of_slot?_eq_some (vocabulary : Vocabulary) {slot : Text × Option Text}
    (h : fragment.slot? = some slot) :
    fragment.tokens vocabulary = groupTokens vocabulary slot.2 := by
  cases fragment with
  | untypedSlot name | typedSlot name type =>
      cases h
      rfl
  | parameter name value | alternatives choices | words run => cases h

theorem outline_of_slot?_eq_some {slot : Text × Option Text}
    (h : fragment.slot? = some slot) :
    fragment.outline = [.anyText] := by
  cases fragment with
  | untypedSlot name | typedSlot name type => rfl
  | parameter name value | alternatives choices | words run => cases h

theorem tokens_of_slot?_eq_none (vocabulary : Vocabulary)
    (h : fragment.slot? = none) :
    fragment.tokens vocabulary = fragment.outline := by
  cases fragment with
  | untypedSlot name | typedSlot name type => cases h
  | parameter name value | alternatives choices | words run => rfl

/-- Without a slot an outline holds groups that keep nothing, and tokens that open
and close nothing. -/
theorem eq_or_isPlain_of_mem_outline (h : fragment.slot? = none)
    (hmem : token ∈ fragment.outline) :
    token = .openGroup ∨ token = .close ∨ IsPlain token := by
  cases fragment with
  | untypedSlot name | typedSlot name type => cases h
  | parameter name value => cases hmem
  | alternatives choices =>
      rcases List.mem_cons.mp hmem with rfl | hmem
      · exact Or.inl rfl
      · rcases List.mem_append.mp hmem with hbranch | hclose
        · right; right
          rcases eq_or_exists_of_mem_branchTokens hbranch with rfl | rfl |
            ⟨text, _, hin⟩
          · exact Or.inl rfl
          · exact Or.inr (Or.inr (Or.inr ⟨' ', rfl⟩))
          · exact isPlain_of_mem_templateTokens hin
        · exact Or.inr (Or.inl (List.mem_singleton.mp hclose))
  | words run =>
      right; right
      rcases List.mem_cons.mp hmem with rfl | hmem
      · exact Or.inr (Or.inr (Or.inr ⟨' ', rfl⟩))
      · exact isPlain_of_mem_templateTokens hmem

theorem mark_not_mem_outline (h : fragment.slot? = none) :
    .anyText ∉ fragment.outline := by
  intro hmem
  rcases eq_or_isPlain_of_mem_outline h hmem with heq | heq | heq
  · cases heq
  · cases heq
  · simp [IsPlain] at heq

theorem openCapture_not_mem_outline (fragment : Fragment) :
    .openCapture ∉ fragment.outline := by
  intro hmem
  cases hslot : fragment.slot? with
  | some slot =>
      rw [outline_of_slot?_eq_some hslot] at hmem
      simp at hmem
  | none =>
      rcases eq_or_isPlain_of_mem_outline hslot hmem with heq | heq | heq
      · cases heq
      · cases heq
      · simp [IsPlain] at heq

/-- The tokens of a row of fragments are their outlines with the groups of the slots
in place of the marks. -/
theorem flatMap_tokens_eq_around (vocabulary : Vocabulary)
    (fragments : List Fragment) :
    fragments.flatMap (tokens vocabulary) =
      (Frame.ofRow (fragments.flatMap outline)).around
        ((fragments.filterMap slot?).map fun slot =>
          groupTokens vocabulary slot.2) := by
  induction fragments with
  | nil => rfl
  | cons fragment rest ih =>
      cases hslot : fragment.slot? with
      | some slot =>
          rw [List.flatMap_cons, List.flatMap_cons, List.filterMap_cons_some hslot,
            List.map_cons, tokens_of_slot?_eq_some vocabulary hslot,
            outline_of_slot?_eq_some hslot,
            List.singleton_append, Frame.around_mark, ih]
      | none =>
          rw [List.flatMap_cons, List.flatMap_cons, List.filterMap_cons_none hslot,
            tokens_of_slot?_eq_none vocabulary hslot,
            Frame.around_append (mark_not_mem_outline hslot), ih]

/-- A row of fragments has a place for every slot. -/
theorem length_gaps_flatMap_outline (fragments : List Fragment) :
    (Frame.ofRow (fragments.flatMap outline)).gaps.length =
      (fragments.filterMap slot?).length := by
  induction fragments with
  | nil => rfl
  | cons fragment rest ih =>
      cases hslot : fragment.slot? with
      | some slot =>
          rw [List.flatMap_cons, outline_of_slot?_eq_some hslot,
            List.singleton_append, Frame.ofRow_mark, List.filterMap_cons_some hslot,
              List.length_cons, List.length_cons, ih]
      | none =>
          rw [List.flatMap_cons, Frame.ofRow_append (mark_not_mem_outline hslot),
            List.filterMap_cons_none hslot, ih]

/-- The choice between phrases, each a row of characters: its words behind a
space, or nothing. -/
def phraseChoice (phrases : List Text) : Pattern :=
  choice (phrases.map fun phrase => (phraseText phrase).map .char)

/-- Whether a pattern text is a capture that chooses between phrases as they are
spelled. Every character of a phrase is a token that stands for itself. The phrases
are tried one by one, in their order, or the empty text where there are none, and
nothing else is gone through. -/
structure ChoosesPhrase (phrases : List Text) (text : Text) : Prop where
  written : text = .char '(' :: alternationText false phrases ++ [.char ')']
  tokens : lex text = (placed 0 (.openCapture ::
    joinWith [.bar] (phrases.map fun phrase => (phraseText phrase).map .char) ++
      [.close]), none)
  pattern : Pattern.read text = .ok (seq [.capture (phraseChoice phrases)])
  tries : Reads false (phraseChoice phrases) ((atLeastOne phrases).map phraseText)
  reads : ∀ spoken rest, Leaves false [.capture (phraseChoice phrases)] spoken rest ↔
    ∃ phrase ∈ atLeastOne phrases, spoken = phraseText phrase ++ rest

theorem branchTokens_phraseTokens (phrases : List Text) :
    branchTokens phraseTokens phrases =
      joinWith [.bar] (phrases.map fun phrase => (phraseText phrase).map .char) := by
  rw [branchTokens]
  congr 1
  refine List.map_congr_left fun phrase _ => ?_
  rw [phraseText]
  split <;> rfl

theorem branchItems_phraseItems (phrases : List Text) :
    branchItems phraseItems phrases =
      (atLeastOne phrases).map fun phrase => (phraseText phrase).map .char := by
  rw [branchItems]
  refine List.map_congr_left fun phrase _ => ?_
  rw [phraseText]
  split <;> rfl

theorem choice_branchItems (phrases : List Text) :
    choice (branchItems phraseItems phrases) = phraseChoice phrases := by
  rw [branchItems_phraseItems, phraseChoice]
  cases phrases <;> rfl

/-- The choice between phrases tries their texts. -/
theorem reads_phraseChoice (phrases : List Text) :
    Reads false (phraseChoice phrases) ((atLeastOne phrases).map phraseText) := by
  have hwrites : List.Forall₂ (Writes false) (branchItems phraseItems phrases)
      ((atLeastOne phrases).map fun phrase => [phraseText phrase]) := by
    rw [branchItems_phraseItems, List.forall₂_map_left_iff,
      List.forall₂_map_right_iff, List.forall₂_same]
    exact fun phrase _ => writes_chars (phraseText phrase)
  have hreads := reads_choice (branchItems_ne_nil phraseItems phrases) hwrites
  rw [choice_branchItems, ← List.flatMap_def, ← List.map_eq_flatMap,
    List.filter_eq_self.mpr fun text _ => isTried_false _ text] at hreads
  exact hreads

theorem legible_groupTokens (vocabulary : Vocabulary) (type : Option Text) :
    Legible (groupTokens vocabulary type) := by
  have hgrouped :
      Grouped 0 [captureTokens vocabulary type] (groupTokens vocabulary type) :=
    .capture (fillsCapture_captureTokens vocabulary type) .nil
  have huncounted :=
    uncounted_resolveFrom false (groupTokens vocabulary type) (by simp)
  rw [resolveFrom_false_of_not_mem (brace_not_mem_groupTokens vocabulary type).2]
    at huncounted
  exact hgrouped.legible huncounted

/-- Whatever characters its phrases are made of, the group of a typed slot
chooses between them. -/
theorem choosesPhrase (vocabulary : Vocabulary) (type : Text) :
    ChoosesPhrase (vocabulary.phrasesOf type)
      (textOf (groupTokens vocabulary (some type))) := by
  have hlegible := legible_groupTokens vocabulary (some type)
  constructor
  · exact textOf_tokens vocabulary (.typedSlot [] type)
  · rw [lex_textOf hlegible, ← branchTokens_phraseTokens]
    rfl
  · obtain ⟨inner, hinner, hpattern⟩ :=
      exists_leads_typed (vocabulary.phrasesOf type)
    have hgroup := (Branches.Leads.capture .start hinner).ofTokens?
    rw [read_textOf hlegible, ← choice_branchItems, ← hpattern]
    exact hgroup
  · exact reads_phraseChoice _
  · intro spoken rest
    rw [leaves_singleton_capture, (reads_phraseChoice _).singleton.leaves_iff]
    simp only [List.mem_map, exists_exists_and_eq_and, Text.after?_eq_some_iff,
      Text.sameLetters_false_iff]
    constructor
    · rintro ⟨phrase, hphrase, piece, rfl, rfl⟩
      exact ⟨phrase, hphrase, rfl⟩
    · rintro ⟨phrase, hphrase, rfl⟩
      exact ⟨phrase, hphrase, _, rfl, rfl⟩

end Fragment

namespace Template

/-- What the finished pattern of a template holds apart from the groups of
its slots. -/
def frame (template : Text) : Frame :=
  .ofRow (resolveBraces ((fragments template).flatMap Fragment.outline))

/-- The frame of a template has a place for every slot. -/
theorem length_gaps_frame (template : Text) :
    (frame template).gaps.length = (slots template).length := by
  rw [frame, resolveBraces, Frame.length_gaps_resolveFrom,
    Fragment.length_gaps_flatMap_outline]
  rfl

theorem openCapture_not_mem_frame (template : Text) :
    .openCapture ∉ (frame template).first ++ (frame template).gaps.flatten := by
  intro hmem
  have hrow := mem_of_mem_resolveFrom (by simp) (by simp) (by simp)
    (Frame.mem_of_mem_ofRow hmem)
  obtain ⟨fragment, _, hin⟩ := List.mem_flatMap.mp hrow
  exact fragment.openCapture_not_mem_outline hin

example : frame "(x|\x7by) [s:t]\x7d [u]".text =
    ⟨[.openGroup, .char ' ', .char 'x', .bar, .char ' ', .openGroup,
      .char 'y', .close], [[.char ' ', .close, .optional], []]⟩ := by
  decide +kernel

end Template

/-- Whether the phrases of a vocabulary stand in the pattern of a matcher as they
are, in the places that the frame of the template has for them. The pattern is what
the fragments give, with the braces rewritten that no backslash stands in front of,
and that is the frame with the group of every slot in its place. Its captures are
those of the slots in their order; the capture of a typed slot chooses between the
phrases of its type, and so does its group by itself. -/
structure Matcher.KeepsPhrases (vocabulary : Vocabulary) (template : Text)
    (matcher : Matcher) :
    Prop where
  slots : matcher.slots = (Template.slots template).map Prod.fst
  places : (Template.frame template).gaps.length = matcher.slots.length ∧
    .openCapture ∉
      (Template.frame template).first ++ (Template.frame template).gaps.flatten
  rewritten : matcher.pattern = rewriteOptional
    ((Template.fragments template).flatMap (Fragment.patternText vocabulary))
  text : matcher.pattern = textOf ((Template.frame template).around
    ((Template.slots template).map fun slot =>
      Fragment.groupTokens vocabulary slot.2))
  tokens : lex matcher.pattern = (placed 0 ((Template.frame template).around
    ((Template.slots template).map fun slot =>
      Fragment.groupTokens vocabulary slot.2)), none)
  pattern : ∃ pattern, Pattern.read matcher.pattern = .ok pattern ∧
    List.Forall₂ (fun slot body => ∀ type, slot.2 = some type →
      body = Fragment.phraseChoice (vocabulary.phrasesOf type))
      (Template.slots template) pattern.captureBodies
  groups : ∀ slot type, (slot, some type) ∈ Template.slots template →
    ∃ phrases, vocabulary.lookup? type = some phrases ∧
      Fragment.ChoosesPhrase phrases
        (textOf (Fragment.groupTokens vocabulary (some type)))

namespace Template

/-- Whatever vocabulary and template a matcher was compiled from, checked or not, and
wherever the braces of the template stand, nothing in a phrase opens, closes or
becomes optional text, and nothing in it is an operator. -/
theorem phrases_opaque {vocabulary : Vocabulary} {template : Text}
    {matcher : Matcher}
    (h : compile vocabulary template = .ok matcher ∨ ∃ given : UncheckedVocabulary,
      given.textual = vocabulary ∧ given.compile template = .ok matcher) :
    matcher.KeepsPhrases vocabulary template := by
  have hcompile := compile_eq_ok h
  have hrewritten := pattern_eq_rewriteOptional hcompile
  obtain ⟨draft, hholds, rfl⟩ := exists_draft_of_compile hcompile
  have hlegible := hholds.grouped.legible (Draft.uncounted_resolveBraces draft)
  have htokens : resolveBraces draft.tokens = (frame template).around
      ((slots template).map fun slot => Fragment.groupTokens vocabulary slot.2) := by
    rw [hholds.tokens, Fragment.flatMap_tokens_eq_around, resolveBraces,
      Frame.resolveFrom_around _ _ false]
    · rfl
    · exact List.forall_mem_map.mpr fun slot _ =>
        Fragment.brace_not_mem_groupTokens vocabulary slot.2
    · rw [List.length_map, Fragment.length_gaps_flatMap_outline]
  have hsound := hholds.isSound template
  constructor
  · exact hholds.slots
  · refine ⟨?_, openCapture_not_mem_frame template⟩
    rw [length_gaps_frame, hsound.slots, List.length_map]
    rfl
  · exact hrewritten
  · rw [← htokens]; rfl
  · rw [← htokens]; exact lex_textOf hlegible
  · obtain ⟨pattern, hread, _, hbodies⟩ := hsound.pattern
    refine ⟨pattern, hread, hbodies.imp fun slot body hbody type htype => ?_⟩
    rw [htype, Fragment.read_captureText_typed vocabulary [] type,
      Except.ok.injEq] at hbody
    rw [← hbody]
    exact Fragment.choice_branchItems _
  · intro slot type hslot
    obtain ⟨phrases, hphrases⟩ := hsound.known slot type hslot
    have hchooses := Fragment.choosesPhrase vocabulary type
    rw [Vocabulary.phrasesOf, hphrases] at hchooses
    exact ⟨phrases, hphrases, hchooses⟩

/-- Here the braces open in one alternative and close behind the slot, and the
phrases hold braces, bars, parentheses, a question mark, and a backslash in
front of a space. -/
theorem phrases_opaque_straddling :
    let vocabulary : Vocabulary :=
      ⟨[(['t'], ["\x7ba\\  \x7d".text, "b|(c)?".text, []])]⟩
    let template := "(x|\x7by) [s:t]\x7d [u]".text
    let matcher : Matcher :=
      { template, slots := [['s'], ['u']], slotTypes := [(['s'], ['t'])]
        pattern :=
          "(?: x| (?:y)( \\\x7ba\\\\ \\\x7d| b\\|\\(c\\)\\?|) )?( .+?)".text }
    compile vocabulary template = .ok matcher ∧
      matcher.KeepsPhrases vocabulary template := by
  intro vocabulary template matcher
  have hcompile : compile vocabulary template = .ok matcher := by
    simp only [template, compile, ofTemplate_straddling]
    rfl
  exact ⟨hcompile, phrases_opaque (Or.inl hcompile)⟩

end Template

end UtteranceTemplate
