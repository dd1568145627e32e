import UtteranceTemplate.Proofs.PatternReading
import UtteranceTemplate.Template.Unchecked

/-!
Compiled matchers are sound: their pattern text can be read, and its captures are
those of the slots.

The tokens of a template keep to the grammar of patterns wherever its braces stand
(`Draft.Holds.grouped`), so the finished pattern does, and reading it cannot fail.
Matching therefore never fails either, and pairs every slot with one capture.
-/

namespace UtteranceTemplate

open Pattern Token

namespace Pattern

namespace Token

/-- The characters of a text, each as the token of a character is written. -/
def escape (text : Text) : Text := textOf (text.map .char)

theorem textOf_joinWith (rows : List (List Token)) :
    textOf (joinWith [.bar] rows) = joinWith [.char '|'] (rows.map textOf) := by
  induction rows with
  | nil => rfl
  | cons row rows ih =>
      cases rows with
      | nil => simp [joinWith]
      | cons next rest =>
          simp only [joinWith, textOf_append, ih, List.map_cons]
          rfl

end Token

end Pattern

namespace Fragment

/-- The pattern text inside the capture of a slot: free text behind a space, or the
escaped phrases of its entity type, each behind a space unless it is empty, with
bars between them. -/
def captureText (vocabulary : Vocabulary) : Option Text → Text
  | none => " .+?".text
  | some type =>
      joinWith ['|'] (((vocabulary.lookup? type).getD []).map fun phrase =>
        if phrase.isEmpty then [] else ' ' :: escape phrase.singleSpaced)

theorem textOf_captureTokens (vocabulary : Vocabulary) (type : Option Text) :
    textOf (captureTokens vocabulary type) = captureText vocabulary type := by
  cases type with
  | none => rfl
  | some type =>
      simp only [captureTokens, captureText, branchTokens, textOf_joinWith,
        List.map_map]
      congr 1
      refine List.map_congr_left fun phrase _ => ?_
      simp only [Function.comp_apply]
      split
      · rfl
      · rw [textOf_cons]
        rfl

end Fragment

namespace Matcher

/-- Matchers whose pattern text and slots belong together: `declared` lists the slots
in order, each with its entity type if it has one. The text is the written form of
tokens that keep to the grammar, and reads as these tokens again; its captures are
those of the slots, and no opening brace in it counts repetitions. So the pattern can
be read, and the capture of each slot reads as its own text. -/
structure IsSound (vocabulary : Vocabulary) (declared : List (Text × Option Text))
    (matcher : Matcher) : Prop where
  slots : matcher.slots = declared.map Prod.fst
  distinct : matcher.slots.Nodup
  slotTypes : matcher.slotTypes = typedEntries declared
  known : ∀ slot type, (slot, some type) ∈ declared →
    ∃ phrases, vocabulary.lookup? type = some phrases
  text : ∃ tokens captures, matcher.pattern = textOf tokens ∧
    lex matcher.pattern = (placed 0 tokens, none) ∧ WellGrouped captures tokens ∧
    captures.map textOf =
      declared.map (fun slot => Fragment.captureText vocabulary slot.2) ∧
    ∀ before after, tokens = before ++ .leftBrace :: after →
      countsRepetitions (textOf after) = false
  pattern : ∃ pattern, read matcher.pattern = .ok pattern ∧
    pattern.captureCount = matcher.slots.length ∧
    List.Forall₂
      (fun slot body => read (Fragment.captureText vocabulary slot.2) = .ok body)
      declared pattern.captureBodies

end Matcher

namespace Draft

variable {vocabulary : Vocabulary} {fragments : List Fragment} {draft : Draft}

/-- However the braces of a draft lie across its fragments, resolving them leaves
every group closed and the captures of the slots as they are. -/
theorem Holds.grouped (h : draft.Holds vocabulary fragments) :
    Grouped 0 ((fragments.filterMap Fragment.slot?).map fun slot =>
      Fragment.captureTokens vocabulary slot.2) (resolveBraces draft.tokens) := by
  rw [h.tokens]
  exact (Fragment.grouped_flatMap_tokens vocabulary fragments).resolveFrom
    false (by simp)

theorem uncounted_resolveBraces (draft : Draft) :
    Uncounted (resolveBraces draft.tokens) :=
  uncounted_resolveFrom false draft.tokens (by simp)

theorem legible_captureTokens (vocabulary : Vocabulary) (type : Option Text) :
    Legible (Fragment.captureTokens vocabulary type) := by
  have hfills := Fragment.fillsCapture_captureTokens vocabulary type
  have hleft : .leftBrace ∉ Fragment.captureTokens vocabulary type :=
    hfills.brace_not_mem.1
  have hopen : .openCapture ∉ Fragment.captureTokens vocabulary type :=
    hfills.not_mem (by simp) (by simp) (by simp)
  simpa using Legible.append_left hleft hopen (show Legible [] from trivial)

/-- The matcher of a finished draft is sound. -/
theorem Holds.isSound (h : draft.Holds vocabulary fragments) (template : Text) :
    (draft.finish template).IsSound vocabulary
      (fragments.filterMap Fragment.slot?) := by
  have huncounted := uncounted_resolveBraces draft
  have hlegible := h.grouped.legible huncounted
  have hgrouped := h.grouped.wellGrouped
  obtain ⟨pattern, hread, hbodies⟩ := hgrouped.exists_read hlegible
  rw [List.forall₂_map_left_iff] at hbodies
  refine ⟨h.slots, h.distinct, h.slotTypes, h.known, ?_, ?_⟩
  · refine ⟨_, _, rfl, lex_textOf hlegible, hgrouped, ?_, ?_⟩
    · simp [Fragment.textOf_captureTokens]
    · intro before after hsplit
      rw [hsplit] at huncounted
      exact not_countsRepetitions ((huncounted.of_append before).1 rfl)
  · refine ⟨pattern, hread, ?_, hbodies.imp fun slot body hbody => ?_⟩
    · rw [← length_captureBodies, ← hbodies.length_eq]
      simp [finish, h.slots]
    · rw [← Fragment.textOf_captureTokens, read_textOf
        (legible_captureTokens vocabulary slot.2)]
      exact hbody

end Draft

namespace Pattern

/-- A match of a whole text keeps what one of the ways through the text keeps. -/
theorem exists_way_of_fullMatch? {ignoreCase : Bool} {p : Pattern} {text : Text}
    {captures : Captures} (h : p.fullMatch? ignoreCase text = some captures) :
    ∃ spans, (spans, []) ∈ p.ways ignoreCase text ∧
      captures = Spans.captures spans := by
  rw [fullMatch?, search_eq_findSome?_ways] at h
  obtain ⟨⟨spans, rest⟩, hway, haccept⟩ := List.exists_of_findSome?_eq_some h
  simp only [Option.ite_none_right_eq_some, List.isEmpty_iff,
    Option.some.injEq] at haccept
  obtain ⟨rfl, rfl⟩ := haccept
  exact ⟨spans, hway, rfl⟩

end Pattern

namespace Matcher

variable {vocabulary : Vocabulary} {declared : List (Text × Option Text)}
  {matcher : Matcher}

/-- A sound matcher never fails, and a match pairs every slot with one
capture, in order. -/
theorem IsSound.match?_eq_ok (h : matcher.IsSound vocabulary declared)
    (utterance : Text) (ignoreCase : Bool) :
    ∃ outcome, matcher.match? utterance ignoreCase = .ok outcome ∧
      ∀ found, outcome = some found → ∃ captures,
        matcher.captures? (Utterance.normalize utterance) ignoreCase =
          .ok (some captures) ∧
          captures.length = matcher.slots.length ∧
          found.slots = matcher.slots.zip (captures.map slotValue) ∧
          found.slots.keys = matcher.slots := by
  obtain ⟨pattern, hread, hcount, _⟩ := h.pattern
  have hcaptures : matcher.captures? (Utterance.normalize utterance) ignoreCase =
      .ok (pattern.fullMatch? ignoreCase (Utterance.normalize utterance)) := by
    simp [captures?, hread, Except.map]
  refine ⟨_, by simp only [match?, hcaptures, Except.map]; rfl, ?_⟩
  intro found hfound
  obtain ⟨captures, hmatch, rfl⟩ := Option.map_eq_some_iff.mp hfound
  obtain ⟨spans, hway, hspans⟩ := Pattern.exists_way_of_fullMatch? hmatch
  have hlength : captures.length = matcher.slots.length := by
    have hways := Pattern.length_of_mem_ways ignoreCase pattern _ _ hway
    rw [hspans, ← hcount, ← hways]
    simp [Spans.captures]
  have hkeys : (matcher.slots.zip (captures.map slotValue)).map Prod.fst =
      matcher.slots :=
    List.map_fst_zip (by simp [hlength])
  have hpairs : slotValues matcher.slots captures =
      matcher.slots.zip (captures.map slotValue) :=
    Entries.ofPairs_of_nodup _ (by rw [Entries.keys, hkeys]; exact h.distinct)
  exact ⟨captures, by rw [hcaptures, hmatch], hlength, hpairs, by
    rw [hpairs]; exact hkeys⟩

end Matcher

namespace UncheckedVocabulary

/-- What compiles against a vocabulary that was taken as given compiles against
its textual part. -/
theorem compile_textual {given : UncheckedVocabulary} {template : Text}
    {matcher : Matcher} (h : given.compile template = .ok matcher) :
    Template.compile given.textual template = .ok matcher := by
  unfold compile at h
  split at h
  · cases h
  · cases hcompile : Template.compile given.textual template with
    | error error => rw [hcompile] at h; cases h
    | ok compiled =>
        rw [hcompile] at h
        exact congrArg Except.ok (Except.ok.inj h)

end UncheckedVocabulary

/-- However a vocabulary was come by, compiling against it comes to compiling
against its texts. -/
theorem Template.compile_eq_ok {vocabulary : Vocabulary} {template : Text}
    {matcher : Matcher}
    (h : Template.compile vocabulary template = .ok matcher ∨
      ∃ given : UncheckedVocabulary, given.textual = vocabulary ∧
        given.compile template = .ok matcher) :
    Template.compile vocabulary template = .ok matcher := by
  rcases h with h | ⟨given, rfl, h⟩
  · exact h
  · exact given.compile_textual h

/-- Whatever vocabulary and template a matcher was compiled from, checked or not, its
pattern text can be read, its captures are those of the template's slots, and
matching pairs them one by one. -/
theorem Template.compile_sound {vocabulary : Vocabulary} {template : Text}
    {matcher : Matcher}
    (h : Template.compile vocabulary template = .ok matcher ∨
      ∃ given : UncheckedVocabulary, given.textual = vocabulary ∧
        given.compile template = .ok matcher) :
    matcher.IsSound vocabulary (Template.slots template) ∧
      ∀ utterance ignoreCase, ∃ outcome,
        matcher.match? utterance ignoreCase = .ok outcome ∧
        ∀ found, outcome = some found → ∃ captures,
          matcher.captures? (Utterance.normalize utterance) ignoreCase =
            .ok (some captures) ∧
            captures.length = matcher.slots.length ∧
            found.slots = matcher.slots.zip (captures.map Matcher.slotValue) ∧
            found.slots.keys = matcher.slots := by
  obtain ⟨draft, hholds, rfl⟩ :=
    Template.exists_draft_of_compile (Template.compile_eq_ok h)
  have hsound := hholds.isSound template
  exact ⟨hsound, hsound.match?_eq_ok⟩

theorem Template.ofTemplate_straddling :
    Reading.ofTemplate "(x|\x7by) [s:t]\x7d [u]".text =
      ⟨[⟨0, "(x|\x7by)".text, .alternatives [['x'], ['{', 'y']]⟩,
        ⟨7, "[s:t]".text, .typedSlot ['s'] ['t']⟩,
        ⟨12, "\x7d ".text, .words "\x7d ".text⟩,
        ⟨14, "[u]".text, .untypedSlot ['u']⟩], []⟩ := by
  decide +kernel

/-- Here the braces open in one alternative and close behind a typed slot whose
phrases hold a brace and a bar. -/
theorem Template.compile_sound_straddling :
    let vocabulary : Vocabulary := ⟨[(['t'], ["a\x7d".text, "b|c".text])]⟩
    let template := "(x|\x7by) [s:t]\x7d [u]".text
    let matcher : Matcher :=
      { template, slots := [['s'], ['u']], slotTypes := [(['s'], ['t'])]
        pattern := "(?: x| (?:y)( a\\\x7d| b\\|c) )?( .+?)".text }
    Template.compile vocabulary template = .ok matcher ∧
      matcher.IsSound vocabulary (Template.slots template) := by
  intro vocabulary template matcher
  have hcompile : Template.compile vocabulary template = .ok matcher := by
    simp only [template, Template.compile, Template.ofTemplate_straddling]
    rfl
  exact ⟨hcompile, (Template.compile_sound (Or.inl hcompile)).1⟩

end UtteranceTemplate
