import UtteranceTemplate.Proofs.FragmentSearch

/-!
Typed slots take nothing but phrases of their entity type.

Braces may lie across a slot, drop it or bring it together with its neighbours, but
none of them changes what its capture surrounds. So what the capture keeps has the
letters of a phrase behind a space, and the value of the slot is the phrase, up to
case if case does not count (`Template.typedSlot_sound`).
-/

namespace UtteranceTemplate

open Pattern

namespace Fragment

theorem mem_triedWordings_typedSlot {vocabulary : Vocabulary} {ignoreCase : Bool}
    {name type text : Text}
    (h : text ∈
      ((typedSlot name type).triedWordings vocabulary ignoreCase).map Wording.text) :
    text = [] ∨ ∃ phrase ∈ (vocabulary.lookup? type).getD [],
      text = .char ' ' :: phrase.singleSpaced := by
  rw [map_text_triedWordings] at h
  obtain ⟨texts, htexts, hmem⟩ := List.mem_flatten.mp (List.mem_of_mem_filter h)
  obtain ⟨choice, hchoice, rfl⟩ := List.mem_map.mp htexts
  obtain ⟨phrase, hphrase, rfl⟩ := List.mem_map.mp hchoice
  by_cases hempty : phrase.isEmpty = true
  · left
    simpa [hempty] using hmem
  · right
    simp only [hempty, Bool.false_eq_true, if_false] at hmem
    refine ⟨phrase, ?_, by simpa [Wording.spaced] using hmem⟩
    unfold atLeastOne at hphrase
    split at hphrase
    · rw [List.mem_singleton.mp hphrase] at hempty
      exact absurd rfl hempty
    · exact hphrase

/-- Inside the capture of a typed slot stands the choice between its phrases. -/
theorem read_captureText_typed (vocabulary : Vocabulary) (name type : Text) :
    Pattern.read (captureText vocabulary (some type)) =
      .ok (choice ((typedSlot name type).branches vocabulary)) := by
  obtain ⟨inner, hinner, hpattern⟩ :=
    exists_leads_typed ((vocabulary.lookup? type).getD [])
  rw [← textOf_captureTokens, read_textOf
    (Draft.legible_captureTokens vocabulary (some type))]
  rw [branches, ← hpattern]
  exact hinner.ofTokens?

/-- A span that the phrases of a typed slot read gives no value, or the
letters of a phrase. -/
theorem slotValue_of_readsSpan {vocabulary : Vocabulary} {ignoreCase : Bool}
    {type : Text} {body : Pattern} {span? : Option Span}
    (hread : Pattern.read (captureText vocabulary (some type)) = .ok body)
    (h : ReadsSpan ignoreCase body span?) {value : Text}
    (hvalue : Matcher.slotValue (span?.map Span.text) = some value) :
    ∃ phrase ∈ (vocabulary.lookup? type).getD [],
      Text.sameLetters ignoreCase phrase.singleSpaced value = true := by
  cases span? with
  | none => cases hvalue
  | some span =>
      rw [read_captureText_typed vocabulary [] type, Except.ok.injEq] at hread
      subst hread
      obtain ⟨kept, hway⟩ := h span rfl
      have hbranches : (typedSlot [] type).branches vocabulary ≠ [] :=
        branchItems_ne_nil _ _
      have hreads := reads_branches vocabulary ignoreCase hbranches
      obtain ⟨wanted, hwanted, hafter⟩ := hreads.exists_after? hway
      obtain ⟨piece, hstart, hsame⟩ := Text.after?_eq_some_iff.mp hafter
      have hpiece : span.text = piece := by
        rw [Span.text, hstart, Text.upTo_append]
      rw [Option.map_some, hpiece] at hvalue
      rcases mem_triedWordings_typedSlot hwanted with rfl | ⟨phrase, hphrase, rfl⟩
      · have hnil : piece = [] :=
          List.length_eq_zero_iff.mp (Text.length_eq_of_sameLetters hsame).symm
        subst hnil
        cases hvalue
      · obtain ⟨letters, rfl, hletters⟩ :=
          Text.exists_of_sameLetters_space_cons hsame
        have htrimmed := (Text.trimmed_singleSpaced phrase).of_sameLetters hletters
        have hsome : value = letters := by
          simp only [Matcher.slotValue, Text.trim_space_cons htrimmed] at hvalue
          split at hvalue
          · cases hvalue
          · exact (Option.some.inj hvalue).symm
        exact ⟨phrase, hphrase, by rw [hsome]; exact hletters⟩

end Fragment

namespace Matcher

variable {vocabulary : Vocabulary} {declared : List (Text × Option Text)}
  {matcher : Matcher}

/-- In a match of a sound matcher the value of a slot with an entity type is missing
or has the letters of a phrase of the type. -/
theorem IsSound.typedSlot_value (h : matcher.IsSound vocabulary declared)
    {utterance : Text} {ignoreCase : Bool} {found : Match}
    (hmatch : matcher.match? utterance ignoreCase = .ok (some found))
    {slot type : Text} (hslot : (slot, some type) ∈ declared) :
    ∃ value, found.slots.get? slot = some value ∧ ∀ text, value = some text →
      ∃ phrase ∈ (vocabulary.lookup? type).getD [],
        Text.sameLetters ignoreCase phrase.singleSpaced text = true := by
  obtain ⟨pattern, hread, hcount, hbodies⟩ := h.pattern
  obtain ⟨outcome, houtcome, hfound⟩ := h.match?_eq_ok utterance ignoreCase
  rw [hmatch, Except.ok.injEq] at houtcome
  obtain ⟨captures, hcaptures, hlength, hslots, hkeys⟩ := hfound found houtcome.symm
  have hfull : pattern.fullMatch? ignoreCase (Utterance.normalize utterance) =
      some captures := by
    simpa [captures?, hread, Except.map] using hcaptures
  obtain ⟨spans, hway, rfl⟩ := Pattern.exists_way_of_fullMatch? hfull
  have hspans := forall₂_captureBodies_of_mem_ways hway
  obtain ⟨i, hi, hget⟩ := List.getElem_of_mem hslot
  have hi' : i < pattern.captureBodies.length := hbodies.length_eq ▸ hi
  have hi'' : i < spans.length := hspans.length_eq ▸ hi'
  have hbody := hbodies.get hi hi'
  have hspan := hspans.get hi' hi''
  simp only [List.get_eq_getElem, hget] at hbody hspan
  have hmem : (slot, slotValue (spans[i].map Span.text)) ∈ found.slots := by
    rw [hslots, h.slots]
    refine List.mem_iff_getElem.mpr ⟨i, ?_, ?_⟩
    · simpa [Spans.captures] using ⟨hi, hi''⟩
    · simp [Spans.captures, hget]
  refine ⟨_, Entries.get?_eq_some_of_mem (by rw [hkeys]; exact h.distinct) hmem, ?_⟩
  intro text htext
  exact Fragment.slotValue_of_readsSpan hbody hspan htext

end Matcher

theorem mem_of_get?_typedEntries {declared : List (Text × Option Text)}
    {slot type : Text} (h : (typedEntries declared).get? slot = some type) :
    (slot, some type) ∈ declared := by
  obtain ⟨⟨name, found⟩, hmem, htype⟩ :=
    List.mem_filterMap.mp (Entries.mem_of_get?_eq_some h)
  obtain ⟨other, rfl, heq⟩ := Option.map_eq_some_iff.mp htype
  obtain ⟨rfl, rfl⟩ := Prod.mk.inj heq
  exact hmem

/-- A typed slot has a value in every match, and one that is not missing has the
letters of a phrase. -/
theorem Template.exists_typedSlot_value {vocabulary : Vocabulary} {template : Text}
    {matcher : Matcher} (h : Template.compile vocabulary template = .ok matcher)
    {utterance : Text} {ignoreCase : Bool} {found : Match}
    (hmatch : matcher.match? utterance ignoreCase = .ok (some found))
    {slot type : Text} (hslot : matcher.slotTypes.get? slot = some type) :
    ∃ phrases value, vocabulary.lookup? type = some phrases ∧
      found.slots.get? slot = some value ∧ ∀ text, value = some text →
        ∃ phrase ∈ phrases,
          Text.sameLetters ignoreCase phrase.singleSpaced text = true := by
  obtain ⟨draft, hholds, rfl⟩ := Template.exists_draft_of_compile h
  have hsound := hholds.isSound template
  rw [hsound.slotTypes] at hslot
  have hdeclared := mem_of_get?_typedEntries hslot
  obtain ⟨phrases, hphrases⟩ := hsound.known slot type hdeclared
  obtain ⟨value, hvalue, hspoken⟩ := hsound.typedSlot_value hmatch hdeclared
  rw [hphrases, Option.getD_some] at hspoken
  exact ⟨phrases, value, hphrases, hvalue, hspoken⟩

/-- Whatever vocabulary and template a matcher was compiled from, in a match the
value of a typed slot is missing, or a single-spaced phrase of its entity type, up to
case if case does not count. -/
theorem Template.typedSlot_sound {vocabulary : Vocabulary} {template : Text}
    {matcher : Matcher}
    (h : Template.compile vocabulary template = .ok matcher ∨
      ∃ given : UncheckedVocabulary, given.textual = vocabulary ∧
        given.compile template = .ok matcher)
    {utterance : Text} {ignoreCase : Bool} {found : Match}
    (hmatch : matcher.match? utterance ignoreCase = .ok (some found))
    {slot type : Text} (hslot : matcher.slotTypes.get? slot = some type) :
    ∃ phrases value, vocabulary.lookup? type = some phrases ∧
      found.slots.get? slot = some value ∧ ∀ text, value = some text →
        ∃ phrase ∈ phrases,
          Text.sameLetters ignoreCase phrase.singleSpaced text = true ∧
          (ignoreCase = false → text = phrase.singleSpaced) := by
  obtain ⟨phrases, value, hphrases, hvalue, hspoken⟩ :=
    Template.exists_typedSlot_value (Template.compile_eq_ok h) hmatch hslot
  refine ⟨phrases, value, hphrases, hvalue, ?_⟩
  intro text htext
  obtain ⟨phrase, hphrase, hsame⟩ := hspoken text htext
  refine ⟨phrase, hphrase, hsame, ?_⟩
  rintro rfl
  exact (Text.sameLetters_false_iff.mp hsame).symm

theorem Template.ofTemplate_enclosing :
    Reading.ofTemplate "(x|\x7by) [s:t] z\x7d".text =
      ⟨[⟨0, "(x|\x7by)".text, .alternatives [['x'], ['{', 'y']]⟩,
        ⟨7, "[s:t]".text, .typedSlot ['s'] ['t']⟩,
        ⟨13, "z\x7d".text, .words "z\x7d".text⟩], []⟩ := by
  decide +kernel

/-- Here the braces around the slot open in an alternative, and the phrases hold a
brace and a bar. -/
theorem Template.typedSlot_sound_enclosing :
    let vocabulary : Vocabulary := ⟨[(['t'], ["a\x7d".text, "b  |c".text])]⟩
    let template := "(x|\x7by) [s:t] z\x7d".text
    let matcher : Matcher :=
      { template, slots := [['s']], slotTypes := [(['s'], ['t'])]
        pattern := "(?: x| (?:y)( a\\\x7d| b \\|c) z)?".text }
    let found : Match :=
      { template, utterance := "y B  |C z".text
        slots := [(['s'], some "B |C".text)], parameters := [] }
    Template.compile vocabulary template = .ok matcher ∧
      matcher.match? "y B  |C z".text true = .ok (some found) ∧
      matcher.slotTypes.get? [.char 's'] = some [.char 't'] ∧
      ∃ phrases value, vocabulary.lookup? ['t'] = some phrases ∧
        found.slots.get? ['s'] = some value ∧ ∀ text, value = some text →
          ∃ phrase ∈ phrases, Text.sameLetters true phrase.singleSpaced text = true ∧
            (true = false → text = phrase.singleSpaced) := by
  intro vocabulary template matcher found
  have hcompile : Template.compile vocabulary template = .ok matcher := by
    simp only [template, Template.compile, Template.ofTemplate_enclosing]
    rfl
  have hmatch : matcher.match? "y B  |C z".text true = .ok (some found) := by
    decide
  have hslot : matcher.slotTypes.get? [.char 's'] = some [.char 't'] := rfl
  exact ⟨hcompile, hmatch, hslot,
    Template.typedSlot_sound (Or.inl hcompile) hmatch hslot⟩
end UtteranceTemplate
