import UtteranceTemplate.Proofs.BraceOrder
import UtteranceTemplate.Proofs.TypedSlots
import UtteranceTemplate.Proofs.WholeWords
import UtteranceTemplate.Vocabulary.Given

/-!
When a typed slot takes nothing.

The piece of a typed slot is empty only if the fragment has an empty wording, and it
has one exactly if the empty phrase is among its phrases or there are no phrases at
all (`Fragment.nil_mem_wordings_typedSlot_iff`). A phrase of blanks is no empty
wording: it asks for a space, behind which no word can begin. So in a template
without braces a slot is elided for no other reason (`Template.elided_typedSlot`).
-/

namespace UtteranceTemplate

open Pattern

namespace Fragment

variable {vocabulary : Vocabulary} {ignoreCase : Bool}

/-- A type without phrases counts as one with the empty phrase only. -/
theorem nil_mem_wordings_typedSlot_iff {name type : Text} :
    [] ∈ ((typedSlot name type).wordings vocabulary).map Wording.text ↔
      [] ∈ (vocabulary.lookup? type).getD [] ∨
        (vocabulary.lookup? type).getD [] = [] := by
  rw [map_text_wordings]
  generalize hphrases : (vocabulary.lookup? type).getD [] = phrases
  have hchoices : (typedSlot name type).choices vocabulary =
      Wording.choices (fun phrase => [⟨[], phrase.singleSpaced⟩]) phrases := by
    rw [choices, hphrases]
  rw [hchoices]
  constructor
  · intro h
    obtain ⟨texts, htexts, hmem⟩ := List.mem_flatten.mp h
    obtain ⟨choice, hchoice, rfl⟩ := List.mem_map.mp htexts
    obtain ⟨phrase, hphrase, rfl⟩ := List.mem_map.mp hchoice
    by_cases hempty : phrase = []
    · subst hempty
      unfold atLeastOne at hphrase
      split at hphrase
      · rename_i hnone
        exact Or.inr (List.isEmpty_iff.mp hnone)
      · exact Or.inl hphrase
    · have hfalse : phrase.isEmpty = false := by simpa using hempty
      simp [hfalse, Wording.spaced] at hmem
  · intro h
    have hmem : [] ∈ atLeastOne phrases := by
      rcases h with h | rfl
      · have hfalse : phrases.isEmpty = false := by
          simpa using List.ne_nil_of_mem h
        simpa [atLeastOne, hfalse] using h
      · simp [atLeastOne]
    exact List.mem_flatten.mpr ⟨[[]], List.mem_map.mpr ⟨[⟨[], []⟩],
      List.mem_map.mpr ⟨[], hmem, rfl⟩, rfl⟩, List.mem_cons_self⟩

/-- A typed slot whose piece is empty has an empty wording. -/
theorem Fits.nil_mem_of_typedSlot {name type : Text} {piece : Wording}
    (h : (typedSlot name type).Fits (wordings vocabulary) ignoreCase piece)
    (hpiece : piece.text = []) :
    [] ∈ ((typedSlot name type).wordings vocabulary).map Wording.text := by
  obtain ⟨wording, hwording, _, hsame⟩ := h
  rw [hpiece] at hsame
  have hnil : wording.text = [] :=
    List.length_eq_zero_iff.mp (Text.length_eq_of_sameLetters hsame)
  exact List.mem_map.mpr ⟨wording, hwording, hnil⟩

end Fragment

/-- Each slot of a row of fragments takes a piece that fits its own fragment. -/
theorem exists_slotPiece_of_mem {wordingsOf : Fragment → List Wording}
    {ignoreCase : Bool} {fragments : List Fragment} {pieces : List Wording}
    (h : List.Forall₂ (Fragment.Fits wordingsOf ignoreCase) fragments pieces)
    {fragment : Fragment} (hmem : fragment ∈ fragments) {slot : Text × Option Text}
    (hslot : fragment.slot? = some slot) :
    ∃ piece, fragment.Fits wordingsOf ignoreCase piece ∧
      (slot.1, if piece.text.isEmpty then none else some piece.text.tail) ∈
        slotPieces fragments pieces := by
  induction h with
  | nil => cases hmem
  | @cons other piece fragments pieces hfits _ ih =>
      rcases List.mem_cons.mp hmem with rfl | hmem
      · exact ⟨piece, hfits, by simp [slotPieces, hslot]⟩
      · obtain ⟨found, hfound, htaken⟩ := ih hmem
        refine ⟨found, hfound, ?_⟩
        unfold slotPieces at htaken ⊢
        rw [List.zip_cons_cons, List.filterMap_cons]
        split
        · exact htaken
        · exact List.mem_cons_of_mem _ htaken

namespace Template

variable {vocabulary : Vocabulary} {template : Text} {matcher : Matcher}

theorem mem_fragments_of_mem_slots {slot type : Text}
    (h : (slot, some type) ∈ slots template) :
    .typedSlot slot type ∈ fragments template := by
  obtain ⟨fragment, hfragment, hslot⟩ := List.mem_filterMap.mp h
  cases fragment with
  | typedSlot name found =>
      simp only [Fragment.slot?, Option.some.injEq, Prod.mk.injEq] at hslot
      obtain ⟨rfl, rfl⟩ := hslot
      exact hfragment
  | parameter | untypedSlot | alternatives | words => simp [Fragment.slot?] at hslot

/-- The braces of a template without any are local. -/
theorem isBraceLocal_of_free (h : compile vocabulary template = .ok matcher)
    (hfree : ∀ c ∈ template, c ≠ '{' ∧ c ≠ '}') : IsBraceLocal template := by
  have hnone : template.filter UtteranceTemplate.isBrace = [] := by
    rw [List.filter_eq_nil_iff]
    intro c hc
    simp [UtteranceTemplate.isBrace, hfree c hc]
  have hread : ReadsAs template (Reading.ofTemplate template).parts [] :=
    readsAs_iff.mpr ⟨rfl, (exists_compile_iff.mp ⟨matcher, h⟩).2⟩
  apply bracesAreLocal_of_endsOpen_eq_false
  intro text htext
  apply endsOpen_eq_false
  apply hread.filter_isBrace_eq_nil hnone
  rw [fragments, List.flatMap_map] at htext
  rw [bracedTextsOf, Reading.parts, List.flatMap_map]
  exact htext

/-- In a match of a template without braces a typed slot takes nothing only if the
empty phrase is among the phrases of its entity type, or if the type has no phrases;
in the latter case it never takes anything. -/
theorem elided_typedSlot (h : compile vocabulary template = .ok matcher)
    (hfree : ∀ c ∈ template, c ≠ '{' ∧ c ≠ '}') {utterance : Text}
    {ignoreCase : Bool} {found : Match}
    (hmatch : matcher.match? utterance ignoreCase = .ok (some found))
    {slot type : Text} (hslot : matcher.slotTypes.get? slot = some type) :
    ∃ phrases value, vocabulary.lookup? type = some phrases ∧
      found.slots.get? slot = some value ∧
      (value = none → [] ∈ phrases ∨ phrases = []) ∧
      (phrases = [] → value = none) := by
  obtain ⟨phrases, value, hphrases, hvalue, hspoken⟩ :=
    exists_typedSlot_value h hmatch hslot
  obtain ⟨draft, hholds, rfl⟩ := exists_draft_of_compile h
  have hlocal := isBraceLocal_of_free h hfree
  obtain ⟨_, hdistinct, pieces, hcutting, hslots⟩ :=
    exists_cutting_of_match h hlocal hmatch
  refine ⟨phrases, value, hphrases, hvalue, ?_, ?_⟩
  · rintro rfl
    rw [(hholds.isSound template).slotTypes] at hslot
    have hfragment := mem_fragments_of_mem_slots (mem_of_get?_typedEntries hslot)
    obtain ⟨piece, hfits, htaken⟩ :=
      exists_slotPiece_of_mem hcutting.fits hfragment rfl
    rw [← hslots] at htaken
    have hpiece := Entries.get?_eq_some_of_mem hdistinct htaken
    rw [hvalue, Option.some.injEq] at hpiece
    have hempty : piece.text = [] := by
      by_contra hne
      have hfalse : piece.text.isEmpty = false := by simpa using hne
      simp [hfalse] at hpiece
    have hwording :=
      Fragment.nil_mem_wordings_typedSlot_iff.mp (hfits.nil_mem_of_typedSlot hempty)
    rw [hphrases] at hwording
    exact hwording
  · rintro rfl
    cases hfound : value with
    | none => rfl
    | some text =>
        obtain ⟨phrase, hphrase, _⟩ := hspoken text hfound
        cases hphrase

theorem ofTemplate_goOn :
    Reading.ofTemplate "go [x:t] on".text =
      ⟨[⟨0, "go ".text, .words "go ".text⟩,
        ⟨3, "[x:t]".text, .typedSlot ['x'] ['t']⟩,
          ⟨9, "on".text, .words "on".text⟩], []⟩ := by
  decide +kernel

theorem not_brace_goOn : ∀ c ∈ "go [x:t] on".text, c ≠ '{' ∧ c ≠ '}' := by
  decide

/-- The phrase of blanks is not what the slot takes here. -/
theorem elided_typedSlot_goOn :
    let vocabulary : Vocabulary := ⟨[(['t'], [[' '], "far away".text, []])]⟩
    let template := "go [x:t] on".text
    let matcher : Matcher :=
      { template, slots := [['x']], slotTypes := [(['x'], ['t'])]
        pattern := " go( | far away|) on".text }
    let found : Match :=
      { template, utterance := "Go on".text, slots := [(['x'], none)]
        parameters := [] }
    compile vocabulary template = .ok matcher ∧ (∀ c ∈ template, c ≠ '{' ∧ c ≠ '}') ∧
      matcher.match? "Go on".text true = .ok (some found) ∧
      matcher.slotTypes.get? [.char 'x'] = some [.char 't'] ∧
      ∃ phrases value, vocabulary.lookup? ['t'] = some phrases ∧
        found.slots.get? ['x'] = some value ∧
        (value = none → [] ∈ phrases ∨ phrases = []) ∧
        (phrases = [] → value = none) := by
  intro vocabulary template matcher found
  have hcompile : compile vocabulary template = .ok matcher := by
    simp only [template, compile, ofTemplate_goOn]
    rfl
  have hfree : ∀ c ∈ template, c ≠ '{' ∧ c ≠ '}' := not_brace_goOn
  have hmatch : matcher.match? "Go on".text true = .ok (some found) := by decide
  exact ⟨hcompile, hfree, hmatch, rfl, elided_typedSlot hcompile hfree hmatch rfl⟩

/-- An entity type without phrases passes the check of the vocabulary, and its slot
is elided although the empty phrase is not among its phrases. -/
theorem elided_without_phrases :
    let vocabulary : Vocabulary := ⟨[(['t'], [])]⟩
    let template := "go [x:t] on".text
    let matcher : Matcher :=
      { template, slots := [['x']], slotTypes := [(['x'], ['t'])]
        pattern := " go() on".text }
    let found : Match :=
      { template, utterance := "go on".text, slots := [(['x'], none)]
        parameters := [] }
    Vocabulary.ofRows [(.text ['t'], .array [])] = .ok vocabulary ∧
      compile vocabulary template = .ok matcher ∧
      (∀ c ∈ template, c ≠ '{' ∧ c ≠ '}') ∧
      matcher.match? "go on".text true = .ok (some found) ∧
      matcher.slotTypes.get? [.char 'x'] = some [.char 't'] ∧
      ¬ ∃ phrases value, vocabulary.lookup? ['t'] = some phrases ∧
        found.slots.get? ['x'] = some value ∧ (value = none → [] ∈ phrases) := by
  intro vocabulary template matcher found
  have hrows : Vocabulary.ofRows [(.text ['t'], .array [])] =
    .ok vocabulary := by rfl
  have hcompile : compile vocabulary template = .ok matcher := by
    simp only [template, compile, ofTemplate_goOn]
    rfl
  have hfree : ∀ c ∈ template, c ≠ '{' ∧ c ≠ '}' := not_brace_goOn
  have hmatch : matcher.match? "go on".text true = .ok (some found) := by decide
  refine ⟨hrows, hcompile, hfree, hmatch, rfl, ?_⟩
  rintro ⟨phrases, value, hphrases, hvalue, hempty⟩
  obtain rfl : [] = phrases := Option.some.inj hphrases
  obtain rfl : none = value := Option.some.inj hvalue
  cases hempty rfl

end Template

end UtteranceTemplate
