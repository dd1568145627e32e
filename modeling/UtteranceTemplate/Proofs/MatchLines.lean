import UtteranceTemplate.CommandLine.Run
import UtteranceTemplate.Proofs.CompileOutcome
import UtteranceTemplate.Proofs.CompiledMatcher
import UtteranceTemplate.Proofs.PatternLanguage

/-!
The lines that show a match.

Names and bound values consist of word characters, and what a slot takes is part of
the utterance in its normal form (`Matcher.IsSound.subset_normalize_of_mem_slots`).
So none of the lines that show a match holds a line feed (`Command.lines_of_match`):
each is printed as one line.
-/

namespace UtteranceTemplate

namespace Pattern

variable {ignoreCase : Bool} {p : Pattern} {text : Text}

theorem some_not_mem_unused (p : Pattern) (span : Span) : some span ∉ p.unused := by
  intro hmem
  cases List.eq_of_mem_replicate hmem

/-- What lies in the captures of a way begins somewhere in the text. -/
theorem isSuffix_of_mem_ways {way : Spans × Text} (h : way ∈ p.ways ignoreCase text)
    {span : Span} (hspan : some span ∈ way.1) : span.start <:+ text := by
  induction p generalizing text way with
  | empty | char | oneOf | anyText =>
      have hlength := length_of_mem_ways _ _ _ _ h
      rw [List.length_eq_zero_iff.mp hlength] at hspan
      cases hspan
  | cat p q ihp ihq =>
      simp only [ways, List.mem_flatMap, List.mem_map] at h
      obtain ⟨⟨kept, rest⟩, hfirst, second, hsecond, rfl⟩ := h
      rcases List.mem_append.mp hspan with hkept | hmore
      · exact ihp hfirst hkept
      · obtain ⟨front, rfl⟩ := exists_append_of_mem_ways hfirst
        exact (ihq hsecond hmore).trans (List.suffix_append front rest)
  | alt p q ihp ihq =>
      simp only [ways, List.mem_append, List.mem_map] at h
      rcases h with ⟨first, hfirst, rfl⟩ | ⟨second, hsecond, rfl⟩
      · rcases List.mem_append.mp hspan with hkept | hunused
        · exact ihp hfirst hkept
        · exact absurd hunused (some_not_mem_unused q span)
      · rcases List.mem_append.mp hspan with hunused | hkept
        · exact absurd hunused (some_not_mem_unused p span)
        · exact ihq hsecond hkept
  | opt p ih =>
      simp only [ways, List.mem_append, List.mem_singleton] at h
      rcases h with h | rfl
      · exact ih h hspan
      · exact absurd hspan (some_not_mem_unused p span)
  | capture p ih =>
      simp only [ways, List.mem_map] at h
      obtain ⟨first, hfirst, rfl⟩ := h
      rcases List.mem_cons.mp hspan with heq | hkept
      · cases heq
        exact List.suffix_rfl
      · exact ih hfirst hkept

/-- What the captures of a match keep is part of the text. -/
theorem subset_of_fullMatch? {captures : Captures}
    (h : p.fullMatch? ignoreCase text = some captures) {kept : Text}
    (hkept : some kept ∈ captures) : kept ⊆ text := by
  obtain ⟨spans, hway, rfl⟩ := exists_way_of_fullMatch? h
  obtain ⟨span?, hspan, htext⟩ := List.mem_map.mp hkept
  obtain ⟨span, rfl, rfl⟩ := Option.map_eq_some_iff.mp htext
  have hstart := isSuffix_of_mem_ways hway hspan
  exact List.Subset.trans (List.take_sublist _ _).subset hstart.subset

end Pattern

namespace Matcher

variable {vocabulary : Vocabulary} {declared : List (Text × Option Text)}
  {matcher : Matcher}

/-- What a slot takes is part of the utterance in its normal form. -/
theorem IsSound.subset_normalize_of_mem_slots
    (h : matcher.IsSound vocabulary declared) {utterance : Text} {ignoreCase : Bool}
    {found : Match} (hmatch : matcher.match? utterance ignoreCase = .ok (some found))
    {slot value : Text} (hslot : (slot, some value) ∈ found.slots) :
    value ⊆ Utterance.normalize utterance := by
  obtain ⟨outcome, houtcome, hfound⟩ := h.match?_eq_ok utterance ignoreCase
  rw [hmatch, Except.ok.injEq] at houtcome
  obtain ⟨captures, hcaptures, _, hslots, _⟩ := hfound found houtcome.symm
  rw [hslots] at hslot
  obtain ⟨kept, hkept, htaken⟩ := List.mem_map.mp (List.of_mem_zip hslot).2
  obtain ⟨pattern, _, hfull⟩ := map_eq_ok_iff.mp hcaptures
  cases kept with
  | none => cases htaken
  | some text =>
      have htrim : value = text.trim := by
        simp only [slotValue] at htaken
        split at htaken
        · cases htaken
        · exact (Option.some.inj htaken).symm
      rw [htrim]
      exact List.Subset.trans (Text.trim_subset text)
        (Pattern.subset_of_fullMatch? hfull hkept)

end Matcher

namespace Fragment

/-- The names of slots and parameters, and the values of parameters, consist of
word characters. -/
theorem IsSource.isWordChar {fragment : Fragment} {source : Text}
    (h : fragment.IsSource source) :
    (∀ slot, fragment.slot? = some slot → ∀ c ∈ slot.1, isWordChar c = true) ∧
      ∀ binding, fragment.binding? = some binding →
        (∀ c ∈ binding.1, isWordChar c = true) ∧ ∀ c ∈ binding.2,
          isWordChar c = true := by
  cases h with
  | parameter hname hvalue =>
      refine ⟨by simp [slot?], ?_⟩
      rintro binding ⟨⟩
      exact ⟨hname.2.1, hvalue.2.1⟩
  | untypedSlot hname | typedSlot hname _ =>
      refine ⟨?_, by simp [binding?]⟩
      rintro slot ⟨⟩
      exact hname.2.1
  | alternatives | words => exact ⟨by simp [slot?], by simp [binding?]⟩

end Fragment

namespace Template

theorem ReadsAs.isSource_of_mem {text unread : Text} {parts : List (Text × Fragment)}
    (h : ReadsAs text parts unread) {part : Text × Fragment} (hpart : part ∈ parts) :
    part.2.IsSource part.1 := by
  induction h with
  | stop => cases hpart
  | part _ _ hsource _ _ ih =>
      rcases List.mem_cons.mp hpart with rfl | hrest
      · exact hsource
      · exact ih hrest

variable {vocabulary : Vocabulary} {template : Text} {matcher : Matcher}

theorem isWordChar_of_mem_slots (h : compile vocabulary template = .ok matcher)
    {slot : Text} (hslot : slot ∈ matcher.slots) :
    ∀ c ∈ slot, isWordChar c = true := by
  obtain ⟨hreads, _, hmade⟩ := isMadeOf_of_compile h
  rw [hmade.slots] at hslot
  obtain ⟨found, hfound, rfl⟩ := List.mem_map.mp hslot
  obtain ⟨part, hpart, hname⟩ := List.mem_filterMap.mp hfound
  exact (hreads.isSource_of_mem hpart).isWordChar.1 found hname

theorem isWordChar_of_mem_parameters (h : compile vocabulary template = .ok matcher)
    {binding : Text × Text} (hbinding : binding ∈ matcher.parameters) :
    (∀ c ∈ binding.1, isWordChar c = true) ∧ ∀ c ∈ binding.2,
      isWordChar c = true := by
  obtain ⟨hreads, _, hmade⟩ := isMadeOf_of_compile h
  rw [hmade.parameters] at hbinding
  obtain ⟨part, hpart, hbound⟩ :=
    List.mem_filterMap.mp (Entries.mem_of_mem_ofPairs hbinding)
  exact (hreads.isSource_of_mem hpart).isWordChar.2 binding hbound

end Template

theorem newline_not_mem_of_isWordChar {text : Text}
    (h : ∀ c ∈ text, isWordChar c = true) :
    .char '\n' ∉ text := by
  intro hmem
  have hword := h _ hmem
  rw [not_isWordChar_of_isBlank (by decide)] at hword
  cases hword

/-- A match has the parameters of the matcher. -/
theorem Matcher.parameters_of_match? {matcher : Matcher} {utterance : Text}
    {ignoreCase : Bool} {found : Match}
    (hmatch : matcher.match? utterance ignoreCase = .ok (some found)) :
    found.parameters = matcher.parameters := by
  obtain ⟨kept, _, hkept⟩ := map_eq_ok_iff.mp hmatch
  obtain ⟨captures, _, rfl⟩ := Option.map_eq_some_iff.mp hkept
  rfl

namespace Command

variable {vocabulary : Vocabulary} {template utterance : Text} {matcher : Matcher}
  {ignoreCase : Bool} {found : Match}

/-- What is shown of a slot holds no line feed: neither its name nor the
words that it takes. -/
theorem newline_not_mem_of_mem_slots
    (h : Template.compile vocabulary template = .ok matcher)
    (hmatch : matcher.match? utterance ignoreCase = .ok (some found))
    (hkeys : found.slots.keys = matcher.slots) {slot : Text} {value : Option Text}
    (hslot : (slot, value) ∈ found.slots) :
    .char '\n' ∉ slot ∧ .char '\n' ∉ value.getD "(empty)".text := by
  constructor
  · apply newline_not_mem_of_isWordChar
    apply Template.isWordChar_of_mem_slots h
    rw [← hkeys]
    exact List.mem_map_of_mem hslot
  · cases value with
    | none => decide
    | some text =>
        obtain ⟨draft, hholds, rfl⟩ := Template.exists_draft_of_compile h
        intro hmem
        apply (Text.isSpaced_normalize utterance).newline_not_mem
        exact (hholds.isSound template).subset_normalize_of_mem_slots
          hmatch hslot hmem

theorem newline_not_mem_matchLines
    (h : Template.compile vocabulary template = .ok matcher)
    (hmatch : matcher.match? utterance ignoreCase = .ok (some found))
    (hkeys : found.slots.keys = matcher.slots) {line : Text}
    (hline : line ∈ matchLines found) :
    .char '\n' ∉ line := by
  rcases List.mem_cons.mp hline with rfl | hline
  · decide
  · rcases List.mem_append.mp hline with hslots | hbindings
    · obtain ⟨⟨slot, value⟩, hslot, rfl⟩ := List.mem_map.mp hslots
      obtain ⟨hname, hvalue⟩ := newline_not_mem_of_mem_slots h hmatch hkeys hslot
      have hshown : .char '\n' ∉
          "  ".text ++ slot ++ " = ".text ++ value.getD "(empty)".text := by
        rw [List.mem_append, not_or]
        exact ⟨by simp [hname, String.text], hvalue⟩
      exact hshown
    · obtain ⟨⟨name, value⟩, hbinding, rfl⟩ := List.mem_map.mp hbindings
      rw [Matcher.parameters_of_match? hmatch] at hbinding
      obtain ⟨hname, hvalue⟩ := Template.isWordChar_of_mem_parameters h hbinding
      have hname' := newline_not_mem_of_isWordChar hname
      have hvalue' := newline_not_mem_of_isWordChar hvalue
      simp [hname', hvalue', String.text]

/-- What shows a match are one line for each slot and one for each parameter, in
their order, behind the line that says so. -/
theorem lines_of_match (h : Template.compile vocabulary template = .ok matcher)
    (hmatch : matcher.match? utterance ignoreCase = .ok (some found)) :
    found.slots.keys = matcher.slots ∧ found.parameters = matcher.parameters ∧
      ∀ line ∈ matchLines found, .char '\n' ∉ line := by
  obtain ⟨draft, hholds, rfl⟩ := Template.exists_draft_of_compile h
  obtain ⟨outcome, houtcome, hfound⟩ :=
    (hholds.isSound template).match?_eq_ok utterance ignoreCase
  rw [hmatch, Except.ok.injEq] at houtcome
  obtain ⟨captures, _, _, _, hkeys⟩ := hfound found houtcome.symm
  exact ⟨hkeys, Matcher.parameters_of_match? hmatch,
    fun line hline => newline_not_mem_matchLines h hmatch hkeys hline⟩

end Command

end UtteranceTemplate
