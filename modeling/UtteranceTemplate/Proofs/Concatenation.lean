import Mathlib.Data.List.Induction
import Mathlib.Data.List.Nodup
import UtteranceTemplate.Proofs.BraceOrder

/-!
Compiling a template that is two templates with a gap between them.

The gap keeps the words of the two apart, and if the braces of the first are closed,
none of them pairs with one of the second. So the matcher of the whole is put
together from those of the parts, unless they share a slot name; then the first slot
of the second template with such a name offends (`Template.compile_concatenation`).
-/

namespace UtteranceTemplate

open Pattern Token Text

variable {vocabulary : Vocabulary} {template : Text} {taken : List Text}
  {part : Text × Fragment} {parts front back joined : List (Text × Fragment)}
  {touch : Bool} {error : TemplateError}

theorem Fragment.not_offends_iff :
    (∀ error, ¬ Fragment.Offends vocabulary template taken part error) ↔
      ∀ slot type?, part.2.slot? = some (slot, type?) →
        (∀ type, type? = some type → vocabulary.lookup? type ≠ none) ∧
          slot ∉ taken := by
  obtain ⟨source, fragment⟩ := part
  constructor
  · intro h slot type? hslot
    have hknown : ∀ type, type? = some type → vocabulary.lookup? type ≠ none := by
      rintro type rfl hunknown
      cases fragment with
      | typedSlot name other =>
          cases hslot
          exact h _ (.unknownType hunknown)
      | untypedSlot | parameter | alternatives | words => cases hslot
    exact ⟨hknown, fun htaken => h _ (.repeatedSlot hslot hknown htaken)⟩
  · rintro h error (hunknown | ⟨hslot, _, htaken⟩)
    · exact (h _ _ rfl).1 _ rfl hunknown
    · exact (h _ _ hslot).2 htaken

namespace Template

theorem slotsOf_cons_of_none (h : part.2.slot? = none)
    (parts : List (Text × Fragment)) :
    slotsOf (part :: parts) = slotsOf parts := by
  rw [slotsOf, List.filterMap_cons, h, slotsOf]

theorem slotsOf_cons_of_some {slot : Text × Option Text}
    (h : part.2.slot? = some slot) (parts : List (Text × Fragment)) :
    slotsOf (part :: parts) = slot :: slotsOf parts := by
  rw [slotsOf, List.filterMap_cons, h, slotsOf]

theorem slotNames_cons_of_none (h : part.2.slot? = none)
    (parts : List (Text × Fragment)) :
    slotNames (part :: parts) = slotNames parts := by
  rw [slotNames, slotsOf_cons_of_none h, slotNames]

theorem slotNames_cons_of_some {name : Text} {type? : Option Text}
    (h : part.2.slot? = some (name, type?)) (parts : List (Text × Fragment)) :
    slotNames (part :: parts) = name :: slotNames parts := by
  rw [slotNames, slotsOf_cons_of_some h]
  rfl

/-- No fragment offends exactly if all entity types are known and no name is
taken twice. -/
theorem noneOffends_iff :
    NoneOffends vocabulary template taken parts ↔
      (∀ slot type, (slot, some type) ∈ slotsOf parts →
        vocabulary.lookup? type ≠ none) ∧
        (slotNames parts).Nodup ∧ ∀ slot ∈ slotNames parts, slot ∉ taken := by
  induction parts generalizing taken with
  | nil => simp [noneOffends_nil, slotsOf, slotNames]
  | cons part parts ih =>
      rw [noneOffends_cons, Fragment.not_offends_iff, ih]
      cases hslot : part.2.slot? with
      | none =>
          rw [slotNames_cons_of_none hslot, slotNames_cons_of_none hslot,
            slotNames_nil, slotsOf_cons_of_none hslot, List.append_nil]
          simp
      | some slot =>
          obtain ⟨name, type?⟩ := slot
          rw [slotNames_cons_of_some hslot, slotNames_cons_of_some hslot,
            slotNames_nil, slotsOf_cons_of_some hslot, List.nodup_cons]
          constructor
          · rintro ⟨hpart, hknown, hnodup, hnew⟩
            obtain ⟨htype, hname⟩ := hpart name type? rfl
            refine ⟨?_, ⟨?_, hnodup⟩, ?_⟩
            · intro slot type hmem
              rcases List.mem_cons.mp hmem with heq | hmem
              · exact htype type (Prod.mk.inj heq).2.symm
              · exact hknown slot type hmem
            · intro hmem
              exact hnew name hmem (by simp)
            · intro slot hmem
              rcases List.mem_cons.mp hmem with rfl | hmem
              · exact hname
              · exact fun htaken => hnew slot hmem (List.mem_append_left _ htaken)
          · rintro ⟨hknown, ⟨hfresh, hnodup⟩, hnew⟩
            refine ⟨?_, ?_, hnodup, ?_⟩
            · rintro _ _ ⟨⟩
              refine ⟨?_, hnew name List.mem_cons_self⟩
              rintro type rfl
              exact hknown name type List.mem_cons_self
            · intro slot type hmem
              exact hknown slot type (List.mem_cons_of_mem _ hmem)
            · intro slot hmem htaken
              rcases List.mem_append.mp htaken with htaken | hlast
              · exact hnew slot (List.mem_cons_of_mem _ hmem) htaken
              · rw [List.mem_singleton.mp hlast] at hmem
                exact hfresh hmem

theorem slot?_eq_none_of_not_isMarked (h : isMarked part = false) :
    part.2.slot? = none := by
  obtain ⟨source, fragment⟩ := part
  cases fragment with
  | words run => rfl
  | parameter | untypedSlot | typedSlot | alternatives =>
      simp [isMarked, Fragment.production] at h

/-- Runs of words do not offend. -/
theorem firstOffence_filter_isMarked :
    FirstOffence vocabulary template taken (parts.filter isMarked) error ↔
      FirstOffence vocabulary template taken parts error := by
  induction parts generalizing taken with
  | nil => rfl
  | cons part parts ih =>
      cases hmarked : isMarked part with
      | true => rw [List.filter_cons_of_pos hmarked, firstOffence_cons,
          firstOffence_cons, ih]
      | false =>
          have hslot := slot?_eq_none_of_not_isMarked hmarked
          have hnone : ∀ error',
              ¬ Fragment.Offends vocabulary template taken part error' := by
            rw [Fragment.not_offends_iff, hslot]
            rintro _ _ ⟨⟩
          rw [List.filter_cons_of_neg (by simp [hmarked]), firstOffence_cons,
            slotNames_cons_of_none hslot, slotNames_nil, List.append_nil, ih]
          constructor
          · exact fun h => Or.inr ⟨hnone, h⟩
          · rintro (hoffends | ⟨_, h⟩)
            · exact absurd hoffends (hnone error)
            · exact h

theorem firstOffence_append (h : NoneOffends vocabulary template taken front) :
    FirstOffence vocabulary template taken (front ++ back) error ↔
      FirstOffence vocabulary template (taken ++ slotNames front) back error := by
  induction front generalizing taken with
  | nil => rw [slotNames_nil, List.append_nil, List.nil_append]
  | cons part front ih =>
      obtain ⟨hnone, hrest⟩ := noneOffends_cons.mp h
      rw [List.cons_append, firstOffence_cons, ih hrest, slotNames_cons part front,
        List.append_assoc]
      constructor
      · rintro (hoffends | ⟨_, hlater⟩)
        · exact absurd hoffends (hnone error)
        · exact hlater
      · exact fun hlater => Or.inr ⟨hnone, hlater⟩

/-- What a row declares and binds does not depend on its runs of words. -/
theorem filterMap_filter_isMarked {α : Type} {f : Fragment → Option α}
    (hwords : ∀ run, f (.words run) = none) (parts : List (Text × Fragment)) :
    (parts.filter isMarked).filterMap (fun part => f part.2) =
      parts.filterMap fun part => f part.2 := by
  rw [List.filterMap_filter]
  apply List.filterMap_congr
  rintro ⟨source, fragment⟩ _
  cases fragment with
  | words run => simp [isMarked, Fragment.production, hwords]
  | parameter | untypedSlot | typedSlot | alternatives =>
      simp [isMarked, Fragment.production]

theorem Joins.filterMap {α : Type} {f : Fragment → Option α}
    (h : Joins vocabulary front back touch joined)
    (hwords : ∀ run, f (.words run) = none) :
    joined.filterMap (fun part => f part.2) =
      front.filterMap (fun part => f part.2) ++ back.filterMap fun part =>
        f part.2 := by
  rw [← filterMap_filter_isMarked hwords joined, h.marked, List.filterMap_append,
    filterMap_filter_isMarked hwords, filterMap_filter_isMarked hwords]

theorem Joins.slotsOf_eq (h : Joins vocabulary front back touch joined) :
    slotsOf joined = slotsOf front ++ slotsOf back :=
  h.filterMap fun _ => rfl

theorem Joins.bindingsOf_eq (h : Joins vocabulary front back touch joined) :
    bindingsOf joined = bindingsOf front ++ bindingsOf back :=
  h.filterMap fun _ => rfl

theorem Joins.slotNames_eq (h : Joins vocabulary front back touch joined) :
    slotNames joined = slotNames front ++ slotNames back := by
  rw [slotNames, h.slotsOf_eq, List.map_append]
  rfl

/-- If no fragment of two rows offends on its own, none offends in the two together
exactly if they have no slot name in common. -/
theorem Joins.noneOffends_iff {first second : Text}
    (h : Joins vocabulary front back touch joined)
    (hfront : NoneOffends vocabulary first [] front)
    (hback : NoneOffends vocabulary second [] back) :
    NoneOffends vocabulary template [] joined ↔
      (slotNames front).Disjoint (slotNames back) := by
  obtain ⟨hfrontKnown, hfrontNodup, _⟩ := Template.noneOffends_iff.mp hfront
  obtain ⟨hbackKnown, hbackNodup, _⟩ := Template.noneOffends_iff.mp hback
  rw [Template.noneOffends_iff, h.slotsOf_eq, h.slotNames_eq, List.nodup_append']
  constructor
  · rintro ⟨_, ⟨_, _, hdisjoint⟩, _⟩
    exact hdisjoint
  · intro hdisjoint
    refine ⟨?_, ⟨hfrontNodup, hbackNodup, hdisjoint⟩, by simp⟩
    intro slot type hmem
    rcases List.mem_append.mp hmem with hmem | hmem
    · exact hfrontKnown slot type hmem
    · exact hbackKnown slot type hmem

/-- If the two rows have a slot name in common, the first offence is that of the
first slot of the second row whose name the first row takes. -/
theorem Joins.firstOffence {first second : Text}
    (h : Joins vocabulary front back touch joined)
    (hfront : NoneOffends vocabulary first [] front)
    (hback : NoneOffends vocabulary second [] back)
    (hoffence : FirstOffence vocabulary template [] joined error) :
    ∃ before source fragment after slot type?,
      back = before ++ (source, fragment) :: after ∧
      (∀ name ∈ slotNames before, name ∉ slotNames front) ∧
        fragment.slot? = some (slot, type?) ∧ slot ∈ slotNames front ∧
          error = .repeatedSlot slot source template := by
  rw [← firstOffence_filter_isMarked, h.marked, ← List.filter_append,
    firstOffence_filter_isMarked, firstOffence_append
      (Template.noneOffends_iff.mpr (Template.noneOffends_iff.mp hfront)),
    List.nil_append] at hoffence
  obtain ⟨before, ⟨source, fragment⟩, after, rfl, hbefore, hoffends⟩ := hoffence
  obtain ⟨hknown, hnodup, _⟩ := Template.noneOffends_iff.mp hback
  cases hoffends with
  | @unknownType _ slot type hunknown =>
      refine absurd hunknown (hknown slot type ?_)
      simp [slotsOf, Fragment.slot?]
  | @repeatedSlot _ slot _ type? hslot _ htaken =>
      refine ⟨before, source, fragment, after, slot, type?, rfl,
        (Template.noneOffends_iff.mp hbefore).2.2, hslot, ?_, rfl⟩
      -- the second row takes no name twice, so the name is one of the first row
      rcases List.mem_append.mp htaken with hmem | hmem
      · exact hmem
      · rw [slotNames_append, slotNames_cons_of_some hslot] at hnodup
        exact absurd List.mem_cons_self ((List.nodup_append'.mp hnodup).2.2 hmem)

/-- If no run of the first row goes on in the second and no brace of the first is
open for a brace of the second, the matcher of the rows together consists of the
matchers of the two. -/
theorem Joins.isMadeOf {first second template : Text} {matcher next whole : Matcher}
    (h : Joins vocabulary front back false joined)
    (hclosed : Token.Closed (tokensOf vocabulary front))
    (hfirst : matcher.IsMadeOf vocabulary first front)
    (hsecond : next.IsMadeOf vocabulary second back)
    (hwhole : whole.IsMadeOf vocabulary template joined) :
    whole.pattern = matcher.pattern ++ next.pattern ∧
      whole.slots = matcher.slots ++ next.slots ∧
      whole.slotTypes = matcher.slotTypes ++ next.slotTypes ∧
      whole.parameters = matcher.parameters.putAll next.parameters := by
  refine ⟨?_, ?_, ?_, ?_⟩
  · rw [hwhole.pattern, h.tokens, if_neg Bool.false_ne_true,
      resolveBraces_append_of_closed _ _ hclosed, textOf_append, hfirst.pattern,
        hsecond.pattern]
  · rw [hwhole.slots, h.slotNames_eq, hfirst.slots, hsecond.slots]
  · rw [hwhole.slotTypes, h.slotsOf_eq, hfirst.slotTypes, hsecond.slotTypes,
      typedEntries, List.filterMap_append]
    rfl
  · rw [hwhole.parameters, hfirst.parameters, hsecond.parameters,
      Entries.putAll_ofPairs, h.bindingsOf_eq]
    exact Entries.putAll_append _ _ _

/-- Compiling two templates with a gap between them. If the last brace of the first
is not an opening one, the two compile together exactly if they have no slot name in
common, and then the matcher consists of those of the two. If they have one, the
first slot of the second template with such a name offends. -/
theorem compile_concatenation {first second gap : Text} {matcher next : Matcher}
    (hfirst : compile vocabulary first = .ok matcher)
    (hsecond : compile vocabulary second = .ok next) (hopen : endsOpen first = false)
    (hne : gap ≠ []) (hgap : IsGap gap) :
    ((∃ whole, compile vocabulary (first ++ (gap ++ second)) = .ok whole) ↔
      matcher.slots.Disjoint next.slots) ∧
    (∀ whole, compile vocabulary (first ++ (gap ++ second)) = .ok whole →
      whole.pattern = matcher.pattern ++ next.pattern ∧
        whole.slots = matcher.slots ++ next.slots ∧
        whole.slotTypes = matcher.slotTypes ++ next.slotTypes ∧
        whole.parameters = matcher.parameters.putAll next.parameters ∧
        whole.parameters.keys = matcher.parameters.keys ++
          next.parameters.keys.filter
            (fun key => !matcher.parameters.keys.contains key) ∧
        ∀ key, whole.parameters.get? key =
          (next.parameters.get? key).or (matcher.parameters.get? key)) ∧
    (¬ matcher.slots.Disjoint next.slots →
      ∃ before source fragment after slot type?,
        (Reading.ofTemplate second).parts = before ++ (source, fragment) :: after ∧
          (∀ name ∈ slotNames before, name ∉ matcher.slots) ∧
          fragment.slot? = some (slot, type?) ∧ slot ∈ matcher.slots ∧
          compile vocabulary (first ++ (gap ++ second)) =
            .error (.repeatedSlot slot source (first ++ (gap ++ second)))) := by
  obtain ⟨hfirstReads, hfirstNone, hfirstMade⟩ := isMadeOf_of_compile hfirst
  obtain ⟨hsecondReads, hsecondNone, hsecondMade⟩ := isMadeOf_of_compile hsecond
  obtain ⟨joined, hreads, hjoins⟩ :=
    hfirstReads.append (hsecondReads.gap_append hgap) vocabulary
  rw [beginsInRun_gap_append hgap hne, Bool.and_false] at hjoins
  obtain ⟨hparts, hunread⟩ := readsAs_iff.mp hreads
  have hok : (∃ whole, compile vocabulary (first ++ (gap ++ second)) = .ok whole) ↔
      matcher.slots.Disjoint next.slots := by
    rw [exists_compile_iff, hparts, hunread,
      hjoins.noneOffends_iff hfirstNone hsecondNone, hfirstMade.slots,
        hsecondMade.slots]
    simp
  refine ⟨hok, ?_, ?_⟩
  · intro whole hwhole
    obtain ⟨_, _, hmade⟩ := isMadeOf_of_compile hwhole
    rw [hparts] at hmade
    obtain ⟨hpattern, hslots, hslotTypes, hparameters⟩ :=
      hjoins.isMadeOf (hfirstReads.closed hopen vocabulary) hfirstMade
        hsecondMade hmade
    have hkeys : next.parameters.keys.Nodup := by
      rw [hsecondMade.parameters]
      exact Entries.nodup_keys_ofPairs _
    refine ⟨hpattern, hslots, hslotTypes, hparameters, ?_, ?_⟩
    · rw [hparameters, Entries.keys_putAll hkeys]
    · intro key
      rw [hparameters, Entries.get?_putAll hkeys]
  · intro hshared
    cases hcompile : compile vocabulary (first ++ (gap ++ second)) with
    | ok whole => exact absurd (hok.mp ⟨whole, hcompile⟩) hshared
    | error error =>
        rcases compile_eq_error_iff.mp hcompile with hoffence | ⟨_, hrest, _⟩
        · rw [hparts] at hoffence
          obtain ⟨before, source, fragment, after, slot, type?, hsplit, hbefore,
              hslot, htaken, rfl⟩ :=
            hjoins.firstOffence hfirstNone hsecondNone hoffence
          rw [hfirstMade.slots]
          exact ⟨before, source, fragment, after, slot, type?, hsplit, hbefore,
            hslot, htaken, rfl⟩
        · exact absurd hunread hrest

theorem ofTemplate_goUp :
    Reading.ofTemplate "go\x7b on\x7d [n=1] up".text =
      ⟨[⟨0, "go\x7b on\x7d ".text, .words "go\x7b on\x7d ".text⟩,
        ⟨8, "[n=1]".text, .parameter ['n'] ['1']⟩,
          ⟨14, "up".text, .words "up".text⟩], []⟩ := by
  decide +kernel

theorem ofTemplate_thenDown :
    Reading.ofTemplate "then [x][ n = 2] down [y:t] [m=3]".text =
      ⟨[⟨0, "then ".text, .words "then ".text⟩, ⟨5, "[x]".text, .untypedSlot ['x']⟩,
        ⟨8, "[ n = 2]".text, .parameter ['n'] ['2']⟩,
        ⟨17, "down ".text, .words "down ".text⟩,
        ⟨22, "[y:t]".text, .typedSlot ['y'] ['t']⟩,
        ⟨28, "[m=3]".text, .parameter ['m'] ['3']⟩], []⟩ := by
  decide +kernel

theorem endsOpen_goUp : endsOpen "go\x7b on\x7d [n=1] up".text = false := by
  decide

theorem endsOpen_thenDown :
    endsOpen "then [x][ n = 2] down [y:t] [m=3]".text = false := by
  decide

/-- Two templates that bind the same parameter, and the second of them twice. -/
theorem compile_concatenation_sharedParameter :
    let vocabulary : Vocabulary := ⟨[(['t'], ["a b".text])]⟩
    let first := "go\x7b on\x7d [n=1] up".text
    let second := "then [x][ n = 2] down [y:t] [m=3]".text
    let gap := "\t ".text
    let matcher : Matcher :=
      { template := first, parameters := [(['n'], ['1'])]
        pattern := " go(?: on)? up".text }
    let next : Matcher :=
      { template := second, slots := [['x'], ['y']], slotTypes := [(['y'], ['t'])]
        parameters := [(['n'], ['2']), (['m'], ['3'])]
        pattern := " then( .+?) down( a b)".text }
    compile vocabulary first = .ok matcher ∧ compile vocabulary second = .ok next ∧
      endsOpen first = false ∧ endsOpen second = false ∧
      (∃ whole, compile vocabulary (first ++ (gap ++ second)) = .ok whole ∧
        whole.pattern = " go(?: on)? up then( .+?) down( a b)".text ∧
        whole.parameters =
          [([.char 'n'], [.char '2']), ([.char 'm'], [.char '3'])]) ∧
      ∃ slot source, slot ∈ next.slots ∧
        compile vocabulary (second ++ (gap ++ second)) =
        .error (.repeatedSlot slot source (second ++ (gap ++ second))) := by
  intro vocabulary first second gap matcher next
  have hfirst : compile vocabulary first = .ok matcher := by
    simp only [first, compile, ofTemplate_goUp]
    rfl
  have hsecond : compile vocabulary second = .ok next := by
    simp only [second, compile, ofTemplate_thenDown]
    rfl
  have hgap : ∀ c ∈ gap, isBlank c = true := List.all_eq_true.mp (by decide)
  obtain ⟨hok, hmade, _⟩ :=
    compile_concatenation hfirst hsecond endsOpen_goUp (by decide) hgap
  obtain ⟨_, _, hshared⟩ :=
    compile_concatenation hsecond hsecond endsOpen_thenDown (by decide) hgap
  obtain ⟨whole, hwhole⟩ := hok.mpr (by simp [matcher])
  obtain ⟨hpattern, _, _, hparameters, _⟩ := hmade whole hwhole
  obtain ⟨_, source, _, _, slot, _, _, _, _, htaken, herror⟩ :=
    hshared (by simp [next])
  exact ⟨hfirst, hsecond, endsOpen_goUp, endsOpen_thenDown,
    ⟨whole, hwhole, hpattern, hparameters⟩, slot, source, htaken, herror⟩

end Template

end UtteranceTemplate
