import UtteranceTemplate.Proofs.Concatenation
import UtteranceTemplate.Proofs.Respacing

/-!
Templates that differ in their spacing only.

Where a fragment begins one text, a fragment with the same tokens begins any text
that is spaced alike, and what follows is spaced alike again
(`Fragment.Begins.spacedAlike`). So the two texts have readings of such fragments
(`Template.ReadsAs.spacedAlike`), which compile to the same matcher or fail for the
same reason (`Template.compile_singleSpaced`).
-/

namespace UtteranceTemplate

open Pattern Text

namespace Fragment

/-- Whether two choices are told apart by their spacing only. -/
def IsSameChoice (left right : Text) : Prop :=
  Text.words left = Text.words right ∧ (left = [] ↔ right = [])

/-- Whether two fragments are told apart by the spacing of their words only. -/
inductive Alike : Fragment → Fragment → Prop
  | same (fragment : Fragment) : Alike fragment fragment
  | alternatives {left right : List Text}
      (h : List.Forall₂ IsSameChoice left right) :
      Alike (.alternatives left) (.alternatives right)
  | words {left right : Text} (h : Text.words left = Text.words right) :
      Alike (.words left) (.words right)

variable {left right : Fragment} {text text' rest : Text} {loose : Bool}

theorem templateTokens_eq (h : Text.words text = Text.words text') :
    templateTokens text = templateTokens text' := by
  rw [templateTokens, templateTokens, singleSpaced, singleSpaced, h]

theorem branchTokens_eq {choices choices' : List Text}
    (h : List.Forall₂ IsSameChoice choices choices') :
    branchTokens templateTokens choices = branchTokens templateTokens choices' := by
  rw [branchTokens, branchTokens]
  congr 1
  induction h with
  | nil => rfl
  | @cons choice choice' choices choices' hchoice _ ih =>
      have hempty : choice.isEmpty = choice'.isEmpty := by
        rw [Bool.eq_iff_iff, List.isEmpty_iff, List.isEmpty_iff]
        exact hchoice.2
      rw [List.map_cons, List.map_cons, ih, hempty, templateTokens_eq hchoice.1]

namespace Alike

theorem tokens_eq (h : Alike left right) (vocabulary : Vocabulary) :
    left.tokens vocabulary = right.tokens vocabulary := by
  cases h with
  | same => rfl
  | alternatives h =>
      rw [tokens, tokens, alternativesTokens, alternativesTokens, branchTokens_eq h]
  | words h => rw [tokens, tokens, wordsTokens, wordsTokens, templateTokens_eq h]

theorem slot?_eq (h : Alike left right) : left.slot? = right.slot? := by
  cases h <;> rfl

theorem binding?_eq (h : Alike left right) : left.binding? = right.binding? := by
  cases h <;> rfl

end Alike

/-- Spacing around a name does not matter. -/
theorem IsPadded.spacedAlike {name : Text} (h : IsPadded name text)
    (halike : SpacedAlike loose text text') :
    IsPadded name text' := by
  obtain ⟨hne, hname, before, after, hbefore, hafter, rfl⟩ := h
  have hletters : ∀ c ∈ name, isBlank c = false :=
    fun c hc => not_isBlank_of_isWordChar (hname c hc)
  have hwords : Text.words text' = [name] := by
    rw [← halike.words_eq, words_append_isGap _ hafter, words_isGap_append hbefore,
      words_of_letters hne hletters]
  exact ⟨hne, hname, exists_of_words_eq_singleton hwords⟩

/-- Spacing in a group does not matter to its choices. -/
theorem forall₂_choicesOf {interior interior' : Text}
    (h : SpacedAlike false interior interior') :
    List.Forall₂ IsSameChoice (choicesOf interior) (choicesOf interior') := by
  have hpieces := h.cutAt (c := '|') (by decide)
  rw [choicesOf, choicesOf, List.forall₂_map_left_iff, List.forall₂_map_right_iff]
  refine hpieces.imp fun piece piece' hpiece => ?_
  rw [IsSameChoice, words_trim, words_trim, trim_eq_nil_iff, trim_eq_nil_iff,
    hpiece.words_eq]
  exact ⟨rfl, Iff.rfl⟩

theorem forall_isOpening_eq_false {run run' : Text}
    (halike : SpacedAlike loose run run') (hopen : ∀ c ∈ run, isOpening c = false) :
    ∀ c ∈ run', isOpening c = false := by
  intro c hc
  cases hopening : isOpening c with
  | false => rfl
  | true =>
      have hmem := (halike.mem_iff (not_isBlank_of_isOpening hopening)).mpr hc
      rw [hopen c hmem] at hopening
      cases hopening

/-- Where a run of words begins a text, one with the same words begins every text
that is spaced alike. -/
theorem exists_begins_words {run : Text} (hne : run ≠ [])
    (hopen : ∀ c ∈ run, isOpening c = false)
    (hend : ∀ c, rest.head? = some c → isOpening c = true)
    (halike : SpacedAlike loose (run ++ rest) text')
    (hhead : ∀ c, (run ++ rest).head? = some c → isBlank c = false) :
    ∃ right rest', right.Begins text' rest' ∧ Alike (.words run) right ∧
      SpacedAlike loose rest rest' := by
  cases rest with
  | nil =>
      rw [List.append_nil] at halike hhead
      have hne' : text' ≠ [] := by
        cases run with
        | nil => exact absurd rfl hne
        | cons c run =>
            obtain ⟨_, rfl, _⟩ := halike.cut_cons (hhead c rfl)
            exact List.cons_ne_nil _ _
      have hwords := IsSource.words hne' (forall_isOpening_eq_false halike hopen)
      exact ⟨_, [], ⟨_, hwords, (List.append_nil _).symm, nofun⟩,
        .words halike.words_eq, .finish isGap_nil isGap_nil (.inr Iff.rfl)⟩
  | cons c rest =>
      have hopening := hend c rfl
      have hc := not_isBlank_of_isOpening hopening
      obtain ⟨run', rest', rfl, hruns, hrest⟩ := halike.cut hc
      have hne' : run' ≠ [] := fun hnil => hne (hruns.eq_nil_iff.mpr hnil)
      have hwords := IsSource.words hne' (forall_isOpening_eq_false hruns hopen)
      exact ⟨_, c :: rest', ⟨_, hwords, rfl, fun _ => by simp [hopening]⟩,
        .words hruns.words_eq, .letter hc hrest⟩

/-- Where a fragment begins a text, one that is alike begins every text that
is spaced alike. -/
theorem Begins.spacedAlike (h : left.Begins text rest)
    (halike : SpacedAlike loose text text')
    (hhead : ∀ c, text.head? = some c → isBlank c = false) :
    ∃ right rest', right.Begins text' rest' ∧ Alike left right ∧
      SpacedAlike loose rest rest' := by
  obtain ⟨source, hsource, rfl, hend⟩ := h
  cases hsource with
  | parameter hname hvalue =>
      obtain ⟨_, _, rest', rfl, hleft, hright, hrest⟩ :=
        halike.cut_enclosed_pair (by decide) (by decide) (by decide)
      exact ⟨_, rest', ⟨_, .parameter (hname.spacedAlike hleft)
        (hvalue.spacedAlike hright), rfl, nofun⟩, .same _, hrest⟩
  | untypedSlot hname =>
      obtain ⟨_, rest', rfl, hinside, hrest⟩ :=
        halike.cut_enclosed (by decide) (by decide)
      exact ⟨_, rest', ⟨_, .untypedSlot (hname.spacedAlike hinside), rfl, nofun⟩,
        .same _, hrest⟩
  | typedSlot hname htype =>
      obtain ⟨_, _, rest', rfl, hleft, hright, hrest⟩ :=
        halike.cut_enclosed_pair (by decide) (by decide) (by decide)
      exact ⟨_, rest', ⟨_,
        .typedSlot (hname.spacedAlike hleft) (htype.spacedAlike hright), rfl, nofun⟩,
        .same _, hrest⟩
  | alternatives hne hclose =>
      obtain ⟨interior', rest', rfl, hinteriors, hrest⟩ :=
        halike.cut_enclosed (by decide) (by decide)
      have hne' : interior' ≠ [] := fun hnil => hne (hinteriors.eq_nil_iff.mpr hnil)
      have hclose' : .char ')' ∉ interior' :=
        fun hmem => hclose ((hinteriors.mem_iff (by decide)).mpr hmem)
      exact ⟨_, rest', ⟨_, .alternatives hne' hclose', rfl, nofun⟩,
        .alternatives (forall₂_choicesOf hinteriors), hrest⟩
  | words hne hopen => exact exists_begins_words hne hopen (hend rfl) halike hhead

end Fragment

namespace Template

variable {vocabulary : Vocabulary} {text text' unread : Text}
  {parts parts' : List (Text × Fragment)} {loose : Bool}

/-- Whether two rows of fragments are told apart by the spacing of their
words only. -/
def PartsAlike : List (Text × Fragment) → List (Text × Fragment) → Prop :=
  List.Forall₂ fun part part' => Fragment.Alike part.2 part'.2

theorem not_begins_of_spacedAlike (halike : SpacedAlike loose text text')
    (hhead : ∀ c, text'.head? = some c → isBlank c = false)
    (h : ∀ fragment rest, ¬ Fragment.Begins fragment text rest) (fragment : Fragment)
    (rest : Text) :
    ¬ fragment.Begins text' rest := by
  intro hbegins
  obtain ⟨other, rest', hother, _⟩ := hbegins.spacedAlike halike.symm hhead
  exact h other rest' hother

/-- Where a reading stops, it stops in every text that is spaced alike. -/
theorem exists_readsAs_nil_of_spacedAlike {gap : Text} (hgap : IsGap gap)
    (hhead : ∀ c, unread.head? = some c → Fragment.isOpening c = true)
    (hnone : ∀ fragment rest, ¬ Fragment.Begins fragment unread rest)
    (halike : SpacedAlike loose (gap ++ unread) text') :
    ∃ unread', ReadsAs text' [] unread' ∧ (unread = [] ↔ unread' = []) := by
  cases unread with
  | nil =>
      rw [List.append_nil] at halike
      have hstop := ReadsAs.stop (halike.isGap_iff.mp hgap) hhead hnone
      rw [List.append_nil] at hstop
      exact ⟨[], hstop, Iff.rfl⟩
  | cons c unread =>
      have hopening := hhead c rfl
      have hc := Fragment.not_isBlank_of_isOpening hopening
      obtain ⟨gap', unread', rfl, hgaps, hunreads⟩ := halike.cut hc
      have hnone' :=
        not_begins_of_spacedAlike (.letter hc hunreads) (by simp [hc]) hnone
      have hstop :=
        ReadsAs.stop (hgaps.isGap_iff.mp hgap) (by simp [hopening]) hnone'
      exact ⟨c :: unread', hstop, by simp⟩

/-- A text that is spaced like another one has a reading of fragments that are alike,
and is read to its end if the other one is. -/
theorem ReadsAs.spacedAlike (h : ReadsAs text parts unread)
    (halike : SpacedAlike loose text text') :
    ∃ parts' unread', ReadsAs text' parts' unread' ∧ PartsAlike parts parts' ∧
      (unread = [] ↔ unread' = []) := by
  induction h generalizing text' with
  | stop hgap hhead hnone =>
      obtain ⟨unread', hreads, hunread⟩ :=
        exists_readsAs_nil_of_spacedAlike hgap hhead hnone halike
      exact ⟨[], unread', hreads, .nil, hunread⟩
  | @part gap source rest unread fragment parts hgap hhead hsource hend _ ih =>
      cases source with
      | nil => exact absurd rfl hsource.ne_nil
      | cons c more =>
          have hc := hhead c rfl
          obtain ⟨gap', tail', rfl, hgaps, htails⟩ := halike.cut hc
          have hbegins : fragment.Begins (c :: (more ++ rest)) rest :=
            ⟨c :: more, hsource, rfl, hend⟩
          obtain ⟨other, rest', ⟨source', hsource', htext', hend'⟩,
              hfragments, hrests⟩ :=
            hbegins.spacedAlike (.letter hc htails) hhead
          obtain ⟨parts', unread', hreads, hparts, hunread⟩ := ih hrests
          have hhead' : ∀ d, source'.head? = some d → isBlank d = false := by
            intro d hd
            have hfirst : (c :: tail').head? = some d := by
              rw [htext', List.head?_append_of_ne_nil _ hsource'.ne_nil, hd]
            rw [← Option.some.inj hfirst]
            exact hc
          rw [htext']
          exact ⟨_, unread',
            .part (hgaps.isGap_iff.mp hgap) hhead' hsource' hend' hreads,
            .cons hfragments hparts, hunread⟩

/-- What fragments that are alike contribute one by one is the same altogether. -/
theorem PartsAlike.filterMap_eq {α : Type} {f : Fragment → Option α}
    (h : PartsAlike parts parts')
    (hf : ∀ left right, Fragment.Alike left right → f left = f right) :
    parts.filterMap (fun part => f part.2) = parts'.filterMap fun part =>
      f part.2 := by
  induction h with
  | nil => rfl
  | cons hpart _ ih =>
      rw [List.filterMap_cons, List.filterMap_cons, hf _ _ hpart, ih]

theorem PartsAlike.slotsOf_eq (h : PartsAlike parts parts') :
    slotsOf parts = slotsOf parts' :=
  h.filterMap_eq fun _ _ => Fragment.Alike.slot?_eq

theorem PartsAlike.slotNames_eq (h : PartsAlike parts parts') :
    slotNames parts = slotNames parts' := by
  rw [slotNames, h.slotsOf_eq, slotNames]

theorem PartsAlike.bindingsOf_eq (h : PartsAlike parts parts') :
    bindingsOf parts = bindingsOf parts' :=
  h.filterMap_eq fun _ _ => Fragment.Alike.binding?_eq

theorem PartsAlike.tokensOf_eq (h : PartsAlike parts parts')
    (vocabulary : Vocabulary) :
    tokensOf vocabulary parts = tokensOf vocabulary parts' := by
  induction h with
  | nil => rfl
  | cons hpart _ ih => rw [tokensOf_cons, tokensOf_cons, hpart.tokens_eq, ih]

/-- Whether two errors have the same reason, whatever texts they show. -/
def SameReason : TemplateError → TemplateError → Prop
  | .unknownEntityType name, .unknownEntityType name' => name = name'
  | .repeatedSlot slot _ _, .repeatedSlot slot' _ _ => slot = slot'
  | .malformed _ _, .malformed _ _ => True
  | _, _ => False

/-- Whether two outcomes are matchers that are the same but for their templates, or
errors with the same reason. -/
def SameOutcome : Except TemplateError Matcher → Except TemplateError Matcher → Prop
  | .ok matcher, .ok matcher' =>
      matcher.pattern = matcher'.pattern ∧ matcher.slots = matcher'.slots ∧
        matcher.slotTypes = matcher'.slotTypes ∧
          matcher.parameters = matcher'.parameters
  | .error error, .error error' => SameReason error error'
  | _, _ => False

section Outcomes

variable {template template' : Text} {taken : List Text}
  {part part' : Text × Fragment} {error : TemplateError}

theorem exists_offends_of_alike (halike : Fragment.Alike part.2 part'.2)
    (h : Fragment.Offends vocabulary template taken part error) :
    ∃ error', Fragment.Offends vocabulary template' taken part' error' ∧
      SameReason error error' := by
  obtain ⟨source', fragment'⟩ := part'
  cases h with
  | unknownType hunknown =>
      cases halike
      exact ⟨_, .unknownType hunknown, rfl⟩
  | repeatedSlot hslot hknown htaken =>
      rw [halike.slot?_eq] at hslot
      exact ⟨_, .repeatedSlot hslot hknown htaken, rfl⟩

theorem not_offends_of_alike (halike : Fragment.Alike part.2 part'.2)
    (h : ∀ error, ¬ Fragment.Offends vocabulary template taken part error) :
    ∀ error, ¬ Fragment.Offends vocabulary template' taken part' error := by
  rw [Fragment.not_offends_iff, halike.slot?_eq] at h
  exact Fragment.not_offends_iff.mpr h

theorem PartsAlike.noneOffends (halike : PartsAlike parts parts')
    (h : NoneOffends vocabulary template taken parts) :
    NoneOffends vocabulary template' taken parts' := by
  rw [noneOffends_iff, halike.slotsOf_eq, halike.slotNames_eq] at h
  exact noneOffends_iff.mpr h

/-- The first fragments that offend offend for the same reason. -/
theorem PartsAlike.firstOffence (halike : PartsAlike parts parts')
    (h : FirstOffence vocabulary template taken parts error) :
    ∃ error', FirstOffence vocabulary template' taken parts' error' ∧
      SameReason error error' := by
  induction halike generalizing taken with
  | nil =>
      obtain ⟨before, part, after, hsplit, _⟩ := h
      simp at hsplit
  | @cons part part' parts parts' hpart hparts ih =>
      have hnames : slotNames [part] = slotNames [part'] :=
        PartsAlike.slotNames_eq (.cons hpart .nil)
      rcases firstOffence_cons.mp h with hoffends | ⟨hnone, hlater⟩
      · obtain ⟨error', hoffends', hreason⟩ := exists_offends_of_alike hpart hoffends
        exact ⟨error', firstOffence_cons.mpr (.inl hoffends'), hreason⟩
      · obtain ⟨error', hlater', hreason⟩ := ih hlater
        rw [hnames] at hlater'
        exact ⟨error', firstOffence_cons.mpr
          (.inr ⟨not_offends_of_alike hpart hnone, hlater'⟩), hreason⟩

/-- Templates whose fragments are alike, and which are both read to their ends or
both not, compile to the same matcher or fail for the same reason. -/
theorem sameOutcome_of_partsAlike
    (hparts : PartsAlike (Reading.ofTemplate template).parts
      (Reading.ofTemplate template').parts)
    (hunread : (Reading.ofTemplate template).unread = [] ↔
      (Reading.ofTemplate template').unread = []) :
    SameOutcome (compile vocabulary template) (compile vocabulary template') := by
  cases hcompile : compile vocabulary template with
  | ok matcher =>
      obtain ⟨hnone, hread⟩ := exists_compile_iff.mp ⟨matcher, hcompile⟩
      obtain ⟨matcher', hcompile'⟩ :=
        exists_compile_iff.mpr ⟨hparts.noneOffends hnone, hunread.mp hread⟩
      obtain ⟨_, _, hmade⟩ := isMadeOf_of_compile hcompile
      obtain ⟨_, _, hmade'⟩ := isMadeOf_of_compile hcompile'
      rw [hcompile']
      refine ⟨?_, ?_, ?_, ?_⟩
      · rw [hmade.pattern, hmade'.pattern, hparts.tokensOf_eq]
      · rw [hmade.slots, hmade'.slots, hparts.slotNames_eq]
      · rw [hmade.slotTypes, hmade'.slotTypes, hparts.slotsOf_eq]
      · rw [hmade.parameters, hmade'.parameters, hparts.bindingsOf_eq]
  | error error =>
      rcases compile_eq_error_iff.mp hcompile with hfirst | ⟨hnone, hrest, rfl⟩
      · obtain ⟨error', hfirst', hreason⟩ := hparts.firstOffence hfirst
        rw [compile_eq_error_iff.mpr (.inl hfirst')]
        exact hreason
      · have hmalformed := compile_eq_error_iff.mpr
          (.inr ⟨hparts.noneOffends hnone, mt hunread.mpr hrest, rfl⟩)
        rw [hmalformed]
        trivial

/-- Templates that are spaced alike but for gaps at their ends compile to the same
matcher or fail for the same reason. -/
theorem sameOutcome_of_spacedAlike
    (h : SpacedAlike true template.trimStart template') (vocabulary : Vocabulary) :
    SameOutcome (compile vocabulary template) (compile vocabulary template') := by
  have hstart := readsAs_ofTemplate template.trimStart
  obtain ⟨parts', unread', hreads', hparts, hunread⟩ := hstart.spacedAlike h
  have hwhole := hstart.gap_append (isGap_takeWhile template)
  rw [takeWhile_append_trimStart] at hwhole
  obtain ⟨hparts₁, hunread₁⟩ := readsAs_iff.mp hwhole
  obtain ⟨rfl, rfl⟩ := readsAs_iff.mp hreads'
  apply sameOutcome_of_partsAlike
  · rwa [hparts₁]
  · rwa [hunread₁]

end Outcomes

/-- Spacing is insignificant: a template and the row of its words with single spaces
between them compile to the same pattern, slots, slot types and parameters, or fail
for the same reason. -/
theorem compile_singleSpaced (vocabulary : Vocabulary) (template : Text) :
    SameOutcome (compile vocabulary template)
      (compile vocabulary template.singleSpaced) :=
  sameOutcome_of_spacedAlike (spacedAlike_singleSpaced template) vocabulary

end Template

end UtteranceTemplate
