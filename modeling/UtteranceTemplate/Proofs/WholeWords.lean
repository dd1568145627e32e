import UtteranceTemplate.Proofs.CuttingMatch

/-!
Slots take whole words.

A piece of an utterance in normal form ends where the next piece begins with a space,
so the pieces of a cutting are segments of the words (`IsCutting.exists_segments`).
The slots of a match therefore divide up the words of the utterance from left to
right (`Template.slots_take_whole_words`).
-/

namespace UtteranceTemplate

variable {vocabulary : Vocabulary} {ignoreCase : Bool}

/-- The words that stand between the slots before and this one, and the words that
this slot takes. -/
structure SlotRun where
  skipped : List Text
  taken : List Text
  deriving DecidableEq, Repr

namespace SlotRun

def words (run : SlotRun) : List Text := run.skipped ++ run.taken

def value (run : SlotRun) : Option Text :=
  if run.taken.isEmpty then none else some (joinWith [' '] run.taken)

end SlotRun

/-- Where words that are each behind a space are cut in front of a space, they are
cut between words. -/
theorem exists_append_of_append_eq_flatMap {words : List Text}
    (hwords : ∀ word ∈ words, ∀ c ∈ word, isBlank c = false) {before rest : Text}
    (h : before ++ rest = words.flatMap fun word => .char ' ' :: word)
    (hrest : ∀ c, rest.head? = some c → c = ' ') :
    ∃ front back, words = front ++ back ∧
      before = front.flatMap (fun word => .char ' ' :: word) ∧
      rest = back.flatMap fun word => .char ' ' :: word := by
  induction words generalizing before with
  | nil =>
      obtain ⟨rfl, rfl⟩ := List.append_eq_nil_iff.mp h
      exact ⟨[], [], rfl, rfl, rfl⟩
  | cons word words ih =>
      cases before with
      | nil => exact ⟨[], word :: words, rfl, rfl, h⟩
      | cons c body =>
          rw [List.flatMap_cons, List.cons_append, List.cons_append] at h
          obtain ⟨rfl, hbody⟩ := List.cons.inj h
          rcases List.append_eq_append_iff.mp hbody with ⟨tail, hword, htail⟩ |
            ⟨more, rfl, hmore⟩
          · -- the cut lies in the word or right behind it
            cases tail with
            | nil =>
                refine ⟨[word], words, rfl, ?_, by simpa using htail⟩
                simp [hword]
            | cons d tail =>
                have hspace := hrest d (by rw [htail]; rfl)
                have hd := hwords word List.mem_cons_self d (by rw [hword]; simp)
                rw [hspace] at hd
                exact absurd hd (by decide)
          · have hothers :=
              fun other hother => hwords other (List.mem_cons_of_mem word hother)
            obtain ⟨front, back, rfl, rfl, hback⟩ := ih hothers hmore.symm
            exact ⟨word :: front, back, rfl, by simp, hback⟩

theorem exists_segments_of_fits {fragments : List Fragment} {pieces : List Wording}
    (h : List.Forall₂ (Fragment.Fits (Fragment.wordings vocabulary) ignoreCase)
      fragments pieces)
    {words : List Text} (hwords : ∀ word ∈ words, ∀ c ∈ word, isBlank c = false)
    (htext : pieces.flatMap Wording.text = words.flatMap fun word =>
      .char ' ' :: word) :
    ∃ segments : List (List Text), segments.flatten = words ∧
      List.Forall₂ (fun piece segment =>
        Wording.text piece = segment.flatMap fun word =>
          ' ' :: word) pieces segments := by
  induction h generalizing words with
  | nil =>
      cases words with
      | nil => exact ⟨[], rfl, .nil⟩
      | cons word words => cases htext
  | @cons _ piece _ pieces _ hothers ih =>
      have hhead := fun c hc => head?_flatMap_text (c := c) hothers hc
      rw [List.flatMap_cons] at htext
      obtain ⟨front, back, rfl, hfront, hback⟩ :=
        exists_append_of_append_eq_flatMap hwords htext hhead
      have hlater :=
        fun word hword => hwords word (List.mem_append_right front hword)
      obtain ⟨segments, rfl, hsegments⟩ := ih hlater hback
      exact ⟨front :: segments, rfl, .cons hfront hsegments⟩

/-- The pieces of a cutting of an utterance are segments of its words, each word
behind a space. -/
theorem IsCutting.exists_segments {fragments : List Fragment} {utterance : Text}
    {pieces : List Wording}
    (h : IsCutting (Fragment.wordings vocabulary) ignoreCase fragments
      (Utterance.normalize utterance) pieces) :
    ∃ segments : List (List Text), segments.flatten = utterance.words ∧
      List.Forall₂ (fun piece segment =>
        Wording.text piece = segment.flatMap fun word =>
          ' ' :: word) pieces segments :=
  exists_segments_of_fits h.fits (Text.not_isBlank_of_mem_words utterance) h.text

/-- The value of a slot whose piece is a segment of words is these words with single
spaces between them. -/
theorem slotPiece_eq_value {text : Text} {skipped taken : List Text}
    (h : text = taken.flatMap fun word => .char ' ' :: word) :
    (if text.isEmpty then none else some text.tail) =
      SlotRun.value ⟨skipped, taken⟩ := by
  by_cases hnil : taken = []
  · subst hnil
    rw [h]
    rfl
  · have hspaced := Text.space_cons_joinWith taken hnil
    rw [← hspaced] at h
    have hempty : taken.isEmpty = false := by simpa using hnil
    rw [h, SlotRun.value]
    simp [hempty]

/-- An untyped slot takes something. -/
theorem Fragment.Fits.text_ne_nil_of_untyped {fragment : Fragment} {piece : Wording}
    (h : fragment.Fits (Fragment.wordings vocabulary) ignoreCase piece) {name : Text}
    (hslot : fragment.slot? = some (name, none)) : piece.text ≠ [] := by
  cases fragment with
  | untypedSlot name =>
      obtain ⟨body, _, rfl⟩ := h
      exact List.cons_ne_nil (.char ' ') body
  | typedSlot | parameter | alternatives | words => cases hslot

/-- The segments of the fragments without slots go to the slots behind them. -/
theorem exists_slotRuns {fragments : List Fragment} {pieces : List Wording}
    (hfits : List.Forall₂ (Fragment.Fits (Fragment.wordings vocabulary) ignoreCase)
      fragments pieces)
    {segments : List (List Text)}
    (hsegments : List.Forall₂ (fun piece segment => Wording.text piece =
      segment.flatMap fun word => ' ' :: word) pieces segments)
    (skipped : List Text) :
    ∃ runs rest, skipped ++ segments.flatten = runs.flatMap SlotRun.words ++ rest ∧
      List.Forall₂ (fun slot run => slot.2 = none → SlotRun.taken run ≠ [])
        (fragments.filterMap Fragment.slot?) runs ∧
      slotPieces fragments pieces =
        List.zipWith (fun slot run => (slot.1, SlotRun.value run))
          (fragments.filterMap Fragment.slot?) runs := by
  induction hfits generalizing segments skipped with
  | nil =>
      cases hsegments
      exact ⟨[], skipped, by simp, .nil, rfl⟩
  | @cons fragment piece fragments pieces hpiece _ ih =>
      cases hsegments with
      | @cons _ segment _ segments hsegment hothers =>
          cases hslot : fragment.slot? with
          | none =>
              obtain ⟨runs, rest, hwords, htaken, hslots⟩ :=
                ih hothers (skipped ++ segment)
              refine ⟨runs, rest, by rw [← hwords]; simp, ?_, ?_⟩
              · rw [List.filterMap_cons_none hslot]
                exact htaken
              · rw [List.filterMap_cons_none hslot, ← hslots]
                simp [slotPieces, hslot]
          | some slot =>
              obtain ⟨runs, rest, hwords, htaken, hslots⟩ := ih hothers []
              refine ⟨⟨skipped, segment⟩ :: runs, rest, ?_, ?_, ?_⟩
              · simp only [List.nil_append] at hwords
                simp [SlotRun.words, hwords]
              · rw [List.filterMap_cons_some hslot]
                refine .cons ?_ htaken
                intro huntyped hnone
                obtain ⟨name, type?⟩ := slot
                obtain rfl : type? = none := huntyped
                obtain rfl : segment = [] := hnone
                exact hpiece.text_ne_nil_of_untyped hslot hsegment
              · rw [List.filterMap_cons_some hslot, List.zipWith_cons_cons, ← hslots,
                  ← slotPiece_eq_value hsegment]
                simp [slotPieces, hslot]

theorem Template.exists_cutting_of_match {template : Text} {matcher : Matcher}
    (h : Template.compile vocabulary template = .ok matcher)
    (hlocal : Template.IsBraceLocal template) {utterance : Text} {found : Match}
    (hmatch : matcher.match? utterance ignoreCase = .ok (some found)) :
    found.slots.keys = matcher.slots ∧ found.slots.keys.Nodup ∧ ∃ pieces,
      IsCutting (Fragment.wordings vocabulary) ignoreCase
        (Template.fragments template) (Utterance.normalize utterance) pieces ∧
      found.slots = slotPieces (Template.fragments template) pieces := by
  obtain ⟨hkeys, hdistinct, pieces, hcutting, hslots, _⟩ :=
    Template.exists_tried_cutting_of_match h hlocal hmatch
  exact ⟨hkeys, hkeys ▸ hdistinct, pieces, hcutting.of_tried, hslots⟩

/-- In a match of a template whose braces are local the slots divide up the words of
the utterance: each takes the words of its own run, the runs lie in the order of the
slots, and an untyped slot takes a word at least. -/
theorem Template.slots_take_whole_words {template : Text} {matcher : Matcher}
    (h : Template.compile vocabulary template = .ok matcher ∨
      ∃ given : UncheckedVocabulary, given.textual = vocabulary ∧
        given.compile template = .ok matcher)
    (hlocal : Template.IsBraceLocal template) {utterance : Text} {found : Match}
    (hmatch : matcher.match? utterance ignoreCase = .ok (some found)) :
    found.slots.keys = matcher.slots ∧
    (∃ runs rest, utterance.words = runs.flatMap SlotRun.words ++ rest ∧
      runs.length = (Template.slots template).length ∧
      found.slots = List.zipWith (fun slot run => (slot.1, SlotRun.value run))
        (Template.slots template) runs) ∧
    ∀ name, (name, none) ∈ Template.slots template →
      ∃ value, found.slots.get? name = some (some value) ∧ value ≠ [] := by
  obtain ⟨hkeys, hnodup, pieces, hcutting, htaken⟩ :=
    Template.exists_cutting_of_match (Template.compile_eq_ok h) hlocal hmatch
  obtain ⟨segments, hsegmented, hsegments⟩ := hcutting.exists_segments
  obtain ⟨runs, rest, hwords, huntyped, hslots⟩ :=
    exists_slotRuns hcutting.fits hsegments []
  have hlength : runs.length = (Template.slots template).length :=
    huntyped.length_eq.symm
  rw [List.nil_append, hsegmented] at hwords
  have hvalues :
      found.slots = List.zipWith (fun slot run => (slot.1, SlotRun.value run))
      (Template.slots template) runs := htaken.trans hslots
  refine ⟨hkeys, ⟨runs, rest, hwords, hlength, hvalues⟩, ?_⟩
  intro name hname
  obtain ⟨i, hi, hslot⟩ := List.getElem_of_mem hname
  have hrun : i < runs.length := hlength ▸ hi
  have hne : runs[i].taken ≠ [] := by
    apply huntyped.get hi hrun
    exact congrArg Prod.snd hslot
  have hpair : (name, some (joinWith [.char ' '] runs[i].taken)) ∈ found.slots := by
    rw [hvalues]
    refine List.mem_iff_getElem.mpr ⟨i, by simpa using ⟨hi, hrun⟩, ?_⟩
    rw [List.getElem_zipWith, hslot]
    simp [SlotRun.value, hne]
  refine ⟨_, Entries.get?_eq_some_of_mem hnodup hpair, ?_⟩
  apply joinWith_ne_nil hne
  intro word hword
  apply Text.words_ne_nil utterance
  rw [hwords]
  apply List.mem_append_left
  exact List.mem_flatMap.mpr
    ⟨runs[i], List.getElem_mem hrun, List.mem_append_right _ hword⟩

theorem Template.ofTemplate_elidedSlot :
    Reading.ofTemplate "play\x7b it\x7d [x] (on|) [s:t] [y]".text =
      ⟨[⟨0, "play\x7b it\x7d ".text, .words "play\x7b it\x7d ".text⟩,
        ⟨10, "[x]".text, .untypedSlot ['x']⟩,
        ⟨14, "(on|)".text, .alternatives ["on".text, []]⟩,
        ⟨20, "[s:t]".text, .typedSlot ['s'] ['t']⟩,
        ⟨26, "[y]".text, .untypedSlot ['y']⟩], []⟩ := by
  decide +kernel

/-- Here the typed slot between the two untyped ones takes no word. -/
theorem Template.slots_take_whole_words_elidedSlot :
    let vocabulary : Vocabulary := ⟨[(['t'], [[], "a b".text])]⟩
    let template := "play\x7b it\x7d [x] (on|) [s:t] [y]".text
    let matcher : Matcher :=
      { template, slots := [['x'], ['s'], ['y']], slotTypes := [(['s'], ['t'])]
        pattern := " play(?: it)?( .+?)(?: on|)(| a b)( .+?)".text }
    let utterance : Text := "Play it  one\ttwo on a b three ".text
    let found : Match :=
      { template, utterance
        slots := [(['x'], some "one".text), (['s'], none),
          (['y'], some "two on a b three".text)]
        parameters := [] }
    Template.compile vocabulary template = .ok matcher ∧
      Template.IsBraceLocal template ∧
      matcher.match? utterance true = .ok (some found) ∧
      (∃ runs rest, utterance.words = runs.flatMap SlotRun.words ++ rest ∧
        runs.length = (Template.slots template).length ∧
        found.slots = List.zipWith (fun slot run => (slot.1, SlotRun.value run))
          (Template.slots template) runs) ∧
      ∀ name, (name, none) ∈ Template.slots template →
        ∃ value, found.slots.get? name = some (some value) ∧ value ≠ [] := by
  intro vocabulary template matcher utterance found
  have hcompile : Template.compile vocabulary template = .ok matcher := by
    simp only [template, Template.compile, Template.ofTemplate_elidedSlot]
    rfl
  have hlocal : Template.IsBraceLocal template := by
    rw [Template.IsBraceLocal, Template.fragments, Template.ofTemplate_elidedSlot]
    decide
  have hmatch : matcher.match? utterance true = .ok (some found) := by decide
  exact ⟨hcompile, hlocal, hmatch,
    (Template.slots_take_whole_words (Or.inl hcompile) hlocal hmatch).2⟩

end UtteranceTemplate
