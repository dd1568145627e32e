import Mathlib.Data.List.Induction
import UtteranceTemplate.Proofs.Concatenation

/-!
Templates without their parameters.

A space in place of a parameter lets the runs of words on its two sides become one,
and nothing else. The tokens of that run are those of the two, because the space
keeps their words apart, so braces pair as before: a template and what is left of it
without its parameters have the same pattern and the same slots
(`Template.compile_withoutParameters`).
-/

namespace UtteranceTemplate

open Pattern Token Text

/-- What is left of a fragment without its parameter: a space for a parameter, the
source for any other. -/
def Fragment.unbound (source : Text) : Fragment → Text
  | .parameter _ _ => [' ']
  | .untypedSlot _ | .typedSlot _ _ | .alternatives _ | .words _ => source

namespace Template

/-- The ending of a template from a position on, with a space for each parameter
among the pieces that were read there. -/
def endingWithout (position : Nat) : List Piece → Text → Text
  | [], ending => ending
  | piece :: pieces, ending =>
      let gap := piece.position - position
      ending.take gap ++ (piece.fragment.unbound piece.source ++
        endingWithout (piece.position + piece.source.length) pieces
          (ending.drop (gap + piece.source.length)))

/-- A template with a space in place of each parameter that it reads as. -/
def withoutParameters (template : Text) : Text :=
  endingWithout 0 (Reading.ofTemplate template).pieces template

end Template

namespace Entries

variable {κ α : Type} [BEq κ]

variable [LawfulBEq κ]

/-- The keys of a row of pairs stand in the order in which they first came. -/
theorem keys_ofPairs (pairs : List (κ × α)) :
    keys (ofPairs pairs) = (pairs.map Prod.fst).eraseDups := by
  induction pairs using List.reverseRecOn with
  | nil => rfl
  | append_singleton pairs pair ih =>
      rw [ofPairs_concat, keys_put, ih, List.map_append, List.eraseDups_append]
      by_cases hmem : pair.1 ∈ pairs.map Prod.fst
      · simp [List.removeAll, hmem]
      · have hone : [pair.1].eraseDups = [pair.1] := rfl
        simp [List.removeAll, hmem, hone]

/-- Under a key of a row of pairs stands the value that came last. -/
theorem get?_ofPairs (pairs : List (κ × α)) (key : κ) :
    get? (ofPairs pairs) key = pairs.reverse.lookup key := by
  induction pairs using List.reverseRecOn with
  | nil => rfl
  | append_singleton pairs pair ih =>
      obtain ⟨last, value⟩ := pair
      rw [ofPairs_concat, List.reverse_append, List.reverse_singleton,
        List.singleton_append]
      by_cases hkey : last = key
      · rw [hkey, get?_put_self, List.lookup_cons_self]
      · have hne : (key == last) = false := by simpa using Ne.symm hkey
        rw [get?_put_of_ne _ _ hkey, ih, List.lookup_cons, hne]

end Entries

namespace Reading

/-- The first piece of a text begins behind the gap at its start. -/
theorem pieces_ofEnding_cons (position : Nat) {gap source rest : Text}
    {fragment : Fragment} (hgap : IsGap gap)
    (hhead : ∀ c, source.head? = some c → isBlank c = false)
    (hsource : fragment.IsSource source)
    (hend : fragment.production = .words → ∀ c, rest.head? = some c →
      Fragment.isOpening c = true) :
    (ofEnding position (gap ++ (source ++ rest))).pieces =
      ⟨position + gap.length, source, fragment⟩ ::
        (ofEnding (position + gap.length + source.length) rest).pieces := by
  obtain ⟨hstart, hread⟩ := Fragment.read?_trimStart_append hgap hhead hsource hend
  have hgapLength : (gap ++ (source ++ rest)).length - (source ++ rest).length =
      gap.length := by
    rw [List.length_append, Nat.add_sub_cancel]
  rw [ofEnding_of_read?_eq_some position hread, hstart, upTo_append, hgapLength]
  rfl

end Reading

namespace Template

variable {vocabulary : Vocabulary} {text : Text} {parts : List (Text × Fragment)}

theorem endingWithout_cons (position : Nat) {gap source rest : Text}
    {fragment : Fragment} (hgap : IsGap gap)
    (hhead : ∀ c, source.head? = some c → isBlank c = false)
    (hsource : fragment.IsSource source)
    (hend : fragment.production = .words → ∀ c, rest.head? = some c →
      Fragment.isOpening c = true) :
    endingWithout position
        (Reading.ofEnding position (gap ++ (source ++ rest))).pieces
        (gap ++ (source ++ rest)) =
      gap ++ (fragment.unbound source ++
        endingWithout (position + gap.length + source.length)
          (Reading.ofEnding (position + gap.length + source.length) rest).pieces
            rest) := by
  rw [Reading.pieces_ofEnding_cons position hgap hhead hsource hend, endingWithout]
  simp only [Nat.add_sub_cancel_left, List.take_left]
  rw [← List.append_assoc gap source rest, ← List.length_append, List.drop_left]

theorem unbound_of_ne_parameter {source : Text} {fragment : Fragment}
    (h : fragment.binding? = none) : fragment.unbound source = source := by
  cases fragment with
  | parameter name value => cases h
  | untypedSlot | typedSlot | alternatives | words => rfl

/-- Without its parameters, a text that begins with an opening bracket or parenthesis
does not begin with a run of words. -/
theorem ReadsAs.beginsInRun_endingWithout (h : ReadsAs text parts [])
    (hopening : ∀ c, text.head? = some c → Fragment.isOpening c = true)
    (position : Nat) :
    beginsInRun (endingWithout position
      (Reading.ofEnding position text).pieces text) = false := by
  cases parts with
  | nil =>
      rw [h.eq_nil_of_isOpening hopening, Reading.ofEnding_of_read?_eq_none rfl]
      rfl
  | cons part parts =>
      cases h with
      | @part gap source rest _ fragment _ hgap hhead hsource hend _ =>
          rw [endingWithout_cons position hgap hhead hsource hend]
          by_cases hnil : gap = []
          · subst hnil
            have hfirst : ∀ c, source.head? = some c →
                Fragment.isOpening c = true := by
              intro c hc
              apply hopening
              rw [List.nil_append, List.head?_append_of_ne_nil _ hsource.ne_nil, hc]
            cases fragment with
            | parameter => rfl
            | untypedSlot | typedSlot | alternatives | words =>
                rw [unbound_of_ne_parameter rfl]
                apply beginsInRun_gap hgap
                intro c hc
                rw [List.head?_append_of_ne_nil _ hsource.ne_nil] at hc
                exact hfirst c hc
          · exact beginsInRun_gap_append hgap hnil _

/-- What a text reads as without its parameters: the tokens and the slots stay, and
nothing is bound. -/
theorem ReadsAs.exists_endingWithout (h : ReadsAs text parts []) (position : Nat)
    (vocabulary : Vocabulary) :
    ∃ kept, ReadsAs
      (endingWithout position (Reading.ofEnding position text).pieces text) kept [] ∧
      tokensOf vocabulary kept = tokensOf vocabulary parts ∧
      slotsOf kept = slotsOf parts ∧
      bindingsOf kept = [] := by
  generalize hnothing : ([] : Text) = nothing at h
  induction h generalizing position with
  | @stop gap unread hgap hhead hnone =>
      subst hnothing
      have hstop := ReadsAs.stop hgap hhead hnone
      have hpieces : (Reading.ofEnding position (gap ++ [])).pieces = [] :=
        List.map_eq_nil_iff.mp (hstop.eq_ofEnding position).1
      rw [hpieces]
      exact ⟨[], hstop, rfl, rfl, rfl⟩
  | @part gap source rest unread fragment parts hgap hhead hsource hend hrest ih =>
      subst hnothing
      obtain ⟨kept, hreads, htokens, hslots, hbindings⟩ :=
        ih (position + gap.length + source.length) rfl
      rw [endingWithout_cons position hgap hhead hsource hend]
      cases fragment with
      | parameter name value =>
          have hspace : IsGap [' '] := List.forall_mem_singleton.mpr (by decide)
          exact ⟨kept, (hreads.gap_append hspace).gap_append hgap, htokens,
            hslots, hbindings⟩
      | words run =>
          obtain ⟨heq, hopen⟩ := hsource.eq_words rfl
          obtain rfl := Fragment.words.inj heq
          obtain ⟨joined, hreads, hjoins⟩ :=
            hreads.run_joins hsource.ne_nil hhead hopen vocabulary
          -- the run does not touch a run behind it, for a parameter in
          -- between leaves a space
          rw [hrest.beginsInRun_endingWithout (hend rfl), Bool.and_false] at hjoins
          refine ⟨joined, hreads.gap_append hgap, ?_, ?_, ?_⟩
          · rw [hjoins.tokens, if_neg Bool.false_ne_true, htokens, tokensOf,
              tokensOf, tokensOf, ← List.flatMap_append, List.singleton_append]
          · rw [hjoins.slotsOf_eq, hslots]
            rfl
          · rw [hjoins.bindingsOf_eq, hbindings]
            rfl
      | untypedSlot | typedSlot | alternatives =>
          refine ⟨_, .part hgap hhead hsource (by rintro ⟨⟩) hreads, ?_,
            ?_, hbindings⟩
          · rw [tokensOf_cons, tokensOf_cons, htokens]
          · simp only [slotsOf, List.filterMap_cons] at hslots ⊢
            rw [hslots]

end Template

namespace UncheckedVocabulary

variable {given : UncheckedVocabulary} {template other : Text} {matcher : Matcher}

theorem pieceFault?_eq_none_iff {piece : Piece} :
    given.pieceFault? piece = none ↔
      ∀ slot type, piece.fragment.slot? = some (slot, some type) →
        given.fault? type = none := by
  unfold pieceFault?
  cases piece.fragment with
  | typedSlot slot type => simp [Fragment.slot?]
  | untypedSlot | parameter | alternatives | words => simp [Fragment.slot?]

/-- Pieces that can be taken in are without a fault exactly if the entity types of
their slots are. -/
theorem faultAmong?_eq_none_iff {draft next : Draft} {pieces : List Piece}
    (h : draft.addAll given.textual template pieces = .ok next) :
    given.faultAmong? template draft pieces = none ↔
      ∀ slot type, (slot, some type) ∈ Template.slotsOf (pieces.map Piece.part) →
        given.fault? type = none := by
  induction pieces generalizing draft with
  | nil => simp [faultAmong?, Template.slotsOf]
  | cons piece pieces ih =>
      unfold Draft.addAll at h
      cases hadd : draft.add given.textual template piece with
      | error error => rw [hadd] at h; cases h
      | ok draft' =>
          rw [hadd] at h
          have hmem : ∀ slot,
              slot ∈ Template.slotsOf ((piece :: pieces).map Piece.part) ↔
              piece.fragment.slot? = some slot ∨
                slot ∈ Template.slotsOf (pieces.map Piece.part) := by
            intro slot
            simp [Template.slotsOf, Piece.part]
          have hpiece := @pieceFault?_eq_none_iff given piece
          simp only [faultAmong?, hadd, hmem, or_imp, forall_and, ← hpiece, ← ih h]
          cases given.pieceFault? piece with
          | some fault => simp
          | none => simp

theorem exists_addAll_of_compile {vocabulary : Vocabulary}
    (h : Template.compile vocabulary template = .ok matcher) :
    ∃ draft, Draft.addAll vocabulary template {}
      (Reading.ofTemplate template).pieces = .ok draft :=
  Draft.exists_addAll_iff.mpr (Template.isMadeOf_of_compile h).2.1

/-- If two templates compile against the texts of a vocabulary and have the
same slots, the vocabulary has no fault for one of them unless it has one for
the other. -/
theorem compile_of_slotsOf_eq {next : Matcher}
    (h : given.compile template = .ok matcher)
    (hother : Template.compile given.textual other = .ok next)
    (hslots : Template.slotsOf (Reading.ofTemplate other).parts =
      Template.slotsOf (Reading.ofTemplate template).parts) :
    given.compile other = .ok next := by
  have hfault : given.faultIn? template = none := by
    unfold compile at h
    split at h
    · cases h
    · assumption
  have hcompiles := given.compile_textual h
  obtain ⟨_, hadd⟩ := exists_addAll_of_compile hcompiles
  obtain ⟨_, haddOther⟩ := exists_addAll_of_compile hother
  rw [faultIn?, faultAmong?_eq_none_iff hadd, ← Reading.parts, ← hslots,
    Reading.parts, ← faultAmong?_eq_none_iff haddOther, ← faultIn?] at hfault
  rw [compile, hfault, hother]
  rfl

end UncheckedVocabulary

namespace Template

variable {vocabulary : Vocabulary} {template : Text} {matcher : Matcher}

/-- A template compiles without its parameters too, to the same pattern and the same
slots. What its matcher binds are its parameters from left to right: each name stands
where it first came, with the value that came last. -/
theorem compile_withoutParameters (h : compile vocabulary template = .ok matcher) :
    let bindings := bindingsOf (Reading.ofTemplate template).parts
    (∃ plain, compile vocabulary (withoutParameters template) = .ok plain ∧
      (∀ given : UncheckedVocabulary, given.textual = vocabulary →
        given.compile template = .ok matcher →
          given.compile (withoutParameters template) = .ok plain) ∧
      plain.pattern = matcher.pattern ∧ plain.slots = matcher.slots ∧
      plain.slotTypes = matcher.slotTypes ∧ plain.parameters = []) ∧
    matcher.parameters = Entries.ofPairs bindings ∧
    matcher.parameters.keys = (bindings.map Prod.fst).eraseDups ∧
    ∀ name, matcher.parameters.get? name = bindings.reverse.lookup name := by
  intro bindings
  obtain ⟨hreads, hnone, hmade⟩ := isMadeOf_of_compile h
  obtain ⟨kept, hkept, htokens, hslots, hbindings⟩ :=
    hreads.exists_endingWithout 0 vocabulary
  obtain ⟨hparts, hunread⟩ := readsAs_iff.mp hkept
  have hnames : slotNames kept = slotNames (Reading.ofTemplate template).parts :=
    congrArg (List.map Prod.fst) hslots
  have hkeptNone : NoneOffends vocabulary (withoutParameters template) [] kept := by
    rw [noneOffends_iff, hslots, hnames]
    exact noneOffends_iff.mp hnone
  obtain ⟨plain, hplain⟩ := exists_compile_iff.mpr ⟨hparts ▸ hkeptNone, hunread⟩
  obtain ⟨_, _, hplainMade⟩ := isMadeOf_of_compile hplain
  rw [hparts] at hplainMade
  refine ⟨⟨plain, hplain, ?_, ?_, ?_, ?_, ?_⟩, hmade.parameters, ?_, ?_⟩
  · rintro given rfl hgiven
    exact given.compile_of_slotsOf_eq hgiven hplain (hparts ▸ hslots)
  · rw [hplainMade.pattern, htokens, hmade.pattern]
  · rw [hplainMade.slots, hnames, hmade.slots]
  · rw [hplainMade.slotTypes, hslots, hmade.slotTypes]
  · rw [hplainMade.parameters, hbindings]
    rfl
  · rw [hmade.parameters, Entries.keys_ofPairs]
  · intro name
    rw [hmade.parameters, Entries.get?_ofPairs]

theorem ofTemplate_boundTwice :
    Reading.ofTemplate "go\x7b[n=1]on [ m = a ][n=2]\x7d [x:t](up|[k=3])".text =
      ⟨[⟨0, "go\x7b".text, .words "go\x7b".text⟩,
        ⟨3, "[n=1]".text, .parameter ['n'] ['1']⟩, ⟨8, "on ".text,
          .words "on ".text⟩, ⟨11, "[ m = a ]".text, .parameter ['m'] ['a']⟩,
        ⟨20, "[n=2]".text, .parameter ['n'] ['2']⟩,
        ⟨25, "\x7d ".text, .words "\x7d ".text⟩,
        ⟨27, "[x:t]".text, .typedSlot ['x'] ['t']⟩,
        ⟨32, "(up|[k=3])".text, .alternatives ["up".text, "[k=3]".text]⟩], []⟩ := by
  decide +kernel

/-- Three parameters between braces that pair across them, one of the names bound
twice, and a bracket in a group that binds nothing. -/
theorem compile_withoutParameters_boundTwice :
    let vocabulary : Vocabulary := ⟨[(['t'], ["a b".text])]⟩
    let template := "go\x7b[n=1]on [ m = a ][n=2]\x7d [x:t](up|[k=3])".text
    let matcher : Matcher :=
      { template, slots := [['x']], slotTypes := [(['x'], ['t'])]
        parameters := [(['n'], ['2']), (['m'], ['a'])]
        pattern := " go(?: on )?( a b)(?: up| \\[k=3\\])".text }
    compile vocabulary template = .ok matcher ∧
      withoutParameters template = "go\x7b on   \x7d [x:t](up|[k=3])".text ∧
      ∃ plain, compile vocabulary (withoutParameters template) = .ok plain ∧
        plain.pattern = matcher.pattern ∧ plain.parameters = [] := by
  intro vocabulary template matcher
  have hcompile : compile vocabulary template = .ok matcher := by
    simp only [template, compile, ofTemplate_boundTwice]
    rfl
  have hplain : withoutParameters template =
      "go\x7b on   \x7d [x:t](up|[k=3])".text := by
    simp only [template, withoutParameters, ofTemplate_boundTwice]
    rfl
  obtain ⟨⟨plain, hok, _, hpattern, _, _, hparameters⟩, _⟩ :=
    compile_withoutParameters hcompile
  exact ⟨hcompile, hplain, plain, hok, hpattern, hparameters⟩

end Template

end UtteranceTemplate
