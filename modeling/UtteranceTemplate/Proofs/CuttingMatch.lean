import UtteranceTemplate.Proofs.CuttingSearch

/-!
Matching a template whose braces are local is cutting the utterance into pieces
for its fragments.

An utterance matches if it can be cut into pieces with the letters of wordings that
matching tries (`Template.match_iff_exists_cutting`), and the slots take the pieces
of the most preferred cutting (`Template.match_takes_preferred_cutting`). Where case
does not count matching does not try all wordings: a set loses those whose last
letter is an upper-case one beyond the first 65536 code points.
-/

namespace UtteranceTemplate

open Pattern

variable {vocabulary : Vocabulary} {ignoreCase : Bool}

namespace Fragment

theorem wording_spaced {fragment : Fragment} {wording : Wording}
    (h : wording ∈ fragment.wordings vocabulary) :
    wording.text = [] ∨ ∃ body, wording.text = .char ' ' :: body := by
  have hchoices : ∀ (wordingsOf : Text → List Wording) (texts : List Text),
      ∀ choice ∈ Wording.choices wordingsOf texts, ∀ found ∈ choice,
        found.text = [] ∨ ∃ body, found.text = .char ' ' :: body := by
    intro wordingsOf texts choice hchoice found hfound
    obtain ⟨text, _, rfl⟩ := List.mem_map.mp hchoice
    split at hfound
    · left
      rw [List.mem_singleton.mp hfound]
    · obtain ⟨other, _, rfl⟩ := List.mem_map.mp hfound
      exact Or.inr ⟨other.text, rfl⟩
  obtain ⟨⟨choice, i⟩, hchoice, hmem⟩ := List.mem_flatMap.mp h
  obtain ⟨found, hfound, rfl⟩ := List.mem_map.mp hmem
  have hmember : choice ∈ fragment.choices vocabulary :=
    List.fst_mem_of_mem_zipIdx hchoice
  cases fragment with
  | parameter name value =>
      rw [List.mem_singleton.mp hmember, List.mem_singleton] at hfound
      exact Or.inl (by rw [hfound])
  | untypedSlot name => cases hmember
  | typedSlot name type => exact hchoices _ _ choice hmember found hfound
  | alternatives texts => exact hchoices _ _ choice hmember found hfound
  | words run =>
      rw [List.mem_singleton.mp hmember] at hfound
      obtain ⟨other, _, rfl⟩ := List.mem_map.mp hfound
      exact Or.inr ⟨other.text, rfl⟩

/-- A piece that fits a fragment is empty or begins with a space. -/
theorem Fits.spaced {fragment : Fragment} {piece : Wording}
    (h : fragment.Fits (wordings vocabulary) ignoreCase piece) :
    piece.text = [] ∨ ∃ body, piece.text = .char ' ' :: body := by
  have hwording :
      (∃ wording ∈ fragment.wordings vocabulary, wording.rank = piece.rank ∧
      Text.sameLetters ignoreCase wording.text piece.text = true) →
      piece.text = [] ∨ ∃ body, piece.text = .char ' ' :: body := by
    rintro ⟨wording, hwording, _, hsame⟩
    rcases wording_spaced hwording with hnil | ⟨body, hbody⟩
    · left
      rw [hnil] at hsame
      exact List.length_eq_zero_iff.mp (Text.length_eq_of_sameLetters hsame).symm
    · right
      rw [hbody] at hsame
      obtain ⟨letters, hletters, _⟩ := Text.exists_of_sameLetters_space_cons hsame
      exact ⟨letters, hletters⟩
  cases fragment with
  | untypedSlot name =>
      obtain ⟨body, _, rfl⟩ := h
      exact Or.inr ⟨body, rfl⟩
  | parameter | typedSlot | alternatives | words => exact hwording h

/-- A piece that fits by some wordings fits by more of them. -/
theorem Fits.mono {wordingsOf others : Fragment → List Wording} {fragment : Fragment}
    {piece : Wording} (hsubset : wordingsOf fragment ⊆ others fragment)
    (h : fragment.Fits wordingsOf ignoreCase piece) :
    fragment.Fits others ignoreCase piece := by
  cases fragment with
  | untypedSlot name => exact h
  | parameter | typedSlot | alternatives | words =>
      obtain ⟨wording, hwording, hrank, hsame⟩ := h
      exact ⟨wording, hsubset hwording, hrank, hsame⟩

end Fragment

theorem IsCutting.mono {wordingsOf others : Fragment → List Wording}
    {fragments : List Fragment} {text : Text} {pieces : List Wording}
    (hsubset : ∀ fragment ∈ fragments, wordingsOf fragment ⊆ others fragment)
    (h : IsCutting wordingsOf ignoreCase fragments text pieces) :
    IsCutting others ignoreCase fragments text pieces := by
  refine ⟨?_, h.text⟩
  have hall := h.fits
  clear h
  induction hall with
  | nil => exact .nil
  | cons hfits _ ih =>
      refine .cons (hfits.mono (hsubset _ List.mem_cons_self)) (ih ?_)
      exact fun fragment hmem => hsubset fragment (List.mem_cons_of_mem _ hmem)

/-- Matching tries wordings only. -/
theorem IsCutting.of_tried {fragments : List Fragment} {text : Text}
    {pieces : List Wording}
    (h : IsCutting (Fragment.triedWordings vocabulary ignoreCase) ignoreCase
      fragments text pieces) :
    IsCutting (Fragment.wordings vocabulary) ignoreCase fragments text pieces :=
  h.mono fun _ _ => List.filter_sublist.subset

theorem head?_flatMap_text {fragments : List Fragment} {pieces : List Wording}
    (h : List.Forall₂ (Fragment.Fits (Fragment.wordings vocabulary) ignoreCase)
      fragments pieces)
    {c : CodePoint} (hc : (pieces.flatMap Wording.text).head? = some c) :
    c = ' ' := by
  induction h with
  | nil => cases hc
  | @cons _ piece _ pieces hfits _ ih =>
      rw [List.flatMap_cons] at hc
      rcases hfits.spaced with hnil | ⟨body, hbody⟩
      · rw [hnil] at hc
        exact ih hc
      · rw [hbody] at hc
        exact (Option.some.inj hc).symm

/-- The value of a slot is its piece without the space in front. -/
theorem Fragment.Fits.slotValue {fragment : Fragment} {piece : Wording} {rest : Text}
    (h : fragment.Fits (Fragment.wordings vocabulary) ignoreCase piece)
    (hspaced : Text.IsSpaced (piece.text ++ rest))
    (hrest : ∀ c, rest.head? = some c → c = ' ') :
    Matcher.slotValue (some piece.text) =
      if piece.text.isEmpty then none else some piece.text.tail := by
  rcases h.spaced with hnil | ⟨body, hbody⟩
  · rw [hnil]
    rfl
  · rw [hbody] at hspaced ⊢
    obtain ⟨hne, htrimmed⟩ := Text.IsSpaced.trimmed hspaced hrest
    have hempty : body.isEmpty = false := by simpa using hne
    simp only [Matcher.slotValue, Text.trim_space_cons htrimmed, hempty]
    rfl

/-- The slots of a cutting take their pieces one by one. -/
theorem IsCutting.zip_keptPieces {fragments : List Fragment} {text : Text}
    {pieces : List Wording}
    (h : IsCutting (Fragment.wordings vocabulary) ignoreCase fragments text pieces)
    (hspaced : Text.IsSpaced text) :
    ((fragments.filterMap Fragment.slot?).map Prod.fst).zip
        ((keptPieces fragments pieces).map Matcher.slotValue) =
          slotPieces fragments pieces := by
  obtain ⟨hfits, rfl⟩ := h
  induction hfits with
  | nil => rfl
  | @cons fragment piece fragments pieces hpiece hpieces ih =>
      rw [List.flatMap_cons] at hspaced
      have hrest := ih hspaced.of_append
      have hvalue :=
        hpiece.slotValue hspaced fun c hc => head?_flatMap_text hpieces hc
      cases hslot : fragment.slot? with
      | none => simpa [keptPieces, slotPieces, Fragment.kept, hslot] using hrest
      | some slot =>
          have hkept : keptPieces (fragment :: fragments) (piece :: pieces) =
              some piece.text :: keptPieces fragments pieces := by
            simp [keptPieces, Fragment.kept, hslot]
          have htaken : slotPieces (fragment :: fragments) (piece :: pieces) =
              (slot.1, if piece.text.isEmpty then none else some piece.text.tail) ::
                slotPieces fragments pieces := by
            simp [slotPieces, hslot]
          rw [List.filterMap_cons_some hslot, hkept, htaken, List.map_cons,
            List.map_cons, List.zip_cons_cons, hvalue, hrest]

/-- If matching tries all wordings of a template, its cuttings are all cuttings. -/
theorem isCutting_tried_iff {fragments : List Fragment} {text : Text}
    {pieces : List Wording}
    (hall : ignoreCase = true → ∀ fragment ∈ fragments,
      fragment.triedWordings vocabulary ignoreCase = fragment.wordings vocabulary) :
    IsCutting (Fragment.triedWordings vocabulary ignoreCase) ignoreCase fragments
      text pieces ↔
      IsCutting (Fragment.wordings vocabulary) ignoreCase fragments text pieces := by
  constructor
  · exact IsCutting.of_tried
  · intro h
    refine h.mono fun fragment hmem => ?_
    cases ignoreCase with
    | false => rw [Fragment.triedWordings_false]; exact List.Subset.refl _
    | true => rw [hall rfl fragment hmem]; exact List.Subset.refl _

/-- The captures of a template whose braces are local are those of the items
of its fragments. -/
theorem Draft.Holds.captures? {fragments : List Fragment} {draft : Draft}
    (h : draft.Holds vocabulary fragments)
    (hlocal : BracesAreLocal (fragments.flatMap Fragment.bracedTexts))
    (template subject : Text) (ignoreCase : Bool) :
    (draft.finish template).captures? subject ignoreCase =
      .ok ((seq ((fragments.flatMap (Fragment.items vocabulary)).flatMap
        Pattern.items)).fullMatch? ignoreCase subject) := by
  rw [Matcher.captures?, h.read_pattern hlocal]
  rfl

/-- Matching gives an outcome, and a match exactly if there is a cutting that
is tried. -/
theorem Template.exists_outcome_iff_cutting {template : Text} {matcher : Matcher}
    (h : Template.compile vocabulary template = .ok matcher)
    (hlocal : Template.IsBraceLocal template) (utterance : Text)
    (ignoreCase : Bool) :
    ∃ outcome, matcher.match? utterance ignoreCase = .ok outcome ∧
      (outcome.isSome ↔ ∃ pieces,
        IsCutting (Fragment.triedWordings vocabulary ignoreCase) ignoreCase
          (Template.fragments template) (Utterance.normalize utterance) pieces) := by
  obtain ⟨draft, hholds, rfl⟩ := Template.exists_draft_of_compile h
  have hcaptures :=
    hholds.captures? hlocal template (Utterance.normalize utterance) ignoreCase
  have hnewline := (Text.isSpaced_normalize utterance).newline_not_mem
  refine ⟨_, by rw [Matcher.match?, hcaptures]; rfl, ?_⟩
  rw [Option.isSome_map]
  exact isSome_fullMatch?_iff hnewline

/-- A template whose braces are local matches an utterance if the utterance can be
cut into pieces with the letters of wordings that matching tries. If it tries all of
them, as it does where case counts, these are all cuttings. -/
theorem Template.match_iff_exists_cutting {template : Text} {matcher : Matcher}
    (h : Template.compile vocabulary template = .ok matcher ∨
      ∃ given : UncheckedVocabulary, given.textual = vocabulary ∧
        given.compile template = .ok matcher)
    (hlocal : Template.IsBraceLocal template) (utterance : Text)
    (ignoreCase : Bool) :
    ∃ outcome, matcher.match? utterance ignoreCase = .ok outcome ∧
      (outcome.isSome ↔ ∃ pieces,
        IsCutting (Fragment.triedWordings vocabulary ignoreCase) ignoreCase
          (Template.fragments template) (Utterance.normalize utterance) pieces) ∧
      ((ignoreCase = true → ∀ fragment ∈ Template.fragments template,
          fragment.triedWordings vocabulary ignoreCase =
            fragment.wordings vocabulary) →
        (outcome.isSome ↔ ∃ pieces,
          IsCutting (Fragment.wordings vocabulary) ignoreCase
            (Template.fragments template)
              (Utterance.normalize utterance) pieces)) := by
  obtain ⟨outcome, houtcome, hiff⟩ :=
    Template.exists_outcome_iff_cutting
      (Template.compile_eq_ok h) hlocal utterance ignoreCase
  refine ⟨outcome, houtcome, hiff, ?_⟩
  intro hall
  rw [hiff]
  exact exists_congr fun pieces => isCutting_tried_iff hall

theorem Template.ofTemplate_bracedWords :
    Reading.ofTemplate "\x7bplease\x7d (turn|switch\x7bed\x7d|) [s:t] [u]".text =
      ⟨[⟨0, "\x7bplease\x7d ".text, .words "\x7bplease\x7d ".text⟩,
        ⟨9, "(turn|switch\x7bed\x7d|)".text,
          .alternatives ["turn".text, "switch\x7bed\x7d".text, []]⟩,
        ⟨28, "[s:t]".text, .typedSlot ['s'] ['t']⟩,
        ⟨34, "[u]".text, .untypedSlot ['u']⟩], []⟩ := by
  decide +kernel

theorem Template.match_iff_exists_cutting_bracedWords :
    let vocabulary : Vocabulary := ⟨[(['t'], ["a  |b".text, []])]⟩
    let template := "\x7bplease\x7d (turn|switch\x7bed\x7d|) [s:t] [u]".text
    let matcher : Matcher :=
      { template, slots := [['s'], ['u']], slotTypes := [(['s'], ['t'])]
        pattern := " (?:please)?(?: turn| switch(?:ed)?|)( a \\|b|)( .+?)".text }
    let found : Match :=
      { template, utterance := "Please switch A |b on".text
        slots :=
          [(['s'], some "A |b".text), (['u'], some "on".text)], parameters := [] }
    Template.compile vocabulary template = .ok matcher ∧
      Template.IsBraceLocal template ∧
      (∀ fragment ∈ Template.fragments template,
        fragment.triedWordings vocabulary true = fragment.wordings vocabulary) ∧
      matcher.match? "Please switch A |b on".text true = .ok (some found) ∧
      ∃ pieces,
        IsCutting (Fragment.wordings vocabulary) true (Template.fragments template)
        (Utterance.normalize "Please switch A |b on".text) pieces := by
  intro vocabulary template matcher found
  have hcompile : Template.compile vocabulary template = .ok matcher := by
    simp only [template, Template.compile, Template.ofTemplate_bracedWords]
    rfl
  have hlocal : Template.IsBraceLocal template := by
    rw [Template.IsBraceLocal, Template.fragments, Template.ofTemplate_bracedWords]
    decide
  have hall : ∀ fragment ∈ Template.fragments template,
      fragment.triedWordings vocabulary true = fragment.wordings vocabulary := by
    rw [Template.fragments, Template.ofTemplate_bracedWords]
    decide +kernel
  have hmatch : matcher.match? "Please switch A |b on".text true =
      .ok (some found) := by
    decide
  obtain ⟨outcome, houtcome, _, hiff⟩ :=
    Template.match_iff_exists_cutting (Or.inl hcompile) hlocal
      "Please switch A |b on".text true
  rw [hmatch, Except.ok.injEq] at houtcome
  have hcutting := (hiff fun _ => hall).mp (by rw [← houtcome]; rfl)
  exact ⟨hcompile, hlocal, hall, hmatch, hcutting⟩

theorem Template.ofTemplate_twoLetters :
    Reading.ofTemplate "(𐐀|𐐁)".text =
      ⟨[⟨0, "(𐐀|𐐁)".text, .alternatives [['𐐀'], ['𐐁']]⟩], []⟩ := by
  decide +kernel

/-- Where case does not count, a set of two upper-case letters beyond the first 65536
code points loses both, so an utterance that is one of the alternatives can be cut
but is not matched. -/
theorem Template.not_match_of_cutting_lostLetter :
    let vocabulary : Vocabulary := ⟨[]⟩
    let template := "(𐐀|𐐁)".text
    let matcher : Matcher := { template, pattern := "(?: 𐐀| 𐐁)".text }
    Template.compile vocabulary template = .ok matcher ∧
      Template.IsBraceLocal template ∧ matcher.match? ['𐐀'] true = .ok none ∧
      IsCutting (Fragment.wordings vocabulary) true (Template.fragments template)
        (Utterance.normalize ['𐐀']) [⟨[0], [' ', '𐐀']⟩] := by
  intro vocabulary template matcher
  have hfragments : Template.fragments template =
      [.alternatives [['𐐀'], ['𐐁']]] := by
    rw [Template.fragments, Template.ofTemplate_twoLetters]
    rfl
  have hcompile : Template.compile vocabulary template = .ok matcher := by
    simp only [template, Template.compile, Template.ofTemplate_twoLetters]
    rfl
  have hlocal : Template.IsBraceLocal template := by
    rw [Template.IsBraceLocal, hfragments]
    decide
  have hmatch : matcher.match? ['𐐀'] true = .ok none := by decide
  refine ⟨hcompile, hlocal, hmatch, ?_, by decide⟩
  rw [hfragments]
  refine .cons ⟨⟨[0], [' ', '𐐀']⟩, ?_, rfl, by decide⟩ .nil
  decide +kernel

theorem Template.exists_tried_cutting_of_match {template : Text} {matcher : Matcher}
    (h : Template.compile vocabulary template = .ok matcher)
    (hlocal : Template.IsBraceLocal template) {utterance : Text} {found : Match}
    (hmatch : matcher.match? utterance ignoreCase = .ok (some found)) :
    found.slots.keys = matcher.slots ∧ matcher.slots.Nodup ∧ ∃ pieces,
      IsCutting (Fragment.triedWordings vocabulary ignoreCase) ignoreCase
        (Template.fragments template) (Utterance.normalize utterance) pieces ∧
      found.slots = slotPieces (Template.fragments template) pieces ∧
      ∀ others,
        IsCutting (Fragment.triedWordings vocabulary ignoreCase) ignoreCase
          (Template.fragments template) (Utterance.normalize utterance) others →
        others = pieces ∨ IsPreferred pieces others := by
  obtain ⟨draft, hholds, rfl⟩ := Template.exists_draft_of_compile h
  have hcaptures :=
    hholds.captures? hlocal template (Utterance.normalize utterance) ignoreCase
  have hspaced := Text.isSpaced_normalize utterance
  have hsound := hholds.isSound template
  obtain ⟨outcome, houtcome, hfound⟩ := hsound.match?_eq_ok utterance ignoreCase
  rw [hmatch, Except.ok.injEq] at houtcome
  obtain ⟨captures, hkept, _, hpairs, hkeys⟩ := hfound found houtcome.symm
  rw [hcaptures, Except.ok.injEq] at hkept
  obtain ⟨pieces, rfl, hcutting, hfirst⟩ :=
    exists_cutting_of_fullMatch?_eq_some hspaced.newline_not_mem hkept
  refine ⟨hkeys, hsound.distinct, pieces, hcutting, ?_, hfirst⟩
  rw [hpairs, hsound.slots]
  exact hcutting.of_tried.zip_keptPieces hspaced

/-- In a match of a template whose braces are local the slots take the pieces of the
most preferred cutting, of all cuttings if matching tries all wordings. -/
theorem Template.match_takes_preferred_cutting {template : Text} {matcher : Matcher}
    (h : Template.compile vocabulary template = .ok matcher ∨
      ∃ given : UncheckedVocabulary, given.textual = vocabulary ∧
        given.compile template = .ok matcher)
    (hlocal : Template.IsBraceLocal template) {utterance : Text} {found : Match}
    (hmatch : matcher.match? utterance ignoreCase = .ok (some found)) :
    ∃ pieces,
      IsCutting (Fragment.triedWordings vocabulary ignoreCase) ignoreCase
        (Template.fragments template) (Utterance.normalize utterance) pieces ∧
      found.slots = slotPieces (Template.fragments template) pieces ∧
      (∀ others,
        IsCutting (Fragment.triedWordings vocabulary ignoreCase) ignoreCase
          (Template.fragments template) (Utterance.normalize utterance) others →
        others = pieces ∨ IsPreferred pieces others) ∧
      ((ignoreCase = true → ∀ fragment ∈ Template.fragments template,
          fragment.triedWordings vocabulary ignoreCase =
            fragment.wordings vocabulary) →
        ∀ others,
          IsCutting (Fragment.wordings vocabulary) ignoreCase
            (Template.fragments template) (Utterance.normalize utterance) others →
          others = pieces ∨ IsPreferred pieces others) := by
  obtain ⟨_, _, pieces, hcutting, hslots, hfirst⟩ :=
    Template.exists_tried_cutting_of_match (Template.compile_eq_ok h) hlocal hmatch
  refine ⟨pieces, hcutting, hslots, hfirst, ?_⟩
  intro hall others hothers
  exact hfirst others ((isCutting_tried_iff hall).mpr hothers)

theorem Template.ofTemplate_threeSlots :
    Reading.ofTemplate "[x][y:t][z]".text =
      ⟨[⟨0, "[x]".text, .untypedSlot ['x']⟩,
        ⟨3, "[y:t]".text, .typedSlot ['y'] ['t']⟩,
          ⟨8, "[z]".text, .untypedSlot ['z']⟩], []⟩ := by
  decide +kernel

theorem Template.fragments_threeSlots :
    Template.fragments "[x][y:t][z]".text =
      [.untypedSlot ['x'], .typedSlot ['y'] ['t'], .untypedSlot ['z']] := by
  rw [Template.fragments, Template.ofTemplate_threeSlots]
  rfl

theorem Template.isBraceLocal_threeSlots :
    Template.IsBraceLocal "[x][y:t][z]".text := by
  rw [Template.IsBraceLocal, Template.fragments_threeSlots]
  decide

/-- Both phrases stand in the utterance, and the shorter piece for the first slot
takes the earlier one. -/
theorem Template.match_takes_preferred_cutting_threeSlots :
    let vocabulary : Vocabulary := ⟨[(['t'], [['b'], ['c']])]⟩
    let template := "[x][y:t][z]".text
    let matcher : Matcher :=
      { template, slots := [['x'], ['y'], ['z']], slotTypes := [(['y'], ['t'])]
        pattern := "( .+?)( b| c)( .+?)".text }
    let found : Match :=
      { template, utterance := "p b q c r".text
        slots :=
          [(['x'], some ['p']), (['y'], some ['b']), (['z'], some "q c r".text)]
        parameters := [] }
    Template.compile vocabulary template = .ok matcher ∧
      Template.IsBraceLocal template ∧
      (∀ fragment ∈ Template.fragments template,
        fragment.triedWordings vocabulary true = fragment.wordings vocabulary) ∧
      matcher.match? "p b q c r".text true = .ok (some found) ∧
      ∃ pieces,
        found.slots = slotPieces (Template.fragments template) pieces ∧
        ∀ others,
          IsCutting (Fragment.wordings vocabulary) true (Template.fragments template)
            (Utterance.normalize "p b q c r".text) others →
          others = pieces ∨ IsPreferred pieces others := by
  intro vocabulary template matcher found
  have hcompile : Template.compile vocabulary template = .ok matcher := by
    simp only [template, Template.compile, Template.ofTemplate_threeSlots]
    rfl
  have hall : ∀ fragment ∈ Template.fragments template,
      fragment.triedWordings vocabulary true = fragment.wordings vocabulary := by
    rw [Template.fragments_threeSlots]
    decide
  have hmatch : matcher.match? "p b q c r".text true = .ok (some found) := by decide
  obtain ⟨pieces, _, hslots, _, hfirst⟩ := Template.match_takes_preferred_cutting
    (Or.inl hcompile) Template.isBraceLocal_threeSlots hmatch
  exact ⟨hcompile, Template.isBraceLocal_threeSlots, hall, hmatch, pieces, hslots,
    hfirst fun _ => hall⟩

/-- Here the earlier of two upper-case phrases beyond the first 65536 code points is
lost, and no most preferred cutting has the slots that are reported. -/
theorem Template.not_preferred_cutting_lostLetter :
    let vocabulary : Vocabulary := ⟨[(['t'], [['𐐀'], ['𐐩']])]⟩
    let template := "[x][y:t][z]".text
    let matcher : Matcher :=
      { template, slots := [['x'], ['y'], ['z']], slotTypes := [(['y'], ['t'])]
        pattern := "( .+?)( 𐐀| 𐐩)( .+?)".text }
    let found : Match :=
      { template, utterance := "p 𐐀 q 𐐩 r".text
        slots :=
          [(['x'], some "p 𐐀 q".text), (['y'], some ['𐐩']), (['z'], some ['r'])]
        parameters := [] }
    Template.compile vocabulary template = .ok matcher ∧
      Template.IsBraceLocal template ∧
      matcher.match? "p 𐐀 q 𐐩 r".text true = .ok (some found) ∧
      ¬ ∃ pieces,
        IsCutting (Fragment.wordings vocabulary) true (Template.fragments template)
          (Utterance.normalize "p 𐐀 q 𐐩 r".text) pieces ∧
        found.slots = slotPieces (Template.fragments template) pieces ∧
        ∀ others,
          IsCutting (Fragment.wordings vocabulary) true (Template.fragments template)
            (Utterance.normalize "p 𐐀 q 𐐩 r".text) others →
          others = pieces ∨ IsPreferred pieces others := by
  intro vocabulary template matcher found
  have hcompile : Template.compile vocabulary template = .ok matcher := by
    simp only [template, Template.compile, Template.ofTemplate_threeSlots]
    rfl
  have hmatch : matcher.match? "p 𐐀 q 𐐩 r".text true = .ok (some found) := by decide
  refine ⟨hcompile, Template.isBraceLocal_threeSlots, hmatch, ?_⟩
  rintro ⟨pieces, hcutting, hslots, hfirst⟩
  rw [Template.fragments_threeSlots] at hcutting hslots hfirst
  have hearly : IsCutting (Fragment.wordings vocabulary) true
      [.untypedSlot ['x'], .typedSlot ['y'] ['t'], .untypedSlot ['z']]
      (Utterance.normalize "p 𐐀 q 𐐩 r".text)
      [⟨[1], " p".text⟩, ⟨[0], " 𐐀".text⟩, ⟨[5], " q 𐐩 r".text⟩] := by
    have hphrase :
        (Fragment.typedSlot ['y'] ['t']).Fits (Fragment.wordings vocabulary) true
        ⟨[0], " 𐐀".text⟩ := by
      refine ⟨⟨[0], " 𐐀".text⟩, ?_, rfl, ?_⟩ <;> decide
    refine ⟨.cons ⟨['p'], by simp, rfl⟩ (.cons hphrase (.cons ?_ .nil)), by decide⟩
    exact ⟨"q 𐐩 r".text, by decide, by decide⟩
  obtain ⟨hfits, _⟩ := hcutting
  cases hfits with
  | cons hfree _ =>
      obtain ⟨body, _, rfl⟩ := hfree
      have hbody : body = "p 𐐀 q".text := by
        have hhead := congrArg List.head? hslots
        simpa [slotPieces, Fragment.slot?, found] using hhead.symm
      rcases hfirst _ hearly with heq | hlt
      · have hhead := congrArg List.head? heq
        simp [hbody, String.text] at hhead
      · -- the reported piece for the first slot is longer than it needs to be
        have hranks : [body.length] < [1] ∨ [body.length] = [1] ∧ _ < _ :=
          List.cons_lt_cons_iff.mp hlt
        rw [hbody] at hranks
        rcases hranks with hless | ⟨heq, _⟩
        · exact absurd hless (by decide)
        · exact absurd heq (by decide)

end UtteranceTemplate
