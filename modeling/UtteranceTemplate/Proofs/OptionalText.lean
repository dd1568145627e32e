import UtteranceTemplate.Proofs.OptionalChoices

/-!
Optional text: what a template with a pair of braces has to do with the
templates without them.

Braces are rewritten in the pattern, after every fragment has got a space of its own.
So they are neutral only if both stand between fragments, or both in one choice
(`Template.BracesPair`), and keeping or dropping what is between them needs no space
that is not there: at each place where a brace stood a word has to touch it
(`Template.touchesWord`). Under these conditions a template with braces accepts what
one of the two templates without them accepts (`Template.optional_text`);
`Template.not_isOptionalAt` shows why each of them is needed.
-/

namespace UtteranceTemplate

open Pattern Token Text

namespace Template

/-- Whether a template breaks off in a word: of its last run of words, or of its last
choice if it breaks off in a group. -/
def breaksOffInWord (front : Text) : Bool :=
  match (Reading.ofTemplate front).unread with
  | [] => endsInRun (Reading.ofTemplate front).parts
  | _ :: interior => endsInWord ((cutAt '|' interior).getLast?.getD [])

/-- Whether a text goes on with a word where a template breaks off. -/
def goesOnInWord (front back : Text) : Bool :=
  back.head?.any fun c =>
    !isBlank c &&
      if (Reading.ofTemplate front).unread.isEmpty then !Fragment.isOpening c
      else c != '|' && c != ')'

/-- Whether a brace between two texts would touch a word. -/
def touchesWord (front back : Text) : Bool :=
  breaksOffInWord front || goesOnInWord front back

/-- Whether braces around a part of a template stand between its fragments, or in one
choice of a group. -/
def BracesPair (front inside : Text) : Prop :=
  (IsWhole front ∧ IsWhole inside) ∨
    (∃ interior, (Reading.ofTemplate front).unread = .char '(' :: interior) ∧
      .char '|' ∉ inside ∧ .char ')' ∉ inside

variable {vocabulary : Vocabulary} {ignoreCase : Bool}
  {front inside back text unread : Text} {matcher kept dropped : Matcher}
  {utterance : Text}

/-! ### Between fragments -/

theorem touchesWord_of_isWhole (vocabulary : Vocabulary) (hfront : IsWhole front)
    (back : Text) :
    touchesWord front back = (itemRows vocabulary).touches front back := by
  have hunread : (Reading.ofTemplate front).unread = [] := hfront
  have hgoes : goesOnInWord front back = beginsInRun back := by
    rw [goesOnInWord, hunread]
    rfl
  rw [touchesWord, breaksOffInWord, hunread, hgoes]
  rfl

theorem ends_itemRows_append (hfront : IsWhole front) (hinside : IsWhole inside)
    (hne : inside ≠ []) :
    (itemRows vocabulary).ends (front ++ inside) =
      (itemRows vocabulary).ends inside :=
  (joins_tokenRows vocabulary).ends_append
    (@isLetter_tokenRows vocabulary '{' (by decide) (by decide))
    hfront hinside ((isWhole_append_iff hfront).mpr hinside) hne

/-! ### In a choice -/

theorem ReadsAs.not_begins {parts : List (Text × Fragment)}
    (h : ReadsAs text parts unread) :
    ∀ fragment rest, ¬ Fragment.Begins fragment unread rest := by
  induction h with
  | stop _ _ hnone => exact hnone
  | part _ _ _ _ _ ih => exact ih

theorem readsAs_open {interior : Text} (hclose : .char ')' ∉ interior) :
    ReadsAs ('(' :: interior) [] ('(' :: interior) := by
  refine .stop isGap_nil ?_ ?_
  · intro c hc
    rw [← Option.some.inj hc]
    rfl
  · rintro fragment rest ⟨source, hsource, htext, _⟩
    cases hsource with
    | alternatives hne hnot =>
        obtain ⟨_, rfl⟩ := List.cons.inj htext
        simp at hclose
    | words hne hopen =>
        cases source with
        | nil => exact hne rfl
        | cons c source =>
            obtain ⟨rfl, _⟩ := List.cons.inj htext
            exact absurd (hopen '(' List.mem_cons_self) (by decide)
    | parameter | untypedSlot | typedSlot => cases htext

/-- If a template with braces breaks off in a group in front of the opening brace,
both braces stand in one choice of the group. -/
theorem exists_gap {interior : Text}
    (h : compile vocabulary (braced front inside back) = .ok matcher)
    (hunread : (Reading.ofTemplate front).unread = .char '(' :: interior)
    (hclose : .char ')' ∉ inside) :
    ∃ gap : ChoiceGap, gap.front = front ∧ gap.back = back := by
  have hreads := readsAs_ofTemplate front
  rw [hunread] at hreads
  obtain ⟨start, hfront, hstart⟩ := hreads.exists_isWhole
  have hwhole : IsWhole start := (readsAs_iff.mp hstart).2
  have hbraced := isWhole_of_compile h
  rw [braced, hfront, List.append_assoc, isWhole_append_iff hwhole,
    List.cons_append] at hbraced
  obtain ⟨inner, ending, hsplit, hne, hinner, _⟩ := hbraced.exists_group
  have hinterior : .char ')' ∉ interior := by
    intro hmem
    obtain ⟨before, after, rfl, hbefore⟩ := List.eq_append_cons_of_mem hmem
    have hinner' : before ++ .char ')' ::
        (after ++ .char '{' :: (inside ++ .char '}' :: back)) =
        inner ++ .char ')' :: ending := by
      rw [← hsplit]
      simp
    obtain ⟨rfl, _⟩ := append_cons_inj_of_not_mem hbefore hinner hinner'
    apply hreads.not_begins (.alternatives (Fragment.choicesOf before)) after
    exact ⟨_, .alternatives hne hbefore, by simp, by simp [Fragment.production]⟩
  have hback : .char ')' ∈ back := by
    have hmem :
        .char ')' ∈ interior ++ .char '{' :: (inside ++ .char '}' :: back) := by
      rw [hsplit]
      simp
    simpa [hinterior, hclose] using hmem
  obtain ⟨rest, ending, rfl, hrest⟩ := List.eq_append_cons_of_mem hback
  obtain hnil | ⟨before, first, hbefore⟩ :=
    List.eq_nil_or_concat' (cutAt '|' interior)
  · exact absurd hnil (cutAt_ne_nil '|' interior)
  · obtain ⟨last, after, hafter⟩ :=
      List.exists_cons_of_ne_nil (cutAt_ne_nil '|' rest)
    exact ⟨⟨start, interior, rest, ending, before, first, last, after, hwhole,
      hinterior, hrest, hbefore, hafter⟩, hfront.symm, rfl⟩

namespace ChoiceGap

variable (gap : ChoiceGap)

theorem unread_append (hclose : .char ')' ∉ inside) :
    (Reading.ofTemplate (gap.front ++ inside)).unread =
      .char '(' :: (gap.interior ++ inside) := by
  have hnot : .char ')' ∉ gap.interior ++ inside := by
    simp [gap.interior_close, hclose]
  have happend : gap.front ++ inside =
      gap.start ++ .char '(' :: (gap.interior ++ inside) := by
    simp [ChoiceGap.front]
  rw [happend, (ofTemplate_append ⟨[]⟩ gap.whole _).2]
  exact (readsAs_iff.mp (readsAs_open hnot)).2

theorem unread_front :
    (Reading.ofTemplate gap.front).unread = .char '(' :: gap.interior := by
  have hunread := @gap.unread_append []
  rw [List.append_nil, List.append_nil] at hunread
  exact hunread (by simp)

theorem breaksOffInWord_append (hbar : .char '|' ∉ inside)
    (hclose : .char ')' ∉ inside) :
    breaksOffInWord (gap.front ++ inside) = endsInWord (gap.first ++ inside) := by
  have hcut := cutAt_append gap.cut_interior (cutAt_of_not_mem hbar)
  rw [breaksOffInWord, gap.unread_append hclose]
  simp only [hcut, List.getLast?_concat, Option.getD_some]

theorem breaksOffInWord_front : breaksOffInWord gap.front =
    endsInWord gap.first := by
  have hbreaks := @gap.breaksOffInWord_append []
  rw [List.append_nil, List.append_nil] at hbreaks
  exact hbreaks (by simp) (by simp)

theorem beginsInWord_last :
    beginsInWord gap.last = gap.back.head?.any fun c =>
      !isBlank c && (c != '|' && c != ')') := by
  have hcut := gap.cut_rest
  have hclose := gap.rest_close
  rw [ChoiceGap.back]
  generalize gap.rest = rest at hcut hclose
  generalize gap.last = last at hcut
  cases rest with
  | nil =>
      obtain ⟨rfl, _⟩ := List.cons.inj hcut
      rfl
  | cons c rest =>
      simp only [List.mem_cons, not_or] at hclose
      have hc : (c != ')') = true := by simpa using Ne.symm hclose.1
      by_cases hbar : c = '|'
      · subst hbar
        obtain ⟨rfl, _⟩ := List.cons.inj hcut
        rfl
      · obtain ⟨piece, pieces, hpieces⟩ :=
          List.exists_cons_of_ne_nil (cutAt_ne_nil '|' rest)
        rw [cutAt, if_neg hbar, hpieces] at hcut
        obtain ⟨rfl, _⟩ := List.cons.inj hcut
        simp [beginsInWord, hbar, hc]

theorem goesOnInWord_back (hunread : (Reading.ofTemplate text).unread ≠ []) :
    goesOnInWord text gap.back = beginsInWord gap.last := by
  have hempty : (Reading.ofTemplate text).unread.isEmpty = false := by
    simpa using hunread
  rw [gap.beginsInWord_last, goesOnInWord, hempty]
  rfl

theorem goesOnInWord_append (hbar : .char '|' ∉ inside)
    (hclose : .char ')' ∉ inside) :
    goesOnInWord gap.front (inside ++ gap.back) =
      beginsInWord (inside ++ gap.last) := by
  have hunread : (Reading.ofTemplate gap.front).unread ≠ [] := by
    rw [gap.unread_front]
    exact List.cons_ne_nil _ _
  cases inside with
  | nil => exact gap.goesOnInWord_back hunread
  | cons c inside =>
      have hempty : (Reading.ofTemplate gap.front).unread.isEmpty = false := by
        simpa using hunread
      simp only [List.mem_cons, not_or] at hbar hclose
      simp [goesOnInWord, beginsInWord, hempty, Ne.symm hbar.1, Ne.symm hclose.1]

/-- Where braces stand in a choice, touching is a matter of the characters of
the choice. -/
theorem touchesWord_front (hbar : .char '|' ∉ inside) (hclose : .char ')' ∉ inside) :
    touchesWord gap.front (inside ++ gap.back) =
      SpacedRows.ofText.touches gap.first (inside ++ gap.last) := by
  rw [touchesWord, gap.breaksOffInWord_front, gap.goesOnInWord_append hbar hclose]
  rfl

theorem touchesWord_back (hbar : .char '|' ∉ inside) (hclose : .char ')' ∉ inside)
    (hne : inside ≠ []) :
    touchesWord (gap.front ++ inside) gap.back =
      SpacedRows.ofText.touches inside gap.last := by
  have hunread : (Reading.ofTemplate (gap.front ++ inside)).unread ≠ [] := by
    rw [gap.unread_append hclose]
    exact List.cons_ne_nil _ _
  rw [touchesWord, gap.breaksOffInWord_append hbar hclose,
    gap.goesOnInWord_back hunread, endsInWord_append gap.first hne]
  rfl

end ChoiceGap

/-! ### Optional text -/

/-- Whether optional text means optional: whether a template with braces accepts an
utterance exactly if one of the templates without the braces does. -/
def IsOptionalAt (vocabulary : Vocabulary) (ignoreCase : Bool)
    (front inside back utterance : Text) : Prop :=
  ∀ matcher kept dropped,
    compile vocabulary (braced front inside back) = .ok matcher →
    compile vocabulary (front ++ (inside ++ back)) = .ok kept →
      compile vocabulary (front ++ back) = .ok dropped →
        (matcher.Accepts utterance ignoreCase ↔
          kept.Accepts utterance ignoreCase ∨ dropped.Accepts utterance ignoreCase)

/-- Whether the matcher of a template matches an utterance, if the template
compiles. -/
def accepts? (vocabulary : Vocabulary) (ignoreCase : Bool)
    (template utterance : Text) : Option Bool :=
  match compile vocabulary template with
  | .error _ => none
  | .ok matcher =>
      match matcher.match? utterance ignoreCase with
      | .error _ => none
      | .ok found => some found.isSome

theorem exists_of_accepts? {accepted : Bool}
    (h : accepts? vocabulary ignoreCase text utterance = some accepted) :
    ∃ matcher, compile vocabulary text = .ok matcher ∧
      (matcher.Accepts utterance ignoreCase ↔ accepted = true) := by
  unfold accepts? at h
  split at h
  · cases h
  · rename_i matcher hcompile
    refine ⟨matcher, hcompile, ?_⟩
    split at h
    · cases h
    · rename_i found hmatch
      rw [← Option.some.inj h, Option.isSome_iff_exists, Matcher.Accepts, hmatch]
      simp

theorem not_isOptionalAt_of_accepts? {accepted acceptedKept acceptedDropped : Bool}
    (h : accepts? vocabulary ignoreCase (braced front inside back) utterance =
      some accepted)
    (hkept : accepts? vocabulary ignoreCase (front ++ (inside ++ back)) utterance =
      some acceptedKept)
    (hdropped : accepts? vocabulary ignoreCase (front ++ back) utterance =
      some acceptedDropped)
    (hne : accepted ≠ (acceptedKept || acceptedDropped)) :
    ¬ IsOptionalAt vocabulary ignoreCase front inside back utterance := by
  intro hoptional
  obtain ⟨matcher, hmatcher, haccepts⟩ := exists_of_accepts? h
  obtain ⟨kept, hcompileKept, haccepts'⟩ := exists_of_accepts? hkept
  obtain ⟨dropped, hcompileDropped, haccepts''⟩ := exists_of_accepts? hdropped
  have hiff := hoptional matcher kept dropped hmatcher hcompileKept hcompileDropped
  rw [haccepts, haccepts', haccepts'', ← Bool.or_eq_true] at hiff
  exact hne (Bool.eq_iff_iff.mpr hiff)

/-- Optional text does not mean optional if keeping it or dropping it needs a space
that is not there, if the braces stand in different parts of the template, or if a
letter is lost to a set. -/
theorem not_isOptionalAt :
    ¬ IsOptionalAt ⟨[]⟩ true "turn".text " (it|that)".text " up".text
      "turn it up".text ∧
      ¬ IsOptionalAt ⟨[]⟩ true "turn ".text "it".text " up".text "turn up".text ∧
      ¬ IsOptionalAt ⟨[]⟩ true "(a|b".text "c) d".text "e) f".text "ae) f".text ∧
      ¬ IsOptionalAt ⟨[]⟩ true "(".text "𐐁".text "𐐀|𐐁)".text "𐐀".text := by
  refine ⟨?_, ?_, ?_, ?_⟩
  · apply @not_isOptionalAt_of_accepts? ⟨[]⟩ true _ _ _ _ false true false <;>
      decide +kernel
  · apply @not_isOptionalAt_of_accepts? ⟨[]⟩ true _ _ _ _ false false true <;>
      decide +kernel
  · apply @not_isOptionalAt_of_accepts? ⟨[]⟩ true _ _ _ _ true false false <;>
      decide +kernel
  · apply @not_isOptionalAt_of_accepts? ⟨[]⟩ true _ _ _ _ true false false <;>
      decide +kernel

/-- A template whose braces pair accepts what one of the templates without the braces
accepts; in a choice this is so if matching loses no wording of these. It accepts all
of that if a word touches the places of the braces. -/
theorem optional_text
    (h : compile vocabulary (braced front inside back) = .ok matcher)
    (hkept : compile vocabulary (front ++ (inside ++ back)) = .ok kept)
    (hdropped : compile vocabulary (front ++ back) = .ok dropped)
    (hfree : ∀ c ∈ front ++ (inside ++ back), c ≠ '{' ∧ c ≠ '}')
    (hpair : BracesPair front inside) (utterance : Text) (ignoreCase : Bool) :
    ((IsWhole front ∨ (TriesAll vocabulary ignoreCase (front ++ (inside ++ back)) ∧
            TriesAll vocabulary ignoreCase (front ++ back))) →
        matcher.Accepts utterance ignoreCase →
        kept.Accepts utterance ignoreCase ∨ dropped.Accepts utterance ignoreCase) ∧
      (touchesWord front (inside ++ back) = true →
        touchesWord (front ++ inside) back = true →
        kept.Accepts utterance ignoreCase → matcher.Accepts utterance ignoreCase) ∧
      (touchesWord front back = true →
        dropped.Accepts utterance ignoreCase →
          matcher.Accepts utterance ignoreCase) := by
  have hnone : ∀ part : Text, (∀ c ∈ part, c ∈ front ++ (inside ++ back)) →
      part.filter UtteranceTemplate.isBrace = [] := by
    intro part hpart
    rw [List.filter_eq_nil_iff]
    intro c hc
    obtain ⟨hleft, hright⟩ := hfree c (hpart c hc)
    simp [UtteranceTemplate.isBrace, hleft, hright]
  have hfrontFree := hnone front (by simp +contextual)
  have hinsideFree := hnone inside (by simp +contextual)
  have hbackFree := hnone back (by simp +contextual)
  rcases hpair with ⟨hfront, hinside⟩ | ⟨⟨interior, hunread⟩, hbar, hclose⟩
  · obtain ⟨honly, hkeeps, hdrops⟩ :=
      @optional_fragments vocabulary ignoreCase front inside back
        matcher kept dropped utterance h hkept hdropped hfront hinside hfrontFree
          hinsideFree hbackFree
    refine ⟨fun _ => honly, ?_, ?_⟩
    · intro hleft hright
      rw [touchesWord_of_isWhole vocabulary hfront] at hleft
      rw [touchesWord_of_isWhole vocabulary
        ((isWhole_append_iff hfront).mpr hinside)] at hright
      apply hkeeps hleft
      intro hne
      rw [SpacedRows.touches, ends_itemRows_append hfront hinside hne] at hright
      exact hright
    · intro htouch
      rw [touchesWord_of_isWhole vocabulary hfront] at htouch
      exact hdrops htouch
  · obtain ⟨gap, rfl, rfl⟩ := exists_gap h hunread hclose
    obtain ⟨honly, hkeeps, hdrops⟩ :=
      @optional_choice vocabulary ignoreCase gap inside matcher kept
        dropped utterance h hkept hdropped
          ⟨hfrontFree, hbackFree⟩ hinsideFree hbar hclose
    refine ⟨?_, ?_, ?_⟩
    · rintro (hwhole | ⟨hallKept, hallDropped⟩)
      · rw [IsWhole, hunread] at hwhole
        cases hwhole
      · exact honly hallKept hallDropped
    · intro hleft hright
      rw [gap.touchesWord_front hbar hclose] at hleft
      apply hkeeps hleft
      intro hne
      rw [← gap.touchesWord_back hbar hclose hne]
      exact hright
    · intro htouch
      rw [← List.nil_append gap.back, gap.touchesWord_front (by simp)
        (by simp)] at htouch
      exact hdrops htouch

theorem not_brace_turnItUp :
    ∀ c ∈ "(turn".text ++ (" it".text ++ " up|louder)".text), c ≠ '{' ∧ c ≠ '}' := by
  decide

theorem bracesPair_turnItUp : BracesPair "(turn".text " it".text :=
  Or.inr ⟨⟨"turn".text, by decide +kernel⟩, by decide, by decide⟩

theorem optional_text_turnUp :
    let front := "(turn".text
    let inside := " it".text
    let back := " up|louder)".text
    ∃ matcher kept dropped, compile ⟨[]⟩ (braced front inside back) = .ok matcher ∧
      compile ⟨[]⟩ (front ++ (inside ++ back)) = .ok kept ∧
      compile ⟨[]⟩ (front ++ back) = .ok dropped ∧
      (∀ c ∈ front ++ (inside ++ back), c ≠ '{' ∧ c ≠ '}') ∧
      BracesPair front inside ∧
      touchesWord front (inside ++ back) = true ∧
      touchesWord (front ++ inside) back = true ∧
      kept.Accepts "turn it up".text true ∧ matcher.Accepts "turn it up".text true ∧
      touchesWord front back = true ∧ dropped.Accepts "Turn up".text true ∧
      matcher.Accepts "Turn up".text true ∧
      TriesAll ⟨[]⟩ true (front ++ (inside ++ back)) ∧
      TriesAll ⟨[]⟩ true (front ++ back) ∧
      matcher.Accepts "louder".text true ∧
      (kept.Accepts "louder".text true ∨ dropped.Accepts "louder".text true) := by
  intro front inside back
  obtain ⟨matcher, hmatcher, hmatcherAccepts⟩ := @exists_of_accepts? ⟨[]⟩ true
    (braced front inside back) "louder".text true (by decide +kernel)
  obtain ⟨kept, hkept, hkeptAccepts⟩ :=
    @exists_of_accepts? ⟨[]⟩ true (front ++ (inside ++ back))
      "turn it up".text true (by decide +kernel)
  obtain ⟨dropped, hdropped, hdroppedAccepts⟩ :=
    @exists_of_accepts? ⟨[]⟩ true (front ++ back)
      "Turn up".text true (by decide +kernel)
  have hfree : ∀ c ∈ front ++ (inside ++ back), c ≠ '{' ∧ c ≠ '}' :=
    not_brace_turnItUp
  have hpair : BracesPair front inside := bracesPair_turnItUp
  have hleft : touchesWord front (inside ++ back) = true := by decide +kernel
  have hright : touchesWord (front ++ inside) back = true := by decide +kernel
  have htouch : touchesWord front back = true := by decide +kernel
  have hkeeps :=
    (optional_text hmatcher hkept hdropped hfree hpair "turn it up".text true).2.1
  have hdrops :=
    (optional_text hmatcher hkept hdropped hfree hpair "Turn up".text true).2.2
  have honly :=
    (optional_text hmatcher hkept hdropped hfree hpair "louder".text true).1
  have hallKept : TriesAll ⟨[]⟩ true (front ++ (inside ++ back)) := fun _ => by
    decide +kernel
  have hallDropped : TriesAll ⟨[]⟩ true (front ++ back) := fun _ => by decide +kernel
  have hkeptYes := hkeptAccepts.mpr rfl
  have hdroppedYes := hdroppedAccepts.mpr rfl
  have hmatcherYes := hmatcherAccepts.mpr rfl
  exact ⟨matcher, kept, dropped, hmatcher, hkept, hdropped, hfree, hpair, hleft,
    hright, hkeptYes, hkeeps hleft hright hkeptYes, htouch, hdroppedYes,
    hdrops htouch hdroppedYes, hallKept,
    hallDropped, hmatcherYes, honly (Or.inr ⟨hallKept, hallDropped⟩) hmatcherYes⟩

end Template

end UtteranceTemplate
