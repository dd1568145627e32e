import UtteranceTemplate.Proofs.ChoiceTexts
import UtteranceTemplate.Proofs.OptionalFragments

/-!
Braces within one alternative: the text in front of the opening brace breaks off in a
choice, and the choice goes on behind the closing brace (`Template.ChoiceGap`).

Putting any text into the gap changes this choice only
(`Template.ChoiceGap.choicesOf_eq`). With a pair of braces it stands for two texts,
which are those that it stands for without the braces, unless a space is missing
there (`Template.optional_choice`).
-/

namespace UtteranceTemplate

open Pattern Token Text

namespace Template

variable {vocabulary : Vocabulary} {ignoreCase : Bool} {text unread : Text}
  {parts : List (Text × Fragment)}

/-- What is read of a template that is not read to its end is a template that is. -/
theorem ReadsAs.exists_isWhole (h : ReadsAs text parts unread) :
    ∃ start, text = start ++ unread ∧ ReadsAs start parts [] := by
  induction h with
  | @stop gap unread hgap _ _ =>
      have hstart := readsAs_nil.gap_append hgap
      rw [List.append_nil] at hstart
      exact ⟨gap, rfl, hstart⟩
  | @part gap source rest unread fragment parts hgap hhead hsource hend _ ih =>
      obtain ⟨start, rfl, hstart⟩ := ih
      refine ⟨gap ++ (source ++ start), by simp, .part hgap hhead hsource ?_ hstart⟩
      intro hkind c hc
      apply hend hkind c
      cases start with
      | nil => cases hc
      | cons d start => exact hc

theorem readsAs_group {interior ending : Text} (hne : interior ≠ [])
    (hclose : .char ')' ∉ interior) (h : ReadsAs ending parts unread) :
    ReadsAs (.char '(' :: (interior ++ .char ')' :: ending))
      ((.char '(' :: (interior ++ [.char ')']),
        .alternatives (Fragment.choicesOf interior)) :: parts) unread := by
  have hhead : ∀ c, ((.char '(' :: (interior ++ [.char ')'])) : Text).head? =
      some c → isBlank c = false := by
    intro c hc
    rw [← Option.some.inj hc]
    decide
  have hpart := ReadsAs.part isGap_nil hhead (.alternatives hne hclose)
    (by simp [Fragment.production]) h
  simpa using hpart

/-- A template that begins with an opening parenthesis and is read to its end
begins with a group. -/
theorem IsWhole.exists_group {rest : Text} (h : IsWhole ('(' :: rest)) :
    ∃ interior ending, rest = interior ++ .char ')' :: ending ∧ interior ≠ [] ∧
      .char ')' ∉ interior ∧ IsWhole ending := by
  have hreads := h.readsAs
  generalize (Reading.ofTemplate ('(' :: rest)).parts = parts at hreads
  generalize htext : .char '(' :: rest = text at hreads
  generalize hend : ([] : Text) = nothing at hreads
  cases hreads with
  | stop hgap _ _ =>
      subst hend
      rw [List.append_nil] at htext
      exact absurd (hgap '(' (htext ▸ List.mem_cons_self)) (by decide)
  | @part gap source after _ fragment _ hgap _ hsource _ hrest =>
      subst hend
      have hnil : gap = [] := by
        cases gap with
        | nil => rfl
        | cons c gap =>
            obtain ⟨rfl, _⟩ := List.cons.inj htext
            exact absurd (hgap '(' List.mem_cons_self) (by decide)
      subst hnil
      cases hsource with
      | alternatives hne hclose =>
          obtain ⟨_, rfl⟩ := List.cons.inj htext
          exact ⟨_, after, by simp, hne, hclose, (readsAs_iff.mp hrest).2⟩
      | words hne hopen =>
          cases source with
          | nil => exact absurd rfl hne
          | cons c source =>
              obtain ⟨rfl, _⟩ := List.cons.inj htext
              exact absurd (hopen '(' List.mem_cons_self) (by decide)
      | parameter | untypedSlot | typedSlot => cases htext

/-! ### A gap in a choice -/

/-- A gap in one choice of a group. In front of the group `start` is read, and behind
it stands `ending`; in the group `interior` stands in front of the gap and `rest`
behind it, cut into the choices around the gap and the two ends of the choice that
has it. -/
structure ChoiceGap where
  start : Text
  interior : Text
  rest : Text
  ending : Text
  before : List Text
  first : Text
  last : Text
  after : List Text
  whole : IsWhole start
  interior_close : .char ')' ∉ interior
  rest_close : .char ')' ∉ rest
  cut_interior : cutAt '|' interior = before ++ [first]
  cut_rest : cutAt '|' rest = last :: after

namespace ChoiceGap

variable {gap : ChoiceGap} {middle : Text} {matcher : Matcher} {utterance : Text}

def front (gap : ChoiceGap) : Text := gap.start ++ .char '(' :: gap.interior

def back (gap : ChoiceGap) : Text := gap.rest ++ .char ')' :: gap.ending

def choice (gap : ChoiceGap) (middle : Text) : Text :=
  gap.first ++ (middle ++ gap.last)

def choices (gap : ChoiceGap) (middle : Text) : List Text :=
  gap.before.map trim ++ (gap.choice middle).trim :: gap.after.map trim

theorem choicesOf_eq (hbar : .char '|' ∉ middle) :
    Fragment.choicesOf (gap.interior ++ (middle ++ gap.rest)) =
      gap.choices middle := by
  have hmiddle : cutAt '|' (middle ++ gap.rest) =
      [] ++ (middle ++ gap.last) :: gap.after :=
    cutAt_append (cutAt_of_not_mem hbar) gap.cut_rest
  rw [Fragment.choicesOf, cutAt_append gap.cut_interior hmiddle, List.map_append,
    List.map_cons]
  rfl

theorem choices_ne_nil (gap : ChoiceGap)
    (middle : Text) : gap.choices middle ≠ [] := by
  simp [choices]

theorem append_eq (gap : ChoiceGap) (middle : Text) :
    gap.front ++ (middle ++ gap.back) =
      gap.start ++ .char '(' ::
        ((gap.interior ++ (middle ++ gap.rest)) ++ .char ')' :: gap.ending) := by
  simp [front, back]

theorem close_not_mem (hclose : .char ')' ∉ middle) :
    .char ')' ∉ gap.interior ++ (middle ++ gap.rest) := by
  simp [gap.interior_close, gap.rest_close, hclose]

/-- With a text in the gap the template has one group between its start and
its ending. -/
theorem joins (hbar : .char '|' ∉ middle) (hclose : .char ')' ∉ middle)
    (h : compile vocabulary (gap.front ++ (middle ++ gap.back)) = .ok matcher) :
    IsWhole gap.ending ∧ ∃ source,
      Joins vocabulary (Reading.ofTemplate gap.start).parts
        ((source, .alternatives (gap.choices middle)) ::
          (Reading.ofTemplate gap.ending).parts)
        false (Reading.ofTemplate (gap.front ++ (middle ++ gap.back))).parts := by
  have hwhole := isWhole_of_compile h
  rw [append_eq, isWhole_append_iff gap.whole] at hwhole
  obtain ⟨interior, ending, hsplit, hne, hnot, hending⟩ := hwhole.exists_group
  obtain ⟨hinterior, rfl⟩ :=
    append_cons_inj_of_not_mem (close_not_mem hclose) hnot hsplit
  have hgroup := readsAs_group hne hnot hending.readsAs
  have hjoins := (ofTemplate_append vocabulary gap.whole
    (.char '(' :: (interior ++ .char ')' :: gap.ending))).1
  have hopening :
    beginsInRun (.char '(' :: (interior ++ .char ')' :: gap.ending)) = false := rfl
  rw [hopening, Bool.and_false, (readsAs_iff.mp hgroup).1, ← hinterior,
    choicesOf_eq hbar] at hjoins
  rw [append_eq]
  exact ⟨hending, _, hjoins⟩

def otherTexts (gap : ChoiceGap) : List Text :=
  ((gap.before ++ gap.after).map fun choice =>
    Fragment.choiceTexts choice.trim).flatten

theorem mem_flatten_choiceTexts_iff {wanted : Text} :
    wanted ∈ ((gap.choices middle).map Fragment.choiceTexts).flatten ↔
      wanted ∈ gap.otherTexts ∨
        wanted ∈ Fragment.choiceTexts (gap.choice middle).trim := by
  simp only [choices, otherTexts, List.map_append, List.map_cons, List.map_map,
    List.flatten_append, List.flatten_cons, List.mem_append, Function.comp_def]
  tauto

theorem mem_fragments (hbar : .char '|' ∉ middle) (hclose : .char ')' ∉ middle)
    (h : compile vocabulary (gap.front ++ (middle ++ gap.back)) = .ok matcher) :
    .alternatives (gap.choices middle) ∈
      fragments (gap.front ++ (middle ++ gap.back)) := by
  obtain ⟨_, source, hjoins⟩ := joins hbar hclose h
  have hmem : (source, .alternatives (gap.choices middle)) ∈
      (Reading.ofTemplate (gap.front ++ (middle ++ gap.back))).parts.filter
        isMarked := by
    rw [hjoins.marked]
    simp [isMarked, Fragment.production]
  have hpart := List.mem_map_of_mem (f := Prod.snd) (List.mem_of_mem_filter hmem)
  rw [Reading.parts, List.map_map] at hpart
  exact hpart

/-- Whether an utterance has a text where the group stands. -/
def Reads (gap : ChoiceGap) (vocabulary : Vocabulary) (ignoreCase : Bool)
    (utterance wanted : Text) : Prop :=
  ∃ opening closing,
    Leaves ignoreCase ((itemRows vocabulary).row gap.start)
      (Utterance.normalize utterance) opening ∧
      wanted.after? ignoreCase opening = some closing ∧
        Leaves ignoreCase ((itemRows vocabulary).row gap.ending) closing []

/-- What is read in front of the group and behind it is the same, whatever
stands in the gap. -/
theorem accepts_iff (hbar : .char '|' ∉ middle) (hclose : .char ')' ∉ middle)
    (h : compile vocabulary (gap.front ++ (middle ++ gap.back)) = .ok matcher)
    (hfront : gap.front.filter UtteranceTemplate.isBrace = [])
    (hback : gap.back.filter UtteranceTemplate.isBrace = [])
    (hchoices : ∀ choice ∈ gap.choices middle, endsOpen choice = false) :
    matcher.Accepts utterance ignoreCase ↔
      ∃ wanted ∈ ((gap.choices middle).map Fragment.choiceTexts).flatten,
        isTried ignoreCase ((gap.choices middle).map Fragment.choiceTexts)
          wanted = true ∧
          gap.Reads vocabulary ignoreCase utterance wanted := by
  obtain ⟨hending, source, hjoins⟩ := joins hbar hclose h
  have hstartFree : gap.start.filter UtteranceTemplate.isBrace = [] := by
    rw [front, List.filter_append, List.append_eq_nil_iff] at hfront
    exact hfront.1
  have hendingFree : gap.ending.filter UtteranceTemplate.isBrace = [] := by
    rw [back, List.filter_append, List.append_eq_nil_iff] at hback
    exact hback.2
  have hlocal : ∀ braced ∈ bracedTextsOf ((Reading.ofTemplate gap.start).parts ++
      (source, .alternatives (gap.choices middle)) ::
        (Reading.ofTemplate gap.ending).parts),
      endsOpen braced = false := by
    intro braced hbraced
    rw [bracedTextsOf, List.flatMap_append, List.flatMap_cons] at hbraced
    rcases List.mem_append.mp hbraced with hmem | hmem
    · exact endsOpen_eq_false
        (gap.whole.readsAs.filter_isBrace_eq_nil hstartFree _ hmem)
    · rcases List.mem_append.mp hmem with hmem | hmem
      · exact hchoices braced hmem
      · exact endsOpen_eq_false
          (hending.readsAs.filter_isBrace_eq_nil hendingFree _ hmem)
  have hadds := adds_resolveBraces_tokensOf vocabulary hlocal
  have htokens : tokensOf vocabulary ((Reading.ofTemplate gap.start).parts ++
      (source, .alternatives (gap.choices middle)) ::
        (Reading.ofTemplate gap.ending).parts) =
        tokensOf vocabulary
          (Reading.ofTemplate (gap.front ++ (middle ++ gap.back))).parts := by
    rw [hjoins.tokens, tokensOf, List.flatMap_append]
    rfl
  rw [htokens] at hadds
  have hitems : itemsOf vocabulary ((Reading.ofTemplate gap.start).parts ++
      (source, .alternatives (gap.choices middle)) ::
        (Reading.ofTemplate gap.ending).parts) =
        (itemRows vocabulary).row gap.start ++
          ((Fragment.alternatives (gap.choices middle)).items vocabulary ++
            (itemRows vocabulary).row gap.ending) := by
    rw [itemsOf, List.flatMap_append, List.flatMap_cons]
    rfl
  rw [hitems] at hadds
  rw [accepts_iff_leaves h hadds, leaves_append]
  simp only [leaves_append, Fragment.leaves_alternatives_iff
    (gap.choices_ne_nil middle), Reads]
  constructor
  · rintro ⟨opening, hstart, closing, ⟨wanted, hmem, htried, hafter⟩, hending⟩
    exact ⟨wanted, hmem, htried, opening, closing, hstart, hafter, hending⟩
  · rintro ⟨wanted, hmem, htried, opening, closing, hstart, hafter, hending⟩
    exact ⟨opening, hstart, closing, ⟨wanted, hmem, htried, hafter⟩, hending⟩

/-! ### What the choice with the gap stands for -/

theorem filter_isBrace_eq_nil_of_mem_cutAt
    (hfree : text.filter UtteranceTemplate.isBrace = []) {piece : Text}
    (hpiece : piece ∈ cutAt '|' text) :
    piece.filter UtteranceTemplate.isBrace = [] := by
  have hflatten := Fragment.filter_isBrace_flatten_cutAt text
  rw [hfree, List.filter_flatten, List.flatten_eq_nil_iff] at hflatten
  exact hflatten _ (List.mem_map_of_mem hpiece)

/-- The texts around the gap have no braces. -/
structure IsFree (gap : ChoiceGap) : Prop where
  front : gap.front.filter UtteranceTemplate.isBrace = []
  back : gap.back.filter UtteranceTemplate.isBrace = []

namespace IsFree

theorem pieces (h : gap.IsFree) :
    (∀ piece ∈ gap.before ++ [gap.first],
      piece.filter UtteranceTemplate.isBrace = []) ∧
      ∀ piece ∈ gap.last :: gap.after,
        piece.filter UtteranceTemplate.isBrace = [] := by
  have hfront := h.front
  have hback := h.back
  rw [ChoiceGap.front, List.filter_append, List.append_eq_nil_iff] at hfront
  rw [ChoiceGap.back, List.filter_append, List.append_eq_nil_iff] at hback
  have hinterior : gap.interior.filter UtteranceTemplate.isBrace = [] := hfront.2
  rw [← gap.cut_interior, ← gap.cut_rest]
  exact ⟨fun piece hpiece => filter_isBrace_eq_nil_of_mem_cutAt hinterior hpiece,
    fun piece hpiece => filter_isBrace_eq_nil_of_mem_cutAt hback.1 hpiece⟩

theorem first (h : gap.IsFree) : gap.first.filter UtteranceTemplate.isBrace = [] :=
  h.pieces.1 _ (by simp)

theorem last (h : gap.IsFree) : gap.last.filter UtteranceTemplate.isBrace = [] :=
  h.pieces.2 _ (by simp)

/-- The braces of the choices are those of the text in the gap. -/
theorem endsOpen_choices (h : gap.IsFree) (hmiddle : endsOpen middle = false) :
    ∀ choice ∈ gap.choices middle, endsOpen choice = false := by
  have htrim : ∀ piece : Text, endsOpen piece = false →
      endsOpen piece.trim = false := by
    intro piece hpiece
    have hfilter := filter_trim not_isBrace_of_isBlank piece
    unfold UtteranceTemplate.isBrace at hfilter
    rw [endsOpen, hfilter]
    exact hpiece
  have hothers : ∀ piece ∈ gap.before ++ gap.after, endsOpen piece.trim = false := by
    intro piece hpiece
    apply htrim
    apply endsOpen_eq_false
    rcases List.mem_append.mp hpiece with hmem | hmem
    · exact h.pieces.1 piece (List.mem_append_left _ hmem)
    · exact h.pieces.2 piece (List.mem_cons_of_mem _ hmem)
  intro choice hchoice
  simp only [choices, List.mem_append, List.mem_cons, List.mem_map] at hchoice
  obtain ⟨piece, hpiece, rfl⟩ | rfl | ⟨piece, hpiece, rfl⟩ := hchoice
  · exact hothers piece (List.mem_append_left _ hpiece)
  · apply htrim
    have hfirst := h.first
    have hlast := h.last
    unfold UtteranceTemplate.isBrace at hfirst hlast
    rw [endsOpen, ChoiceGap.choice, List.filter_append, List.filter_append,
      hfirst, hlast, List.nil_append, List.append_nil]
    exact hmiddle
  · exact hothers piece (List.mem_append_right _ hpiece)

/-- Without braces in the gap the choice stands for one text. -/
theorem choiceTexts (h : gap.IsFree)
    (hmiddle : middle.filter UtteranceTemplate.isBrace = []) :
    Fragment.choiceTexts (gap.choice middle).trim =
      [Utterance.normalize (gap.choice middle)] := by
  apply Fragment.choiceTexts_trim_of_free
  simp [choice, List.filter_append, h.first, h.last, hmiddle]

/-- With a pair of braces in the gap the choice stands for two texts. -/
theorem choiceTexts_pair {inside : Text} (h : gap.IsFree)
    (hinside : inside.filter UtteranceTemplate.isBrace = []) :
    Fragment.choiceTexts (gap.choice (.char '{' :: (inside ++ [.char '}']))).trim =
      [SpacedRows.ofText.before gap.first ++
          (SpacedRows.ofText.within inside ++ SpacedRows.ofText.behind gap.last),
        SpacedRows.ofText.before gap.first ++
          SpacedRows.ofText.behind gap.last] := by
  have hchoice : gap.choice (.char '{' :: (inside ++ [.char '}'])) =
      gap.first ++ .char '{' :: (inside ++ .char '}' :: gap.last) := by
    simp [choice]
  apply Fragment.choiceTexts_trim_pair
  · rw [hchoice]
    exact SpacedRows.joins_ofText.row_between
      (SpacedRows.isLetter_ofText (by decide))
      (SpacedRows.isLetter_ofText (by decide)) trivial trivial trivial
        trivial gap.last
  · rw [hchoice]
    simp [List.filter_append, h.first, h.last, hinside, UtteranceTemplate.isBrace]

end IsFree

end ChoiceGap

/-! ### What the patterns read -/

/-- The normal form of a text with words reads a space first. -/
theorem head?_of_leaves_ofText {start ending : Text} (hne : words text ≠ [])
    (h : Leaves ignoreCase ((SpacedRows.ofText.map .char).row text) start ending) :
    start.head? = some (.char ' ') := by
  rw [SpacedRows.map_row, SpacedRows.ofText_row,
    SpacedRows.normalize_of_words_ne_nil hne, List.map_cons, ← List.singleton_append,
      leaves_append] at h
  obtain ⟨_, hchar, _⟩ := h
  rw [leaves_space.mp hchar]
  rfl

theorem startsAtSpace_ofText (ignoreCase : Bool) (text : Text) :
    SpacedRows.StartsAtSpace ignoreCase
      ((SpacedRows.ofText.map .char).row text) := by
  intro start ending _ hleaves
  by_cases hnil : words text = []
  · rw [SpacedRows.map_row, SpacedRows.ofText_row, Utterance.normalize,
      hnil] at hleaves
    exact Or.inl (leaves_nil.mp hleaves)
  · exact Or.inr (head?_of_leaves_ofText hnil hleaves)

/-- Whether matching tries all wordings of the fragments of a template. -/
def TriesAll (vocabulary : Vocabulary) (ignoreCase : Bool)
    (template : Text) : Prop :=
  ignoreCase = true → ∀ fragment ∈ fragments template,
    fragment.triedWordings vocabulary ignoreCase = fragment.wordings vocabulary

variable {gap : ChoiceGap} {inside middle : Text} {matcher kept dropped : Matcher}
  {utterance : Text}

namespace ChoiceGap

/-- Where the group stands the utterance is spaced, up to a space or to its end. -/
theorem Reads.exists_spaced {wanted : Text}
    (h : gap.Reads vocabulary ignoreCase utterance wanted) :
    ∃ opening closing, IsSpaced opening ∧
      (∀ c, closing.head? = some c → c = .char ' ') ∧
      Leaves ignoreCase (wanted.map .char) opening closing := by
  obtain ⟨opening, closing, hstart, hafter, hending⟩ := h
  obtain ⟨read, hread⟩ := exists_append_of_leaves hstart
  have hspaced := isSpaced_normalize utterance
  rw [hread] at hspaced
  have hopening := hspaced.of_append
  refine ⟨opening, closing, hopening, ?_, leaves_chars.mpr hafter⟩
  obtain ⟨part, rfl, _⟩ := after?_eq_some_iff.mp hafter
  intro c hc
  rcases startsAtSpace_itemRows vocabulary ignoreCase gap.ending _ _
    hopening.of_append hending with hnil | hhead
  · rw [← hnil] at hc
    cases hc
  · exact Option.some.inj (hc.symm.trans hhead)

theorem Reads.touches_dropped (h : gap.Reads vocabulary ignoreCase utterance
      (SpacedRows.ofText.before gap.first ++ SpacedRows.ofText.behind gap.last)) :
    SpacedRows.ofText.touches gap.first gap.last = true := by
  obtain ⟨opening, closing, hspaced, hclosing, hleaves⟩ := h.exists_spaced
  rw [List.map_append, ← SpacedRows.before_map, ← SpacedRows.behind_map] at hleaves
  exact SpacedRows.touches_of_leaves_dropped rfl
    (startsAtSpace_ofText ignoreCase gap.last) hspaced hclosing hleaves

theorem Reads.touches_kept (h : gap.Reads vocabulary ignoreCase utterance
      (SpacedRows.ofText.before gap.first ++
        (SpacedRows.ofText.within inside ++ SpacedRows.ofText.behind gap.last))) :
    SpacedRows.ofText.touches gap.first (inside ++ gap.last) = true ∧
      (inside ≠ [] → SpacedRows.ofText.touches inside gap.last = true) := by
  obtain ⟨opening, closing, hspaced, hclosing, hleaves⟩ := h.exists_spaced
  rw [List.map_append, List.map_append, ← SpacedRows.before_map,
    ← SpacedRows.within_map, ← SpacedRows.behind_map] at hleaves
  refine SpacedRows.touches_of_leaves_kept SpacedRows.joins_ofText.toIsLawful.map rfl
    (startsAtSpace_ofText ignoreCase inside) ?_
      (startsAtSpace_ofText ignoreCase gap.last) hspaced
    hclosing hleaves
  intro hends middle ending _ hinside
  exact head?_of_leaves_ofText (words_ne_nil_of_endsInWord hends) hinside

/-- Without braces in the gap the group reads the other choices and the normal
form of this one. -/
theorem accepts_free_iff (hfree : gap.IsFree)
    (hmiddle : middle.filter UtteranceTemplate.isBrace = [])
    (hbar : .char '|' ∉ middle) (hclose : .char ')' ∉ middle)
    (h : compile vocabulary (gap.front ++ (middle ++ gap.back)) = .ok matcher) :
    matcher.Accepts utterance ignoreCase ↔
      ∃ wanted, (wanted ∈ gap.otherTexts ∨
        wanted = Utterance.normalize (gap.choice middle)) ∧
        isTried ignoreCase ((gap.choices middle).map Fragment.choiceTexts)
          wanted = true ∧
          gap.Reads vocabulary ignoreCase utterance wanted := by
  rw [accepts_iff hbar hclose h hfree.front hfree.back
    (hfree.endsOpen_choices (endsOpen_eq_false hmiddle))]
  apply exists_congr
  intro wanted
  rw [mem_flatten_choiceTexts_iff, hfree.choiceTexts hmiddle, List.mem_singleton]

theorem accepts_free_of_triesAll (hfree : gap.IsFree)
    (hmiddle : middle.filter UtteranceTemplate.isBrace = [])
    (hbar : .char '|' ∉ middle) (hclose : .char ')' ∉ middle)
    (h : compile vocabulary (gap.front ++ (middle ++ gap.back)) = .ok matcher)
    (hall : TriesAll vocabulary ignoreCase (gap.front ++ (middle ++ gap.back)))
    {wanted : Text}
    (hwanted : wanted ∈ gap.otherTexts ∨
      wanted = Utterance.normalize (gap.choice middle))
    (hreads : gap.Reads vocabulary ignoreCase utterance wanted) :
    matcher.Accepts utterance ignoreCase := by
  have hmem : wanted ∈ ((gap.choices middle).map Fragment.choiceTexts).flatten := by
    rw [mem_flatten_choiceTexts_iff, hfree.choiceTexts hmiddle, List.mem_singleton]
    exact hwanted
  have htried := Fragment.isTried_of_triedWordings_eq (gap.choices_ne_nil middle)
    (fun hignore => hall hignore _ (mem_fragments hbar hclose h)) hmem
  exact (accepts_free_iff hfree hmiddle hbar hclose h).mpr
    ⟨wanted, hwanted, htried, hreads⟩

/-- With a pair of braces in the gap the group reads the other choices and the two
texts of this one. -/
theorem accepts_braced_iff (hfree : gap.IsFree)
    (hinside : inside.filter UtteranceTemplate.isBrace = [])
    (hbar : .char '|' ∉ inside) (hclose : .char ')' ∉ inside)
    (h : compile vocabulary (braced gap.front inside gap.back) = .ok matcher) :
    matcher.Accepts utterance ignoreCase ↔
      ∃ wanted, (wanted ∈ gap.otherTexts ∨
          wanted = SpacedRows.ofText.before gap.first ++
            (SpacedRows.ofText.within inside ++ SpacedRows.ofText.behind gap.last) ∨
          wanted = SpacedRows.ofText.before gap.first ++
            SpacedRows.ofText.behind gap.last) ∧
        gap.Reads vocabulary ignoreCase utterance wanted := by
  have hbraced : braced gap.front inside gap.back =
      gap.front ++ ((.char '{' :: (inside ++ [.char '}'])) ++ gap.back) := by
    simp [braced]
  have hends : endsOpen (.char '{' :: (inside ++ [.char '}'])) = false := by
    have hnone := hinside
    unfold UtteranceTemplate.isBrace at hnone
    simp [endsOpen, List.filter_append, hnone]
  rw [hbraced] at h
  rw [accepts_iff (by simp [hbar]) (by simp [hclose]) h hfree.front hfree.back
    (hfree.endsOpen_choices hends)]
  have hpair := hfree.choiceTexts_pair hinside
  have hmem :
      Fragment.choiceTexts (gap.choice (.char '{' :: (inside ++ [.char '}']))).trim ∈
      (gap.choices (.char '{' :: (inside ++ [.char '}']))).map
        Fragment.choiceTexts := by
    apply List.mem_map_of_mem
    simp [choices]
  rw [hpair] at hmem
  apply exists_congr
  intro wanted
  rw [mem_flatten_choiceTexts_iff, hpair, Fragment.isTried_of_pair hmem]
  simp

end ChoiceGap

/-- A template with braces within a choice accepts what one of the templates without
the braces accepts, if matching loses no wording of these, and it accepts all of that
unless a space stands at a brace that the choice without it does not have. -/
theorem optional_choice
    (h : compile vocabulary (braced gap.front inside gap.back) = .ok matcher)
    (hkept : compile vocabulary (gap.front ++ (inside ++ gap.back)) = .ok kept)
    (hdropped : compile vocabulary (gap.front ++ gap.back) = .ok dropped)
    (hfree : gap.IsFree) (hinside : inside.filter UtteranceTemplate.isBrace = [])
    (hbar : .char '|' ∉ inside) (hclose : .char ')' ∉ inside) :
    (TriesAll vocabulary ignoreCase (gap.front ++ (inside ++ gap.back)) →
        TriesAll vocabulary ignoreCase (gap.front ++ gap.back) →
        matcher.Accepts utterance ignoreCase →
        kept.Accepts utterance ignoreCase ∨ dropped.Accepts utterance ignoreCase) ∧
      (SpacedRows.ofText.touches gap.first (inside ++ gap.last) = true →
        (inside ≠ [] → SpacedRows.ofText.touches inside gap.last = true) →
        kept.Accepts utterance ignoreCase → matcher.Accepts utterance ignoreCase) ∧
      (SpacedRows.ofText.touches gap.first gap.last = true →
        dropped.Accepts utterance ignoreCase →
          matcher.Accepts utterance ignoreCase) := by
  have hmatcher :=
    @ChoiceGap.accepts_braced_iff vocabulary ignoreCase gap inside matcher utterance
      hfree hinside hbar hclose h
  -- the choice without the braces stands for the same text if a word touches
  -- each brace
  have hkeptRow : SpacedRows.ofText.touches gap.first (inside ++ gap.last) = true →
      (inside ≠ [] → SpacedRows.ofText.touches inside gap.last = true) →
      Utterance.normalize (gap.choice inside) = SpacedRows.ofText.before gap.first ++
        (SpacedRows.ofText.within inside ++ SpacedRows.ofText.behind gap.last) :=
    SpacedRows.joins_ofText.row_kept trivial trivial
  have hdroppedRow : SpacedRows.ofText.touches gap.first gap.last = true →
      Utterance.normalize (gap.choice []) =
        SpacedRows.ofText.before gap.first ++ SpacedRows.ofText.behind gap.last :=
    SpacedRows.joins_ofText.row_dropped trivial
  have hnil : ([] : Text).filter UtteranceTemplate.isBrace = [] := rfl
  refine ⟨?_, ?_, ?_⟩
  · intro hallKept hallDropped haccepts
    obtain ⟨wanted, hother | hkeptText | hdroppedText, hreads⟩ :=
      hmatcher.mp haccepts
    · left
      exact ChoiceGap.accepts_free_of_triesAll hfree hinside hbar hclose
        hkept hallKept (Or.inl hother) hreads
    · left
      subst hkeptText
      obtain ⟨hleft, hright⟩ := hreads.touches_kept
      exact ChoiceGap.accepts_free_of_triesAll hfree hinside hbar hclose
        hkept hallKept (Or.inr (hkeptRow hleft hright).symm) hreads
    · right
      subst hdroppedText
      have htouch := hreads.touches_dropped
      exact ChoiceGap.accepts_free_of_triesAll hfree hnil (by simp)
        (by simp) hdropped hallDropped (Or.inr (hdroppedRow htouch).symm) hreads
  · intro hleft hright haccepts
    obtain ⟨wanted, hwanted, _, hreads⟩ :=
      (ChoiceGap.accepts_free_iff hfree hinside hbar hclose hkept).mp haccepts
    rw [hkeptRow hleft hright] at hwanted
    exact hmatcher.mpr ⟨wanted, hwanted.imp_right Or.inl, hreads⟩
  · intro htouch haccepts
    obtain ⟨wanted, hwanted, _, hreads⟩ :=
      (ChoiceGap.accepts_free_iff hfree hnil (by simp) (by simp) hdropped).mp
        haccepts
    rw [hdroppedRow htouch] at hwanted
    exact hmatcher.mpr ⟨wanted, hwanted.imp_right Or.inr, hreads⟩

end Template

end UtteranceTemplate
