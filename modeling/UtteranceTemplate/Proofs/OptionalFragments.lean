import UtteranceTemplate.Proofs.SpacedRows

/-!
Braces around fragments: the text in front of the opening brace is read to its end,
and so is the text between the braces.

Both braces are then letters of runs of words, so the tokens of the template are
those of its three parts with the braces between them. What stands between the braces
is an optional group: the pattern reads what it reads with the group or without it
(`Template.accepts_braced_iff`), and this is what the patterns of the templates
without the braces read, unless a space is missing there
(`Template.optional_fragments`).
-/

namespace UtteranceTemplate

open Pattern Token Text

namespace Template

/-- A template with a pair of braces around a part of it. -/
def braced (front inside back : Text) : Text :=
  front ++ .char '{' :: (inside ++ .char '}' :: back)

/-- Whether a template is read to its end. -/
def IsWhole (template : Text) : Prop := (Reading.ofTemplate template).unread = []

def tokenRows (vocabulary : Vocabulary) : SpacedRows Token where
  space := .char ' '
  row text := tokensOf vocabulary (Reading.ofTemplate text).parts
  ends text := endsInRun (Reading.ofTemplate text).parts
  begins := beginsInRun

def itemRows (vocabulary : Vocabulary) : SpacedRows Pattern where
  space := .char ' '
  row text := itemsOf vocabulary (Reading.ofTemplate text).parts
  ends text := endsInRun (Reading.ofTemplate text).parts
  begins := beginsInRun

@[simp] theorem tokenRows_row (vocabulary : Vocabulary) (text : Text) :
    (tokenRows vocabulary).row text =
      tokensOf vocabulary (Reading.ofTemplate text).parts := rfl

@[simp] theorem tokenRows_ends (vocabulary : Vocabulary) (text : Text) :
    (tokenRows vocabulary).ends text =
      endsInRun (Reading.ofTemplate text).parts := rfl

@[simp] theorem itemRows_row (vocabulary : Vocabulary) (text : Text) :
    (itemRows vocabulary).row text =
      itemsOf vocabulary (Reading.ofTemplate text).parts := rfl

variable {vocabulary : Vocabulary} {ignoreCase : Bool} {text rest unread : Text}
  {parts : List (Text × Fragment)}

theorem IsWhole.readsAs (h : IsWhole text) :
    ReadsAs text (Reading.ofTemplate text).parts [] :=
  readsAs_iff.mpr ⟨rfl, h⟩

theorem isWhole_of_compile {matcher : Matcher}
    (h : compile vocabulary text = .ok matcher) :
    IsWhole text :=
  (exists_compile_iff.mp ⟨matcher, h⟩).2

theorem readsAs_nil : ReadsAs [] [] [] := by
  have hnone : ∀ fragment rest, ¬ Fragment.Begins fragment [] rest := by
    rintro fragment rest ⟨source, hsource, htext, _⟩
    exact hsource.ne_nil (List.append_eq_nil_iff.mp htext.symm).1
  exact .stop isGap_nil (by simp) hnone

theorem readsAs_letter {c : CodePoint} (hblank : isBlank c = false)
    (hopen : Fragment.isOpening c = false) : ReadsAs [c] [([c], .words [c])] [] := by
  have hsource : (Fragment.words [c]).IsSource [c] := by
    apply Fragment.IsSource.words (List.cons_ne_nil c [])
    intro d hd
    rw [List.mem_singleton.mp hd]
    exact hopen
  refine .part isGap_nil ?_ hsource (by simp) readsAs_nil
  intro d hd
  rw [← Option.some.inj hd]
  exact hblank

theorem ReadsAs.exists_run_of_beginsInRun (h : ReadsAs text parts unread)
    (hbegins : beginsInRun text = true) :
    ∃ run later, parts = (run, .words run) :: later := by
  have hgapBlank : ∀ (gap more : Text), IsGap gap →
      beginsInRun (gap ++ more) = true → gap = [] := by
    intro gap more hgap hbegins
    cases gap with
    | nil => rfl
    | cons c gap => simp [beginsInRun, hgap c List.mem_cons_self] at hbegins
  cases h with
  | @stop gap _ hgap hhead _ =>
      obtain rfl := hgapBlank gap unread hgap hbegins
      rw [beginsInRun_gap hgap hhead] at hbegins
      cases hbegins
  | @part gap source rest _ fragment later hgap hhead hsource _ _ =>
      obtain rfl := hgapBlank gap _ hgap hbegins
      by_cases hkind : fragment.production = .words
      · obtain ⟨rfl, _⟩ := hsource.eq_words hkind
        exact ⟨source, later, rfl⟩
      · have hopening : ∀ c, (source ++ rest).head? = some c →
            Fragment.isOpening c = true := by
          intro c hc
          rw [List.head?_append_of_ne_nil _ hsource.ne_nil] at hc
          exact hsource.isOpening_head hkind hc
        rw [beginsInRun_gap hgap hopening] at hbegins
        cases hbegins

theorem beginsInRun_append {front : Text} (hne : front ≠ []) (back : Text) :
    beginsInRun (front ++ back) = beginsInRun front := by
  rw [beginsInRun, List.head?_append_of_ne_nil front hne, beginsInRun]

theorem ofTemplate_append (vocabulary : Vocabulary) {front : Text}
    (hfront : IsWhole front) (back : Text) :
    Joins vocabulary (Reading.ofTemplate front).parts (Reading.ofTemplate back).parts
        (endsInRun (Reading.ofTemplate front).parts && beginsInRun back)
        (Reading.ofTemplate (front ++ back)).parts ∧
      (Reading.ofTemplate (front ++ back)).unread =
        (Reading.ofTemplate back).unread := by
  obtain ⟨joined, hreads, hjoins⟩ :=
    hfront.readsAs.append (readsAs_ofTemplate back) vocabulary
  obtain ⟨rfl, hunread⟩ := readsAs_iff.mp hreads
  exact ⟨hjoins, hunread⟩

theorem isWhole_append_iff {front back : Text} (hfront : IsWhole front) :
    IsWhole (front ++ back) ↔ IsWhole back := by
  rw [IsWhole, (ofTemplate_append ⟨[]⟩ hfront back).2, IsWhole]

theorem joins_tokenRows (vocabulary : Vocabulary) :
    (tokenRows vocabulary).Joins IsWhole where
  row_nil := by
    rw [tokenRows_row, (readsAs_iff.mp readsAs_nil).1]
    rfl
  ends_nil := by
    rw [tokenRows_ends, (readsAs_iff.mp readsAs_nil).1]
    rfl
  row_of_begins := fun {text} hbegins => by
    obtain ⟨run, later, hparts⟩ :=
      (readsAs_ofTemplate text).exists_run_of_beginsInRun hbegins
    exact ⟨_, by rw [tokenRows_row, hparts, tokensOf_words]; rfl⟩
  begins_append := fun hne back => beginsInRun_append hne back
  row_append := fun hfront back =>
    (ofTemplate_append vocabulary hfront back).1.tokens

theorem isLetter_tokenRows {c : CodePoint} (hblank : isBlank c = false)
    (hopen : Fragment.isOpening c = false) :
    (tokenRows vocabulary).IsLetter c (Fragment.templateToken c) := by
  have hparts := (readsAs_iff.mp (readsAs_letter hblank hopen)).1
  have hspaced : Text.singleSpaced [c] = [c] := by
    simp [singleSpaced, words, hblank, joinWith]
  constructor
  · rw [tokenRows_row, hparts, tokensOf_words, Fragment.templateTokens, hspaced]
    rfl
  · simp [hparts, endsInRun, endsInWord, hblank]
  · simp [tokenRows, beginsInRun, hblank, hopen]

theorem isWhole_letter {c : CodePoint} (hblank : isBlank c = false)
    (hopen : Fragment.isOpening c = false) : IsWhole [c] :=
  (readsAs_iff.mp (readsAs_letter hblank hopen)).2

theorem isLawful_itemRows (vocabulary : Vocabulary) :
    (itemRows vocabulary).IsLawful where
  row_nil := by
    rw [itemRows_row, (readsAs_iff.mp readsAs_nil).1]
    rfl
  ends_nil := (joins_tokenRows vocabulary).ends_nil
  row_of_begins := fun {text} hbegins => by
    obtain ⟨run, later, hparts⟩ :=
      (readsAs_ofTemplate text).exists_run_of_beginsInRun hbegins
    exact ⟨_, by rw [itemRows_row, hparts]; rfl⟩
  begins_append := fun hne back => beginsInRun_append hne back

/-! ### Items for tokens -/

theorem adds_templateTokens_of_free {run : Text}
    (hfree : run.filter UtteranceTemplate.isBrace = []) :
    Adds (Fragment.templateTokens run) (Fragment.bracedItems run) := by
  have hright : Token.rightBrace ∉ Fragment.templateTokens run := by
    intro hmem
    have hbrace :=
      closingBrace_mem_of_mem_singleSpaced (rightBrace_mem_map_templateToken.mp hmem)
    exact absurd rfl (List.filter_eq_nil_iff.mp hfree _ hbrace)
  have hadds := adds_resolveFrom_templateToken run.singleSpaced
  rw [← Fragment.templateTokens, resolveFrom_false_of_not_mem hright] at hadds
  exact hadds

/-- The tokens of a text without braces add its items, also where a word in
front of it goes on. -/
theorem adds_goOn (vocabulary : Vocabulary) (hwhole : IsWhole text)
    (hfree : text.filter UtteranceTemplate.isBrace = [])
    {touch : Bool} (htouch : touch = true → beginsInRun text = true) :
    Adds (SpacedRows.goOn touch ((tokenRows vocabulary).row text))
      (SpacedRows.goOn touch ((itemRows vocabulary).row text)) := by
  have hnone := hwhole.readsAs.filter_isBrace_eq_nil hfree
  cases touch with
  | false => exact adds_tokensOf vocabulary hnone
  | true =>
      obtain ⟨run, later, hparts⟩ :=
        hwhole.readsAs.exists_run_of_beginsInRun (htouch rfl)
      rw [hparts, bracedTextsOf_cons] at hnone
      have hrun :=
        adds_templateTokens_of_free (hnone run (by simp [Fragment.bracedTexts]))
      have hlater := adds_tokensOf vocabulary fun braced hbraced =>
        hnone braced (List.mem_append_right _ hbraced)
      rw [tokenRows_row, itemRows_row, hparts]
      exact hrun.append hlater

theorem adds_gap (vocabulary : Vocabulary) (touch : Bool) :
    Adds ((tokenRows vocabulary).gap touch) ((itemRows vocabulary).gap touch) := by
  cases touch with
  | true => exact Adds.nil
  | false => exact Adds.char ' '

theorem adds_before (vocabulary : Vocabulary) (hwhole : IsWhole text)
    (hfree : text.filter UtteranceTemplate.isBrace = []) :
    Adds ((tokenRows vocabulary).before text)
      ((itemRows vocabulary).before text) := by
  have hrow := @adds_goOn text vocabulary hwhole hfree false (by simp)
  exact hrow.append (adds_gap vocabulary _)

theorem adds_behind (vocabulary : Vocabulary) (hwhole : IsWhole text)
    (hfree : text.filter UtteranceTemplate.isBrace = []) :
    Adds ((tokenRows vocabulary).behind text) ((itemRows vocabulary).behind text) :=
  adds_goOn vocabulary hwhole hfree fun hbegins => hbegins

theorem adds_within (vocabulary : Vocabulary) (hwhole : IsWhole text)
    (hfree : text.filter UtteranceTemplate.isBrace = []) :
    Adds ((tokenRows vocabulary).within text)
      ((itemRows vocabulary).within text) := by
  have htokens := (joins_tokenRows vocabulary).toIsLawful
  have hitems := isLawful_itemRows vocabulary
  by_cases hnil : text = []
  · subst hnil
    rw [SpacedRows.within_nil htokens, SpacedRows.within_nil hitems]
    exact Adds.nil
  · have hne : ∀ {α : Type} {rows : SpacedRows α}, rows.IsLawful →
        rows.begins text = true → rows.row text ≠ [] := by
      intro α rows hrows hbegins
      obtain ⟨more, hmore⟩ := hrows.row_of_begins hbegins
      simp [hmore]
    rw [SpacedRows.within_of_ne_nil _ hnil, SpacedRows.within_of_ne_nil _ hnil,
      SpacedRows.before, SpacedRows.before, SpacedRows.goOn_append (hne htokens),
      SpacedRows.goOn_append (hne hitems)]
    exact (adds_goOn vocabulary hwhole hfree fun hbegins => hbegins).append
      (adds_gap vocabulary _)

/-- A pair of braces in tokens without other braces becomes an optional group. -/
theorem resolveBraces_pair {front inside back : List Token}
    (h : (front ++ .leftBrace :: (inside ++ .rightBrace :: back)).filter
      Token.isBrace = [.leftBrace, .rightBrace]) :
    resolveBraces (front ++ .leftBrace :: (inside ++ .rightBrace :: back)) =
      front ++ ((.openGroup :: inside ++ [.close, .optional]) ++ back) := by
  have hlength := congrArg List.length h
  simp only [List.filter_append, List.filter_cons, Token.isBrace, if_true,
    List.length_append, List.length_cons, List.length_nil] at hlength
  have hnone : ∀ tokens : List Token, (tokens.filter Token.isBrace).length = 0 →
      .leftBrace ∉ tokens ∧ .rightBrace ∉ tokens := by
    intro tokens hzero
    rw [List.length_eq_zero_iff, List.filter_eq_nil_iff] at hzero
    exact ⟨fun hmem => hzero _ hmem rfl, fun hmem => hzero _ hmem rfl⟩
  obtain ⟨hfrontLeft, hfrontRight⟩ := hnone front (by omega)
  obtain ⟨_, hinside⟩ := hnone inside (by omega)
  obtain ⟨_, hback⟩ := hnone back (by omega)
  rw [resolveBraces, resolveFrom_append_of_not_mem false hfrontLeft hfrontRight]
  have hopen : resolveFrom false (.leftBrace :: (inside ++ .rightBrace :: back)) =
      .openGroup :: resolveFrom true (inside ++ .rightBrace :: back) := by
    simp [resolveFrom]
  rw [hopen, resolveFrom_true_append hinside, resolveFrom_false_of_not_mem hback]
  simp

/-! ### What the patterns read -/

variable {front inside back : Text} {matcher kept dropped : Matcher}
  {utterance : Text}

/-- A template with braces around fragments accepts what its pattern reads with what
stands between the braces or without it. -/
theorem accepts_braced_iff
    (h : compile vocabulary (braced front inside back) = .ok matcher)
    (hfront : IsWhole front) (hinside : IsWhole inside) (hback : IsWhole back)
    (hfrontFree : front.filter UtteranceTemplate.isBrace = [])
    (hinsideFree : inside.filter UtteranceTemplate.isBrace = [])
    (hbackFree : back.filter UtteranceTemplate.isBrace = []) :
    matcher.Accepts utterance ignoreCase ↔
      Leaves ignoreCase ((itemRows vocabulary).before front ++
          ((itemRows vocabulary).within inside ++ (itemRows vocabulary).behind back))
        (Utterance.normalize utterance) [] ∨
      Leaves ignoreCase
        ((itemRows vocabulary).before front ++ (itemRows vocabulary).behind back)
        (Utterance.normalize utterance) [] := by
  have hrow := (joins_tokenRows vocabulary).row_between
    (@isLetter_tokenRows vocabulary '{' (by decide) (by decide))
    (@isLetter_tokenRows vocabulary '}' (by decide) (by decide))
    (isWhole_letter (by decide) (by decide)) (isWhole_letter (by decide) (by decide))
    hfront hinside back
  have hbraces := (isWhole_of_compile h).readsAs.filter_isBrace vocabulary
  have htext : (braced front inside back).filter UtteranceTemplate.isBrace =
      [.char '{', .char '}'] := by
    simp [braced, List.filter_append, hfrontFree, hinsideFree, hbackFree,
      UtteranceTemplate.isBrace]
  have htokens :
      tokensOf vocabulary (Reading.ofTemplate (braced front inside back)).parts =
      (tokenRows vocabulary).before front ++ .leftBrace ::
        ((tokenRows vocabulary).within inside ++ .rightBrace ::
          (tokenRows vocabulary).behind back) := hrow
  rw [htext, htokens] at hbraces
  have hresolve := resolveBraces_pair hbraces
  rw [← htokens] at hresolve
  have hadds := (adds_before vocabulary hfront hfrontFree).append
    ((adds_within vocabulary hinside hinsideFree).optional.append
      (adds_behind vocabulary hback hbackFree))
  rw [← hresolve] at hadds
  rw [accepts_iff_leaves h hadds]
  exact leaves_append_opt_cons

theorem accepts_iff_of_tokensOf_eq (h : compile vocabulary text = .ok matcher)
    (hfree : text.filter UtteranceTemplate.isBrace = []) {tokens : List Token}
    {items : List Pattern}
    (htokens : tokensOf vocabulary (Reading.ofTemplate text).parts = tokens)
    (hadds : Adds tokens items) :
    matcher.Accepts utterance ignoreCase ↔
      Leaves ignoreCase items (Utterance.normalize utterance) [] := by
  have hbraces := (isWhole_of_compile h).readsAs.filter_isBrace vocabulary
  rw [hfree, htokens, List.map_nil, List.filter_eq_nil_iff] at hbraces
  have hresolve : resolveBraces tokens = tokens :=
    resolveFrom_false_of_not_mem fun hmem => hbraces _ hmem rfl
  apply accepts_iff_leaves h
  rw [htokens, hresolve]
  exact hadds

theorem startsAtSpace_itemRows (vocabulary : Vocabulary) (ignoreCase : Bool)
    (text : Text) :
    SpacedRows.StartsAtSpace ignoreCase ((itemRows vocabulary).row text) := by
  intro start ending hspaced hleaves
  rw [itemRows_row, itemsOf, ← List.flatMap_map] at hleaves
  exact eq_or_head?_of_leaves_items hspaced.newline_not_mem hleaves

/-- Fragments that end in a word read a space first. -/
theorem head?_of_leaves_itemRows {start ending : Text}
    (hends : (itemRows vocabulary).ends text = true) (hspaced : IsSpaced start)
    (h : Leaves ignoreCase ((itemRows vocabulary).row text) start ending) :
    start.head? = some (.char ' ') := by
  obtain ⟨front, source, run, hparts⟩ : ∃ front source run,
      (Reading.ofTemplate text).parts = front ++ [(source, .words run)] := by
    have hlast : endsInRun (Reading.ofTemplate text).parts = true := hends
    unfold endsInRun at hlast
    split at hlast
    · rename_i source run hword
      obtain ⟨front, hfront⟩ := List.getLast?_eq_some_iff.mp hword
      exact ⟨front, source, run, hfront⟩
    · cases hlast
  rw [itemRows_row, hparts, itemsOf, List.flatMap_append, leaves_append] at h
  obtain ⟨middle, hfront, hrun⟩ := h
  rw [← List.flatMap_map] at hfront
  rcases eq_or_head?_of_leaves_items hspaced.newline_not_mem hfront with rfl | hhead
  · have hitems : [(source, Fragment.words run)].flatMap
        (fun part => part.2.items vocabulary) =
        [.char ' '] ++ Fragment.bracedItems run := by
      simp [Fragment.items]
    rw [hitems, leaves_append] at hrun
    obtain ⟨_, hchar, _⟩ := hrun
    rw [leaves_space.mp hchar]
    rfl
  · exact hhead

/-- A template with braces around fragments accepts what one of the templates without
the braces accepts, and it accepts all of that unless a space stands at a brace that
the template without it does not have. -/
theorem optional_fragments
    (h : compile vocabulary (braced front inside back) = .ok matcher)
    (hkept : compile vocabulary (front ++ (inside ++ back)) = .ok kept)
    (hdropped : compile vocabulary (front ++ back) = .ok dropped)
    (hfront : IsWhole front) (hinside : IsWhole inside)
    (hfrontFree : front.filter UtteranceTemplate.isBrace = [])
    (hinsideFree : inside.filter UtteranceTemplate.isBrace = [])
    (hbackFree : back.filter UtteranceTemplate.isBrace = []) :
    (matcher.Accepts utterance ignoreCase →
        kept.Accepts utterance ignoreCase ∨ dropped.Accepts utterance ignoreCase) ∧
      ((itemRows vocabulary).touches front (inside ++ back) = true →
        (inside ≠ [] → (itemRows vocabulary).touches inside back = true) →
        kept.Accepts utterance ignoreCase → matcher.Accepts utterance ignoreCase) ∧
      ((itemRows vocabulary).touches front back = true →
        dropped.Accepts utterance ignoreCase →
          matcher.Accepts utterance ignoreCase) := by
  have hback : IsWhole back :=
    (isWhole_append_iff hfront).mp (isWhole_of_compile hdropped)
  have hspaced := isSpaced_normalize utterance
  have haddsFront := adds_before vocabulary hfront hfrontFree
  have haddsInside := adds_within vocabulary hinside hinsideFree
  have haddsBack := adds_behind vocabulary hback hbackFree
  -- the templates without the braces read the same items if a word touches
  -- each brace
  have hkeptIff : (itemRows vocabulary).touches front (inside ++ back) = true →
      (inside ≠ [] → (itemRows vocabulary).touches inside back = true) →
      (kept.Accepts utterance ignoreCase ↔
        Leaves ignoreCase ((itemRows vocabulary).before front ++
            ((itemRows vocabulary).within inside ++
              (itemRows vocabulary).behind back))
          (Utterance.normalize utterance) []) := by
    intro hleft hright
    exact accepts_iff_of_tokensOf_eq hkept
      (by simp [List.filter_append, hfrontFree, hinsideFree, hbackFree])
      ((joins_tokenRows vocabulary).row_kept hfront hinside hleft hright)
      (haddsFront.append (haddsInside.append haddsBack))
  have hdroppedIff : (itemRows vocabulary).touches front back = true →
      (dropped.Accepts utterance ignoreCase ↔
        Leaves ignoreCase
          ((itemRows vocabulary).before front ++ (itemRows vocabulary).behind back)
          (Utterance.normalize utterance) []) := by
    intro htouch
    exact accepts_iff_of_tokensOf_eq hdropped
      (by simp [List.filter_append, hfrontFree, hbackFree])
      ((joins_tokenRows vocabulary).row_dropped hfront htouch)
        (haddsFront.append haddsBack)
  rw [accepts_braced_iff h hfront hinside hback hfrontFree hinsideFree hbackFree]
  refine ⟨?_, ?_, ?_⟩
  · rintro (hleaves | hleaves)
    · obtain ⟨hleft, hright⟩ :=
        SpacedRows.touches_of_leaves_kept (isLawful_itemRows vocabulary) rfl
          (startsAtSpace_itemRows vocabulary ignoreCase inside)
          (fun hends _ _ hmiddle => head?_of_leaves_itemRows hends hmiddle)
          (startsAtSpace_itemRows vocabulary ignoreCase back) hspaced
            (by simp) hleaves
      exact Or.inl ((hkeptIff hleft hright).mpr hleaves)
    · have htouch := SpacedRows.touches_of_leaves_dropped rfl
        (startsAtSpace_itemRows vocabulary ignoreCase back) hspaced (by simp) hleaves
      exact Or.inr ((hdroppedIff htouch).mpr hleaves)
  · intro hleft hright haccepts
    exact Or.inl ((hkeptIff hleft hright).mp haccepts)
  · intro htouch haccepts
    exact Or.inr ((hdroppedIff htouch).mp haccepts)

end Template

end UtteranceTemplate
