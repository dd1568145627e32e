import UtteranceTemplate.Proofs.FragmentSearch
import UtteranceTemplate.Proofs.LocalBraces

/-!
Searching by the pattern of a row of fragments is going through the ways to
cut a text.

`cuttings` lists the ways to cut the start of a text, most preferred first
(`pairwise_cuttings`). On a text without line feeds they are the rows of pieces that
fit the fragments (`mem_cuttings_iff`). The search goes through them in order, so a
whole text is matched by its most preferred cutting
(`exists_cutting_of_fullMatch?_eq_some`).
-/

namespace UtteranceTemplate

open Pattern

variable {wordingsOf : Fragment → List Wording} {ignoreCase : Bool}

theorem mem_freeEndings_iff {text rest : Text} (hnewline : .char '\n' ∉ text) :
    rest ∈ freeEndings text ↔ ∃ body, body ≠ [] ∧ text = body ++ rest := by
  induction text with
  | nil =>
      constructor
      · intro h
        cases h
      · rintro ⟨body, hne, heq⟩
        exact absurd (List.append_eq_nil_iff.mp heq.symm).1 hne
  | cons c text ih =>
      simp only [List.mem_cons, not_or] at hnewline
      have hc : c ≠ '\n' := Ne.symm hnewline.1
      rw [freeEndings, if_neg hc, List.mem_cons, ih hnewline.2]
      constructor
      · rintro (rfl | ⟨body, _, rfl⟩)
        · exact ⟨[c], by simp, rfl⟩
        · exact ⟨c :: body, by simp, rfl⟩
      · rintro ⟨body, hne, heq⟩
        cases body with
        | nil => exact absurd rfl hne
        | cons d body =>
            obtain ⟨rfl, rfl⟩ := List.cons.inj heq
            by_cases hbody : body = []
            · left
              rw [hbody]
              rfl
            · right
              exact ⟨body, hbody, rfl⟩

theorem pairwise_freeEndings (text : Text) :
    (freeEndings text).Pairwise (fun first second => second.length < first.length) ∧
      ∀ rest ∈ freeEndings text, rest.length < text.length := by
  induction text with
  | nil => exact ⟨.nil, by simp [freeEndings]⟩
  | cons c text ih =>
      rw [freeEndings]
      split
      · exact ⟨.nil, by simp⟩
      · refine ⟨List.pairwise_cons.mpr ⟨ih.2, ih.1⟩, ?_⟩
        intro rest hrest
        rcases List.mem_cons.mp hrest with rfl | hrest
        · simp
        · exact Nat.lt_succ_of_lt (ih.2 rest hrest)

namespace Fragment

theorem mem_wordingReadings_iff {wordings : List Wording} {piece : Wording}
    {text rest : Text} :
    (piece, rest) ∈ wordingReadings wordings ignoreCase text ↔
      (∃ wording ∈ wordings, wording.rank = piece.rank ∧
        Text.sameLetters ignoreCase wording.text piece.text = true) ∧
          text = piece.text ++ rest := by
  simp only [wordingReadings, List.mem_filterMap, Option.map_eq_some_iff,
    Prod.mk.injEq]
  constructor
  · rintro ⟨wording, hwording, _, hafter, rfl, rfl⟩
    obtain ⟨part, rfl, hsame⟩ := Text.after?_eq_some_iff.mp hafter
    rw [Text.upTo_append]
    exact ⟨⟨wording, hwording, rfl, hsame⟩, rfl⟩
  · rintro ⟨⟨wording, hwording, hrank, hsame⟩, rfl⟩
    refine ⟨wording, hwording, rest,
      Text.after?_eq_some_iff.mpr ⟨piece.text, rfl, hsame⟩, ?_, rfl⟩
    rw [Text.upTo_append, hrank]

theorem mem_freeReadings_iff {piece : Wording} {text rest : Text}
    (hnewline : .char '\n' ∉ text) :
    (piece, rest) ∈ freeReadings ignoreCase text ↔
      (∃ body, body ≠ [] ∧ piece = ⟨[body.length], ' ' :: body⟩) ∧
        text = piece.text ++ rest := by
  have hpiece : ∀ body ending : Text,
      (⟨[(body ++ ending).length - ending.length],
        Text.upTo (' ' :: (body ++ ending)) ending⟩ : Wording) =
        ⟨[body.length], ' ' :: body⟩ := by
    intro body ending
    rw [← List.cons_append, Text.upTo_append, List.length_append, Nat.add_sub_cancel]
  cases text with
  | nil =>
      constructor
      · intro h
        cases h
      · rintro ⟨⟨body, _, rfl⟩, heq⟩
        cases heq
  | cons c text =>
      simp only [List.mem_cons, not_or] at hnewline
      by_cases hc : sameLetter ignoreCase ' ' c = true
      · have hspace : c = ' ' := by
          rw [sameLetter_of_isBlank (by decide)] at hc
          exact (eq_of_beq hc).symm
        subst hspace
        simp only [freeReadings, hc, if_true, List.mem_map, Prod.mk.injEq,
          mem_freeEndings_iff hnewline.2]
        constructor
        · rintro ⟨ending, ⟨body, hne, rfl⟩, rfl, rfl⟩
          rw [hpiece]
          exact ⟨⟨body, hne, rfl⟩, rfl⟩
        · rintro ⟨⟨body, hne, rfl⟩, heq⟩
          obtain ⟨_, rfl⟩ := List.cons.inj heq
          exact ⟨rest, ⟨body, hne, rfl⟩, hpiece body rest, rfl⟩
      · simp only [freeReadings, hc, Bool.false_eq_true, if_false,
          List.not_mem_nil, false_iff]
        rintro ⟨⟨body, _, rfl⟩, heq⟩
        obtain ⟨rfl, _⟩ := List.cons.inj heq
        simp at hc

/-- On a text without line feeds the readings of a fragment are the pieces
that fit it. -/
theorem mem_readings_iff {fragment : Fragment} {piece : Wording} {text rest : Text}
    (hnewline : .char '\n' ∉ text) :
    (piece, rest) ∈ fragment.readings wordingsOf ignoreCase text ↔
      fragment.Fits wordingsOf ignoreCase piece ∧ text = piece.text ++ rest := by
  cases fragment with
  | untypedSlot name => exact mem_freeReadings_iff hnewline
  | parameter | typedSlot | alternatives | words => exact mem_wordingReadings_iff

/-- The readings of a fragment stand in the order of their ranks, if its
wordings do. -/
theorem pairwise_readings {fragment : Fragment}
    (h : (wordingsOf fragment).Pairwise fun first second => first.rank < second.rank)
    (text : Text) :
    (fragment.readings wordingsOf ignoreCase text).Pairwise fun first second =>
      first.1.rank < second.1.rank := by
  have hwordings : (wordingReadings (wordingsOf fragment) ignoreCase text).Pairwise
      fun first second => first.1.rank < second.1.rank := by
    apply List.pairwise_filterMap.mpr
    refine h.imp fun {first second} hlt left hleft right hright => ?_
    obtain ⟨_, _, rfl⟩ := Option.map_eq_some_iff.mp hleft
    obtain ⟨_, _, rfl⟩ := Option.map_eq_some_iff.mp hright
    exact hlt
  cases fragment with
  | parameter | typedSlot | alternatives | words => exact hwordings
  | untypedSlot name =>
      cases text with
      | nil => exact .nil
      | cons c text =>
          obtain ⟨hpairwise, hlength⟩ := pairwise_freeEndings text
          simp only [readings, freeReadings]
          split
          · apply List.pairwise_map.mpr
            refine hpairwise.imp_of_mem fun {first second} hfirst hsecond hlt => ?_
            have hle := hlength first hfirst
            exact List.cons_lt_cons_iff.mpr (Or.inl (by omega))
          · exact .nil

end Fragment

/-- The ways to cut the start of a text into pieces for the fragments, each
with what is left. -/
def cuttings (wordingsOf : Fragment → List Wording) (ignoreCase : Bool) :
    List Fragment → Text → List (List Wording × Text)
  | [], text => [([], text)]
  | fragment :: fragments, text =>
      (fragment.readings wordingsOf ignoreCase text).flatMap fun (piece, rest) =>
        (cuttings wordingsOf ignoreCase fragments rest).map fun (pieces, rest) =>
          (piece :: pieces, rest)

def keptPieces (fragments : List Fragment) (pieces : List Wording) : Captures :=
  (fragments.zip pieces).flatMap fun (fragment, piece) => fragment.kept piece

/-- On a text without line feeds the cuttings are the rows of fitting pieces
at its start. -/
theorem mem_cuttings_iff {fragments : List Fragment} {pieces : List Wording}
    {text rest : Text} (hnewline : .char '\n' ∉ text) :
    (pieces, rest) ∈ cuttings wordingsOf ignoreCase fragments text ↔
      List.Forall₂ (Fragment.Fits wordingsOf ignoreCase) fragments pieces ∧
        text = pieces.flatMap Wording.text ++ rest := by
  induction fragments generalizing pieces text with
  | nil =>
      simp only [cuttings, List.mem_singleton, Prod.mk.injEq,
        List.forall₂_nil_left_iff]
      constructor
      · rintro ⟨rfl, rfl⟩
        exact ⟨rfl, rfl⟩
      · rintro ⟨rfl, rfl⟩
        exact ⟨rfl, rfl⟩
  | cons fragment fragments ih =>
      simp only [cuttings, List.mem_flatMap, List.mem_map,
        Prod.mk.injEq, Prod.exists, Fragment.mem_readings_iff hnewline]
      constructor
      · rintro ⟨piece, ending, ⟨hfits, rfl⟩, more, _, hmore, rfl, rfl⟩
        have hending : .char '\n' ∉ ending :=
          fun hmem => hnewline (List.mem_append_right _ hmem)
        obtain ⟨hothers, rfl⟩ := (ih hending).mp hmore
        exact ⟨.cons hfits hothers, by simp⟩
      · rintro ⟨hall, rfl⟩
        cases hall with
        | @cons _ piece _ more hfits hothers =>
            rw [List.flatMap_cons, List.append_assoc] at hnewline ⊢
            have hending : .char '\n' ∉ more.flatMap Wording.text ++ rest :=
              fun hmem => hnewline (List.mem_append_right _ hmem)
            exact ⟨piece, _, ⟨hfits, rfl⟩, more, rest,
              (ih hending).mpr ⟨hothers, rfl⟩, rfl, rfl⟩

/-- The cuttings are listed in the order of preference. -/
theorem pairwise_cuttings (ignoreCase : Bool)
    (h : ∀ fragment,
      (wordingsOf fragment).Pairwise fun first second => first.rank < second.rank)
    (fragments : List Fragment) (text : Text) :
    (cuttings wordingsOf ignoreCase fragments text).Pairwise fun first second =>
      IsPreferred first.1 second.1 := by
  induction fragments generalizing text with
  | nil => exact List.pairwise_singleton _ _
  | cons fragment fragments ih =>
      apply List.pairwise_flatMap.mpr
      constructor
      · rintro ⟨piece, rest⟩ _
        apply List.pairwise_map.mpr
        exact (ih rest).imp fun hlt => List.cons_lt_cons_iff.mpr (Or.inr ⟨rfl, hlt⟩)
      · refine (Fragment.pairwise_readings (h fragment) text).imp ?_
        rintro ⟨first, rest⟩ ⟨second, ending⟩ hlt x hx y hy
        obtain ⟨more, _, rfl⟩ := List.mem_map.mp hx
        obtain ⟨others, _, rfl⟩ := List.mem_map.mp hy
        exact List.cons_lt_cons_iff.mpr (Or.inl hlt)

theorem Spans.captures_append (front back : Spans) :
    Spans.captures (front ++ back) = Spans.captures front ++ Spans.captures back :=
  List.map_append

/-- Searching by the items of a row of fragments goes through the cuttings in
order. -/
theorem search_flatMap_items {β : Type} (vocabulary : Vocabulary) (ignoreCase : Bool)
    (fragments : List Fragment) (text : Text) (accept : Captures → Text → Option β) :
    (seq (fragments.flatMap (Fragment.items vocabulary))).search ignoreCase text
        (fun spans rest => accept spans.captures rest) =
      (cuttings (Fragment.triedWordings vocabulary ignoreCase) ignoreCase fragments
        text).findSome?
        fun cutting => accept (keptPieces fragments cutting.1) cutting.2 := by
  induction fragments generalizing text accept with
  | nil =>
      rw [cuttings, List.findSome?_singleton]
      rfl
  | cons fragment fragments ih =>
      simp only [List.flatMap_cons, search_seq_append,
        Spans.captures_append, cuttings, findSome?_flatMap, List.findSome?_map,
          Function.comp_def]
      have hrest : ∀ (kept : Captures) rest,
          ((seq (fragments.flatMap (Fragment.items vocabulary))).search
            ignoreCase rest
            fun more ending => accept (kept ++ more.captures) ending) = _ :=
        fun kept rest => ih rest fun more ending => accept (kept ++ more) ending
      simp only [hrest]
      exact Fragment.search_items vocabulary ignoreCase fragment text
        fun kept rest =>
        (cuttings (Fragment.triedWordings vocabulary ignoreCase) ignoreCase fragments
          rest).findSome?
          fun cutting => accept (kept ++ keptPieces fragments cutting.1) cutting.2

theorem isCutting_iff_mem_cuttings {fragments : List Fragment} {text : Text}
    {pieces : List Wording} (hnewline : .char '\n' ∉ text) :
    IsCutting wordingsOf ignoreCase fragments text pieces ↔
      (pieces, []) ∈ cuttings wordingsOf ignoreCase fragments text := by
  rw [mem_cuttings_iff hnewline, List.append_nil]
  constructor
  · intro h
    exact ⟨h.fits, h.text.symm⟩
  · rintro ⟨hfits, htext⟩
    exact ⟨hfits, htext.symm⟩

section WholeText

variable {vocabulary : Vocabulary} {fragments : List Fragment} {text : Text}

theorem fullMatch?_eq_findSome? (vocabulary : Vocabulary) (ignoreCase : Bool)
    (fragments : List Fragment) (text : Text) :
    (seq ((fragments.flatMap (Fragment.items vocabulary)).flatMap
        Pattern.items)).fullMatch? ignoreCase text =
      (cuttings (Fragment.triedWordings vocabulary ignoreCase) ignoreCase fragments
        text).findSome? fun cutting =>
          if cutting.2.isEmpty then some (keptPieces fragments cutting.1)
          else none := by
  rw [fullMatch?, search_seq_flatMap_items]
  exact search_flatMap_items vocabulary ignoreCase fragments text
    fun captures rest =>
    if rest.isEmpty then some captures else none

/-- A whole text is matched if it can be cut. -/
theorem isSome_fullMatch?_iff (hnewline : .char '\n' ∉ text) :
    ((seq ((fragments.flatMap (Fragment.items vocabulary)).flatMap
        Pattern.items)).fullMatch? ignoreCase text).isSome ↔
      ∃ pieces,
        IsCutting (Fragment.triedWordings vocabulary ignoreCase) ignoreCase fragments
          text pieces := by
  rw [fullMatch?_eq_findSome?, List.findSome?_isSome_iff]
  constructor
  · rintro ⟨⟨pieces, rest⟩, hmem, hsome⟩
    cases rest with
    | nil => exact ⟨pieces, (isCutting_iff_mem_cuttings hnewline).mpr hmem⟩
    | cons c rest => simp at hsome
  · rintro ⟨pieces, hcutting⟩
    exact ⟨(pieces, []), (isCutting_iff_mem_cuttings hnewline).mp hcutting, rfl⟩

/-- What the captures keep are pieces of the most preferred cutting. -/
theorem exists_cutting_of_fullMatch?_eq_some (hnewline : .char '\n' ∉ text)
    {captures : Captures}
    (h : (seq ((fragments.flatMap (Fragment.items vocabulary)).flatMap
      Pattern.items)).fullMatch? ignoreCase text = some captures) :
    ∃ pieces, captures = keptPieces fragments pieces ∧
      IsCutting (Fragment.triedWordings vocabulary ignoreCase) ignoreCase fragments
        text pieces ∧
      ∀ others,
        IsCutting (Fragment.triedWordings vocabulary ignoreCase) ignoreCase fragments
          text others →
          others = pieces ∨ IsPreferred pieces others := by
  rw [fullMatch?_eq_findSome?] at h
  obtain ⟨earlier, ⟨pieces, rest⟩, later, hsplit, haccept, hearlier⟩ :=
    List.findSome?_eq_some_iff.mp h
  obtain ⟨hrest, hcaptures⟩ : rest = [] ∧
      keptPieces fragments pieces = captures := by
    simpa using haccept
  subst hrest
  have hordered := pairwise_cuttings ignoreCase
    (Fragment.pairwise_triedWordings vocabulary ignoreCase) fragments text
  rw [hsplit] at hordered
  have hcutting : (pieces, []) ∈ earlier ++ (pieces, []) :: later := by simp
  refine ⟨pieces, hcaptures.symm,
    (isCutting_iff_mem_cuttings hnewline).mpr (hsplit ▸ hcutting), ?_⟩
  intro others hothers
  have hmem := (isCutting_iff_mem_cuttings hnewline).mp hothers
  rw [hsplit] at hmem
  rcases List.mem_append.mp hmem with hmem | hmem
  · have hnone := hearlier _ hmem
    simp at hnone
  · rcases List.mem_cons.mp hmem with heq | hmem
    · exact Or.inl (congrArg Prod.fst heq)
    · right
      exact (List.pairwise_cons.mp (List.pairwise_append.mp hordered).2.1).1 _ hmem

end WholeText

end UtteranceTemplate
