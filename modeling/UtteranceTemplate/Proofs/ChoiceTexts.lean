import UtteranceTemplate.Proofs.SpacedRows

/-!
The texts that one alternative stands for.

A choice between bars is trimmed, and what it stands for is read off its normal form:
the text itself if it has no braces (`Fragment.choiceTexts_trim_of_free`), and two
texts if it has one pair (`Fragment.choiceTexts_trim_pair`). Alternatives leave of an
utterance what stands behind one of the texts that are tried
(`Fragment.leaves_alternatives_iff`).
-/

namespace UtteranceTemplate

open Pattern Text

/-- The texts of the wordings of letters in front of other parts. -/
theorem Wording.map_text_ofParts_letters (letters : Text) (parts : List BracePart) :
    (ofParts (letters.map .letter ++ parts)).map Wording.text =
      ((ofParts parts).map Wording.text).map (letters ++ ·) := by
  induction letters with
  | nil => simp
  | cons c letters ih =>
      have hcons : ∀ wordings : List Wording,
          (wordings.map fun wording =>
            (⟨wording.rank, c :: wording.text⟩ : Wording)).map Wording.text =
            (wordings.map Wording.text).map (c :: ·) := by
        intro wordings
        rw [List.map_map, List.map_map]
        rfl
      rw [List.map_cons, List.cons_append, ofParts, hcons, ih, List.map_map]
      rfl

theorem braceParts_letters_append {letters : Text} (h : .char '{' ∉ letters)
    (rest : Text) :
    braceParts (letters ++ rest) = letters.map .letter ++ braceParts rest := by
  induction letters with
  | nil => rfl
  | cons c letters ih =>
      simp only [List.mem_cons, not_or] at h
      rw [List.cons_append, braceParts, if_neg fun hpair => h.1 hpair.1.symm, ih h.2]
      rfl

theorem braceParts_letters {letters : Text} (h : .char '{' ∉ letters) :
    braceParts letters = letters.map .letter := by
  have hparts := braceParts_letters_append h []
  rw [List.append_nil, braceParts, List.append_nil] at hparts
  exact hparts

theorem Wording.map_text_ofParts_map_letter (letters : Text) :
    (ofParts (letters.map .letter)).map Wording.text = [letters] := by
  have htexts := map_text_ofParts_letters letters []
  rw [List.append_nil] at htexts
  rw [htexts]
  simp [ofParts]

theorem braceParts_pair {inside : Text} (h : .char '}' ∉ inside) (rest : Text) :
    braceParts (.char '{' :: (inside ++ .char '}' :: rest)) =
      .optional inside :: braceParts rest := by
  have hpass : ∀ c ∈ inside, (decide (c ≠ '}')) = true := by
    intro c hc
    simpa using fun heq : c = '}' => h (heq ▸ hc)
  have hstop : ∀ c, (.char '}' :: rest).head? = some c →
      (decide (c ≠ .char '}')) = false := by
    rintro _ ⟨⟩
    rfl
  obtain ⟨htake, hdrop⟩ := takeWhile_append_of_head? hpass hstop
  rw [braceParts, if_pos ⟨rfl, by simp⟩, htake, hdrop, List.tail_cons]

namespace Fragment

def choiceTexts (choice : Text) : List Text :=
  if choice.isEmpty then [[]]
  else ((Wording.ofBraced choice).map Wording.spaced).map Wording.text

/-- What a trimmed choice stands for is read off its normal form. -/
theorem choiceTexts_trim (text : Text) :
    choiceTexts text.trim =
      (Wording.ofParts (braceParts (Utterance.normalize text))).map
        Wording.text := by
  by_cases hnil : Text.words text = []
  · rw [trim_eq_nil_iff.mpr hnil, Utterance.normalize, hnil,
      List.flatMap_nil, braceParts]
    rfl
  · have hne : text.trim.isEmpty = false := by
      simpa using fun hempty => hnil (trim_eq_nil_iff.mp hempty)
    have hspaced : text.trim.singleSpaced = text.singleSpaced := by
      rw [singleSpaced, words_trim, singleSpaced]
    have hletter : braceParts (' ' :: text.singleSpaced) =
        ([' '] : Text).map .letter ++ braceParts text.singleSpaced :=
      braceParts_letters_append (show .char '{' ∉ ([' '] : Text) by
        decide) text.singleSpaced
    have htexts :=
      Wording.map_text_ofParts_letters [' '] (braceParts text.singleSpaced)
    rw [choiceTexts, hne, SpacedRows.normalize_of_words_ne_nil hnil, hletter, htexts,
      Wording.ofBraced, hspaced, List.map_map, List.map_map]
    rfl

theorem filter_isBrace_normalize (text : Text) :
    (Utterance.normalize text).filter UtteranceTemplate.isBrace =
      text.filter UtteranceTemplate.isBrace := by
  by_cases hnil : Text.words text = []
  · have hgap :=
      filter_eq_nil_of_isGap not_isBrace_of_isBlank (words_eq_nil_iff.mp hnil)
    rw [hgap, Utterance.normalize, hnil]
    rfl
  · rw [SpacedRows.normalize_of_words_ne_nil hnil,
      ← filter_isBrace_singleSpaced text]
    rfl

/-- A choice without braces stands for one text. -/
theorem choiceTexts_trim_of_free {text : Text}
    (hfree : text.filter UtteranceTemplate.isBrace = []) :
    choiceTexts text.trim = [Utterance.normalize text] := by
  rw [← filter_isBrace_normalize, List.filter_eq_nil_iff] at hfree
  have hleft : .char '{' ∉ Utterance.normalize text := fun hmem => hfree _ hmem rfl
  rw [choiceTexts_trim, braceParts_letters hleft,
    Wording.map_text_ofParts_map_letter]

/-- A choice with one pair of braces stands for the text with what is between them,
and without it. -/
theorem choiceTexts_trim_pair {text front inside back : Text}
    (htext : Utterance.normalize text =
      front ++ .char '{' :: (inside ++ .char '}' :: back))
    (hbraces : text.filter UtteranceTemplate.isBrace = [.char '{', .char '}']) :
    choiceTexts text.trim = [front ++ (inside ++ back), front ++ back] := by
  have hlength := congrArg List.length hbraces
  rw [← filter_isBrace_normalize, htext] at hlength
  simp only [List.filter_append, List.filter_cons, UtteranceTemplate.isBrace,
    List.length_append, List.length_cons, List.length_nil, beq_self_eq_true,
      Bool.true_or, Bool.or_true, if_true]
    at hlength
  have hnone : ∀ part : Text, (part.filter UtteranceTemplate.isBrace).length = 0 →
      .char '{' ∉ part ∧ .char '}' ∉ part := by
    intro part hzero
    rw [List.length_eq_zero_iff, List.filter_eq_nil_iff] at hzero
    exact ⟨fun hmem => hzero _ hmem rfl, fun hmem => hzero _ hmem rfl⟩
  obtain ⟨hfront, _⟩ := hnone front (by omega)
  obtain ⟨_, hinside⟩ := hnone inside (by omega)
  obtain ⟨hback, _⟩ := hnone back (by omega)
  rw [choiceTexts_trim, htext, braceParts_letters_append hfront,
    braceParts_pair hinside, braceParts_letters hback,
    Wording.map_text_ofParts_letters, Wording.ofParts, List.map_append,
    List.map_map, List.map_map]
  have hkept : Wording.text ∘ (fun wording : Wording =>
      (⟨0 :: wording.rank, inside ++ wording.text⟩ : Wording)) =
        (inside ++ ·) ∘ Wording.text := rfl
  have hdropped : Wording.text ∘ (fun wording : Wording =>
      (⟨1 :: wording.rank, wording.text⟩ : Wording)) = Wording.text := rfl
  rw [hkept, hdropped, ← List.map_map, Wording.map_text_ofParts_map_letter]
  rfl

variable {vocabulary : Vocabulary} {ignoreCase : Bool} {choices : List Text}
  {text rest : Text}

theorem map_text_choices_alternatives (hne : choices ≠ []) :
    ((alternatives choices).choices vocabulary).map (List.map Wording.text) =
      choices.map choiceTexts := by
  have hleast : atLeastOne choices = choices := by
    cases choices with
    | nil => exact absurd rfl hne
    | cons choice choices => rfl
  rw [Fragment.choices, Wording.choices, hleast, List.map_map]
  apply List.map_congr_left
  intro choice _
  rw [Function.comp_apply, choiceTexts]
  split <;> rfl

/-- Alternatives leave what stands behind one of the texts of their choices
that are tried. -/
theorem leaves_alternatives_iff (hne : choices ≠ []) :
    Leaves ignoreCase ((alternatives choices).items vocabulary) text rest ↔
      ∃ wanted ∈ (choices.map choiceTexts).flatten,
        isTried ignoreCase (choices.map choiceTexts) wanted = true ∧
          wanted.after? ignoreCase text = some rest := by
  have hbranches : (alternatives choices).branches vocabulary ≠ [] :=
    branchItems_ne_nil _ _
  rw [Fragment.items,
    (reads_branches vocabulary ignoreCase hbranches).singleton.leaves_iff,
      map_text_triedWordings, map_text_choices_alternatives hne]
  simp only [List.mem_filter, and_assoc]

/-- If some choice stands for two texts, the choices make no set, and all
texts are tried. -/
theorem isTried_of_pair {choices : List (List Text)} {first second : Text}
    (h : [first, second] ∈ choices) (wanted : Text) :
    isTried ignoreCase choices wanted = true := by
  have hdiffer : differInLast choices = false := by
    rw [Bool.eq_false_iff, Ne, differInLast_iff]
    rintro ⟨start, letter, others, rfl, _⟩
    obtain ⟨c, _, hc⟩ := List.mem_map.mp h
    cases hc
  rw [isTried, hdiffer]
  rfl

/-- If matching loses no wording of alternatives, all texts of their choices
are tried. -/
theorem isTried_of_triedWordings_eq (hne : choices ≠ [])
    (h : ignoreCase = true → (alternatives choices).triedWordings vocabulary
      ignoreCase = (alternatives choices).wordings vocabulary)
    {wanted : Text} (hwanted : wanted ∈ (choices.map choiceTexts).flatten) :
    isTried ignoreCase (choices.map choiceTexts) wanted = true := by
  have hall : (alternatives choices).triedWordings vocabulary ignoreCase =
      (alternatives choices).wordings vocabulary := by
    cases ignoreCase with
    | false => exact triedWordings_false vocabulary _
    | true => exact h rfl
  have htexts := congrArg (List.map Wording.text) hall
  rw [map_text_triedWordings, map_text_wordings, map_text_choices_alternatives hne,
    List.filter_eq_self] at htexts
  exact htexts wanted hwanted

end Fragment

end UtteranceTemplate
