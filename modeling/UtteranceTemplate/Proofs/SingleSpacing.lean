import UtteranceTemplate.Proofs.CaseFolding
import UtteranceTemplate.Utterance

/-!
The shape of single-spaced texts and of utterances in normal form.

In both the only blank is a single space with a character behind it that is not blank
(`IsSpaced`). So what stands between two spaces of an utterance is trimmed already
(`Trimmed`), and single spacing keeps all other characters in their order
(`filter_singleSpaced`).
-/

namespace UtteranceTemplate

namespace Text

/-- A text whose blanks are single spaces with a character behind them that
is not blank. -/
def IsSpaced : Text → Prop
  | [] => True
  | c :: rest =>
      (isBlank c = true → c = ' ' ∧ ∃ d more, rest = d :: more ∧ isBlank d = false) ∧
        IsSpaced rest

/-- A text that neither begins nor ends with a blank. -/
structure Trimmed (text : Text) : Prop where
  head : ∀ c, text.head? = some c → isBlank c = false
  last : ∀ c, text.getLast? = some c → isBlank c = false

theorem IsSpaced.of_append {before text : Text} (h : IsSpaced (before ++ text)) :
    IsSpaced text := by
  induction before with
  | nil => exact h
  | cons c before ih => exact ih h.2

theorem IsSpaced.word_append {word rest : Text}
    (hword : ∀ c ∈ word, isBlank c = false) (hrest : IsSpaced rest) :
    IsSpaced (word ++ rest) := by
  induction word with
  | nil => exact hrest
  | cons c word ih =>
      have hc := hword c List.mem_cons_self
      exact ⟨fun hblank => by simp [hc] at hblank,
        ih fun d hd => hword d (List.mem_cons_of_mem _ hd)⟩

theorem IsSpaced.space_cons {word rest : Text} (hne : word ≠ [])
    (hword : ∀ c ∈ word, isBlank c = false) (hrest : IsSpaced rest) :
    IsSpaced (' ' :: (word ++ rest)) := by
  refine ⟨fun _ => ⟨rfl, ?_⟩, hrest.word_append hword⟩
  cases word with
  | nil => exact absurd rfl hne
  | cons c word => exact ⟨c, word ++ rest, rfl, hword c List.mem_cons_self⟩

/-- Words that are each behind a space make a spaced text. -/
theorem isSpaced_flatMap (words : List Text) (hne : ∀ word ∈ words, word ≠ [])
    (hwords : ∀ word ∈ words, ∀ c ∈ word, isBlank c = false) :
    IsSpaced (words.flatMap fun word => ' ' :: word) := by
  induction words with
  | nil => exact trivial
  | cons word words ih =>
      rw [List.flatMap_cons, List.cons_append]
      refine IsSpaced.space_cons (hne word List.mem_cons_self)
        (hwords word List.mem_cons_self) ?_
      exact ih (fun w hw => hne w (List.mem_cons_of_mem _ hw))
        (fun w hw => hwords w (List.mem_cons_of_mem _ hw))

theorem isSpaced_normalize (utterance : Text) :
    IsSpaced (Utterance.normalize utterance) :=
  isSpaced_flatMap _ (words_ne_nil utterance) (not_isBlank_of_mem_words utterance)

theorem IsSpaced.eq_space_of_mem {text : Text} (h : IsSpaced text) {c : CodePoint}
    (hc : c ∈ text) (hblank : isBlank c = true) : c = ' ' := by
  induction text with
  | nil => simp at hc
  | cons d rest ih =>
      rcases List.mem_cons.mp hc with rfl | hc
      · exact (h.1 hblank).1
      · exact ih h.2 hc

/-- A spaced text holds no line feed. -/
theorem IsSpaced.newline_not_mem {text : Text} (h : IsSpaced text) :
    .char '\n' ∉ text := by
  intro hmem
  exact absurd (h.eq_space_of_mem hmem (by decide)) (by decide)

/-- In a spaced text a part that ends at a space or at the end does not end
with a blank. -/
theorem IsSpaced.last_of_append {text rest : Text} (h : IsSpaced (text ++ rest))
    (hrest : ∀ c, rest.head? = some c → c = ' ') :
    ∀ c, text.getLast? = some c → isBlank c = false := by
  intro c hc
  obtain ⟨front, rfl⟩ : ∃ front, text = front ++ [c] := by
    rw [List.getLast?_eq_some_iff] at hc
    exact hc
  rw [List.append_assoc] at h
  cases hblank : isBlank c with
  | false => rfl
  | true =>
      obtain ⟨_, d, more, hmore, hd⟩ := h.of_append.1 hblank
      have hspace := hrest d (by rw [← List.head?_cons (l := more), ← hmore]; rfl)
      rw [hspace] at hd
      exact absurd hd (by decide)

theorem IsSpaced.head_of_space_cons {rest : Text} (h : IsSpaced (' ' :: rest)) :
    ∃ c more, rest = c :: more ∧ isBlank c = false :=
  (h.1 (by decide)).2

/-- What stands behind a space and ends at a space or at the end is trimmed
and is not empty. -/
theorem IsSpaced.trimmed {word rest : Text} (h : IsSpaced (' ' :: (word ++ rest)))
    (hrest : ∀ c, rest.head? = some c → c = ' ') : word ≠ [] ∧ Trimmed word := by
  obtain ⟨c, more, hmore, hc⟩ := h.head_of_space_cons
  cases word with
  | nil =>
      have hspace := hrest c (by simpa using congrArg List.head? hmore)
      rw [hspace] at hc
      exact absurd hc (by decide)
  | cons d word =>
      have hd : d = c := by simpa using congrArg List.head? hmore
      refine ⟨by simp, ⟨?_, h.2.last_of_append hrest⟩⟩
      intro e he
      simp only [List.head?_cons, Option.some.injEq] at he
      rw [← he, hd, hc]

theorem trimmed_singleSpaced (text : Text) : Trimmed (singleSpaced text) := by
  by_cases hne : words text = []
  · have hnil : singleSpaced text = [] := by rw [singleSpaced, hne]; rfl
    rw [hnil]
    exact ⟨by simp, by simp⟩
  · have hspaced := isSpaced_normalize text
    rw [Utterance.normalize, ← space_cons_joinWith _ hne,
      ← List.append_nil (joinWith _ _)] at hspaced
    exact (hspaced.trimmed (by simp)).2

/-- Trimming a trimmed text behind a space takes off the space. -/
theorem trim_space_cons {text : Text} (h : Trimmed text) :
    trim (' ' :: text) = text := by
  have hstart : trimStart (' ' :: text) = text := by
    have hblank : isBlank ' ' = true := by decide
    cases text with
    | nil => simp [trimStart, hblank]
    | cons c rest => simp [trimStart, hblank, h.head c rfl]
  rw [trim, hstart, trimEnd_eq_self h.last]

end Text

end UtteranceTemplate
