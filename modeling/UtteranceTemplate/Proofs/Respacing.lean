import Mathlib.Data.List.Forall2
import UtteranceTemplate.Proofs.ChoiceTexts

/-!
Texts that differ in their spacing only.

Two texts are spaced alike if one comes from the other by putting gaps in place of
gaps, none of them empty (`Text.SpacedAlike`). Such texts have the same words, and a
character that is not blank cuts them into parts that are spaced alike
(`Text.SpacedAlike.cut`). A text is spaced like the row of its words with single
spaces between them, but for its two ends (`Text.spacedAlike_singleSpaced`).
-/

namespace UtteranceTemplate

namespace Text

/-- Whether two texts differ in their gaps only, and in none of them by being empty.
If the texts are loose, they may end in any two gaps. -/
inductive SpacedAlike (loose : Bool) : Text → Text → Prop
  | finish {left right : Text} (hleft : IsGap left) (hright : IsGap right)
      (hends : loose = true ∨ (left = [] ↔ right = [])) :
        SpacedAlike loose left right
  | letter {c : CodePoint} {left right : Text} (hc : isBlank c = false)
      (hrest : SpacedAlike loose left right) :
        SpacedAlike loose (c :: left) (c :: right)
  | gap {before after left right : Text} (hbefore : IsGap before)
      (hafter : IsGap after)
      (hne : before ≠ []) (hne' : after ≠ [])
        (hrest : SpacedAlike loose left right) :
      SpacedAlike loose (before ++ left) (after ++ right)

variable {loose : Bool} {left right : Text}

namespace SpacedAlike

theorem symm (h : SpacedAlike loose left right) : SpacedAlike loose right left := by
  induction h with
  | finish hleft hright hends =>
      exact .finish hright hleft (hends.imp_right Iff.symm)
  | letter hc _ ih => exact .letter hc ih
  | gap hbefore hafter hne hne' _ ih => exact .gap hafter hbefore hne' hne ih

theorem beginsInWord_eq (h : SpacedAlike loose left right) :
    left.beginsInWord = right.beginsInWord := by
  cases h with
  | finish hleft hright =>
      rw [beginsInWord_of_isGap hleft, beginsInWord_of_isGap hright]
  | letter => rfl
  | gap hbefore hafter hne hne' =>
      rw [beginsInWord_append hne, beginsInWord_append hne',
        beginsInWord_of_isGap hbefore, beginsInWord_of_isGap hafter]

/-- Spacing does not change the words. -/
theorem words_eq (h : SpacedAlike loose left right) : words left = words right := by
  induction h with
  | finish hleft hright =>
      rw [words_eq_nil_iff.mpr hleft, words_eq_nil_iff.mpr hright]
  | letter hc hrest ih =>
      rw [words_letter_cons hc, words_letter_cons hc, hrest.beginsInWord_eq, ih]
  | gap hbefore hafter _ _ _ ih =>
      rw [words_isGap_append hbefore, words_isGap_append hafter, ih]

theorem isGap_iff (h : SpacedAlike loose left right) : IsGap left ↔ IsGap right := by
  rw [← words_eq_nil_iff, ← words_eq_nil_iff, h.words_eq]

theorem eq_nil_iff (h : SpacedAlike false left right) : left = [] ↔ right = [] := by
  cases h with
  | finish _ _ hends => exact hends.resolve_left Bool.false_ne_true
  | letter => simp
  | gap _ _ hne hne' => simp [hne, hne']

theorem mem_iff (h : SpacedAlike loose left right) {c : CodePoint}
    (hc : isBlank c = false) :
    c ∈ left ↔ c ∈ right := by
  have hmem (text : Text) : c ∈ text ↔ c ∈ (words text).flatten := by
    rw [flatten_words, List.mem_filter, hc]
    simp
  rw [hmem left, hmem right, h.words_eq]

/-- A character that is not blank stands in both texts, and cuts them into parts that
are spaced alike. -/
theorem cut {front rest : Text} {c : CodePoint}
    (h : SpacedAlike loose (front ++ c :: rest) right) (hc : isBlank c = false) :
    ∃ front' rest', right = front' ++ c :: rest' ∧ SpacedAlike false front front' ∧
      SpacedAlike loose rest rest' := by
  generalize htext : front ++ c :: rest = text at h
  induction h generalizing front with
  | finish hleft =>
      exact absurd (htext ▸ List.mem_append_right _ List.mem_cons_self)
        (not_mem_of_isGap hleft hc)
  | @letter d left right hd hrest ih =>
      cases front with
      | nil =>
          obtain ⟨rfl, rfl⟩ := List.cons.inj htext
          exact ⟨[], right, rfl, .finish isGap_nil isGap_nil (.inr Iff.rfl), hrest⟩
      | cons e front =>
          obtain ⟨rfl, hfront⟩ := List.cons.inj htext
          obtain ⟨front', rest', rfl, hfronts, hrests⟩ := ih hfront
          exact ⟨e :: front', rest', rfl, .letter hd hfronts, hrests⟩
  | @gap before after left right hbefore hafter hne hne' hrest ih =>
      rcases List.append_eq_append_iff.mp htext with ⟨more, hbefore', hmore⟩ |
        ⟨more, rfl, hleft⟩
      · cases more with
        | nil =>
            -- the gap ends where the character stands
            rw [List.append_nil] at hbefore'
            have hmore' : [] ++ c :: rest = left := hmore
            obtain ⟨front', rest', rfl, hfronts, hrests⟩ := ih hmore'
            obtain rfl := hfronts.eq_nil_iff.mp rfl
            have hgaps := SpacedAlike.gap hbefore hafter hne hne' hfronts
            rw [List.append_nil, List.append_nil, hbefore'] at hgaps
            exact ⟨after, rest', rfl, hgaps, hrests⟩
        | cons d more =>
            obtain ⟨rfl, _⟩ := List.cons.inj hmore
            exact absurd (hbefore' ▸ List.mem_append_right _ List.mem_cons_self)
              (not_mem_of_isGap hbefore hc)
      · obtain ⟨front', rest', rfl, hfronts, hrests⟩ := ih hleft.symm
        exact ⟨after ++ front', rest', (List.append_assoc _ _ _).symm,
          .gap hbefore hafter hne hne' hfronts, hrests⟩

/-- A character in front that is not blank stands in front of both texts. -/
theorem cut_cons {rest : Text} {c : CodePoint}
    (h : SpacedAlike loose (c :: rest) right) (hc : isBlank c = false) :
    ∃ rest', right = c :: rest' ∧ SpacedAlike loose rest rest' := by
  have hfront : SpacedAlike loose ([] ++ c :: rest) right := h
  obtain ⟨front', rest', rfl, hfronts, hrests⟩ := hfront.cut hc
  obtain rfl := hfronts.eq_nil_iff.mp rfl
  exact ⟨rest', rfl, hrests⟩

section Enclosed

variable {first last between : CodePoint} {inside inside' rest : Text}

/-- What stands between two characters that are not blank stands between them in both
texts, spaced alike. -/
theorem cut_enclosed
    (h : SpacedAlike loose (first :: (inside ++ [last]) ++ rest) right)
    (hfirst : isBlank first = false) (hlast : isBlank last = false) :
    ∃ inside' rest', right = first :: (inside' ++ [last]) ++ rest' ∧
      SpacedAlike false inside inside' ∧ SpacedAlike loose rest rest' := by
  rw [List.cons_append, List.append_assoc] at h
  obtain ⟨_, rfl, hbehind⟩ := h.cut_cons hfirst
  obtain ⟨inside', rest', rfl, hinside, hrest⟩ := hbehind.cut hlast
  exact ⟨inside', rest', by simp, hinside, hrest⟩

/-- So do two parts with a character between them that is not blank. -/
theorem cut_enclosed_pair
    (h : SpacedAlike loose
      (first :: (inside ++ between :: (inside' ++ [last])) ++ rest) right)
    (hfirst : isBlank first = false) (hbetween : isBlank between = false)
    (hlast : isBlank last = false) :
    ∃ front back rest',
      right = first :: (front ++ between :: (back ++ [last])) ++ rest' ∧
      SpacedAlike false inside front ∧ SpacedAlike false inside' back ∧
      SpacedAlike loose rest rest' := by
  have hjoin : inside ++ between :: (inside' ++ [last]) =
    inside ++ between :: inside' ++ [last] := by simp
  rw [hjoin] at h
  obtain ⟨_, rest', rfl, hboth, hrest⟩ := h.cut_enclosed hfirst hlast
  obtain ⟨front, back, rfl, hfront, hback⟩ := hboth.cut hbetween
  exact ⟨front, back, rest', by simp, hfront, hback, hrest⟩

end Enclosed

/-- The pieces between the occurrences of a character that is not blank are
spaced alike. -/
theorem cutAt {c : CodePoint} (h : SpacedAlike false left right)
    (hc : isBlank c = false) :
    List.Forall₂ (SpacedAlike false) (Text.cutAt c left) (Text.cutAt c right) := by
  have hwhole : ∀ gap : Text, IsGap gap → Text.cutAt c gap = [gap] :=
    fun gap hgap => cutAt_of_not_mem (not_mem_of_isGap hgap hc)
  induction h with
  | finish hleft hright hends =>
      rw [hwhole _ hleft, hwhole _ hright]
      exact .cons (.finish hleft hright hends) .nil
  | @letter d left right hd hrest ih =>
      rw [Text.cutAt, Text.cutAt]
      split
      · exact .cons (.finish isGap_nil isGap_nil (.inr Iff.rfl)) ih
      · cases hleft : Text.cutAt c left with
        | nil => exact absurd hleft (cutAt_ne_nil c left)
        | cons first pieces =>
            rw [hleft] at ih
            obtain ⟨first', pieces', hfirst, hpieces, hright⟩ :=
              List.forall₂_cons_left_iff.mp ih
            rw [hright]
            exact .cons (.letter hd hfirst) hpieces
  | @gap before after left right hbefore hafter hne hne' hrest ih =>
      cases hleft : Text.cutAt c left with
      | nil => exact absurd hleft (cutAt_ne_nil c left)
      | cons first pieces =>
          rw [hleft] at ih
          obtain ⟨first', pieces', hfirst, hpieces, hright⟩ :=
            List.forall₂_cons_left_iff.mp ih
          have hbefores : Text.cutAt c before = [] ++ [before] :=
            hwhole before hbefore
          have hafters : Text.cutAt c after = [] ++ [after] := hwhole after hafter
          rw [cutAt_append hbefores hleft, cutAt_append hafters hright]
          exact .cons (.gap hbefore hafter hne hne' hfirst) hpieces

end SpacedAlike

/-- A letter in front of a gap and more words: the gap becomes a single space. -/
theorem spacedAlike_letter_gap {c : CodePoint} {rest : Text} (hc : isBlank c = false)
    (hbegins : beginsInWord rest = false) (hwords : words rest ≠ [])
    (htrimmed : SpacedAlike true (trimStart rest) (trimStart rest).singleSpaced) :
    SpacedAlike true (c :: rest) (singleSpaced (c :: rest)) := by
  have hgap := isGap_takeWhile rest
  have hsplit := takeWhile_append_trimStart rest
  have hne : rest.takeWhile isBlank ≠ [] := by
    cases rest with
    | nil => exact absurd rfl hwords
    | cons d rest =>
        have hd : isBlank d = true := by simpa [beginsInWord] using hbegins
        simp [hd]
  have hspace : IsGap [' '] := List.forall_mem_singleton.mpr (by decide)
  have hrest := SpacedAlike.gap hgap hspace hne (List.cons_ne_nil _ _) htrimmed
  rw [hsplit] at hrest
  have hsingle : singleSpaced (trimStart rest) = singleSpaced rest := by
    rw [← singleSpaced_isGap_append hgap, hsplit]
  rw [singleSpaced_letter_cons_of_not hc hbegins hwords, ← hsingle]
  exact .letter hc hrest

/-- A text that begins with no blank is spaced like the row of its words with single
spaces between them, but for its end. -/
theorem spacedAlike_singleSpaced_of_head {text : Text}
    (h : ∀ c, text.head? = some c → isBlank c = false) :
    SpacedAlike true text text.singleSpaced := by
  induction hlength : text.length
    using Nat.strong_induction_on generalizing text with
  | h n ih =>
      cases text with
      | nil => exact .finish isGap_nil isGap_nil (.inl rfl)
      | cons c rest =>
          have hc := h c rfl
          have hshort : (trimStart rest).length < n := by
            have hle : (trimStart rest).length ≤ rest.length :=
              Fragment.length_dropWhile_le _ _
            simp only [List.length_cons] at hlength
            omega
          have htrimmed :=
            ih _ hshort (fun d hd => not_isBlank_of_head?_trimStart hd) rfl
          cases hbegins : beginsInWord rest with
          | true =>
              have hself : trimStart rest = rest := by
                apply trimStart_eq_self
                intro d hd
                simpa [beginsInWord, hd] using hbegins
              rw [hself] at htrimmed
              rw [singleSpaced_letter_cons hc hbegins]
              exact .letter hc htrimmed
          | false =>
              by_cases hwords : words rest = []
              · have hsingle : singleSpaced (c :: rest) = [c] := by
                  rw [singleSpaced, words_letter_cons hc, hbegins, hwords]
                  rfl
                rw [hsingle]
                exact .letter hc
                  (.finish (words_eq_nil_iff.mp hwords) isGap_nil (.inl rfl))
              · exact spacedAlike_letter_gap hc hbegins hwords htrimmed

theorem spacedAlike_singleSpaced (text : Text) :
    SpacedAlike true text.trimStart text.singleSpaced := by
  have hsingle : text.trimStart.singleSpaced = text.singleSpaced := by
    rw [← singleSpaced_isGap_append (isGap_takeWhile text),
      takeWhile_append_trimStart]
  rw [← hsingle]
  exact spacedAlike_singleSpaced_of_head fun c hc =>
    not_isBlank_of_head?_trimStart hc

theorem words_of_letters {word : Text} (hne : word ≠ [])
    (h : ∀ c ∈ word, isBlank c = false) :
    words word = [word] := by
  induction word with
  | nil => exact absurd rfl hne
  | cons c word ih =>
      obtain ⟨hc, hword⟩ := List.forall_mem_cons.mp h
      cases word with
      | nil => simp [words, hc]
      | cons d word =>
          have hbegins : beginsInWord (d :: word) = true := by
            simp [beginsInWord, hword d]
          rw [words_letter_cons hc, if_pos hbegins, ih (List.cons_ne_nil _ _) hword,
            consFirst]

/-- A text with one word is that word with gaps around it. -/
theorem exists_of_words_eq_singleton {text word : Text} (h : words text = [word]) :
    ∃ before after, IsGap before ∧ IsGap after ∧ text = before ++ word ++ after := by
  induction text generalizing word with
  | nil => cases h
  | cons c rest ih =>
      cases hc : isBlank c with
      | true =>
          rw [words_blank_cons hc] at h
          obtain ⟨before, after, hbefore, hafter, rfl⟩ := ih h
          exact ⟨c :: before, after,
            List.forall_mem_cons.mpr ⟨hc, hbefore⟩, hafter, rfl⟩
      | false =>
          rw [words_letter_cons hc] at h
          split at h
          · rename_i hbegins
            cases hrest : words rest with
            | nil => exact absurd hrest (words_ne_nil_of_beginsInWord hbegins)
            | cons first others =>
                rw [hrest] at h
                obtain ⟨rfl, rfl⟩ := List.cons.inj h
                obtain ⟨before, after, hbefore, hafter, hsplit⟩ := ih hrest
                cases before with
                | nil => exact ⟨[], after, isGap_nil, hafter, by rw [hsplit]; rfl⟩
                | cons d before =>
                    rw [hsplit] at hbegins
                    simp [beginsInWord, hbefore d] at hbegins
          · obtain ⟨rfl, hrest⟩ := List.cons.inj h
            exact ⟨[], rest, isGap_nil, words_eq_nil_iff.mp hrest, rfl⟩

end Text

end UtteranceTemplate
