import UtteranceTemplate.Proofs.FragmentReading

/-!
What searching by the items of a fragment comes to: trying its wordings in turn.

The branches of a fragment write its choices (`Fragment.forall₂_writes_branches`), so
the choice between them tries the wordings that matching tries
(`Fragment.reads_branches`). A reading of a fragment is a piece at the start of a
text with what is left behind it, and `Fragment.search_items` says that the items of
a fragment go through its readings in order.
-/

namespace UtteranceTemplate

open Pattern

namespace Pattern

variable {ignoreCase : Bool}

theorem writes_chars (text : Text) : Writes ignoreCase (text.map .char) [text] := by
  refine ⟨reads_chars text, ?_, fun h => absurd rfl (h text)⟩
  intro other hother
  rw [List.singleton_inj.mp hother]

theorem Writes.char_cons (c : CodePoint) {branch : List Pattern} {texts : List Text}
    (h : Writes ignoreCase branch texts) :
    Writes ignoreCase (.char c :: branch) (texts.map (c :: ·)) := by
  constructor
  · simpa using (reads_char c).singleton.seq_append h.reads
  · intro text htext
    obtain ⟨rest, hrest, rfl⟩ := List.map_eq_singleton_iff.mp htext
    rw [h.single rest hrest, List.map_cons]
  · intro hnot
    obtain ⟨item, hitem, hnone⟩ :=
      h.several fun text htext => hnot (c :: text) (by rw [htext]; rfl)
    exact ⟨item, List.mem_cons_of_mem _ hitem, hnone⟩

end Pattern

theorem Wording.ofParts_ne_nil (parts : List BracePart) :
    Wording.ofParts parts ≠ [] := by
  induction parts with
  | nil => simp [ofParts]
  | cons part parts ih => cases part <;> simpa [ofParts] using ih

/-- The items of a text with braces write what the text stands for. -/
theorem BracePart.writes_items (ignoreCase : Bool) (parts : List BracePart) :
    Writes ignoreCase (parts.map item)
      ((Wording.ofParts parts).map Wording.text) := by
  induction parts with
  | nil => exact writes_chars []
  | cons part parts ih =>
      cases part with
      | letter c =>
          simpa [Wording.ofParts, item, Function.comp_def] using ih.char_cons c
      | optional text =>
          constructor
          · have hreads := (reads_chars text).opt.singleton.seq_append ih.reads
            simpa [Wording.ofParts, item, Function.comp_def] using hreads
          · intro other hother
            -- a pair doubles the wordings, so there are two at least
            have hlength := congrArg List.length hother
            have hpos := List.length_pos_iff.mpr (Wording.ofParts_ne_nil parts)
            simp only [Wording.ofParts, List.map_append, List.length_append,
              List.length_map, List.length_singleton] at hlength
            omega
          · intro _
            exact ⟨item (.optional text), List.mem_cons_self, rfl⟩

namespace Fragment

variable {ignoreCase : Bool}

theorem writes_spaced {items : List Pattern} {wordings : List Wording}
    (h : Writes ignoreCase items (wordings.map Wording.text)) :
    Writes ignoreCase (.char ' ' :: items)
      ((wordings.map Wording.spaced).map Wording.text) := by
  have hspaced := h.char_cons ' '
  rw [List.map_map] at hspaced ⊢
  exact hspaced

theorem forall₂_writes_branchItems {itemsOf : Text → List Pattern}
    {wordingsOf : Text → List Wording}
    (h : ∀ text,
      Writes ignoreCase (itemsOf text) ((wordingsOf text).map Wording.text))
    (texts : List Text) :
    List.Forall₂ (Writes ignoreCase) (branchItems itemsOf texts)
      ((Wording.choices wordingsOf texts).map (List.map Wording.text)) := by
  rw [branchItems, Wording.choices, List.map_map, List.forall₂_map_left_iff,
    List.forall₂_map_right_iff, List.forall₂_same]
  intro text _
  by_cases hempty : text.isEmpty = true
  · simp only [Function.comp_apply, hempty, if_true]
    exact writes_chars []
  · simp only [Function.comp_apply, hempty, Bool.false_eq_true, if_false]
    exact writes_spaced (h text)

/-- The branches of a fragment write its choices one by one. -/
theorem forall₂_writes_branches (ignoreCase : Bool) (vocabulary : Vocabulary)
    (fragment : Fragment) :
    List.Forall₂ (Writes ignoreCase) (fragment.branches vocabulary)
      ((fragment.choices vocabulary).map (List.map Wording.text)) := by
  cases fragment with
  | parameter name value => exact .cons (writes_chars []) .nil
  | untypedSlot name => exact .nil
  | typedSlot name type =>
      exact forall₂_writes_branchItems
        (fun phrase => writes_chars phrase.singleSpaced) _
  | alternatives choices =>
      exact forall₂_writes_branchItems
        (fun choice =>
          BracePart.writes_items ignoreCase (braceParts choice.singleSpaced)) choices
  | words run =>
      exact .cons (writes_spaced
        (BracePart.writes_items ignoreCase (braceParts run.singleSpaced))) .nil

theorem map_text_wordings (vocabulary : Vocabulary) (fragment : Fragment) :
    (fragment.wordings vocabulary).map Wording.text =
      ((fragment.choices vocabulary).map (List.map Wording.text)).flatten := by
  have hfst := List.zipIdx_map_fst 0 (fragment.choices vocabulary)
  rw [wordings, List.map_flatMap, ← List.flatMap_def]
  conv_rhs => rw [← hfst, List.flatMap_map]
  congr 1
  funext choice
  rw [List.map_map]
  rfl

theorem map_text_triedWordings (vocabulary : Vocabulary) (ignoreCase : Bool)
    (fragment : Fragment) :
    (fragment.triedWordings vocabulary ignoreCase).map Wording.text =
      (((fragment.choices vocabulary).map (List.map Wording.text)).flatten).filter
        (isTried ignoreCase
          ((fragment.choices vocabulary).map (List.map Wording.text))) := by
  rw [triedWordings, ← map_text_wordings, List.filter_map]
  rfl

/-- The choice between the branches of a fragment tries the wordings that
matching tries. -/
theorem reads_branches (vocabulary : Vocabulary) (ignoreCase : Bool)
    {fragment : Fragment} (h : fragment.branches vocabulary ≠ []) :
    Reads ignoreCase (choice (fragment.branches vocabulary))
      ((fragment.triedWordings vocabulary ignoreCase).map Wording.text) := by
  rw [map_text_triedWordings]
  exact reads_choice h (forall₂_writes_branches ignoreCase vocabulary fragment)

theorem branchItems_ne_nil (itemsOf : Text → List Pattern) (texts : List Text) :
    branchItems itemsOf texts ≠ [] := by
  simpa [branchItems] using atLeastOne_ne_nil texts

/-- The pieces at the start of a text that have the letters of given wordings, in the
order of the wordings, each with what is left behind it. -/
def wordingReadings (wordings : List Wording) (ignoreCase : Bool) (text : Text) :
    List (Wording × Text) :=
  wordings.filterMap fun wording =>
    (wording.text.after? ignoreCase text).map fun rest =>
      (⟨wording.rank, text.upTo rest⟩, rest)

/-- The pieces at the start of a text that are a space and free text, shorter ones
first, each with what is left behind it. -/
def freeReadings (ignoreCase : Bool) : Text → List (Wording × Text)
  | [] => []
  | c :: text =>
      if sameLetter ignoreCase ' ' c then
        (freeEndings text).map fun rest =>
          (⟨[text.length - rest.length], Text.upTo (c :: text) rest⟩, rest)
      else []

/-- The pieces for a fragment at the start of a text, each with what is left
behind it. -/
def readings (wordingsOf : Fragment → List Wording) (ignoreCase : Bool)
    (fragment : Fragment) (text : Text) : List (Wording × Text) :=
  match fragment with
  | .untypedSlot _ => freeReadings ignoreCase text
  | _ => wordingReadings (wordingsOf fragment) ignoreCase text

def kept (fragment : Fragment) (piece : Wording) : Captures :=
  if fragment.slot?.isSome then [some piece.text] else []

theorem search_of_reads {β : Type} {p : Pattern} {wordings : List Wording}
    (h : Reads ignoreCase p (wordings.map Wording.text)) (text : Text)
    (accept : Spans → Text → Option β) :
    p.search ignoreCase text accept =
      (wordingReadings wordings ignoreCase text).findSome? fun reading =>
        accept [] reading.2 := by
  rw [h.search, wordingReadings]
  clear h
  induction wordings with
  | nil => rfl
  | cons wording wordings ih =>
      rw [List.map_cons, List.findSome?_cons, ih, List.filterMap_cons]
      cases wording.text.after? ignoreCase text with
      | none => rfl
      | some rest => rfl

theorem search_capture_of_reads {β : Type} {p : Pattern} {wordings : List Wording}
    (h : Reads ignoreCase p (wordings.map Wording.text)) (text : Text)
    (accept : Captures → Text → Option β) :
    (Pattern.capture p).search ignoreCase text
      (fun spans rest => accept spans.captures rest) =
      (wordingReadings wordings ignoreCase text).findSome? fun reading =>
        accept [some reading.1.text] reading.2 := by
  rw [Pattern.search, search_of_reads h]
  clear h
  induction wordings with
  | nil => rfl
  | cons wording wordings ih =>
      simp only [wordingReadings, List.filterMap_cons] at ih ⊢
      cases wording.text.after? ignoreCase text with
      | none => exact ih
      | some rest =>
          simp only [Option.map_some, List.findSome?_cons, ih]
          rfl

theorem search_capture_free {β : Type} (text : Text)
    (accept : Captures → Text → Option β) :
    (Pattern.capture (seq [.char ' ', .anyText])).search ignoreCase text
        (fun spans rest => accept spans.captures rest) =
      (freeReadings ignoreCase text).findSome? fun reading =>
        accept [some reading.1.text] reading.2 := by
  cases text with
  | nil => rfl
  | cons c text =>
      simp only [Pattern.search, seq, freeReadings]
      split
      · rw [searchFree_eq_findSome?, List.findSome?_map]
        rfl
      · rfl

/-- Searching by the items of a fragment goes through its readings in order. -/
theorem search_items {β : Type} (vocabulary : Vocabulary) (ignoreCase : Bool)
    (fragment : Fragment) (text : Text) (accept : Captures → Text → Option β) :
    (seq (fragment.items vocabulary)).search ignoreCase text
        (fun spans rest => accept spans.captures rest) =
      (fragment.readings (triedWordings vocabulary ignoreCase) ignoreCase
        text).findSome?
        fun reading => accept (fragment.kept reading.1) reading.2 := by
  cases fragment with
  | parameter name value =>
      have hne : (parameter name value).branches vocabulary ≠ [] := by
        simp [branches]
      exact search_of_reads (reads_branches vocabulary ignoreCase hne) text _
  | untypedSlot name =>
      rw [items, search_seq_singleton]
      exact search_capture_free text accept
  | typedSlot name type =>
      have hne : (typedSlot name type).branches vocabulary ≠ [] :=
        branchItems_ne_nil _ _
      rw [items, search_seq_singleton]
      exact search_capture_of_reads
        (reads_branches vocabulary ignoreCase hne) text accept
  | alternatives choices =>
      have hne : (alternatives choices).branches vocabulary ≠ [] :=
        branchItems_ne_nil _ _
      rw [items, search_seq_singleton]
      exact search_of_reads (reads_branches vocabulary ignoreCase hne) text _
  | words run =>
      have hne : (words run).branches vocabulary ≠ [] := by simp [branches]
      exact search_of_reads (reads_branches vocabulary ignoreCase hne) text _

end Fragment

end UtteranceTemplate
