import Mathlib.Data.List.Basic
import UtteranceTemplate.Proofs.FragmentSource
import UtteranceTemplate.Template.Reading

/-!
The reading of a template as a relation, without positions.

`Template.ReadsAs` takes a text apart into gaps and sources of fragments, up to
where no fragment begins. Every text has exactly one such reading, and it is the
one that is computed (`Template.readsAs_iff`). The computed reading goes to the
end of the text exactly if the text is any row of fragments with gaps between
them (`Template.unread_eq_nil_iff`), so taking the first fragment that begins
loses no template.
-/

namespace UtteranceTemplate

open Text

def Piece.part (piece : Piece) : Text × Fragment := (piece.source, piece.fragment)

/-- The fragments of a reading, each behind the text that it was read from. -/
def Reading.parts (reading : Reading) : List (Text × Fragment) :=
  reading.pieces.map Piece.part

namespace Reading

theorem parts_cons (piece : Piece) (reading : Reading) :
    (reading.cons piece).parts =
      (piece.source, piece.fragment) :: reading.parts := rfl

theorem ofEnding_of_read?_eq_none {position : Nat} {text : Text}
    (h : Fragment.read? text.trimStart = none) :
    ofEnding position text = ⟨[], text.trimStart⟩ := by
  rw [ofEnding]
  split
  · rfl
  · rename_i fragment rest hread
    rw [h] at hread
    cases hread

theorem ofEnding_of_read?_eq_some (position : Nat) {text rest : Text}
    {fragment : Fragment}
    (h : Fragment.read? text.trimStart = some (fragment, rest)) :
    ofEnding position text =
      (ofEnding (position + (text.length - text.trimStart.length) +
        (text.trimStart.upTo rest).length) rest).cons
        ⟨position + (text.length - text.trimStart.length), text.trimStart.upTo rest,
          fragment⟩ := by
  rw [ofEnding]
  split
  · rename_i hread
    rw [h] at hread
    cases hread
  · rename_i found ending hread
    rw [h] at hread
    cases hread
    rfl

theorem exists_ofEnding_of_read?_eq_some (position : Nat) {text rest : Text}
    {fragment : Fragment}
    (h : Fragment.read? text.trimStart = some (fragment, rest)) :
    ∃ next, (ofEnding position text).parts =
        (text.trimStart.upTo rest, fragment) :: (ofEnding next rest).parts ∧
      (ofEnding position text).unread = (ofEnding next rest).unread := by
  rw [ofEnding_of_read?_eq_some position h]
  exact ⟨_, parts_cons _ _, rfl⟩

end Reading

namespace Template

/-- Whether a text reads as a row of fragments with their sources, with a part left
unread at which no fragment begins. -/
inductive ReadsAs : Text → List (Text × Fragment) → Text → Prop
  | stop {gap unread : Text} (hgap : IsGap gap)
      (hhead : ∀ c, unread.head? = some c → Fragment.isOpening c = true)
      (hnone : ∀ fragment rest, ¬ Fragment.Begins fragment unread rest) :
      ReadsAs (gap ++ unread) [] unread
  | part {gap source rest unread : Text} {fragment : Fragment}
      {parts : List (Text × Fragment)}
      (hgap : IsGap gap) (hhead : ∀ c, source.head? = some c → isBlank c = false)
      (hsource : fragment.IsSource source)
      (hend : fragment.production = .words →
        ∀ c, rest.head? = some c → Fragment.isOpening c = true)
      (hrest : ReadsAs rest parts unread) :
      ReadsAs (gap ++ (source ++ rest)) ((source, fragment) :: parts) unread

/-- Rows of fragments with gaps around them; a run of words need not be as
long as it can be. -/
inductive IsRow : List Fragment → Text → Prop
  | nil {gap : Text} (hgap : IsGap gap) : IsRow [] gap
  | cons {gap source rest : Text} {fragment : Fragment} {fragments : List Fragment}
      (hgap : IsGap gap) (hsource : fragment.IsSource source)
        (hrest : IsRow fragments rest) :
      IsRow (fragment :: fragments) (gap ++ (source ++ rest))

end Template

theorem Fragment.not_isBlank_of_isOpening {c : CodePoint} (h : isOpening c = true) :
    isBlank c = false := by
  simp only [isOpening, Bool.or_eq_true, beq_iff_eq] at h
  rcases h with rfl | rfl <;> decide

theorem Fragment.not_isOpening_of_isBlank {c : CodePoint} (h : isBlank c = true) :
    isOpening c = false := by
  cases hopen : isOpening c with
  | false => rfl
  | true => rw [not_isBlank_of_isOpening hopen] at h; cases h

/-- What no fragment begins is empty or begins with an opening bracket or
parenthesis. -/
theorem Fragment.isOpening_of_not_begins {text : Text}
    (h : ∀ fragment rest, ¬ Begins fragment text rest) {c : CodePoint}
    (hc : text.head? = some c) :
    isOpening c = true := by
  cases text with
  | nil => cases hc
  | cons d rest =>
      cases hopen : isOpening c with
      | true => rfl
      | false =>
          rw [← Option.some.inj hc] at hopen
          simp only [isOpening, Bool.or_eq_false_iff, beq_eq_false_iff_ne] at hopen
          rw [← read?_eq_none_iff, read?] at h
          · cases h
          · exact hopen.2
          · exact hopen.1

theorem Fragment.IsSource.ne_nil {fragment : Fragment} {source : Text}
    (h : fragment.IsSource source) : source ≠ [] := by
  cases h with
  | words hne hopen => exact hne
  | parameter | untypedSlot | typedSlot | alternatives => simp

/-- A fragment that is no run of words begins with an opening bracket or
parenthesis. -/
theorem Fragment.IsSource.isOpening_head {fragment : Fragment} {source : Text}
    (h : fragment.IsSource source) (hwords : fragment.production ≠ .words)
    {c : CodePoint} (hc : source.head? = some c) : isOpening c = true := by
  cases h with
  | words hne hopen => exact absurd rfl hwords
  | parameter | untypedSlot | typedSlot | alternatives =>
      rw [← Option.some.inj hc]; rfl

theorem Fragment.IsSource.eq_words {fragment : Fragment} {source : Text}
    (h : fragment.IsSource source) (hwords : fragment.production = .words) :
    fragment = .words source ∧ ∀ c ∈ source, isOpening c = false := by
  cases h with
  | words hne hopen => exact ⟨rfl, hopen⟩
  | parameter | untypedSlot | typedSlot | alternatives => cases hwords

/-- Behind a gap a fragment is read as at the start of a text. -/
theorem Fragment.read?_trimStart_append {gap source rest : Text}
    {fragment : Fragment} (hgap : IsGap gap)
    (hhead : ∀ c, source.head? = some c → isBlank c = false)
    (hsource : fragment.IsSource source)
    (hend : fragment.production = .words → ∀ c, rest.head? = some c →
      isOpening c = true) :
    trimStart (gap ++ (source ++ rest)) = source ++ rest ∧
      read? (trimStart (gap ++ (source ++ rest))) = some (fragment, rest) := by
  have hstart : trimStart (gap ++ (source ++ rest)) = source ++ rest := by
    rw [trimStart_append_of_isGap hgap]
    apply trimStart_eq_self
    intro c hc
    rw [List.head?_append_of_ne_nil _ hsource.ne_nil] at hc
    exact hhead c hc
  refine ⟨hstart, ?_⟩
  rw [hstart]
  exact read?_eq_some_iff.mpr ⟨source, hsource, rfl, hend⟩

namespace Template

variable {text unread : Text} {parts : List (Text × Fragment)}

/-- The computed reading is a reading. -/
theorem readsAs_ofEnding (position : Nat) (text : Text) :
    ReadsAs text (Reading.ofEnding position text).parts
      (Reading.ofEnding position text).unread := by
  induction hlength : text.length
    using Nat.strong_induction_on generalizing position text with
  | h n ih =>
      have hsplit := takeWhile_append_trimStart text
      cases hread : Fragment.read? text.trimStart with
      | none =>
          have hnone := Fragment.read?_eq_none_iff.mp hread
          have hstop := ReadsAs.stop (isGap_takeWhile text)
            (fun c hc => Fragment.isOpening_of_not_begins hnone hc) hnone
          rw [hsplit] at hstop
          rw [Reading.ofEnding_of_read?_eq_none hread]
          exact hstop
      | some found =>
          obtain ⟨fragment, rest⟩ := found
          obtain ⟨next, hparts, hunread⟩ :=
            Reading.exists_ofEnding_of_read?_eq_some position hread
          obtain ⟨source, hsource, htext, hend⟩ :=
            Fragment.read?_eq_some_iff.mp hread
          have hshort : rest.length < n := by
            have hle := Fragment.length_dropWhile_le isBlank text
            have hlt := Fragment.length_lt_of_read? hread
            rw [trimStart] at hlt
            omega
          have hupto : text.trimStart.upTo rest = source := by
            rw [htext, upTo, List.length_append, Nat.add_sub_cancel, List.take_left]
          have hhead : ∀ c, source.head? = some c → isBlank c = false := by
            intro c hc
            have hstart : text.trimStart.head? = some c := by
              rw [htext, List.head?_append_of_ne_nil _ hsource.ne_nil, hc]
            exact not_isBlank_of_head?_trimStart hstart
          have hpart := ReadsAs.part (isGap_takeWhile text) hhead hsource hend
            (ih _ hshort next rest rfl)
          rw [← htext, hsplit] at hpart
          rw [hparts, hunread, hupto]
          exact hpart

/-- A text has no reading but the computed one. -/
theorem ReadsAs.eq_ofEnding (h : ReadsAs text parts unread) (position : Nat) :
    (Reading.ofEnding position text).parts = parts ∧
      (Reading.ofEnding position text).unread = unread := by
  induction h generalizing position with
  | @stop gap unread hgap hhead hnone =>
      have hstart : trimStart (gap ++ unread) = unread := by
        rw [trimStart_append_of_isGap hgap]
        exact trimStart_eq_self fun c hc =>
          Fragment.not_isBlank_of_isOpening (hhead c hc)
      have hread : Fragment.read? (trimStart (gap ++ unread)) = none := by
        rw [hstart]
        exact Fragment.read?_eq_none_iff.mpr hnone
      rw [Reading.ofEnding_of_read?_eq_none hread]
      exact ⟨rfl, hstart⟩
  | @part gap source rest unread fragment parts hgap hhead hsource hend _ ih =>
      obtain ⟨hstart, hread⟩ :=
        Fragment.read?_trimStart_append hgap hhead hsource hend
      obtain ⟨next, hparts, hunread⟩ :=
        Reading.exists_ofEnding_of_read?_eq_some position hread
      have hupto : (source ++ rest).upTo rest = source := by
        rw [upTo, List.length_append, Nat.add_sub_cancel, List.take_left]
      obtain ⟨hparts', hunread'⟩ := ih next
      rw [hparts, hunread, hstart, hupto, hparts', hunread']
      exact ⟨rfl, rfl⟩

theorem readsAs_iff :
    ReadsAs text parts unread ↔
      (Reading.ofTemplate text).parts = parts ∧
        (Reading.ofTemplate text).unread = unread := by
  constructor
  · intro h
    exact h.eq_ofEnding 0
  · rintro ⟨rfl, rfl⟩
    exact readsAs_ofEnding 0 text

theorem readsAs_ofTemplate (text : Text) :
    ReadsAs text (Reading.ofTemplate text).parts (Reading.ofTemplate text).unread :=
  readsAs_iff.mpr ⟨rfl, rfl⟩

theorem ReadsAs.gap_append (h : ReadsAs text parts unread) {gap : Text}
    (hgap : IsGap gap) :
    ReadsAs (gap ++ text) parts unread := by
  cases h with
  | stop hmore hhead hnone =>
      rw [← List.append_assoc]
      exact .stop (hgap.append hmore) hhead hnone
  | part hmore hhead hsource hend hrest =>
      rw [← List.append_assoc]
      exact .part (hgap.append hmore) hhead hsource hend hrest

/-- A run of words in front of a text takes in the gap at the start of the text, and
the run behind the gap if there is one. -/
theorem ReadsAs.run_append (h : ReadsAs text parts unread) {run : Text}
    (hne : run ≠ []) (hhead : ∀ c, run.head? = some c → isBlank c = false)
    (hopen : ∀ c ∈ run, Fragment.isOpening c = false) :
    ∃ gap, IsGap gap ∧
      ((ReadsAs (run ++ text) ((run ++ gap, .words (run ++ gap)) :: parts) unread ∧
          (∀ part ∈ parts.head?, part.2.production ≠ .words) ∧
            ∃ ending, text = gap ++ ending ∧ ∀ c, ending.head? = some c →
              Fragment.isOpening c = true) ∨
        ∃ more later ending, parts = (more, .words more) :: later ∧
          text = gap ++ (more ++ ending) ∧
          (∀ c, more.head? = some c → isBlank c = false) ∧ more ≠ [] ∧
          (∀ c ∈ more, Fragment.isOpening c = false) ∧
          ReadsAs (run ++ text)
            ((run ++ (gap ++ more), .words (run ++ (gap ++ more))) :: later)
            unread) := by
  have hwords : ∀ more : Text, (∀ c ∈ more, Fragment.isOpening c = false) →
      (Fragment.words (run ++ more)).IsSource (run ++ more) :=
    fun more hmore =>
      .words (by simp [hne]) (List.forall_mem_append.mpr ⟨hopen, hmore⟩)
  have hstart : ∀ more c, (run ++ more).head? = some c → isBlank c = false := by
    intro more c hc
    rw [List.head?_append_of_ne_nil _ hne] at hc
    exact hhead c hc
  have hgapOpen : ∀ gap : Text, IsGap gap →
      ∀ c ∈ gap, Fragment.isOpening c = false :=
    fun gap hgap c hc => Fragment.not_isOpening_of_isBlank (hgap c hc)
  cases h with
  | @stop gap _ hgap hstop hnone =>
      refine ⟨gap, hgap, Or.inl ⟨?_, by simp, unread, rfl, hstop⟩⟩
      rw [← List.append_assoc]
      exact .part isGap_nil (hstart gap) (hwords gap (hgapOpen gap hgap))
        (fun _ => hstop) (.stop isGap_nil hstop hnone)
  | @part gap source rest _ fragment later hgap hnext hsource hend hrest =>
      refine ⟨gap, hgap, ?_⟩
      by_cases hkind : fragment.production = .words
      · right
        obtain ⟨rfl, hsourceOpen⟩ := hsource.eq_words hkind
        refine ⟨source, later, rest, rfl, rfl, hnext, hsource.ne_nil,
          hsourceOpen, ?_⟩
        have htext : run ++ (gap ++ (source ++ rest)) =
            [] ++ ((run ++ (gap ++ source)) ++ rest) := by
          simp
        rw [htext]
        exact .part isGap_nil (hstart _)
          (hwords _ (List.forall_mem_append.mpr ⟨hgapOpen gap hgap, hsourceOpen⟩))
            hend hrest
      · left
        have hopening : ∀ c, (source ++ rest).head? = some c →
            Fragment.isOpening c = true := by
          intro c hc
          rw [List.head?_append_of_ne_nil _ hsource.ne_nil] at hc
          exact hsource.isOpening_head hkind hc
        refine ⟨?_, by simpa using hkind, source ++ rest, rfl, hopening⟩
        have htext : run ++ (gap ++ (source ++ rest)) =
            [] ++ ((run ++ gap) ++ (source ++ rest)) := by
          simp
        rw [htext]
        exact .part isGap_nil (hstart gap) (hwords gap (hgapOpen gap hgap))
          (fun _ => hopening) (.part isGap_nil hnext hsource hend hrest)

theorem exists_readsAs_source_append {source rest : Text} {fragment : Fragment}
    (hsource : fragment.IsSource source) (hrest : ReadsAs rest parts []) :
    ∃ more, ReadsAs (source ++ rest) more [] := by
  by_cases hkind : fragment.production = .words
  · obtain ⟨_, hopen⟩ := hsource.eq_words hkind
    have hsplit := takeWhile_append_trimStart source
    have hgap := isGap_takeWhile source
    by_cases hnil : source.trimStart = []
    · rw [hnil, List.append_nil] at hsplit
      rw [← hsplit]
      exact ⟨parts, hrest.gap_append hgap⟩
    · have hrun :=
      hrest.run_append hnil (fun c hc => not_isBlank_of_head?_trimStart hc)
        fun c hc => hopen c ((List.dropWhile_sublist _).subset hc)
      rw [← hsplit, List.append_assoc]
      obtain ⟨_, _, ⟨hreads, _⟩ | ⟨_, _, _, _, _, _, _, _, hreads⟩⟩ := hrun
      · exact ⟨_, hreads.gap_append hgap⟩
      · exact ⟨_, hreads.gap_append hgap⟩
  · refine ⟨(source, fragment) :: parts, ?_⟩
    refine .part isGap_nil ?_ hsource (fun heq => absurd heq hkind) hrest
    intro c hc
    exact Fragment.not_isBlank_of_isOpening (hsource.isOpening_head hkind hc)

theorem ReadsAs.isRow (h : ReadsAs text parts []) :
    IsRow (parts.map Prod.snd) text := by
  generalize hunread : ([] : Text) = unread at h
  induction h with
  | stop hgap _ _ =>
      rw [← hunread, List.append_nil]
      exact .nil hgap
  | part hgap _ hsource _ _ ih => exact .cons hgap hsource (ih hunread)

theorem IsRow.exists_readsAs {fragments : List Fragment} (h : IsRow fragments text) :
    ∃ parts, ReadsAs text parts [] := by
  induction h with
  | nil hgap =>
      have hnone : ∀ fragment rest, ¬ Fragment.Begins fragment [] rest := by
        rintro fragment rest ⟨source, hsource, htext, _⟩
        exact hsource.ne_nil (List.append_eq_nil_iff.mp htext.symm).1
      have hstop := ReadsAs.stop hgap (by simp) hnone
      rw [List.append_nil] at hstop
      exact ⟨[], hstop⟩
  | cons hgap hsource _ ih =>
      obtain ⟨parts, hparts⟩ := ih
      obtain ⟨more, hmore⟩ := exists_readsAs_source_append hsource hparts
      exact ⟨more, hmore.gap_append hgap⟩

/-- A template is read to its end exactly if it is a row of fragments with
gaps around them. -/
theorem unread_eq_nil_iff :
    (Reading.ofTemplate text).unread = [] ↔ ∃ fragments, IsRow fragments text := by
  constructor
  · intro h
    exact ⟨_, (readsAs_iff.mpr ⟨rfl, h⟩).isRow⟩
  · rintro ⟨fragments, hrow⟩
    obtain ⟨parts, hparts⟩ := hrow.exists_readsAs
    exact (readsAs_iff.mp hparts).2

end Template

end UtteranceTemplate
