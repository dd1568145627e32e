import UtteranceTemplate.Proofs.OptionalText
import UtteranceTemplate.Proofs.ParameterBindings
import UtteranceTemplate.Proofs.QuotedTexts

/-!
The pieces that compiling takes up, which are what its trace shows.

The pieces of a reading stand in the template one behind the other, with blanks in
front of each of them and behind the last (`Template.Chain`). Taking them in stops
behind the first one that offends, so the pieces taken up are all of them, or end
with that one. Whatever compiling comes to, the part of a template that it went
through is made of the traced pieces and of blanks (`Template.trace_loses_nothing`).
The line of a piece tells the kind of its fragment, its position and its text
(`Template.pieceLine_inj`).
-/

namespace UtteranceTemplate

open Text

namespace Piece

def stop (piece : Piece) : Nat := piece.position + piece.source.length

/-- Whether the source of a piece stands in a template at the piece's position, as
what its fragment is read from there. -/
def StandsIn (template : Text) (piece : Piece) : Prop :=
  ∃ front rest, template = front ++ (piece.source ++ rest) ∧
    front.length = piece.position ∧ piece.fragment.Begins (piece.source ++ rest) rest

end Piece

namespace Template

/-- Whether the template before a position is made of the pieces and of blanks. -/
structure CoversUpTo (template : Text) (pieces : List Piece)
    (stop : Nat) : Prop where
  within : ∀ piece ∈ pieces, piece.stop ≤ stop
  covers : ∀ (i : Nat) (c : CodePoint), i < stop → template[i]? = some c →
    isBlank c = true ∨ ∃ piece ∈ pieces, piece.position ≤ i ∧ i < piece.stop

/-- Whether pieces stand in a template one behind the other, with nothing but blanks
in front of any of them that is not in one of the others. -/
structure LieIn (template : Text) (pieces : List Piece) : Prop where
  stands : ∀ piece ∈ pieces, piece.source ≠ [] ∧ piece.StandsIn template
  increasing : pieces.Pairwise fun piece next => piece.position < next.position
  apart : pieces.Pairwise fun piece next => piece.stop ≤ next.position
  gaps : ∀ before piece after, pieces = before ++ piece :: after →
    CoversUpTo template before piece.position

/-- Where the pieces that compiling takes up end, by what it comes to. -/
inductive EndsBy (vocabulary : Vocabulary) (template : Text) (pieces : List Piece) :
    Except TemplateError Matcher → Prop
  /-- A matcher: nothing but blanks is left. -/
  | finished {matcher : Matcher}
      (hcovers : CoversUpTo template pieces template.length) :
      EndsBy vocabulary template pieces (.ok matcher)
  /-- No fragment begins where the reported text does. -/
  | unread {front fragment gap : Text}
      (htemplate : template = front ++ (fragment ++ gap))
      (hne : fragment ≠ []) (hgap : IsGap gap)
      (hnone : ∀ other rest, ¬ Fragment.Begins other (fragment ++ gap) rest)
      (hcovers : CoversUpTo template pieces front.length) :
      EndsBy vocabulary template pieces (.error (.malformed fragment template))
  /-- The last piece is the first one that offends. -/
  | offended {before : List Piece} {last : Piece} {error : TemplateError}
      (hpieces : pieces = before ++ [last])
      (hnone : NoneOffends vocabulary template [] (before.map Piece.part))
      (hoffends : Fragment.Offends vocabulary template
        (slotNames (before.map Piece.part)) last.part error) :
      EndsBy vocabulary template pieces (.error error)

/-- Whether a template has only blanks between two positions. -/
def IsBlankBetween (template : Text) (start stop : Nat) : Prop :=
  ∀ (i : Nat) (c : CodePoint), start ≤ i → i < stop → template[i]? = some c →
    isBlank c = true

/-- Whether the template between two positions is a row of pieces with gaps
around them. -/
inductive Chain (template : Text) : Nat → List Piece → Nat → Prop
  | nil {start stop : Nat} (hle : start ≤ stop)
      (hblank : IsBlankBetween template start stop) :
      Chain template start [] stop
  | cons {start stop : Nat} {piece : Piece} {pieces : List Piece}
      (hle : start ≤ piece.position)
      (hblank : IsBlankBetween template start piece.position)
        (hstands : piece.StandsIn template)
      (hrest : Chain template piece.stop pieces stop) :
        Chain template start (piece :: pieces) stop

end Template

theorem Piece.StandsIn.source_ne_nil {template : Text} {piece : Piece}
    (h : piece.StandsIn template) :
    piece.source ≠ [] := by
  obtain ⟨_, rest, _, _, source, hsource, htext, _⟩ := h
  rw [List.append_cancel_right htext]
  exact hsource.ne_nil

theorem Piece.StandsIn.position_lt_stop {template : Text} {piece : Piece}
    (h : piece.StandsIn template) : piece.position < piece.stop := by
  have hlength := List.length_pos_iff.mpr h.source_ne_nil
  rw [stop]
  omega

namespace Template

variable {template text unread : Text} {parts : List (Text × Fragment)}
  {pieces before after : List Piece} {piece : Piece} {start stop : Nat}

theorem isBlankBetween_gap (lead : Text) {gap : Text} (hgap : IsGap gap)
    (rest : Text) :
    IsBlankBetween (lead ++ (gap ++ rest)) lead.length
      (lead.length + gap.length) := by
  intro i c hle hlt hc
  rw [List.getElem?_append_right hle, List.getElem?_append_left (by omega)] at hc
  exact hgap c (List.mem_of_getElem? hc)

namespace Chain

theorem start_le_stop (h : Chain template start pieces stop) : start ≤ stop := by
  induction h with
  | nil hle _ => exact hle
  | cons hle _ hstands _ ih =>
      have hlt := hstands.position_lt_stop
      omega

theorem standsIn (h : Chain template start pieces stop) :
    ∀ piece ∈ pieces, piece.StandsIn template := by
  induction h with
  | nil => exact List.forall_mem_nil _
  | cons _ _ hstands _ ih => exact List.forall_mem_cons.mpr ⟨hstands, ih⟩

theorem start_le_position (h : Chain template start pieces stop) :
    ∀ piece ∈ pieces, start ≤ piece.position := by
  induction h with
  | nil => exact List.forall_mem_nil _
  | cons hle _ hstands _ ih =>
      have hlt := hstands.position_lt_stop
      refine List.forall_mem_cons.mpr ⟨hle, fun piece hpiece => ?_⟩
      have hfrom := ih piece hpiece
      omega

theorem apart (h : Chain template start pieces stop) :
    pieces.Pairwise fun piece next => piece.stop ≤ next.position := by
  induction h with
  | nil => exact List.Pairwise.nil
  | cons _ _ _ hrest ih => exact List.pairwise_cons.mpr ⟨hrest.start_le_position, ih⟩

theorem increasing (h : Chain template start pieces stop) :
    pieces.Pairwise fun piece next => piece.position < next.position := by
  apply List.Pairwise.imp_of_mem _ h.apart
  intro piece next hpiece _ hle
  exact Nat.lt_of_lt_of_le (h.standsIn piece hpiece).position_lt_stop hle

/-- In front of a piece there is a chain of those before it. -/
theorem of_append_cons (h : Chain template start (before ++ piece :: after) stop) :
    Chain template start before piece.position := by
  induction before generalizing start with
  | nil =>
      cases h with
      | cons hle hblank _ _ => exact .nil hle hblank
  | cons first before ih =>
      cases h with
      | cons hle hblank hstands hrest => exact .cons hle hblank hstands (ih hrest)

theorem stop_le (h : Chain template start pieces stop) :
    ∀ piece ∈ pieces, piece.stop ≤ stop := by
  induction h with
  | nil => exact List.forall_mem_nil _
  | cons _ _ _ hrest ih => exact List.forall_mem_cons.mpr ⟨hrest.start_le_stop, ih⟩

theorem blank_or_mem (h : Chain template start pieces stop) {i : Nat} {c : CodePoint}
    (hle : start ≤ i) (hlt : i < stop) (hc : template[i]? = some c) :
    isBlank c = true ∨ ∃ piece ∈ pieces, piece.position ≤ i ∧ i < piece.stop := by
  induction h with
  | nil _ hblank => exact Or.inl (hblank i c hle hlt hc)
  | @cons start stop piece pieces _ hblank _ _ ih =>
      by_cases hfront : i < piece.position
      · exact Or.inl (hblank i c hle hfront hc)
      · by_cases hpiece : i < piece.stop
        · exact Or.inr ⟨piece, List.mem_cons_self, Nat.le_of_not_lt hfront, hpiece⟩
        · refine (ih (Nat.le_of_not_lt hpiece) hlt).imp id ?_
          rintro ⟨next, hnext, hcovers⟩
          exact ⟨next, List.mem_cons_of_mem piece hnext, hcovers⟩

theorem coversUpTo (h : Chain template 0 pieces stop) :
    CoversUpTo template pieces stop :=
  ⟨h.stop_le, fun _ _ hlt hc => h.blank_or_mem (Nat.zero_le _) hlt hc⟩

/-- The first pieces of a chain lie in the template, however many they are. -/
theorem lieIn (h : Chain template 0 (before ++ after) stop) :
    LieIn template before := by
  have hstands : ∀ piece ∈ before, piece.StandsIn template := fun piece hpiece =>
    h.standsIn piece (List.mem_append_left after hpiece)
  refine ⟨fun piece hpiece =>
    ⟨(hstands piece hpiece).source_ne_nil, hstands piece hpiece⟩,
    (List.pairwise_append.mp h.increasing).1,
      (List.pairwise_append.mp h.apart).1, ?_⟩
  rintro front piece rest rfl
  rw [List.append_assoc, List.cons_append] at h
  exact h.of_append_cons.coversUpTo

end Chain

/-- The pieces of a reading make a chain up to where it ends. -/
theorem ReadsAs.exists_chain (h : ReadsAs text parts unread) (lead : Text) :
    ∃ front, lead ++ text = front ++ unread ∧
      Chain (lead ++ text) lead.length (Reading.ofEnding lead.length text).pieces
        front.length := by
  induction h generalizing lead with
  | @stop gap unread hgap hhead hnone =>
      have hstop := ReadsAs.stop hgap hhead hnone
      have hpieces : (Reading.ofEnding lead.length (gap ++ unread)).pieces = [] :=
        List.map_eq_nil_iff.mp (hstop.eq_ofEnding lead.length).1
      refine ⟨lead ++ gap, (List.append_assoc _ _ _).symm, ?_⟩
      rw [hpieces, List.length_append]
      exact .nil (Nat.le_add_right _ _) (isBlankBetween_gap lead hgap unread)
  | @part gap source rest unread fragment parts hgap hhead hsource hend _ ih =>
      obtain ⟨front, hfront, hchain⟩ := ih (lead ++ gap ++ source)
      rw [Reading.pieces_ofEnding_cons lead.length hgap hhead hsource hend]
      simp only [List.append_assoc, List.length_append, ← Nat.add_assoc]
        at hfront hchain
      refine ⟨front, hfront,
        .cons (Nat.le_add_right _ _) (isBlankBetween_gap lead hgap _) ?_ hchain⟩
      exact ⟨lead ++ gap, rest, (List.append_assoc _ _ _).symm, List.length_append,
        source, hsource, rfl, hend⟩

theorem exists_chain (template : Text) :
    ∃ front, template = front ++ (Reading.ofTemplate template).unread ∧
      Chain template 0 (Reading.ofTemplate template).pieces front.length :=
  (readsAs_ofTemplate template).exists_chain []

end Template

namespace Draft

variable {vocabulary : Vocabulary} {template : Text} {draft next : Draft}
  {pieces : List Piece} {error : TemplateError}

theorem tried_of_addAll_eq_ok
    (h : draft.addAll vocabulary template pieces = .ok next) :
    draft.tried vocabulary template pieces = pieces := by
  induction pieces generalizing draft with
  | nil => rfl
  | cons piece rest ih =>
      unfold addAll at h
      rw [tried]
      cases hadd : draft.add vocabulary template piece with
      | error found => rw [hadd] at h; cases h
      | ok draft' =>
          rw [hadd] at h
          exact congrArg (piece :: ·) (ih h)

/-- If taking in a row of pieces fails, the last piece that is tried is the first
one that offends. -/
theorem exists_tried_of_addAll_eq_error
    (h : draft.addAll vocabulary template pieces = .error error) :
    ∃ before last after, pieces = before ++ last :: after ∧
      draft.tried vocabulary template pieces = before ++ [last] ∧
      Template.NoneOffends vocabulary template draft.slots (before.map Piece.part) ∧
      Fragment.Offends vocabulary template
        (draft.slots ++ Template.slotNames (before.map Piece.part))
          last.part error := by
  induction pieces generalizing draft with
  | nil => cases h
  | cons piece rest ih =>
      unfold addAll at h
      rw [tried]
      cases hadd : draft.add vocabulary template piece with
      | error found =>
          rw [hadd] at h
          obtain rfl := Except.error.inj h
          refine ⟨[], piece, rest, rfl, rfl, Template.noneOffends_nil, ?_⟩
          rw [List.map_nil, Template.slotNames_nil, List.append_nil]
          exact add_eq_error_iff.mp hadd
      | ok draft' =>
          rw [hadd] at h
          obtain ⟨before, last, after, rfl, htried, hnone, hoffends⟩ := ih h
          rw [(declares_of_add hadd).1] at hnone hoffends
          refine ⟨piece :: before, last, after, rfl, congrArg (piece :: ·) htried,
            Template.noneOffends_cons.mpr ⟨not_offends_of_add hadd, hnone⟩, ?_⟩
          rw [List.map_cons, Template.slotNames_cons, ← List.append_assoc]
          exact hoffends

end Draft

namespace UncheckedVocabulary

variable {given : UncheckedVocabulary} {template : Text} {fault : GivenFault}
  {taken : List Piece}

/-- The pieces of a template that compiling takes up, in order: all that can be read,
or those up to the first one that cannot be taken in. -/
def tracedPieces (given : UncheckedVocabulary) (template : Text) : List Piece :=
  match given.faultIn? template with
  | some (pieces, _) => pieces
  | none => Template.tracedPieces given.textual template

/-- Pieces up to the first one with a fault in its phrases are the first pieces, and
all but the last one are without a fault. -/
theorem exists_of_faultAmong?_eq_some {draft : Draft} {pieces : List Piece}
    (h : given.faultAmong? template draft pieces = some (taken, fault)) :
    ∃ before last after slot type, pieces = before ++ last :: after ∧
      taken = before ++ [last] ∧ (∀ piece ∈ before, given.pieceFault? piece = none) ∧
      last.fragment = .typedSlot slot type ∧ given.fault? type = some fault := by
  induction pieces generalizing draft taken with
  | nil => cases h
  | cons piece rest ih =>
      unfold faultAmong? at h
      cases hadd : draft.add given.textual template piece with
      | error error => rw [hadd] at h; cases h
      | ok draft' =>
          simp only [hadd] at h
          cases hpiece : given.pieceFault? piece with
          | some found =>
              simp only [hpiece, Option.some.injEq, Prod.mk.injEq] at h
              obtain ⟨rfl, rfl⟩ := h
              unfold pieceFault? at hpiece
              split at hpiece
              · rename_i slot type hfragment
                exact ⟨[], piece, rest, slot, type, rfl, rfl, by
                  simp, hfragment, hpiece⟩
              · cases hpiece
          | none =>
              simp only [hpiece] at h
              obtain ⟨⟨more, _⟩, hmore, heq⟩ := Option.map_eq_some_iff.mp h
              obtain ⟨rfl, rfl⟩ := Prod.mk.inj heq
              obtain ⟨before, last, after, slot, type, rfl, rfl, hnone,
                hlast⟩ := ih hmore
              exact ⟨piece :: before, last, after, slot, type, rfl, rfl,
                List.forall_mem_cons.mpr ⟨hpiece, hnone⟩, hlast⟩

end UncheckedVocabulary

namespace Template

variable {vocabulary : Vocabulary} {template : Text}

theorem exists_tracedPieces_append (vocabulary : Vocabulary) (template : Text) :
    ∃ after, (Reading.ofTemplate template).pieces =
      tracedPieces vocabulary template ++ after := by
  cases hadd :
    Draft.addAll vocabulary template {} (Reading.ofTemplate template).pieces with
  | ok draft => exact ⟨[], by
      rw [tracedPieces, Draft.tried_of_addAll_eq_ok hadd, List.append_nil]⟩
  | error error =>
      obtain ⟨before, last, after, hpieces, htried, _⟩ :=
        Draft.exists_tried_of_addAll_eq_error hadd
      exact ⟨after, by rw [tracedPieces, htried, hpieces, List.append_cons]⟩

theorem lieIn_of_pieces_eq_append {pieces after : List Piece}
    (h : (Reading.ofTemplate template).pieces = pieces ++ after) :
    LieIn template pieces := by
  obtain ⟨front, _, hchain⟩ := exists_chain template
  rw [h] at hchain
  exact hchain.lieIn

/-- What is left unread is the reported text and a gap, and no fragment
begins there. -/
theorem exists_unread_eq (h : (Reading.ofTemplate template).unread ≠ []) :
    ∃ gap, IsGap gap ∧
      (Reading.ofTemplate template).unread =
        (Reading.ofTemplate template).unread.trim ++ gap ∧
      (Reading.ofTemplate template).unread.trim ≠ [] := by
  obtain ⟨gap, hgap, htext⟩ :=
    exists_gap_of_trimEnd (Reading.ofTemplate template).unread
  rw [trim_unread]
  refine ⟨gap, hgap, htext, fun hnil => ?_⟩
  obtain ⟨c, rest, hcons⟩ := List.exists_cons_of_ne_nil h
  have hopening : Fragment.isOpening c = true :=
    Fragment.isOpening_of_not_begins (readsAs_ofTemplate template).not_begins
      (by rw [hcons]; rfl)
  have hblank : isBlank c = true := by
    rw [hnil, hcons, List.nil_append] at htext
    exact hgap c (htext ▸ List.mem_cons_self)
  rw [Fragment.not_isBlank_of_isOpening hopening] at hblank
  cases hblank

theorem endsBy_tracedPieces (vocabulary : Vocabulary) (template : Text) :
    EndsBy vocabulary template (tracedPieces vocabulary template)
      (compile vocabulary template) := by
  obtain ⟨front, hfront, hchain⟩ := exists_chain template
  have hcovers := hchain.coversUpTo
  rw [tracedPieces, compile]
  cases hadd :
    Draft.addAll vocabulary template {} (Reading.ofTemplate template).pieces with
  | error error =>
      obtain ⟨before, last, after, _, htried, hnone, hoffends⟩ :=
        Draft.exists_tried_of_addAll_eq_error hadd
      rw [htried]
      exact .offended rfl hnone hoffends
  | ok draft =>
      rw [Draft.tried_of_addAll_eq_ok hadd]
      by_cases hunread : (Reading.ofTemplate template).unread = []
      · rw [hunread, List.append_nil] at hfront
        simp only [hunread, List.isEmpty_nil, if_true]
        exact .finished (hfront ▸ hcovers)
      · obtain ⟨gap, hgap, htext, hne⟩ := exists_unread_eq hunread
        have hnone := (readsAs_ofTemplate template).not_begins
        rw [htext] at hnone hfront
        simp only [List.isEmpty_iff, hunread, if_false]
        exact .unread hfront hne hgap hnone hcovers

end Template

namespace UncheckedVocabulary

/-- Where compiling against a vocabulary that was taken as it was given ends: behind
a typed slot whose phrases have a fault, or where compiling against the vocabulary of
its texts does. -/
theorem endsBy_tracedPieces (given : UncheckedVocabulary) (template : Text) :
    (∃ fault before last slot type, given.compile template = .error (.phrase fault) ∧
        given.tracedPieces template = before ++ [last] ∧
        (∀ piece ∈ before, given.pieceFault? piece = none) ∧
        last.fragment = .typedSlot slot type ∧ given.fault? type = some fault) ∨
      given.compile template =
        (Template.compile given.textual template).mapError .template ∧
        Template.EndsBy given.textual template (given.tracedPieces template)
          (Template.compile given.textual template) := by
  cases hfault : given.faultIn? template with
  | some found =>
      obtain ⟨taken, fault⟩ := found
      obtain ⟨before, last, _, slot, type, _, htaken, hnone, hfragment, hlast⟩ :=
        exists_of_faultAmong?_eq_some hfault
      refine Or.inl ⟨fault, before, last, slot, type, ?_, ?_, hnone,
        hfragment, hlast⟩
      · rw [compile, hfault]
      · rw [tracedPieces, hfault]
        exact htaken
  | none =>
      refine Or.inr ⟨by rw [compile, hfault], ?_⟩
      rw [tracedPieces, hfault]
      exact Template.endsBy_tracedPieces given.textual template

theorem exists_tracedPieces_append (given : UncheckedVocabulary) (template : Text) :
    ∃ after, (Reading.ofTemplate template).pieces =
      given.tracedPieces template ++ after := by
  cases hfault : given.faultIn? template with
  | some found =>
      obtain ⟨taken, fault⟩ := found
      obtain ⟨before, last, after, _, _, hpieces, htaken, _⟩ :=
        exists_of_faultAmong?_eq_some hfault
      exact ⟨after, by rw [tracedPieces, hfault, hpieces, htaken, List.append_cons]⟩
  | none =>
      rw [tracedPieces, hfault]
      exact Template.exists_tracedPieces_append given.textual template

/-- What is traced are the pieces that compiling takes up, and at the end the
matcher. -/
theorem trace_eq (given : UncheckedVocabulary) (template : Text) :
    given.trace template = (given.tracedPieces template).map Template.pieceLine ++
      match given.compile template with
      | .ok matcher => [Template.matcherLine matcher]
      | .error _ => [] := by
  cases hfault : given.faultIn? template with
  | some found =>
      simp only [trace, tracedPieces, compile, hfault, List.append_nil]
  | none =>
      simp only [trace, tracedPieces, compile, hfault, Template.trace]
      cases Template.compile given.textual template <;> rfl

end UncheckedVocabulary

/-- The name of a production is read off the text that it begins. -/
theorem Production.name_append_inj {production other : Production} {s t : Text}
    (h : production.name.text ++ s = other.name.text ++ t) :
    production = other ∧ s = t := by
  have hhead := congrArg List.head? h
  have hsame : production = other := by
    cases production <;> cases other <;> first
      | rfl
      | simp [Production.name, String.text] at hhead
  subst hsame
  exact ⟨rfl, List.append_cancel_left h⟩

namespace Template

/-- A line of the trace shows the production, the position and the source of
its piece. -/
theorem pieceLine_inj {piece other : Piece} (h : pieceLine piece = pieceLine other) :
    piece.fragment.production = other.fragment.production ∧
      piece.position = other.position ∧ piece.source = other.source := by
  rw [pieceLine, pieceLine] at h
  simp only [List.append_assoc] at h
  obtain ⟨hproduction, hrest⟩ :=
    Production.name_append_inj (List.append_cancel_left h)
  obtain ⟨hposition, hquoted⟩ :=
    Decimal.ofNat_append_inj rfl (List.append_cancel_left hrest)
  exact ⟨hproduction, hposition, quoted_inj (List.cons.inj hquoted).2⟩

/-- The line of a finished matcher shows its template and its pattern. -/
theorem matcherLine_inj {matcher other : Matcher}
    (h : matcherLine matcher = matcherLine other) :
    matcher.template = other.template ∧ matcher.pattern = other.pattern := by
  rw [matcherLine, matcherLine] at h
  simp only [List.append_assoc] at h
  obtain ⟨htemplate, hrest⟩ := quoted_append_inj (List.append_cancel_left h)
  exact ⟨htemplate, quoted_inj (List.append_cancel_left hrest)⟩

end Template

namespace Template

/-- The trace of compiling a template loses and repeats none of it. Its entries
stand in the template one behind the other, each as long as what its fragment is
read from, with nothing but blanks between them, and they end where compiling does:
at the end of the template, where no fragment begins, or with the fragment that
cannot be taken in. -/
theorem trace_loses_nothing :
    (∀ (vocabulary : Vocabulary) (template : Text),
      (trace vocabulary template =
        (tracedPieces vocabulary template).map pieceLine ++
        match compile vocabulary template with
        | .ok matcher => [matcherLine matcher]
        | .error _ => []) ∧
      LieIn template (tracedPieces vocabulary template) ∧
      EndsBy vocabulary template (tracedPieces vocabulary template)
        (compile vocabulary template)) ∧
    ∀ (given : UncheckedVocabulary) (template : Text),
      (given.trace template = (given.tracedPieces template).map pieceLine ++
        match given.compile template with
        | .ok matcher => [matcherLine matcher]
        | .error _ => []) ∧
      LieIn template (given.tracedPieces template) ∧
      ((∃ fault before last slot type,
          given.compile template = .error (.phrase fault) ∧
          given.tracedPieces template = before ++ [last] ∧
          (∀ piece ∈ before, given.pieceFault? piece = none) ∧
          last.fragment = .typedSlot slot type ∧ given.fault? type = some fault) ∨
        given.compile template =
          (compile given.textual template).mapError .template ∧
          EndsBy given.textual template (given.tracedPieces template)
            (compile given.textual template)) := by
  constructor
  · intro vocabulary template
    obtain ⟨after, hpieces⟩ := exists_tracedPieces_append vocabulary template
    exact ⟨rfl, lieIn_of_pieces_eq_append hpieces,
      endsBy_tracedPieces vocabulary template⟩
  · intro given template
    obtain ⟨after, hpieces⟩ := given.exists_tracedPieces_append template
    exact ⟨given.trace_eq template, lieIn_of_pieces_eq_append hpieces,
      given.endsBy_tracedPieces template⟩

example : tracedPieces ⟨[]⟩ " go [x:t] up".text =
    [⟨1, "go ".text, .words "go ".text⟩,
      ⟨4, "[x:t]".text, .typedSlot ['x'] ['t']⟩] := by
  decide +kernel

end Template

end UtteranceTemplate
