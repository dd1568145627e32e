import UtteranceTemplate.Proofs.Drafting
import UtteranceTemplate.Proofs.Outcomes
import UtteranceTemplate.Proofs.TemplateReading

/-!
What compiling a template comes to.

A fragment offends if it is a typed slot of an unknown type or a slot whose name is
taken by then. Taking in one piece fails exactly if its fragment offends
(`Draft.add_eq_error_iff`), so taking in a row of pieces fails at the first
fragment that does (`Draft.addAll_eq_error_iff`), and whatever is left unread lies
behind all of them.
-/

namespace UtteranceTemplate

open Pattern

def Fragment.binding? : Fragment → Option (Text × Text)
  | .parameter name value => some (name, value)
  | .untypedSlot _ | .typedSlot _ _ | .alternatives _ | .words _ => none

/-- Whether a fragment with its source cannot be taken in behind slots of the given
names, and why. -/
inductive Fragment.Offends (vocabulary : Vocabulary) (template : Text)
    (taken : List Text) :
    Text × Fragment → TemplateError → Prop
  | unknownType {source slot type : Text}
      (hunknown : vocabulary.lookup? type = none) :
      Offends vocabulary template taken (source, .typedSlot slot type)
        (.unknownEntityType type)
  | repeatedSlot {source slot : Text} {fragment : Fragment} {type? : Option Text}
      (hslot : fragment.slot? = some (slot, type?))
      (hknown : ∀ type, type? = some type → vocabulary.lookup? type ≠ none)
        (htaken : slot ∈ taken) :
      Offends vocabulary template taken (source, fragment)
        (.repeatedSlot slot source template)

namespace Template

/-- The slots that a row of fragments declares, each with its entity type if
it has one. -/
def slotsOf (parts : List (Text × Fragment)) : List (Text × Option Text) :=
  parts.filterMap fun part => part.2.slot?

def slotNames (parts : List (Text × Fragment)) : List Text :=
  (slotsOf parts).map Prod.fst

def bindingsOf (parts : List (Text × Fragment)) : List (Text × Text) :=
  parts.filterMap fun part => part.2.binding?

def tokensOf (vocabulary : Vocabulary)
    (parts : List (Text × Fragment)) : List Token :=
  parts.flatMap fun part => part.2.tokens vocabulary

/-- Whether no fragment of a row offends, if the slots of the given names
come before it. -/
def NoneOffends (vocabulary : Vocabulary) (template : Text) (taken : List Text)
    (parts : List (Text × Fragment)) : Prop :=
  ∀ before part after error, parts = before ++ part :: after →
    ¬ Fragment.Offends vocabulary template (taken ++ slotNames before) part error

/-- Whether an error is that of the first fragment of a row that offends. -/
def FirstOffence (vocabulary : Vocabulary) (template : Text) (taken : List Text)
    (parts : List (Text × Fragment)) (error : TemplateError) : Prop :=
  ∃ before part after, parts = before ++ part :: after ∧
    NoneOffends vocabulary template taken before ∧
      Fragment.Offends vocabulary template (taken ++ slotNames before) part error

end Template

open Template

variable {vocabulary : Vocabulary} {template : Text} {taken : List Text}
  {parts : List (Text × Fragment)} {part : Text × Fragment} {error : TemplateError}

namespace Template

theorem slotNames_nil : slotNames [] = [] := rfl

theorem slotNames_append (before after : List (Text × Fragment)) :
    slotNames (before ++ after) = slotNames before ++ slotNames after := by
  rw [slotNames, slotsOf, List.filterMap_append, List.map_append]
  rfl

theorem slotNames_cons (part : Text × Fragment) (parts : List (Text × Fragment)) :
    slotNames (part :: parts) = slotNames [part] ++ slotNames parts :=
  slotNames_append [part] parts

theorem noneOffends_nil : NoneOffends vocabulary template taken [] := by
  intro before part after error hsplit
  simp at hsplit

theorem noneOffends_cons :
    NoneOffends vocabulary template taken (part :: parts) ↔
      (∀ error, ¬ Fragment.Offends vocabulary template taken part error) ∧
        NoneOffends vocabulary template (taken ++ slotNames [part]) parts := by
  constructor
  · intro h
    constructor
    · intro error
      have hhere := h [] part parts error rfl
      rwa [slotNames_nil, List.append_nil] at hhere
    · intro before next after error hsplit
      rw [List.append_assoc, ← slotNames_cons]
      apply h (part :: before) next after error
      rw [hsplit, List.cons_append]
  · rintro ⟨hhere, hrest⟩ before next after error hsplit
    cases before with
    | nil =>
        obtain ⟨rfl, rfl⟩ := List.cons.inj hsplit
        rw [slotNames_nil, List.append_nil]
        exact hhere error
    | cons first before =>
        obtain ⟨rfl, hparts⟩ := List.cons.inj hsplit
        rw [slotNames_cons, ← List.append_assoc]
        exact hrest before next after error hparts

theorem firstOffence_cons :
    FirstOffence vocabulary template taken (part :: parts) error ↔
      Fragment.Offends vocabulary template taken part error ∨
        (∀ error', ¬ Fragment.Offends vocabulary template taken part error') ∧
          FirstOffence vocabulary template
            (taken ++ slotNames [part]) parts error := by
  constructor
  · rintro ⟨before, next, after, hsplit, hnone, hoffends⟩
    cases before with
    | nil =>
        obtain ⟨rfl, rfl⟩ := List.cons.inj hsplit
        rw [slotNames_nil, List.append_nil] at hoffends
        exact Or.inl hoffends
    | cons first before =>
        obtain ⟨rfl, hparts⟩ := List.cons.inj hsplit
        obtain ⟨hhere, hbefore⟩ := noneOffends_cons.mp hnone
        rw [slotNames_cons, ← List.append_assoc] at hoffends
        exact Or.inr ⟨hhere, before, next, after, hparts, hbefore, hoffends⟩
  · rintro (hoffends | ⟨hhere, before, next, after, rfl, hnone, hoffends⟩)
    · refine ⟨[], part, parts, rfl, noneOffends_nil, ?_⟩
      rw [slotNames_nil, List.append_nil]
      exact hoffends
    · refine ⟨part :: before, next, after, rfl,
        noneOffends_cons.mpr ⟨hhere, hnone⟩, ?_⟩
      rw [slotNames_cons, ← List.append_assoc]
      exact hoffends

end Template

namespace Draft

variable {draft next : Draft} {piece : Piece}

theorem declare_eq_error_iff {slot : Text} :
    draft.declare template piece slot = .error error ↔
      slot ∈ draft.slots ∧ error = .repeatedSlot slot piece.source template := by
  by_cases hmem : slot ∈ draft.slots
  · simp [declare, hmem, eq_comm]
  · simp [declare, hmem]

/-- A piece cannot be taken in exactly if its fragment offends. -/
theorem add_eq_error_iff :
    draft.add vocabulary template piece = .error error ↔
      Fragment.Offends vocabulary template draft.slots piece.part error := by
  unfold add Piece.part
  cases hfragment : piece.fragment with
  | parameter | alternatives | words =>
      constructor
      · rintro ⟨⟩
      · rintro (_ | ⟨⟨⟩, _, _⟩)
  | untypedSlot slot =>
      simp only
      rw [map_eq_error_iff, declare_eq_error_iff]
      constructor
      · rintro ⟨hmem, rfl⟩
        exact .repeatedSlot rfl (by simp) hmem
      · rintro (_ | ⟨hslot, _, htaken⟩)
        cases hslot
        exact ⟨htaken, rfl⟩
  | typedSlot slot type =>
      simp only
      cases hlookup : vocabulary.lookup? type with
      | none =>
          constructor
          · rintro ⟨⟩
            exact .unknownType hlookup
          · rintro (_ | ⟨hslot, hknown, _⟩)
            · rfl
            · cases hslot
              exact absurd hlookup (hknown type rfl)
      | some phrases =>
          simp only
          rw [map_eq_error_iff, declare_eq_error_iff]
          constructor
          · rintro ⟨hmem, rfl⟩
            refine .repeatedSlot rfl ?_ hmem
            rintro _ ⟨⟩
            simp [hlookup]
          · rintro (hunknown | ⟨hslot, _, htaken⟩)
            · rw [hlookup] at hunknown
              cases hunknown
            · cases hslot
              exact ⟨htaken, rfl⟩

/-- A piece that is taken in declares the slot and binds the parameter of its
fragment, and no others. -/
theorem declares_of_add (h : draft.add vocabulary template piece = .ok next) :
    next.slots = draft.slots ++ slotNames [piece.part] ∧
      next.parameters = draft.parameters.putAll (bindingsOf [piece.part]) := by
  unfold add at h
  simp only [slotNames, slotsOf, bindingsOf, Piece.part]
  cases hfragment : piece.fragment with
  | parameter | alternatives | words =>
      simp only [hfragment, Except.ok.injEq] at h
      subst h
      simp [Fragment.slot?, Fragment.binding?, Entries.putAll]
  | untypedSlot slot =>
      simp only [hfragment] at h
      cases hdeclare : draft.declare template piece slot with
      | error error => rw [hdeclare] at h; cases h
      | ok declared =>
          obtain ⟨_, rfl⟩ := declare_eq_ok hdeclare
          rw [hdeclare] at h
          cases h
          simp [Fragment.slot?, Fragment.binding?, Entries.putAll]
  | typedSlot slot type =>
      simp only [hfragment] at h
      cases hlookup : vocabulary.lookup? type with
      | none => rw [hlookup] at h; cases h
      | some phrases =>
          rw [hlookup] at h
          cases hdeclare : draft.declare template piece slot with
          | error error => simp only [hdeclare] at h; cases h
          | ok declared =>
              obtain ⟨_, rfl⟩ := declare_eq_ok hdeclare
              simp only [hdeclare] at h
              cases h
              simp [Fragment.slot?, Fragment.binding?, Entries.putAll]

theorem not_offends_of_add (h : draft.add vocabulary template piece = .ok next)
    (error : TemplateError) :
    ¬ Fragment.Offends vocabulary template draft.slots piece.part error := by
  rw [← add_eq_error_iff, h]
  rintro ⟨⟩

/-- Taking in a row of pieces fails exactly at the first fragment that offends. -/
theorem addAll_eq_error_iff {pieces : List Piece} :
    draft.addAll vocabulary template pieces = .error error ↔
      FirstOffence vocabulary template draft.slots
        (pieces.map Piece.part) error := by
  induction pieces generalizing draft with
  | nil =>
      constructor
      · rintro ⟨⟩
      · rintro ⟨before, part, after, hsplit, _⟩
        simp at hsplit
  | cons piece rest ih =>
      rw [List.map_cons, firstOffence_cons, addAll]
      cases hadd : draft.add vocabulary template piece with
      | error found =>
          have hoffends := add_eq_error_iff.mp hadd
          rw [← add_eq_error_iff, hadd]
          constructor
          · exact Or.inl
          · rintro (heq | ⟨hnone, _⟩)
            · exact heq
            · exact absurd hoffends (hnone found)
      | ok next =>
          have hnone := not_offends_of_add hadd
          simp only [ih, (declares_of_add hadd).1]
          constructor
          · intro h
            exact Or.inr ⟨hnone, h⟩
          · rintro (hoffends | ⟨_, h⟩)
            · exact absurd hoffends (hnone error)
            · exact h

/-- A row of pieces is taken in exactly if none of its fragments offends. -/
theorem exists_addAll_iff {pieces : List Piece} :
    (∃ next, draft.addAll vocabulary template pieces = .ok next) ↔
      NoneOffends vocabulary template draft.slots (pieces.map Piece.part) := by
  induction pieces generalizing draft with
  | nil => exact ⟨fun _ => noneOffends_nil, fun _ => ⟨draft, rfl⟩⟩
  | cons piece rest ih =>
      rw [List.map_cons, noneOffends_cons, addAll]
      cases hadd : draft.add vocabulary template piece with
      | error found =>
          have hoffends := add_eq_error_iff.mp hadd
          constructor
          · rintro ⟨_, ⟨⟩⟩
          · rintro ⟨hnone, _⟩
            exact absurd hoffends (hnone found)
      | ok next =>
          simp only [ih, (declares_of_add hadd).1]
          exact ⟨fun h => ⟨not_offends_of_add hadd, h⟩, And.right⟩

theorem parameters_of_addAll {pieces : List Piece}
    (h : draft.addAll vocabulary template pieces = .ok next) :
    next.parameters =
      draft.parameters.putAll (bindingsOf (pieces.map Piece.part)) := by
  induction pieces generalizing draft with
  | nil =>
      cases h
      rfl
  | cons piece rest ih =>
      unfold addAll at h
      cases hadd : draft.add vocabulary template piece with
      | error error => rw [hadd] at h; cases h
      | ok draft' =>
          rw [hadd] at h
          have hsplit : bindingsOf ((piece :: rest).map Piece.part) =
              bindingsOf [piece.part] ++ bindingsOf (rest.map Piece.part) := by
            rw [List.map_cons, ← List.singleton_append, bindingsOf,
              List.filterMap_append]
            rfl
          rw [ih h, (declares_of_add hadd).2, hsplit, Entries.putAll, Entries.putAll,
            Entries.putAll, List.foldl_append]

end Draft

/-- What a matcher compiled from a row of fragments consists of. -/
structure Matcher.IsMadeOf (vocabulary : Vocabulary) (template : Text)
    (parts : List (Text × Fragment)) (matcher : Matcher) : Prop where
  template : matcher.template = template
  slots : matcher.slots = slotNames parts
  slotTypes : matcher.slotTypes = typedEntries (slotsOf parts)
  parameters : matcher.parameters = Entries.ofPairs (bindingsOf parts)
  pattern :
    matcher.pattern = Token.textOf (Token.resolveBraces (tokensOf vocabulary parts))

namespace Template

/-- What is left unread begins with a character that is not blank, so only its
end is trimmed. -/
theorem trim_unread (template : Text) :
    (Reading.ofTemplate template).unread.trim =
      (Reading.ofTemplate template).unread.trimEnd := by
  have hreads :=
    readsAs_iff.mpr ⟨(rfl : (Reading.ofTemplate template).parts = _), rfl⟩
  generalize (Reading.ofTemplate template).parts = parts at hreads
  generalize (Reading.ofTemplate template).unread = unread at hreads
  induction hreads with
  | stop _ hhead _ =>
      rw [Text.trim, Text.trimStart_eq_self]
      intro c hc
      exact Fragment.not_isBlank_of_isOpening (hhead c hc)
  | part _ _ _ _ _ ih => exact ih

theorem compile_eq_error_iff :
    compile vocabulary template = .error error ↔
      FirstOffence vocabulary template [] (Reading.ofTemplate template).parts error ∨
        NoneOffends vocabulary template [] (Reading.ofTemplate template).parts ∧
          (Reading.ofTemplate template).unread ≠ [] ∧
            error =
              .malformed (Reading.ofTemplate template).unread.trimEnd template := by
  have hok := @Draft.exists_addAll_iff vocabulary template {}
    (Reading.ofTemplate template).pieces
  have herror := @Draft.addAll_eq_error_iff vocabulary template error {}
    (Reading.ofTemplate template).pieces
  rw [Reading.parts, ← hok, ← herror, ← trim_unread, compile]
  cases hadd :
    Draft.addAll vocabulary template {} (Reading.ofTemplate template).pieces with
  | error found => simp
  | ok draft =>
      by_cases hunread : (Reading.ofTemplate template).unread = []
      · simp [hunread]
      · simpa [hunread] using eq_comm

theorem exists_compile_iff :
    (∃ matcher, compile vocabulary template = .ok matcher) ↔
      NoneOffends vocabulary template [] (Reading.ofTemplate template).parts ∧
        (Reading.ofTemplate template).unread = [] := by
  have hok := @Draft.exists_addAll_iff vocabulary template {}
    (Reading.ofTemplate template).pieces
  rw [Reading.parts, ← hok, compile]
  cases hadd :
    Draft.addAll vocabulary template {} (Reading.ofTemplate template).pieces with
  | error found => simp
  | ok draft =>
      by_cases hunread : (Reading.ofTemplate template).unread = []
      · simp [hunread]
      · simp [hunread]

/-- A template that compiles is read to its end, none of its fragments offends, and
its matcher is made of them. -/
theorem isMadeOf_of_compile {matcher : Matcher}
    (h : compile vocabulary template = .ok matcher) :
    ReadsAs template (Reading.ofTemplate template).parts [] ∧
      NoneOffends vocabulary template [] (Reading.ofTemplate template).parts ∧
        matcher.IsMadeOf vocabulary template
          (Reading.ofTemplate template).parts := by
  obtain ⟨hnone, hunread⟩ := exists_compile_iff.mp ⟨matcher, h⟩
  refine ⟨readsAs_iff.mpr ⟨rfl, hunread⟩, hnone, ?_⟩
  unfold compile at h
  cases hadd :
    Draft.addAll vocabulary template {} (Reading.ofTemplate template).pieces with
  | error error => simp only [hadd] at h; cases h
  | ok draft =>
      simp only [hadd, hunread, List.isEmpty_nil, if_true, Except.ok.injEq] at h
      subst h
      have hholds := (Draft.holds_nil vocabulary).addAll hadd
      have hfragments : (Reading.ofTemplate template).pieces.map Piece.fragment =
          (Reading.ofTemplate template).parts.map Prod.snd := by
        rw [Reading.parts, List.map_map]
        rfl
      rw [List.nil_append, hfragments] at hholds
      have hslots : ((Reading.ofTemplate template).parts.map Prod.snd).filterMap
          Fragment.slot? =
          slotsOf (Reading.ofTemplate template).parts := List.filterMap_map
      refine ⟨rfl, ?_, ?_, Draft.parameters_of_addAll hadd, ?_⟩
      · rw [slotNames, ← hslots]
        exact hholds.slots
      · rw [← hslots]
        exact hholds.slotTypes
      · have htokens : draft.tokens =
            tokensOf vocabulary (Reading.ofTemplate template).parts := by
          rw [hholds.tokens, List.flatMap_map]
          rfl
        rw [← htokens]
        rfl

/-- Compiling is decided by the first fragment of the only reading that offends, and
by where the reading ends. The reading does not depend on the order in which the
kinds of fragments are tried, and it ends early for no row of fragments. -/
theorem compile_decided_by_leftmost (vocabulary : Vocabulary) (template : Text) :
    (∀ production text fragment rest,
      Production.read? production text = some (fragment, rest) ↔
      fragment.production = production ∧ fragment.Begins text rest) ∧
    (∀ text rest rest' fragment fragment', Fragment.Begins fragment text rest →
      Fragment.Begins fragment' text rest' → fragment = fragment' ∧ rest = rest') ∧
    (∀ order : List Production, (∀ production, production ∈ order) →
      ∀ text, order.findSome? (·.read? text) = Fragment.read? text) ∧
    ∃ parts unread, ReadsAs template parts unread ∧
      (∀ parts' unread', ReadsAs template parts' unread' →
        parts' = parts ∧ unread' = unread) ∧
      (unread = [] ↔ ∃ fragments, IsRow fragments template) ∧
      ((∃ matcher, compile vocabulary template = .ok matcher) ↔
        NoneOffends vocabulary template [] parts ∧ unread = []) ∧
      ∀ error, compile vocabulary template = .error error ↔
        FirstOffence vocabulary template [] parts error ∨
          NoneOffends vocabulary template [] parts ∧ unread ≠ [] ∧
            error = .malformed unread.trimEnd template := by
  refine ⟨fun _ _ _ _ => Production.read?_eq_some_iff,
    fun _ _ _ _ _ h h' => h.unique h',
    fun _ horder => Production.findSome?_read? horder,
    (Reading.ofTemplate template).parts,
    (Reading.ofTemplate template).unread, readsAs_iff.mpr ⟨rfl, rfl⟩, ?_,
    unread_eq_nil_iff, exists_compile_iff, fun _ => compile_eq_error_iff⟩
  intro parts' unread' hreads
  obtain ⟨hparts, hunread⟩ := readsAs_iff.mp hreads
  exact ⟨hparts.symm, hunread.symm⟩

end Template

end UtteranceTemplate
