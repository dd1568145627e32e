import UtteranceTemplate.Template.Compile

/-!
What a draft holds after any row of fragments, and so what a compiled matcher
is made of.

`Draft.Holds` says it of the slots, the entity types and the tokens, all at once. One
fragment keeps it (`Draft.Holds.add`), a row of pieces keeps it
(`Draft.Holds.addAll`), and a matcher is a finished draft that holds the fragments of
its template (`Template.exists_draft_of_compile`).
-/

namespace UtteranceTemplate

open Pattern

namespace Fragment

/-- The slot that a fragment declares, with its entity type if it has one. -/
def slot? : Fragment → Option (Text × Option Text)
  | .untypedSlot name => some (name, none)
  | .typedSlot name type => some (name, some type)
  | .parameter _ _ | .alternatives _ | .words _ => none

/-- The tokens that a fragment contributes; an unknown entity type counts as one
without phrases. -/
def tokens (vocabulary : Vocabulary) : Fragment → List Token
  | .parameter _ _ => []
  | .untypedSlot _ => untypedTokens
  | .typedSlot _ type => typedTokens ((vocabulary.lookup? type).getD [])
  | .alternatives choices => alternativesTokens choices
  | .words run => wordsTokens run

end Fragment

def typedEntries (slots : List (Text × Option Text)) : Entries Text Text :=
  slots.filterMap fun slot => slot.2.map fun type => (slot.1, type)

namespace Template

/-- The fragments of a template, as far as it can be read. -/
def fragments (template : Text) : List Fragment :=
  (Reading.ofTemplate template).pieces.map Piece.fragment

/-- The slots that a template declares, in order, each with its entity type
if it has one. -/
def slots (template : Text) : List (Text × Option Text) :=
  (fragments template).filterMap Fragment.slot?

end Template

namespace Draft

/-- What a draft consists of when a row of fragments has been taken in. -/
structure Holds (vocabulary : Vocabulary) (fragments : List Fragment)
    (draft : Draft) : Prop where
  slots : draft.slots = (fragments.filterMap Fragment.slot?).map Prod.fst
  distinct : draft.slots.Nodup
  slotTypes : draft.slotTypes = typedEntries (fragments.filterMap Fragment.slot?)
  known : ∀ slot type, (slot, some type) ∈ fragments.filterMap Fragment.slot? →
    ∃ phrases, vocabulary.lookup? type = some phrases
  tokens : draft.tokens = fragments.flatMap (Fragment.tokens vocabulary)

variable {vocabulary : Vocabulary} {template : Text} {draft next : Draft}

theorem declare_eq_ok {piece : Piece} {slot : Text}
    (h : draft.declare template piece slot = .ok next) :
    slot ∉ draft.slots ∧ next = { draft with slots := draft.slots ++ [slot] } := by
  unfold declare at h
  split at h
  · cases h
  · rename_i hnew
    exact ⟨by simpa using hnew, (Except.ok.inj h).symm⟩

theorem holds_nil (vocabulary : Vocabulary) : Holds vocabulary [] {} :=
  ⟨rfl, List.nodup_nil, rfl, by simp, rfl⟩

/-- The slots with an entity type keep their order. -/
theorem sublist_keys_typedEntries (slots : List (Text × Option Text)) :
    (typedEntries slots).keys.Sublist (slots.map Prod.fst) := by
  induction slots with
  | nil => exact List.Sublist.slnil
  | cons slot rest ih =>
      obtain ⟨name, type?⟩ := slot
      cases type? with
      | none => exact ih.cons name
      | some type => exact ih.cons_cons name

theorem filterMap_slot?_append_singleton (fragments : List Fragment)
    (fragment : Fragment) :
    (fragments ++ [fragment]).filterMap Fragment.slot? =
      fragments.filterMap Fragment.slot? ++ fragment.slot?.toList := by
  rw [List.filterMap_append]
  cases hslot : fragment.slot? <;> simp [hslot]

/-- A fragment without a slot adds tokens only. -/
theorem Holds.addTokens {fragments : List Fragment} {fragment : Fragment}
    (h : draft.Holds vocabulary fragments) (hslot : fragment.slot? = none)
    (hslots : next.slots = draft.slots) (htypes : next.slotTypes = draft.slotTypes)
    (htokens : next.tokens = draft.tokens ++ fragment.tokens vocabulary) :
    next.Holds vocabulary (fragments ++ [fragment]) := by
  have hsame : (fragments ++ [fragment]).filterMap Fragment.slot? =
      fragments.filterMap Fragment.slot? := by
    rw [filterMap_slot?_append_singleton, hslot]
    simp
  exact ⟨by rw [hsame, hslots, h.slots], hslots ▸ h.distinct, by
    rw [hsame, htypes, h.slotTypes],
      by rw [hsame]; exact h.known, by rw [htokens, h.tokens]; simp⟩

/-- A fragment with a slot whose name is new adds the slot and its tokens. -/
theorem Holds.addSlot {fragments : List Fragment} {fragment : Fragment} {slot : Text}
    {type : Option Text} (h : draft.Holds vocabulary fragments)
    (hslot : fragment.slot? = some (slot, type)) (hnew : slot ∉ draft.slots)
    (hknown : ∀ name, type = some name →
      ∃ phrases, vocabulary.lookup? name = some phrases)
    (hslots : next.slots = draft.slots ++ [slot])
    (htypes : next.slotTypes = draft.slotTypes ++ typedEntries [(slot, type)])
    (htokens : next.tokens = draft.tokens ++ fragment.tokens vocabulary) :
    next.Holds vocabulary (fragments ++ [fragment]) := by
  have hmore : (fragments ++ [fragment]).filterMap Fragment.slot? =
      fragments.filterMap Fragment.slot? ++ [(slot, type)] := by
    rw [filterMap_slot?_append_singleton, hslot]
    rfl
  constructor
  · rw [hmore, hslots, h.slots]
    simp
  · rw [hslots]
    refine List.nodup_append.mpr ⟨h.distinct, by simp, ?_⟩
    intro name hname other hother heq
    rw [List.mem_singleton.mp hother] at heq
    exact hnew (heq ▸ hname)
  · rw [hmore, htypes, h.slotTypes, typedEntries, typedEntries,
      ← List.filterMap_append]
    rfl
  · intro name other hmem
    rw [hmore] at hmem
    rcases List.mem_append.mp hmem with hmem | hmem
    · exact h.known name other hmem
    · simp only [List.mem_singleton, Prod.mk.injEq] at hmem
      exact hknown other hmem.2.symm
  · rw [htokens, h.tokens]
    simp

/-- Taking in a piece adds what its fragment declares and contributes, and
nothing else. -/
theorem Holds.add {fragments : List Fragment} {piece : Piece}
    (h : draft.Holds vocabulary fragments)
    (hadd : draft.add vocabulary template piece = .ok next) :
    next.Holds vocabulary (fragments ++ [piece.fragment]) := by
  unfold Draft.add at hadd
  cases hfragment : piece.fragment with
  | parameter name value =>
      simp only [hfragment, Except.ok.injEq] at hadd
      subst hadd
      exact h.addTokens rfl rfl rfl (by simp [Fragment.tokens])
  | alternatives | words =>
      simp only [hfragment, Except.ok.injEq] at hadd
      subst hadd
      exact h.addTokens rfl rfl rfl rfl
  | untypedSlot slot =>
      simp only [hfragment] at hadd
      cases hdeclare : draft.declare template piece slot with
      | error error => rw [hdeclare] at hadd; cases hadd
      | ok declared =>
          obtain ⟨hnew, rfl⟩ := declare_eq_ok hdeclare
          rw [hdeclare] at hadd
          cases hadd
          exact h.addSlot rfl hnew (by simp) rfl (by simp [typedEntries]) rfl
  | typedSlot slot type =>
      simp only [hfragment] at hadd
      cases hlookup : vocabulary.lookup? type with
      | none => rw [hlookup] at hadd; cases hadd
      | some phrases =>
          rw [hlookup] at hadd
          cases hdeclare : draft.declare template piece slot with
          | error error => simp only [hdeclare] at hadd; cases hadd
          | ok declared =>
              obtain ⟨hnew, rfl⟩ := declare_eq_ok hdeclare
              simp only [hdeclare] at hadd
              cases hadd
              have hkey : slot ∉ draft.slotTypes.keys := by
                rw [h.slotTypes]
                intro hmem
                exact hnew (h.slots ▸ (sublist_keys_typedEntries _).subset hmem)
              refine h.addSlot rfl hnew ?_ rfl (Entries.put_of_not_mem _ _ hkey) ?_
              · rintro name ⟨⟩
                exact ⟨phrases, hlookup⟩
              · simp [Fragment.tokens, hlookup]

/-- Taking in a row of pieces adds what their fragments declare and contribute. -/
theorem Holds.addAll {fragments : List Fragment} {pieces : List Piece}
    (h : draft.Holds vocabulary fragments)
    (hadd : draft.addAll vocabulary template pieces = .ok next) :
    next.Holds vocabulary (fragments ++ pieces.map Piece.fragment) := by
  induction pieces generalizing draft fragments with
  | nil =>
      cases hadd
      simpa using h
  | cons piece rest ih =>
      unfold Draft.addAll at hadd
      cases hpiece : draft.add vocabulary template piece with
      | error error => rw [hpiece] at hadd; cases hadd
      | ok draft' =>
          rw [hpiece] at hadd
          have hrest := ih (h.add hpiece) hadd
          simpa using hrest

end Draft

/-- A compiled matcher is the finished draft of all fragments of its template. -/
theorem Template.exists_draft_of_compile {vocabulary : Vocabulary} {template : Text}
    {matcher : Matcher} (h : Template.compile vocabulary template = .ok matcher) :
    ∃ draft : Draft, draft.Holds vocabulary (Template.fragments template) ∧
      matcher = draft.finish template := by
  unfold Template.compile at h
  cases hadd :
    Draft.addAll vocabulary template {} (Reading.ofTemplate template).pieces with
  | error error => simp only [hadd] at h; cases h
  | ok draft =>
      simp only [hadd] at h
      split at h
      · exact ⟨draft, (Draft.holds_nil vocabulary).addAll hadd,
          (Except.ok.inj h).symm⟩
      · cases h

end UtteranceTemplate
