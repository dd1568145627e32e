import UtteranceTemplate.Proofs.TracedPieces

/-!
The entity types that compiling a template looks up.

A draft asks a vocabulary for nothing but the phrases of the type that the next
fragment names, so two vocabularies with the same phrases for it take the fragment in
alike (`Draft.add_congr`), and by induction they take up the same pieces with the
same outcome as long as they agree on the types named by these. Which types are named
depends on the slots of a template alone, so a group names none
(`Template.compile_reads_named_types`).
-/

namespace UtteranceTemplate

def Fragment.entityType? (fragment : Fragment) : Option Text :=
  fragment.slot?.bind Prod.snd

/-- The entity types that a row of pieces names, in order. -/
def Piece.typesOf (pieces : List Piece) : List Text :=
  pieces.filterMap fun piece => piece.fragment.entityType?

theorem Piece.typesOf_cons (piece : Piece) (pieces : List Piece) :
    typesOf (piece :: pieces) =
      piece.fragment.entityType?.toList ++ typesOf pieces := by
  rw [typesOf, List.filterMap_cons]
  cases piece.fragment.entityType? <;> rfl

/-- Whether two catalogues have the same phrases in the same order, or none, under
each of some names. -/
def Catalogue.AgreeOn {Name Phrase : Type} [BEq Name] (names : List Name)
    (catalogue other : Catalogue Name Phrase) : Prop :=
  ∀ name ∈ names, other.lookup? name = catalogue.lookup? name

open Piece Template

namespace Template

/-- The entity types of the typed slots of a template, up to the first fragment that
cannot be taken in. -/
def namedTypes (vocabulary : Vocabulary) (template : Text) : List Text :=
  typesOf (tracedPieces vocabulary template)

/-- The entity types of a row of slots, up to the first slot whose name is taken or
whose type cannot be used. -/
def typesUpTo (usable : Text → Bool) (taken : List Text) :
    List (Text × Option Text) → List Text
  | [] => []
  | (slot, type?) :: rest =>
      type?.toList ++
        if slot ∉ taken ∧ type?.all usable = true
        then typesUpTo usable (taken ++ [slot]) rest
        else []

end Template

namespace Draft

variable {vocabulary other : Vocabulary} {template : Text} {draft : Draft}
  {piece : Piece} {pieces : List Piece}

/-- Taking in a piece asks for the phrases of the type that it names, and for
nothing else. -/
theorem add_congr (h : ∀ type, piece.fragment.entityType? = some type →
      other.lookup? type = vocabulary.lookup? type) :
    draft.add other template piece = draft.add vocabulary template piece := by
  unfold add
  cases hfragment : piece.fragment with
  | typedSlot slot type =>
      simp only
      rw [h type (by rw [hfragment]; rfl)]
  | parameter | untypedSlot | alternatives | words => rfl

/-- Vocabularies that agree on the types named by the pieces that one of them tries
try the same pieces, with the same outcome. -/
theorem addAll_congr
    (h : vocabulary.AgreeOn
      (typesOf (draft.tried vocabulary template pieces)) other) :
    draft.addAll other template pieces = draft.addAll vocabulary template pieces ∧
      draft.tried other template pieces =
        draft.tried vocabulary template pieces := by
  induction pieces generalizing draft with
  | nil => exact ⟨rfl, rfl⟩
  | cons piece rest ih =>
      rw [tried] at h
      have hadd : draft.add other template piece =
          draft.add vocabulary template piece :=
        add_congr fun type htype =>
          h type (List.mem_filterMap.mpr ⟨piece, List.mem_cons_self, htype⟩)
      rw [addAll, addAll, tried, tried, hadd]
      cases hcase : draft.add vocabulary template piece with
      | error error => exact ⟨rfl, rfl⟩
      | ok next =>
          rw [hcase] at h
          have hrest := ih fun type htype => h type <| by
            obtain ⟨piece', hmem, hnamed⟩ := List.mem_filterMap.mp htype
            exact List.mem_filterMap.mpr
              ⟨piece', List.mem_cons_of_mem piece hmem, hnamed⟩
          exact ⟨hrest.1, congrArg (piece :: ·) hrest.2⟩

theorem exists_add_iff :
    (∃ next, draft.add vocabulary template piece = .ok next) ↔
      ∀ slot type?, piece.fragment.slot? = some (slot, type?) →
        (∀ type, type? = some type → vocabulary.lookup? type ≠ none) ∧
          slot ∉ draft.slots := by
  refine Iff.trans ?_
    (@Fragment.not_offends_iff vocabulary template draft.slots piece.part)
  constructor
  · rintro ⟨next, hadd⟩
    exact not_offends_of_add hadd
  · intro hnone
    cases hadd : draft.add vocabulary template piece with
    | ok next => exact ⟨next, rfl⟩
    | error error => exact absurd (add_eq_error_iff.mp hadd) (hnone error)

end Draft

theorem Scalar.beq_text (name : Scalar) (t : Text) :
    (name == .text t) = (name.asText? == some t) := by
  cases name with
  | text a => rfl
  | null | bool | int | bytes | date | moment => rfl
  | float x =>
      -- a text is no number, so it does not matter which number the other scalar is
      have htext : (Scalar.text t).number? = none := rfl
      change Scalar.sameAs (.float x) (.text t) = false
      cases hnumber : (Scalar.float x).number? <;>
        simp [Scalar.sameAs, hnumber, htext]

namespace UncheckedVocabulary

variable {given other : UncheckedVocabulary} {template : Text} {draft : Draft}
  {pieces : List Piece}

/-- The pieces that are tried: all of them, or those up to the first one that fails
or has a fault in its phrases. -/
def triedAmong (given : UncheckedVocabulary) (template : Text) (draft : Draft)
    (pieces : List Piece) : List Piece :=
  match given.faultAmong? template draft pieces with
  | some (taken, _) => taken
  | none => draft.tried given.textual template pieces

/-- The entity types of the typed slots of a template, up to the first fragment that
cannot be taken in. -/
def namedTypes (given : UncheckedVocabulary) (template : Text) : List Text :=
  typesOf (given.tracedPieces template)

def isUsable (given : UncheckedVocabulary) (type : Text) : Bool :=
  (given.textual.lookup? type).isSome && (given.fault? type).isNone

theorem lookup?_textual (given : UncheckedVocabulary) (type : Text) :
    given.textual.lookup? type = (given.lookup? (.text type)).map fun phrases =>
      phrases.filterMap fun json => json.phrase.toOption := by
  obtain ⟨entries⟩ := given
  unfold Catalogue.lookup? textual
  induction entries with
  | nil => rfl
  | cons entry rest ih =>
      obtain ⟨name, phrases⟩ := entry
      simp only [Entries.get?, Scalar.beq_text]
      cases hname : name.asText? with
      | none => simpa [hname] using ih
      | some a =>
          by_cases heq : a = type
          · simp [hname, Entries.get?, heq]
          · simpa [hname, Entries.get?, heq] using ih

theorem triedAmong_cons (given : UncheckedVocabulary) (template : Text)
    (draft : Draft) (piece : Piece) (rest : List Piece) :
    given.triedAmong template draft (piece :: rest) =
      piece ::
        match draft.add given.textual template piece with
        | .error _ => []
        | .ok next =>
            match given.pieceFault? piece with
            | some _ => []
            | none => given.triedAmong template next rest := by
  rw [triedAmong, faultAmong?, Draft.tried]
  cases draft.add given.textual template piece with
  | error error => rfl
  | ok next =>
      cases given.pieceFault? piece with
      | some fault => rfl
      | none =>
          simp only [triedAmong]
          cases given.faultAmong? template next rest <;> rfl

theorem pieceFault?_congr {piece : Piece}
    (h : ∀ type, piece.fragment.entityType? = some type →
      other.lookup? (.text type) = given.lookup? (.text type)) :
    other.pieceFault? piece = given.pieceFault? piece := by
  unfold pieceFault?
  cases hfragment : piece.fragment with
  | typedSlot slot type =>
      simp only [fault?]
      rw [h type (by rw [hfragment]; rfl)]
  | parameter | untypedSlot | alternatives | words => rfl

/-- Vocabularies that agree on the types named by the pieces that one of them tries
find the same fault, and try the same pieces. -/
theorem faultAmong?_congr
    (h : given.AgreeOn
      ((typesOf (given.triedAmong template draft pieces)).map .text) other) :
    other.faultAmong? template draft pieces =
      given.faultAmong? template draft pieces := by
  induction pieces generalizing draft with
  | nil => rfl
  | cons piece rest ih =>
      have hagree :
          ∀ type ∈ typesOf (given.triedAmong template draft (piece :: rest)),
          other.lookup? (.text type) = given.lookup? (.text type) :=
        fun type htype => h _ (List.mem_map_of_mem htype)
      rw [triedAmong_cons] at hagree
      have hnamed : ∀ type, piece.fragment.entityType? = some type →
          other.lookup? (.text type) = given.lookup? (.text type) :=
        fun type htype =>
          hagree type (List.mem_filterMap.mpr ⟨piece, List.mem_cons_self, htype⟩)
      have hadd : draft.add other.textual template piece =
          draft.add given.textual template piece :=
        Draft.add_congr fun type htype => by
          rw [lookup?_textual, lookup?_textual, hnamed type htype]
      rw [faultAmong?, faultAmong?, hadd, pieceFault?_congr hnamed]
      cases hcase : draft.add given.textual template piece with
      | error error => rfl
      | ok next =>
          cases hfault : given.pieceFault? piece with
          | some fault => rfl
          | none =>
              simp only [hcase, hfault] at hagree
              have hrest := @ih next <| List.forall_mem_map.mpr fun type htype => by
                apply hagree type
                obtain ⟨piece', hmem, hpiece'⟩ := List.mem_filterMap.mp htype
                exact List.mem_filterMap.mpr
                  ⟨piece', List.mem_cons_of_mem piece hmem, hpiece'⟩
              simp only [hrest]

theorem isUsable_iff {type : Text} :
    given.isUsable type = true ↔
      given.textual.lookup? type ≠ none ∧ given.fault? type = none := by
  rw [isUsable, Bool.and_eq_true, Option.isSome_iff_ne_none,
    Option.isNone_iff_eq_none]

/-- A piece with a slot is taken in exactly if the name of the slot is new and its
type can be used. -/
theorem isTakenIn_iff {piece : Piece} {slot : Text} {type? : Option Text}
    (hslot : piece.fragment.slot? = some (slot, type?)) :
    ((∃ next, draft.add given.textual template piece = .ok next) ∧
        given.pieceFault? piece = none) ↔
      slot ∉ draft.slots ∧ type?.all given.isUsable = true := by
  rw [Draft.exists_add_iff, pieceFault?_eq_none_iff]
  simp only [hslot, Option.some.injEq, Prod.mk.injEq]
  constructor
  · rintro ⟨hadd, hfault⟩
    obtain ⟨hknown, hnew⟩ := hadd slot type? ⟨rfl, rfl⟩
    refine ⟨hnew, ?_⟩
    cases type? with
    | none => rfl
    | some type =>
        exact isUsable_iff.mpr ⟨hknown type rfl, hfault slot type ⟨rfl, rfl⟩⟩
  · rintro ⟨hnew, husable⟩
    constructor
    · rintro _ _ ⟨rfl, rfl⟩
      refine ⟨?_, hnew⟩
      rintro type rfl
      exact (isUsable_iff.mp husable).1
    · rintro _ type ⟨rfl, rfl⟩
      exact (isUsable_iff.mp husable).2

/-- The types that the pieces tried name depend on their slots alone. -/
theorem typesOf_triedAmong (given : UncheckedVocabulary) (template : Text)
    (draft : Draft) (pieces : List Piece) :
    typesOf (given.triedAmong template draft pieces) =
      typesUpTo given.isUsable draft.slots (slotsOf (pieces.map Piece.part)) := by
  induction pieces generalizing draft with
  | nil => rfl
  | cons piece rest ih =>
      rw [triedAmong_cons, typesOf_cons, Fragment.entityType?, List.map_cons]
      cases hslot : piece.fragment.slot? with
      | none =>
          obtain ⟨next, hnext⟩ :=
            (@Draft.exists_add_iff given.textual template draft piece).mpr (by
              simp [hslot])
          have hslots := (Draft.declares_of_add hnext).1
          rw [slotNames_cons_of_none hslot, slotNames_nil, List.append_nil] at hslots
          rw [hnext, pieceFault?_eq_none_iff.mpr (by simp [hslot]),
            slotsOf_cons_of_none hslot, ← hslots]
          exact ih next
      | some slot =>
          obtain ⟨slot, type?⟩ := slot
          have htaken := @isTakenIn_iff given template draft piece _ _ hslot
          rw [slotsOf_cons_of_some hslot, typesUpTo]
          refine congrArg (type?.toList ++ ·) ?_
          cases hadd : draft.add given.textual template piece with
          | error error =>
              rw [if_neg fun htakes => ?_]
              · rfl
              · obtain ⟨⟨next, hnext⟩, _⟩ := htaken.mpr htakes
                rw [hadd] at hnext
                cases hnext
          | ok next =>
              cases hfault : given.pieceFault? piece with
              | some fault =>
                  rw [if_neg fun htakes => ?_]
                  · rfl
                  · rw [(htaken.mpr htakes).2] at hfault
                    cases hfault
              | none =>
                  have hslots := (Draft.declares_of_add hadd).1
                  rw [slotNames_cons_of_some hslot, slotNames_nil] at hslots
                  rw [if_pos (htaken.mp ⟨⟨next, hadd⟩, hfault⟩), ← hslots]
                  exact ih next

theorem namedTypes_eq (given : UncheckedVocabulary) (template : Text) :
    given.namedTypes template =
      typesUpTo given.isUsable [] (slotsOf (Reading.ofTemplate template).parts) :=
  given.typesOf_triedAmong template {} (Reading.ofTemplate template).pieces

/-- Vocabularies that agree on the types that a template names for one of them
compile it alike. -/
theorem compile_congr
    (h : given.AgreeOn ((given.namedTypes template).map .text) other) :
    other.compile template = given.compile template ∧
      other.tracedPieces template = given.tracedPieces template := by
  have hfault : other.faultIn? template = given.faultIn? template :=
    faultAmong?_congr h
  rw [compile, compile, tracedPieces, tracedPieces, hfault]
  cases hcase : given.faultIn? template with
  | some found => exact ⟨rfl, rfl⟩
  | none =>
      have hagree : given.textual.AgreeOn
          (Template.namedTypes given.textual template) other.textual := by
        intro type htype
        have hsame : given.tracedPieces template =
            Template.tracedPieces given.textual template := by
          rw [tracedPieces, hcase]
        rw [lookup?_textual, lookup?_textual, h (.text type)]
        refine List.mem_map_of_mem ?_
        rw [namedTypes, hsame]
        exact htype
      obtain ⟨hadd, htried⟩ := Draft.addAll_congr hagree
      simp only [Template.compile, Template.tracedPieces, hadd, htried, and_self]

theorem lookup?_ofVocabulary (vocabulary : Vocabulary) (type : Text) :
    (ofVocabulary vocabulary).lookup? (.text type) =
      (vocabulary.lookup? type).map fun phrases => phrases.map .text := by
  obtain ⟨entries⟩ := vocabulary
  unfold Catalogue.lookup? ofVocabulary
  induction entries with
  | nil => rfl
  | cons entry rest ih =>
      obtain ⟨name, phrases⟩ := entry
      by_cases heq : name = type
      · simp [Entries.get?, Scalar.beq_text, Scalar.asText?, heq]
      · simpa [Entries.get?, Scalar.beq_text, Scalar.asText?, heq] using ih

theorem textual_ofVocabulary (vocabulary : Vocabulary) :
    (ofVocabulary vocabulary).textual = vocabulary := by
  have hphrases : ∀ phrases : List Text,
      (phrases.map Json.text).filterMap (fun json => json.phrase.toOption) =
        phrases := by
    intro phrases
    rw [List.filterMap_map]
    exact List.filterMap_some
  rw [textual, ofVocabulary, List.filterMap_map]
  simp only [Function.comp_def, Scalar.asText?, Option.map_some, hphrases]
  rw [List.filterMap_some]

/-- The phrases of a vocabulary of texts have no fault. -/
theorem faultAmong?_ofVocabulary (vocabulary : Vocabulary) :
    (ofVocabulary vocabulary).faultAmong? template draft pieces = none := by
  have hfault : ∀ type, (ofVocabulary vocabulary).fault? type = none := by
    intro type
    rw [fault?, lookup?_ofVocabulary]
    cases vocabulary.lookup? type with
    | none => rfl
    | some phrases => simp [Json.phrase]
  have hpiece : ∀ piece, (ofVocabulary vocabulary).pieceFault? piece = none :=
    fun piece =>
      pieceFault?_eq_none_iff.mpr fun _ type _ => hfault type
  induction pieces generalizing draft with
  | nil => rfl
  | cons piece rest ih =>
      rw [faultAmong?, hpiece]
      cases draft.add (ofVocabulary vocabulary).textual template piece with
      | error error => rfl
      | ok next => simp only [ih, Option.map_none]

theorem namedTypes_ofVocabulary (vocabulary : Vocabulary) (template : Text) :
    (ofVocabulary vocabulary).namedTypes template =
      Template.namedTypes vocabulary template := by
  rw [namedTypes, tracedPieces, faultIn?, faultAmong?_ofVocabulary,
    textual_ofVocabulary]
  rfl

end UncheckedVocabulary

namespace Template

variable {vocabulary other : Vocabulary} {template front interior back : Text}

/-- Vocabularies that agree on the types that a template names for one of them
compile it alike. -/
theorem compile_congr
    (h : vocabulary.AgreeOn (namedTypes vocabulary template) other) :
    compile other template = compile vocabulary template ∧
      tracedPieces other template = tracedPieces vocabulary template := by
  obtain ⟨hadd, htried⟩ := Draft.addAll_congr h
  simp only [compile, tracedPieces, hadd, htried, and_self]

/-- A group between two parts of a template declares no slots. -/
theorem slotsOf_group (hfront : IsWhole front) (hne : interior ≠ [])
    (hclose : .char ')' ∉ interior) :
    slotsOf (Reading.ofTemplate
      (front ++ .char '(' :: (interior ++ .char ')' :: back))).parts =
      slotsOf (Reading.ofTemplate (front ++ back)).parts := by
  have hgroup := readsAs_iff.mp (readsAs_group hne hclose (readsAs_ofTemplate back))
  have hwith := (ofTemplate_append ⟨[]⟩ hfront
    (.char '(' :: (interior ++ .char ')' :: back))).1.slotsOf_eq
  have hwithout := (ofTemplate_append ⟨[]⟩ hfront back).1.slotsOf_eq
  rw [hwith, hwithout, hgroup.1, slotsOf_cons_of_none rfl]

theorem exists_lookup?_of_mem_namedTypes {matcher : Matcher}
    (h : compile vocabulary template = .ok matcher) {type : Text}
    (htype : type ∈ namedTypes vocabulary template) :
    ∃ phrases, vocabulary.lookup? type = some phrases := by
  have hknown := (noneOffends_iff.mp (isMadeOf_of_compile h).2.1).1
  obtain ⟨after, hpieces⟩ := exists_tracedPieces_append vocabulary template
  obtain ⟨piece, hmem, hnamed⟩ := List.mem_filterMap.mp htype
  obtain ⟨⟨slot, type?⟩, hslot, rfl⟩ := Option.bind_eq_some_iff.mp hnamed
  apply Option.ne_none_iff_exists'.mp
  apply hknown slot type
  refine List.mem_filterMap.mpr ⟨piece.part, List.mem_map_of_mem ?_, hslot⟩
  rw [hpieces]
  exact List.mem_append_left after hmem

/-- What compiling a template comes to, and what it traces, depends on the phrases of
the entity types that the template names up to where compiling ends, and on no
others. So other types may be put in or changed, types may be added to a vocabulary
against which it compiles, and what stands in a group names none. -/
theorem compile_reads_named_types :
    (∀ (vocabulary other : Vocabulary) (template : Text),
      vocabulary.AgreeOn (namedTypes vocabulary template) other →
        compile other template = compile vocabulary template ∧
          trace other template = trace vocabulary template ∧
            namedTypes other template = namedTypes vocabulary template) ∧
    (∀ (given other : UncheckedVocabulary) (template : Text),
      given.AgreeOn ((given.namedTypes template).map .text) other →
        other.compile template = given.compile template ∧
          other.trace template = given.trace template ∧
            other.namedTypes template = given.namedTypes template) ∧
    (∀ (vocabulary : Vocabulary) (template type : Text) (phrases : List Text),
      type ∉ namedTypes vocabulary template →
        compile ⟨vocabulary.entries.put type phrases⟩ template =
          compile vocabulary template) ∧
    (∀ (vocabulary wider : Vocabulary) (template : Text) (matcher : Matcher),
      compile vocabulary template = .ok matcher →
        (∀ type phrases, vocabulary.lookup? type = some phrases →
          wider.lookup? type = some phrases) →
          compile wider template = .ok matcher) ∧
    ∀ front interior back : Text, IsWhole front → interior ≠ [] →
      .char ')' ∉ interior →
      (∀ vocabulary : Vocabulary,
        namedTypes vocabulary
          (front ++ .char '(' :: (interior ++ .char ')' :: back)) =
          namedTypes vocabulary (front ++ back)) ∧
      ∀ given : UncheckedVocabulary,
        given.namedTypes (front ++ .char '(' :: (interior ++ .char ')' :: back)) =
          given.namedTypes (front ++ back) := by
  refine ⟨?_, ?_, ?_, ?_, ?_⟩
  · intro vocabulary other template hagree
    obtain ⟨hcompile, htraced⟩ := compile_congr hagree
    refine ⟨hcompile, ?_, congrArg typesOf htraced⟩
    rw [trace, trace, htraced, hcompile]
  · intro given other template hagree
    obtain ⟨hcompile, htraced⟩ := given.compile_congr hagree
    refine ⟨hcompile, ?_, congrArg typesOf htraced⟩
    rw [UncheckedVocabulary.trace_eq, UncheckedVocabulary.trace_eq,
      htraced, hcompile]
  · intro vocabulary template type phrases hnot
    refine (compile_congr fun name hname => ?_).1
    exact Entries.get?_put_of_ne _ _ fun heq => hnot (heq ▸ hname)
  · intro vocabulary wider template matcher hcompile hwider
    rw [← hcompile]
    refine (compile_congr fun name hname => ?_).1
    obtain ⟨phrases, hphrases⟩ := exists_lookup?_of_mem_namedTypes hcompile hname
    rw [hphrases, hwider name phrases hphrases]
  · intro front interior back hfront hne hclose
    have hgiven : ∀ given : UncheckedVocabulary,
        given.namedTypes (front ++ .char '(' :: (interior ++ .char ')' :: back)) =
          given.namedTypes (front ++ back) := by
      intro given
      rw [given.namedTypes_eq, given.namedTypes_eq, slotsOf_group hfront hne hclose]
    refine ⟨fun vocabulary => ?_, hgiven⟩
    rw [← UncheckedVocabulary.namedTypes_ofVocabulary, hgiven,
      UncheckedVocabulary.namedTypes_ofVocabulary]

theorem ofTemplate_groupFirst :
    Reading.ofTemplate "(a|[x:T]) [y:t] [y:u] [z:w]".text =
      ⟨[⟨0, "(a|[x:T])".text, .alternatives [['a'], "[x:T]".text]⟩,
        ⟨10, "[y:t]".text, .typedSlot ['y'] ['t']⟩,
        ⟨16, "[y:u]".text, .typedSlot ['y'] ['u']⟩,
        ⟨22, "[z:w]".text, .typedSlot ['z'] ['w']⟩], []⟩ := by
  decide +kernel

theorem ofTemplate_groupFirst_known :
    Reading.ofTemplate "(a|[x:T]) [y:t]".text =
      ⟨[⟨0, "(a|[x:T])".text, .alternatives [['a'], "[x:T]".text]⟩,
        ⟨10, "[y:t]".text, .typedSlot ['y'] ['t']⟩], []⟩ := by
  decide +kernel

/-- A group that reads like a typed slot, then slots of a known type, of an unknown
one, and of one behind the failure: only the second and the third are named, and only
the second if its phrases have a fault. -/
theorem compile_reads_named_types_groupFirst :
    let vocabulary : Vocabulary := ⟨[(['t'], [['p'], []])]⟩
    let other : Vocabulary := ⟨[(['T'], [['q']]), (['t'], [['p'], []]), (['w'], [])]⟩
    let given : UncheckedVocabulary :=
      ⟨[(.null, []), (.text ['t'], [.text ['p'], .int 7])]⟩
    let changed : UncheckedVocabulary :=
      ⟨[(.text ['t'], [.text ['p'], .int 7]), (.text ['u'], [.bool true])]⟩
    let template := "(a|[x:T]) [y:t] [y:u] [z:w]".text
    let known := "(a|[x:T]) [y:t]".text
    vocabulary.AgreeOn (namedTypes vocabulary template) other ∧
      compile other template = .error (.unknownEntityType ['u']) ∧
      given.AgreeOn ((given.namedTypes template).map .text) changed ∧
      changed.compile template = .error (.phrase (.noWords "int")) ∧
      [.char 'w'] ∉ namedTypes vocabulary template ∧
      compile ⟨vocabulary.entries.put ['w'] [['v']]⟩ template =
        .error (.unknownEntityType ['u']) ∧
      (∃ matcher, compile vocabulary known = .ok matcher ∧
        compile other known = .ok matcher) ∧
      IsWhole [] ∧
      namedTypes vocabulary " [y:t] [y:u] [z:w]".text = [[.char 't'], [.char 'u']] ∧
      namedTypes vocabulary template = [[.char 't'], [.char 'u']] := by
  intro vocabulary other given changed template known
  obtain ⟨hchecked, hgiven, hput, hwider, hgroup⟩ := compile_reads_named_types
  have hnamed : namedTypes vocabulary template = [[.char 't'], [.char 'u']] := by
    simp only [namedTypes, tracedPieces, template, ofTemplate_groupFirst]
    rfl
  have hnamedGiven : given.namedTypes template = [[.char 't']] := by
    rw [given.namedTypes_eq]
    simp only [template, ofTemplate_groupFirst]
    rfl
  have hfails : compile vocabulary template = .error (.unknownEntityType ['u']) := by
    simp only [template, compile, ofTemplate_groupFirst]
    rfl
  have hfailsGiven : given.compile template = .error (.phrase (.noWords "int")) := by
    simp only [template, UncheckedVocabulary.compile, UncheckedVocabulary.faultIn?,
      ofTemplate_groupFirst]
    rfl
  have hagree : vocabulary.AgreeOn (namedTypes vocabulary template) other := by
    rw [hnamed]
    exact List.forall_mem_cons.mpr ⟨rfl, List.forall_mem_singleton.mpr rfl⟩
  have hagreeGiven :
      given.AgreeOn ((given.namedTypes template).map .text) changed := by
    rw [hnamedGiven]
    exact List.forall_mem_singleton.mpr rfl
  have hnot : [.char 'w'] ∉ namedTypes vocabulary template := by
    rw [hnamed]
    decide
  have hcompiles : ∃ matcher, compile vocabulary known = .ok matcher := by
    simp only [known, compile, ofTemplate_groupFirst_known]
    exact ⟨_, rfl⟩
  obtain ⟨matcher, hmatcher⟩ := hcompiles
  have hkeeps : ∀ type phrases, vocabulary.lookup? type = some phrases →
      other.lookup? type = some phrases := by
    intro type phrases hphrases
    have hmem := Entries.mem_of_get?_eq_some hphrases
    obtain ⟨rfl, rfl⟩ := Prod.mk.inj (List.mem_singleton.mp hmem)
    rfl
  have hwhole : IsWhole [] := (readsAs_iff.mp readsAs_nil).2
  have hrest :=
    (hgroup [] "a|[x:T]".text " [y:t] [y:u] [z:w]".text hwhole (by decide)
      (by decide)).1 vocabulary
  exact ⟨hagree,
    (hchecked vocabulary other template hagree).1.trans hfails, hagreeGiven,
    (hgiven given changed template hagreeGiven).1.trans hfailsGiven, hnot,
    (hput vocabulary template ['w'] [['v']] hnot).trans hfails,
    ⟨matcher, hmatcher, hwider vocabulary other known matcher hmatcher hkeeps⟩,
    hwhole, hrest.symm.trans hnamed, hnamed⟩

end Template

end UtteranceTemplate
