import Mathlib.Data.List.Forall2
import UtteranceTemplate.Proofs.Outcomes
import UtteranceTemplate.Vocabulary.Checked

/-!
What checking a vocabulary comes to.

An entry is in order if it lists texts under a name (`Vocabulary.Lists`), and
otherwise it offends in one way (`Vocabulary.Offends`). So checking a mapping gives
what its entries list, or fails for the first entry that offends
(`Vocabulary.checkEntries_eq_ok_iff`, `Vocabulary.checkEntries_eq_error_iff`), and a
document is checked by its entity types.
-/

namespace UtteranceTemplate

namespace Vocabulary

def ofText (text : Text) : Value := .scalar (.text text)

/-- Whether an entry lists phrases under a name. -/
structure Lists (document : Document) (entry : Scalar × Value)
    (row : Text × List Text) : Prop where
  name : entry.1 = .text row.1
  isName : isName row.1 = true
  phrases : document.items? entry.2 = some (row.2.map ofText)

/-- Whether an entry is to blame for a value, and the fault that shows the value:
for its name if that could name no entity type, and else for the first of its items
that is no text. -/
inductive Blames (document : Document) :
    Scalar × Value → Value → (Text → VocabularyFault) → Prop
  | name {name : Scalar} {value : Value}
      (hname : ∀ text, name = .text text → Vocabulary.isName text = false) :
      Blames document (name, value) (.scalar name) .invalidName
  | phrase {name : Text} {value item : Value} {before : List Text}
      {after : List Value} (hname : Vocabulary.isName name = true)
      (hitems : document.items? value = some (before.map ofText ++ item :: after))
      (hitem : ∀ text, item ≠ ofText text) :
      Blames document (.text name, value) item (.notText name)

/-- Whether an entry is not in order, and the fault that it gives. -/
inductive Offends (document : Document) : Scalar × Value → VocabularyFault → Prop
  | blamed {entry : Scalar × Value} {value : Value} {fault : Text → VocabularyFault}
      (hblames : Blames document entry value fault) :
      Offends document entry (blame document value fault)
  | notPhrases {name : Text} {value : Value} (hname : Vocabulary.isName name = true)
      (hitems : document.items? value = none) :
      Offends document (.text name, value) (.notPhrases name)

def FirstOffends (document : Document) (entries : List (Scalar × Value))
    (fault : VocabularyFault) : Prop :=
  ∃ before rows entry after, entries = before ++ entry :: after ∧
    List.Forall₂ (Lists document) before rows ∧ Offends document entry fault

variable {document : Document} {name : Scalar} {value : Value}
  {fault : VocabularyFault}

theorem ofText_injective : Function.Injective ofText := by
  intro left right h
  cases h
  rfl

theorem asText?_eq_some_iff {text : Text} :
    name.asText? = some text ↔ name = .text text := by
  cases name <;> simp [Scalar.asText?]

theorem text?_eq_some_iff {text : Text} : Document.text? value = some text ↔
    value = ofText text := by
  cases value with
  | container number => simp [Document.text?, ofText]
  | scalar s => rw [Document.text?, asText?_eq_some_iff, ofText, Value.scalar.injEq]

theorem checkName_eq_ok_iff {found : Text} :
    checkName document name = .ok found ↔
      name = .text found ∧ isName found = true := by
  rw [← asText?_eq_some_iff, ← Option.filter_eq_some_iff, checkName]
  cases name.asText?.filter isName <;> simp

theorem checkName_eq_error_iff :
    checkName document name = .error fault ↔
      (∀ text, name = .text text → isName text = false) ∧
        fault = blame document (.scalar name) .invalidName := by
  have hnone : name.asText?.filter isName = none ↔
      ∀ text, name = .text text → isName text = false := by
    rw [Option.filter_eq_none_iff]
    simp only [asText?_eq_some_iff, Bool.not_eq_true]
  rw [← hnone, checkName]
  cases name.asText?.filter isName with
  | none => simp [eq_comm]
  | some found => simp

theorem checkPhrases_eq_ok_iff {type : Text} {items : List Value}
    {phrases : List Text} :
    checkPhrases document type items = .ok phrases ↔ items = phrases.map ofText := by
  induction items generalizing phrases with
  | nil => cases phrases <;> simp [checkPhrases]
  | cons item items ih =>
      rw [checkPhrases]
      split
      · rename_i phrase htext
        rw [text?_eq_some_iff] at htext
        subst htext
        rw [map_eq_ok_iff]
        constructor
        · rintro ⟨rest, hrest, rfl⟩
          rw [ih.mp hrest, List.map_cons]
        · intro hitems
          obtain ⟨first, rest, rfl, hfirst, hrest⟩ :=
            List.map_eq_cons_iff.mp hitems.symm
          obtain rfl := ofText_injective hfirst
          exact ⟨rest, ih.mpr hrest.symm, rfl⟩
      · rename_i hnone
        constructor
        · intro h
          cases h
        · intro hitems
          obtain ⟨first, _, _, hfirst, _⟩ := List.map_eq_cons_iff.mp hitems.symm
          rw [text?_eq_some_iff.mpr hfirst.symm] at hnone
          cases hnone

theorem checkPhrases_eq_error_iff {type : Text} {items : List Value} :
    checkPhrases document type items = .error fault ↔
      ∃ (before : List Text) (item : Value) (after : List Value),
        items = before.map ofText ++ item :: after ∧
        (∀ text, item ≠ ofText text) ∧
          fault = blame document item (.notText type) := by
  induction items with
  | nil => simp [checkPhrases]
  | cons item items ih =>
      rw [checkPhrases]
      split
      · rename_i phrase htext
        rw [text?_eq_some_iff] at htext
        subst htext
        rw [map_eq_error_iff, ih]
        constructor
        · rintro ⟨before, other, after, rfl, hother, rfl⟩
          exact ⟨phrase :: before, other, after, rfl, hother, rfl⟩
        · rintro ⟨before, other, after, hitems, hother, rfl⟩
          cases before with
          | nil => exact absurd (List.cons.inj hitems).1.symm (hother phrase)
          | cons first before =>
              exact ⟨before, other, after, (List.cons.inj hitems).2, hother, rfl⟩
      · rename_i hnone
        have hitem : ∀ text, item ≠ ofText text := by
          intro text heq
          rw [text?_eq_some_iff.mpr heq] at hnone
          cases hnone
        constructor
        · intro h
          exact ⟨[], item, items, rfl, hitem, (Except.error.inj h).symm⟩
        · rintro ⟨before, other, after, hitems, _, rfl⟩
          cases before with
          | nil => rw [(List.cons.inj hitems).1]
          | cons first before => exact absurd (List.cons.inj hitems).1 (hitem first)

/-- An entry that is in order gives the phrases that it lists. -/
theorem checkEntry_eq_ok_iff {row : Text × List Text} :
    checkEntry document name value = .ok row ↔ Lists document (name, value) row := by
  obtain ⟨type, phrases⟩ := row
  unfold checkEntry
  split
  · rename_i fault hfault
    constructor
    · intro h
      cases h
    · rintro ⟨hname, hword, _⟩
      rw [checkName_eq_ok_iff.mpr ⟨hname, hword⟩] at hfault
      cases hfault
  · rename_i found hfound
    obtain ⟨rfl, hword⟩ := checkName_eq_ok_iff.mp hfound
    split
    · rename_i hitems
      constructor
      · intro h
        cases h
      · rintro ⟨_, _, hphrases⟩
        rw [hitems] at hphrases
        cases hphrases
    · rename_i items hitems
      rw [map_eq_ok_iff]
      constructor
      · rintro ⟨found, hphrases, heq⟩
        obtain ⟨rfl, rfl⟩ := Prod.mk.inj heq
        exact ⟨rfl, hword, by rw [hitems, checkPhrases_eq_ok_iff.mp hphrases]⟩
      · rintro ⟨hname, _, hphrases⟩
        obtain rfl := Scalar.text.inj hname
        rw [hitems, Option.some.injEq] at hphrases
        exact ⟨phrases, checkPhrases_eq_ok_iff.mpr hphrases, rfl⟩

/-- An entry that is not in order gives the fault of what comes first in it: its
name, its value, its items. -/
theorem checkEntry_eq_error_iff :
    checkEntry document name value = .error fault ↔
      Offends document (name, value) fault := by
  unfold checkEntry
  split
  · rename_i found hfound
    obtain ⟨hname, rfl⟩ := checkName_eq_error_iff.mp hfound
    constructor
    · rintro ⟨⟩
      exact .blamed (.name hname)
    · intro hoffends
      cases hoffends with
      | blamed hblames =>
          cases hblames with
          | name _ => rfl
          | phrase hword _ _ => rw [hname _ rfl] at hword; cases hword
      | notPhrases hword _ => rw [hname _ rfl] at hword; cases hword
  · rename_i type hfound
    obtain ⟨rfl, hword⟩ := checkName_eq_ok_iff.mp hfound
    split
    · rename_i hnone
      constructor
      · rintro ⟨⟩
        exact .notPhrases hword hnone
      · intro hoffends
        cases hoffends with
        | blamed hblames =>
            cases hblames with
            | name hname => rw [hname _ rfl] at hword; cases hword
            | phrase _ hitems _ => rw [hnone] at hitems; cases hitems
        | notPhrases _ _ => rfl
    · rename_i items hsome
      rw [map_eq_error_iff, checkPhrases_eq_error_iff]
      constructor
      · rintro ⟨before, item, after, rfl, hitem, rfl⟩
        exact .blamed (.phrase hword hsome hitem)
      · intro hoffends
        cases hoffends with
        | blamed hblames =>
            cases hblames with
            | name hname => rw [hname _ rfl] at hword; cases hword
            | phrase _ hitems hitem =>
                rw [hsome, Option.some.injEq] at hitems
                exact ⟨_, _, _, hitems, hitem, rfl⟩
        | notPhrases _ hitems => rw [hsome] at hitems; cases hitems

variable {entries : List (Scalar × Value)}

/-- Checking a mapping gives what its entries list, in their order. -/
theorem checkEntries_eq_ok_iff {rows : List (Text × List Text)} :
    checkEntries document entries = .ok rows ↔
      List.Forall₂ (Lists document) entries rows := by
  induction entries generalizing rows with
  | nil =>
      rw [checkEntries, List.forall₂_nil_left_iff]
      simp [eq_comm]
  | cons entry entries ih =>
      obtain ⟨name, value⟩ := entry
      rw [checkEntries, List.forall₂_cons_left_iff]
      split
      · rename_i fault hfault
        constructor
        · intro h
          cases h
        · rintro ⟨row, _, hrow, _⟩
          rw [checkEntry_eq_ok_iff.mpr hrow] at hfault
          cases hfault
      · rename_i row hrow
        rw [map_eq_ok_iff]
        constructor
        · rintro ⟨rest, hrest, rfl⟩
          exact ⟨row, rest, checkEntry_eq_ok_iff.mp hrow, ih.mp hrest, rfl⟩
        · rintro ⟨other, rest, hother, hrest, rfl⟩
          obtain rfl :=
            Except.ok.inj (hrow.symm.trans (checkEntry_eq_ok_iff.mpr hother))
          exact ⟨rest, ih.mpr hrest, rfl⟩

/-- Checking a mapping fails for the first of its entries that is not in order. -/
theorem checkEntries_eq_error_iff :
    checkEntries document entries = .error fault ↔
      FirstOffends document entries fault := by
  induction entries with
  | nil =>
      constructor
      · intro h
        cases h
      · rintro ⟨before, _, _, _, hsplit, _⟩
        simp at hsplit
  | cons entry entries ih =>
      obtain ⟨name, value⟩ := entry
      rw [checkEntries]
      split
      · rename_i other hother
        constructor
        · rintro ⟨⟩
          exact ⟨[], [], _, entries, rfl, .nil, checkEntry_eq_error_iff.mp hother⟩
        · rintro ⟨before, rows, offender, after, hsplit, hrows, hoffends⟩
          cases hrows with
          | nil =>
              obtain ⟨rfl, rfl⟩ := List.cons.inj hsplit
              rw [checkEntry_eq_error_iff.mpr hoffends] at hother
              rw [Except.error.inj hother]
          | cons hrow _ =>
              obtain ⟨rfl, _⟩ := List.cons.inj hsplit
              rw [checkEntry_eq_ok_iff.mpr hrow] at hother
              cases hother
      · rename_i row hrow
        rw [map_eq_error_iff, ih]
        constructor
        · rintro ⟨before, rows, offender, after, rfl, hrows, hoffends⟩
          exact ⟨_ :: before, row :: rows, offender, after, rfl,
            .cons (checkEntry_eq_ok_iff.mp hrow) hrows, hoffends⟩
        · rintro ⟨before, rows, offender, after, hsplit, hrows, hoffends⟩
          cases hrows with
          | nil =>
              obtain ⟨rfl, rfl⟩ := List.cons.inj hsplit
              rw [checkEntry_eq_error_iff.mpr hoffends] at hrow
              cases hrow
          | cons _ hrows =>
              obtain ⟨_, rfl⟩ := List.cons.inj hsplit
              exact ⟨_, _, offender, after, rfl, hrows, hoffends⟩

theorem ofEntries_eq_ok_iff {vocabulary : Vocabulary} :
    ofEntries document entries = .ok vocabulary ↔
      List.Forall₂ (Lists document) entries vocabulary.entries := by
  rw [ofEntries, map_eq_ok_iff]
  constructor
  · rintro ⟨rows, hrows, rfl⟩
    exact checkEntries_eq_ok_iff.mp hrows
  · intro hrows
    exact ⟨vocabulary.entries, checkEntries_eq_ok_iff.mpr hrows, rfl⟩

theorem ofEntries_eq_error_iff :
    ofEntries document entries = .error fault ↔
      FirstOffends document entries fault := by
  rw [ofEntries, map_eq_error_iff, checkEntries_eq_error_iff]

/-- Whether the first of some entries that is not in order is to blame for a
value. -/
def BlamesFirstOf (document : Document) (entries : List (Scalar × Value))
    (value : Value) : Prop :=
  ∃ before rows entry after fault, entries = before ++ entry :: after ∧
    List.Forall₂ (Lists document) before rows ∧ Blames document entry value fault

theorem blame_eq_unshowable_iff {fault' : Text → VocabularyFault}
    {entry : Scalar × Value} (h : Blames document entry value fault') :
    blame document value fault' = .unshowable ↔
      document.isShowable value = false := by
  rw [blame]
  cases hshow : document.isShowable value with
  | false => simp
  | true => cases h <;> simp

/-- A fault cannot be put into words exactly if the value to blame cannot be
shown. -/
theorem ofEntries_eq_unshowable_iff :
    ofEntries document entries = .error .unshowable ↔
      ∃ value, BlamesFirstOf document entries value ∧
        document.isShowable value = false := by
  rw [ofEntries_eq_error_iff]
  constructor
  · rintro ⟨before, rows, entry, after, rfl, hrows, hoffends⟩
    generalize hunshowable : VocabularyFault.unshowable = fault at hoffends
    cases hoffends with
    | blamed hblames =>
        exact ⟨_, ⟨before, rows, entry, after, _, rfl, hrows, hblames⟩,
          (blame_eq_unshowable_iff hblames).mp hunshowable.symm⟩
    | notPhrases _ _ => cases hunshowable
  · rintro ⟨value, ⟨before, rows, entry, after, fault, rfl, hrows, hblames⟩, hshow⟩
    rw [← (blame_eq_unshowable_iff hblames).mpr hshow]
    exact ⟨before, rows, entry, after, rfl, hrows, .blamed hblames⟩

/-- Whether a document is a mapping in which the entity types are a mapping
with given entries. -/
def HasEntityTypes (document : Document) (entries : List (Scalar × Value)) : Prop :=
  ∃ members value, document.entries? document.root = some members ∧
    members.get? entityTypesKey = some value ∧ document.entries? value = some entries

theorem HasEntityTypes.ofDocument (h : HasEntityTypes document entries) :
    ofDocument document = ofEntries document entries := by
  obtain ⟨members, value, hmembers, hvalue, hentries⟩ := h
  simp only [Vocabulary.ofDocument, hmembers, hvalue, hentries]

/-- A document that has no entity types fails before any entry is checked. -/
theorem ofDocument_of_not_hasEntityTypes
    (h : ∀ entries, ¬ HasEntityTypes document entries) :
    ofDocument document = .error .notMapping ∨
      ofDocument document = .error .noEntityTypes ∨
      ofDocument document = .error .entityTypesNotMapping := by
  unfold Vocabulary.ofDocument
  split
  · exact Or.inl rfl
  · rename_i members hmembers
    split
    · exact Or.inr (Or.inl rfl)
    · rename_i value hvalue
      split
      · exact Or.inr (Or.inr rfl)
      · rename_i entries hentries
        exact absurd ⟨members, value, hmembers, hvalue, hentries⟩ (h entries)

/-- A document makes a vocabulary if its entity types are all in order; they are then
those of the vocabulary, in their order. -/
theorem ofDocument_eq_ok_iff {vocabulary : Vocabulary} :
    ofDocument document = .ok vocabulary ↔
      ∃ entries, HasEntityTypes document entries ∧
        List.Forall₂ (Lists document) entries vocabulary.entries := by
  constructor
  · intro hok
    by_cases h : ∃ entries, HasEntityTypes document entries
    · obtain ⟨entries, hentries⟩ := h
      rw [hentries.ofDocument, ofEntries_eq_ok_iff] at hok
      exact ⟨entries, hentries, hok⟩
    · rcases ofDocument_of_not_hasEntityTypes (not_exists.mp h) with hfault |
        hfault | hfault
      all_goals
        rw [hfault] at hok
        cases hok
  · rintro ⟨entries, hentries, hrows⟩
    rw [hentries.ofDocument, ofEntries_eq_ok_iff]
    exact hrows

/-- Whether the first entity type of a document that is not in order is to
blame for a value. -/
def BlamesFirst (document : Document) (value : Value) : Prop :=
  ∃ before rows entry after fault,
    HasEntityTypes document (before ++ entry :: after) ∧
    List.Forall₂ (Lists document) before rows ∧ Blames document entry value fault

theorem blamesFirst_iff :
    BlamesFirst document value ↔
      ∃ entries, HasEntityTypes document entries ∧
        BlamesFirstOf document entries value := by
  constructor
  · rintro ⟨before, rows, entry, after, fault, hentries, hrows, hblames⟩
    exact ⟨_, hentries, before, rows, entry, after, fault, rfl, hrows, hblames⟩
  · rintro ⟨_, hentries, before, rows, entry, after, fault, rfl, hrows, hblames⟩
    exact ⟨before, rows, entry, after, fault, hentries, hrows, hblames⟩

theorem ofDocument_eq_unshowable_iff :
    ofDocument document = .error .unshowable ↔
      ∃ value, BlamesFirst document value ∧ document.isShowable value = false := by
  simp only [blamesFirst_iff]
  constructor
  · intro hfault
    by_cases h : ∃ entries, HasEntityTypes document entries
    · obtain ⟨entries, hentries⟩ := h
      rw [hentries.ofDocument, ofEntries_eq_unshowable_iff] at hfault
      obtain ⟨value, hblames, hshow⟩ := hfault
      exact ⟨value, ⟨entries, hentries, hblames⟩, hshow⟩
    · rcases ofDocument_of_not_hasEntityTypes (not_exists.mp h) with hother |
        hother | hother
      all_goals
        rw [hother] at hfault
        cases hfault
  · rintro ⟨value, ⟨entries, hentries, hblames⟩, hshow⟩
    rw [hentries.ofDocument, ofEntries_eq_unshowable_iff]
    exact ⟨value, hblames, hshow⟩

end Vocabulary

end UtteranceTemplate
