import UtteranceTemplate.Proofs.OwnPhrases

/-!
Checking a vocabulary is exact, and a mapping and a document are checked alike.

A mapping is accepted exactly if all its entries are in order, whatever the values of
the others may be; the vocabulary then holds its names and phrases and nothing else,
and every name can be the type of a slot. Else the first entry that is not in order
is reported, unless the value to blame cannot be shown
(`Vocabulary.ofEntries_exact`).
-/

namespace UtteranceTemplate

open Pattern

namespace Vocabulary

/-- Whether a vocabulary holds what the entries of a mapping list and nothing
else. -/
structure IsListedIn (document : Document) (entries : Entries Scalar Value)
    (vocabulary : Vocabulary) :
    Prop where
  names : vocabulary.names.map Scalar.text = entries.keys
  phrases : ∀ name phrases, vocabulary.lookup? name = some phrases ↔
    ∃ value, (.text name, value) ∈ entries ∧
      document.items? value = some (phrases.map ofText)
  others : ∀ name, .text name ∉ entries.keys → vocabulary.lookup? name = none

variable {document : Document} {entries : Entries Scalar Value}
  {vocabulary : Vocabulary}

/-- Whether an entry lists texts under a name. -/
def IsInOrder (document : Document) (entry : Scalar × Value) : Prop :=
  (∃ name, entry.1 = .text name ∧ isName name = true) ∧
    ∃ items, document.items? entry.2 = some items ∧ ∀ item ∈ items, ∃ text,
      item = ofText text

theorem isInOrder_iff {entry : Scalar × Value} :
    IsInOrder document entry ↔ ∃ row, Lists document entry row := by
  constructor
  · rintro ⟨⟨name, hname, hword⟩, items, hitems, htexts⟩
    obtain ⟨phrases, rfl⟩ := exists_eq_map_of_forall_mem htexts
    exact ⟨(name, phrases), hname, hword, hitems⟩
  · rintro ⟨row, hname, hword, hphrases⟩
    refine ⟨⟨row.1, hname, hword⟩, _, hphrases, ?_⟩
    intro item hitem
    obtain ⟨text, _, rfl⟩ := List.mem_map.mp hitem
    exact ⟨text, rfl⟩

/-- Checking succeeds exactly if every entry is in order. -/
theorem exists_ofEntries_iff :
    (∃ vocabulary, ofEntries document entries = .ok vocabulary) ↔
      ∀ entry ∈ entries, IsInOrder document entry := by
  simp only [ofEntries_eq_ok_iff, isInOrder_iff]
  constructor
  · rintro ⟨vocabulary, hlists⟩ entry hentry
    obtain ⟨row, _, hrow⟩ := exists_of_forall₂_of_mem hlists hentry
    exact ⟨row, hrow⟩
  · intro h
    cases hcheck : ofEntries document entries with
    | ok vocabulary => exact ⟨vocabulary, ofEntries_eq_ok_iff.mp hcheck⟩
    | error fault =>
        obtain ⟨_, _, entry, _, rfl, _, hoffends⟩ := ofEntries_eq_error_iff.mp hcheck
        obtain ⟨row, hrow⟩ := h entry (by simp)
        have hchecked := checkEntry_eq_ok_iff.mpr hrow
        rw [checkEntry_eq_error_iff.mpr hoffends] at hchecked
        cases hchecked

theorem map_text_names (h : ofEntries document entries = .ok vocabulary) :
    vocabulary.names.map Scalar.text = entries.keys := by
  rw [ofEntries_eq_ok_iff] at h
  rw [Catalogue.names, Entries.keys, Entries.keys]
  generalize vocabulary.entries = rows at h
  induction h with
  | nil => rfl
  | cons hrow _ ih => rw [List.map_cons, List.map_cons, List.map_cons, ih, hrow.name]

/-- The names of a mapping are different. -/
theorem nodup_names (hmapping : entries.IsMapping)
    (h : ofEntries document entries = .ok vocabulary) :
    vocabulary.names.Nodup := by
  rw [Entries.IsMapping, ← map_text_names h, List.pairwise_map] at hmapping
  apply hmapping.imp
  rintro name other hne rfl
  have hsame : (Scalar.text name == Scalar.text name) = true := beq_self_eq_true name
  rw [hsame] at hne
  cases hne

/-- Under each name of a mapping stand the phrases that its entry lists. -/
theorem lookup?_eq_some_iff (hmapping : entries.IsMapping)
    (h : ofEntries document entries = .ok vocabulary) {name : Text}
    {phrases : List Text} :
    vocabulary.lookup? name = some phrases ↔
      ∃ value, (.text name, value) ∈ entries ∧
        document.items? value = some (phrases.map ofText) := by
  have hlists := ofEntries_eq_ok_iff.mp h
  constructor
  · intro hlookup
    obtain ⟨entry, hentry, hrow⟩ :=
      exists_of_forall₂_of_mem hlists.flip (Entries.mem_of_get?_eq_some hlookup)
    exact ⟨entry.2, hrow.name ▸ hentry, hrow.phrases⟩
  · rintro ⟨value, hentry, hitems⟩
    obtain ⟨row, hmem, hname, _, hphrases⟩ := exists_of_forall₂_of_mem hlists hentry
    rw [hitems, Option.some.injEq] at hphrases
    have hrow : row = (name, phrases) :=
      Prod.ext (Scalar.text.inj hname).symm
        (List.map_injective_iff.mpr ofText_injective hphrases).symm
    exact Entries.get?_eq_some_of_mem (nodup_names hmapping h) (hrow ▸ hmem)

theorem isListedIn (hmapping : entries.IsMapping)
    (h : ofEntries document entries = .ok vocabulary) :
    IsListedIn document entries vocabulary where
  names := map_text_names h
  phrases _ _ := lookup?_eq_some_iff hmapping h
  others name hname := by
    rw [Option.eq_none_iff_forall_ne_some]
    intro phrases hlookup
    obtain ⟨value, hentry, _⟩ := (lookup?_eq_some_iff hmapping h).mp hlookup
    exact hname (List.mem_map_of_mem hentry)

/-- Every name of a checked mapping can be the type of a slot. -/
theorem exists_compile_of_mem_names (hmapping : entries.IsMapping)
    (h : ofEntries document entries = .ok vocabulary) {slot type : Text}
    (htype : type ∈ vocabulary.names) (hslot : isName slot = true) :
    ∃ matcher, Template.compile vocabulary (Template.ofTypedSlot slot type) =
      .ok matcher ∧
      matcher.slotTypes = [(slot, type)] := by
  obtain ⟨⟨_, phrases⟩, hmem, rfl⟩ := List.mem_map.mp htype
  have hphrases : vocabulary.lookup? _ = some phrases :=
    Entries.get?_eq_some_of_mem (nodup_names hmapping h) hmem
  have hname := isName_of_lookup?_eq_some h hphrases
  obtain ⟨matcher, hcompile⟩ :=
    Template.exists_compile_ofTypedSlot hslot hname hphrases
  refine ⟨matcher, hcompile, ?_⟩
  obtain ⟨_, _, hmade⟩ := Template.isMadeOf_of_compile hcompile
  rw [hmade.slotTypes, (Template.parts_ofTypedSlot hslot hname).1]
  rfl

/-- What the fault of an entry says is the same for every source, up to the name of
the source at the end. -/
theorem exists_message_eq {fault : VocabularyFault}
    (h : FirstOffends document entries fault) (hshowable : fault ≠ .unshowable) :
    ∃ words, ∀ source, fault.message source = words ++ source := by
  obtain ⟨_, _, _, _, _, _, hoffends⟩ := h
  cases hoffends with
  | notPhrases _ _ => exact ⟨_, fun source => rfl⟩
  | blamed hblames =>
      rw [blame] at hshowable ⊢
      split at hshowable
      · rename_i hshow
        rw [if_pos hshow]
        cases hblames with
        | name _ => exact ⟨_, fun source => rfl⟩
        | phrase _ _ _ => exact ⟨_, fun source => rfl⟩
      · exact absurd rfl hshowable

/-- Checking a mapping is exact. It succeeds exactly if every entry is in order; the
vocabulary then holds what the entries list and nothing else, and every name can be
the type of a slot. Otherwise the fault is that of the first entry that is not in
order, put into words unless the value to blame cannot be shown. A document makes a
vocabulary exactly if its entity types do, which is then the same, and if they do not
the fault is the same. -/
theorem ofEntries_exact (document : Document) {entries : Entries Scalar Value}
    (hmapping : entries.IsMapping) :
    ((∃ vocabulary, ofEntries document entries = .ok vocabulary) ↔
      ∀ entry ∈ entries, IsInOrder document entry) ∧
    (∀ vocabulary, ofEntries document entries = .ok vocabulary →
      IsListedIn document entries vocabulary ∧
        ∀ type ∈ vocabulary.names, ∀ slot, isName slot = true →
          ∃ matcher, Template.compile vocabulary (Template.ofTypedSlot slot type) =
            .ok matcher ∧
            matcher.slotTypes = [(slot, type)]) ∧
    (∀ fault, ofEntries document entries = .error fault ↔
      FirstOffends document entries fault) ∧
    (∀ fault, ofEntries document entries = .error fault → fault ≠ .unshowable →
      ∃ words, ∀ source, fault.message source = words ++ source) ∧
    (ofEntries document entries = .error .unshowable ↔
      ∃ value, BlamesFirstOf document entries value ∧
        document.isShowable value = false) ∧
    (∀ vocabulary, ofDocument document = .ok vocabulary ↔
      ∃ found, HasEntityTypes document found ∧
        ofEntries document found = .ok vocabulary) ∧
    (HasEntityTypes document entries → ∀ fault,
      ofDocument document = .error fault ↔
        ofEntries document entries = .error fault) ∧
    ((∀ found, ¬ HasEntityTypes document found) →
      ofDocument document = .error .notMapping ∨
      ofDocument document = .error .noEntityTypes ∨
        ofDocument document = .error .entityTypesNotMapping) := by
  refine ⟨exists_ofEntries_iff, ?_, fun _ => ofEntries_eq_error_iff, ?_,
    ofEntries_eq_unshowable_iff, ?_, ?_, ofDocument_of_not_hasEntityTypes⟩
  · intro vocabulary h
    exact ⟨isListedIn hmapping h,
      fun _ htype _ hslot => exists_compile_of_mem_names hmapping h htype hslot⟩
  · intro fault h
    exact exists_message_eq (ofEntries_eq_error_iff.mp h)
  · intro vocabulary
    simp only [ofDocument_eq_ok_iff, ofEntries_eq_ok_iff]
  · intro hentries fault
    rw [hentries.ofDocument]

/-- A list, a pair and an empty row of bytes list phrases. Of several entries
that are not in order the first one is reported, although the name of a later
one is wrong too. -/
theorem ofEntries_exact_threeTypes :
    let entries : Entries Scalar Value :=
      Entries.ofPairs [(.text "t_1".text, .container 0), (.text ['u'], .container 1),
        (.text ['v'], .scalar (.bytes []))]
    let spoiled : Entries Scalar Value :=
      Entries.ofPairs [(.text ['u'], .container 1),
        (.text ['n'], .scalar (.text ['a'])), (.null, .container 0)]
    let document : Document :=
      ⟨#[.list [.scalar (.text "a b".text), .scalar (.text [])],
        .pair (.scalar (.text ['x'])) (.scalar (.text ['x'])), .mapping entries,
        .mapping [(.null, .container 3), (entityTypesKey, .container 2)]],
          .container 3⟩
    let vocabulary : Vocabulary :=
      ⟨[("t_1".text, ["a b".text, []]), (['u'], [['x'], ['x']]), (['v'], [])]⟩
    entries.IsMapping ∧ spoiled.IsMapping ∧
      ofEntries document entries = .ok vocabulary ∧
      (∀ entry ∈ entries, IsInOrder document entry) ∧
      IsListedIn document entries vocabulary ∧
      HasEntityTypes document entries ∧ ofDocument document = .ok vocabulary ∧
      ofEntries document spoiled = .error (.notPhrases ['n']) ∧
      FirstOffends document spoiled (.notPhrases ['n']) := by
  intro entries spoiled document vocabulary
  have hmapping : entries.IsMapping := Entries.isMapping_ofPairs _
  have hspoiled : spoiled.IsMapping := Entries.isMapping_ofPairs _
  have hok : ofEntries document entries = .ok vocabulary := by rfl
  have herror : ofEntries document spoiled = .error (.notPhrases ['n']) := by rfl
  have htypes : HasEntityTypes document entries := ⟨_, _, rfl, rfl, rfl⟩
  obtain ⟨hiff, hholds, _, _, _, hdocument, _⟩ := ofEntries_exact document hmapping
  obtain ⟨_, _, hfault, _⟩ := ofEntries_exact document hspoiled
  exact ⟨hmapping, hspoiled, hok, hiff.mp ⟨vocabulary, hok⟩,
    (hholds vocabulary hok).1, htypes,
    (hdocument vocabulary).mpr ⟨entries, htypes, hok⟩, herror, (hfault _).mp herror⟩

/-- A phrase that is a whole number of 4301 digits is to blame, and nothing
is said of it. -/
theorem not_ofEntries_exact_longInteger :
    let document : Document :=
      ⟨#[.list [.scalar (.int (.ofNat (Nat.pow 10 4300)))]], .scalar .null⟩
    let entries : Entries Scalar Value := [(.text "app".text, .container 0)]
    entries.IsMapping ∧ ¬ IsInOrder document (.text "app".text, .container 0) ∧
      ofEntries document entries = .error .unshowable ∧
      ¬ ∃ fault, fault ≠ .unshowable ∧
        ofEntries document entries = .error fault := by
  intro document entries
  have hfault : ofEntries document entries = .error .unshowable := by decide +kernel
  refine ⟨List.pairwise_singleton _ _, ?_, hfault, ?_⟩
  · rintro ⟨_, items, hitems, htexts⟩
    obtain rfl := Option.some.inj hitems
    obtain ⟨_, htext⟩ := htexts _ (List.mem_singleton_self _)
    cases htext
  · rintro ⟨fault, hne, herror⟩
    rw [hfault] at herror
    exact hne (Except.error.inj herror).symm

end Vocabulary

end UtteranceTemplate
