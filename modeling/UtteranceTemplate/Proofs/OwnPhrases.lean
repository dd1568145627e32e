import UtteranceTemplate.Proofs.CompileOutcome
import UtteranceTemplate.Proofs.ElidedSlots
import UtteranceTemplate.Proofs.OptionalFragments
import UtteranceTemplate.Proofs.VocabularyEntries
import UtteranceTemplate.Proofs.WiderVocabularies

/-!
A template that is one typed slot, and the phrases of its entity type.

Such a template compiles whatever the names are
(`Template.exists_compile_ofTypedSlot`), and it matches an utterance exactly if a
phrase that is tried asks for the letters of the utterance
(`Template.exists_isCutting_ofTypedSlot_iff`). A phrase that has words asks for its
own letters as it stands. A phrase of blanks asks for a space, which no utterance has
without a word behind it: it matches only where the empty phrase does.
-/

namespace UtteranceTemplate

open Pattern

/-- In any case a text has its own letters. -/
theorem Text.sameLetters_self (ignoreCase : Bool) (text : Text) :
    Text.sameLetters ignoreCase text text = true := by
  induction text with
  | nil => rfl
  | cons c text ih => simp [Text.sameLetters, ih]

/-- The text without letters has the letters of no other one. -/
theorem Text.sameLetters_nil_iff {ignoreCase : Bool} {text : Text} :
    Text.sameLetters ignoreCase text [] = true ↔ text = [] := by
  cases text <;> simp [Text.sameLetters]

namespace Fragment

theorem isPadded_of_isName {name : Text} (h : Vocabulary.isName name = true) :
    IsPadded name name := by
  simp only [Vocabulary.isName, Bool.and_eq_true, Bool.not_eq_true',
    List.all_eq_true] at h
  obtain ⟨hne, hword⟩ := h
  refine ⟨by simpa using hne, hword, [], [], Text.isGap_nil, Text.isGap_nil, ?_⟩
  simp

theorem phraseText_eq_nil_iff {phrase : Text} :
    phraseText phrase = [] ↔ phrase = [] := by
  cases phrase <;> simp [phraseText]

/-- A phrase with words asks for its normal form. -/
theorem phraseText_of_words_ne_nil {phrase : Text} (h : phrase.words ≠ []) :
    phraseText phrase = Utterance.normalize phrase := by
  have hne : phrase ≠ [] := by
    rintro rfl
    exact h rfl
  rw [SpacedRows.normalize_of_words_ne_nil h, phraseText]
  simp [hne]

/-- The empty phrase is always tried. -/
theorem triesPhrase_nil (ignoreCase : Bool) (phrases : List Text) :
    triesPhrase ignoreCase phrases [] = true := by
  rw [← Bool.not_eq_false, triesPhrase_eq_false_iff]
  rintro ⟨_, c, hlast, _⟩
  cases hlast

section Asks

variable {ignoreCase : Bool} {phrases : List Text}

/-- Only the empty phrase asks for nothing. -/
theorem exists_asks_nil_iff :
    (∃ other ∈ phrases, triesPhrase ignoreCase phrases other = true ∧
        Text.sameLetters ignoreCase (phraseText other) [] = true) ↔
      [] ∈ phrases := by
  constructor
  · rintro ⟨other, hother, _, hsame⟩
    rw [Text.sameLetters_nil_iff, phraseText_eq_nil_iff] at hsame
    rwa [← hsame]
  · intro hmem
    exact ⟨[], hmem, triesPhrase_nil ignoreCase phrases, rfl⟩

/-- A phrase with words asks for its own letters, if it is tried; where letter
case counts it is. -/
theorem exists_asks_normalize {phrase : Text} (hphrase : phrase ∈ phrases)
    (hwords : phrase.words ≠ [])
    (htried : ignoreCase = true → triesPhrase ignoreCase phrases phrase = true) :
    ∃ other ∈ phrases, triesPhrase ignoreCase phrases other = true ∧
      Text.sameLetters ignoreCase (phraseText other)
        (Utterance.normalize phrase) = true := by
  have htries : triesPhrase ignoreCase phrases phrase = true := by
    cases ignoreCase with
    | false => exact triesPhrase_false phrases phrase
    | true => exact htried rfl
  refine ⟨phrase, hphrase, htries, ?_⟩
  rw [phraseText_of_words_ne_nil hwords]
  exact Text.sameLetters_self ignoreCase _

end Asks

end Fragment

/-- The entity types of a checked vocabulary have names. -/
theorem Vocabulary.isName_of_lookup?_eq_some {document : Document}
    {entries : Entries Scalar Value} {vocabulary : Vocabulary}
    (h : ofEntries document entries = .ok vocabulary) {type : Text}
    {phrases : List Text} (hphrases : vocabulary.lookup? type = some phrases) :
    isName type = true := by
  have hmem : (type, phrases) ∈ vocabulary.entries :=
    Entries.mem_of_get?_eq_some hphrases
  obtain ⟨_, _, hlists⟩ :=
    exists_of_forall₂_of_mem (ofEntries_eq_ok_iff.mp h).flip hmem
  exact hlists.isName

namespace Template

def ofTypedSlot (name type : Text) : Text :=
  .char '[' :: (name ++ .char ':' :: (type ++ [.char ']']))

section TypedSlot

variable {vocabulary : Vocabulary} {ignoreCase : Bool} {name type : Text}
  {phrases : List Text}

theorem parts_ofTypedSlot (hname : Vocabulary.isName name = true)
    (htype : Vocabulary.isName type = true) :
    (Reading.ofTemplate (ofTypedSlot name type)).parts =
        [(ofTypedSlot name type, .typedSlot name type)] ∧
      (Reading.ofTemplate (ofTypedSlot name type)).unread = [] := by
  have hsource : (Fragment.typedSlot name type).IsSource (ofTypedSlot name type) :=
    .typedSlot (Fragment.isPadded_of_isName hname)
      (Fragment.isPadded_of_isName htype)
  have hkind : (Fragment.typedSlot name type).production ≠ .words := by
    simp [Fragment.production]
  have hpart := ReadsAs.part Text.isGap_nil
    (fun c hc => Fragment.not_isBlank_of_isOpening (hsource.isOpening_head hkind hc))
      hsource
    (fun heq => absurd heq hkind) readsAs_nil
  rw [List.nil_append, List.append_nil] at hpart
  exact readsAs_iff.mp hpart

theorem fragments_ofTypedSlot (hname : Vocabulary.isName name = true)
    (htype : Vocabulary.isName type = true) :
    fragments (ofTypedSlot name type) = [.typedSlot name type] := by
  have hparts := congrArg (List.map Prod.snd) (parts_ofTypedSlot hname htype).1
  rw [Reading.parts, List.map_map] at hparts
  exact hparts

theorem isBraceLocal_ofTypedSlot (hname : Vocabulary.isName name = true)
    (htype : Vocabulary.isName type = true) : IsBraceLocal
      (ofTypedSlot name type) := by
  rw [IsBraceLocal, fragments_ofTypedSlot hname htype]
  exact List.Pairwise.nil

/-- A slot of a known type compiles by itself. -/
theorem exists_compile_ofTypedSlot (hname : Vocabulary.isName name = true)
    (htype : Vocabulary.isName type = true)
    (hphrases : vocabulary.lookup? type = some phrases) :
    ∃ matcher, compile vocabulary (ofTypedSlot name type) = .ok matcher := by
  obtain ⟨hparts, hunread⟩ := parts_ofTypedSlot hname htype
  rw [exists_compile_iff, hparts, noneOffends_cons]
  refine ⟨⟨?_, noneOffends_nil⟩, hunread⟩
  intro error hoffends
  cases hoffends with
  | unknownType hunknown =>
      rw [hphrases] at hunknown
      cases hunknown
  | repeatedSlot _ _ htaken => cases htaken

theorem isCutting_ofTypedSlot_iff {wordingsOf : Fragment → List Wording}
    {text : Text} {pieces : List Wording} :
    IsCutting wordingsOf ignoreCase [.typedSlot name type] text pieces ↔
      ∃ piece, pieces = [piece] ∧ piece.text = text ∧
        (Fragment.typedSlot name type).Fits wordingsOf ignoreCase piece := by
  constructor
  · rintro ⟨hfits, rfl⟩
    obtain ⟨piece, _, hpiece, hnil, rfl⟩ := List.forall₂_cons_left_iff.mp hfits
    obtain rfl := List.forall₂_nil_left_iff.mp hnil
    exact ⟨piece, rfl, by simp, hpiece⟩
  · rintro ⟨piece, rfl, rfl, hfits⟩
    exact ⟨.cons hfits .nil, by simp⟩

/-- A typed slot takes the whole of a text exactly if one of the phrases that are
tried asks for its letters. -/
theorem exists_isCutting_ofTypedSlot_iff
    (hphrases : vocabulary.lookup? type = some phrases) (hne : phrases ≠ [])
    {text : Text} :
    (∃ pieces, IsCutting (Fragment.triedWordings vocabulary ignoreCase) ignoreCase
        [.typedSlot name type] text pieces) ↔
      ∃ other ∈ phrases, Fragment.triesPhrase ignoreCase phrases other = true ∧
        Text.sameLetters ignoreCase (Fragment.phraseText other) text = true := by
  have hof : vocabulary.phrasesOf type = phrases := by
    rw [Vocabulary.phrasesOf, hphrases]; rfl
  have hmem : ∀ wanted,
      wanted ∈
          ((Fragment.typedSlot name type).triedWordings vocabulary ignoreCase).map
          Wording.text ↔
        ∃ other ∈ phrases, Fragment.triesPhrase ignoreCase phrases other = true ∧
          wanted = Fragment.phraseText other := by
    intro wanted
    rw [Fragment.mem_map_text_triedWordings_typedSlot (hof ▸ hne), hof]
  constructor
  · rintro ⟨pieces, hcutting⟩
    obtain ⟨piece, _, rfl, wording, hwording, _, hsame⟩ :=
      isCutting_ofTypedSlot_iff.mp hcutting
    obtain ⟨other, hother, htries, htext⟩ :=
      (hmem _).mp (List.mem_map_of_mem hwording)
    exact ⟨other, hother, htries, htext ▸ hsame⟩
  · rintro ⟨other, hother, htries, hsame⟩
    obtain ⟨wording, hwording, htext⟩ :=
      List.mem_map.mp ((hmem _).mpr ⟨other, hother, htries, rfl⟩)
    refine ⟨[⟨wording.rank, text⟩], isCutting_ofTypedSlot_iff.mpr ⟨_, rfl, rfl, ?_⟩⟩
    exact ⟨wording, hwording, rfl, htext ▸ hsame⟩

/-- What a slot shows of an utterance that it takes as a whole. -/
def ownValue (utterance : Text) : Option Text :=
  if utterance.words = [] then none else some utterance.singleSpaced

theorem slotPieces_ofTypedSlot {utterance : Text} {piece : Wording}
    (h : piece.text = Utterance.normalize utterance) :
    slotPieces [.typedSlot name type] [piece] = [(name, ownValue utterance)] := by
  have hslots : slotPieces [.typedSlot name type] [piece] =
      [(name, if piece.text.isEmpty then none else some piece.text.tail)] := rfl
  rw [hslots, h, ownValue]
  by_cases hwords : utterance.words = []
  · simp [Utterance.normalize, hwords]
  · simp [SpacedRows.normalize_of_words_ne_nil hwords, hwords]

end TypedSlot

/-- The template that is one slot of a checked entity type compiles, and a phrase of
the type that it matches is shown in single spacing. It matches the phrase exactly if
a phrase that is tried asks for its letters: a phrase of blanks where the empty
phrase is listed too, a phrase with words wherever it is tried itself. -/
theorem ofTypedSlot_match_own_phrase {document : Document}
    {entries : Entries Scalar Value} {vocabulary : Vocabulary}
    (h : Vocabulary.ofEntries document entries = .ok vocabulary) {type : Text}
    {phrases : List Text} (hphrases : vocabulary.lookup? type = some phrases)
    {phrase : Text} (hphrase : phrase ∈ phrases) {name : Text}
    (hname : Vocabulary.isName name = true) (ignoreCase : Bool) :
    ∃ matcher outcome, compile vocabulary (ofTypedSlot name type) = .ok matcher ∧
      matcher.match? phrase ignoreCase = .ok outcome ∧
      (∀ found, outcome = some found → found.slots = [(name, ownValue phrase)]) ∧
      (outcome.isSome ↔
        ∃ other ∈ phrases, Fragment.triesPhrase ignoreCase phrases other = true ∧
        Text.sameLetters ignoreCase (Fragment.phraseText other)
          (Utterance.normalize phrase) =
          true) ∧
      (phrase.words = [] → (outcome.isSome ↔ [] ∈ phrases)) ∧
      (phrase.words ≠ [] →
        (ignoreCase = true → Fragment.triesPhrase ignoreCase phrases phrase = true) →
        outcome.isSome) := by
  have htype := Vocabulary.isName_of_lookup?_eq_some h hphrases
  have hfragments := fragments_ofTypedSlot hname htype
  have hlocal := isBraceLocal_ofTypedSlot hname htype
  obtain ⟨matcher, hcompile⟩ := exists_compile_ofTypedSlot hname htype hphrases
  obtain ⟨outcome, houtcome, hiff⟩ :=
    exists_outcome_iff_cutting hcompile hlocal phrase ignoreCase
  rw [hfragments, exists_isCutting_ofTypedSlot_iff hphrases
    (List.ne_nil_of_mem hphrase)] at hiff
  refine ⟨matcher, outcome, hcompile, houtcome, ?_, hiff, ?_, ?_⟩
  · rintro found rfl
    obtain ⟨_, _, pieces, hcutting, hslots⟩ :=
      exists_cutting_of_match hcompile hlocal houtcome
    rw [hfragments] at hcutting hslots
    obtain ⟨piece, rfl, hpiece, _⟩ := isCutting_ofTypedSlot_iff.mp hcutting
    rw [hslots, slotPieces_ofTypedSlot hpiece]
  · intro hwords
    rw [hiff, Utterance.normalize, hwords, List.flatMap_nil]
    exact Fragment.exists_asks_nil_iff
  · intro hwords htried
    exact hiff.mpr (Fragment.exists_asks_normalize hphrase hwords htried)

/-- The characters of the phrase have a meaning in patterns. -/
theorem ofTypedSlot_match_own_phrase_spelled :
    let phrase : Text := " a|\x7b  \\\x7d".text
    let document : Document :=
      ⟨#[.list [.scalar (.text [' ']), .scalar (.text phrase)]], .scalar .null⟩
    let entries : Entries Scalar Value := [(.text ['t'], .container 0)]
    let vocabulary : Vocabulary := ⟨[(['t'], [[' '], phrase])]⟩
    Vocabulary.ofEntries document entries = .ok vocabulary ∧
      vocabulary.lookup? [.char 't'] = some [[.char ' '], phrase] ∧
      phrase ∈ [[.char ' '], phrase] ∧
      Vocabulary.isName "x_1".text = true ∧ phrase.words ≠ [] ∧
      Fragment.triesPhrase true [[' '], phrase] phrase = true ∧
      ∃ matcher found, compile vocabulary (ofTypedSlot "x_1".text ['t']) =
        .ok matcher ∧
        matcher.match? phrase true = .ok (some found) ∧
        found.slots = [("x_1".text, some "a|\x7b \\\x7d".text)] := by
  intro phrase document entries vocabulary
  have hchecked : Vocabulary.ofEntries document entries = .ok vocabulary := by rfl
  have hphrases : vocabulary.lookup? [.char 't'] =
    some [[.char ' '], phrase] := by rfl
  have hphrase : phrase ∈ [[.char ' '], phrase] := by simp
  have hname : Vocabulary.isName "x_1".text = true := by decide
  have hwords : phrase.words ≠ [] := by decide
  have htries : Fragment.triesPhrase true [[' '], phrase] phrase = true := by decide
  obtain ⟨matcher, outcome, hcompile, hmatch, hslots, _, _, hspoken⟩ :=
    ofTypedSlot_match_own_phrase hchecked hphrases hphrase hname true
  obtain ⟨found, rfl⟩ := Option.isSome_iff_exists.mp (hspoken hwords fun _ => htries)
  refine ⟨hchecked, hphrases, hphrase, hname, hwords, htries, matcher, found,
    hcompile, hmatch, ?_⟩
  rw [hslots found rfl]
  decide

/-- A phrase of blanks passes the check of the vocabulary, and its own slot
does not take it. -/
theorem not_match_own_phrase_blank :
    let vocabulary : Vocabulary := ⟨[(['t'], [[' ']])]⟩
    let matcher : Matcher :=
      { template := "[x:t]".text, slots := [['x']], slotTypes := [(['x'], ['t'])]
        pattern := "( )".text }
    Vocabulary.ofRows [(.text ['t'], .array [.text [' ']])] = .ok vocabulary ∧
      vocabulary.lookup? [.char 't'] = some [[.char ' ']] ∧
      Vocabulary.isName [.char 'x'] = true ∧
      compile vocabulary (ofTypedSlot ['x'] ['t']) = .ok matcher ∧
      ∀ ignoreCase, matcher.match? [' '] ignoreCase = .ok none := by
  intro vocabulary matcher
  have hcompile : compile vocabulary "[x:t]".text = .ok matcher := by
    simp only [compile, ofTemplate_oneTyped]
    rfl
  refine ⟨by rfl, by rfl, by decide, hcompile, ?_⟩
  intro ignoreCase
  cases ignoreCase <;> decide

end Template

end UtteranceTemplate
