import UtteranceTemplate.Proofs.TypedSlots
import UtteranceTemplate.Proofs.WiderPatterns

/-!
More phrases lose no utterance, and the order and the repetition of phrases
decide nothing.

The tokens of a template for two vocabularies differ inside the captures of typed
slots only (`Fragment.widens_tokens`), and resolving braces keeps it so, wherever
they stand (`Token.Widens.resolveFrom`). So the pattern for the one vocabulary has
the captures of the other, each of them wider if every phrase that the one tries is
tried by the other (`Template.accepts_of_triedWordings`).

A phrase is tried unless the phrases of its type make a set that loses its last
letter. A phrase that is added can make such a set of phrases that were tried before.
-/

namespace UtteranceTemplate

open Pattern Token

namespace Pattern

namespace Token

open Branches

variable {ignoreCase : Bool}

/-- Rows of tokens that differ inside captures only; what a capture of the second
surrounds reads as a pattern that covers what that of the first reads as. -/
inductive Widens (ignoreCase : Bool) : List Token → List Token → Prop
  | nil : Widens ignoreCase [] []
  | cons (token : Token) {rest rest' : List Token}
      (hrest : Widens ignoreCase rest rest') :
      Widens ignoreCase (token :: rest) (token :: rest')
  | capture {body body' rest rest' : List Token} {inner inner' : Branches}
      (hbody : FillsCapture body) (hbody' : FillsCapture body')
      (hinner : Leads .start body inner) (hinner' : Leads .start body' inner')
      (hcovers : Covers ignoreCase inner.pattern inner'.pattern)
      (hrest : Widens ignoreCase rest rest') :
      Widens ignoreCase (.openCapture :: body ++ .close :: rest)
        (.openCapture :: body' ++ .close :: rest')

namespace Widens

variable {tokens tokens' more more' : List Token}

theorem append (hfront : Widens ignoreCase tokens tokens')
    (hback : Widens ignoreCase more more') :
    Widens ignoreCase (tokens ++ more) (tokens' ++ more') := by
  induction hfront with
  | nil => exact hback
  | cons token _ ih => exact .cons token ih
  | capture hbody hbody' hinner hinner' hcovers _ ih =>
      simpa using Widens.capture hbody hbody' hinner hinner' hcovers ih

theorem refl (tokens : List Token) : Widens ignoreCase tokens tokens := by
  induction tokens with
  | nil => exact .nil
  | cons token _ ih => exact .cons token ih

/-- Captures hold no braces, so related rows hold the same ones. -/
theorem rightBrace_mem_iff (h : Widens ignoreCase tokens tokens') :
    .rightBrace ∈ tokens ↔ .rightBrace ∈ tokens' := by
  induction h with
  | nil => rfl
  | cons token _ ih => rw [List.mem_cons, List.mem_cons, ih]
  | capture hbody hbody' _ _ _ _ ih =>
      simp [hbody.brace_not_mem.2, hbody'.brace_not_mem.2, ih]

theorem resolveFrom (h : Widens ignoreCase tokens tokens') (inside : Bool) :
    Widens ignoreCase (Token.resolveFrom inside tokens)
      (Token.resolveFrom inside tokens') := by
  induction h generalizing inside with
  | nil => exact .nil
  | @cons token rest rest' hrest ih =>
      have hcontains : rest.contains .rightBrace = rest'.contains .rightBrace := by
        rw [Bool.eq_iff_iff, List.contains_iff_mem, List.contains_iff_mem]
        exact hrest.rightBrace_mem_iff
      cases inside with
      | true =>
          by_cases htoken : token = .rightBrace
          · subst htoken
            exact .cons _ (.cons _ (ih false))
          · have hkeep : ∀ row, Token.resolveFrom true (token :: row) =
                token :: Token.resolveFrom true row := by
              intro row
              cases token <;> simp_all [Token.resolveFrom]
            rw [hkeep, hkeep]
            exact .cons _ (ih true)
      | false =>
          by_cases htoken : token = .leftBrace
          · subst htoken
            simp only [Token.resolveFrom, Bool.false_eq_true, if_false, hcontains]
            split
            · exact .cons _ (ih true)
            · exact .cons _ (ih false)
          · have hnot : token = .leftBrace → ∀ row : List Token, .rightBrace ∉ row :=
              fun heq => absurd heq htoken
            rw [resolveFrom_false_cons fun heq => hnot heq rest,
              resolveFrom_false_cons fun heq => hnot heq rest']
            exact .cons _ (ih false)
  | @capture body body' rest rest' _ _ hbody hbody' hinner hinner' hcovers _ ih =>
      have hblock : ∀ {body : List Token} (rest : List Token), FillsCapture body →
          Token.resolveFrom inside (.openCapture :: body ++ .close :: rest) =
            .openCapture :: body ++ .close :: Token.resolveFrom inside rest := by
        intro body rest hbody
        obtain ⟨hleft, hright⟩ := hbody.brace_not_mem
        have hfront :
            Token.resolveFrom inside ((.openCapture :: body ++ [.close]) ++ rest) =
            (.openCapture :: body ++ [.close]) ++ Token.resolveFrom inside rest :=
          resolveFrom_append_of_not_mem inside (by simpa using hleft)
            (by simpa using hright) rest
        simpa using hfront
      rw [hblock rest hbody, hblock rest' hbody']
      exact .capture hbody hbody' hinner hinner' hcovers (ih inside)

/-- A capture adds one item, behind its closing parenthesis. -/
theorem run_capture {body : List Token} {inner : Branches}
    (hinner : Leads .start body inner) {row : List (Nat × Token)}
    (hrow : row.map Prod.snd = .openCapture :: body ++ [.close]) (reader : Reader) :
    reader.run row =
      .ok ⟨reader.groups, reader.current.push (.capture inner.pattern),
        some .close⟩ := by
  obtain ⟨last, hlast⟩ :=
    Leads.capture reader.current hinner reader.groups reader.previous row hrow
  obtain ⟨front, back, rfl, _, hback⟩ := List.map_eq_append_iff.mp hrow
  obtain ⟨⟨position, token⟩, rfl, htoken⟩ := List.map_eq_singleton_iff.mp hback
  have hprevious : last = some token := previous_of_run_append_singleton hlast
  rw [hlast, hprevious, show token = .close from htoken]

/-- Related rows lead from related readers to related ones, wherever their
tokens stand. -/
theorem run (h : Widens ignoreCase tokens tokens') {row row' : List (Nat × Token)}
    (hrow : row.map Prod.snd = tokens) (hrow' : row'.map Prod.snd = tokens')
    {narrow wide : Reader} (hreader : narrow.Widens ignoreCase wide) {last : Reader}
    (hlast : narrow.run row = .ok last) :
    ∃ last', wide.run row' = .ok last' ∧ last.Widens ignoreCase last' := by
  induction h generalizing row row' narrow wide with
  | nil =>
      rw [List.map_eq_nil_iff] at hrow hrow'
      subst hrow hrow'
      cases hlast
      exact ⟨wide, rfl, hreader⟩
  | cons token _ ih =>
      obtain ⟨⟨position, first⟩, row, rfl, hfirst, hrest⟩ :=
        List.map_eq_cons_iff.mp hrow
      obtain ⟨⟨position', first'⟩, row', rfl, hfirst', hrest'⟩ :=
        List.map_eq_cons_iff.mp hrow'
      obtain rfl : first = token := hfirst
      obtain rfl : first' = first := hfirst'
      rw [Reader.run] at hlast
      split at hlast
      · rename_i next hnext
        obtain ⟨next', hnext', hreader'⟩ := hreader.step hnext
        rw [Reader.run, hnext']
        exact ih hrest hrest' hreader' hlast
      · cases hlast
  | @capture body body' rest rest' inner inner' _ _ hinner hinner' hcovers _ ih =>
      have hblock : ∀ body rest : List Token,
          .openCapture :: body ++ .close :: rest =
          (.openCapture :: body ++ [.close]) ++ rest := by simp
      rw [hblock] at hrow hrow'
      obtain ⟨front, row, rfl, hfront, hrest⟩ := List.map_eq_append_iff.mp hrow
      obtain ⟨front', row', rfl, hfront', hrest'⟩ := List.map_eq_append_iff.mp hrow'
      rw [Reader.run_append, run_capture hinner hfront] at hlast
      rw [Reader.run_append, run_capture hinner' hfront']
      have hbehind : Reader.Widens ignoreCase
          ⟨narrow.groups, narrow.current.push (.capture inner.pattern), some .close⟩
          ⟨wide.groups, wide.current.push (.capture inner'.pattern), some .close⟩ :=
        ⟨hreader.groups, hreader.current.push (.capture hcovers), rfl⟩
      exact ih hrest hrest' hbehind hlast

/-- Related rows are read as related patterns. -/
theorem ofTokens? (h : Widens ignoreCase tokens tokens') {pattern : Pattern}
    (hread : Pattern.ofTokens? (placed 0 tokens) = .ok pattern) :
    ∃ pattern', Pattern.ofTokens? (placed 0 tokens') = .ok pattern' ∧
      Pattern.Widens ignoreCase pattern pattern' := by
  rw [Pattern.ofTokens?] at hread
  split at hread
  · rename_i last hlast
    obtain ⟨last', hlast', hreader⟩ :=
      h.run (map_snd_placed 0 tokens) (map_snd_placed 0 tokens')
        Reader.Widens.start hlast
    rw [Pattern.ofTokens?, hlast']
    obtain ⟨groups, current, previous⟩ := last
    obtain ⟨groups', current', previous'⟩ := last'
    obtain ⟨hgroups, hcurrent, _⟩ := hreader
    simp only at hgroups hcurrent
    cases hgroups with
    | nil =>
        cases hread
        exact ⟨_, rfl, hcurrent.pattern⟩
    | cons _ _ => cases hread
  · cases hread

end Widens

end Token

end Pattern

namespace Fragment

variable {vocabulary wider : Vocabulary} {ignoreCase : Bool}

/-- The phrases of a type cover those of another vocabulary if they try every text
that those try. -/
theorem covers_typedSlot {name type : Text}
    (h : ((typedSlot name type).triedWordings vocabulary ignoreCase).map
      Wording.text ⊆
        ((typedSlot name type).triedWordings wider ignoreCase).map Wording.text) :
    Covers ignoreCase (choice ((typedSlot name type).branches vocabulary))
      (choice ((typedSlot name type).branches wider)) := by
  intro text rest hleaves
  have hbranches : ∀ vocabulary : Vocabulary,
      (typedSlot name type).branches vocabulary ≠ [] :=
    fun _ => branchItems_ne_nil _ _
  obtain ⟨wanted, hwanted, hafter⟩ :=
    (reads_branches vocabulary ignoreCase
      (hbranches vocabulary)).singleton.leaves_iff.mp hleaves
  exact (reads_branches wider ignoreCase (hbranches wider)).singleton.leaves_iff.mpr
    ⟨wanted, h hwanted, hafter⟩

/-- The tokens of a fragment for two vocabularies differ in the capture of a
typed slot only. -/
theorem widens_tokens {fragment : Fragment}
    (h : (fragment.triedWordings vocabulary ignoreCase).map Wording.text ⊆
      (fragment.triedWordings wider ignoreCase).map Wording.text) :
    Token.Widens ignoreCase (fragment.tokens vocabulary)
      (fragment.tokens wider) := by
  cases fragment with
  | parameter | untypedSlot | alternatives | words => exact .refl _
  | typedSlot name type =>
      obtain ⟨inner, hinner, hpattern⟩ :=
        exists_leads_typed ((vocabulary.lookup? type).getD [])
      obtain ⟨inner', hinner', hpattern'⟩ :=
        exists_leads_typed ((wider.lookup? type).getD [])
      have hcovers := covers_typedSlot h
      rw [branches, ← hpattern, branches, ← hpattern'] at hcovers
      exact .capture (fillsCapture_captureTokens vocabulary (some type))
        (fillsCapture_captureTokens wider (some type)) hinner hinner' hcovers .nil

theorem widens_flatMap_tokens {fragments : List Fragment}
    (h : ∀ fragment ∈ fragments,
      (fragment.triedWordings vocabulary ignoreCase).map Wording.text ⊆
        (fragment.triedWordings wider ignoreCase).map Wording.text) :
    Token.Widens ignoreCase (fragments.flatMap (tokens vocabulary))
      (fragments.flatMap (tokens wider)) := by
  induction fragments with
  | nil => exact .nil
  | cons fragment fragments ih =>
      simp only [List.forall_mem_cons] at h
      exact (widens_tokens h.1).append (ih h.2)

end Fragment

/-- The phrases of an entity type; a type that is not in the vocabulary has none. -/
def Vocabulary.phrasesOf (vocabulary : Vocabulary) (type : Text) : List Text :=
  (vocabulary.lookup? type).getD []

/-- Texts that stand alone as choices differ in their last letter only if they have a
common start with one letter behind it, and are not all the same. -/
theorem differInLast_singletons_iff {texts : List Text} :
    differInLast (texts.map fun text => [text]) = true ↔
      ∃ start : Text, (∀ text ∈ texts, ∃ c, text = start ++ [c]) ∧
        ∃ text ∈ texts, ∃ other ∈ texts, text ≠ other := by
  rw [differInLast_iff]
  constructor
  · rintro ⟨start, first, others, htexts, c, hc, hne⟩
    have hletters : texts = (first :: others).map fun d => start ++ [d] := by
      have hflat := congrArg List.flatten htexts
      rwa [← List.flatMap_def, ← List.flatMap_def, List.flatMap_singleton',
        ← List.map_eq_flatMap] at hflat
    subst hletters
    refine ⟨start, ?_, _, List.mem_map_of_mem (List.mem_cons_of_mem first hc), _,
      List.mem_map_of_mem List.mem_cons_self, by simpa using hne⟩
    intro text htext
    obtain ⟨d, _, rfl⟩ := List.mem_map.mp htext
    exact ⟨d, rfl⟩
  · rintro ⟨start, hall, text, htext, other, hother, hne⟩
    obtain ⟨letters, rfl⟩ := exists_eq_map_of_forall_mem hall
    obtain ⟨c, hc, rfl⟩ := List.mem_map.mp htext
    obtain ⟨d, hd, rfl⟩ := List.mem_map.mp hother
    cases letters with
    | nil => cases hc
    | cons first others =>
        refine ⟨start, first, others, by rw [List.map_map]; rfl, ?_⟩
        by_contra hsame
        have hfirst : ∀ e ∈ first :: others, e = first := by
          intro e he
          rcases List.mem_cons.mp he with rfl | he
          · rfl
          · by_contra hother
            exact hsame ⟨e, he, hother⟩
        exact hne (by rw [hfirst c hc, hfirst d hd])

namespace Fragment

variable {ignoreCase : Bool} {phrases more : List Text}

/-- What a phrase asks of an utterance: nothing if it is empty, else its words
behind a space. -/
def phraseText (phrase : Text) : Text := if phrase.isEmpty then []
    else ' ' :: phrase.singleSpaced

def triesPhrase (ignoreCase : Bool) (phrases : List Text) (phrase : Text) : Bool :=
  isTried ignoreCase (phrases.map fun other => [phraseText other])
    (phraseText phrase)

/-- A phrase is not tried exactly if the phrases of its type differ in their last
letter only, and the set of these letters loses the last letter of the phrase. -/
theorem triesPhrase_eq_false_iff {phrase : Text} :
    triesPhrase ignoreCase phrases phrase = false ↔
      (∃ start : Text, (∀ text ∈ phrases.map phraseText, ∃ c, text = start ++ [c]) ∧
        ∃ text ∈ phrases.map phraseText, ∃ other ∈ phrases.map phraseText,
          text ≠ other) ∧
      ∃ c, (phraseText phrase).getLast? = some c ∧ isLost ignoreCase c = true := by
  rw [← differInLast_singletons_iff, List.map_map, triesPhrase, isTried,
    Bool.not_eq_false', Bool.and_eq_true, Option.any_eq_true]
  rfl

/-- Where case counts every phrase is tried. -/
theorem triesPhrase_false (phrases : List Text) (phrase : Text) :
    triesPhrase false phrases phrase = true :=
  isTried_false _ _

/-- Neither the order nor the repetition of phrases decides which of them are
tried. -/
theorem triesPhrase_congr (hsubset : phrases ⊆ more) (hsuperset : more ⊆ phrases)
    (phrase : Text) :
    triesPhrase ignoreCase phrases phrase = triesPhrase ignoreCase more phrase := by
  have hmem : ∀ text, text ∈ phrases.map phraseText ↔ text ∈ more.map phraseText :=
    fun text => ⟨fun h => List.map_subset phraseText hsubset h,
      fun h => List.map_subset phraseText hsuperset h⟩
  have hfalse : triesPhrase ignoreCase phrases phrase = false ↔
      triesPhrase ignoreCase more phrase = false := by
    rw [triesPhrase_eq_false_iff, triesPhrase_eq_false_iff]
    simp only [hmem]
  cases hmore : triesPhrase ignoreCase more phrase with
  | false => exact hfalse.mpr hmore
  | true =>
      rw [← Bool.not_eq_false, hfalse, hmore]
      simp

/-- A typed slot tries the texts of those phrases that are tried. -/
theorem mem_map_text_triedWordings_typedSlot {vocabulary : Vocabulary}
    {name type text : Text} (hne : vocabulary.phrasesOf type ≠ []) :
    text ∈
      ((typedSlot name type).triedWordings vocabulary ignoreCase).map Wording.text ↔
      ∃ phrase ∈ vocabulary.phrasesOf type,
        triesPhrase ignoreCase (vocabulary.phrasesOf type) phrase = true ∧
          text = phraseText phrase := by
  have hchoices :
      ((typedSlot name type).choices vocabulary).map (List.map Wording.text) =
      (vocabulary.phrasesOf type).map fun phrase => [phraseText phrase] := by
    have hleast : atLeastOne (vocabulary.phrasesOf type) =
        vocabulary.phrasesOf type := by
      simp [atLeastOne, hne]
    rw [choices, Wording.choices, ← Vocabulary.phrasesOf, hleast, List.map_map]
    apply List.map_congr_left
    intro phrase _
    rw [Function.comp_apply, phraseText]
    split <;> rfl
  rw [map_text_triedWordings, hchoices, ← List.flatMap_def, List.mem_filter,
    List.mem_flatMap]
  constructor
  · rintro ⟨⟨phrase, hphrase, htext⟩, htried⟩
    obtain rfl := List.mem_singleton.mp htext
    exact ⟨phrase, hphrase, htried, rfl⟩
  · rintro ⟨phrase, hphrase, htried, rfl⟩
    exact ⟨⟨phrase, hphrase, List.mem_singleton_self _⟩, htried⟩

end Fragment

namespace Template

variable {vocabulary wider : Vocabulary} {template : Text}
  {matcher matcher' : Matcher} {utterance : Text} {ignoreCase : Bool}

/-- A matcher accepts what a matcher of another vocabulary accepts if it tries every
text that the other one tries for a slot. -/
theorem accepts_of_triedWordings (h : compile vocabulary template = .ok matcher)
    (hwider : compile wider template = .ok matcher')
    (htried : ∀ fragment ∈ fragments template,
      (fragment.triedWordings vocabulary ignoreCase).map Wording.text ⊆
        (fragment.triedWordings wider ignoreCase).map Wording.text)
    (haccepts : matcher.Accepts utterance ignoreCase) :
    matcher'.Accepts utterance ignoreCase := by
  obtain ⟨pattern, hread, htokens⟩ := exists_pattern_of_compile h
  obtain ⟨pattern', hread', htokens'⟩ := exists_pattern_of_compile hwider
  have hrows := (Fragment.widens_flatMap_tokens htried).resolveFrom false
  obtain ⟨found, hfound, hwidens⟩ := hrows.ofTokens? htokens
  obtain rfl : found = pattern' := Except.ok.inj (hfound.symm.trans htokens')
  rw [Matcher.accepts_iff_leaves hread] at haccepts
  rw [Matcher.accepts_iff_leaves hread']
  exact hwidens.covers _ _ haccepts

/-- More phrases that are still tried lose no utterance. -/
theorem accepts_of_triesPhrase (h : compile vocabulary template = .ok matcher)
    (hwider : compile wider template = .ok matcher')
    (hphrases : ∀ slot type, (slot, some type) ∈ slots template →
      vocabulary.phrasesOf type ≠ [] ∧
        vocabulary.phrasesOf type ⊆ wider.phrasesOf type)
    (htried : ∀ slot type, (slot, some type) ∈ slots template →
      ∀ phrase ∈ vocabulary.phrasesOf type, Fragment.triesPhrase ignoreCase
    (vocabulary.phrasesOf type) phrase = true → Fragment.triesPhrase ignoreCase
    (wider.phrasesOf type) phrase = true)
    (haccepts : matcher.Accepts utterance ignoreCase) :
    matcher'.Accepts utterance ignoreCase := by
  refine accepts_of_triedWordings h hwider ?_ haccepts
  intro fragment hfragment text htext
  cases fragment with
  | parameter | untypedSlot | alternatives | words => exact htext
  | typedSlot slot type =>
      have hslot : (slot, some type) ∈ slots template :=
        List.mem_filterMap.mpr ⟨.typedSlot slot type, hfragment, rfl⟩
      obtain ⟨hne, hsubset⟩ := hphrases slot type hslot
      have hne' : wider.phrasesOf type ≠ [] := by
        obtain ⟨phrase, hphrase⟩ := List.exists_mem_of_ne_nil _ hne
        exact List.ne_nil_of_mem (hsubset hphrase)
      rw [Fragment.mem_map_text_triedWordings_typedSlot hne] at htext
      obtain ⟨phrase, hphrase, hkept, rfl⟩ := htext
      rw [Fragment.mem_map_text_triedWordings_typedSlot hne']
      exact ⟨phrase, hsubset hphrase,
        htried slot type hslot phrase hphrase hkept, rfl⟩

/-- If the phrases of every typed slot are among those of another vocabulary, an
utterance is not lost with the other vocabulary unless case does not count and the
other phrases of a type make a set that loses one of its phrases. If they are the
same phrases, in whatever order and however often, the same utterances match. -/
theorem accepts_of_more_phrases
    (h : compile vocabulary template = .ok matcher ∨ ∃ given : UncheckedVocabulary,
      given.textual = vocabulary ∧ given.compile template = .ok matcher)
    (hwider : compile wider template = .ok matcher' ∨ ∃ given : UncheckedVocabulary,
      given.textual = wider ∧ given.compile template = .ok matcher')
    (hphrases : ∀ slot type, (slot, some type) ∈ slots template →
      vocabulary.phrasesOf type ≠ [] ∧
        vocabulary.phrasesOf type ⊆ wider.phrasesOf type)
    (utterance : Text) (ignoreCase : Bool) :
    ((ignoreCase = true → ∀ slot type, (slot, some type) ∈ slots template →
        ∀ phrase ∈ vocabulary.phrasesOf type,
          Fragment.triesPhrase ignoreCase (vocabulary.phrasesOf type) phrase = true →
            Fragment.triesPhrase ignoreCase (wider.phrasesOf type) phrase = true) →
      matcher.Accepts utterance ignoreCase → matcher'.Accepts utterance ignoreCase) ∧
    ((∀ slot type, (slot, some type) ∈ slots template →
        wider.phrasesOf type ⊆ vocabulary.phrasesOf type) →
      (matcher.Accepts utterance ignoreCase ↔
        matcher'.Accepts utterance ignoreCase)) := by
  have hcompile := compile_eq_ok h
  have hcompile' := compile_eq_ok hwider
  constructor
  · intro htried
    apply accepts_of_triesPhrase hcompile hcompile' hphrases
    intro slot type hslot phrase hphrase hkept
    cases ignoreCase with
    | false => exact Fragment.triesPhrase_false _ _
    | true => exact htried rfl slot type hslot phrase hphrase hkept
  · intro hsame
    constructor
    · apply accepts_of_triesPhrase hcompile hcompile' hphrases
      intro slot type hslot phrase _ hkept
      rwa [← Fragment.triesPhrase_congr (hphrases slot type hslot).2
        (hsame slot type hslot)]
    · have hphrases' : ∀ slot type, (slot, some type) ∈ slots template →
          wider.phrasesOf type ≠ [] ∧
            wider.phrasesOf type ⊆ vocabulary.phrasesOf type := by
        intro slot type hslot
        obtain ⟨hne, hsubset⟩ := hphrases slot type hslot
        obtain ⟨phrase, hphrase⟩ := List.exists_mem_of_ne_nil _ hne
        exact ⟨List.ne_nil_of_mem (hsubset hphrase), hsame slot type hslot⟩
      apply accepts_of_triesPhrase hcompile' hcompile hphrases'
      intro slot type hslot phrase _ hkept
      rwa [Fragment.triesPhrase_congr (hphrases slot type hslot).2
        (hsame slot type hslot)]

theorem slots_enclosing :
    slots "(x|\x7by) [s:t] z\x7d".text = [([.char 's'], some [.char 't'])] := by
  rw [slots, fragments, ofTemplate_enclosing]
  rfl

/-- The braces enclose the slot from inside an alternative. A third phrase loses
nothing, and neither does listing the two in another order, one of them twice. -/
theorem accepts_of_more_phrases_enclosing :
    let vocabulary : Vocabulary := ⟨[(['t'], ["a\x7d".text, "b  |c".text])]⟩
    let wider : Vocabulary := ⟨[(['t'], [['d'], "b  |c".text, "a\x7d".text])]⟩
    let shuffled : Vocabulary :=
      ⟨[(['t'], ["b  |c".text, "a\x7d".text, "b  |c".text])]⟩
    let template := "(x|\x7by) [s:t] z\x7d".text
    let utterance := "y B  |C z".text
    let matcher : Matcher :=
      { template, slots := [['s']], slotTypes := [(['s'], ['t'])]
        pattern := "(?: x| (?:y)( a\\\x7d| b \\|c) z)?".text }
    let matcher' : Matcher :=
      { template, slots := [['s']], slotTypes := [(['s'], ['t'])]
        pattern := "(?: x| (?:y)( d| b \\|c| a\\\x7d) z)?".text }
    let matcher'' : Matcher :=
      { template, slots := [['s']], slotTypes := [(['s'], ['t'])]
        pattern := "(?: x| (?:y)( b \\|c| a\\\x7d| b \\|c) z)?".text }
    compile vocabulary template = .ok matcher ∧
      compile wider template = .ok matcher' ∧
      compile shuffled template = .ok matcher'' ∧
      (∀ slot type, (slot, some type) ∈ slots template →
        vocabulary.phrasesOf type ≠ [] ∧
          vocabulary.phrasesOf type ⊆ wider.phrasesOf type) ∧
      matcher.Accepts utterance true ∧ matcher'.Accepts utterance true ∧
      (matcher.Accepts utterance true ↔ matcher''.Accepts utterance true) := by
  intro vocabulary wider shuffled template utterance matcher matcher' matcher''
  have hcompile : compile vocabulary template = .ok matcher := by
    simp only [template, compile, ofTemplate_enclosing]
    rfl
  have hcompile' : compile wider template = .ok matcher' := by
    simp only [template, compile, ofTemplate_enclosing]
    rfl
  have hcompile'' : compile shuffled template = .ok matcher'' := by
    simp only [template, compile, ofTemplate_enclosing]
    rfl
  have hslot : ∀ slot type, (slot, some type) ∈ slots template →
      type = [.char 't'] := by
    intro slot type hmem
    rw [slots_enclosing, List.mem_singleton] at hmem
    cases hmem
    rfl
  have hphrases : ∀ slot type, (slot, some type) ∈ slots template →
      vocabulary.phrasesOf type ≠ [] ∧
        vocabulary.phrasesOf type ⊆ wider.phrasesOf type := by
    intro slot type hmem
    rw [hslot slot type hmem]
    decide
  have hphrases'' : ∀ slot type, (slot, some type) ∈ slots template →
      vocabulary.phrasesOf type ≠ [] ∧
        vocabulary.phrasesOf type ⊆ shuffled.phrasesOf type := by
    intro slot type hmem
    rw [hslot slot type hmem]
    decide
  have haccepts : matcher.Accepts utterance true :=
    ⟨{ template, utterance, slots := [(['s'], some "B |C".text)], parameters := [] },
      by decide⟩
  have hmore := accepts_of_more_phrases (Or.inl hcompile)
    (Or.inl hcompile') hphrases utterance true
  have hsame := accepts_of_more_phrases (Or.inl hcompile)
    (Or.inl hcompile'') hphrases'' utterance true
  refine ⟨hcompile, hcompile', hcompile'', hphrases, haccepts,
    hmore.1 ?_ haccepts, hsame.2 ?_⟩
  · intro _ slot type hmem
    rw [hslot slot type hmem]
    decide
  · intro slot type hmem
    rw [hslot slot type hmem]
    decide

theorem ofTemplate_oneTyped :
    Reading.ofTemplate "[x:t]".text =
      ⟨[⟨0, "[x:t]".text, .typedSlot ['x'] ['t']⟩], []⟩ := by
  decide +kernel

/-- A second upper-case letter beyond the first 65536 code points makes a set of the
phrases, which loses the first one where case does not count. -/
theorem not_accepts_of_more_phrases_lostLetter :
    let vocabulary : Vocabulary := ⟨[(['t'], [['𐐀']])]⟩
    let wider : Vocabulary := ⟨[(['t'], [['𐐀'], ['𐐁']])]⟩
    let template := "[x:t]".text
    let matcher : Matcher :=
      { template, slots := [['x']], slotTypes := [(['x'], ['t'])]
        pattern := "( 𐐀)".text }
    let matcher' : Matcher :=
      { template, slots := [['x']], slotTypes := [(['x'], ['t'])]
        pattern := "( 𐐀| 𐐁)".text }
    compile vocabulary template = .ok matcher ∧
      compile wider template = .ok matcher' ∧
      (∀ slot type, (slot, some type) ∈ slots template →
        vocabulary.phrasesOf type ≠ [] ∧ wider.phrasesOf type ≠ [] ∧
          vocabulary.phrasesOf type ⊆ wider.phrasesOf type) ∧
      matcher.Accepts ['𐐀'] true ∧ ¬ matcher'.Accepts ['𐐀'] true := by
  intro vocabulary wider template matcher matcher'
  have hcompile : compile vocabulary template = .ok matcher := by
    simp only [template, compile, ofTemplate_oneTyped]
    rfl
  have hcompile' : compile wider template = .ok matcher' := by
    simp only [template, compile, ofTemplate_oneTyped]
    rfl
  have hmatch : matcher.match? ['𐐀'] true =
      .ok (some { template, utterance := [.char '𐐀'], slots := [(['x'], some ['𐐀'])]
                  parameters := [] }) := by
    decide
  have hmatch' : matcher'.match? ['𐐀'] true = .ok none := by decide
  refine ⟨hcompile, hcompile', ?_, ⟨_, hmatch⟩, ?_⟩
  · intro slot type hmem
    rw [slots, fragments, ofTemplate_oneTyped] at hmem
    obtain ⟨_, rfl⟩ : slot = [.char 'x'] ∧ type = [.char 't'] := by
      simpa [Fragment.slot?] using hmem
    decide
  · rintro ⟨found, hfound⟩
    rw [hmatch'] at hfound
    cases hfound

end Template

end UtteranceTemplate
