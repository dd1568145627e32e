import UtteranceTemplate.Proofs.PatternLanguage
import UtteranceTemplate.Proofs.WiderVocabularies

/-!
What matches in exact case matches where case does not count.

The search takes other turns where case does not count, so the two searches are not
compared. Every way in which a pattern reads a text in exact case is one in which it
reads the text up to case (`Pattern.ways_false_subset`), as long as no set of the
pattern loses a letter of the text.
-/

namespace UtteranceTemplate

open Pattern Text

namespace Pattern

def sets : Pattern → List (List CodePoint)
  | .empty | .char _ | .anyText => []
  | .oneOf members => [members]
  | .cat p q | .alt p q => p.sets ++ q.sets
  | .opt p | .capture p => p.sets

/-- Whether the sets of a pattern lose no letter of a text where case does
not count. -/
def Keeps (p : Pattern) (text : Text) : Prop :=
  ∀ members ∈ p.sets, ∀ c ∈ members, isLost true c = true → c ∉ text

variable {p q : Pattern} {text rest : Text}

theorem Keeps.of_append {read : Text} (h : p.Keeps (read ++ rest)) : p.Keeps rest :=
  fun members hmembers c hc hlost hmem =>
    h members hmembers c hc hlost (List.mem_append_right read hmem)

theorem keeps_append
    (h : ∀ members ∈ p.sets ++ q.sets, ∀ c ∈ members,
      isLost true c = true → c ∉ text) :
    p.Keeps text ∧ q.Keeps text :=
  ⟨fun members hmembers => h members (List.mem_append_left _ hmembers),
    fun members hmembers => h members (List.mem_append_right _ hmembers)⟩

/-- A set that does not lose a character holds it whether case counts or not. -/
theorem isMember_true_of_mem {members : List CodePoint} {c : CodePoint}
    (hc : c ∈ members) (hlost : isLost true c = false) :
    isMember true members c = true := by
  refine List.any_eq_true.mpr ⟨c, hc, ?_⟩
  rw [meetsMember_eq_sameLetter_of_not_isLost hlost, sameLetter_self]

/-- A way in exact case is a way where case does not count. -/
theorem ways_false_subset (h : p.Keeps text) :
    p.ways false text ⊆ p.ways true text := by
  induction p generalizing text with
  | empty | anyText => exact fun way hway => hway
  | char c =>
      cases text with
      | nil => exact fun way hway => hway
      | cons d text =>
          intro way hway
          simp only [ways] at hway ⊢
          split at hway
          · rename_i hsame
            rw [if_pos (sameLetter_true_of_false hsame)]
            exact hway
          · cases hway
  | oneOf members =>
      cases text with
      | nil => exact fun way hway => hway
      | cons d text =>
          intro way hway
          simp only [ways, isMember_false] at hway ⊢
          split at hway
          · rename_i hmember
            have hd : d ∈ members := by simpa using hmember
            have hkept : isLost true d = false := by
              cases hlost : isLost true d with
              | false => rfl
              | true =>
                  exact absurd List.mem_cons_self
                    (h members List.mem_cons_self d hd hlost)
            rw [if_pos (isMember_true_of_mem hd hkept)]
            exact hway
          · cases hway
  | cat p q ihp ihq =>
      obtain ⟨hp, hq⟩ := keeps_append h
      intro way hway
      simp only [ways, List.mem_flatMap, List.mem_map] at hway ⊢
      obtain ⟨⟨kept, rest⟩, hfirst, ⟨more, ending⟩, hmore, rfl⟩ := hway
      -- what the first part leaves is an ending of the text, of which the second
      -- part loses nothing
      obtain ⟨read, rfl⟩ := exists_append_of_mem_ways hfirst
      exact ⟨_, ihp hp hfirst, _, ihq hq.of_append hmore, rfl⟩
  | alt p q ihp ihq =>
      obtain ⟨hp, hq⟩ := keeps_append h
      exact List.append_subset.mpr
        ⟨List.subset_append_of_subset_left _ (List.map_subset _ (ihp hp)),
          List.subset_append_of_subset_right _ (List.map_subset _ (ihq hq))⟩
  | opt p ih =>
      exact List.append_subset.mpr
        ⟨List.subset_append_of_subset_left _ (ih h), List.subset_append_right _ _⟩
  | capture p ih => exact List.map_subset _ (ih h)

/-- What a pattern may leave of a text in exact case, it may leave of it where case
does not count. -/
theorem leaves_true_of_false (h : p.Keeps text)
    (hleaves : Leaves false [p] text rest) :
    Leaves true [p] text rest := by
  obtain ⟨kept, hway⟩ := leaves_singleton.mp hleaves
  exact leaves_singleton.mpr ⟨kept, ways_false_subset h hway⟩

end Pattern

/-- A letter of the normal form is one of the utterance. -/
theorem Utterance.mem_of_mem_normalize {utterance : Text} {c : CodePoint}
    (h : c ∈ normalize utterance) (hblank : isBlank c = false) : c ∈ utterance := by
  obtain ⟨word, hword, hc⟩ := List.mem_flatMap.mp h
  rcases List.mem_cons.mp hc with rfl | hc
  · cases hblank
  · exact subset_of_mem_words hword hc

theorem not_isBlank_of_isLost {c : CodePoint} (h : isLost true c = true) :
    isBlank c = false := by
  cases hblank : isBlank c with
  | false => rfl
  | true => simp [isLost, foldCase_of_isBlank hblank] at h

namespace Template

variable {vocabulary : Vocabulary} {template : Text} {matcher : Matcher}

/-- An utterance that matches in exact case matches where case does not count, unless
it holds a letter that a set of the pattern loses there; an utterance without such
letters is never lost. -/
theorem accepts_ignoring_case
    (h : compile vocabulary template = .ok matcher ∨
      ∃ given : UncheckedVocabulary, given.textual = vocabulary ∧
        given.compile template = .ok matcher) :
    ∃ pattern, Pattern.read matcher.pattern = .ok pattern ∧ ∀ utterance,
      matcher.Accepts utterance false →
        (pattern.Keeps (Utterance.normalize utterance) →
          matcher.Accepts utterance true) ∧
        ((∀ c ∈ utterance, isLost true c = false) →
          matcher.Accepts utterance true) := by
  obtain ⟨pattern, hread, _⟩ := exists_pattern_of_compile (compile_eq_ok h)
  refine ⟨pattern, hread, ?_⟩
  intro utterance haccepts
  have hkept : pattern.Keeps (Utterance.normalize utterance) →
      matcher.Accepts utterance true := by
    intro hkeeps
    rw [Matcher.accepts_iff_leaves hread] at haccepts ⊢
    exact leaves_true_of_false hkeeps haccepts
  refine ⟨hkept, ?_⟩
  intro hnone
  apply hkept
  intro _ _ c _ hlost hmem
  have hc := Utterance.mem_of_mem_normalize hmem (not_isBlank_of_isLost hlost)
  rw [hnone c hc] at hlost
  cases hlost

/-- The braces enclose the slot from inside an alternative, and the phrases
make a set with a letter that is lost where case does not count, but not one
of the utterance. -/
theorem accepts_ignoring_case_enclosing :
    let vocabulary : Vocabulary := ⟨[(['t'], ["p a".text, "p 𐐀".text])]⟩
    let template := "(x|\x7by) [s:t] z\x7d".text
    let utterance := " y  p a z".text
    let matcher : Matcher :=
      { template, slots := [['s']], slotTypes := [(['s'], ['t'])]
        pattern := "(?: x| (?:y)( p a| p 𐐀) z)?".text }
    compile vocabulary template = .ok matcher ∧ matcher.Accepts utterance false ∧
      isLost true '𐐀' = true ∧ matcher.Accepts utterance true := by
  intro vocabulary template utterance matcher
  have hcompile : compile vocabulary template = .ok matcher := by
    simp only [template, compile, ofTemplate_enclosing]
    rfl
  have haccepts : matcher.Accepts utterance false :=
    ⟨{ template, utterance, slots := [(['s'], some "p a".text)], parameters := [] },
      by decide⟩
  have hall : utterance.all (!isLost true ·) = true := by decide
  have hnone : ∀ c ∈ utterance, isLost true c = false := by simpa using hall
  obtain ⟨_, _, hincluded⟩ := accepts_ignoring_case (Or.inl hcompile)
  exact ⟨hcompile, haccepts, by decide, (hincluded utterance haccepts).2 hnone⟩

/-- Two upper-case letters beyond the first 65536 code points make a set, which holds
the first one in exact case and loses it where case does not count. -/
theorem not_accepts_ignoring_case_lostLetter :
    let vocabulary : Vocabulary := ⟨[(['t'], [['𐐀'], ['𐐁']])]⟩
    let template := "[x:t]".text
    let matcher : Matcher :=
      { template, slots := [['x']], slotTypes := [(['x'], ['t'])]
        pattern := "( 𐐀| 𐐁)".text }
    compile vocabulary template = .ok matcher ∧ matcher.Accepts ['𐐀'] false ∧
      ¬ matcher.Accepts ['𐐀'] true := by
  intro vocabulary template matcher
  have hcompile : compile vocabulary template = .ok matcher := by
    simp only [template, compile, ofTemplate_oneTyped]
    rfl
  have hexact : matcher.match? ['𐐀'] false =
      .ok (some { template, utterance := [.char '𐐀'], slots := [(['x'], some ['𐐀'])]
                  parameters := [] }) := by
    decide
  have hignoring : matcher.match? ['𐐀'] true = .ok none := by decide
  refine ⟨hcompile, ⟨_, hexact⟩, ?_⟩
  rintro ⟨found, hfound⟩
  rw [hignoring] at hfound
  cases hfound

end Template

end UtteranceTemplate
