import UtteranceTemplate.Proofs.BraceOrder
import UtteranceTemplate.Proofs.CuttingMatch

/-!
What a pattern may leave of a text, whatever its captures keep.

`Leaves` is compositional: a row of items leaves what its second part leaves of what
the first one leaves (`leaves_append`), and an optional item leaves all of the text
as well (`leaves_opt`). A matcher accepts an utterance exactly if the items of its
pattern may leave nothing of it (`Template.accepts_iff_leaves`).
-/

namespace UtteranceTemplate

open Pattern Token Text

namespace Pattern

variable {ignoreCase : Bool} {front back items : List Pattern} {text rest : Text}

/-- Whether items that are read one behind the other may leave `rest` of a text. -/
def Leaves (ignoreCase : Bool) (items : List Pattern) (text rest : Text) : Prop :=
  ∃ kept, (kept, rest) ∈ (seq items).ways ignoreCase text

theorem leaves_nil : Leaves ignoreCase [] text rest ↔ rest = text := by
  simp [Leaves, seq, ways]

/-- Two patterns one behind the other leave what the second leaves of what the
first one leaves. -/
theorem exists_mem_ways_cat {p q : Pattern} :
    (∃ kept, (kept, rest) ∈ (Pattern.cat p q).ways ignoreCase text) ↔
      ∃ middle, (∃ kept, (kept, middle) ∈ p.ways ignoreCase text) ∧
        ∃ kept, (kept, rest) ∈ q.ways ignoreCase middle := by
  simp only [ways, List.mem_flatMap, List.mem_map, Prod.mk.injEq, Prod.exists]
  constructor
  · rintro ⟨_, kept, middle, hfirst, more, _, hmore, _, rfl⟩
    exact ⟨middle, ⟨kept, hfirst⟩, more, hmore⟩
  · rintro ⟨middle, ⟨kept, hfirst⟩, more, hmore⟩
    exact ⟨_, kept, middle, hfirst, more, rest, hmore, rfl, rfl⟩

theorem leaves_cons {p : Pattern} :
    Leaves ignoreCase (p :: items) text rest ↔
      ∃ middle, (∃ kept, (kept, middle) ∈ p.ways ignoreCase text) ∧
        Leaves ignoreCase items middle rest :=
  exists_mem_ways_cat

theorem leaves_append :
    Leaves ignoreCase (front ++ back) text rest ↔
      ∃ middle, Leaves ignoreCase front text middle ∧
        Leaves ignoreCase back middle rest := by
  induction front generalizing text with
  | nil => simp [leaves_nil]
  | cons p front ih =>
      rw [List.cons_append, leaves_cons]
      constructor
      · rintro ⟨first, hfirst, hrest⟩
        obtain ⟨middle, hfront, hback⟩ := ih.mp hrest
        exact ⟨middle, leaves_cons.mpr ⟨first, hfirst, hfront⟩, hback⟩
      · rintro ⟨middle, hfront, hback⟩
        obtain ⟨first, hfirst, hmore⟩ := leaves_cons.mp hfront
        exact ⟨first, hfirst, ih.mpr ⟨middle, hmore, hback⟩⟩

theorem leaves_singleton {p : Pattern} :
    Leaves ignoreCase [p] text rest ↔
      ∃ kept, (kept, rest) ∈ p.ways ignoreCase text := by
  rw [leaves_cons]
  constructor
  · rintro ⟨middle, hp, hnil⟩
    rw [leaves_nil.mp hnil]
    exact hp
  · intro hp
    exact ⟨rest, hp, leaves_nil.mpr rfl⟩

theorem leaves_singleton_seq :
    Leaves ignoreCase [seq items] text rest ↔ Leaves ignoreCase items text rest :=
  leaves_singleton

theorem leaves_singleton_cat {p q : Pattern} :
    Leaves ignoreCase [.cat p q] text rest ↔
      ∃ middle, Leaves ignoreCase [p] text middle ∧
        Leaves ignoreCase [q] middle rest := by
  simp only [leaves_singleton]
  exact exists_mem_ways_cat

theorem leaves_singleton_alt {p q : Pattern} :
    Leaves ignoreCase [.alt p q] text rest ↔
      Leaves ignoreCase [p] text rest ∨ Leaves ignoreCase [q] text rest := by
  simp only [leaves_singleton, ways, List.mem_append, List.mem_map,
    Prod.mk.injEq, Prod.exists]
  constructor
  · rintro ⟨_, ⟨kept, _, hway, _, rfl⟩ | ⟨kept, _, hway, _, rfl⟩⟩
    · exact Or.inl ⟨kept, hway⟩
    · exact Or.inr ⟨kept, hway⟩
  · rintro (⟨kept, hway⟩ | ⟨kept, hway⟩)
    · exact ⟨_, Or.inl ⟨kept, rest, hway, rfl, rfl⟩⟩
    · exact ⟨_, Or.inr ⟨kept, rest, hway, rfl, rfl⟩⟩

theorem leaves_singleton_opt {p : Pattern} :
    Leaves ignoreCase [.opt p] text rest ↔
      Leaves ignoreCase [p] text rest ∨ rest = text := by
  simp only [leaves_singleton, ways, List.mem_append, List.mem_singleton,
    Prod.mk.injEq]
  constructor
  · rintro ⟨kept, hkept | ⟨_, rfl⟩⟩
    · exact Or.inl ⟨kept, hkept⟩
    · exact Or.inr rfl
  · rintro (⟨kept, hkept⟩ | rfl)
    · exact ⟨kept, Or.inl hkept⟩
    · exact ⟨_, Or.inr ⟨rfl, rfl⟩⟩

theorem leaves_opt :
    Leaves ignoreCase [.opt (seq items)] text rest ↔
      Leaves ignoreCase items text rest ∨ rest = text := by
  rw [leaves_singleton_opt, leaves_singleton_seq]

theorem leaves_singleton_capture {p : Pattern} :
    Leaves ignoreCase [.capture p] text rest ↔ Leaves ignoreCase [p] text rest := by
  simp only [leaves_singleton, ways, List.mem_map, Prod.mk.injEq, Prod.exists]
  constructor
  · rintro ⟨_, kept, _, hway, _, rfl⟩
    exact ⟨kept, hway⟩
  · rintro ⟨kept, hway⟩
    exact ⟨_, kept, rest, hway, rfl, rfl⟩

theorem leaves_iff_search :
    Leaves ignoreCase items text rest ↔
      ((seq items).search ignoreCase text fun _ ending =>
        if ending = rest then some () else none).isSome := by
  rw [search_eq_findSome?_ways, List.findSome?_isSome_iff]
  constructor
  · rintro ⟨kept, hway⟩
    exact ⟨(kept, rest), hway, by simp⟩
  · rintro ⟨⟨kept, ending⟩, hway, hequal⟩
    have hending : ending = rest := by simpa using hequal
    subst hending
    exact ⟨kept, hway⟩

theorem leaves_flatMap_items :
    Leaves ignoreCase (items.flatMap Pattern.items) text rest ↔
      Leaves ignoreCase items text rest := by
  rw [leaves_iff_search, search_seq_flatMap_items, leaves_iff_search]

/-- Items with an optional row among them leave what they leave with the row
or without it. -/
theorem leaves_append_opt_cons :
    Leaves ignoreCase
      (front ++ .opt (seq (items.flatMap Pattern.items)) :: back) text rest ↔
      Leaves ignoreCase (front ++ (items ++ back)) text rest ∨
        Leaves ignoreCase (front ++ back) text rest := by
  rw [← List.singleton_append]
  simp only [leaves_append, leaves_opt, leaves_flatMap_items]
  constructor
  · rintro ⟨first, hfront, middle, hitems | rfl, hback⟩
    · exact Or.inl ⟨first, hfront, middle, hitems, hback⟩
    · exact Or.inr ⟨middle, hfront, hback⟩
  · rintro (⟨first, hfront, middle, hitems, hback⟩ | ⟨middle, hfront, hback⟩)
    · exact ⟨first, hfront, middle, Or.inl hitems, hback⟩
    · exact ⟨middle, hfront, middle, Or.inr rfl, hback⟩

theorem leaves_space : Leaves ignoreCase [.char ' '] text rest ↔
    text = .char ' ' :: rest := by
  rw [leaves_singleton]
  cases text with
  | nil => simp [ways]
  | cons d text =>
      simp only [ways, sameLetter_of_isBlank (show isBlank ' ' = true by decide)]
      by_cases hd : d = ' '
      · subst hd
        simp [eq_comm]
      · simp [hd, Ne.symm hd]

theorem isSome_fullMatch?_iff_leaves {p : Pattern} :
    (p.fullMatch? ignoreCase text).isSome ↔ Leaves ignoreCase [p] text [] := by
  rw [fullMatch?, search_eq_findSome?_ways, List.findSome?_isSome_iff,
    leaves_singleton]
  constructor
  · rintro ⟨⟨kept, ending⟩, hway, haccept⟩
    cases ending with
    | nil => exact ⟨kept, hway⟩
    | cons c ending => simp at haccept
  · rintro ⟨kept, hway⟩
    exact ⟨(kept, []), hway, rfl⟩

/-- Items that try given texts leave what stands behind one of them. -/
theorem Reads.leaves_iff {texts : List Text}
    (h : Reads ignoreCase (seq items) texts) :
    Leaves ignoreCase items text rest ↔
      ∃ wanted ∈ texts, wanted.after? ignoreCase text = some rest := by
  rw [leaves_iff_search, h.search, List.findSome?_isSome_iff]
  constructor
  · rintro ⟨wanted, hwanted, hsome⟩
    cases hafter : wanted.after? ignoreCase text with
    | none => simp [hafter] at hsome
    | some ending =>
        have hending : ending = rest := by simpa [hafter] using hsome
        exact ⟨wanted, hwanted, by rw [hafter, hending]⟩
  · rintro ⟨wanted, hwanted, hafter⟩
    exact ⟨wanted, hwanted, by simp [hafter]⟩

theorem leaves_chars {wanted : Text} :
    Leaves ignoreCase (wanted.map .char) text rest ↔
      wanted.after? ignoreCase text = some rest := by
  rw [(reads_chars wanted).leaves_iff]
  simp

theorem exists_append_of_mem_freeEndings (h : rest ∈ freeEndings text) :
    ∃ read, text = read ++ rest := by
  induction text with
  | nil => cases h
  | cons c text ih =>
      rw [freeEndings] at h
      split at h
      · cases h
      · rcases List.mem_cons.mp h with rfl | h
        · exact ⟨[c], rfl⟩
        · obtain ⟨read, rfl⟩ := ih h
          exact ⟨c :: read, rfl⟩

/-- What a pattern leaves of a text is an ending of the text. -/
theorem exists_append_of_mem_ways {p : Pattern} {kept : Spans}
    (h : (kept, rest) ∈ p.ways ignoreCase text) : ∃ read, text = read ++ rest := by
  induction p generalizing text rest kept with
  | empty =>
      simp only [ways, List.mem_singleton, Prod.mk.injEq] at h
      exact ⟨[], h.2.symm⟩
  | char | oneOf =>
      cases text with
      | nil => cases h
      | cons d text =>
          simp only [ways] at h
          split at h
          · simp only [List.mem_singleton, Prod.mk.injEq] at h
            exact ⟨[d], by rw [h.2]; rfl⟩
          · cases h
  | anyText =>
      simp only [ways, List.mem_map, Prod.mk.injEq] at h
      obtain ⟨_, hending, _, rfl⟩ := h
      exact exists_append_of_mem_freeEndings hending
  | cat p q ihp ihq =>
      simp only [ways, List.mem_flatMap, List.mem_map, Prod.mk.injEq,
        Prod.exists] at h
      obtain ⟨_, _, hfirst, _, _, hmore, _, rfl⟩ := h
      obtain ⟨front, rfl⟩ := ihp hfirst
      obtain ⟨back, rfl⟩ := ihq hmore
      exact ⟨front ++ back, (List.append_assoc front back _).symm⟩
  | alt p q ihp ihq =>
      simp only [ways, List.mem_append, List.mem_map, Prod.mk.injEq,
        Prod.exists] at h
      obtain ⟨_, _, hway, _, rfl⟩ | ⟨_, _, hway, _, rfl⟩ := h
      · exact ihp hway
      · exact ihq hway
  | opt p ih =>
      simp only [ways, List.mem_append, List.mem_singleton, Prod.mk.injEq] at h
      rcases h with hway | ⟨_, rfl⟩
      · exact ih hway
      · exact ⟨[], rfl⟩
  | capture p ih =>
      simp only [ways, List.mem_map, Prod.mk.injEq, Prod.exists] at h
      obtain ⟨_, _, hway, _, rfl⟩ := h
      exact ih hway

theorem exists_append_of_leaves (h : Leaves ignoreCase items text rest) :
    ∃ read, text = read ++ rest := by
  obtain ⟨kept, hway⟩ := h
  exact exists_append_of_mem_ways hway

end Pattern

variable {vocabulary : Vocabulary} {ignoreCase : Bool} {fragments : List Fragment}
  {text rest : Text}

/-- The items of fragments leave what stands behind pieces that fit them. -/
theorem leaves_items_iff (hnewline : .char '\n' ∉ text) :
    Leaves ignoreCase (fragments.flatMap (Fragment.items vocabulary)) text rest ↔
      ∃ pieces, List.Forall₂
        (Fragment.Fits (Fragment.triedWordings vocabulary ignoreCase) ignoreCase)
        fragments pieces ∧ text = pieces.flatMap Wording.text ++ rest := by
  rw [leaves_iff_search,
    search_flatMap_items vocabulary ignoreCase fragments text fun _ ending =>
      if ending = rest then some () else none, List.findSome?_isSome_iff]
  constructor
  · rintro ⟨⟨pieces, ending⟩, hcutting, hequal⟩
    have hending : ending = rest := by simpa using hequal
    subst hending
    exact ⟨pieces, (mem_cuttings_iff hnewline).mp hcutting⟩
  · rintro ⟨pieces, hpieces⟩
    exact ⟨(pieces, rest), (mem_cuttings_iff hnewline).mpr hpieces, by simp⟩

/-- What the items of fragments read is empty or begins with a space. -/
theorem eq_or_head?_of_leaves_items (hnewline : .char '\n' ∉ text)
    (h : Leaves ignoreCase
      (fragments.flatMap (Fragment.items vocabulary)) text rest) :
    rest = text ∨ text.head? = some (.char ' ') := by
  obtain ⟨pieces, hfits, rfl⟩ := (leaves_items_iff hnewline).mp h
  have hall :
    List.Forall₂ (Fragment.Fits (Fragment.wordings vocabulary) ignoreCase) fragments
      pieces := hfits.imp fun _ _ hfit => hfit.mono List.filter_sublist.subset
  cases hpieces : pieces.flatMap Wording.text with
  | nil => exact Or.inl rfl
  | cons c more =>
      have hc := head?_flatMap_text hall (by rw [hpieces]; rfl)
      subst hc
      exact Or.inr rfl

/-- Whether a matcher accepts an utterance. -/
def Matcher.Accepts (matcher : Matcher) (utterance : Text)
    (ignoreCase : Bool) : Prop :=
  ∃ found, matcher.match? utterance ignoreCase = .ok (some found)

/-- A matcher accepts an utterance exactly if its pattern may leave nothing of it. -/
theorem Matcher.accepts_iff_leaves {matcher : Matcher} {pattern : Pattern}
    (hread : Pattern.read matcher.pattern = .ok pattern) {utterance : Text} :
    matcher.Accepts utterance ignoreCase ↔
      Leaves ignoreCase [pattern] (Utterance.normalize utterance) [] := by
  have hcaptures : matcher.captures? (Utterance.normalize utterance) ignoreCase =
      .ok (pattern.fullMatch? ignoreCase (Utterance.normalize utterance)) := by
    rw [Matcher.captures?, hread]
    rfl
  rw [← isSome_fullMatch?_iff_leaves, Matcher.Accepts, Matcher.match?, hcaptures]
  cases pattern.fullMatch? ignoreCase (Utterance.normalize utterance) with
  | none => simp [Except.map]
  | some captures => simp [Except.map]

namespace Template

/-- The pattern of a compiled matcher is what its tokens are read as once their
braces are resolved. -/
theorem exists_pattern_of_compile {template : Text} {matcher : Matcher}
    (h : compile vocabulary template = .ok matcher) :
    ∃ pattern, Pattern.read matcher.pattern = .ok pattern ∧
      ofTokens? (placed 0 (resolveBraces ((Template.fragments template).flatMap
        (Fragment.tokens vocabulary)))) = .ok pattern := by
  obtain ⟨draft, hholds, rfl⟩ := exists_draft_of_compile h
  obtain ⟨pattern, hread, _⟩ := (hholds.isSound template).pattern
  have hlegible := hholds.grouped.legible (Draft.uncounted_resolveBraces draft)
  have htokens := (read_textOf hlegible).symm.trans hread
  rw [hholds.tokens] at htokens
  exact ⟨pattern, hread, htokens⟩

/-- A matcher accepts an utterance exactly if the items that its tokens add
leave nothing of it. -/
theorem accepts_iff_leaves {template : Text} {matcher : Matcher}
    (h : compile vocabulary template = .ok matcher) {items : List Pattern}
    (hadds : Adds (resolveBraces
      (tokensOf vocabulary (Reading.ofTemplate template).parts)) items)
    {utterance : Text} :
    matcher.Accepts utterance ignoreCase ↔
      Leaves ignoreCase items (Utterance.normalize utterance) [] := by
  obtain ⟨pattern, hread, htokens⟩ := exists_pattern_of_compile h
  have hparts : (Template.fragments template).flatMap (Fragment.tokens vocabulary) =
      tokensOf vocabulary (Reading.ofTemplate template).parts := by
    rw [fragments, Reading.parts, tokensOf, List.flatMap_map, List.flatMap_map]
    rfl
  have hleads := (hadds .start).ofTokens?
  rw [Branches.pattern, Branches.branch_pushAll_of_items_eq_nil rfl,
    ← hparts, htokens, Except.ok.injEq] at hleads
  have hpattern : pattern = seq (items.flatMap Pattern.items) := hleads
  rw [Matcher.accepts_iff_leaves hread, hpattern, leaves_singleton_seq,
    leaves_flatMap_items]

end Template

end UtteranceTemplate
