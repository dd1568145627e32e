import UtteranceTemplate.Text.Basic

/-!
Blank characters, and what rests on them: the words of a text, trimming, and
single spacing.

A text's words hold no blank and are not empty (`not_isBlank_of_mem_words`,
`words_ne_nil`). A gap between two texts keeps their words apart
(`words_append_blank_cons`), and trimming takes away gaps only (`words_trim`).
-/

namespace UtteranceTemplate

/-- The characters that separate words: the white space of Unicode, its line and
paragraph separators, and the four information separators of ASCII. -/
def isBlank (c : CodePoint) : Bool :=
  let n := c.toNat
  (9 ≤ n && n ≤ 13) || (28 ≤ n && n ≤ 32) || n == 0x85 || n == 0xa0 || n == 0x1680 ||
    (0x2000 ≤ n && n ≤ 0x200a) || n == 0x2028 || n == 0x2029 || n == 0x202f ||
    n == 0x205f || n == 0x3000

def blankCodes : List Nat :=
  List.range' 9 5 ++ List.range' 28 5 ++ [0x85, 0xa0, 0x1680] ++
    List.range' 0x2000 11 ++ [0x2028, 0x2029, 0x202f, 0x205f, 0x3000]

theorem isBlank_eq_true_iff (c : CodePoint) :
    isBlank c = true ↔ c.toNat ∈ blankCodes := by
  simp only [isBlank, blankCodes, Bool.or_eq_true, Bool.and_eq_true,
    decide_eq_true_eq, beq_iff_eq, List.mem_append, List.mem_range'_1, List.mem_cons,
      List.not_mem_nil, or_false]
  omega

namespace Text

/-- The longest runs of characters that are not blank, from left to right. -/
def words : Text → List Text
  | [] => []
  | c :: rest =>
      if isBlank c then words rest
      else
        match rest with
        | [] => [[c]]
        | d :: _ => if isBlank d then [c] :: words rest else consFirst c (words rest)

def singleSpaced (text : Text) : Text := joinWith [' '] (words text)

def trimStart (text : Text) : Text := text.dropWhile isBlank

def trimEnd (text : Text) : Text := (text.reverse.dropWhile isBlank).reverse

def trim (text : Text) : Text := trimEnd (trimStart text)

theorem words_ne_nil (text : Text) : ∀ word ∈ words text, word ≠ [] := by
  induction text with
  | nil => simp [words]
  | cons c rest ih =>
      unfold words
      split
      · exact ih
      · split
        · simp
        · split
          · intro word hword
            rcases List.mem_cons.mp hword with rfl | hword
            · simp
            · exact ih word hword
          · intro word hword
            cases hw : words (_ :: _) with
            | nil => rw [hw] at hword; simp [consFirst] at hword; simp [hword]
            | cons first others =>
                rw [hw] at hword ih
                rcases List.mem_cons.mp hword with rfl | hword
                · simp
                · exact ih word (List.mem_cons_of_mem _ hword)

theorem not_isBlank_of_mem_words (text : Text) :
    ∀ word ∈ words text, ∀ c ∈ word, isBlank c = false := by
  induction text with
  | nil => simp [words]
  | cons c rest ih =>
      unfold words
      split
      · exact ih
      · rename_i hc
        have hc' : isBlank c = false := by simpa using hc
        split
        · simp [hc']
        · split
          · intro word hword
            rcases List.mem_cons.mp hword with rfl | hword
            · simp [hc']
            · exact ih word hword
          · intro word hword
            cases hw : words (_ :: _) with
            | nil => rw [hw] at hword; simp [consFirst] at hword; simp [hword, hc']
            | cons first others =>
                rw [hw] at hword ih
                rcases List.mem_cons.mp hword with rfl | hword
                · intro d hd
                  rcases List.mem_cons.mp hd with rfl | hd
                  · exact hc'
                  · exact ih first List.mem_cons_self d hd
                · exact ih word (List.mem_cons_of_mem _ hword)

/-- The words of a text hold all its characters but the blanks. -/
theorem flatten_words (text : Text) :
    (words text).flatten = text.filter (!isBlank ·) := by
  induction text with
  | nil => rfl
  | cons c rest ih =>
      unfold words
      by_cases hc : isBlank c = true
      · simp [hc, ih]
      · simp only [hc, if_false, Bool.false_eq_true, Bool.not_false,
          List.filter_cons_of_pos]
        split
        · rfl
        · split
          · simp [ih]
          · rw [flatten_consFirst, ih]

theorem subset_of_mem_words {text word : Text} (h : word ∈ words text) :
    word ⊆ text := by
  intro c hc
  have hflatten : c ∈ (words text).flatten := List.mem_flatten.mpr ⟨word, h, hc⟩
  rw [flatten_words] at hflatten
  exact (List.mem_filter.mp hflatten).1

/-- Single spacing keeps what is not blank. -/
theorem filter_singleSpaced (p : CodePoint → Bool)
    (hp : ∀ c, isBlank c = true → p c = false) (text : Text) :
    (singleSpaced text).filter p = text.filter p := by
  have hspace : ([' '] : Text).filter p = [] := by simp [hp ' ' (by decide)]
  rw [singleSpaced, filter_joinWith p hspace, flatten_words, List.filter_filter]
  congr 1
  funext c
  cases hc : isBlank c with
  | true => simp [hp c hc]
  | false => simp

/-- Single spacing only puts spaces between words. -/
theorem mem_of_mem_singleSpaced {text : Text} {c : CodePoint}
    (h : c ∈ text.singleSpaced) :
    c = ' ' ∨ c ∈ text ∧ isBlank c = false := by
  rcases mem_joinWith h with hspace | ⟨word, hword, hc⟩
  · exact Or.inl (List.mem_singleton.mp hspace)
  · exact Or.inr
      ⟨subset_of_mem_words hword hc, not_isBlank_of_mem_words text word hword c hc⟩

def IsGap (text : Text) : Prop := ∀ c ∈ text, isBlank c = true

theorem isGap_nil : IsGap [] := by
  intro c hc
  cases hc

theorem IsGap.append {front back : Text} (hfront : IsGap front)
    (hback : IsGap back) :
    IsGap (front ++ back) :=
  List.forall_mem_append.mpr ⟨hfront, hback⟩

theorem isGap_takeWhile (text : Text) : IsGap (text.takeWhile isBlank) := by
  intro c hc
  exact List.all_eq_true.mp List.all_takeWhile c hc

theorem takeWhile_append_trimStart (text : Text) :
    text.takeWhile isBlank ++ text.trimStart = text :=
  List.takeWhile_append_dropWhile

theorem trimStart_append_of_isGap {gap : Text} (h : IsGap gap) (text : Text) :
    trimStart (gap ++ text) = trimStart text :=
  List.dropWhile_append_of_pos h

theorem trimStart_eq_self {text : Text}
    (h : ∀ c, text.head? = some c → isBlank c = false) :
    trimStart text = text := by
  cases text with
  | nil => rfl
  | cons c text => simp [trimStart, h c rfl]

theorem not_isBlank_of_head?_trimStart {text : Text} {c : CodePoint}
    (h : text.trimStart.head? = some c) : isBlank c = false := by
  have hnot := List.head?_dropWhile_not isBlank text
  rw [trimStart] at h
  rw [h] at hnot
  simpa using hnot

/-- A gap holds blanks only. -/
theorem not_mem_of_isGap {gap : Text} (h : IsGap gap) {c : CodePoint}
    (hc : isBlank c = false) : c ∉ gap := by
  intro hmem
  rw [h c hmem] at hc
  cases hc

theorem filter_eq_nil_of_isGap {p : CodePoint → Bool}
    (hp : ∀ c, isBlank c = true → p c = false) {gap : Text} (h : IsGap gap) :
    gap.filter p = [] := by
  rw [List.filter_eq_nil_iff]
  intro c hc
  simp [hp c (h c hc)]

theorem filter_trimStart {p : CodePoint → Bool}
    (hp : ∀ c, isBlank c = true → p c = false) (text : Text) :
    text.trimStart.filter p = text.filter p := by
  have hgap := filter_eq_nil_of_isGap hp (isGap_takeWhile text)
  rw [← takeWhile_append_trimStart text, List.filter_append, hgap, List.nil_append,
    takeWhile_append_trimStart]

theorem filter_trim {p : CodePoint → Bool} (hp : ∀ c, isBlank c = true → p c = false)
    (text : Text) :
    text.trim.filter p = text.filter p := by
  have hend : ∀ other : Text, other.trimEnd.filter p = other.filter p := by
    intro other
    have hreverse := filter_trimStart hp other.reverse
    rw [trimEnd, List.filter_reverse]
    rw [trimStart, List.filter_reverse] at hreverse
    rw [hreverse, List.reverse_reverse]
  rw [trim, hend, filter_trimStart hp]

theorem trimEnd_eq_self {text : Text}
    (h : ∀ c, text.getLast? = some c → isBlank c = false) :
    trimEnd text = text := by
  unfold trimEnd
  have hhead : text.reverse.dropWhile isBlank = text.reverse := by
    cases hrev : text.reverse with
    | nil => rfl
    | cons c rest =>
        have hlast : text.getLast? = some c := by
          rw [← List.head?_reverse, hrev]
          rfl
        simp [List.dropWhile, h c hlast]
  rw [hhead, List.reverse_reverse]

/-- Trimming only takes away. -/
theorem trim_subset (text : Text) : text.trim ⊆ text := by
  have hend : ∀ other : Text, other.trimEnd ⊆ other := by
    intro other c hc
    have hmem := (List.dropWhile_sublist isBlank).subset (List.mem_reverse.mp hc)
    exact List.mem_reverse.mp hmem
  exact List.Subset.trans (hend _) (List.dropWhile_sublist isBlank).subset

theorem exists_gap_of_trimEnd (text : Text) :
    ∃ gap, IsGap gap ∧ text = text.trimEnd ++ gap := by
  have hsplit := congrArg List.reverse (takeWhile_append_trimStart text.reverse)
  rw [List.reverse_append, List.reverse_reverse] at hsplit
  refine ⟨(text.reverse.takeWhile isBlank).reverse, ?_, hsplit.symm⟩
  intro c hc
  exact isGap_takeWhile text.reverse c (List.mem_reverse.mp hc)

def endsInWord (text : Text) : Bool := text.getLast?.any (!isBlank ·)

def beginsInWord (text : Text) : Bool := text.head?.any (!isBlank ·)

theorem words_blank_cons {c : CodePoint} (hc : isBlank c = true) (rest : Text) :
    words (c :: rest) = words rest := by
  cases rest <;> simp [words, hc]

theorem words_letter_cons {c : CodePoint} (hc : isBlank c = false) (rest : Text) :
    words (c :: rest) =
      if rest.beginsInWord then consFirst c (words rest) else [c] :: words rest := by
  cases rest with
  | nil => simp [words, hc, beginsInWord]
  | cons d rest => cases hd : isBlank d <;> simp [words, hc, hd, beginsInWord]

theorem words_eq_nil_iff {text : Text} : words text = [] ↔ IsGap text := by
  constructor
  · intro hnil c hc
    cases hblank : isBlank c with
    | true => rfl
    | false =>
        have hmem : c ∈ (words text).flatten := by
          rw [flatten_words]
          exact List.mem_filter.mpr ⟨hc, by simp [hblank]⟩
        rw [hnil] at hmem
        cases hmem
  · intro hgap
    induction text with
    | nil => rfl
    | cons c rest ih =>
        rw [words_blank_cons (hgap c List.mem_cons_self)]
        exact ih fun d hd => hgap d (List.mem_cons_of_mem c hd)

theorem beginsInWord_append {front : Text} (hne : front ≠ []) (back : Text) :
    beginsInWord (front ++ back) = front.beginsInWord := by
  cases front with
  | nil => exact absurd rfl hne
  | cons c front => rfl

theorem words_ne_nil_of_beginsInWord {text : Text} (h : text.beginsInWord = true) :
    words text ≠ [] := by
  cases text with
  | nil => cases h
  | cons c rest =>
      intro hnil
      have hc := words_eq_nil_iff.mp hnil c List.mem_cons_self
      simp [beginsInWord, hc] at h

theorem endsInWord_append (front : Text) {back : Text} (hne : back ≠ []) :
    endsInWord (front ++ back) = back.endsInWord := by
  rw [endsInWord, List.getLast?_append, List.getLast?_eq_some_getLast hne,
    Option.some_or, endsInWord, List.getLast?_eq_some_getLast hne]

theorem words_ne_nil_of_endsInWord {text : Text} (h : text.endsInWord = true) :
    words text ≠ [] := by
  cases hlast : text.getLast? with
  | none => rw [endsInWord, hlast] at h; cases h
  | some c =>
      intro hnil
      have hc := words_eq_nil_iff.mp hnil c (List.mem_of_getLast? hlast)
      simp [endsInWord, hlast, hc] at h

/-- A blank ends a word. -/
theorem words_append_blank_cons {c : CodePoint} (hc : isBlank c = true)
    (front rest : Text) :
    words (front ++ c :: rest) = words front ++ words rest := by
  induction front with
  | nil => exact words_blank_cons hc rest
  | cons d front ih =>
      rw [List.cons_append]
      cases hd : isBlank d with
      | true => rw [words_blank_cons hd, words_blank_cons hd, ih]
      | false =>
          rw [words_letter_cons hd, words_letter_cons hd]
          by_cases hnil : front = []
          · subst hnil
            simp [beginsInWord, hc, words_blank_cons hc, words]
          · rw [beginsInWord_append hnil, ih]
            split
            · rename_i hbegins
              exact consFirst_append (words_ne_nil_of_beginsInWord hbegins)
            · rfl

theorem words_isGap_append {gap : Text} (h : IsGap gap) (text : Text) :
    words (gap ++ text) = words text := by
  induction gap with
  | nil => rfl
  | cons c gap ih =>
      rw [List.cons_append, words_blank_cons (h c List.mem_cons_self),
        ih fun d hd => h d (List.mem_cons_of_mem c hd)]

theorem words_append_isGap (text : Text) {gap : Text} (h : IsGap gap) :
    words (text ++ gap) = words text := by
  cases gap with
  | nil => rw [List.append_nil]
  | cons c gap =>
      have hnone := words_eq_nil_iff.mpr fun d hd => h d (List.mem_cons_of_mem c hd)
      rw [words_append_blank_cons (h c List.mem_cons_self), hnone, List.append_nil]

theorem singleSpaced_letter_cons {c : CodePoint} (hc : isBlank c = false)
    {rest : Text} (hrest : rest.beginsInWord = true) :
    singleSpaced (c :: rest) = c :: singleSpaced rest := by
  rw [singleSpaced, words_letter_cons hc, if_pos hrest,
    joinWith_consFirst _ _ _ (words_ne_nil_of_beginsInWord hrest)]
  rfl

theorem singleSpaced_letter_cons_of_not {c : CodePoint} (hc : isBlank c = false)
    {rest : Text} (hrest : rest.beginsInWord = false) (hne : words rest ≠ []) :
    singleSpaced (c :: rest) = c :: ' ' :: singleSpaced rest := by
  rw [singleSpaced, words_letter_cons hc, hrest, if_neg Bool.false_ne_true]
  exact joinWith_append (List.cons_ne_nil [c] []) hne

theorem singleSpaced_blank_cons {c : CodePoint} (hc : isBlank c = true)
    (rest : Text) :
    singleSpaced (c :: rest) = singleSpaced rest := by
  rw [singleSpaced, words_blank_cons hc, singleSpaced]

theorem beginsInWord_of_isGap {gap : Text} (h : IsGap gap) :
    gap.beginsInWord = false := by
  cases gap with
  | nil => rfl
  | cons c gap => simp [beginsInWord, h c List.mem_cons_self]

theorem head?_singleSpaced_of_beginsInWord {text : Text}
    (h : text.beginsInWord = true) :
    text.singleSpaced.head? = text.head? := by
  cases text with
  | nil => cases h
  | cons c rest =>
      have hc : isBlank c = false := by simpa [Text.beginsInWord] using h
      rw [Text.singleSpaced, Text.words_letter_cons hc]
      cases hwords : Text.words rest with
      | nil => simp [Text.consFirst, joinWith]
      | cons word words => cases words <;> split <;> simp [Text.consFirst, joinWith]

theorem words_trim (text : Text) : words text.trim = words text := by
  have hstart : ∀ other : Text, words other.trimStart = words other := by
    intro other
    have hsplit := words_isGap_append (isGap_takeWhile other) other.trimStart
    rw [takeWhile_append_trimStart] at hsplit
    exact hsplit.symm
  have hend : ∀ other : Text, words other.trimEnd = words other := by
    intro other
    obtain ⟨gap, hgap, hother⟩ := exists_gap_of_trimEnd other
    have hsplit := words_append_isGap other.trimEnd hgap
    rw [← hother] at hsplit
    exact hsplit.symm
  rw [trim, hend, hstart]

theorem trim_eq_nil_iff {text : Text} : text.trim = [] ↔ words text = [] := by
  constructor
  · intro hnil
    rw [← words_trim, hnil]
    rfl
  · intro hnil
    have hstart := trimStart_append_of_isGap (words_eq_nil_iff.mp hnil) []
    rw [List.append_nil] at hstart
    rw [trim, hstart]
    rfl

end Text

end UtteranceTemplate
