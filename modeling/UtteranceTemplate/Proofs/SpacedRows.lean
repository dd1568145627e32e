import UtteranceTemplate.Proofs.PatternLanguage

/-!
Rows with a space in front of each word, and two letters set between the texts
that they stand for.

Single-spacing a text and reading a template as tokens both put the rows of texts one
behind the other, and leave out the space in front of the second row where two words
touch (`SpacedRows.Joins`). A letter touches the words on both sides of it. So the
row of a text with a letter in front of a part of it and another one behind the part
is that of three rows with the letters between them (`SpacedRows.Joins.row_between`),
and without the letters, and also without the part, these rows stay the same if words
touch or spaces stand where a letter was (`row_kept`, `row_dropped`). Where neither
is the case there is one space too many, which no spaced text has
(`touches_of_leaves_kept`, `touches_of_leaves_dropped`).
-/

namespace UtteranceTemplate

open Pattern Text

/-- Rows that texts stand for, with what stands in front of each word, whether the
row of a text ends in a word that may go on, and whether a text begins with a word,
without a blank. -/
structure SpacedRows (α : Type) where
  space : α
  row : Text → List α
  ends : Text → Bool
  begins : Text → Bool

namespace SpacedRows

variable {α : Type}

/-- A row without its first space if the word in front of it goes on with it. -/
def goOn (touch : Bool) (row : List α) : List α := if touch then row.tail else row

/-- The space behind a row unless a word goes on with what follows. -/
def gap (rows : SpacedRows α) (touch : Bool) : List α := if touch then []
    else [rows.space]

def before (rows : SpacedRows α) (text : Text) : List α :=
  rows.row text ++ rows.gap (rows.ends text)

def within (rows : SpacedRows α) (text : Text) : List α :=
  goOn (text.isEmpty || rows.begins text) (rows.before text)

def behind (rows : SpacedRows α) (text : Text) : List α :=
  goOn (rows.begins text) (rows.row text)

/-- Whether a letter between two texts touches a word. -/
def touches (rows : SpacedRows α) (front back : Text) : Bool :=
  rows.ends front || rows.begins back

/-- The shape of the rows: a text that begins with a word has a row that
begins with a space. -/
structure IsLawful (rows : SpacedRows α) : Prop where
  row_nil : rows.row [] = []
  ends_nil : rows.ends [] = false
  row_of_begins : ∀ {text}, rows.begins text = true →
    ∃ more, rows.row text = rows.space :: more
  begins_append : ∀ {front}, front ≠ [] →
    ∀ back, rows.begins (front ++ back) = rows.begins front

/-- Whether texts one behind the other have their rows one behind the other. The
first text is one of those whose row is complete. -/
structure Joins (rows : SpacedRows α) (whole : Text → Prop) :
    Prop extends rows.IsLawful where
  row_append : ∀ {front}, whole front → ∀ back,
    rows.row (front ++ back) =
      rows.row front ++ goOn (rows.ends front && rows.begins back) (rows.row back)

/-- Whether a character is a word of its own that goes on with words on both
sides of it. -/
structure IsLetter (rows : SpacedRows α) (c : CodePoint) (item : α) : Prop where
  row : rows.row [c] = [rows.space, item]
  ends : rows.ends [c] = true
  begins : rows.begins [c] = true

theorem goOn_append {touch : Bool} {row : List α} (h : touch = true → row ≠ [])
    (more : List α) :
    goOn touch (row ++ more) = goOn touch row ++ more := by
  cases touch with
  | false => rfl
  | true => exact List.tail_append_of_ne_nil (h rfl)

/-- The row of a text that begins with a word is what stands behind a letter, with a
space in front. -/
theorem row_of_begins_eq {rows : SpacedRows α} (h : rows.IsLawful) {text : Text}
    (hbegins : rows.begins text = true) :
    rows.row text = rows.space :: rows.behind text := by
  obtain ⟨more, hmore⟩ := h.row_of_begins hbegins
  rw [behind, hbegins, hmore]
  rfl

theorem row_ne_nil_of_begins {rows : SpacedRows α} (h : rows.IsLawful) {text : Text}
    (hbegins : rows.begins text = true) : rows.row text ≠ [] := by
  rw [row_of_begins_eq h hbegins]
  exact List.cons_ne_nil _ _

theorem before_ne_nil_of_begins {rows : SpacedRows α} (h : rows.IsLawful)
    {text : Text} (hbegins : rows.begins text = true) : rows.before text ≠ [] :=
  List.append_ne_nil_of_left_ne_nil (row_ne_nil_of_begins h hbegins) _

theorem within_nil {rows : SpacedRows α}
    (h : rows.IsLawful) : rows.within [] = [] := by
  simp [within, before, gap, goOn, h.row_nil, h.ends_nil]

theorem within_of_ne_nil (rows : SpacedRows α) {text : Text} (hne : text ≠ []) :
    rows.within text = goOn (rows.begins text) (rows.before text) := by
  have hempty : text.isEmpty = false := by simpa using hne
  rw [within, hempty, Bool.false_or]

theorem before_of_ends {rows : SpacedRows α} {text : Text}
    (hends : rows.ends text = true) :
    rows.before text = rows.row text := by
  simp [before, gap, hends]

theorem before_of_not_ends {rows : SpacedRows α} {text : Text}
    (hends : rows.ends text = false) :
    rows.before text = rows.row text ++ [rows.space] := by
  simp [before, gap, hends]

theorem touches_eq_false_iff {rows : SpacedRows α} {front back : Text} :
    rows.touches front back = false ↔
      rows.ends front = false ∧ rows.begins back = false :=
  Bool.or_eq_false_iff

namespace Joins

variable {rows : SpacedRows α} {whole : Text → Prop} {front inside : Text}
  {left right : CodePoint} {opening closing : α}

theorem row_letter_cons (h : rows.Joins whole) (hleft : rows.IsLetter left opening)
    (hwhole : whole [left]) (back : Text) :
    rows.row (left :: back) = rows.space :: opening :: rows.behind back := by
  have hjoins := h.row_append hwhole back
  rw [hleft.ends, hleft.row, Bool.true_and] at hjoins
  exact hjoins

theorem row_append_letter_cons (h : rows.Joins whole)
    (hleft : rows.IsLetter left opening) (hwhole : whole [left])
    (hfront : whole front) (back : Text) :
    rows.row (front ++ left :: back) =
      rows.before front ++ opening :: rows.behind back := by
  have hbegins : rows.begins (left :: back) = true := by
    rw [← hleft.begins]
    exact h.begins_append (List.cons_ne_nil left []) back
  rw [h.row_append hfront, hbegins, Bool.and_true, h.row_letter_cons hleft hwhole]
  cases hends : rows.ends front <;> simp [goOn, gap, before, hends]

theorem behind_append_letter_cons (h : rows.Joins whole)
    (hright : rows.IsLetter right closing) (hwhole : whole [right])
    (hinside : whole inside) (back : Text) :
    rows.behind (inside ++ right :: back) =
      rows.within inside ++ closing :: rows.behind back := by
  rw [behind, h.row_append_letter_cons hright hwhole hinside]
  by_cases hnil : inside = []
  · subst hnil
    have hbegins : rows.begins ([] ++ right :: back) = true := by
      rw [← hright.begins]
      exact h.begins_append (List.cons_ne_nil right []) back
    have hrow : rows.before [] = [rows.space] := by
      simp [before, gap, h.row_nil, h.ends_nil]
    rw [hbegins, hrow, within_nil h.toIsLawful]
    rfl
  · rw [h.begins_append hnil, goOn_append (before_ne_nil_of_begins h.toIsLawful),
      within_of_ne_nil rows hnil]

/-- The row of a text with two letters set in it. -/
theorem row_between (h : rows.Joins whole) (hleft : rows.IsLetter left opening)
    (hright : rows.IsLetter right closing) (hwholeLeft : whole [left])
    (hwholeRight : whole [right]) (hfront : whole front) (hinside : whole inside)
    (back : Text) :
    rows.row (front ++ left :: (inside ++ right :: back)) =
      rows.before front ++ opening ::
        (rows.within inside ++ closing :: rows.behind back) := by
  rw [h.row_append_letter_cons hleft hwholeLeft hfront,
    h.behind_append_letter_cons hright hwholeRight hinside]

/-- Without a letter the rows on both sides stay the same if a word touched
the letter. -/
theorem row_dropped (h : rows.Joins whole) (hfront : whole front) {back : Text}
    (htouch : rows.touches front back = true) :
    rows.row (front ++ back) = rows.before front ++ rows.behind back := by
  rw [h.row_append hfront, before, behind, List.append_assoc]
  congr 1
  cases hends : rows.ends front with
  | true => simp [gap]
  | false =>
      have hbegins : rows.begins back = true := by
        simpa [touches, hends] using htouch
      simp [gap, goOn, hbegins, row_of_begins_eq h.toIsLawful hbegins]

theorem behind_append (h : rows.Joins whole) (hinside : whole inside) {back : Text}
    (htouch : inside ≠ [] → rows.touches inside back = true) :
    rows.behind (inside ++ back) = rows.within inside ++ rows.behind back := by
  by_cases hnil : inside = []
  · subst hnil
    rw [within_nil h.toIsLawful]
    rfl
  · rw [behind, h.row_dropped hinside (htouch hnil), h.begins_append hnil,
      goOn_append (before_ne_nil_of_begins h.toIsLawful), within_of_ne_nil rows hnil]

/-- Without the letters the three rows stay the same if a word touched each
letter. -/
theorem row_kept (h : rows.Joins whole) (hfront : whole front)
    (hinside : whole inside) {back : Text}
    (hleft : rows.touches front (inside ++ back) = true)
    (hright : inside ≠ [] → rows.touches inside back = true) :
    rows.row (front ++ (inside ++ back)) =
      rows.before front ++ (rows.within inside ++ rows.behind back) := by
  rw [h.row_dropped hfront hleft, h.behind_append hinside hright]

/-- A text ends in a word exactly if what is put behind another text does. -/
theorem ends_append (h : rows.Joins whole) (hletter : rows.IsLetter left opening)
    (hfront : whole front) (hinside : whole inside) (hboth : whole (front ++ inside))
    (hne : inside ≠ []) : rows.ends (front ++ inside) = rows.ends inside := by
  -- the row with a letter behind both texts, taken apart at one seam and at
  -- the other
  have hleft : rows.row (front ++ (inside ++ [left])) =
      rows.row (front ++ inside) ++ goOn (rows.ends (front ++ inside))
        [rows.space, opening] := by
    rw [← List.append_assoc, h.row_append hboth, hletter.begins, hletter.row,
      Bool.and_true]
  have hright : rows.row (front ++ (inside ++ [left])) =
      rows.row (front ++ inside) ++ goOn (rows.ends inside)
        [rows.space, opening] := by
    have hrow : (rows.ends front && rows.begins inside) = true →
        rows.row inside ≠ [] :=
      fun htouch =>
        row_ne_nil_of_begins h.toIsLawful (Bool.and_eq_true_iff.mp htouch).2
    rw [h.row_append hfront, h.begins_append hne, h.row_append hinside,
      hletter.begins, hletter.row, Bool.and_true, goOn_append hrow,
        ← List.append_assoc, ← h.row_append hfront]
  rw [hleft] at hright
  have hlength := congrArg List.length (List.append_cancel_left hright)
  cases hends : rows.ends (front ++ inside) <;>
    cases hinsideEnds : rows.ends inside <;> simp_all [goOn]

end Joins

/-- The rows of single characters: the words of a text, each behind a space. -/
def ofText : SpacedRows CodePoint where
  space := ' '
  row := Utterance.normalize
  ends := endsInWord
  begins := beginsInWord

@[simp] theorem ofText_row (text : Text) :
    ofText.row text = Utterance.normalize text := rfl

theorem normalize_of_words_ne_nil {text : Text} (h : words text ≠ []) :
    Utterance.normalize text = .char ' ' :: text.singleSpaced :=
  (space_cons_joinWith _ h).symm

theorem normalize_append (front back : Text) :
    Utterance.normalize (front ++ back) = Utterance.normalize front ++
      goOn (endsInWord front && beginsInWord back) (Utterance.normalize back) := by
  cases htouch : endsInWord front && beginsInWord back with
  | false =>
      rw [Utterance.normalize, words_append_of_not_touching htouch,
        List.flatMap_append]
      rfl
  | true =>
      obtain ⟨hends, hbegins⟩ := Bool.and_eq_true_iff.mp htouch
      have hfront := words_ne_nil_of_endsInWord hends
      have hback := words_ne_nil_of_beginsInWord hbegins
      have hboth : words (front ++ back) ≠ [] := by
        rw [Ne, words_eq_nil_iff] at hfront ⊢
        exact fun hgap => hfront fun c hc => hgap c (List.mem_append_left back hc)
      rw [normalize_of_words_ne_nil hboth, normalize_of_words_ne_nil hfront,
        normalize_of_words_ne_nil hback,
          singleSpaced_append_of_touching hends hbegins]
      rfl

theorem joins_ofText : ofText.Joins fun _ => True where
  row_nil := rfl
  ends_nil := rfl
  row_of_begins := fun hbegins =>
    ⟨_, normalize_of_words_ne_nil (words_ne_nil_of_beginsInWord hbegins)⟩
  begins_append := fun hne back => beginsInWord_append hne back
  row_append := fun _ back => normalize_append _ back

theorem isLetter_ofText {c : CodePoint} (hc : isBlank c = false) :
    ofText.IsLetter c c := by
  constructor
  · simp [ofText, Utterance.normalize, words, hc]
  · simp [ofText, endsInWord, hc]
  · simp [ofText, beginsInWord, hc]

/-- Rows with an item for each item of other rows. -/
def map {β : Type} (f : α → β) (rows : SpacedRows α) : SpacedRows β where
  space := f rows.space
  row text := (rows.row text).map f
  ends := rows.ends
  begins := rows.begins

section Map

variable {β : Type} {f : α → β} {rows : SpacedRows α}

@[simp] theorem map_row (text : Text) :
    (rows.map f).row text = (rows.row text).map f := rfl

theorem map_goOn (touch : Bool) (row : List α) :
    (goOn touch row).map f = goOn touch (row.map f) := by
  cases touch with
  | false => rfl
  | true => exact List.map_tail

theorem before_map (text : Text) :
    (rows.map f).before text = (rows.before text).map f := by
  rw [before, before, List.map_append]
  cases hends : rows.ends text <;> simp [map, gap, hends]

theorem within_map (text : Text) :
    (rows.map f).within text = (rows.within text).map f := by
  rw [within, within, map_goOn, before_map]
  rfl

theorem behind_map (text : Text) :
    (rows.map f).behind text = (rows.behind text).map f := by
  rw [behind, behind, map_goOn]
  rfl

theorem IsLawful.map (h : rows.IsLawful) : (rows.map f).IsLawful where
  row_nil := by simp [SpacedRows.map, h.row_nil]
  ends_nil := h.ends_nil
  row_of_begins := fun hbegins => by
    obtain ⟨more, hmore⟩ := h.row_of_begins hbegins
    exact ⟨more.map f, by simp [SpacedRows.map, hmore]⟩
  begins_append := h.begins_append

end Map

/-! ### Spaces that no spaced text has -/

/-- Whether items read nothing of a spaced text, or else a space first. -/
def StartsAtSpace (ignoreCase : Bool) (items : List Pattern) : Prop :=
  ∀ text rest, IsSpaced text → Leaves ignoreCase items text rest →
    rest = text ∨ text.head? = some (.char ' ')

section Leaves

variable {ignoreCase : Bool} {rows : SpacedRows Pattern}
  {text rest front inside back : Text}

/-- Behind a space there is neither another one nor the end. -/
theorem not_leaves_space_cons {items more : List Pattern}
    (hmore : StartsAtSpace ignoreCase more) (hspaced : IsSpaced text)
    (hrest : ∀ c, rest.head? = some c → c = ' ') :
    ¬ Leaves ignoreCase (items ++ .char ' ' :: more) text rest := by
  intro h
  obtain ⟨middle, hitems, hspace⟩ := leaves_append.mp h
  obtain ⟨read, rfl⟩ := exists_append_of_leaves hitems
  rw [← List.singleton_append, leaves_append] at hspace
  obtain ⟨ending, hchar, hleaves⟩ := hspace
  rw [leaves_space.mp hchar] at hspaced
  obtain ⟨c, word, rfl, hc⟩ := hspaced.of_append.head_of_space_cons
  have hblank : c ≠ ' ' := by
    rintro rfl
    exact absurd hc (by decide)
  rcases hmore _ _ hspaced.of_append.2 hleaves with rfl | hhead
  · exact hblank (hrest c rfl)
  · exact hblank (Option.some.inj hhead)

theorem StartsAtSpace.append_space {items more : List Pattern}
    (h : StartsAtSpace ignoreCase items) :
    StartsAtSpace ignoreCase (items ++ .char ' ' :: more) := by
  intro text rest hspaced hleaves
  obtain ⟨middle, hitems, hspace⟩ := leaves_append.mp hleaves
  right
  rcases h _ _ hspaced hitems with rfl | hhead
  · rw [← List.singleton_append, leaves_append] at hspace
    obtain ⟨ending, hchar, _⟩ := hspace
    rw [leaves_space.mp hchar]
    rfl
  · exact hhead

theorem touches_of_leaves_dropped (hspace : rows.space = .char ' ')
    (hback : StartsAtSpace ignoreCase (rows.row back)) (hspaced : IsSpaced text)
    (hrest : ∀ c, rest.head? = some c → c = ' ')
    (h : Leaves ignoreCase (rows.before front ++ rows.behind back) text rest) :
    rows.touches front back = true := by
  by_contra hnone
  obtain ⟨hends, hbegins⟩ := touches_eq_false_iff.mp (Bool.eq_false_iff.mpr hnone)
  have hrows : rows.before front ++ rows.behind back =
      rows.row front ++ .char ' ' :: rows.row back := by
    simp [before_of_not_ends hends, behind, goOn, hbegins, hspace]
  rw [hrows] at h
  exact not_leaves_space_cons hback hspaced hrest h

theorem startsAtSpace_before_append (hspace : rows.space = .char ' ')
    (hinside : StartsAtSpace ignoreCase (rows.row inside))
    (hends : rows.ends inside = true → ∀ middle ending, IsSpaced middle →
      Leaves ignoreCase (rows.row inside) middle ending →
        middle.head? = some (.char ' '))
    (more : List Pattern) :
    StartsAtSpace ignoreCase (rows.before inside ++ more) := by
  cases hword : rows.ends inside with
  | false =>
      rw [before_of_not_ends hword, hspace, List.append_assoc]
      exact hinside.append_space
  | true =>
      intro middle ending hmiddle hleaves
      rw [before_of_ends hword] at hleaves
      obtain ⟨_, hrow, _⟩ := leaves_append.mp hleaves
      exact Or.inr (hends hword _ _ hmiddle hrow)

theorem touches_front_of_leaves_kept (hlawful : rows.IsLawful)
    (hspace : rows.space = .char ' ')
    (hinside : StartsAtSpace ignoreCase (rows.row inside))
    (hends : rows.ends inside = true → ∀ middle ending, IsSpaced middle →
      Leaves ignoreCase (rows.row inside) middle ending →
        middle.head? = some (.char ' '))
    (hspaced : IsSpaced text) (hrest : ∀ c, rest.head? = some c → c = ' ')
    (hne : inside ≠ [])
    (h : Leaves ignoreCase
      (rows.before front ++ (rows.within inside ++ rows.behind back)) text rest) :
    rows.touches front (inside ++ back) = true := by
  by_contra hnone
  obtain ⟨hfront, hbegins⟩ := touches_eq_false_iff.mp (Bool.eq_false_iff.mpr hnone)
  rw [hlawful.begins_append hne] at hbegins
  have hrows : rows.before front ++ (rows.within inside ++ rows.behind back) =
      rows.row front ++ .char ' ' :: (rows.before inside ++ rows.behind back) := by
    simp [within_of_ne_nil rows hne, before_of_not_ends hfront, goOn,
      hbegins, hspace]
  rw [hrows] at h
  exact not_leaves_space_cons (startsAtSpace_before_append hspace hinside hends _)
    hspaced hrest h

theorem touches_back_of_leaves_kept (hlawful : rows.IsLawful)
    (hspace : rows.space = .char ' ')
    (hback : StartsAtSpace ignoreCase (rows.row back)) (hspaced : IsSpaced text)
    (hrest : ∀ c, rest.head? = some c → c = ' ') (hne : inside ≠ [])
    (h : Leaves ignoreCase
      (rows.before front ++ (rows.within inside ++ rows.behind back)) text rest) :
    rows.touches inside back = true := by
  by_contra hnone
  obtain ⟨hword, hbegins⟩ := touches_eq_false_iff.mp (Bool.eq_false_iff.mpr hnone)
  have hwithin : rows.within inside =
      goOn (rows.begins inside) (rows.row inside) ++ [.char ' '] := by
    rw [within_of_ne_nil rows hne, before_of_not_ends hword, hspace,
      goOn_append (row_ne_nil_of_begins hlawful)]
  have hrows : rows.before front ++ (rows.within inside ++ rows.behind back) =
      (rows.before front ++ goOn (rows.begins inside) (rows.row inside)) ++
        .char ' ' :: rows.row back := by
    simp [hwithin, behind, goOn, hbegins]
  rw [hrows] at h
  exact not_leaves_space_cons hback hspaced hrest h

theorem touches_of_leaves_kept (hlawful : rows.IsLawful)
    (hspace : rows.space = .char ' ')
    (hinside : StartsAtSpace ignoreCase (rows.row inside))
    (hends : rows.ends inside = true → ∀ middle ending, IsSpaced middle →
      Leaves ignoreCase (rows.row inside) middle ending →
        middle.head? = some (.char ' '))
    (hback : StartsAtSpace ignoreCase (rows.row back)) (hspaced : IsSpaced text)
    (hrest : ∀ c, rest.head? = some c → c = ' ')
    (h : Leaves ignoreCase
      (rows.before front ++ (rows.within inside ++ rows.behind back)) text rest) :
    rows.touches front (inside ++ back) = true ∧
      (inside ≠ [] → rows.touches inside back = true) := by
  by_cases hnil : inside = []
  · subst hnil
    rw [within_nil hlawful] at h
    exact ⟨touches_of_leaves_dropped hspace hback hspaced hrest h,
      fun hne => absurd rfl hne⟩
  · exact ⟨touches_front_of_leaves_kept hlawful hspace hinside hends hspaced
      hrest hnil h,
      fun hne =>
        touches_back_of_leaves_kept hlawful hspace hback hspaced hrest hne h⟩

end Leaves

end SpacedRows

end UtteranceTemplate
