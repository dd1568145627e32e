import Mathlib.Data.Set.List
import UtteranceTemplate.Proofs.PatternSearch

/-!
What a choice tries: the texts of its branches in turn, or the members of a set.

Branches that differ in their last letter only make a set (`differInLast`), which
leaves out the texts whose last letter it loses (`isTried`). All other choices try
their branches in turn, although what the branches begin with is read only once.
`reads_choice` says both.
-/

namespace UtteranceTemplate

/-- Whether every choice is one text, and the texts differ in their last letter
and nowhere else. -/
def differInLast : List (List Text) → Bool
  | [first] :: others =>
      !first.isEmpty &&
        (others.all fun texts => texts.map List.dropLast ==
          [first.dropLast] && texts != [[]]) &&
        others.any (· != [first])
  | _ => false

/-- Whether a text of one of several choices is tried at all: not if the choices make
a set that loses its last letter. -/
def isTried (ignoreCase : Bool) (choices : List (List Text)) (text : Text) : Bool :=
  !(differInLast choices && text.getLast?.any (isLost ignoreCase))

/-- Where case counts no set loses a letter. -/
theorem isTried_false (choices : List (List Text)) (text : Text) :
    isTried false choices text = true := by
  have hlost : isLost false = fun _ => false := rfl
  cases hlast : text.getLast? <;> simp [isTried, hlost, hlast]

theorem exists_eq_map_of_forall_mem {α β : Type} {f : α → β} {ys : List β}
    (h : ∀ y ∈ ys, ∃ x, y = f x) : ∃ xs : List α, ys = xs.map f := by
  have hmem : ys ∈ Set.range (List.map f) := by
    rw [Set.range_list_map]
    intro y hy
    obtain ⟨x, hx⟩ := h y hy
    exact ⟨x, hx.symm⟩
  obtain ⟨xs, hxs⟩ := hmem
  exact ⟨xs, hxs.symm⟩

/-- The choices are a common start with one letter behind it, and not all of these
letters are the same. -/
theorem differInLast_iff (choices : List (List Text)) :
    differInLast choices = true ↔
      ∃ (start : Text) (first : CodePoint) (others : Text),
        choices = (first :: others).map (fun c => [start ++ [c]]) ∧
          ∃ c ∈ others, c ≠ first := by
  constructor
  · intro h
    match choices, h with
    | [text] :: choices, h =>
        simp only [differInLast, Bool.and_eq_true, Bool.not_eq_true',
          List.all_eq_true, beq_iff_eq, bne_iff_ne, ne_eq, List.any_eq_true] at h
        obtain ⟨⟨htext, hothers⟩, different, hmem, hdifferent⟩ := h
        have hne : text ≠ [] := by
          rintro rfl
          cases htext
        have hlast : ∀ texts ∈ choices, ∃ c, texts = [text.dropLast ++ [c]] := by
          intro texts htexts
          obtain ⟨hdrop, hnil⟩ := hothers texts htexts
          obtain ⟨other, rfl, hother⟩ := List.map_eq_singleton_iff.mp hdrop
          have hotherNe : other ≠ [] := fun heq => hnil (by rw [heq])
          exact ⟨other.getLast hotherNe, by
            rw [← hother, List.dropLast_append_getLast hotherNe]⟩
        obtain ⟨letters, rfl⟩ := exists_eq_map_of_forall_mem hlast
        obtain ⟨c, hc, rfl⟩ := List.mem_map.mp hmem
        have htext : text = text.dropLast ++ [text.getLast hne] :=
          (List.dropLast_append_getLast hne).symm
        refine ⟨text.dropLast, text.getLast hne, letters, by
          rw [List.map_cons, ← htext], c, hc, ?_⟩
        rintro rfl
        exact hdifferent (by rw [← htext])
  · rintro ⟨start, first, others, rfl, c, hc, hne⟩
    simp only [differInLast, List.map_cons, Bool.and_eq_true, Bool.not_eq_true',
      List.all_eq_true, List.any_eq_true, List.mem_map]
    refine ⟨⟨by simp, ?_⟩, _, ⟨c, hc, rfl⟩, by simpa using hne⟩
    rintro _ ⟨d, _, rfl⟩
    simp

namespace Pattern

variable {ignoreCase : Bool} {β : Type}

/-- What all branches begin with goes to what they share. -/
theorem splitCommon_append {common : List Pattern}
    (h : ∀ p ∈ common, p.members?.isSome) (branch : List Pattern)
    (others : List (List Pattern)) :
    splitCommon (common ++ branch) (others.map (common ++ ·)) =
      (common ++ (splitCommon branch others).1, (splitCommon branch others).2) := by
  induction common with
  | nil => simp
  | cons p common ih =>
      have hrest := ih fun q hq => h q (List.mem_cons_of_mem _ hq)
      have hp : p.members?.isSome := h p List.mem_cons_self
      have htails : (others.map (p :: common ++ ·)).map List.tail =
          others.map (common ++ ·) := by
        simp [Function.comp_def]
      have hheads : (others.map (p :: common ++ ·)).all
          (fun branch => branch.head? == some p) := by
        simp
      simp only [List.cons_append] at hheads htails ⊢
      simp [splitCommon, hp, htails, hrest]

/-- Nothing that all branches begin with is left behind what they share. -/
theorem splitCommon_stops {branch rest : List Pattern} {others : List (List Pattern)}
    {p : Pattern} (hp : p.members?.isSome)
    (hrest : (splitCommon branch others).2.1 = p :: rest) :
    ∃ other ∈ (splitCommon branch others).2.2, other.head? ≠ some p := by
  induction branch generalizing others with
  | nil => simp [splitCommon] at hrest
  | cons q branch ih =>
      by_cases hq : (q.members?.isSome &&
        others.all (fun branch => branch.head? == some q)) = true
      · simp only [splitCommon, hq, if_true] at hrest ⊢
        exact ih hrest
      · simp only [splitCommon, hq, if_false, Bool.false_eq_true] at hrest ⊢
        obtain ⟨rfl, rfl⟩ := List.cons.inj hrest
        simpa [hp] using hq

theorem choice_cons (branch : List Pattern) {others : List (List Pattern)}
    (hne : others ≠ []) :
    choice (branch :: others) =
      match splitCommon branch others with
      | (common, rest, rests) =>
          match (rest :: rests).mapM branchMembers? with
          | some members => seq (common ++ [.oneOf members.flatten.eraseDups])
          | none => seq (common ++ [anyOf ((rest :: rests).map seq)]) := by
  cases others with
  | nil => exact absurd rfl hne
  | cons other others => rfl

/-- A choice that is no set tries its branches in turn. -/
theorem search_choice {branch : List Pattern} {others : List (List Pattern)}
    (hne : others ≠ [])
    (hcount : ∀ row ∈ branch :: others, (seq row).captureCount = 0)
    (hset : ((splitCommon branch others).2.1 :: (splitCommon branch others).2.2).mapM
      branchMembers? = none)
    (text : Text) (accept : Spans → Text → Option β) :
    (choice (branch :: others)).search ignoreCase text accept =
      (branch :: others).findSome? fun row =>
        (seq row).search ignoreCase text accept := by
  obtain ⟨hbranch, hothers, hmembers⟩ := splitCommon_spec branch others
  rw [choice_cons branch hne]
  generalize splitCommon branch others = split at hbranch hothers hmembers hset
  obtain ⟨common, rest, rests⟩ := split
  simp only at hbranch hothers hmembers hset ⊢
  obtain ⟨ending?, hending⟩ := exists_search_of_members? ignoreCase hmembers
  have hbranches : branch :: others = (rest :: rests).map (common ++ ·) := by
    rw [hothers, hbranch]
    rfl
  rw [hbranches] at hcount ⊢
  have hrests : ∀ p ∈ (rest :: rests).map seq, p.captureCount = 0 := by
    intro p hp
    obtain ⟨row, hrow, rfl⟩ := List.mem_map.mp hp
    have hzero := hcount _ (List.mem_map_of_mem hrow)
    rw [captureCount_eq_zero_iff, captureBodies_seq, List.flatMap_append,
      List.append_eq_nil_iff, ← captureBodies_seq] at hzero
    exact (captureCount_eq_zero_iff _).mpr (by rw [captureBodies_seq]; exact hzero.2)
  simp only [hset, search_seq_append, hending, search_seq_singleton,
    search_anyOf (by simp) hrests, List.findSome?_map, Function.comp_def]
  -- if what the branches share cannot be read, none of them can
  cases ending? text with
  | none => exact (findSome?_const_none _).symm
  | some rest => rfl

theorem reads_oneOf {members letters : Text}
    (h : ∀ d,
      isMember ignoreCase members d = letters.any (sameLetter ignoreCase · d)) :
    Reads ignoreCase (.oneOf members) (letters.map fun c => [c]) := by
  refine ⟨rfl, fun text accept => ?_⟩
  cases text with
  | nil =>
      rw [List.findSome?_map]
      exact (findSome?_const_none letters).symm
  | cons d rest =>
      simp only [Pattern.search, h, List.findSome?_map,
        Function.comp_def, Text.after?]
      clear h
      induction letters with
      | nil => rfl
      | cons c letters ih =>
          rw [List.findSome?_cons, ← ih]
          by_cases hc : sameLetter ignoreCase c d = true
          · simp only [List.any_cons, hc, Bool.true_or, if_true, Option.bind_some]
            cases accept [] rest <;> simp
          · simp [hc]

/-- A set of letters tries those that it does not lose. -/
theorem reads_set (ignoreCase : Bool) (start letters : Text) :
    Reads ignoreCase (seq (start.map .char ++ [.oneOf letters.eraseDups]))
      ((letters.filter (!isLost ignoreCase ·)).map fun c => start ++ [c]) := by
  have hmember : ∀ d, isMember ignoreCase letters.eraseDups d =
      (letters.filter (!isLost ignoreCase ·)).any (sameLetter ignoreCase · d) := by
    intro d
    rw [Bool.eq_iff_iff]
    simp only [isMember, List.any_eq_true, List.mem_eraseDups, List.mem_filter,
      Bool.not_eq_true']
    constructor
    · rintro ⟨c, hc, hmeets⟩
      cases hlost : isLost ignoreCase c with
      | true => rw [meetsMember_eq_false_of_isLost hlost] at hmeets; cases hmeets
      | false => exact ⟨c, ⟨hc, hlost⟩, sameLetter_of_meetsMember hmeets⟩
    · rintro ⟨c, ⟨hc, hlost⟩, hsame⟩
      exact ⟨c, hc, by rw [meetsMember_eq_sameLetter_of_not_isLost hlost, hsame]⟩
  have hreads := (reads_chars start).seq_append (reads_oneOf hmember).singleton
  simpa [Function.comp_def] using hreads

theorem mapM_branchMembers?_chars (letters : Text) :
    (letters.map fun c => [Pattern.char c]).mapM branchMembers? =
      some (letters.map fun c => [c]) := by
  induction letters with
  | nil => rfl
  | cons c letters ih =>
      rw [List.map_cons, List.mapM_cons, ih]
      rfl

/-- Texts that differ in their last letter only make a set. -/
theorem choice_eq_set (start : Text) (first : CodePoint) {others : Text}
    (h : ∃ c ∈ others, c ≠ first) :
    choice ((first :: others).map fun c => (start ++ [c]).map .char) =
      seq (start.map .char ++ [.oneOf (first :: others).eraseDups]) := by
  obtain ⟨c, hc, hne⟩ := h
  have hstart : ∀ p ∈ start.map Pattern.char, p.members?.isSome := by
    intro p hp
    obtain ⟨d, _, rfl⟩ := List.mem_map.mp hp
    rfl
  have hall : (others.map fun c => [Pattern.char c]).all
      (fun branch => branch.head? == some (.char first)) = false := by
    rw [List.all_eq_false]
    exact ⟨_, List.mem_map_of_mem hc, by simpa using hne⟩
  have hstop : splitCommon [.char first] (others.map fun c => [.char c]) =
      ([], [.char first], others.map fun c => [.char c]) := by
    rw [splitCommon, hall, Bool.and_false]
    rfl
  have hothers : (others.map fun c => (start ++ [c]).map Pattern.char) =
      (others.map fun c => [Pattern.char c]).map (start.map .char ++ ·) := by
    simp [Function.comp_def]
  have hfirst : (start ++ [first]).map Pattern.char =
    start.map .char ++ [.char first] := by simp
  have hsplit :=
    splitCommon_append hstart [.char first] (others.map fun c => [.char c])
  rw [hstop, List.append_nil] at hsplit
  have hmembers := mapM_branchMembers?_chars (first :: others)
  have hflatten : ((first :: others).map fun c => [c]).flatten =
      first :: others := by
    simp [← List.flatMap_def]
  rw [List.map_cons] at hmembers
  have hrest :
      ((others.map fun c => [Pattern.char c]).map (start.map .char ++ ·)) ≠ [] := by
    simpa using List.ne_nil_of_mem hc
  rw [List.map_cons, hothers, hfirst, choice_cons _ hrest]
  simp only [hsplit, hmembers, hflatten]

/-- A branch that tries given texts. One text is written by its characters, and all
others come of items that read in several ways. -/
structure Writes (ignoreCase : Bool) (branch : List Pattern)
    (texts : List Text) : Prop where
  reads : Reads ignoreCase (seq branch) texts
  single : ∀ text, texts = [text] → branch = text.map .char
  several : (∀ text, texts ≠ [text]) → ∃ item ∈ branch, item.members? = none

theorem Writes.eq_of_members? {branch : List Pattern} {texts : List Text}
    (h : Writes ignoreCase branch texts)
    (hmembers : ∀ item ∈ branch, item.members?.isSome) :
    ∃ text, texts = [text] ∧ branch = text.map .char := by
  by_cases hsingle : ∃ text, texts = [text]
  · obtain ⟨text, htext⟩ := hsingle
    exact ⟨text, htext, h.single text htext⟩
  · obtain ⟨item, hitem, hnone⟩ := h.several (not_exists.mp hsingle)
    have hsome := hmembers item hitem
    rw [hnone] at hsome
    cases hsome

/-- A branch of which a set leaves one character is a text that ends with the
character. -/
theorem Writes.exists_of_branchMembers? {common row : List Pattern}
    {texts : List Text} {members : List CodePoint}
    (h : Writes ignoreCase (common ++ row) texts)
    (hcommon : ∀ item ∈ common, item.members?.isSome)
    (hrow : branchMembers? row = some members) :
    ∃ start c, texts = [start ++ [c]] ∧ common = start.map .char ∧
      row = [.char c] := by
  match row, hrow with
  | [p], hrow =>
      have hmembers : ∀ item ∈ common ++ [p], item.members?.isSome := by
        intro item hitem
        rcases List.mem_append.mp hitem with hitem | hitem
        · exact hcommon item hitem
        · rw [List.mem_singleton.mp hitem]
          exact Option.isSome_iff_exists.mpr ⟨members, hrow⟩
      obtain ⟨text, rfl, htext⟩ := h.eq_of_members? hmembers
      obtain ⟨start, last, rfl, hstart, hlast⟩ := List.append_eq_map_iff.mp htext
      obtain ⟨c, rfl, hc⟩ := List.map_eq_singleton_iff.mp hlast
      exact ⟨start, c, rfl, hstart.symm, by rw [hc]⟩

/-- Branches that make a set are texts that differ in their last letter only. -/
theorem differInLast_of_mapM_eq_some {branch : List Pattern}
    {others : List (List Pattern)} {choices : List (List Text)}
    {members : List (List CodePoint)}
    (h : List.Forall₂ (Writes ignoreCase) (branch :: others) choices)
    (hset : ((splitCommon branch others).2.1 :: (splitCommon branch others).2.2).mapM
      branchMembers? = some members) :
    differInLast choices = true := by
  obtain ⟨hbranch, hothers, hcommon⟩ := splitCommon_spec branch others
  have hstops : ∀ {p rest}, p.members?.isSome →
      (splitCommon branch others).2.1 = p :: rest →
      ∃ other ∈ (splitCommon branch others).2.2, other.head? ≠ some p :=
    splitCommon_stops
  generalize splitCommon branch others = split at hbranch hothers hcommon hset hstops
  obtain ⟨common, rest, rests⟩ := split
  simp only at hbranch hothers hcommon hset hstops
  have hletters : ∀ row ∈ rest :: rests, ∀ texts,
      Writes ignoreCase (common ++ row) texts →
      ∃ start c, texts = [start ++ [c]] ∧ common = start.map .char ∧
        row = [.char c] := by
    intro row hrow texts hwrites
    obtain ⟨found, _, hfound⟩ :=
      exists_of_forall₂_of_mem (forall₂_of_mapM_eq_some hset) hrow
    exact hwrites.exists_of_branchMembers? hcommon hfound
  rw [hothers, hbranch] at h
  cases h with
  | @cons _ texts _ choices hfirst hrest =>
      obtain ⟨start, first, rfl, hstart, rfl⟩ :=
        hletters rest List.mem_cons_self texts hfirst
      rw [List.forall₂_map_left_iff] at hrest
      have hchoices : ∀ texts ∈ choices, ∃ c, texts = [start ++ [c]] := by
        intro texts htexts
        obtain ⟨row, hrow, hwrites⟩ := exists_of_forall₂_of_mem hrest.flip htexts
        obtain ⟨front, c, rfl, hfront, _⟩ :=
          hletters row (List.mem_cons_of_mem _ hrow) texts hwrites
        have hinjective : Function.Injective Pattern.char :=
          fun _ _ heq => Pattern.char.inj heq
        rw [hstart] at hfront
        rw [List.map_injective_iff.mpr hinjective hfront]
        exact ⟨c, rfl⟩
      obtain ⟨letters, rfl⟩ := exists_eq_map_of_forall_mem hchoices
      rw [differInLast_iff]
      refine ⟨start, first, letters, rfl, ?_⟩
      -- if all letters were the same, the branches would share the last one too
      obtain ⟨other, hother, hne⟩ := hstops (p := .char first) rfl rfl
      obtain ⟨texts, htexts, hwrites⟩ := exists_of_forall₂_of_mem hrest hother
      obtain ⟨c, hc, rfl⟩ := List.mem_map.mp htexts
      obtain ⟨front, d, htext, _, rfl⟩ :=
        hletters other (List.mem_cons_of_mem _ hother) _ hwrites
      have hcd : c = d := by simpa using congrArg (List.map List.getLast?) htext
      exact ⟨c, hc, by simpa [hcd] using hne⟩

theorem search_branches {branches : List (List Pattern)} {choices : List (List Text)}
    (h : List.Forall₂ (Writes ignoreCase) branches choices) (text : Text)
    (accept : Spans → Text → Option β) :
    (branches.findSome? fun branch => (seq branch).search ignoreCase text accept) =
      choices.flatten.findSome? fun wanted =>
        (wanted.after? ignoreCase text).bind (accept []) := by
  induction h with
  | nil => rfl
  | cons hwrites _ ih =>
      rw [List.findSome?_cons, hwrites.reads.search, ih, List.flatten_cons,
        List.findSome?_append]
      cases List.findSome? _ _ <;> rfl

/-- A choice tries the texts of its branches in turn, but for those that it
loses as a set. -/
theorem reads_choice {branches : List (List Pattern)} {choices : List (List Text)}
    (hne : branches ≠ []) (h : List.Forall₂ (Writes ignoreCase) branches choices) :
    Reads ignoreCase (choice branches)
      (choices.flatten.filter (isTried ignoreCase choices)) := by
  by_cases hdiffer : differInLast choices = true
  · obtain ⟨start, first, others, rfl, hother⟩ :=
      (differInLast_iff choices).mp hdiffer
    have hbranches : branches = (first :: others).map fun c =>
        (start ++ [c]).map .char := by
      rw [List.forall₂_map_right_iff] at h
      have heq : List.Forall₂ (· = ·) branches
          ((first :: others).map fun c => (start ++ [c]).map .char) :=
        List.forall₂_map_right_iff.mpr
          (h.imp fun _ c hwrites => hwrites.single (start ++ [c]) rfl)
      rwa [List.forall₂_eq_eq_eq] at heq
    have htexts : (((first :: others).map fun c => [start ++ [c]]).flatten.filter
        (isTried ignoreCase ((first :: others).map fun c => [start ++ [c]]))) =
          ((first :: others).filter (!isLost ignoreCase ·)).map fun c =>
            start ++ [c] := by
      have htried :
          isTried ignoreCase ((first :: others).map fun c => [start ++ [c]]) =
          fun text => !text.getLast?.any (isLost ignoreCase) := by
        funext text
        rw [isTried, hdiffer, Bool.true_and]
      rw [htried, ← List.flatMap_def, ← List.map_eq_flatMap, List.filter_map]
      simp [Function.comp_def]
    rw [hbranches, choice_eq_set start first hother, htexts]
    exact reads_set ignoreCase start (first :: others)
  · have htried : ∀ text ∈ choices.flatten,
        isTried ignoreCase choices text = true := by
      intro text _
      simp [isTried, hdiffer]
    rw [List.filter_eq_self.mpr htried]
    have hcount : ∀ row ∈ branches, (seq row).captureCount = 0 := by
      intro row hrow
      obtain ⟨texts, _, hwrites⟩ := exists_of_forall₂_of_mem h hrow
      exact hwrites.reads.captureCount
    constructor
    · rw [captureCount_eq_zero_iff, captureBodies_choice, List.flatMap_eq_nil_iff]
      intro row hrow
      rw [← captureBodies_seq, ← captureCount_eq_zero_iff]
      exact hcount row hrow
    · intro β text accept
      rw [← search_branches h]
      match branches, hne with
      | [branch], _ =>
          simp only [choice, List.findSome?_cons, List.findSome?_nil]
          cases (seq branch).search ignoreCase text accept <;> rfl
      | branch :: other :: others, _ =>
          apply search_choice (by simp) hcount
          cases hset : List.mapM branchMembers? _ with
          | none => rfl
          | some members =>
              exact absurd (differInLast_of_mapM_eq_some h hset) hdiffer

end Pattern

end UtteranceTemplate
