import UtteranceTemplate.Proofs.Captures
import UtteranceTemplate.Proofs.SameLetters

/-!
What searching by a pattern without captures comes to: trying texts in turn.

`Reads` says that a pattern tries given texts in a given order. A sequence tries all
ways of putting texts one behind the other (`Reads.seq_append`), an optional pattern
tries the empty text last (`Reads.opt`), and a chain of alternatives tries each of
them (`search_anyOf`).
-/

namespace UtteranceTemplate

namespace Pattern

variable {ignoreCase : Bool} {β : Type}

theorem findSome?_const_none {α : Type} (items : List α) :
    (items.findSome? fun _ => (none : Option β)) = none :=
  List.findSome?_eq_none_iff.mpr fun _ _ => rfl

theorem search_seq_append (front back : List Pattern) (text : Text)
    (accept : Spans → Text → Option β) :
    (seq (front ++ back)).search ignoreCase text accept =
      (seq front).search ignoreCase text fun kept rest =>
        (seq back).search ignoreCase rest fun more rest =>
          accept (kept ++ more) rest := by
  induction front generalizing text accept with
  | nil => simp [seq, search]
  | cons p front ih =>
      simp only [List.cons_append, seq, search, ih, List.append_assoc]

theorem search_seq_singleton (p : Pattern) (text : Text)
    (accept : Spans → Text → Option β) :
    (seq [p]).search ignoreCase text accept = p.search ignoreCase text accept := by
  simp [seq, search]

theorem search_seq_items (p : Pattern) (text : Text)
    (accept : Spans → Text → Option β) :
    (seq p.items).search ignoreCase text accept =
      p.search ignoreCase text accept := by
  induction p generalizing text accept with
  | empty => rfl
  | cat p q ihp ihq => simp only [items, search_seq_append, ihp, ihq, search]
  | char | oneOf | anyText | alt | opt | capture =>
      exact search_seq_singleton _ text accept

/-- Taking the patterns of a sequence apart into items changes nothing. -/
theorem search_seq_flatMap_items (ps : List Pattern) (text : Text)
    (accept : Spans → Text → Option β) :
    (seq (ps.flatMap items)).search ignoreCase text accept =
      (seq ps).search ignoreCase text accept := by
  induction ps generalizing text accept with
  | nil => rfl
  | cons p ps ih => simp only [List.flatMap_cons, search_seq_append,
      search_seq_items, ih, seq, search]

theorem captureCount_eq_zero_iff (p : Pattern) :
    p.captureCount = 0 ↔ p.captureBodies = [] := by
  rw [← length_captureBodies, List.length_eq_zero_iff]

theorem unused_eq_nil {p : Pattern} (h : p.captureCount = 0) : p.unused = [] := by
  rw [unused, h]
  rfl

/-- Patterns that keep nothing and try given texts in turn. -/
structure Reads (ignoreCase : Bool) (p : Pattern) (texts : List Text) : Prop where
  captureCount : p.captureCount = 0
  search : ∀ {β : Type} (text : Text) (accept : Spans → Text → Option β),
    p.search ignoreCase text accept =
      texts.findSome? fun wanted => (wanted.after? ignoreCase text).bind (accept [])

theorem reads_empty : Reads ignoreCase .empty [[]] :=
  ⟨rfl, fun text accept => by simp [Pattern.search]⟩

theorem reads_char (c : CodePoint) : Reads ignoreCase (.char c) [[c]] := by
  refine ⟨rfl, fun text accept => ?_⟩
  cases text with
  | nil => rfl
  | cons d rest =>
      simp only [Pattern.search, List.findSome?_cons,
        List.findSome?_nil, Text.after?]
      split
      · simp only [Option.bind_some]
        cases accept [] rest <;> rfl
      · rfl

/-- The texts of the first sequence, each with every text of the second behind it. -/
theorem Reads.seq_append {front back : List Pattern} {texts more : List Text}
    (hfront : Reads ignoreCase (seq front) texts)
    (hback : Reads ignoreCase (seq back) more) :
    Reads ignoreCase (seq (front ++ back))
      (texts.flatMap fun text => more.map (text ++ ·)) := by
  constructor
  · rw [captureCount_eq_zero_iff, captureBodies_seq, List.flatMap_append,
      ← captureBodies_seq, ← captureBodies_seq,
      (captureCount_eq_zero_iff _).mp hfront.captureCount,
      (captureCount_eq_zero_iff _).mp hback.captureCount]
    rfl
  intro β text accept
  simp only [search_seq_append, hfront.search, hback.search, findSome?_flatMap,
    List.findSome?_map]
  congr 1
  funext first
  simp only [Function.comp_def, Text.after?_append]
  cases first.after? ignoreCase text with
  | none => exact (findSome?_const_none more).symm
  | some rest => rfl

theorem Reads.opt {p : Pattern} {texts : List Text} (h : Reads ignoreCase p texts) :
    Reads ignoreCase (.opt p) (texts ++ [[]]) := by
  refine ⟨h.captureCount, fun text accept => ?_⟩
  simp only [Pattern.search, h.search, List.findSome?_append,
    unused_eq_nil h.captureCount]
  cases texts.findSome? _ <;> simp

theorem Reads.singleton {p : Pattern} {texts : List Text}
    (h : Reads ignoreCase p texts) :
    Reads ignoreCase (seq [p]) texts :=
  ⟨h.captureCount, fun text accept => by rw [search_seq_singleton, h.search]⟩

theorem reads_chars
    (text : Text) : Reads ignoreCase (seq (text.map .char)) [text] := by
  induction text with
  | nil => exact reads_empty
  | cons c text ih => exact (reads_char c).singleton.seq_append ih

/-- What a pattern leaves of a text is left behind the letters of one of its
texts. -/
theorem Reads.exists_after? {p : Pattern} {texts : List Text}
    (h : Reads ignoreCase p texts) {text rest : Text} {kept : Spans}
    (hway : (kept, rest) ∈ p.ways ignoreCase text) :
    ∃ wanted ∈ texts, wanted.after? ignoreCase text = some rest := by
  have hsearch :=
    h.search text fun _ ending => if ending = rest then some () else none
  rw [search_eq_findSome?_ways] at hsearch
  cases hfound : texts.findSome? fun wanted =>
      (wanted.after? ignoreCase text).bind fun ending =>
        if ending = rest then some () else none with
  | none =>
      rw [hfound, List.findSome?_eq_none_iff] at hsearch
      exact absurd (hsearch _ hway) (by simp)
  | some found =>
      obtain ⟨wanted, hwanted, haccept⟩ := List.exists_of_findSome?_eq_some hfound
      obtain ⟨ending, hending, hequal⟩ := Option.bind_eq_some_iff.mp haccept
      have hrest : ending = rest := by simpa using hequal
      exact ⟨wanted, hwanted, by rw [hending, hrest]⟩

theorem search_anyOf {ps : List Pattern} (hne : ps ≠ [])
    (hcount : ∀ p ∈ ps, p.captureCount = 0) (text : Text)
    (accept : Spans → Text → Option β) :
    (anyOf ps).search ignoreCase text accept =
      ps.findSome? fun p => p.search ignoreCase text accept := by
  induction ps with
  | nil => exact absurd rfl hne
  | cons p rest ih =>
      cases rest with
      | nil =>
          simp only [anyOf, List.findSome?_cons, List.findSome?_nil]
          cases p.search ignoreCase text accept <;> rfl
      | cons next rest =>
          have hrest := ih (by simp) fun q hq => hcount q (List.mem_cons_of_mem _ hq)
          have hcaptures : (anyOf (next :: rest)).captureCount = 0 := by
            rw [captureCount_eq_zero_iff, captureBodies_anyOf,
              List.flatMap_eq_nil_iff]
            intro q hq
            rw [← captureCount_eq_zero_iff]
            exact hcount q (List.mem_cons_of_mem _ hq)
          simp only [anyOf, Pattern.search, unused_eq_nil hcaptures,
            unused_eq_nil (hcount p List.mem_cons_self), List.append_nil,
              List.nil_append]
          rw [hrest]
          simp only [List.findSome?_cons]
          cases p.search ignoreCase text accept <;> rfl

/-- A character or a set reads in one way at most. -/
theorem exists_search_of_isSome_members? (ignoreCase : Bool) {p : Pattern}
    (h : p.members?.isSome) :
    ∃ ending? : Text →
      Option Text, ∀ {β : Type} text (accept : Spans → Text → Option β),
      p.search ignoreCase text accept = (ending? text).bind (accept []) := by
  cases p with
  | char c =>
      refine ⟨fun text => text.head?.bind fun d =>
        if sameLetter ignoreCase c d then some text.tail else none, ?_⟩
      intro β text accept
      cases text with
      | nil => rfl
      | cons d rest =>
          simp only [Pattern.search, List.head?_cons, Option.bind_some,
            List.tail_cons]
          split <;> rfl
  | oneOf members =>
      refine ⟨fun text => text.head?.bind fun d =>
        if isMember ignoreCase members d then some text.tail else none, ?_⟩
      intro β text accept
      cases text with
      | nil => rfl
      | cons d rest =>
          simp only [Pattern.search, List.head?_cons, Option.bind_some,
            List.tail_cons]
          split <;> rfl
  | empty | anyText | cat | alt | opt | capture => cases h

/-- Rows of characters and sets read in one way at most. -/
theorem exists_search_of_members? (ignoreCase : Bool) {common : List Pattern}
    (h : ∀ p ∈ common, p.members?.isSome) :
    ∃ ending? : Text →
      Option Text, ∀ {β : Type} text (accept : Spans → Text → Option β),
      (seq common).search ignoreCase text accept =
        (ending? text).bind (accept []) := by
  induction common with
  | nil => exact ⟨some, fun text accept => rfl⟩
  | cons p rest ih =>
      obtain ⟨ending?, hending⟩ := ih fun q hq => h q (List.mem_cons_of_mem _ hq)
      obtain ⟨first?, hfirst⟩ :=
        exists_search_of_isSome_members? ignoreCase (h p List.mem_cons_self)
      refine ⟨fun text => (first? text).bind ending?, fun text accept => ?_⟩
      simp only [seq, Pattern.search, hfirst, hending, List.nil_append,
        Option.bind_assoc]

end Pattern

end UtteranceTemplate
