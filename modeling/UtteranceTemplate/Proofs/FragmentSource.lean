import Mathlib.Data.List.TakeWhile
import UtteranceTemplate.Proofs.CaseFolding
import UtteranceTemplate.Template.Fragment

/-!
The texts that fragments are read from.

`Fragment.IsSource` is the grammar of the five kinds of fragments, each on its own.
Names hold no blank and no bracket, so what stands between two brackets has one
structure only, and reading a fragment at the start of a text finds its source there
if there is one (`Fragment.read?_eq_some_iff`). So no two kinds of fragments begin
the same text (`Fragment.Begins.unique`), and the kinds may be tried in any order
(`Production.findSome?_read?`).
-/

namespace UtteranceTemplate

open Text

namespace Fragment

/-- Whether a text is a name with blanks around it. -/
def IsPadded (name text : Text) : Prop :=
  name ≠ [] ∧ (∀ c ∈ name, isWordChar c = true) ∧
    ∃ before after, IsGap before ∧ IsGap after ∧ text = before ++ name ++ after

/-- Whether a fragment can be read from exactly this text. -/
inductive IsSource : Fragment → Text → Prop
  | parameter {name value left right : Text} (hname : IsPadded name left)
      (hvalue : IsPadded value right) :
      IsSource (.parameter name value)
        (.char '[' :: (left ++ .char '=' :: (right ++ [.char ']'])))
  | untypedSlot {name inside : Text} (hname : IsPadded name inside) :
      IsSource (.untypedSlot name) (.char '[' :: (inside ++ [.char ']']))
  | typedSlot {name type left right : Text} (hname : IsPadded name left)
      (htype : IsPadded type right) :
      IsSource (.typedSlot name type)
        (.char '[' :: (left ++ .char ':' :: (right ++ [.char ']'])))
  | alternatives {interior : Text} (hne : interior ≠ [])
      (hclose : .char ')' ∉ interior) :
      IsSource (.alternatives (choicesOf interior))
        (.char '(' :: (interior ++ [.char ')']))
  | words {run : Text} (hne : run ≠ []) (hopen : ∀ c ∈ run, isOpening c = false) :
      IsSource (.words run) run

/-- Whether a fragment stands at the start of a text, in front of the given rest. A
run of words goes as far as it can. -/
def Begins (fragment : Fragment) (text rest : Text) : Prop :=
  ∃ source, fragment.IsSource source ∧ text = source ++ rest ∧
    (fragment.production = .words → ∀ c, rest.head? = some c → isOpening c = true)

theorem readName_append {before name after rest : Text} (hbefore : IsGap before)
    (hne : name ≠ []) (hname : ∀ c ∈ name, isWordChar c = true)
    (hafter : IsGap after)
    (hrest : ∀ c, rest.head? = some c → isBlank c = false ∧ isWordChar c = false) :
    readName (before ++ name ++ after ++ rest) = (name, rest) := by
  have hstart : trimStart (before ++ name ++ after ++ rest) =
      name ++ (after ++ rest) := by
    rw [List.append_assoc, List.append_assoc, trimStart_append_of_isGap hbefore]
    apply trimStart_eq_self
    intro c hc
    cases name with
    | nil => exact absurd rfl hne
    | cons d name =>
        rw [← Option.some.inj hc]
        exact not_isBlank_of_isWordChar (hname d List.mem_cons_self)
  have hstop : ∀ c, (after ++ rest).head? = some c → isWordChar c = false := by
    intro c hc
    cases after with
    | nil => exact (hrest c hc).2
    | cons d after =>
        rw [← Option.some.inj hc]
        exact not_isWordChar_of_isBlank (hafter d List.mem_cons_self)
  obtain ⟨htake, hdrop⟩ := takeWhile_append_of_head? hname hstop
  simp only [readName, hstart, htake, hdrop]
  rw [trimStart_append_of_isGap hafter, trimStart_eq_self fun c hc => (hrest c hc).1]

theorem exists_of_readName (text : Text) :
    ∃ before after, IsGap before ∧ IsGap after ∧
      (∀ c ∈ (readName text).1, isWordChar c = true) ∧
      text = before ++ (readName text).1 ++ after ++ (readName text).2 := by
  refine ⟨text.takeWhile isBlank,
    (text.trimStart.dropWhile isWordChar).takeWhile isBlank,
    isGap_takeWhile _, isGap_takeWhile _, fun c hc => List.mem_takeWhile_imp hc, ?_⟩
  simp only [readName, List.append_assoc]
  rw [takeWhile_append_trimStart, List.takeWhile_append_dropWhile,
    takeWhile_append_trimStart]

/-- A name is read up to a character that no name goes on with. -/
theorem readName_isPadded {name padded : Text} (h : IsPadded name padded)
    {c : CodePoint} (hblank : isBlank c = false) (hword : isWordChar c = false)
    (rest : Text) :
    readName (padded ++ c :: rest) = (name, c :: rest) := by
  obtain ⟨hne, hname, before, after, hbefore, hafter, rfl⟩ := h
  apply readName_append hbefore hne hname hafter
  intro d hd
  rw [← Option.some.inj hd]
  exact ⟨hblank, hword⟩

theorem exists_isPadded_of_readName {text name rest : Text}
    (h : readName text = (name, rest)) (hne : name ≠ []) :
    ∃ padded, IsPadded name padded ∧ text = padded ++ rest := by
  obtain ⟨before, after, hbefore, hafter, hname, htext⟩ := exists_of_readName text
  rw [h] at hname htext
  exact ⟨before ++ name ++ after,
    ⟨hne, hname, before, after, hbefore, hafter, rfl⟩, htext⟩

theorem readLastName?_isPadded {name padded : Text} (h : IsPadded name padded)
    (rest : Text) :
    readLastName? (padded ++ .char ']' :: rest) = some (name, rest) := by
  have hne : name.isEmpty = false := by simpa using h.1
  have hread := readName_isPadded h (c := ']') (by decide) (by decide) rest
  simp [readLastName?, hread, hne]

theorem readLastName?_eq_some_iff {text name rest : Text} :
    readLastName? text = some (name, rest) ↔
      ∃ padded, IsPadded name padded ∧ text = padded ++ .char ']' :: rest := by
  constructor
  · intro h
    unfold readLastName? at h
    split at h
    · rename_i found ending hread
      split at h
      · cases h
      · rename_i hne
        simp only [Option.some.injEq, Prod.mk.injEq] at h
        obtain ⟨rfl, rfl⟩ := h
        exact exists_isPadded_of_readName hread (by simpa using hne)
    · cases h
  · rintro ⟨padded, hpadded, rfl⟩
    exact readLastName?_isPadded hpadded rest

/-- Behind an opening bracket a parameter or a slot is read if the bracket
opens one. -/
theorem readBracket?_eq_some_iff {text rest : Text} {fragment : Fragment} :
    readBracket? text = some (fragment, rest) ↔
      ∃ source, fragment.IsSource ('[' :: source) ∧ text = source ++ rest := by
  constructor
  · intro h
    unfold readBracket? at h
    cases hread : readName text with
    | mk name ending =>
        simp only [hread] at h
        split at h
        · cases h
        · rename_i hempty
          obtain ⟨padded, hpadded, rfl⟩ :=
            exists_isPadded_of_readName hread (by simpa using hempty)
          split at h
          · simp only [Option.some.injEq, Prod.mk.injEq] at h
            obtain ⟨rfl, rfl⟩ := h
            exact ⟨padded ++ [.char ']'], .untypedSlot hpadded, by simp⟩
          · obtain ⟨⟨value, tail⟩, hlast, heq⟩ := Option.map_eq_some_iff.mp h
            obtain ⟨right, hvalue, rfl⟩ := readLastName?_eq_some_iff.mp hlast
            simp only [Prod.mk.injEq] at heq
            obtain ⟨rfl, rfl⟩ := heq
            exact ⟨_, .parameter hpadded hvalue, by simp⟩
          · obtain ⟨⟨type, tail⟩, hlast, heq⟩ := Option.map_eq_some_iff.mp h
            obtain ⟨right, htype, rfl⟩ := readLastName?_eq_some_iff.mp hlast
            simp only [Prod.mk.injEq] at heq
            obtain ⟨rfl, rfl⟩ := heq
            exact ⟨_, .typedSlot hpadded htype, by simp⟩
          · cases h
  · rintro ⟨source, hsource, rfl⟩
    cases hsource with
    | @untypedSlot name inside hname =>
        have hempty : name.isEmpty = false := by simpa using hname.1
        have hread := readName_isPadded hname (c := ']') (by decide) (by decide) rest
        simp [readBracket?, hread, hempty]
    | @parameter name value left right hname hvalue =>
        have hempty : name.isEmpty = false := by simpa using hname.1
        have hread := readName_isPadded hname (c := '=') (by decide) (by decide)
          (right ++ .char ']' :: rest)
        have hlast := readLastName?_isPadded hvalue rest
        simp [readBracket?, hread, hempty, hlast]
    | @typedSlot name type left right hname htype =>
        have hempty : name.isEmpty = false := by simpa using hname.1
        have hread := readName_isPadded hname (c := ':') (by decide) (by decide)
          (right ++ .char ']' :: rest)
        have hlast := readLastName?_isPadded htype rest
        simp [readBracket?, hread, hempty, hlast]
    | words hne hopen => simp [isOpening] at hopen

theorem readGroup?_append {interior : Text} (hne : interior ≠ [])
    (hclose : .char ')' ∉ interior) (rest : Text) :
    readGroup? (interior ++ .char ')' :: rest) =
      some (.alternatives (choicesOf interior), rest) := by
  have hpass : ∀ c ∈ interior, (c != ')') = true := by
    intro c hc
    simpa using fun heq : c = ')' => hclose (heq ▸ hc)
  have hstop : ∀ c, (.char ')' :: rest).head? = some c →
      (c != .char ')') = false := by
    rintro _ ⟨⟩
    rfl
  obtain ⟨htake, hdrop⟩ := takeWhile_append_of_head? hpass hstop
  have hempty : interior.isEmpty = false := by simpa using hne
  simp [readGroup?, htake, hdrop, hempty]

theorem readGroup?_eq_some_iff {text rest : Text} {fragment : Fragment} :
    readGroup? text = some (fragment, rest) ↔
      ∃ interior, interior ≠ [] ∧ .char ')' ∉ interior ∧
        fragment = .alternatives (choicesOf interior) ∧
        text = interior ++ .char ')' :: rest := by
  constructor
  · intro h
    unfold readGroup? at h
    simp only at h
    split at h
    · cases h
    · rename_i c ending hdrop
      split at h
      · cases h
      · rename_i hne
        simp only [Option.some.injEq, Prod.mk.injEq] at h
        obtain ⟨rfl, rfl⟩ := h
        have hc : c = ')' := by
          have hnot := List.head?_dropWhile_not (· != .char ')') text
          rw [hdrop] at hnot
          simpa using hnot
        refine ⟨text.takeWhile (· != .char ')'), by simpa using hne, ?_, rfl, ?_⟩
        · intro hmem
          simpa using List.mem_takeWhile_imp hmem
        · subst hc
          rw [← hdrop, List.takeWhile_append_dropWhile]
  · rintro ⟨interior, hne, hclose, rfl, rfl⟩
    exact readGroup?_append hne hclose rest

/-- Reading finds a fragment at the start of a text exactly if one stands there. -/
theorem read?_eq_some_iff {text rest : Text} {fragment : Fragment} :
    read? text = some (fragment, rest) ↔ fragment.Begins text rest := by
  constructor
  · intro h
    unfold read? at h
    split at h
    · cases h
    · obtain ⟨source, hsource, rfl⟩ := readBracket?_eq_some_iff.mp h
      refine ⟨'[' :: source, hsource, rfl, ?_⟩
      intro hwords
      cases hsource with
      | words _ hopen => simp [isOpening] at hopen
      | parameter | untypedSlot | typedSlot => cases hwords
    · obtain ⟨interior, hne, hclose, rfl, rfl⟩ := readGroup?_eq_some_iff.mp h
      exact ⟨_, .alternatives hne hclose, by simp, by simp [production]⟩
    · rename_i c tail hbracket hgroup
      simp only [Option.some.injEq, Prod.mk.injEq] at h
      obtain ⟨rfl, rfl⟩ := h
      refine ⟨c :: tail.takeWhile (!isOpening ·), .words (by simp) ?_, by simp, ?_⟩
      · intro d hd
        rcases List.mem_cons.mp hd with rfl | hd
        · simpa [isOpening] using ⟨hgroup, hbracket⟩
        · simpa using List.mem_takeWhile_imp hd
      · intro _ d hd
        have hnot := List.head?_dropWhile_not (!isOpening ·) tail
        rw [hd] at hnot
        simpa using hnot
  · rintro ⟨source, hsource, rfl, hend⟩
    cases hsource with
    | parameter hname hvalue =>
        exact readBracket?_eq_some_iff.mpr ⟨_, .parameter hname hvalue, rfl⟩
    | untypedSlot hname =>
        exact readBracket?_eq_some_iff.mpr ⟨_, .untypedSlot hname, rfl⟩
    | typedSlot hname htype =>
        exact readBracket?_eq_some_iff.mpr ⟨_, .typedSlot hname htype, rfl⟩
    | alternatives hne hclose =>
        exact readGroup?_eq_some_iff.mpr ⟨_, hne, hclose, rfl, by simp⟩
    | words hne hopen =>
        cases source with
        | nil => exact absurd rfl hne
        | cons c run =>
            have hc := hopen c List.mem_cons_self
            simp only [isOpening, Bool.or_eq_false_iff, beq_eq_false_iff_ne] at hc
            have hrun : ∀ d ∈ run, (!isOpening d) = true := by
              intro d hd
              simp [hopen d (List.mem_cons_of_mem _ hd)]
            have hstop : ∀ d, rest.head? = some d → (!isOpening d) = false := by
              intro d hd
              simp [hend rfl d hd]
            obtain ⟨htake, hdrop⟩ := takeWhile_append_of_head? hrun hstop
            simp only [List.cons_append]
            rw [read?, htake, hdrop]
            · exact hc.2
            · exact hc.1

theorem read?_eq_none_iff {text : Text} :
    read? text = none ↔ ∀ fragment rest, ¬ Begins fragment text rest := by
  rw [Option.eq_none_iff_forall_ne_some]
  constructor
  · intro h fragment rest hbegins
    exact h (fragment, rest) (read?_eq_some_iff.mpr hbegins)
  · rintro h ⟨fragment, rest⟩ hread
    exact h fragment rest (read?_eq_some_iff.mp hread)

theorem Begins.unique {text rest rest' : Text} {fragment fragment' : Fragment}
    (h : fragment.Begins text rest) (h' : fragment'.Begins text rest') :
    fragment = fragment' ∧ rest = rest' := by
  rw [← read?_eq_some_iff] at h h'
  rw [h] at h'
  simpa using h'

/-- Reads two names in brackets with a mark between them. -/
def readPair? (mark : CodePoint) (fragment : Text → Text → Fragment) :
    Text → Option (Fragment × Text)
  | '[' :: text =>
      match readName text with
      | (name, c :: rest) =>
          if name.isEmpty || c != mark then none
          else (readLastName? rest).map fun (second, rest) =>
            (fragment name second, rest)
      | (_, []) => none
  | _ => none

theorem readPair?_eq_some_iff {mark : CodePoint} {pair : Text → Text → Fragment}
    {text rest : Text} {fragment : Fragment} (hblank : isBlank mark = false)
    (hword : isWordChar mark = false) :
    readPair? mark pair text = some (fragment, rest) ↔
      ∃ first second left right, IsPadded first left ∧ IsPadded second right ∧
        fragment = pair first second ∧
          text = .char '[' :: (left ++ mark :: (right ++ [.char ']'])) ++ rest := by
  constructor
  · intro h
    unfold readPair? at h
    split at h
    · rename_i inside
      split at h
      · rename_i name c ending hread
        split at h
        · cases h
        · rename_i hname
          simp only [Bool.or_eq_true, List.isEmpty_iff, bne_iff_ne, not_or,
            not_not] at hname
          obtain ⟨hne, rfl⟩ := hname
          obtain ⟨⟨second, tail⟩, hlast, heq⟩ := Option.map_eq_some_iff.mp h
          obtain ⟨left, hleft, rfl⟩ := exists_isPadded_of_readName hread hne
          obtain ⟨right, hright, rfl⟩ := readLastName?_eq_some_iff.mp hlast
          simp only [Prod.mk.injEq] at heq
          obtain ⟨rfl, rfl⟩ := heq
          exact ⟨name, second, left, right, hleft, hright, rfl, by simp⟩
      · cases h
    · cases h
  · rintro ⟨first, second, left, right, hleft, hright, rfl, rfl⟩
    have hne : first.isEmpty = false := by simpa using hleft.1
    have hread := readName_isPadded hleft hblank hword (right ++ .char ']' :: rest)
    have hlast := readLastName?_isPadded hright rest
    simp [readPair?, hread, hne, hlast]

def readSlot? : Text → Option (Fragment × Text)
  | '[' :: text =>
      (readLastName? text).map fun (name, rest) => (.untypedSlot name, rest)
  | _ => none

/-- Reads a run of words, which goes as far as it can. -/
def readRun? (text : Text) : Option (Fragment × Text) :=
  let run := text.takeWhile (!isOpening ·)
  if run.isEmpty then none else some (.words run, text.dropWhile (!isOpening ·))

def readAlternatives? : Text → Option (Fragment × Text)
  | '(' :: text => readGroup? text
  | _ => none

end Fragment

open Fragment

/-- Reads a fragment of one kind at the start of a text, whatever the other kinds
make of the text. -/
def Production.read? : Production → Text → Option (Fragment × Text)
  | .parameter => readPair? '=' .parameter
  | .untypedSlot => readSlot?
  | .typedSlot => readPair? ':' .typedSlot
  | .alternatives => readAlternatives?
  | .words => readRun?

namespace Production

theorem read?_words_eq_some_iff {text rest : Text} {fragment : Fragment} :
    read? .words text = some (fragment, rest) ↔
      fragment.production = .words ∧ fragment.Begins text rest := by
  constructor
  · intro h
    simp only [read?, readRun?] at h
    split at h
    · cases h
    · rename_i hne
      simp only [Option.some.injEq, Prod.mk.injEq] at h
      obtain ⟨rfl, rfl⟩ := h
      refine ⟨rfl, text.takeWhile (!isOpening ·), .words (by simpa using hne) ?_,
        List.takeWhile_append_dropWhile.symm, ?_⟩
      · intro c hc
        simpa using List.mem_takeWhile_imp hc
      · intro _ c hc
        have hnot := List.head?_dropWhile_not (!isOpening ·) text
        rw [hc] at hnot
        simpa using hnot
  · rintro ⟨hkind, source, hsource, rfl, hend⟩
    cases hsource with
    | words hne hopen =>
        have hrun : ∀ c ∈ source, (!isOpening c) = true := by
          intro c hc
          simp [hopen c hc]
        have hstop : ∀ c, rest.head? = some c → (!isOpening c) = false := by
          intro c hc
          simp [hend rfl c hc]
        obtain ⟨htake, hdrop⟩ := takeWhile_append_of_head? hrun hstop
        have hempty : source.isEmpty = false := by simpa using hne
        simp only [read?, readRun?, htake, hdrop, hempty]
        rfl
    | parameter | untypedSlot | typedSlot | alternatives => cases hkind

/-- A kind of fragments finds its fragments where they begin. -/
theorem read?_eq_some_iff {production : Production} {text rest : Text}
    {fragment : Fragment} :
    production.read? text = some (fragment, rest) ↔
      fragment.production = production ∧ fragment.Begins text rest := by
  cases production with
  | words => exact read?_words_eq_some_iff
  | parameter =>
      rw [read?, readPair?_eq_some_iff (by decide) (by decide)]
      constructor
      · rintro ⟨_, _, _, _, hleft, hright, rfl, rfl⟩
        exact ⟨rfl, _, .parameter hleft hright, rfl, by simp [Fragment.production]⟩
      · rintro ⟨hkind, _, hsource, rfl, _⟩
        cases hsource with
        | parameter hname hvalue => exact ⟨_, _, _, _, hname, hvalue, rfl, rfl⟩
        | untypedSlot | typedSlot | alternatives | words => cases hkind
  | typedSlot =>
      rw [read?, readPair?_eq_some_iff (by decide) (by decide)]
      constructor
      · rintro ⟨_, _, _, _, hleft, hright, rfl, rfl⟩
        exact ⟨rfl, _, .typedSlot hleft hright, rfl, by simp [Fragment.production]⟩
      · rintro ⟨hkind, _, hsource, rfl, _⟩
        cases hsource with
        | typedSlot hname htype => exact ⟨_, _, _, _, hname, htype, rfl, rfl⟩
        | parameter | untypedSlot | alternatives | words => cases hkind
  | untypedSlot =>
      constructor
      · intro h
        simp only [read?, readSlot?] at h
        split at h
        · obtain ⟨⟨name, tail⟩, hlast, heq⟩ := Option.map_eq_some_iff.mp h
          obtain ⟨padded, hname, rfl⟩ := readLastName?_eq_some_iff.mp hlast
          simp only [Prod.mk.injEq] at heq
          obtain ⟨rfl, rfl⟩ := heq
          exact ⟨rfl, _, .untypedSlot hname, by simp, by simp [Fragment.production]⟩
        · cases h
      · rintro ⟨hkind, _, hsource, rfl, _⟩
        cases hsource with
        | @untypedSlot name inside hname =>
            have hlast := readLastName?_isPadded hname rest
            simp [read?, readSlot?, hlast]
        | parameter | typedSlot | alternatives | words => cases hkind
  | alternatives =>
      constructor
      · intro h
        simp only [read?, readAlternatives?] at h
        split at h
        · obtain ⟨interior, hne, hclose, rfl, rfl⟩ := readGroup?_eq_some_iff.mp h
          exact ⟨rfl, _, .alternatives hne hclose, by simp, by
            simp [Fragment.production]⟩
        · cases h
      · rintro ⟨hkind, _, hsource, rfl, _⟩
        cases hsource with
        | @alternatives interior hne hclose =>
            have hgroup := readGroup?_append hne hclose rest
            simpa [read?, readAlternatives?] using hgroup
        | parameter | untypedSlot | typedSlot | words => cases hkind

/-- Trying the kinds of fragments in any order finds the fragment that is read. -/
theorem findSome?_read? {order : List Production}
    (horder : ∀ production, production ∈ order) (text : Text) :
    order.findSome? (·.read? text) = Fragment.read? text := by
  cases hread : Fragment.read? text with
  | none =>
      rw [List.findSome?_eq_none_iff]
      intro production _
      rw [Option.eq_none_iff_forall_ne_some]
      rintro ⟨fragment, rest⟩ hfound
      exact read?_eq_none_iff.mp hread _ _ (read?_eq_some_iff.mp hfound).2
  | some found =>
      obtain ⟨fragment, rest⟩ := found
      have hbegins := Fragment.read?_eq_some_iff.mp hread
      have hfound := read?_eq_some_iff.mpr ⟨rfl, hbegins⟩
      have hsome : (order.findSome? (·.read? text)).isSome := by
        rw [List.findSome?_isSome_iff]
        exact ⟨_, horder fragment.production, by simp [hfound]⟩
      obtain ⟨⟨fragment', rest'⟩, hvalue⟩ := Option.isSome_iff_exists.mp hsome
      obtain ⟨production, _, hother⟩ := List.exists_of_findSome?_eq_some hvalue
      obtain ⟨rfl, rfl⟩ := hbegins.unique (read?_eq_some_iff.mp hother).2
      exact hvalue

end Production

end UtteranceTemplate
