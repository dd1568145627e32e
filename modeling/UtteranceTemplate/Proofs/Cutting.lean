import UtteranceTemplate.Proofs.Choices
import UtteranceTemplate.Proofs.Drafting

/-!
What it means to cut an utterance into pieces, one for each fragment of a template.

A fragment stands for its wordings, each with the preferences that it takes
(`Fragment.wordings`), and each pair of braces doubles the wordings of a text
(`Wording.ofBraced`). The wordings of a fragment stand in the order of their ranks
(`Fragment.pairwise_wordings`).
-/

namespace UtteranceTemplate

/-- A text with the preferences that it takes, one behind the other; smaller
numbers are preferred. -/
structure Wording where
  rank : List Nat
  text : Text
  deriving DecidableEq, Repr

/-- Several texts, or an empty one if there are none. -/
def atLeastOne (texts : List Text) : List Text :=
  if texts.isEmpty then [[]] else texts

/-- A part of a text with braces. -/
inductive BracePart
  | letter (c : CodePoint)
  /-- What stands between the two braces of a pair. -/
  | optional (text : Text)
  deriving DecidableEq, Repr

/-- The parts of a text. An opening brace that is met outside a pair makes a pair
with the first closing brace behind it; all other braces are letters. -/
def braceParts : Text → List BracePart
  | [] => []
  | c :: rest =>
      if c = .char '{' ∧ .char '}' ∈ rest then
        .optional (rest.takeWhile (· ≠ .char '}')) ::
          braceParts (rest.dropWhile (· ≠ .char '}')).tail
      else .letter c :: braceParts rest
termination_by text => text.length
decreasing_by
  · have hle := Fragment.length_dropWhile_le (· ≠ .char '}') rest
    simp only [List.length_tail, List.length_cons]
    omega
  · simp

namespace Wording

/-- What parts stand for: optional ones are kept, which is preferred, or dropped. -/
def ofParts : List BracePart → List Wording
  | [] => [⟨[], []⟩]
  | .letter c :: parts =>
      (ofParts parts).map fun wording => ⟨wording.rank, c :: wording.text⟩
  | .optional text :: parts =>
      (ofParts parts).map
        (fun wording => ⟨0 :: wording.rank, text ++ wording.text⟩) ++
        (ofParts parts).map fun wording => ⟨1 :: wording.rank, wording.text⟩

/-- What a text with braces stands for, once it is single-spaced. -/
def ofBraced (text : Text) : List Wording := ofParts (braceParts text.singleSpaced)

def spaced (wording : Wording) : Wording :=
  { wording with text := ' ' :: wording.text }

/-- The wordings of each of several texts, behind a space unless the text is
empty. -/
def choices (wordingsOf : Text → List Wording) (texts : List Text) :
    List (List Wording) :=
  (atLeastOne texts).map fun text =>
    if text.isEmpty then [⟨[], []⟩] else (wordingsOf text).map spaced

end Wording

namespace Fragment

open Wording

/-- The wordings that a fragment has to choose from, by choice; an untyped slot has
none of its own. -/
def choices (vocabulary : Vocabulary) : Fragment → List (List Wording)
  | .parameter _ _ => [[⟨[], []⟩]]
  | .untypedSlot _ => []
  | .typedSlot _ type =>
      Wording.choices (fun phrase => [⟨[], phrase.singleSpaced⟩])
        ((vocabulary.lookup? type).getD [])
  | .alternatives choices => Wording.choices ofBraced choices
  | .words run => [(ofBraced run).map spaced]

/-- What a fragment may stand for, in order of preference: earlier choices first. -/
def wordings (vocabulary : Vocabulary) (fragment : Fragment) : List Wording :=
  (fragment.choices vocabulary).zipIdx.flatMap fun (choice, i) =>
    choice.map fun wording => ⟨i :: wording.rank, wording.text⟩

/-- The wordings of a fragment that matching tries: all of them, unless its choices
make a set that loses some. -/
def triedWordings (vocabulary : Vocabulary) (ignoreCase : Bool)
    (fragment : Fragment) : List Wording :=
  (fragment.wordings vocabulary).filter fun wording =>
    isTried ignoreCase
      ((fragment.choices vocabulary).map (List.map Wording.text)) wording.text

/-- Whether a piece of an utterance, with the preferences that it takes, is one for a
fragment: a space and at least one character for an untyped slot, and the letters of
a wording for all others. -/
def Fits (wordingsOf : Fragment → List Wording) (ignoreCase : Bool)
    (fragment : Fragment) (piece : Wording) : Prop :=
  match fragment with
  | .untypedSlot _ => ∃ body, body ≠ [] ∧ piece = ⟨[body.length], ' ' :: body⟩
  | _ => ∃ wording ∈ wordingsOf fragment, wording.rank = piece.rank ∧
      Text.sameLetters ignoreCase wording.text piece.text = true

def bracedTexts : Fragment → List Text
  | .words run => [run]
  | .alternatives choices => choices
  | .parameter _ _ | .untypedSlot _ | .typedSlot _ _ => []

end Fragment

/-- Rows of pieces that fit the fragments one by one and make up an utterance. -/
structure IsCutting (wordingsOf : Fragment → List Wording) (ignoreCase : Bool)
    (fragments : List Fragment) (utterance : Text)
    (pieces : List Wording) : Prop where
  fits : List.Forall₂ (Fragment.Fits wordingsOf ignoreCase) fragments pieces
  text : pieces.flatMap Wording.text = utterance

/-- Whether a row of pieces is preferred to another one: the first fragment for which
they take different preferences decides. -/
def IsPreferred (pieces others : List Wording) : Prop :=
  pieces.map Wording.rank < others.map Wording.rank

/-- The slots of the fragments with their pieces: without the space in front, and
nothing for an empty piece. -/
def slotPieces (fragments : List Fragment) (pieces : List Wording) :
    Entries Text (Option Text) :=
  (fragments.zip pieces).filterMap fun (fragment, piece) =>
    fragment.slot?.map fun slot =>
      (slot.1, if piece.text.isEmpty then none else some piece.text.tail)

def endsOpen (text : Text) : Bool :=
  (text.filter fun c => c == .char '{' || c == .char '}').getLast? ==
    some (.char '{')

/-- Whether no opening brace stands behind the last closing brace of its own text,
unless no closing brace comes in any later text either. -/
def BracesAreLocal (texts : List Text) : Prop :=
  texts.Pairwise fun text later => endsOpen text = true → .char '}' ∉ later

instance (texts : List Text) : Decidable (BracesAreLocal texts) :=
  inferInstanceAs (Decidable (texts.Pairwise fun text later => endsOpen text = true →
    .char '}' ∉ later))

/-- Whether the braces of a template pair up within its runs of words and its
alternatives. -/
def Template.IsBraceLocal (template : Text) : Prop :=
  BracesAreLocal ((Template.fragments template).flatMap Fragment.bracedTexts)

namespace Wording

theorem pairwise_ofParts (parts : List BracePart) :
    (ofParts parts).Pairwise fun first second => first.rank < second.rank := by
  induction parts with
  | nil => exact List.pairwise_singleton _ _
  | cons part parts ih =>
      cases part with
      | letter c => exact List.pairwise_map.mpr (ih.imp id)
      | optional text =>
          apply List.pairwise_append.mpr
          refine ⟨?_, ?_, ?_⟩
          · exact List.pairwise_map.mpr
              (ih.imp fun h => List.cons_lt_cons_self.mpr h)
          · exact List.pairwise_map.mpr
              (ih.imp fun h => List.cons_lt_cons_self.mpr h)
          · intro kept hkept dropped hdropped
            obtain ⟨first, _, rfl⟩ := List.mem_map.mp hkept
            obtain ⟨second, _, rfl⟩ := List.mem_map.mp hdropped
            exact List.cons_lt_cons_iff.mpr (Or.inl (by decide))

end Wording

namespace Fragment

open Wording

theorem pairwise_choices (vocabulary : Vocabulary) (fragment : Fragment) :
    ∀ choice ∈ fragment.choices vocabulary,
      choice.Pairwise fun first second => first.rank < second.rank := by
  have hchoices : ∀ wordingsOf : Text → List Wording,
      (∀ text,
        (wordingsOf text).Pairwise fun first second => first.rank < second.rank) →
      ∀ texts, ∀ choice ∈ Wording.choices wordingsOf texts,
        choice.Pairwise fun first second => first.rank < second.rank := by
    intro wordingsOf hwordings texts choice hchoice
    obtain ⟨text, _, rfl⟩ := List.mem_map.mp hchoice
    split
    · exact List.pairwise_singleton _ _
    · exact List.pairwise_map.mpr ((hwordings text).imp id)
  cases fragment with
  | parameter name value => simp [choices]
  | untypedSlot name => simp [choices]
  | typedSlot name type =>
      exact hchoices _ (fun phrase => List.pairwise_singleton _ _) _
  | alternatives texts =>
      exact hchoices ofBraced (fun choice => pairwise_ofParts _) texts
  | words run =>
      intro choice hchoice
      rw [choices, List.mem_singleton] at hchoice
      subst hchoice
      exact List.pairwise_map.mpr ((pairwise_ofParts _).imp id)

/-- The wordings of a fragment stand in the order of their ranks. -/
theorem pairwise_wordings (vocabulary : Vocabulary) (fragment : Fragment) :
    (fragment.wordings vocabulary).Pairwise fun first second => first.rank <
      second.rank := by
  apply List.pairwise_flatMap.mpr
  constructor
  · rintro ⟨choice, i⟩ hchoice
    have hmem : choice ∈ fragment.choices vocabulary :=
      List.fst_mem_of_mem_zipIdx hchoice
    exact List.pairwise_map.mpr
      ((pairwise_choices vocabulary fragment choice hmem).imp fun h =>
        List.cons_lt_cons_self.mpr h)
  · have hindices : (fragment.choices vocabulary).zipIdx.Pairwise fun first second =>
        first.2 < second.2 := by
      rw [← List.pairwise_map (f := Prod.snd), List.zipIdx_map_snd]
      exact List.pairwise_lt_range'
    refine hindices.imp fun {first second} hlt x hx y hy => ?_
    obtain ⟨left, _, rfl⟩ := List.mem_map.mp hx
    obtain ⟨right, _, rfl⟩ := List.mem_map.mp hy
    exact List.cons_lt_cons_iff.mpr (Or.inl hlt)

theorem pairwise_triedWordings (vocabulary : Vocabulary) (ignoreCase : Bool)
    (fragment : Fragment) :
    (fragment.triedWordings vocabulary ignoreCase).Pairwise fun first second =>
      first.rank < second.rank :=
  (pairwise_wordings vocabulary fragment).filter _

/-- In exact case matching tries every wording. -/
theorem triedWordings_false (vocabulary : Vocabulary) (fragment : Fragment) :
    fragment.triedWordings vocabulary false = fragment.wordings vocabulary := by
  rw [triedWordings, List.filter_eq_self]
  exact fun wording _ => isTried_false _ wording.text

end Fragment

end UtteranceTemplate
