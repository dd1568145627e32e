import UtteranceTemplate.Text.Blank
import UtteranceTemplate.Text.WordChar

/-!
Fragments of a template, and how one is read from the start of a text. A
template is a row of

* parameters `[name=value]`,
* untyped slots `[name]`,
* typed slots `[name:type]`,
* alternatives `(one|other|…)`, and
* runs of words, which hold neither an opening bracket nor an opening parenthesis,

with blanks between them. Names consist of word characters and may have blanks around
them. Reading is decided by the first character and, in a bracket, by the character
after the first name, so that no text has two readings.
-/

namespace UtteranceTemplate

/-- The kinds of fragments. -/
inductive Production
  | parameter
  | untypedSlot
  | typedSlot
  | alternatives
  | words
  deriving DecidableEq, Repr

def Production.name : Production → String
  | .parameter => "parameter"
  | .untypedSlot => "untyped slot"
  | .typedSlot => "typed slot"
  | .alternatives => "alternatives"
  | .words => "words"

/-- A fragment of a template. -/
inductive Fragment
  /-- Binds a value to a name and asks nothing of the utterance. -/
  | parameter (name value : Text)
  /-- Takes any words. -/
  | untypedSlot (name : Text)
  /-- Takes a phrase of an entity type. -/
  | typedSlot (name entityType : Text)
  /-- Asks for one of several texts, of which some may be empty. -/
  | alternatives (choices : List Text)
  /-- Asks for words as they stand, up to what braces make optional. -/
  | words (run : Text)
  deriving DecidableEq, Repr

namespace Fragment

def production : Fragment → Production
  | .parameter _ _ => .parameter
  | .untypedSlot _ => .untypedSlot
  | .typedSlot _ _ => .typedSlot
  | .alternatives _ => .alternatives
  | .words _ => .words

/-- Whether a character opens a bracket or a group, which ends a run of words. -/
def isOpening (c : CodePoint) : Bool := c == '(' || c == '['

/-- The name at the start of a text, with the blanks around it dropped, and
the rest. -/
def readName (text : Text) : Text × Text :=
  let text := text.trimStart
  (text.takeWhile isWordChar, Text.trimStart (text.dropWhile isWordChar))

/-- Reads the name and the closing bracket at the end of a fragment. -/
def readLastName? (text : Text) : Option (Text × Text) :=
  match readName text with
  | (name, ']' :: rest) => if name.isEmpty then none else some (name, rest)
  | _ => none

def readBracket? (text : Text) : Option (Fragment × Text) :=
  let (name, rest) := readName text
  if name.isEmpty then none
  else
    match rest with
    | ']' :: rest => some (.untypedSlot name, rest)
    | '=' :: rest =>
        (readLastName? rest).map fun (value, rest) => (.parameter name value, rest)
    | ':' :: rest =>
        (readLastName? rest).map fun (type, rest) => (.typedSlot name type, rest)
    | _ => none

/-- The choices between the bars of a group, without the blanks around them. -/
def choicesOf (interior : Text) : List Text :=
  (Text.cutAt '|' interior).map Text.trim

/-- Reads alternatives whose opening parenthesis has been read; the first closing
parenthesis ends them, and there must be something before it. -/
def readGroup? (text : Text) : Option (Fragment × Text) :=
  let interior := text.takeWhile (· != .char ')')
  match text.dropWhile (· != .char ')') with
  | [] => none
  | _ :: rest =>
      if interior.isEmpty then none
      else some (.alternatives (choicesOf interior), rest)

/-- Reads the fragment at the start of a text, and gives the rest of the text. -/
def read? : Text → Option (Fragment × Text)
  | [] => none
  | '[' :: rest => readBracket? rest
  | '(' :: rest => readGroup? rest
  | c :: rest =>
      some (.words (c :: rest.takeWhile (!isOpening ·)),
        rest.dropWhile (!isOpening ·))

theorem length_dropWhile_le {α : Type} (p : α → Bool) (items : List α) :
    (items.dropWhile p).length ≤ items.length :=
  (List.dropWhile_sublist p).length_le

theorem length_readName_le
    (text : Text) : (readName text).2.length ≤ text.length := by
  simp only [readName, Text.trimStart]
  calc _ ≤ _ := length_dropWhile_le _ _
    _ ≤ _ := length_dropWhile_le _ _
    _ ≤ _ := length_dropWhile_le _ _

theorem length_lt_of_readLastName? {text name rest : Text}
    (h : readLastName? text = some (name, rest)) : rest.length < text.length := by
  have hle := length_readName_le text
  unfold readLastName? at h
  split at h
  · rename_i found after heq
    split at h
    · cases h
    · rw [heq] at hle
      simp only [Option.some.injEq, Prod.mk.injEq] at h
      obtain ⟨_, rfl⟩ := h
      exact hle
  · cases h

theorem length_lt_of_readBracket? {text rest : Text} {fragment : Fragment}
    (h : readBracket? text = some (fragment, rest)) : rest.length < text.length := by
  have hle := length_readName_le text
  unfold readBracket? at h
  cases hname : readName text with
  | mk name after =>
      rw [hname] at h hle
      simp only at h
      split at h
      · cases h
      · split at h
        · simp only [Option.some.injEq, Prod.mk.injEq] at h
          obtain ⟨_, rfl⟩ := h
          exact hle
        · obtain ⟨⟨value, tail⟩, hlast, heq⟩ := Option.map_eq_some_iff.mp h
          have hlt := length_lt_of_readLastName? hlast
          simp only [Prod.mk.injEq] at heq
          obtain ⟨_, rfl⟩ := heq
          simp only [List.length_cons] at hle
          omega
        · obtain ⟨⟨value, tail⟩, hlast, heq⟩ := Option.map_eq_some_iff.mp h
          have hlt := length_lt_of_readLastName? hlast
          simp only [Prod.mk.injEq] at heq
          obtain ⟨_, rfl⟩ := heq
          simp only [List.length_cons] at hle
          omega
        · cases h

theorem length_lt_of_readGroup? {text rest : Text} {fragment : Fragment}
    (h : readGroup? text = some (fragment, rest)) : rest.length < text.length := by
  have hle := length_dropWhile_le (· != .char ')') text
  unfold readGroup? at h
  simp only at h
  split at h
  · cases h
  · rename_i heq
    rw [heq] at hle
    split at h
    · cases h
    · simp only [Option.some.injEq, Prod.mk.injEq] at h
      obtain ⟨_, rfl⟩ := h
      exact hle

/-- Reading a fragment takes something away. -/
theorem length_lt_of_read? {text rest : Text} {fragment : Fragment}
    (h : read? text = some (fragment, rest)) : rest.length < text.length := by
  unfold read? at h
  split at h
  · cases h
  · exact Nat.lt_succ_of_lt (length_lt_of_readBracket? h)
  · exact Nat.lt_succ_of_lt (length_lt_of_readGroup? h)
  · simp only [Option.some.injEq, Prod.mk.injEq] at h
    obtain ⟨_, rfl⟩ := h
    exact Nat.lt_succ_of_le (length_dropWhile_le _ _)

end Fragment

end UtteranceTemplate
