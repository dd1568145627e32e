import UtteranceTemplate.Template.Fragment

/-!
The reading of a template: its fragments from left to right, each with its place and
its source text, up to the end of the template or to the first place where no
fragment can be read.
-/

namespace UtteranceTemplate

/-- A fragment at its place in a template: the position of its first character, and
the characters that it was read from. -/
structure Piece where
  position : Nat
  source : Text
  fragment : Fragment
  deriving DecidableEq, Repr

/-- What a template reads as: its fragments from left to right, and what is left
where no fragment can be read. -/
structure Reading where
  pieces : List Piece
  unread : Text
  deriving DecidableEq, Repr

namespace Reading

def cons (piece : Piece) (reading : Reading) : Reading :=
  { reading with pieces := piece :: reading.pieces }

def ofEnding (position : Nat) (ending : Text) : Reading :=
  let text := ending.trimStart
  let position := position + (ending.length - text.length)
  match _hread : Fragment.read? text with
  | none => ⟨[], text⟩
  | some (fragment, rest) =>
      let source := text.upTo rest
      (ofEnding (position + source.length) rest).cons ⟨position, source, fragment⟩
termination_by ending.length
decreasing_by
  have hle : ending.trimStart.length ≤ ending.length :=
    Fragment.length_dropWhile_le _ _
  have hlt : rest.length < ending.trimStart.length :=
    Fragment.length_lt_of_read? _hread
  omega

def ofTemplate (template : Text) : Reading := ofEnding 0 template

end Reading

end UtteranceTemplate
