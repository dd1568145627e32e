import UtteranceTemplate.Text.Basic

/-!
Paths of files in a project. Of the names between the slashes the empty ones and
single dots do not count; double dots stay, because what is above a name is known
only to the file tree.
-/

namespace UtteranceTemplate

/-- Where a path starts. -/
inductive Anchor
  /-- The current directory, which is the project's. -/
  | current
  /-- The project's directory by its full name. -/
  | project
  /-- The root of all directories. -/
  | root
  /-- The root of all directories, written with two slashes. -/
  | doubleRoot
  deriving DecidableEq, Repr

/-- The path of a file: where it starts, and the names from there to the file. -/
structure FilePath where
  anchor : Anchor
  names : List Text
  deriving DecidableEq, Repr

namespace FilePath

def anchorOf (text : Text) : Anchor :=
  match text with
  | '/' :: '/' :: '/' :: _ => .root
  | '/' :: '/' :: _ => .doubleRoot
  | '/' :: _ => .root
  | _ => .current

def ofText (text : Text) : FilePath :=
  ⟨anchorOf text, (Text.cutAt (.char '/') text).filter fun name =>
    !name.isEmpty && name != [.char '.']⟩

/-- Whether the path does not depend on the current directory. -/
def isAbsolute (path : FilePath) : Bool := path.anchor != .current

/-- The path seen from the project's directory, whose full name it gets. -/
def inProject (path : FilePath) : FilePath :=
  if path.isAbsolute then path else { path with anchor := .project }

/-- The written form of a path, given the full name of the project's directory. -/
def text (project : Text) (path : FilePath) : Text :=
  let names := joinWith [.char '/'] path.names
  match path.anchor with
  | .current => if path.names.isEmpty then [.char '.'] else names
  | .project => if path.names.isEmpty then project else project ++ .char '/' :: names
  | .root => .char '/' :: names
  | .doubleRoot => .char '/' :: .char '/' :: names

/-- The number of bytes of a path, given those of its names. The full name of the
project's directory is not known here and is not counted. -/
def size (path : FilePath) (names : List (List UInt8)) : Nat :=
  let slashes :=
    match path.anchor with
    | .current => 0
    | .project | .root => 1
    | .doubleRoot => 2
  slashes + (joinWith [0x2f] names).length

end FilePath

/-- What the text of a path writes does not depend on where the project is. -/
theorem FilePath.text_ofText (project other path : Text) :
    (ofText path).text other = (ofText path).text project := by
  have hanchor : anchorOf path ≠ .project := by
    unfold anchorOf
    split <;> simp
  unfold FilePath.text ofText
  cases hcase : anchorOf path with
  | project => exact absurd hcase hanchor
  | current | root | doubleRoot => rfl

end UtteranceTemplate
