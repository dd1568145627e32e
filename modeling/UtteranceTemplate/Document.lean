import UtteranceTemplate.Json.Basic
import UtteranceTemplate.SetOrder

/-!
Documents: what a data file says. A value is a scalar or refers to a container, and
containers may be shared and may contain themselves.

Messages show a value with its parts (`Document.quoted`); a container that is being
shown already is shown by a mark.
-/

namespace UtteranceTemplate

/-- A scalar, or a reference to a container by its number. -/
inductive Value
  | scalar (s : Scalar)
  | container (number : Nat)

/-- A value with parts. -/
inductive Container
  | list (items : List Value)
  | pair (first second : Value)
  | mapping (entries : Entries Scalar Value)
  | set (members : List Scalar)

/-- A value together with the containers that it refers to by their numbers. -/
structure Document where
  containers : Array Container
  root : Value

namespace Document

def container? (document : Document) : Value → Option Container
  | .scalar _ => none
  | .container number => document.containers[number]?

def entries? (document : Document) (value : Value) : Option (Entries Scalar Value) :=
  match document.container? value with
  | some (.mapping entries) => some entries
  | _ => none

/-- The items of a sequence: of a list, of a pair, or of a row of bytes, but
not of a text. -/
def items? (document : Document) (value : Value) : Option (List Value) :=
  match value with
  | .scalar (.bytes row) => some (row.map fun byte => .scalar (.int byte.toNat))
  | .scalar _ => none
  | .container _ =>
      match document.container? value with
      | some (.list items) => some items
      | some (.pair first second) => some [first, second]
      | _ => none

def text? : Value → Option Text
  | .scalar s => s.asText?
  | .container _ => none

/-- The mark for a container that is being shown already. -/
def mark : Container → Text
  | .list _ => "[...]".text
  | .pair _ _ => "(...)".text
  | .mapping _ | .set _ => "\x7b...\x7d".text

/-- The form of a container whose parts are shown by a function. -/
def shownContainer (showValue : Value → Text) : Container → Text
  | .list items => "[".text ++ joinWith ", ".text (items.map showValue) ++ "]".text
  | .pair first second =>
      "(".text ++ showValue first ++ ", ".text ++ showValue second ++ ")".text
  | .mapping entries =>
      let shown :=
        entries.map fun (key, value) => key.quoted ++ ": ".text ++ showValue value
      .char '{' :: joinWith ", ".text shown ++ [.char '}']
  | .set [] => "set()".text
  | .set members =>
      .char '{' :: joinWith ", ".text
        ((SetOrder.shown members).map Scalar.quoted) ++ [.char '}']

/-- The form of a value inside the containers `around`; `fuel` bounds the depth. -/
def shown (document : Document) : (fuel : Nat) → (around : List Nat) → Value → Text
  | _, _, .scalar s => s.quoted
  | 0, _, .container _ => []
  | fuel + 1, around, .container number =>
      match document.containers[number]? with
      | none => []
      | some container =>
          if around.contains number then mark container
          else shownContainer (shown document fuel (number :: around)) container

/-- The form in which messages show a value. No path visits more containers than
there are, and then one of them again, so the depth is enough. -/
def quoted (document : Document) (value : Value) : Text :=
  document.shown (document.containers.size + 1) [] value

/-- The scalars of a container whose values have scalars given by a function. -/
def scalarsOf (scalars : Value → List Scalar) : Container → List Scalar
  | .list items => items.flatMap scalars
  | .pair first second => scalars first ++ scalars second
  | .mapping entries => entries.flatMap fun (key, value) => key :: scalars value
  | .set members => members

def shownScalars (document : Document) :
    (fuel : Nat) → (around : List Nat) → Value → List Scalar
  | _, _, .scalar s => [s]
  | 0, _, .container _ => []
  | fuel + 1, around, .container number =>
      match document.containers[number]? with
      | none => []
      | some container =>
          if around.contains number then []
          else scalarsOf (shownScalars document fuel (number :: around)) container

/-- Whether a scalar is a whole number of more digits than are written. -/
def isLongInteger : Scalar → Bool
  | .int n => Decimal.tenTo 4300 ≤ n.natAbs
  | _ => false

/-- Whether a value can be shown: no whole number in it has too many digits. -/
def isShowable (document : Document) (value : Value) : Bool :=
  !(document.shownScalars (document.containers.size + 1) [] value).any isLongInteger

mutual

/-- Adds a JSON value to a row of containers: its parts first, then itself. -/
def addJson (containers : Array Container) : Json → Array Container × Value
  | .null => (containers, .scalar .null)
  | .bool b => (containers, .scalar (.bool b))
  | .int n => (containers, .scalar (.int n))
  | .float x => (containers, .scalar (.float x))
  | .text t => (containers, .scalar (.text t))
  | .array items =>
      let (containers, items) := addItems containers items
      (containers.push (.list items), .container containers.size)
  | .object members =>
      let (containers, entries) := addMembers containers members
      (containers.push (.mapping entries), .container containers.size)

def addItems (containers : Array Container) :
    List Json → Array Container × List Value
  | [] => (containers, [])
  | item :: rest =>
      let (containers, value) := addJson containers item
      let (containers, values) := addItems containers rest
      (containers, value :: values)

/-- Adds the values of the members of a JSON object to a row of containers. -/
def addMembers (containers : Array Container) :
    List (Text × Json) → Array Container × List (Scalar × Value)
  | [] => (containers, [])
  | (key, member) :: rest =>
      let (containers, value) := addJson containers member
      let (containers, entries) := addMembers containers rest
      (containers, (.text key, value) :: entries)

end

def scalarOfJson? : Json → Option Scalar
  | .null => some .null
  | .bool b => some (.bool b)
  | .int n => some (.int n)
  | .float x => some (.float x)
  | .text t => some (.text t)
  | _ => none

end Document

end UtteranceTemplate
