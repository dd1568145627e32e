import UtteranceTemplate.Entries
import UtteranceTemplate.Text.Basic

/-!
JSON values.
-/

namespace UtteranceTemplate

/-- A JSON value. Whole numbers and floating-point numbers are kept apart, and an
object keeps the order in which its keys first came. -/
inductive Json
  | null
  | bool (b : Bool)
  | int (n : Int)
  | float (x : Float)
  | text (t : Text)
  | array (items : List Json)
  | object (members : List (Text × Json))
  deriving Inhabited

namespace Json

def member? (key : Text) : Json → Option Json
  | .object members => Entries.get? members key
  | _ => none

def texts (items : List Text) : Json := .array (items.map .text)

end Json

end UtteranceTemplate
