import UtteranceTemplate.Pattern.Basic
import UtteranceTemplate.Pattern.Token

/-!
Reading a pattern text into a pattern. The tokens are taken one by one; the groups
that are open wait in a stack, each with the branches that surround it.
-/

namespace UtteranceTemplate

namespace Pattern

/-- The branches between two parentheses as far as they are read: those before the
last bar, and the items of the one being read, last one first. -/
structure Branches where
  finished : List (List Pattern)
  items : List Pattern

namespace Branches

/-- No branch finished and no item read. -/
def start : Branches := ⟨[], []⟩

def push (branches : Branches) (item : Pattern) : Branches :=
  { branches with items := item :: branches.items }

/-- The items of the branch being read, in order; a group that keeps nothing
gives its own. -/
def branch (branches : Branches) : List Pattern :=
  branches.items.reverse.flatMap Pattern.items

/-- Ends the branch being read and begins another. -/
def next (branches : Branches) : Branches :=
  ⟨branches.branch :: branches.finished, []⟩

def pattern (branches : Branches) : Pattern :=
  choice (branches.branch :: branches.finished).reverse

end Branches

/-- A group that is open: where it opens, whether it is a capture, and the branches
around it. -/
structure OpenGroup where
  position : Nat
  captures : Bool
  outer : Branches

/-- What is known of a pattern between two of its tokens: the groups that are open,
innermost first, the branches inside the innermost one, and the token read last. -/
structure Reader where
  groups : List OpenGroup
  current : Branches
  previous : Option Token

namespace Reader

/-- Nothing read yet. -/
def start : Reader := ⟨[], .start, none⟩

def openAt (reader : Reader) (position : Nat) (captures : Bool) : Reader :=
  { reader with
    groups :=
      ⟨position, captures, reader.current⟩ :: reader.groups, current := .start }

/-- Closes the innermost group. -/
def closeAt (reader : Reader) (position : Nat) : Except Fault Reader :=
  match reader.groups with
  | [] => .error (.unopenedGroup position)
  | group :: outer =>
      let body := reader.current.pattern
      let item := if group.captures then .capture body else body
      .ok { reader with groups := outer, current := group.outer.push item }

/-- Makes the last item optional. A second question mark makes an optional item
prefer to read nothing. -/
def optionalAt (reader : Reader) (position : Nat) : Except Fault Reader :=
  match reader.previous, reader.current.items with
  | some .optional, .opt item :: items =>
      .ok { reader with
        current := { reader.current with items := .alt .empty item :: items } }
  | some .optional, _ | some .anyText, _ => .error (.repeatedTwice position)
  | _, [] => .error (.nothingToRepeat position)
  | _, item :: items =>
      .ok { reader with
        current := { reader.current with items := .opt item :: items } }

/-- Takes in one token, without noting it as the last one. -/
def take (reader : Reader) (position : Nat) : Token → Except Fault Reader
  | .char c => .ok { reader with current := reader.current.push (.char c) }
  | .leftBrace => .ok { reader with current := reader.current.push (.char '{') }
  | .rightBrace => .ok { reader with current := reader.current.push (.char '}') }
  | .anyText => .ok { reader with current := reader.current.push .anyText }
  | .openCapture => .ok (reader.openAt position true)
  | .openGroup => .ok (reader.openAt position false)
  | .close => reader.closeAt position
  | .bar => .ok { reader with current := reader.current.next }
  | .optional => reader.optionalAt position

def step (reader : Reader) (token : Nat × Token) : Except Fault Reader :=
  (reader.take token.1 token.2).map fun reader =>
    { reader with previous := some token.2 }

/-- The pattern read, if every group is closed. -/
def finish (reader : Reader) : Except Fault Pattern :=
  match reader.groups with
  | [] => .ok reader.current.pattern
  | group :: _ => .error (.unclosedGroup group.position)

def run (reader : Reader) : List (Nat × Token) → Except Fault Reader
  | [] => .ok reader
  | token :: rest =>
      match reader.step token with
      | .ok reader => reader.run rest
      | .error fault => .error fault

end Reader

def ofTokens? (tokens : List (Nat × Token)) : Except Fault Pattern :=
  match Reader.start.run tokens with
  | .ok reader => reader.finish
  | .error fault => .error fault

/-- The fault to report where a row of tokens has one and the text after the tokens
has another. A question mark is judged together with the character after it, so a
lone backslash there comes first. -/
def firstFault : (inTokens afterTokens : Fault) → Fault
  | .nothingToRepeat n, .loneBackslash m =>
      if n + 1 = m then .loneBackslash m else .nothingToRepeat n
  | .repeatedTwice n, .loneBackslash m =>
      if n + 1 = m then .loneBackslash m else .repeatedTwice n
  | inTokens, _ => inTokens

/-- The pattern that a text writes, or the first fault of the text. -/
def read (text : Text) : Except Fault Pattern :=
  match Token.lex text with
  | (tokens, none) => ofTokens? tokens
  | (tokens, some fault) =>
      match Reader.start.run tokens with
      | .ok _ => .error fault
      | .error earlier => .error (firstFault earlier fault)

end Pattern

end UtteranceTemplate
