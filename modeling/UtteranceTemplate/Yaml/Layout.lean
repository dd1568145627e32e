import UtteranceTemplate.Yaml.Token

/-!
The layout of a YAML text: cutting it into tokens while keeping track of what
depends on lines and columns. Deeper lines open block collections and shallower ones
close them; what stands before a colon on the same line turns out to be a key only
when the colon comes.
-/

namespace UtteranceTemplate

namespace Yaml

/-- A place in a text, by the numbers of the characters and the lines before it, and
of the columns on its line. -/
structure Place where
  index : Nat
  line : Nat
  column : Nat
  deriving DecidableEq, Repr

def Place.after (place : Place) (part : Text) : Place :=
  ⟨place.index + part.length, place.line + part.countP isBreak,
    columnAfter place.column part⟩

/-- Something that may turn out to be a key. If it is required, the text is malformed
unless it does. -/
structure Candidate where
  tokensBefore : Nat
  required : Bool
  place : Place
  deriving DecidableEq, Repr

/-- What is known of a text between two tokens: what has not been read and where that
starts, the tokens so far, last one first, and their number, the columns of the open
block collections, innermost first, whether a key may come, and what may turn out to
be a key at this level of flow collections and at those around. -/
structure Layout where
  rest : Text
  place : Place
  tokens : List Token
  count : Nat
  indents : List Nat
  keyAllowed : Bool
  candidate : Option Candidate
  outer : List (Option Candidate)
  deriving DecidableEq, Repr

namespace Layout

/-- The most characters from the start of a key to its colon. -/
def keyLimit : Nat := 1024

/-- Nothing read yet. -/
def start (text : Text) : Layout :=
  { rest := text
    place := ⟨0, 0, 0⟩
    tokens := []
    count := 0
    indents := []
    keyAllowed := true
    candidate := none
    outer := [] }

def inFlow (layout : Layout) : Bool := !layout.outer.isEmpty

def moveTo (layout : Layout) (rest : Text) : Layout :=
  { layout with place := layout.place.after (layout.rest.upTo rest), rest }

/-- Goes on behind the next `n` characters. -/
def move (layout : Layout) (n : Nat) : Layout := layout.moveTo (layout.rest.drop n)

def emit (layout : Layout) (token : Token) : Layout :=
  { layout with tokens := token :: layout.tokens, count := layout.count + 1 }

/-- Adds tokens behind the first `before` ones. -/
def insert (layout : Layout) (before : Nat) (tokens : List Token) : Layout :=
  let later := layout.count - before
  { layout with
    tokens := layout.tokens.take later ++ tokens.reverse ++ layout.tokens.drop later
    count := layout.count + tokens.length }

/-- The next column at which a block collection may be opened. -/
def leastColumn (layout : Layout) : Nat :=
  match layout.indents with
  | [] => 0
  | indent :: _ => indent + 1

/-- Closes the block collections whose columns lie at or beyond a column, unless a
flow collection is open. -/
def closeFrom (layout : Layout) (column : Nat) : Layout :=
  if layout.inFlow then layout
  else
    let closed := (layout.indents.takeWhile (column ≤ ·)).length
    { layout with
      indents := layout.indents.drop closed
      tokens := List.replicate closed .closeBlock ++ layout.tokens
      count := layout.count + closed }

/-- Gives up the candidate of this level. -/
def dropCandidate (layout : Layout) : Except Fault Layout :=
  if layout.candidate.any (·.required) then .error .malformed
  else .ok { layout with candidate := none }

/-- Makes what comes next a candidate, if a key may come. -/
def saveCandidate (layout : Layout) : Except Fault Layout :=
  if layout.keyAllowed then
    layout.dropCandidate.map fun layout =>
      { layout with
        candidate := some
          { tokensBefore := layout.count
            required :=
              !layout.inFlow && layout.indents.head? == some layout.place.column
            place := layout.place } }
  else .ok layout

def isStale (layout : Layout) (candidate : Candidate) : Bool :=
  candidate.place.line != layout.place.line ||
    keyLimit < layout.place.index - candidate.place.index

/-- Gives up the candidates that are out of reach. -/
def dropStale (layout : Layout) : Except Fault Layout :=
  let fresh (candidate : Option Candidate) : Option Candidate :=
    candidate.filter fun candidate => !layout.isStale candidate
  if (layout.candidate :: layout.outer).any fun candidate =>
      candidate.any fun candidate => candidate.required && layout.isStale candidate
  then .error .malformed
  else .ok { layout with
    candidate := fresh layout.candidate
    outer := layout.outer.map fresh }

/-- Skips spaces, comments and line breaks; also tells whether there was a
line break. -/
def skipFiller (inComment : Bool) : Text → Text × Bool
  | [] => ([], false)
  | c :: rest =>
      if isBreak c then ((skipFiller false rest).1, true)
      else if inComment then skipFiller true rest
      else if c = ' ' then skipFiller false rest
      else if c = '#' then skipFiller true rest
      else (c :: rest, false)

/-- Goes on at the next token, but does not close collections for it. A byte order
mark at the start of the text does not count. -/
def advance (layout : Layout) : Layout :=
  let layout :=
    if layout.place.index = 0 && layout.rest.head? = some (.char '\ufeff')
    then layout.move 1
    else layout
  let (rest, breaksLine) := skipFiller false layout.rest
  let layout := layout.moveTo rest
  if breaksLine && !layout.inFlow then { layout with keyAllowed := true } else layout

/-- Reads a token by a function; it may be the start of a key, but none can start
right after it. -/
def readAtom (layout : Layout) (read : Text → Except Fault (Token × Text))
    (skip : Nat) : Except Fault Layout :=
  match layout.saveCandidate with
  | .error fault => .error fault
  | .ok layout =>
      (read (layout.rest.drop skip)).map fun (token, rest) =>
        { (layout.moveTo rest).emit token with keyAllowed := false }

def orMalformed {α : Type} : Option α → Except Fault α
  | some result => .ok result
  | none => .error .malformed

/-- Reads a plain scalar. A key may come after it if it ends on a later line. -/
def readPlain (layout : Layout) : Except Fault Layout :=
  layout.saveCandidate.map fun layout =>
    let (text, breaksLine, rest) :=
      plain layout.inFlow layout.leastColumn layout.place.column layout.rest
    { (layout.moveTo rest).emit (.scalar text true) with keyAllowed := breaksLine }

def readQuoted (layout : Layout) (mark : CodePoint) : Except Fault Layout :=
  layout.readAtom
    (fun text => (quoted mark text).map fun (text, rest) =>
      (.scalar text false, rest)) 1

def readBlock (layout : Layout) (folded : Bool) : Except Fault Layout :=
  match layout.dropCandidate with
  | .error fault => .error fault
  | .ok layout =>
      match blockText folded (max 1 layout.leastColumn) (layout.rest.drop 1) with
      | none => .error .malformed
      | some (text, rest) =>
          .ok { (layout.moveTo rest).emit (.scalar text false) with
            keyAllowed := true }

def openFlow (layout : Layout) (token : Token) : Except Fault Layout :=
  layout.saveCandidate.map fun layout =>
    { (layout.move 1).emit token with
      keyAllowed := true, candidate := none, outer :=
        layout.candidate :: layout.outer }

def closeFlow (layout : Layout) (token : Token) : Except Fault Layout :=
  match layout.outer with
  | [] => .error .malformed
  | candidate :: outer =>
      .ok { (layout.move 1).emit token with keyAllowed := false, candidate, outer }

def readComma (layout : Layout) : Except Fault Layout :=
  if layout.inFlow then
    .ok { (layout.move 1).emit .comma with keyAllowed := true, candidate := none }
  else .error .malformed

/-- Opens a block collection at a column, unless one is open there. -/
def openBlock (layout : Layout) (token : Token) : Layout :=
  if layout.leastColumn ≤ layout.place.column then
    { layout.emit token with indents := layout.place.column :: layout.indents }
  else layout

/-- Reads the dash of an item. No item fits into a flow collection, which is not for
the layout to tell. -/
def readItem (layout : Layout) : Except Fault Layout :=
  let item (layout : Layout) : Except Fault Layout :=
    layout.dropCandidate.map fun layout =>
      { (layout.move 1).emit .item with keyAllowed := true }
  if layout.inFlow then item layout
  else if layout.keyAllowed then item (layout.openBlock .openBlockSequence)
  else .error .malformed

def readKey (layout : Layout) : Except Fault Layout :=
  if layout.inFlow then
    layout.dropCandidate.map fun layout =>
      { (layout.move 1).emit .key with keyAllowed := false }
  else if layout.keyAllowed then
    (layout.openBlock .openBlockMapping).dropCandidate.map fun layout =>
      { (layout.move 1).emit .key with keyAllowed := true }
  else .error .malformed

/-- Marks a candidate as a key, which may open a block mapping. -/
def makeKey (layout : Layout) (candidate : Candidate) : Layout :=
  let layout := { layout with candidate := none, keyAllowed := false }
  if !layout.inFlow && layout.leastColumn ≤ candidate.place.column then
    { layout.insert candidate.tokensBefore [.openBlockMapping, .key] with
      indents := candidate.place.column :: layout.indents }
  else layout.insert candidate.tokensBefore [.key]

def readValue (layout : Layout) : Except Fault Layout :=
  match layout.candidate with
  | some candidate => .ok (((layout.makeKey candidate).move 1).emit .value)
  | none =>
      if layout.inFlow then
        .ok { (layout.move 1).emit .value with keyAllowed := false }
      else if layout.keyAllowed then
        .ok { ((layout.openBlock .openBlockMapping).move 1).emit .value with
          keyAllowed := true }
      else .error .malformed

/-- Reads a marker between documents or a directive; all block collections
end before it. -/
def readMarker (layout : Layout) (read : Text → Except Fault (Token × Text)) :
    Except Fault Layout :=
  match (layout.closeFrom 0).dropCandidate with
  | .error fault => .error fault
  | .ok layout =>
      (read layout.rest).map fun (token, rest) =>
        { (layout.moveTo rest).emit token with keyAllowed := false }

/-- Whether a plain scalar can start where a character stands before a rest. -/
def startsPlain (inFlow : Bool) (c : CodePoint) (rest : Text) : Bool :=
  if c = '-' then !endsAt isGap rest
  else if c = '?' || c = ':' then !inFlow && !endsAt isGap rest
  else
    !isGap c && !isFlowIndicator c &&
      !(['#', '&', '*', '!', '|', '>', '\'', '"', '%', '@', '\x60'] : Text).contains c

/-- Reads the token at the start of the rest; there is a character. -/
def readToken (layout : Layout) (c : CodePoint) (rest : Text) :
    Except Fault Layout :=
  let atMargin := layout.place.column == 0
  let marker (token : Token) : Except Fault Layout :=
    layout.readMarker fun text => .ok (token, text.drop 3)
  if atMargin && c == '%' then layout.readMarker fun text =>
    directiveToken (text.drop 1)
  else if atMargin && c == '-' && atMarker (c :: rest) then marker .documentStart
  else if atMargin && c == '.' && atMarker (c :: rest) then marker .documentEnd
  else if c = '[' then layout.openFlow .openSequence
  else if c = '{' then layout.openFlow .openMapping
  else if c = ']' then layout.closeFlow .closeSequence
  else if c = '}' then layout.closeFlow .closeMapping
  else if c = ',' then layout.readComma
  else if c = '-' && endsAt isGap rest then layout.readItem
  else if c = '?' && (layout.inFlow || endsAt isGap rest) then layout.readKey
  else if c = ':' && (layout.inFlow || endsAt isGap rest) then layout.readValue
  else if c = '*' then
    layout.readAtom
      (fun text =>
        orMalformed ((anchorName text).map fun (name, rest) => (.alias name, rest))) 1
  else if c = '&' then
    layout.readAtom
      (fun text =>
        orMalformed ((anchorName text).map fun (name, rest) => (.anchor name, rest))) 1
  else if c = '!' then layout.readAtom (fun text => orMalformed (tagToken text)) 1
  else if c = '|' && !layout.inFlow then layout.readBlock false
  else if c = '>' && !layout.inFlow then layout.readBlock true
  else if c = '\'' || c = '"' then layout.readQuoted c
  else if startsPlain layout.inFlow c rest then layout.readPlain
  else .error .malformed

/-- Reads the next token; nothing at the end of the text, where all block
collections end. -/
def next (layout : Layout) : Except Fault (Layout × Bool) :=
  match layout.advance.dropStale with
  | .error fault => .error fault
  | .ok layout =>
      match layout.rest with
      | [] =>
          (layout.closeFrom 0).dropCandidate.map fun layout =>
            (layout.emit .finish, true)
      | c :: rest =>
          ((layout.closeFrom (layout.place.column + 1)).readToken c rest).map
            fun layout =>
            (layout, false)

/-- The number of tokens before the first one that may still turn out to be a key. -/
def settled (layout : Layout) : Nat :=
  (layout.candidate :: layout.outer).foldl
    (fun least candidate =>
      match candidate with
      | some candidate =>
          if layout.isStale candidate then least
          else min least candidate.tokensBefore
      | none => least)
    layout.count

/-- Reads tokens up to the end of the text or to the first fault; before a fault only
the tokens count that are settled. Every token but the last takes a character, so one
more than the length of the text is fuel enough. -/
def run : (fuel : Nat) → Layout → List Token × Option Fault
  | 0, layout => (layout.tokens.reverse, none)
  | fuel + 1, layout =>
      match layout.next with
      | .error fault => (layout.tokens.reverse.take layout.settled, some fault)
      | .ok (layout, true) => (layout.tokens.reverse, none)
      | .ok (layout, false) => run fuel layout

end Layout

/-- The tokens of a text up to its end, or those settled before the first fault. -/
def tokens (text : Text) : List Token × Option Fault :=
  if text.all isAllowed then Layout.run (text.length + 1) (Layout.start text)
  else ([], some .malformed)

end Yaml

end UtteranceTemplate
