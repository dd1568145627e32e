import UtteranceTemplate.Entries
import UtteranceTemplate.Yaml.Tag
import UtteranceTemplate.Yaml.Token

/-!
The nodes of a YAML document, built from its tokens one by one. An alias refers to
the node of its anchor, so the nodes form a graph, which may have cycles.

Where a node may be left out, the next token shows that it is; so before a token is
taken in, the nodes that are missing before it are filled in with empty scalars.
-/

namespace UtteranceTemplate

namespace Yaml

/-- What a node is made of; other nodes are given by their numbers. -/
inductive Body
  | scalar (text : Text)
  | sequence (items : List Nat)
  | mapping (pairs : List (Nat × Nat))
  deriving DecidableEq, Repr

/-- A node with its type. -/
structure Node where
  tag : Tag
  body : Body
  deriving DecidableEq, Repr

/-- The nodes of a document by their numbers, and that of the node that is the
document, if the text holds one. -/
structure Graph where
  nodes : Array Node
  root : Option Nat
  deriving DecidableEq, Repr

/-- The anchor and the tag in front of a node. -/
structure Properties where
  anchor : Option Text
  tag : Option Text
  deriving DecidableEq, Repr

namespace Properties

/-- Neither an anchor nor a tag. -/
def none : Properties := ⟨.none, .none⟩

/-- Whether there is neither an anchor nor a tag. -/
def isNone (properties : Properties) : Bool :=
  properties.anchor.isNone && properties.tag.isNone

def scalarTag (properties : Properties) (text : Text) (isPlain : Bool) : Tag :=
  match properties.tag with
  | .none => if isPlain then Tag.ofPlain text else .text
  | some name => if name = [.char '!'] then Tag.ofPlain text else Tag.ofName name

def collectionTag (properties : Properties) (usual : Tag) : Tag :=
  match properties.tag with
  | .none => usual
  | some name => if name = [.char '!'] then usual else Tag.ofName name

end Properties

/-- A collection that is open; `number` is that of its node. -/
inductive Frame
  /-- A block sequence with its items so far, last one first. -/
  | blockSequence (number : Nat) (items : List Nat)
  /-- A block sequence that is not indented below the key that it belongs to. -/
  | flushSequence (number : Nat) (items : List Nat)
  /-- A block mapping with its pairs so far, last one first, and the key of
  the next. -/
  | blockMapping (number : Nat) (pairs : List (Nat × Nat)) (key : Option Nat)
  /-- A flow sequence. -/
  | sequence (number : Nat) (items : List Nat)
  /-- A flow mapping; `marked` tells whether the next key is marked as one. -/
  | mapping (number : Nat) (pairs : List (Nat × Nat)) (marked : Bool)
      (key : Option Nat)
  /-- A mapping of a single pair inside a flow sequence. -/
  | pair (number : Nat) (key : Option Nat)
  deriving DecidableEq, Repr

/-- What may come next. -/
inductive Expectation
  /-- A document, or the directives before it; `explicit` if there have been
  directives. -/
  | document (directives : Bool)
  /-- A node with the properties that have been read. -/
  | node (properties : Properties)
  /-- An item of a flow collection, or its end. -/
  | item
  /-- What follows a finished node. -/
  | after
  /-- The token after a tag of an unknown shorthand; with it the tag is refused. -/
  | unknownTag
  /-- The end of the text, behind a document. -/
  | finish (root : Nat)
  /-- The beginning of a second document, behind directives; with it the
  document is refused. -/
  | second
  deriving DecidableEq, Repr

/-- A document in the making: the nodes so far, the numbers of those with anchors,
the shorthands for the beginnings of tags, whether a version has been asked for,
whether the document begins with a marker, so that it may be empty, the open
collections, innermost first, and what may come next. -/
structure Builder where
  nodes : Array Node
  anchors : Entries Text Nat
  shorthands : Entries Text Text
  versioned : Bool
  isMarked : Bool
  frames : List Frame
  expectation : Expectation
  deriving DecidableEq, Repr

namespace Builder

/-- Nothing read yet. -/
def start : Builder :=
  { nodes := #[]
    anchors := []
    shorthands := []
    versioned := false
    isMarked := false
    frames := []
    expectation := .document false }

/-- The shorthands that every document has unless it has others for the same
handles. -/
def usualShorthands : Entries Text Text :=
  [(['!'], ['!']), (['!', '!'], Tag.namespaceName)]

def withUsual (shorthands : Entries Text Text) : Entries Text Text :=
  let isFree (usual : Text × Text) : Bool := (shorthands.get? usual.1).isNone
  shorthands ++ usualShorthands.filter isFree

/-- Whether a token can begin the contents of a node, in the place that the innermost
collection has for it. -/
def isContent (frames : List Frame) (token : Token) : Bool :=
  match token with
  | .alias _ | .anchor _ | .tag _ _ | .scalar _ _ | .openSequence | .openMapping =>
      true
  | .openBlockSequence | .openBlockMapping => true
  | .item =>
      match frames with
      | .blockMapping _ _ _ :: _ => true
      | _ => false
  | _ => false

/-- Whether a node may be left out before a token. -/
def mayBeEmpty (builder : Builder) (token : Token) : Bool :=
  match builder.frames with
  | [] =>
      builder.isMarked &&
        match token with
        | .version _ | .shorthand _
            _ | .directive | .documentStart | .documentEnd | .finish => true
        | _ => false
  | .blockSequence _ _ :: _ => token == .item || token == .closeBlock
  | .flushSequence _ _ :: _ =>
      token == .item || token == .key || token == .value || token == .closeBlock
  | .blockMapping _ _ _ :: _ =>
      token == .key || token == .value || token == .closeBlock
  | .sequence _ _ :: _ => false
  | .pair _ none :: _ =>
      token == .value || token == .comma || token == .closeSequence
  | .pair _ (some _) :: _ => token == .comma || token == .closeSequence
  | .mapping _ _ marked none :: _ =>
      marked && (token == .value || token == .comma || token == .closeMapping)
  | .mapping _ _ _ (some _) :: _ => token == .comma || token == .closeMapping

def add (builder : Builder) (node : Node) : Builder × Nat :=
  ({ builder with nodes := builder.nodes.push node }, builder.nodes.size)

def addEmpty (builder : Builder) : Builder × Nat := builder.add ⟨.null, .scalar []⟩

/-- Gives a node the contents that it turns out to have. -/
def setBody (builder : Builder) (number : Nat) (body : Body) : Builder :=
  { builder with
    nodes := builder.nodes.modify number fun node => { node with body } }

/-- Gives a node its anchor. An anchor may be given only once. -/
def setAnchor (builder : Builder) (properties : Properties) (number : Nat) :
    Except Fault Builder :=
  match properties.anchor with
  | none => .ok builder
  | some name =>
      if (builder.anchors.get? name).isSome then .error .malformed
      else .ok { builder with anchors := builder.anchors.put name number }

/-- Puts a finished node where it belongs. -/
def complete (builder : Builder) (number : Nat) : Builder :=
  let builder := { builder with expectation := .after }
  match builder.frames with
  | [] => { builder with expectation := .finish number }
  | .blockSequence self items :: outer =>
      { builder with frames := .blockSequence self (number :: items) :: outer }
  | .flushSequence self items :: outer =>
      { builder with frames := .flushSequence self (number :: items) :: outer }
  | .sequence self items :: outer =>
      { builder with frames := .sequence self (number :: items) :: outer }
  | .blockMapping self pairs none :: outer =>
      { builder with frames := .blockMapping self pairs (some number) :: outer }
  | .blockMapping self pairs (some key) :: outer =>
      { builder with
        frames := .blockMapping self ((key, number) :: pairs) none :: outer }
  | .mapping self pairs true none :: outer =>
      { builder with frames := .mapping self pairs true (some number) :: outer }
  | .mapping self pairs _ (some key) :: outer =>
      { builder with
        frames := .mapping self ((key, number) :: pairs) false none :: outer }
  | .mapping self pairs false none :: outer =>
      let (builder, empty) := builder.addEmpty
      { builder with
        frames := .mapping self ((number, empty) :: pairs) false none :: outer }
  | .pair self none :: outer =>
      { builder with frames := .pair self (some number) :: outer }
  | .pair self (some key) :: outer =>
      let builder := builder.setBody self (.mapping [(key, number)])
      match outer with
      | .sequence around items :: outer =>
          { builder with frames := .sequence around (self :: items) :: outer }
      | _ => { builder with frames := outer }

/-- Closes the innermost collection. -/
def close (builder : Builder) (number : Nat) (body : Body) : Builder :=
  ({ builder with frames := builder.frames.tail }.setBody number body).complete
    number

def addScalar (builder : Builder) (properties : Properties) (text : Text)
    (isPlain : Bool) : Except Fault Builder :=
  let (builder, number) :=
    builder.add ⟨properties.scalarTag text isPlain, .scalar text⟩
  (builder.setAnchor properties number).map fun builder => builder.complete number

def openCollection (builder : Builder) (properties : Properties) (usual : Tag)
    (body : Body) (frame : Nat → Frame) (expectation : Expectation) :
    Except Fault Builder :=
  let (builder, number) := builder.add ⟨properties.collectionTag usual, body⟩
  (builder.setAnchor properties number).map fun builder =>
    { builder with frames := frame number :: builder.frames, expectation }

/-- The full name of a tag, if its shorthand is known. -/
def tagName? (builder : Builder) (handle : Option Text) (ending : Text) :
    Option Text :=
  match handle with
  | none => some ending
  | some handle => (builder.shorthands.get? handle).map (· ++ ending)

def fillNode (builder : Builder) (token : Token) : Except Fault Builder :=
  match builder.expectation with
  | .node properties =>
      if properties.isNone then
        if builder.mayBeEmpty token then
          let (builder, number) := builder.addEmpty
          .ok (builder.complete number)
        else .ok builder
      else if isContent builder.frames token then .ok builder
      else builder.addScalar properties [] true
  | _ => .ok builder

/-- Ends a block sequence that is not indented, unless another item follows. -/
def endFlush (builder : Builder) (token : Token) : Builder :=
  match builder.expectation, builder.frames with
  | .after, .flushSequence number items :: _ =>
      if token = .item then builder
      else builder.close number (.sequence items.reverse)
  | _, _ => builder

def fillValue (builder : Builder) (token : Token) : Builder :=
  match builder.expectation, builder.frames with
  | .after, .blockMapping _ _ (some _) :: _
  | .after, .mapping _ _ _ (some _) :: _
  | .after, .pair _ (some _) :: _ =>
      if token = .value then builder
      else
        let (builder, number) := builder.addEmpty
        builder.complete number
  | _, _ => builder

def expectNode (builder : Builder) : Builder :=
  { builder with expectation := .node .none }

def takeNode (builder : Builder) (properties : Properties) (token : Token) :
    Except Fault Builder :=
  match token with
  | .anchor name =>
      if properties.anchor.isSome then .error .malformed
      else .ok { builder with
        expectation := .node { properties with anchor := some name } }
  | .tag handle ending =>
      if properties.tag.isSome then .error .malformed
      else
        match builder.tagName? handle ending with
        | some name =>
            .ok { builder with
              expectation := .node { properties with tag := some name } }
        | none =>
            if properties.anchor.isSome then .error .malformed
            else .ok { builder with expectation := .unknownTag }
  | .alias name =>
      if properties.isNone then
        match builder.anchors.get? name with
        | some number => .ok (builder.complete number)
        | none => .error .malformed
      else .error .malformed
  | .scalar text isPlain => builder.addScalar properties text isPlain
  | .openSequence =>
      builder.openCollection properties .list (.sequence []) (.sequence · []) .item
  | .openMapping =>
      builder.openCollection properties .mapping (.mapping [])
        (.mapping · [] false none) .item
  | .openBlockSequence =>
      builder.openCollection properties .list (.sequence [])
        (.blockSequence · []) .after
  | .openBlockMapping =>
      builder.openCollection properties .mapping (.mapping [])
        (.blockMapping · [] none) .after
  | .item =>
      match builder.frames with
      | .blockMapping _ _ _ :: _ =>
          (builder.openCollection properties .list (.sequence [])
            (.flushSequence · []) .after).map expectNode
      | _ => .error .malformed
  | _ => .error .malformed

/-- Takes in a token where an item of a flow collection or its end is expected. -/
def takeItem (builder : Builder) (token : Token) : Except Fault Builder :=
  match builder.frames, token with
  | .sequence number items :: _, .closeSequence =>
      .ok (builder.close number (.sequence items.reverse))
  | .sequence _ _ :: _, .key =>
      let (builder, number) := builder.add ⟨.mapping, .mapping []⟩
      .ok { builder with frames := .pair number none :: builder.frames }.expectNode
  | .mapping number pairs _ _ :: _, .closeMapping =>
      .ok (builder.close number (.mapping pairs.reverse))
  | .mapping number pairs _ _ :: outer, .key =>
      .ok { builder with
        frames := .mapping number pairs true none :: outer }.expectNode
  | .mapping number pairs _ _ :: outer, _ =>
      { builder with
        frames := .mapping number pairs false none :: outer }.takeNode .none token
  | _, _ => builder.takeNode .none token

def takeAfter (builder : Builder) (token : Token) : Except Fault Builder :=
  match builder.frames, token with
  | .blockSequence _ _ :: _, .item => .ok builder.expectNode
  | .blockSequence number items :: _, .closeBlock =>
      .ok (builder.close number (.sequence items.reverse))
  | .flushSequence _ _ :: _, .item => .ok builder.expectNode
  | .blockMapping _ _ none :: _, .key => .ok builder.expectNode
  | .blockMapping number pairs none :: _, .closeBlock =>
      .ok (builder.close number (.mapping pairs.reverse))
  | .blockMapping _ _ (some _) :: _, .value => .ok builder.expectNode
  | .mapping _ _ _ (some _) :: _, .value => .ok builder.expectNode
  | .pair _ (some _) :: _, .value => .ok builder.expectNode
  | .sequence _ _ :: _, .comma => .ok { builder with expectation := .item }
  | .sequence number items :: _, .closeSequence =>
      .ok (builder.close number (.sequence items.reverse))
  | .mapping _ _ _ none :: _, .comma => .ok { builder with expectation := .item }
  | .mapping number pairs _ none :: _, .closeMapping =>
      .ok (builder.close number (.mapping pairs.reverse))
  | _, _ => .error .malformed

/-- Takes in a token that is a directive; nothing for other tokens. -/
def takeDirective? (builder : Builder) (token : Token) :
    Option (Except Fault Builder) :=
  match token with
  | .version major =>
      if builder.versioned || major ≠ 1 then some (.error .malformed)
      else some (.ok { builder with versioned := true })
  | .shorthand handle expansion =>
      if (builder.shorthands.get? handle).isSome then some (.error .malformed)
      else some (.ok { builder with
        shorthands := builder.shorthands.put handle expansion })
  | .directive => some (.ok builder)
  | _ => none

def takeDocument (builder : Builder) (directives : Bool) (token : Token) :
    Except Fault Builder :=
  match builder.takeDirective? token with
  | some result =>
      result.map fun builder => { builder with expectation := .document true }
  | none =>
      let known := { builder with shorthands := withUsual builder.shorthands }
      match token with
      | .documentStart => .ok { known with isMarked := true }.expectNode
      | .finish => if directives then .error .malformed else .ok builder
      | _ => if directives then .error .malformed else known.takeNode .none token

def takeSecond (builder : Builder) (token : Token) : Except Fault Builder :=
  match builder.takeDirective? token with
  | some result => result.map fun builder => { builder with expectation := .second }
  | none => .error .malformed

def takeEnd (builder : Builder) (token : Token) : Except Fault Builder :=
  if token = .documentEnd || token = .finish then .ok builder
  else { builder with versioned := false, shorthands := [] }.takeSecond token

def step (builder : Builder) (token : Token) : Except Fault Builder :=
  match builder.fillNode token with
  | .error fault => .error fault
  | .ok builder =>
      let builder := (builder.endFlush token).fillValue token
      match builder.expectation with
      | .document directives => builder.takeDocument directives token
      | .node properties => builder.takeNode properties token
      | .item => builder.takeItem token
      | .after => builder.takeAfter token
      | .unknownTag => .error .malformed
      | .finish _ => builder.takeEnd token
      | .second => builder.takeSecond token

def run (builder : Builder) : List Token → Except Fault Builder
  | [] => .ok builder
  | token :: rest =>
      match builder.step token with
      | .ok builder => builder.run rest
      | .error fault => .error fault

def graph (builder : Builder) : Except Fault Graph :=
  match builder.expectation with
  | .finish root => .ok ⟨builder.nodes, some root⟩
  | .document _ => .ok ⟨builder.nodes, none⟩
  | _ => .error .malformed

end Builder

end Yaml

end UtteranceTemplate
