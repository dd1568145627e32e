import UtteranceTemplate.Document
import UtteranceTemplate.Yaml.Layout
import UtteranceTemplate.Yaml.Merge
import UtteranceTemplate.Yaml.ScalarValue

/-!
Reading YAML: the values of the nodes of a text. A collection gets its number
first and its parts later, when the collections that were found before it have
theirs; so a collection may contain itself, and of several faults the one nearest
to the root counts.
-/

namespace UtteranceTemplate

namespace Yaml

namespace Graph

/-- The text of a scalar, or of the value that stands for a whole mapping. No path
visits more nodes than there are, so their number is fuel enough unless a mapping
stands for itself. -/
def scalarText (graph : Graph) : (fuel number : Nat) → Except Fault Text
  | 0, _ => .error .endless
  | fuel + 1, number =>
      match graph.body? number with
      | some (.scalar text) => .ok text
      | some (.mapping pairs) =>
          let isValue (pair : Nat × Nat) : Bool :=
            graph.tag pair.1 == .value
          match pairs.find? isValue with
          | some (_, value) => graph.scalarText fuel value
          | none => .error .malformed
      | _ => .error .malformed

/-- The value of a node of a scalar type, and whether it is the NaN that all dotted
spellings share. A date is never given by the value for a whole mapping. -/
def scalar (graph : Graph) (number : Nat) (tag : Tag) :
    Except Fault (Scalar × Bool) := do
  let text ← graph.scalarText (graph.nodes.size + 1) number
  match tag, graph.body? number with
  | .date, some (.mapping _) => .error .notText
  | _, _ =>
      (scalarValue tag text).map fun s => (s, tag == .float && isDottedNaN text)

end Graph

/-- A key of a mapping in the making. A NaN carries the node that it comes from,
unless it is the one that all dotted spellings share: NaNs of different nodes are
different keys. -/
structure Key where
  scalar : Scalar
  source : Option Nat

instance : BEq Key :=
  ⟨fun left right => left.scalar == right.scalar && left.source == right.source⟩

/-- The values of a document in the making: its nodes, with the merges that have been
carried out, the values of the nodes that have one, the nodes whose value is the NaN
that all dotted spellings share, the containers, of which the first have the numbers
of their nodes, and the nodes whose containers have no parts yet, in the order in
which they were found. -/
structure Construction where
  graph : Graph
  values : Array (Option Value)
  dottedNaNs : List Nat
  containers : Array Container
  waiting : List Nat

namespace Construction

/-- Nothing constructed yet. -/
def start (graph : Graph) : Construction :=
  { graph
    values := graph.nodes.map fun _ => none
    dottedNaNs := []
    containers := graph.nodes.map fun _ => .list []
    waiting := [] }

def setValue (construction : Construction) (number : Nat) (value : Value) :
    Construction :=
  { construction with
    values := construction.values.modify number fun _ => some value }

def setContainer (construction : Construction) (number : Nat)
    (container : Container) : Construction :=
  { construction with
    containers := construction.containers.modify number fun _ => container }

/-- Gives a node its value, unless it has one. -/
def construct (construction : Construction) (number : Nat) :
    Except Fault (Construction × Value) :=
  match construction.values[number]?.join with
  | some value => .ok (construction, value)
  | none =>
      match construction.graph.tag number with
      | .list | .pairs | .mapping | .set =>
          let value := Value.container number
          .ok ({ construction.setValue number value with
            waiting := construction.waiting ++ [number] }, value)
      | .merge | .value | .unknown => .error .malformed
      | tag =>
          (construction.graph.scalar number tag).map fun (s, isDotted) =>
            let dottedNaNs :=
              if isDotted then number :: construction.dottedNaNs
              else construction.dottedNaNs
            ({ construction.setValue number (.scalar s) with dottedNaNs }, .scalar s)

/-- Gives several nodes their values. -/
def constructAll (construction : Construction) :
    List Nat → Except Fault (Construction × List Value)
  | [] => .ok (construction, [])
  | number :: rest => do
      let (construction, value) ← construction.construct number
      let (construction, values) ← construction.constructAll rest
      return (construction, value :: values)

def key (construction : Construction) (number : Nat) (scalar : Scalar) : Key :=
  match scalar with
  | .float x =>
      ⟨scalar,
        if x.isNaN && !construction.dottedNaNs.contains number then some number else none⟩
  | _ => ⟨scalar, none⟩

/-- Gives the nodes of pairs their values, as entries. A key must be a scalar. -/
def constructEntries (construction : Construction) (entries : Entries Key Value) :
    List (Nat × Nat) → Except Fault (Construction × Entries Key Value)
  | [] => .ok (construction, entries)
  | (keyNumber, number) :: rest => do
      match ← construction.construct keyNumber with
      | (_, .container _) => .error .malformed
      | (construction, .scalar scalar) => do
          let (construction, value) ← construction.construct number
          construction.constructEntries
            (entries.put (construction.key keyNumber scalar) value) rest

/-- Makes the containers of nodes that must be mappings of one pair each. -/
def constructPairs (construction : Construction) :
    List Nat → Except Fault (Construction × List Value)
  | [] => .ok (construction, [])
  | number :: rest => do
      match construction.graph.body? number with
      | some (.mapping [(first, second)]) => do
          let (construction, values) ← construction.constructAll [first, second]
          match values with
          | [first, second] => do
              let self := construction.containers.size
              let construction := { construction with
                containers := construction.containers.push (.pair first second) }
              let (construction, pairs) ← construction.constructPairs rest
              return (construction, .container self :: pairs)
          | _ => .error .malformed
      | _ => .error .malformed

/-- Gives the parts of a mapping their values, after its merges. -/
def constructMapping (construction : Construction) (number : Nat) :
    Except Fault (Construction × Entries Scalar Value) := do
  let graph ← construction.graph.merge number
  let (construction, entries) ←
    { construction with graph }.constructEntries [] (graph.pairs number)
  return (construction, entries.map fun (key, value) => (key.scalar, value))

/-- Gives the container of a node its parts. -/
def fill (construction : Construction)
    (number : Nat) : Except Fault Construction := do
  match construction.graph.tag number, construction.graph.body? number with
  | .list, some (.sequence items) => do
      let (construction, values) ← construction.constructAll items
      return construction.setContainer number (.list values)
  | .pairs, some (.sequence items) => do
      let (construction, values) ← construction.constructPairs items
      return construction.setContainer number (.list values)
  | .mapping, some (.mapping _) => do
      let (construction, entries) ← construction.constructMapping number
      return construction.setContainer number (.mapping entries)
  | .set, some (.mapping _) => do
      let (construction, entries) ← construction.constructMapping number
      return construction.setContainer number (.set entries.keys)
  | _, _ => .error .malformed

/-- Fills the containers that wait. Every node waits at most once, so the number of
nodes is fuel enough. -/
def fillAll : (fuel : Nat) → Construction → Except Fault Construction
  | 0, construction => .ok construction
  | fuel + 1, construction =>
      match construction.waiting with
      | [] => .ok construction
      | number :: rest =>
          match { construction with waiting := rest }.fill number with
          | .error fault => .error fault
          | .ok construction => fillAll fuel construction

end Construction

def Graph.document (graph : Graph) : Except Fault Document :=
  match graph.root with
  | none => .ok ⟨#[], .scalar .null⟩
  | some root => do
      let (construction, value) ← (Construction.start graph).construct root
      let construction ← construction.fillAll (graph.nodes.size + 1)
      return ⟨construction.containers, value⟩

/-- The document that a YAML text writes. A text that is cut off by a fault must be
in order up to there for the fault to count. -/
def decode (text : Text) : Except Fault Document :=
  let (tokens, fault) := tokens text
  match Builder.start.run tokens with
  | .error fault => .error fault
  | .ok builder =>
      match fault with
      | some fault => .error fault
      | none =>
          match builder.graph with
          | .error fault => .error fault
          | .ok graph => graph.document

end Yaml

end UtteranceTemplate
