import UtteranceTemplate.Yaml.Fault
import UtteranceTemplate.Yaml.Node

/-!
Merging: a pair whose key has the type of a merge stands for the pairs of other
mappings, which come before the other pairs. A merge changes the node, so who comes
to a mapping later finds it merged; and a mapping that is merged into itself gives
the pairs that are left at that time.

Every merge takes one merge pair out of the graph and brings none in, so the number
of merge pairs is fuel enough.
-/

namespace UtteranceTemplate

namespace Yaml

namespace Graph

def body? (graph : Graph) (number : Nat) : Option Body :=
  graph.nodes[number]?.map (·.body)

def tag (graph : Graph) (number : Nat) : Tag :=
  (graph.nodes[number]?.map (·.tag)).getD .unknown

/-- The pairs of a node; none unless it is a mapping. -/
def pairs (graph : Graph) (number : Nat) : List (Nat × Nat) :=
  match graph.body? number with
  | some (.mapping pairs) => pairs
  | _ => []

def setPairs (graph : Graph) (number : Nat) (pairs : List (Nat × Nat)) : Graph :=
  { graph with
    nodes :=
      graph.nodes.modify number fun node => { node with body := .mapping pairs } }

/-- Makes a key that has the type of the value for a whole mapping a text. -/
def settleKey (graph : Graph) (key : Nat) : Graph :=
  { graph with
    nodes := graph.nodes.modify key fun node =>
      if node.tag = .value then { node with tag := .text } else node }

def settleKeys (graph : Graph) (number : Nat) : Graph :=
  (graph.pairs number).foldl (fun graph pair => graph.settleKey pair.1) graph

def isMerge (graph : Graph) (pair : Nat × Nat) : Bool := graph.tag pair.1 == .merge

/-- Takes the first merge out of a mapping; gives what is to be merged. -/
def takeMerge? (graph : Graph) (number : Nat) : Option (Nat × Graph) :=
  let pairs := graph.pairs number
  let isPlain (pair : Nat × Nat) : Bool := !graph.isMerge pair
  match pairs.dropWhile isPlain with
  | [] => none
  | (_, target) :: rest =>
      some (target, graph.setPairs number (pairs.takeWhile isPlain ++ rest))

def mergeCount (graph : Graph) : Nat :=
  (List.range graph.nodes.size).foldl
    (fun count number => count + (graph.pairs number).countP graph.isMerge) 0

/-- Merges mappings by a function, from left to right; gives the pairs of each, those
of the last one first. -/
def mergeItems (merge : Graph → Nat → Except Fault Graph) (graph : Graph)
    (later : List (List (Nat × Nat))) :
    List Nat → Except Fault (Graph × List (List (Nat × Nat)))
  | [] => .ok (graph, later)
  | item :: rest =>
      match graph.body? item with
      | some (.mapping _) =>
          match merge graph item with
          | .error fault => .error fault
          | .ok graph => mergeItems merge graph (graph.pairs item :: later) rest
      | _ => .error .malformed

/-- Carries out the merges of a mapping and settles its keys. -/
def merged : (fuel : Nat) → Graph → (number : Nat) → Except Fault Graph
  | 0, graph, number => .ok (graph.settleKeys number)
  | fuel + 1, graph, number =>
      match graph.takeMerge? number with
      | none => .ok (graph.settleKeys number)
      | some (target, graph) => do
          let targets :=
            match graph.body? target with
            | some (.sequence items) => items
            | _ => [target]
          let (graph, parts) ← mergeItems (merged fuel) graph [] targets
          let graph ← merged fuel graph number
          return graph.setPairs number (parts.flatten ++ graph.pairs number)

/-- Carries out the merges of a mapping and of the mappings merged into it. -/
def merge (graph : Graph) (number : Nat) : Except Fault Graph :=
  graph.merged graph.mergeCount number

end Graph

end Yaml

end UtteranceTemplate
