import LocaleRelay.Yaml.Event

/-!
# Documents as trees

A document as a tree of scalars, sequences and mappings. A document that breaks off is a tree too:
what was not read any more is missing from it. Named nodes carry numbers, and a reference leads to
the last node of its number.
-/

namespace LocaleRelay.Yaml

/-- A node of a document, with its number where it has an anchor; `missing` is what was not read. -/
inductive Tree where
  | scalar (mark : Mark) (number : Option Nat) (scalar : Scalar)
  | alias (mark : Mark) (number : Nat)
  | sequence (mark : Mark) (number : Option Nat) (items : List Tree)
  | mapping (mark : Mark) (number : Option Nat) (pairs : List (Tree × Tree))
  | missing

namespace Tree

mutual

/-- The named nodes of a tree, in the order in which they begin. -/
def named : Tree → List (Nat × Tree)
  | scalar mark number s => number.toList.map fun n => (n, scalar mark number s)
  | sequence mark number items =>
    (number.toList.map fun n => (n, sequence mark number items)) ++ namedItems items
  | mapping mark number pairs =>
    (number.toList.map fun n => (n, mapping mark number pairs)) ++ namedPairs pairs
  | .alias _ _ | missing => []

/-- The named nodes of the entries of a sequence. -/
def namedItems : List Tree → List (Nat × Tree)
  | [] => []
  | item :: rest => named item ++ namedItems rest

/-- The named nodes of the pairs of a mapping. -/
def namedPairs : List (Tree × Tree) → List (Nat × Tree)
  | [] => []
  | (key, value) :: rest => named key ++ named value ++ namedPairs rest

end

end Tree

/-- A sequence or mapping whose end was not met yet, with the nodes in it so far, last one first; in
a mapping keys and values take turns. -/
structure OpenNode where
  isMapping : Bool
  mark : Mark
  number : Option Nat
  nodes : List Tree

/-- Nodes in pairs, before some others: the nodes come last one first, and each value before its
key. -/
def pairUp (after : List (Tree × Tree)) : List Tree → List (Tree × Tree)
  | value :: key :: rest => pairUp ((key, value) :: after) rest
  | _ => after

namespace OpenNode

/-- The pairs of a mapping; the value of the last one may be missing. -/
def pairs (node : OpenNode) : List (Tree × Tree) :=
  pairUp [] (if node.nodes.length % 2 = 0 then node.nodes else .missing :: node.nodes)

/-- The node that ends here. -/
def close (node : OpenNode) : Tree :=
  if node.isMapping then .mapping node.mark node.number node.pairs
  else .sequence node.mark node.number node.nodes.reverse

/-- The node that breaks off here: what follows is missing. -/
def breakOff (node : OpenNode) (last : List Tree) : Tree :=
  { node with nodes := .missing :: (last ++ node.nodes) }.close

end OpenNode

/-- What was built of a document: the open nodes, innermost first, the whole tree once it is
complete, and the names given so far with their numbers. -/
structure Builder where
  opened : List OpenNode
  root : Option Tree
  names : List (String × Nat)

namespace Builder

/-- Nothing built yet. -/
def empty : Builder := ⟨[], none, []⟩

/-- A complete node in its place. -/
def add (builder : Builder) (tree : Tree) : Builder :=
  match builder.opened with
  | [] => { builder with root := some tree }
  | node :: outer => { builder with opened := { node with nodes := tree :: node.nodes } :: outer }

/-- The names with one given anew; its number is the count of the names before. -/
def giveName (names : List (String × Nat)) (name : String) : List (String × Nat) :=
  (name, names.length) :: names.filter fun entry => entry.1 ≠ name

/-- The number of an anchor, and the builder that knows its name. -/
def number (builder : Builder) : Option String → Option Nat × Builder
  | none => (none, builder)
  | some name =>
    (some builder.names.length, { builder with names := giveName builder.names name })

/-- A sequence or mapping begins. -/
def beginNode (builder : Builder) (isMapping : Bool) (mark : Mark) (anchor : Option String) :
    Builder :=
  let (number, builder) := builder.number anchor
  { builder with opened := ⟨isMapping, mark, number, []⟩ :: builder.opened }

/-- The innermost open node ends. -/
def endNode (builder : Builder) : Builder :=
  match builder.opened with
  | [] => builder
  | node :: outer => { builder with opened := outer }.add node.close

/-- What an event adds. A reference to a name that was not given fits nowhere. -/
def step (builder : Builder) (event : Event) : Option Builder :=
  match event.kind with
  | .alias name =>
    (builder.names.find? fun entry => entry.1 = name).map fun entry =>
      builder.add (.alias event.mark entry.2)
  | .scalar anchor scalar =>
    let (number, builder) := builder.number anchor
    some (builder.add (.scalar event.mark number scalar))
  | .sequenceStart anchor => some (builder.beginNode false event.mark anchor)
  | .mappingStart anchor => some (builder.beginNode true event.mark anchor)
  | .sequenceEnd | .mappingEnd => some builder.endNode

/-- Add events as far as they fit; the second part says whether all did. -/
def addAll (builder : Builder) : List Event → Builder × Bool
  | [] => (builder, true)
  | event :: rest =>
    match builder.step event with
    | none => (builder, false)
    | some builder => builder.addAll rest

/-- The tree of a document that breaks off with these nodes open. -/
def breakOff : List Tree → List OpenNode → List Tree
  | last, [] => last
  | last, node :: outer => breakOff [node.breakOff last] outer

/-- The tree of what was built. -/
def tree (builder : Builder) : Tree :=
  match builder.root with
  | some tree => tree
  | none => (breakOff [] builder.opened).headD .missing

end Builder

/-- The first document of a text, and how its reading ended; an empty text has no tree. -/
structure Document where
  root : Option Tree
  completion : Completion

namespace Document

/-- The document of some events and an ending. -/
def ofEvents (events : List Event) (completion : Completion) : Document :=
  let (builder, fits) := Builder.empty.addAll events
  let completion := if fits then completion else .broken
  { root := if events.isEmpty && completion = .complete then none else some builder.tree
    completion }

/-- The first document of a text. -/
def ofText (text : String) : Document :=
  let (events, completion) := documentEvents (lexemes (glyphs text))
  ofEvents events completion

/-- The node that a reference leads to: the last one of its number. -/
def target? (document : Document) (number : Nat) : Option Tree :=
  document.root.bind fun root =>
    (root.named.reverse.find? fun entry => entry.1 = number).map (·.2)

end Document

end LocaleRelay.Yaml
