/-!
# Syntax trees

A syntax tree is a finite ordered tree. Its nodes carry their kind, whether the kind has a
name of its own or is literal text, the field under which the parent knows them, their extent
in the text, and whether they stand for text that does not fit the grammar.

## Main definitions

* `Tree` is a node with its children.
* `Tree.walk` lists a tree's nodes in document order.
* `Tree.child?` finds a child by field.
* `Tree.height` is how deep a tree is.
* `Tree.firstBad?` finds the first node that is an error, looking only where the flag of a
  node says that there is one.
-/

namespace ChecklistReview

/-- How a node came about. -/
inductive Tree.Status where
  /-- The text fits the grammar. -/
  | sound
  /-- The node covers text that does not fit. -/
  | error
  /-- The node stands where a terminal is missing. -/
  | missing
  deriving DecidableEq, Inhabited

/-- A node of a syntax tree without its children. -/
structure Tree.Label where
  kind : String
  /-- The kind is a name of the grammar and not literal text. -/
  isNamed : Bool
  /-- The field under which the parent knows the node. -/
  field : Option String
  status : Tree.Status
  /-- The node or one below it is an error, as the parser reports it. -/
  hasError : Bool
  /-- Number of characters before the node. -/
  start : Nat
  /-- Number of characters before the end of the node. -/
  stop : Nat
  /-- Number of line feeds before the node. -/
  row : Nat
  deriving DecidableEq, Inhabited

/-- A syntax tree. -/
inductive Tree where
  | node (label : Tree.Label) (children : List Tree)
  deriving Inhabited

namespace Tree

/-- The node without its children. -/
def label : Tree → Label
  | .node l _ => l

/-- The parts of the node. -/
def children : Tree → List Tree
  | .node _ cs => cs

/-- The kind of the node. -/
def kind (t : Tree) : String := t.label.kind

/-- Whether the node is an error itself. -/
def isBad (t : Tree) : Bool := t.label.status ≠ .sound

mutual

/-- The node and all nodes below it, in document order. -/
def walk : Tree → List Tree
  | .node l cs => .node l cs :: walkAll cs

/-- All nodes of the trees, in document order. -/
def walkAll : List Tree → List Tree
  | [] => []
  | t :: ts => walk t ++ walkAll ts

end

mutual

/-- How many nodes stand one below another in a tree. -/
def height : Tree → Nat
  | .node _ cs => heightOfAll cs + 1

/-- The greatest height of the trees. -/
def heightOfAll : List Tree → Nat
  | [] => 0
  | t :: ts => max t.height (heightOfAll ts)

end

/-- The first child under a field. -/
def child? (t : Tree) (field : String) : Option Tree :=
  t.children.find? fun c => c.label.field = some field

/-- The children whose kind is a name of the grammar. -/
def namedChildren (t : Tree) : List Tree := t.children.filter fun c => c.label.isNamed

mutual

/-- The first node in document order that is an error. Children without the error flag are
not searched. -/
def firstBad? : Tree → Option Tree
  | .node l cs => if (Tree.node l cs).isBad then some (.node l cs) else firstBadAmong? cs

/-- The first error among the flagged trees. -/
def firstBadAmong? : List Tree → Option Tree
  | [] => none
  | t :: ts =>
    if t.label.hasError || t.label.status = .missing then
      match firstBad? t with
      | some found => some found
      | none => firstBadAmong? ts
    else firstBadAmong? ts

end

mutual

/-- How deep the first error is searched for. -/
def badDepth : Tree → Nat
  | .node l cs => if (Tree.node l cs).isBad then 1 else badDepthAmong cs + 1

/-- How deep the first error is searched for among the flagged trees. -/
def badDepthAmong : List Tree → Nat
  | [] => 0
  | t :: ts =>
    if t.label.hasError || t.label.status = .missing then
      if t.firstBad?.isSome then badDepth t else max (badDepth t) (badDepthAmong ts)
    else badDepthAmong ts

end

end Tree

end ChecklistReview
