import ChecklistReview.Grammar.Lexeme

/-!
# Subtrees

A subtree is a node under construction: a terminal with the blanks before it, or the children
gathered by a production or by skipping over unreadable input.

## Main definitions

* `Subtree` with its `Subtree.Summary`: extent, cost of errors, weight and visible size.
* `Subtree.leaf`, `Subtree.missing` and `Subtree.branch` build them.
* `Subtree.compare` orders parses that are otherwise equal.
-/

namespace ChecklistReview.Grammar

/-! ### Costs of errors -/

/-- The cost of each stretch of skipped input. -/
def recoveryCost : Nat := 500

/-- The cost of a terminal that was supplied, in addition to that of the recovery. -/
def missingCost : Nat := 110

/-- The cost of each skipped node. -/
def skippedTreeCost : Nat := 100

/-- The cost of each skipped line. -/
def skippedLineCost : Nat := 30

/-! ### Symbols beyond those of the grammar -/

/-- Skipped input as a node. -/
def errorSymbol : Nat := 65535

/-- Skipped input that may be continued. -/
def errorRun : Nat := 65534

/-- What is known of a subtree without looking inside. -/
structure Subtree.Summary where
  symbol : Nat
  /-- The production that built the node. -/
  production : Option Nat := none
  /-- Where the blanks before the subtree start. -/
  padding : Nat
  start : Nat
  stop : Nat
  isExtra : Bool := false
  isMissing : Bool := false
  isKeyword : Bool := false
  isVisible : Bool := false
  errorCost : Nat := 0
  weight : Int := 0
  /-- Number of children that are shown, hidden children replaced by theirs. -/
  visibleChildren : Nat := 0
  /-- Number of nodes below that are shown. -/
  visibleDescendants : Nat := 0
  childCount : Nat := 0
  deriving Inhabited

/-- A node under construction. -/
inductive Subtree where
  | node (summary : Subtree.Summary) (children : List Subtree)

namespace Subtree

instance : Inhabited Subtree := ⟨.node default []⟩

/-- What is known of the subtree. -/
def summary : Subtree → Summary
  | .node s _ => s

/-- The parts of the subtree. -/
def children : Subtree → List Subtree
  | .node _ cs => cs

/-- Changes what is known of the subtree. -/
def withSummary (f : Summary → Summary) : Subtree → Subtree
  | .node s cs => .node (f s) cs

/-- Whether the subtree is skipped input. -/
def isError (t : Subtree) : Bool := t.summary.symbol = errorSymbol

/-- Whether the subtree is the end of the text. -/
def isEnd (t : Subtree) : Bool := t.summary.symbol = 0

/-- Number of characters, blanks before it included. -/
def totalSize (t : Subtree) : Nat := t.summary.stop - t.summary.padding

/-- Number of nodes that count as progress. -/
def nodeCount (t : Subtree) : Nat :=
  t.summary.visibleDescendants + (if t.summary.isVisible then 1 else 0) +
    (if t.summary.symbol = errorRun then 1 else 0)

/-- The subtree of a lexeme. -/
def leaf (l : Language) (padding : Nat) (lexeme : Lexeme) : Subtree :=
  if lexeme.isUnreadable then
    .node
      { symbol := errorSymbol, padding, start := lexeme.start, stop := lexeme.stop,
        isVisible := true } []
  else
    .node
      { symbol := lexeme.symbol, padding, start := lexeme.start, stop := lexeme.stop
        isExtra := lexeme.symbol = 0
        isKeyword := lexeme.isKeyword
        isVisible := (l.terminals.getD lexeme.symbol default).isVisible } []

/-- A terminal supplied at a position where it is missing. -/
def missing (l : Language) (symbol position : Nat) : Subtree :=
  .node
    { symbol, padding := position, start := position, stop := position, isMissing := true
      isVisible := (l.terminals.getD symbol default).isVisible
      errorCost := missingCost + recoveryCost } []

/-- Whether a symbol is skipped input. -/
def isErrorSymbol (symbol : Nat) : Bool := symbol = errorSymbol || symbol = errorRun

/-- Whether nodes of a symbol are shown. -/
def isVisibleSymbol (l : Language) (symbol : Nat) : Bool :=
  if symbol = errorSymbol then true
  else if symbol = errorRun then false
  else if symbol < l.terminalCount then (l.terminals.getD symbol default).isVisible
  else (l.nonterminals.getD (symbol - l.terminalCount) default).isVisible

/-- Adds a child to what is known of its parent. `shown` says that the production shows the
child under a name of its own. -/
def Summary.addChild (parent : Summary) (child : Summary) (shown : Bool) : Summary :=
  let inError := isErrorSymbol parent.symbol
  let ownCost := if child.symbol = errorRun then 0 else child.errorCost
  let skipCost :=
    if inError && !child.isExtra && !(child.symbol = errorSymbol && child.childCount = 0) then
      if child.isVisible then skippedTreeCost
      else if 0 < child.childCount then skippedTreeCost * child.visibleChildren
      else 0
    else 0
  let visibleHere :=
    if shown && !child.isExtra && child.symbol ≠ 0 then 1
    else if child.isVisible then 1 else 0
  let visibleBelow := if visibleHere = 0 && 0 < child.childCount then child.visibleChildren else 0
  { parent with
    padding := if parent.childCount = 0 then child.padding else parent.padding
    start := if parent.childCount = 0 then child.start else parent.start
    stop := child.stop
    errorCost := parent.errorCost + ownCost + skipCost
    weight := parent.weight + child.weight
    visibleChildren := parent.visibleChildren + visibleHere + visibleBelow
    visibleDescendants := parent.visibleDescendants + child.visibleDescendants + visibleHere
    childCount := parent.childCount + 1 }

/-- Adds children one after the other, pairing those that are not extras with the steps of the
production. -/
def Summary.addChildren (parent : Summary) : List Subtree → List Step → Summary
  | [], _ => parent
  | c :: cs, steps =>
    let shown := match steps with
      | s :: _ => s.shown.isSome
      | [] => false
    let rest := if c.summary.isExtra then steps else steps.drop 1
    (parent.addChild c.summary shown).addChildren cs rest

/-- The subtree with these children. -/
def branch (l : Language) (source : Source) (symbol : Nat) (production : Option Nat)
    (position : Nat) (children : List Subtree) : Subtree :=
  let steps := match production with
    | some p => (l.production p).steps
    | none => []
  let empty : Summary :=
    { symbol, production, padding := position, start := position, stop := position
      isVisible := isVisibleSymbol l symbol }
  let full := empty.addChildren children steps
  let cost :=
    if isErrorSymbol symbol then
      recoveryCost + (source.byte full.stop - source.byte full.start) +
        skippedLineCost * (source.row full.stop - source.row full.start)
    else 0
  .node { full with errorCost := full.errorCost + cost } children

mutual

/-- Orders two subtrees by symbol, number of children, and the children in turn. -/
def compare : Subtree → Subtree → Ordering
  | .node s cs, .node t ds =>
    (Ord.compare s.symbol t.symbol).then <|
      (Ord.compare s.childCount t.childCount).then (compareAll cs ds)

/-- Orders two lists of subtrees by the first pair that differs. -/
def compareAll : List Subtree → List Subtree → Ordering
  | c :: cs, d :: ds => (compare c d).then (compareAll cs ds)
  | _, _ => .eq

end

end Subtree

end ChecklistReview.Grammar
