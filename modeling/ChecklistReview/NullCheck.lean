import ChecklistReview.Finding
import ChecklistReview.Guard
import ChecklistReview.Source.Document
import ChecklistReview.Source.Syntax

/-!
# Parameters without a check for missing values

A parameter of a function is guarded if some condition of an `if` in the function's body
compares it with `null` or `undefined`. Each function is judged by its own body, which includes
the functions in it.

## Main definitions

* `parameters` are the parameters of a function that have a single name.
* `isGuarded` looks for a guard below a node.
* `unguarded` lists the unguarded parameters of a tree in document order.
* `scan` reports them as findings.
* `callDepth` is how deep the calls of a scan are nested.
-/

namespace ChecklistReview.NullCheck

open Text Source

/-- The kinds of nodes that are functions. -/
def functionKinds : List String :=
  ["function_declaration", "function_expression", "function", "generator_function_declaration",
    "generator_function", "arrow_function", "method_definition"]

/-- Whether a node is a function, and not a word of that name. -/
def isFunction (t : Tree) : Bool := t.label.isNamed && t.kind ∈ functionKinds

/-- The text of a node. -/
def textOf (source : Array Char) (t : Tree) : List Char :=
  (source.extract t.label.start t.label.stop).toList

/-- Whether a node is an `if` whose condition guards a name. -/
def guardsHere (source : Array Char) (name : List Char) (t : Tree) : Bool :=
  t.kind = "if_statement" &&
    (t.child? "condition").any fun condition => Guard.isIn name (textOf source condition)

mutual

/-- Whether a name is guarded at a node or below it. -/
def isGuarded (source : Array Char) (name : List Char) : Tree → Bool
  | .node l cs => guardsHere source name (.node l cs) || isGuardedAmong source name cs

/-- Whether a name is guarded in one of the trees. -/
def isGuardedAmong (source : Array Char) (name : List Char) : List Tree → Bool
  | [] => false
  | t :: ts => isGuarded source name t || isGuardedAmong source name ts

end

mutual

/-- How deep a guard is searched for. -/
def guardDepth (source : Array Char) (name : List Char) : Tree → Nat
  | .node l cs =>
    if guardsHere source name (.node l cs) then 1 else guardDepthAmong source name cs + 1

/-- How deep a guard is searched for in the trees. -/
def guardDepthAmong (source : Array Char) (name : List Char) : List Tree → Nat
  | [] => 0
  | t :: ts =>
    if isGuarded source name t then guardDepth source name t
    else max (guardDepth source name t) (guardDepthAmong source name ts)

end

/-- A node if it is an identifier. -/
def identifier? (t : Tree) : Option Tree := if t.kind = "identifier" then some t else none

/-- The identifier of a parameter that has a single name. Patterns and rest parameters have
none. -/
def simpleName? (parameter : Tree) : Option Tree :=
  if parameter.kind = "identifier" then some parameter
  else if parameter.kind = "required_parameter" ∨ parameter.kind = "optional_parameter" then
    (parameter.child? "pattern").bind identifier?
  else if parameter.kind = "assignment_pattern" then
    (parameter.child? "left").bind identifier?
  else none

/-- Whether a method is neither a constructor nor an accessor. -/
def isPlainMethod (source : Array Char) (method : Tree) : Bool :=
  !((method.child? "name").any fun name => textOf source name = "constructor".toList) &&
    !(method.children.any fun c => !c.label.isNamed && (c.kind = "get" || c.kind = "set"))

/-- The parameters of a function that have a single name, in order. -/
def parameters (function : Tree) : List Tree :=
  match function.child? "parameter" with
  | some single => (identifier? single).toList
  | none =>
    match function.child? "parameters" with
    | some list => list.namedChildren.filterMap simpleName?
    | none => []

/-- Whether the parameters of a function are checked. -/
def isChecked (source : Array Char) (function : Tree) : Bool :=
  isFunction function &&
    (function.kind ≠ "method_definition" || isPlainMethod source function)

/-- How deep the guards of a function's parameters are searched for. -/
def guardDepths (source : Array Char) (function : Tree) : List Nat :=
  if isChecked source function then
    match function.child? "body" with
    | some body => (parameters function).map fun p => guardDepth source (textOf source p) body
    | none => []
  else []

/-- The unguarded parameters of a function. -/
def unguardedOf (source : Array Char) (function : Tree) : List Tree :=
  if isChecked source function then
    match function.child? "body" with
    | some body => (parameters function).filter fun p => !isGuarded source (textOf source p) body
    | none => []
  else []

/-- The unguarded parameters of a tree, function by function in document order. -/
def unguarded (source : Array Char) (tree : Tree) : List Tree :=
  tree.walk.flatMap (unguardedOf source)

/-- The identity under which unguarded parameters are reported. -/
def ruleId : String := "C2"

/-- The finding for an unguarded parameter. -/
def findingAt (document : Document) (parameter : Tree) : Finding :=
  let location := document.locate parameter.label.start
  let name := String.ofList (textOf document.text.toArray parameter)
  { ruleId := ruleId
    description := s!"Parameter '{name}' missing null/undefined check"
    severity := .warning
    isFixable := true
    file := document.path
    line := location.line
    one_le_line := location.one_le_line
    snippet := location.snippet
    found := some name
    language := some document.language }

/-- The findings of the tree of a document, in document order. -/
def scanTree (document : Document) (tree : Tree) : Logged (Except SyntaxFault (List Finding)) :=
  match requireSound (some document.path) tree with
  | .error fault => pure (.error fault)
  | .ok tree => do
    let findings := (unguarded document.text.toArray tree).map (findingAt document)
    Logged.log .debug .nullCheckRule
      s!"Null-check scan of {document.path}: {findings.length} finding(s)"
    pure (.ok findings)

/-- The findings of a document, in document order. -/
def scan (document : Document) (parse : SyntaxReader := TypeScript.parse) :
    Logged (Except SyntaxFault (List Finding)) := do
  let tree ← treeOf (some document.path) document.text parse
  scanTree document tree

/-- How deep the calls of a scan are nested: those that search for a fault of the tree, or those
that visit its nodes and, two for each node, those that search for guards. -/
def callDepth (source : Array Char) (tree : Tree) : Nat :=
  if tree.label.hasError then tree.badDepth
  else ((tree.walk.flatMap (guardDepths source)).map (2 * ·)).foldl max tree.height

/-- A function as an overview shows it. -/
structure FunctionSummary where
  kind : String
  /-- Number of the line, counted by line feeds. -/
  line : Nat
  isPlain : Bool
  parameters : List String
  /-- For each parameter whether the body guards it, and nothing without a body. -/
  guarded : List Bool

/-- The overview of a function. -/
def summarize (source : Array Char) (function : Tree) : FunctionSummary :=
  let names := (parameters function).map (textOf source)
  { kind := function.kind
    line := function.label.row + 1
    isPlain := function.kind ≠ "method_definition" || isPlainMethod source function
    parameters := names.map String.ofList
    guarded := match function.child? "body" with
      | some body => names.map fun name => isGuarded source name body
      | none => [] }

/-- The functions of a tree in document order. -/
def functionsOf (source : Array Char) (tree : Tree) : List FunctionSummary :=
  (tree.walk.filter isFunction).map (summarize source)

end ChecklistReview.NullCheck
