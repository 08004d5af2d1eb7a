import ChecklistReview.Log
import ChecklistReview.Source.Language
import ChecklistReview.TypeScript.Language

/-!
# Syntax of source files

A source file is parsed in the dialect that its name asks for. A text that does not fit the
grammar is refused, with the line of the first place that does not fit.

## Main definitions

* `SyntaxReader` is a way to parse; the usual one is `TypeScript.parse`.
* `SyntaxFault` is the refusal.
* `treeOf` gives the tree of any text.
* `soundTreeOf` gives the tree of a text without faults.
-/

namespace ChecklistReview.Source

/-- A way to parse texts of a dialect. -/
abbrev SyntaxReader := TypeScript.Dialect → Array Char → Tree

/-- A text does not fit the grammar. -/
structure SyntaxFault where
  path : Option Path
  /-- The line of the first fault, counted by line feeds. -/
  line : Option Nat
  deriving DecidableEq

/-- What is said of a fault. -/
def SyntaxFault.message (fault : SyntaxFault) : String :=
  let path := match fault.path with
    | some p => p.toString
    | none => "None"
  match fault.line with
  | some line => s!"Syntax error in {path}:{line}"
  | none => s!"Syntax error in {path}"

/-- The dialect of a file. -/
def dialectOf (path : Option Path) : TypeScript.Dialect :=
  if path.any mayHoldMarkup then .markup else .plain

/-- The tree of a text. -/
def treeOf (path : Option Path) (text : List Char) (parse : SyntaxReader := TypeScript.parse) :
    Logged Tree := do
  let tree := parse (dialectOf path) text.toArray
  if tree.label.hasError then
    Logged.log .debug .syntaxTree s!"Parse completed with errors: root={tree.kind}"
  else
    Logged.log .debug .syntaxTree s!"Parse succeeded: root={tree.kind}"
  pure tree

/-- A tree without faults, or its first fault. -/
def requireSound (path : Option Path) (tree : Tree) : Except SyntaxFault Tree :=
  if tree.label.hasError then
    .error { path, line := tree.firstBad?.map fun bad => bad.label.row + 1 }
  else .ok tree

/-- The tree of a text that fits the grammar. -/
def soundTreeOf (path : Option Path) (text : List Char)
    (parse : SyntaxReader := TypeScript.parse) : Logged (Except SyntaxFault Tree) := do
  let tree ← treeOf path text parse
  pure (requireSound path tree)

end ChecklistReview.Source
