import ChecklistReview.NullCheck
import ChecklistReview.Rule
import ChecklistReview.Runtime
import ChecklistReview.Text.Quoted

/-!
# Rules on syntax trees

A rule on syntax trees names a property. The one that is known asks that the parameters of
functions are compared with missing values. A file that does not fit the grammar is passed
over, with a note in the log. A tree that is too deep for the calls that search it makes the
evaluation fail.
-/

namespace ChecklistReview.StructureCheck

open Source

/-- The property that is known. -/
def nullCheckName : String := "ensure_null_check"

/-- A name in a message. -/
def nameText : Option Wording → String
  | some name => name.quoted
  | none => "None"

/-- Whether the calls that scan a tree are nested deeper than there is room for. -/
def overruns (runtime : Runtime) (source : Array Char) (tree : Tree) : Bool :=
  runtime.searching.any (· < NullCheck.callDepth source tree)

/-- The findings of a rule on syntax trees, in document order. -/
def evaluate (document : Document) (rule : Rule) (name : Option Wording)
    (parse : SyntaxReader := TypeScript.parse) (runtime : Runtime := {}) :
    Logged (Except Log.Failure (List Finding)) :=
  if name ≠ some (.text nullCheckName) then do
    Logged.log .debug .nullCheckRule
      s!"Unknown AST rule {nameText name} in {rule.identity}; skipped"
    pure (.ok [])
  else if document.language ∈ syntaxLanguages && rule.appliesTo document.language then do
    let tree ← treeOf (some document.path) document.text parse
    if overruns runtime document.text.toArray tree then pure (.error .tooDeep)
    else
      match ← NullCheck.scanTree document tree with
      | .ok findings => pure (.ok findings)
      | .error fault => do
        Logged.log .warning .nullCheckRule s!"AST rule {rule.identity} skipped: {fault.message}"
        pure (.ok [])
  else pure (.ok [])

end ChecklistReview.StructureCheck
