import ChecklistReview.Rule
import ChecklistReview.Source.Document

/-!
# Length rules

Rules on the number of lines of a file and on the length of its lines. A rule without a
threshold, or with the threshold zero, asks for nothing.

## Main definitions

* `evaluateFile` reports a file with too many lines, at its first line.
* `evaluateLines` reports each line that is too long.
-/

namespace ChecklistReview.LengthCheck

open Source

/-- The threshold of a rule, if it asks for something. -/
def threshold? (most : Option Int) : Option Int := most.filter (· ≠ 0)

/-- The finding for a file with too many lines. -/
def findingForFile (document : Document) (rule : Rule) : Finding :=
  { ruleId := rule.identity
    description := (Rule.nonempty? rule.description).getD (.text "File exceeds maximum line count")
    severity := rule.severity.getD .info
    isFixable := false
    file := document.path
    line := 1
    one_le_line := Nat.le_refl 1
    snippet := s!"File has {document.lineCount} lines"
    found := none
    language := some document.language }

/-- The finding of a file rule, if the file has too many lines. -/
def evaluateFile (document : Document) (rule : Rule) (most : Option Int) :
    Logged (List Finding) :=
  match threshold? most with
  | none => do
    Logged.log .debug .metricRule s!"Rule {rule.identity} has no maxLines; skipped"
    pure []
  | some most =>
    if rule.appliesTo document.language && most < document.lineCount then
      pure [findingForFile document rule]
    else pure []

/-- The finding for a line that is too long. -/
def findingForLine (document : Document) (rule : Rule) (line : List Char) (index : Nat) :
    Finding :=
  { ruleId := rule.identity
    description := (Rule.nonempty? rule.description).getD (.text "Line too long")
    severity := rule.severity.getD .warning
    isFixable := false
    file := document.path
    line := index + 1
    one_le_line := Nat.le_add_left 1 index
    snippet := String.ofList (Text.strip line)
    found := none
    language := some document.language }

/-- The findings for the lines that are longer than `most`, for lines that are numbered from
`index` on. -/
def longLines (document : Document) (rule : Rule) (most : Int) : Nat → List (List Char) →
    List Finding
  | _, [] => []
  | index, line :: rest =>
    if most < line.length then
      findingForLine document rule line index :: longLines document rule most (index + 1) rest
    else longLines document rule most (index + 1) rest

/-- The findings of a line rule, from top to bottom. -/
def evaluateLines (document : Document) (rule : Rule) (most : Option Int) :
    Logged (List Finding) :=
  match threshold? most with
  | none => do
    Logged.log .debug .metricRule s!"Rule {rule.identity} has no maxLength; skipped"
    pure []
  | some most =>
    if rule.appliesTo document.language then pure (longLines document rule most 0 document.lines)
    else pure []

end ChecklistReview.LengthCheck
