import ChecklistReview.FileTree
import ChecklistReview.Layout.Markup
import ChecklistReview.Layout.Panel
import ChecklistReview.Report.Summary

/-!
# How a report is shown

A report is shown as lines of a given width: a table for each file, a table of the files and a
panel with the counts. The checklist is shown as one table.

## Main definitions

* `showFindings` shows the findings of a review.
* `showChecklist` shows rules.
* `shortPath` shows a path below a root.
* `styleOf` is the style of a severity.
-/

namespace ChecklistReview.Report

open Layout

/-! ### Styles -/

/-- The style of a severity. -/
def severityStyle : Severity → String
  | .blocking => "bold white on red"
  | .error => "bold red"
  | .major => "bold magenta"
  | .warning => "bold yellow"
  | .info => "bold blue"

/-- A character in lower case, as far as it may stand in the word for a severity. -/
def lowerLetter (c : Char) : Char := if c.toNat = 0x212a then 'k' else c.toLower

/-- The style of a word for a severity in any case. -/
def styleOf (word : String) : String :=
  let lower := String.ofList (word.toList.map lowerLetter)
  ((Severity.ofName? lower).map severityStyle).getD "bold white"

/-! ### Paths -/

/-- A path as text: below the root if it lies there, and with slashes otherwise. Both are taken
without links. -/
def shortPath (tree : FileTree) (root : Option Path) (path : String) : String :=
  let plain := String.ofList (path.toList.map fun c => if c = '\\' then '/' else c)
  match root with
  | none => plain
  | some root =>
    match (tree.realPath (Path.ofString path)).relativeTo? (tree.realPath root) with
    | some below => below.toString
    | none => plain

/-! ### Findings -/

/-- How a report is shown. -/
structure Settings where
  tree : FileTree
  root : Option Path := none
  width : Nat := 100
  /-- Whether fixes are shown. -/
  isVerbose : Bool := false

/-- A text in a table. -/
def cell (text : String) : List Char := clean text.toList

/-- The row for a finding. -/
def findingRow (f : Finding) : List (List Char) :=
  let mark := if f.isFixable then " *" else ""
  [cell (ToString.toString f.line), cell f.severity.heading, cell s!"[{f.ruleId}]{mark}",
    cell f.description.shown, cell f.snippet.shown]

/-- The table of the findings of a file. -/
def findingTable (findings : List Finding) : Table :=
  { frame := .simple
    columns :=
      [{ heading := "Line", justify := .right, fixed := some 5 },
        { heading := "Severity", fixed := some 9 }, { heading := "Rule", fixed := some 14 },
        { heading := "Description" }, { heading := "Snippet" }]
    rows := findings.map findingRow }

/-- The lines of a table that stands alone. -/
def tableLines (width : Nat) (table : Table) : List (List Char) :=
  (table.render width).map fun line =>
    if Text.width line ≤ width then line else Text.fit width line

/-- The lines for a fix. -/
def fixLines (width : Nat) (identity template : Wording) : List (List Char) :=
  let label := Markup.escape s!"[{identity}]".toList
  wrap width .fold .natural (Markup.plainText
    ("  [dim]\\[Fix][/dim] ".toList ++ label ++ " -> ".toList ++ Markup.escape template.toList))

/-- The heading of a file. -/
def fileHeading (settings : Settings) (file : Path) : List (List Char) :=
  let short := shortPath settings.tree settings.root file.toString
  Panel.renderText { frame := .simple } settings.width (Markup.plainText
    ("[bold cyan]".toList ++ Markup.escape short.toList ++ "[/bold cyan]".toList))

/-- The lines for the fixes of a file. -/
def fixesLines (settings : Settings) (offered : List (Wording × Wording))
    (findings : List Finding) : List (List Char) :=
  let found := if settings.isVerbose then fixes offered findings else []
  let lines := found.flatMap fun (identity, template) => fixLines settings.width identity template
  if found.isEmpty then [] else lines ++ [[]]

/-- The lines for a file. -/
def sectionLines (settings : Settings) (offered : List (Wording × Wording)) (s : FileSection) :
    List (List Char) :=
  [[]] ++ fileHeading settings s.file ++ tableLines settings.width (findingTable s.findings) ++
    fixesLines settings offered s.findings

/-- The row for a file. -/
def fileTableRow (settings : Settings) (row : FileRow) : List (List Char) :=
  [cell (shortPath settings.tree settings.root row.file.toString),
    cell (if row.count = 0 then "OK" else "ISSUES"), cell (ToString.toString row.count)]

/-- The table of the files. -/
def fileTable (settings : Settings) (rows : List FileRow) : Table :=
  { title := some "Files Summary"
    frame := .rounded
    columns :=
      [{ heading := "File" }, { heading := "Status", fixed := some 8 },
        { heading := "Findings", justify := .right, fixed := some 8 }]
    rows := rows.map (fileTableRow settings) }

/-- The lines for the files, if there are any. -/
def filesLines (settings : Settings) (findings : List Finding) (scanned : List Path) :
    List (List Char) :=
  if scanned.isEmpty then []
  else
    let table := fileTable settings (fileRows findings scanned)
    [] :: Panel.render { frame := .rounded } settings.width
      (table.render (Panel.innerWidth settings.width))

/-- Shows the findings of a review. -/
def showFindings (settings : Settings) (findings : List Finding) (scanned : List Path)
    (rules : List Rule) : List (List Char) :=
  if findings.isEmpty then
    Panel.renderText { frame := .rounded, title := some "Code Review" } settings.width
      "No issues found.".toList ++ filesLines settings [] scanned
  else
    (sections findings).flatMap (sectionLines settings (templates rules)) ++
      filesLines settings findings scanned ++ [[]] ++
      Panel.renderText { frame := .rounded, title := some "Summary" } settings.width
        (summaryText findings).toList

/-! ### Checklists -/

/-- The row for a rule. -/
def ruleRow (findings : List Finding) (rule : Rule) : List (List Char) :=
  let title := ((Rule.nonempty? rule.title).or rule.description).getD ""
  [cell rule.identity.shown, cell rule.kind.name,
    cell ((rule.severity.map Severity.heading).getD ""),
    cell (if rule.canFix then "yes" else ""), cell (ToString.toString (countOf findings rule)),
    cell title.shown]

/-- The table of a checklist. -/
def ruleTable (rules : List Rule) (findings : List Finding) : Table :=
  { title := some "Checklist"
    frame := .rounded
    columns :=
      [{ heading := "Rule" }, { heading := "Kind" }, { heading := "Severity", fixed := some 9 },
        { heading := "Auto-fix", justify := .center, fixed := some 8 },
        { heading := "Findings", justify := .right, fixed := some 8 },
        { heading := "Description" }]
    rows := rules.map (ruleRow findings) }

/-- Shows a checklist with the numbers of findings. -/
def showChecklist (width : Nat) (rules : List Rule) (findings : List Finding) :
    List (List Char) :=
  if rules.isEmpty then wrap width .fold .natural "No checklist items found.".toList
  else tableLines width (ruleTable rules findings)

end ChecklistReview.Report
