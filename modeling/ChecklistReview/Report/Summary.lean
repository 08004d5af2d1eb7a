import ChecklistReview.Fix
import ChecklistReview.Rule

/-!
# What a report says

The findings of a review are reported file by file, with the fixes that could be made, a list of
the files and counts of the findings. This module says what is reported; how it is shown is
decided elsewhere.

## Main definitions

* `sections` groups findings by file.
* `templates` are the fixes that rules offer.
* `fileRows` lists the files with their numbers of findings.
* `severityCounts` counts findings by severity.
-/

namespace ChecklistReview.Report

/-- The findings of one file. -/
structure FileSection where
  file : Path
  findings : List Finding

/-- Adds a finding to the section of its file, which is a new one at the end if there is none. -/
def addFinding (f : Finding) : List FileSection → List FileSection
  | [] => [{ file := f.file, findings := [f] }]
  | s :: rest =>
    if s.file.toString = f.file.toString then { s with findings := s.findings ++ [f] } :: rest
    else s :: addFinding f rest

/-- Findings grouped by file, in the order in which the files come up. -/
def sections (findings : List Finding) : List FileSection :=
  findings.foldl (fun sections f => addFinding f sections) []

/-- The templates of the rules that can fix, by identity. The first one of an identity counts. -/
def templates (rules : List Rule) : List (Wording × Wording) :=
  rules.filterMap fun rule =>
    if rule.isFixable then rule.template.map fun template => (rule.identity, template) else none

/-- The fixes for findings: each identity that has a template once, in the order in which the
identities come up. -/
def fixes (offered : List (Wording × Wording)) (findings : List Finding) :
    List (Wording × Wording) :=
  (findings.map Finding.ruleId).eraseDups.filterMap fun identity =>
    (offered.lookup identity).map fun template => (identity, template)

/-- The number of findings in a file. -/
def countIn (findings : List Finding) (file : Path) : Nat :=
  findings.countP fun f => f.file.toString = file.toString

/-- A file with its number of findings. -/
structure FileRow where
  file : Path
  count : Nat

/-- Files with findings come before those without, and among each other they are ordered by
their text. -/
def FileRow.inOrder (a b : FileRow) : Bool :=
  let aClean := a.count = 0
  let bClean := b.count = 0
  if aClean = bClean then !(decide (b.file.toString < a.file.toString)) else !aClean

/-- The files of a review with their numbers of findings, in order. -/
def fileRows (findings : List Finding) (scanned : List Path) : List FileRow :=
  (scanned.map fun file => { file, count := countIn findings file }).mergeSort FileRow.inOrder

/-- The severities from the most to the least serious. -/
def severityOrder : List Severity := [.blocking, .error, .major, .warning, .info]

/-- The severities that occur, with the number of their findings. -/
def severityCounts (findings : List Finding) : List (Severity × Nat) :=
  (severityOrder.map fun s => (s, findings.countP fun f => f.severity = s)).filter fun row =>
    row.2 ≠ 0

/-- The number of findings of a rule. -/
def countOf (findings : List Finding) (rule : Rule) : Nat :=
  findings.countP fun f => f.ruleId = rule.identity

/-- The words for counts of findings. -/
def summaryText (findings : List Finding) : String :=
  let total := findings.length
  let issues := if total = 1 then "1 issue" else s!"{total} issues"
  " | ".intercalate (issues :: (severityCounts findings).map fun (s, n) => s!"{n} {s.name}")

end ChecklistReview.Report
