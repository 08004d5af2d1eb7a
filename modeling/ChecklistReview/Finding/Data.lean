import ChecklistReview.Finding
import ChecklistReview.Json.Value
import ChecklistReview.Validation.Field

/-!
# Findings as data

How findings are read from records and written to them. Records keep a finding as an object;
members that are missing from a finding are left out.

## Main definitions

* `Finding.ofJson` reads a finding.
* `Finding.toJson` writes one.
-/

namespace ChecklistReview

open Validation

/-- A severity by its word. -/
def Severity.ofJson : Json → Checked Severity
  | .str s =>
    match Severity.ofName? s with
    | some severity => .valid severity
    | none => .problem .unknownChoice
  | _ => .problem .unknownChoice

namespace Finding

/-- A path. -/
def readPath : Json → Checked Path
  | .str s => .valid (Path.ofString s)
  | .broken codes => .valid (Path.ofString (Wording.ofCodes codes).shown)
  | _ => .problem .noPath

/-- The number of a line: a positive whole number. -/
def readLine (j : Json) : Checked { n : Nat // 1 ≤ n } :=
  (readInteger j).andThen fun n =>
    if h : 1 ≤ n.toNat then .valid ⟨n.toNat, h⟩ else .problem .tooSmall

/-- A finding with a line number. -/
def make (ruleId description : Wording) (severity : Severity) (isFixable : Bool) (file : Path)
    (line : { n : Nat // 1 ≤ n }) (snippet : Wording) (found language : Option Wording) : Finding :=
  { ruleId, description, severity, isFixable, file, line := line.val
    one_le_line := line.property, snippet, found, language }

/-- A finding from the members of an object. -/
def ofObject (data : Json) : Checked Finding :=
  make
    <$> required data "ruleId" "rule_id" readText
    <*> required data "description" "description" readText
    <*> withDefault data "severity" "severity" .warning Severity.ofJson
    <*> withDefault data "autoFixable" "auto_fixable" false readTruth
    <*> required data "file" "file" readPath
    <*> required data "line" "line" readLine
    <*> withDefault data "snippet" "snippet" (.text "") readText
    <*> withDefault data "match" "match" none (optional readText)
    <*> withDefault data "language" "language" none (optional readText)

/-- A finding from data. -/
def ofJson : Json → Checked Finding
  | .object members => ofObject (.object members)
  | _ => .problem .noRecord

/-- A finding as data. -/
def toJson (f : Finding) : Json :=
  .object ([("ruleId", .ofWording f.ruleId), ("description", .ofWording f.description),
    ("severity", .str f.severity.name), ("autoFixable", .bool f.isFixable),
    ("file", .str f.file.toString), ("line", .int f.line), ("snippet", .ofWording f.snippet)] ++
    (f.found.map fun s => ("match", Json.ofWording s)).toList ++
    (f.language.map fun s => ("language", Json.ofWording s)).toList)

end Finding

end ChecklistReview
