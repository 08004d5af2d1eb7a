import ChecklistReview.Artifact
import ChecklistReview.Checklist
import ChecklistReview.Report.Display
import ChecklistReview.Review

/-!
# Sessions

A session keeps rules, texts and the findings of the last scan, so that findings can be mended
one after another. Findings are not renewed by a fix: the next scan does that.

## Main definitions

* `Session` is what is kept.
* `Session.scan` renews the findings.
* `Session.fix` mends a finding.
* `Session.reload` writes the findings to an artifact and reads them back.
-/

namespace ChecklistReview

/-- What is kept between the steps of a session. -/
structure Session where
  rules : List Rule := []
  /-- Texts by the paths under which they were given, in the order in which they came. -/
  files : List (String × String) := []
  findings : List Finding := []

namespace Session

/-- Adds a text, or replaces the one with the same path in its place. -/
def setFile (path text : String) : List (String × String) → List (String × String)
  | [] => [(path, text)]
  | (p, old) :: rest => if p = path then (p, text) :: rest else (p, old) :: setFile path text rest

/-- Adds or replaces a text. -/
def put (s : Session) (path text : String) : Session :=
  { s with files := setFile path text s.files }

/-- Removes a text. -/
def remove (s : Session) (path : String) : Session :=
  { s with files := s.files.filter fun file => file.1 ≠ path }

/-- The number of lines of a text. -/
def lineCount (text : String) : Nat := (Text.splitLines text.toList).length

/-- The paths of the texts. -/
def paths (s : Session) : List Path := s.files.map fun file => Path.ofString file.1

/-- No file can be read. -/
def noReader : Source.Reader := fun _ => .error .notFound

/-- Renews the findings. -/
def scan (s : Session) : Logged Session := do
  let entries := s.files.map fun (path, text) => Review.Entry.text (Path.ofString path) text
  let report ← (Review.Engine.standard noReader).review s.rules entries
  pure { s with findings := report.findings }

/-- Why a finding cannot be mended in a session. -/
inductive Fault where
  | noFinding
  | noFile (path : String)
  | unavailable (cause : Fix.Unavailable)

/-- What is said of a fault. -/
def Fault.message : Fault → String
  | .noFinding => "list index out of range"
  | .noFile path => Text.quoted path
  | .unavailable cause => cause.message

/-- A finding by its index, which counts from the end if it is negative. -/
def finding? (s : Session) (index : Int) : Option Finding :=
  let n := if index < 0 then index + s.findings.length else index
  if 0 ≤ n then s.findings[n.toNat]? else none

/-- Mends a finding with the current rule of its identity in the current text of its file. -/
def fix (s : Session) (index : Int) : Logged (Except Fault (Session × Fix.Result Char)) :=
  match s.finding? index with
  | none => pure (.error .noFinding)
  | some finding =>
    let path := finding.file.toString
    match s.files.lookup path with
    | none => pure (.error (.noFile path))
    | some text => do
      match ← Fix.applyFix finding (Fix.findRule? s.rules finding.ruleId) text.toList with
      | .error cause => pure (.error (.unavailable cause))
      | .ok result => pure (.ok (s.put path (String.ofList result.text), result))

/-- The text of an artifact with the findings, and whether they read back. -/
def reload (s : Session) (generatedAt : Timestamp) (scope : Scope) : String × Bool :=
  let text := (Artifact.mk generatedAt scope s.findings).toText
  match Artifact.ofBytes (Text.Utf8.encode text.toList) with
  | .ok artifact => (text, artifact.findings = s.findings)
  | .error _ => (text, false)

end Session

end ChecklistReview
