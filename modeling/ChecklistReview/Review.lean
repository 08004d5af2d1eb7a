import ChecklistReview.Json.Inline
import ChecklistReview.LengthCheck
import ChecklistReview.PatternCheck
import ChecklistReview.Source.Reading
import ChecklistReview.StructureCheck

/-!
# Reviews

A review evaluates every rule on every file: file by file in the given order, and within a file
rule by rule. A file that cannot be read is skipped, and an evaluation that fails loses only
the findings of its rule in its file.

## Main definitions

* `Entry` is a file to review, and `Entry.ofJson` reads one.
* `Engine` is what a review is made with, and `Engine.standard` the usual one.
* `Report` is the outcome.
* `Engine.review` reviews entries and `Engine.reviewData` entries in data form.
-/

namespace ChecklistReview.Review

open Source

/-- A file to review. -/
inductive Entry where
  /-- A path to read. -/
  | path (path : Path)
  /-- A text that is known under a path. -/
  | text (path : Path) (text : String)
  deriving DecidableEq

/-- The path of an entry. -/
def Entry.file : Entry → Path
  | .path p => p
  | .text p _ => p

/-- Why a value is no entry. -/
inductive EntryFault where
  | shape (value : Json)
  | noPath (value : Json)
  | noText (value : Json)

/-- What is said of a value that is no entry. -/
def EntryFault.message : EntryFault → String
  | .shape value => s!"Expected a path or a (path, text) pair, got {value.inline}"
  | .noPath value => s!"expected str, bytes or os.PathLike object, not {value.sort}"
  | .noText value => s!"expected string or bytes-like object, got '{value.sort}'"

/-- The string of a value, if it is one. -/
def string? : Json → Option String
  | .str s => some s
  | .broken codes => some (Wording.ofCodes codes).shown
  | _ => none

/-- The entry of a pair. Without a text the path is read. -/
def Entry.ofPair (path text : Json) : Except EntryFault Entry :=
  match string? path, text with
  | none, _ => .error (.noPath path)
  | some p, .null => .ok (.path (Path.ofString p))
  | some p, text =>
    match string? text with
    | some s => .ok (.text (Path.ofString p) s)
    | none => .error (.noText text)

/-- The entry of a value: a path, a pair, or an object with two keys, which are a pair. -/
def Entry.ofJson : Json → Except EntryFault Entry
  | .str p => .ok (.path (Path.ofString p))
  | .broken codes => .ok (.path (Path.ofString (Wording.ofCodes codes).shown))
  | .array [p, s] => Entry.ofPair p s
  | .object [(p, _), (s, _)] => Entry.ofPair (.str p) (.str s)
  | value => .error (.shape value)

/-- What a review is made with. -/
structure Engine where
  read : Reader
  evaluate : Document → Rule → Logged (Except Log.Failure (List Finding))

/-- The evaluation of a rule by its kind. -/
def evaluateRule (document : Document) (rule : Rule) (parse : SyntaxReader := TypeScript.parse)
    (runtime : Runtime := {}) : Logged (Except Log.Failure (List Finding)) :=
  match rule.check with
  | .pattern source => PatternCheck.evaluate document rule source runtime.expressions
  | .structural name => StructureCheck.evaluate document rule name parse runtime
  | .fileLength most => do
    let findings ← LengthCheck.evaluateFile document rule most
    pure (.ok findings)
  | .lineLength most => do
    let findings ← LengthCheck.evaluateLines document rule most
    pure (.ok findings)

/-- The usual engine. -/
def Engine.standard (read : Reader) (parse : SyntaxReader := TypeScript.parse)
    (runtime : Runtime := {}) : Engine :=
  { read, evaluate := fun document rule => evaluateRule document rule parse runtime }

/-- The outcome of a review. -/
structure Report where
  findings : List Finding
  scanned : List Path
  skipped : List Path
  deriving DecidableEq

namespace Report

/-- Nothing. -/
def empty : Report := { findings := [], scanned := [], skipped := [] }

/-- One report after another. -/
def append (a b : Report) : Report :=
  { findings := a.findings ++ b.findings
    scanned := a.scanned ++ b.scanned
    skipped := a.skipped ++ b.skipped }

instance : Append Report := ⟨append⟩

end Report

namespace Engine

/-- The document of an entry, if it can be read. -/
def load (engine : Engine) : Entry → Logged (Option Document)
  | .text path text => do
    let document ← Document.load path text
    pure (some document)
  | .path path => do
    match ← readText engine.read path with
    | none => pure none
    | some text =>
      let document ← Document.load path text
      pure (some document)

/-- Notes an evaluation that failed. -/
def noteFailure (document : Document) (rule : Rule) (failure : Log.Failure) : Logged Unit :=
  { value := ()
    entries := [{ level := .error, component := .engine
                  message := s!"Rule {rule.identity} failed on {document.path}"
                  failure := some failure }] }

/-- The findings of a rule in a document. -/
def findingsOf (engine : Engine) (document : Document) (rule : Rule) : Logged (List Finding) := do
  match ← engine.evaluate document rule with
  | .ok findings => pure findings
  | .error failure => do
    noteFailure document rule failure
    pure []

/-- The report on one entry. -/
def examine (engine : Engine) (rules : List Rule) (entry : Entry) : Logged Report := do
  match ← engine.load entry with
  | none => pure { Report.empty with skipped := [entry.file] }
  | some document =>
    let findings ← Logged.forEach rules (engine.findingsOf document)
    pure { Report.empty with findings := findings.flatten, scanned := [entry.file] }

/-- The report on entries. -/
def examineAll (engine : Engine) (rules : List Rule) : List Entry → Logged Report
  | [] => pure Report.empty
  | entry :: rest => do
    let first ← engine.examine rules entry
    let others ← engine.examineAll rules rest
    pure (first ++ others)

/-- Notes that a review is complete. -/
def noteComplete (report : Report) : Logged Unit :=
  let found := s!"{report.findings.length} finding(s)"
  let files := s!"{report.scanned.length} file(s), {report.skipped.length} skipped"
  Logged.log .info .engine s!"Review complete: {found} in {files}"

/-- Reviews entries. -/
def review (engine : Engine) (rules : List Rule) (entries : List Entry) : Logged Report := do
  let report ← engine.examineAll rules entries
  noteComplete report
  pure report

/-- The entries of values up to the first that is none, and what is wrong with that one. -/
def readEntries : List Json → List Entry × Option EntryFault
  | [] => ([], none)
  | value :: rest =>
    match Entry.ofJson value with
    | .error fault => ([], some fault)
    | .ok entry => (entry :: (readEntries rest).1, (readEntries rest).2)

/-- Reviews entries in data form. A value that is no entry ends the review without a report,
after the entries before it were examined. -/
def reviewData (engine : Engine) (rules : List Rule) (data : List Json) :
    Logged (Except EntryFault Report) := do
  let report ← engine.examineAll rules (readEntries data).1
  match (readEntries data).2 with
  | some fault => pure (.error fault)
  | none => do
    noteComplete report
    pure (.ok report)

end Engine

end ChecklistReview.Review
