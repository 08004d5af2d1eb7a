import ChecklistReview.Checklist
import ChecklistReview.Command.Request
import ChecklistReview.Fix
import ChecklistReview.Report.Display
import ChecklistReview.Review
import ChecklistReview.Traversal

/-!
# Running commands

A command runs on a file tree and gives what it prints, how it ends and the file tree after it. A
line that cannot be printed ends the command where it stands.

## Main definitions

* `Output` is where lines are printed.
* `Environment` is what a command runs in.
* `Outcome` is what a command gives.
* `runReview`, `runRules` and `runFix` run the commands.
* `run` runs a command line.
-/

namespace ChecklistReview.Command

/-- Where lines are printed. A line may be refused, with the reason; it is told how many lines have
been printed before it. -/
abbrev Output := Nat → List Char → Option String

namespace Output

/-- Every line is printed. -/
def free : Output := fun _ _ => none

/-- The lines that are printed up to the first that is refused, and the reason. -/
def print (output : Output) (count : Nat) : List (List Char) → List (List Char) × Option String
  | [] => ([], none)
  | line :: rest =>
    match output count line with
    | some reason => ([], some reason)
    | none => (line :: (output.print (count + 1) rest).1, (output.print (count + 1) rest).2)

end Output

/-- What a command runs in. -/
structure Environment where
  tree : FileTree
  /-- What is refused: listing directories, and reading and writing sources. -/
  access : FileTree.Access := .free
  /-- The standard output. -/
  output : Output := .free
  /-- The width of the screen. -/
  width : Nat := 100
  runtime : Runtime := {}
  /-- The present time. -/
  now : Timestamp

/-- A failure that ends a command unexpectedly. -/
inductive Failure where
  | checklist (fault : Checklist.Fault)
  | file (fault : FileTree.Fault) (path : Path)
  /-- A text has halves of characters, which cannot be written. -/
  | encoding (fault : Text.Utf8.Unencodable)
  /-- A line is refused. -/
  | output (reason : String)

/-- What is said of a failure. -/
def Failure.message : Failure → String
  | .checklist fault => fault.message
  | .file fault path => fault.message path
  | .encoding fault => fault.message
  | .output reason => reason

/-- How a command ends. -/
inductive Ending where
  /-- The command has done its work. -/
  | finished
  /-- The command has said why it cannot do its work. -/
  | stopped
  /-- The command line is wrong. -/
  | refused (fault : Fault)
  /-- The command has failed. -/
  | failed (failure : Failure)

/-- The status that a command ends with. -/
def Ending.status : Ending → Nat
  | .finished => 0
  | .stopped => 1
  | .refused _ => 2
  | .failed _ => 1

/-- What a command gives. -/
structure Outcome where
  /-- The lines of the standard output. -/
  output : List (List Char) := []
  /-- The lines of the standard error output. -/
  errors : List (List Char) := []
  ending : Ending
  /-- The file tree after the command. -/
  tree : FileTree

/-- Prints lines before the end. A line that is refused makes the command fail. -/
def Outcome.print (outcome : Outcome) (output : Output) (lines : List (List Char)) : Outcome :=
  match output.print outcome.output.length lines with
  | (printed, none) => { outcome with output := outcome.output ++ printed }
  | (printed, some reason) =>
    { outcome with output := outcome.output ++ printed, ending := .failed (.output reason) }

namespace Environment

/-- The command ends after printing lines, and has changed nothing. -/
def finish (env : Environment) (lines : List (List Char)) (ending : Ending := .finished) :
    Outcome :=
  Outcome.print { ending, tree := env.tree } env.output lines

/-- The command says why it cannot do its work. -/
def stop (env : Environment) (reason : String) : Outcome :=
  { errors := [reason.toList], ending := .stopped, tree := env.tree }

/-- The command line is wrong. -/
def refuse (env : Environment) (fault : Fault) : Outcome :=
  { ending := .refused fault, tree := env.tree }

/-- The command fails. -/
def fail (env : Environment) (failure : Failure) : Outcome :=
  { ending := .failed failure, tree := env.tree }

/-- The checklist of a workspace: the one that is given, or the one with the usual name. -/
def checklistPath (root : Path) (given : Option Path) : Path :=
  given.getD (root.child Checklist.fileName)

/-- The artifact of a file. -/
def loadArtifact (env : Environment) (path : Path) : Except Fault Artifact :=
  match env.tree.read path with
  | .error fault => .error (.badValue [] (.unreadableArtifact path (.file fault path)))
  | .ok bytes =>
    match Artifact.ofBytes bytes with
    | .error fault => .error (.badValue [] (.unreadableArtifact path (.content fault)))
    | .ok artifact => .ok artifact

end Environment

open Environment

/-! ### Reviews -/

/-- What is reviewed. -/
structure Selection where
  root : Path
  files : List Path
  scope : Scope

/-- The files of a target: a file alone, or those of a directory. -/
def select (env : Environment) (target : Path) : Logged Selection :=
  if env.tree.isFile target then
    pure { root := target.parent, files := [target], scope := .singleFile }
  else do
    let files := match ← Traversal.files env.tree env.access {} target with
      | .ok files => files
      | .error _ => []
    if files.isEmpty then
      Logged.log .warning .command s!"No reviewable files found under {target}"
    pure { root := target, files, scope := .workspace }

/-- What is said of files that could not be read. -/
def skippedLines (skipped : List Path) : List (List Char) :=
  if skipped.isEmpty then [] else [s!"Skipped {skipped.length} unreadable file(s).".toList]

/-- The last line of a review. -/
def closingLine (scope : Scope) (count : Nat) : List Char :=
  s!"Review complete ({scope.name}): {count} issue(s).".toList

/-- Writes the artifact of a review, and tells where. -/
def keepArtifact (env : Environment) (selection : Selection) (findings : List Finding) :
    Logged (Except Failure (FileTree × List Char)) :=
  let path := selection.root.child Artifact.fileName
  let artifact : Artifact := { generatedAt := env.now, scope := selection.scope, findings }
  match env.tree.write path (Text.Utf8.encode artifact.toText.toList) with
  | .error fault => pure (.error (.file fault path))
  | .ok tree => do
    Logged.log .info .artifact s!"Wrote {findings.length} finding(s) to {path}"
    pure (.ok (tree, s!"Artifact written to {path}".toList))

/-- Reviews what is selected by rules. -/
def reviewSelection (env : Environment) (selection : Selection) (rules : List Rule)
    (keepsArtifact isVerbose : Bool) : Logged Outcome := do
  let read := Source.readerOf env.tree env.access
  let engine := Review.Engine.standard read TypeScript.parse env.runtime
  let report ← engine.review rules (selection.files.map Review.Entry.path)
  let settings : Report.Settings :=
    { tree := env.tree, root := some selection.root, width := env.width, isVerbose }
  let shown := env.finish (Report.showFindings settings report.findings report.scanned rules)
  match shown.ending with
  | .finished =>
    let told := { shown with errors := skippedLines report.skipped }
    let closing := closingLine selection.scope report.findings.length
    if keepsArtifact then
      match ← keepArtifact env selection report.findings with
      | .error failure => pure { told with ending := .failed failure }
      | .ok (tree, line) => pure (Outcome.print { told with tree } env.output [line, closing])
    else pure (told.print env.output [closing])
  | _ => pure shown

/-- Runs a review. -/
def runReview (env : Environment) (target : Path) (checklist : Option Path)
    (keepsArtifact isVerbose : Bool) : Logged Outcome := do
  let selection ← select env target
  let path := checklistPath selection.root checklist
  match ← Checklist.load env.tree.read path env.runtime with
  | .error fault => pure (env.fail (.checklist fault))
  | .ok rules =>
    if rules.isEmpty then
      pure (env.finish [s!"No checklist items found in {path}".toList] .stopped)
    else if selection.files.isEmpty then
      pure (env.finish ["No files found to review.".toList])
    else reviewSelection env selection rules keepsArtifact isVerbose

/-! ### Rules -/

/-- Shows the rules of a checklist. -/
def runRules (env : Environment) (root : Path) (checklist artifact : Option Path) :
    Logged Outcome := do
  match ← Checklist.load env.tree.read (checklistPath root checklist) env.runtime with
  | .error fault => pure (env.fail (.checklist fault))
  | .ok rules =>
    match artifact with
    | none => pure (env.finish (Report.showChecklist env.width rules []))
    | some path =>
      match env.loadArtifact path with
      | .error fault => pure (env.refuse fault)
      | .ok artifact => pure (env.finish (Report.showChecklist env.width rules artifact.findings))

/-! ### Fixes -/

/-- The lines that tell of a fix. -/
def fixLines (finding : Finding) (edit : Fix.Edit Text.Utf8.Letter) : List (List Char) :=
  [s!"Applied auto-fix for {finding.ruleId} at {finding.file}:{edit.line}".toList,
    "  - ".toList ++ Text.Utf8.printable edit.before,
    "  + ".toList ++ Text.Utf8.printable edit.replacement]

/-- Writes a source. -/
def writeSource (env : Environment) (path : Path) (bytes : List UInt8) :
    Except FileTree.Fault FileTree :=
  match env.access.writing path with
  | some fault => .error fault
  | none => env.tree.write path bytes

/-- Mends a finding by the rules of a checklist. Bytes that are no characters are kept. The lines
that tell of the fix are printed after the source is written. -/
def fixFinding (env : Environment) (finding : Finding) (rules : List Rule) : Logged Outcome := do
  match ← Source.readBytes (Source.readerOf env.tree env.access) finding.file with
  | none => pure (env.stop s!"Cannot read {finding.file}")
  | some bytes =>
    let rule := Fix.findRule? rules finding.ruleId
    match ← Fix.applyFix finding rule (Text.Utf8.decodeKeeping bytes) with
    | .error unavailable => pure (env.stop unavailable.message)
    | .ok result =>
      match Text.Utf8.unencodable? result.text with
      | some fault => pure (env.fail (.encoding fault))
      | none =>
        match writeSource env finding.file (Text.Utf8.encodeLetters result.text) with
        | .error fault =>
          pure (env.stop s!"Cannot write {finding.file}: {fault.message finding.file}")
        | .ok tree =>
          let lines := fixLines finding result.edit
          pure (Outcome.print { ending := .finished, tree } env.output lines)

/-- Mends a finding of an artifact. -/
def runFix (env : Environment) (path : Path) (index : Nat) (checklist : Option Path) :
    Logged Outcome := do
  match env.loadArtifact path with
  | .error fault => pure (env.refuse fault)
  | .ok artifact =>
    match artifact.findings[index]? with
    | none =>
      pure (env.refuse (.badValue [] (.noFinding artifact.findings.length index)))
    | some finding =>
      match ← Checklist.load env.tree.read (checklistPath path.parent checklist) env.runtime with
      | .error fault => pure (env.fail (.checklist fault))
      | .ok rules => fixFinding env finding rules

/-! ### Command lines -/

/-- Runs what is asked for. -/
def runRequest (env : Environment) : Request → Logged Outcome
  | .review target checklist keepsArtifact isVerbose =>
    runReview env target checklist keepsArtifact isVerbose
  | .rules root checklist artifact => runRules env root checklist artifact
  | .fix artifact index checklist => runFix env artifact index checklist
  | .help usage => pure (env.finish ["Usage:".toList, usage.toList])

/-- The environment in which debug messages are written if that is asked for. -/
def Environment.atLevel (env : Environment) (isDebug : Bool) : Environment :=
  { env with runtime := { env.runtime with level := if isDebug then .debug else .warning } }

/-- Runs a command line. -/
def run (env : Environment) (words : List String) : Logged Outcome :=
  match Invocation.read env.tree words with
  | .error fault => pure (env.refuse fault)
  | .ok invocation => runRequest (env.atLevel invocation.isDebug) invocation.request

end ChecklistReview.Command
