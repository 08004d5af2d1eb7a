import ChecklistReview.Command.Words
import ChecklistReview.Validation.Field

/-!
# Requests

A command line asks for a review, for the rules of a checklist, or for a fix. Its values are
checked against the file tree before anything is done. The values of options come first, then
the arguments in order, and arguments that are too many come last.

## Main definitions

* `Request` is what a command line asks for.
* `Invocation.read` reads a command line.
-/

namespace ChecklistReview.Command

/-- What a command line asks for. -/
inductive Request where
  /-- A review of a file or of a directory. -/
  | review (target : Path) (checklist : Option Path) (keepsArtifact isVerbose : Bool)
  /-- The rules of a checklist, with the numbers of findings in an artifact. -/
  | rules (root : Path) (checklist artifact : Option Path)
  /-- A fix for a finding of an artifact. -/
  | fix (artifact : Path) (index : Nat) (checklist : Option Path)
  /-- How a command is used. -/
  | help (usage : String)

/-- A request, and whether all log entries are wanted. -/
structure Invocation where
  isDebug : Bool
  request : Request

/-! ### Options -/

/-- What the options of all commands set. -/
inductive Setting where
  | debug
  | help
  | checklist (path : String)
  | artifact (path : String)
  | keepsArtifact (value : Bool)
  | verbose
  deriving DecidableEq

/-- The option that asks how a command is used. -/
def helpChoice : Choice Setting := { long := ["--help"], effect := .plain .help }

/-- The option for a checklist. -/
def checklistChoice : Choice Setting :=
  { long := ["--checklist"], short := some 'c', effect := .valued .checklist }

/-- The options before the command. -/
def commonChoices : List (Choice Setting) :=
  [{ long := ["--debug"], effect := .plain .debug }, helpChoice]

/-- The options of a review. -/
def reviewChoices : List (Choice Setting) :=
  [checklistChoice, { long := ["--artifact"], effect := .plain (.keepsArtifact true) },
    { long := ["--no-artifact"], effect := .plain (.keepsArtifact false) },
    { long := ["--verbose"], short := some 'v', effect := .plain .verbose }, helpChoice]

/-- The options for showing rules. -/
def rulesChoices : List (Choice Setting) :=
  [checklistChoice,
    { long := ["--artifact"], short := some 'a', effect := .valued .artifact }, helpChoice]

/-- The options of a fix. -/
def fixChoices : List (Choice Setting) := [checklistChoice, helpChoice]

/-- The last value among settings. -/
def lastOf {α : Type} (get? : Setting → Option α) (settings : List Setting) : Option α :=
  (settings.filterMap get?).getLast?

/-- The checklist that settings name. -/
def checklistIn (settings : List Setting) : Option Path :=
  lastOf (fun
    | .checklist path => some (Path.ofString path)
    | _ => none) settings

/-! ### Values -/

/-- A defect of a path, if it does not lead to what it must lead to. -/
def pathDefect? (tree : FileTree) (target : Target) (path : Path) (text : String) :
    Option Defect :=
  if !tree.hasPath path then some (.absent target text)
  else if target = .directory && tree.isFile path then some (.isFile target text)
  else if target = .file && tree.isDirectory path then some (.isDirectory target text)
  else none

/-- The path without links of an argument. -/
def readPlace (tree : FileTree) (target : Target) (parameter text : String) :
    Except Fault Path :=
  let path := tree.realPath (Path.ofString text)
  match pathDefect? tree target path text with
  | some defect => .error (.badValue [parameter] defect)
  | none => .ok path

/-- The artifact that an option names. -/
def readArtifactOption (tree : FileTree) (text : String) : Except Fault Path :=
  let path := Path.ofString text
  let isMissing := text = "" || (text.toList.getLast? = some '/' && tree.isFile path)
  match if isMissing then some (.absent .file text) else pathDefect? tree .file path text with
  | some defect => .error (.badValue ["--artifact", "-a"] defect)
  | none => .ok path

/-- The position of a finding. -/
def readIndex (text : String) : Except Fault Nat :=
  match Validation.integerOfText text with
  | .valid (.ofNat n) => .ok n
  | .valid (.negSucc _) => .error (.badValue ["index"] .negative)
  | .invalid ({ problem := .hugeInteger, .. } :: _) => .error (.badValue ["index"] .hugeInteger)
  | .invalid _ => .error (.badValue ["index"] .noInteger)

/-- Refuses arguments that are too many. -/
def refuseExtra : List String → Except Fault Unit
  | [] => .ok ()
  | words => .error (.extraArguments words)

/-! ### Commands -/

/-- A review. -/
def readReview (tree : FileTree) (words : Words Setting) : Except Fault Request := do
  let target ← readPlace tree .any "target" (words.arguments.head?.getD ".")
  refuseExtra (words.arguments.drop 1)
  let keepsArtifact := (lastOf (fun
    | .keepsArtifact value => some value
    | _ => none) words.settings).getD true
  .ok (.review target (checklistIn words.settings) keepsArtifact
    (decide (Setting.verbose ∈ words.settings)))

/-- The rules of a checklist. -/
def readRules (tree : FileTree) (words : Words Setting) : Except Fault Request := do
  let artifact ← match lastOf (fun
      | .artifact path => some path
      | _ => none) words.settings with
    | none => .ok none
    | some text => (readArtifactOption tree text).map some
  let root ← readPlace tree .directory "root" (words.arguments.head?.getD ".")
  refuseExtra (words.arguments.drop 1)
  .ok (.rules root (checklistIn words.settings) artifact)

/-- A fix. -/
def readFix (tree : FileTree) (words : Words Setting) : Except Fault Request :=
  match words.arguments with
  | [] => .error (.noArgument "artifact")
  | [text] => do
    let _ ← readPlace tree .file "artifact" text
    .error (.noArgument "index")
  | text :: number :: rest => do
    let artifact ← readPlace tree .file "artifact" text
    let index ← readIndex number
    refuseExtra rest
    .ok (.fix artifact index (checklistIn words.settings))

/-- The commands. -/
inductive Name where
  | review
  | rules
  | fix
  deriving DecidableEq

/-- All commands. -/
def Name.all : List Name := [.review, .rules, .fix]

/-- The word for a command. -/
def Name.word : Name → String
  | .review => "review"
  | .rules => "rules"
  | .fix => "fix"

/-- The options of a command. -/
def Name.choices : Name → List (Choice Setting)
  | .review => reviewChoices
  | .rules => rulesChoices
  | .fix => fixChoices

/-- How a command is used. -/
def Name.usage : Name → String
  | .review =>
    "coderev review [--checklist PATH] [--artifact | --no-artifact] [--verbose] [TARGET]"
  | .rules => "coderev rules [--checklist PATH] [--artifact PATH] [ROOT]"
  | .fix => "coderev fix [--checklist PATH] ARTIFACT INDEX"

/-- What a command is asked for. -/
def Name.request (tree : FileTree) (words : Words Setting) : Name → Except Fault Request
  | .review => readReview tree words
  | .rules => readRules tree words
  | .fix => readFix tree words

/-- The request of a command line that starts with the word for a command. -/
def readCommand (tree : FileTree) (words : List String) : Except Fault Request :=
  match words with
  | [] => .error .noCommand
  | word :: rest =>
    match Name.all.find? fun name => name.word = word with
    | some name => do
      let words ← Words.read name.choices true rest
      if Setting.help ∈ words.settings then .ok (.help name.usage) else name.request tree words
    | none => do
      if isOption word then
        let _ ← Words.read commonChoices false (word :: rest)
      .error (.unknownCommand word (Text.closeTo word (Name.all.map Name.word)))

/-- Reads a command line. -/
def Invocation.read (tree : FileTree) (words : List String) : Except Fault Invocation := do
  let common ← Words.read commonChoices false words
  let isDebug := decide (Setting.debug ∈ common.settings)
  if Setting.help ∈ common.settings then
    .ok { isDebug, request := .help ("\n".intercalate (Name.all.map Name.usage)) }
  else
    let request ← readCommand tree common.arguments
    .ok { isDebug, request }

end ChecklistReview.Command
