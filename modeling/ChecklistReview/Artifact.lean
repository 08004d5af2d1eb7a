import ChecklistReview.Finding.Data
import ChecklistReview.Json.Reader
import ChecklistReview.Json.Writer
import ChecklistReview.Text.Utf8
import ChecklistReview.Timestamp

/-!
# Review artifacts

An artifact is the record of one review: when it was made, what it covered and what it found.

## Main definitions

* `Artifact` and its `Scope`.
* `Artifact.toText` writes an artifact.
* `Artifact.ofText` and `Artifact.ofBytes` read one.
-/

namespace ChecklistReview

open Validation

/-- What a review covered. -/
inductive Scope where
  | singleFile
  | workspace
  deriving DecidableEq

namespace Scope

/-- The words for a scope. -/
def name : Scope → String
  | .singleFile => "Single File"
  | .workspace => "Entire Workspace"

/-- The scope of its words. -/
def ofName? (words : String) : Option Scope :=
  [Scope.singleFile, Scope.workspace].find? fun scope => scope.name = words

/-- A scope from data. -/
def ofJson : Json → Checked Scope
  | .str s =>
    match ofName? s with
    | some scope => .valid scope
    | none => .problem .unknownLiteral
  | _ => .problem .unknownLiteral

end Scope

/-- A timestamp from data: a text or a number. -/
def Timestamp.ofJson : Json → Checked Timestamp
  | .str s =>
    match Timestamp.ofText? s with
    | some t => .valid t
    | none => .problem .unreadableDate
  | .int n =>
    if -9223372036854775808 ≤ n && n ≤ 9223372036854775807 then
      match Timestamp.ofSeconds? n 0 with
      | some t => .valid t
      | none => .problem .unreadableTimestamp
    else .problem .noTimestamp
  | .real x =>
    match Timestamp.ofReal? x with
    | some t => .valid t
    | none => .problem .unreadableTimestamp
  | _ => .problem .noTimestamp

/-- The record of a review. -/
structure Artifact where
  generatedAt : Timestamp
  scope : Scope
  findings : List Finding
  deriving DecidableEq

namespace Artifact

/-- The name of the file that holds an artifact. -/
def fileName : String := "review-artifact.json"

/-- An artifact as data. -/
def toJson (a : Artifact) : Json :=
  .object [("generatedAt", .str a.generatedAt.record), ("scope", .str a.scope.name),
    ("findings", .array (a.findings.map Finding.toJson))]

/-- The text of an artifact. -/
def toText (a : Artifact) : String := a.toJson.pretty

/-- A list of findings from data. -/
def readFindings : Json → Checked (List Finding)
  | .array items => Checked.all Finding.ofJson 0 items
  | _ => .problem .noList

/-- An artifact from data. -/
def ofJson : Json → Checked Artifact
  | .object members =>
    Artifact.mk
      <$> required (.object members) "generatedAt" "generated_at" Timestamp.ofJson
      <*> required (.object members) "scope" "scope" Scope.ofJson
      <*> withDefault (.object members) "findings" "findings" [] readFindings
  | _ => .problem .noRecord

/-- Data may be nested this deep. -/
def depthLimit : Nat := 200

/-- What artifacts may hold: strings that are no texts, whole numbers with too many digits and data
that is nested too deep make the whole text malformed. -/
def limits : Json.Limits :=
  { digits := some digitLimit, countsSign := true, depth := some depthLimit, onlyTexts := true }

/-- An artifact from a text. -/
def ofText (text : List Char) : Checked Artifact :=
  match Json.read text limits with
  | .error _ => .problem .malformedText
  | .ok data => ofJson data

/-- Why bytes are no artifact. -/
inductive Fault where
  | undecodable (fault : Text.Utf8.Fault)
  | invalid (issues : List Issue)

/-- What is said of bytes that are no artifact. -/
def Fault.message : Fault → String
  | .undecodable fault => fault.message
  | .invalid issues => describe issues

/-- An artifact from bytes. -/
def ofBytes (bytes : List UInt8) : Except Fault Artifact :=
  match Text.Utf8.decodeStrict bytes with
  | .error fault => .error (.undecodable fault)
  | .ok text =>
    match ofText (Text.Utf8.unifyBreaks text) with
    | .valid artifact => .ok artifact
    | .invalid issues => .error (.invalid issues)

end Artifact

end ChecklistReview
