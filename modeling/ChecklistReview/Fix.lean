import ChecklistReview.Log
import ChecklistReview.Rule
import ChecklistReview.Text.Line
import ChecklistReview.Text.Occurrence
import ChecklistReview.Text.Quoted

/-!
# Fixes

A fix mends one finding: on the line of the finding, the first occurrence of the text that was
found is replaced by the template of its rule. All other lines and all line breaks stay.

Texts are lists of letters of any alphabet, so that files with bytes that are no characters can
be mended as well.

## Main definitions

* `findRule?` is the rule that a finding refers to.
* `render` puts a match into a template.
* `fixLine` mends a line.
* `applyFix` mends a text.
-/

namespace ChecklistReview.Fix

open Text

/-- Why a finding cannot be mended. -/
inductive Obstacle where
  | noRule
  | notFixable
  | noLine (number : Nat)
  | noMatch (number : Nat) (found : Wording)
  deriving DecidableEq

/-- What is said of an obstacle. -/
def Obstacle.reason : Obstacle → String
  | .noRule => "rule not found in checklist"
  | .notFixable => "rule is not auto-fixable"
  | .noLine number => s!"line {number} does not exist"
  | .noMatch number found => s!"line {number} no longer contains {found.quoted}"

/-- A finding that cannot be mended. -/
structure Unavailable where
  ruleId : Wording
  obstacle : Obstacle
  deriving DecidableEq

/-- What is said of a finding that cannot be mended. -/
def Unavailable.message (u : Unavailable) : String :=
  s!"No auto-fix available for {u.ruleId}: {u.obstacle.reason}"

/-- The change of one line. -/
structure Edit (α : Type) where
  /-- Number of the line, counted from 1. -/
  line : Nat
  before : List α
  replacement : List α
  deriving DecidableEq

/-- A change and the text after it. -/
structure Result (α : Type) where
  edit : Edit α
  text : List α
  deriving DecidableEq

/-- The first rule with an identity. -/
def findRule? (rules : List Rule) (identity : Wording) : Option Rule :=
  rules.find? fun rule => rule.identity = identity

section

variable {α : Type} [Alphabet α]

/-- The letter for a code point. -/
def letterOf (code : Nat) : α :=
  if isCharacterCode code then Alphabet.ofChar (Char.ofNat code) else Alphabet.ofHalf code

/-- A text as letters. -/
def letters : Wording → List α
  | .text s => s.toList.map Alphabet.ofChar
  | .broken codes _ => codes.map letterOf

/-- The placeholder as letters. -/
def placeholder : List α := letters (.text Rule.placeholder)

theorem placeholder_ne_nil : (placeholder : List α) ≠ [] := by
  simp [placeholder, letters, Rule.placeholder]

variable [DecidableEq α]

/-- A template with the match in place of each placeholder. -/
def render (template found : List α) : List α :=
  List.intercalate found (piecesBetween placeholder placeholder_ne_nil template)

/-- A line with the first occurrence of the match replaced. -/
def fixLine (line found template : List α) : List α :=
  replaceFirst found (render template found) line

/-- Lines with the content of one of them replaced. -/
def replaceLine (ls : List (Line α)) (index : Nat) (content : List α) : List (Line α) :=
  ls.modify index fun line => { line with content }

/-- Mends a finding in a text. -/
def fixText (finding : Finding) (rule : Option Rule) (text : List α) :
    Except Obstacle (Result α) :=
  match rule with
  | none => .error .noRule
  | some rule =>
    match rule.isFixable, rule.template with
    | true, some template =>
      let ls := lines text
      match ls[finding.line - 1]? with
      | none => .error (.noLine finding.line)
      | some line =>
        let found : Wording := finding.found.getD (.text "")
        if occursIn (letters found) line.content then
          let replacement := fixLine line.content (letters found) (letters template)
          .ok { edit := { line := finding.line, before := line.content, replacement }
                text := join (replaceLine ls (finding.line - 1) replacement) }
        else .error (.noMatch finding.line found)
    | _, _ => .error .notFixable

/-- Mends a finding in a text, with a note in the log. -/
def applyFix (finding : Finding) (rule : Option Rule) (text : List α) :
    Logged (Except Unavailable (Result α)) :=
  match fixText finding rule text with
  | .error obstacle => pure (.error { ruleId := finding.ruleId, obstacle })
  | .ok result => do
    Logged.log .info .fix s!"Fixed {finding.file}:{finding.line} for {finding.ruleId}"
    pure (.ok result)

end

end ChecklistReview.Fix
