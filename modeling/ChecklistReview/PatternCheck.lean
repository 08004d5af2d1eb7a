import ChecklistReview.Regex.Match
import ChecklistReview.Rule
import ChecklistReview.Source.Document

/-!
# Pattern rules

A pattern rule reports each match of its regular expression in the whole text of a file.

## Main definitions

* `compile?` compiles an expression; one that is malformed is noted in the log.
* `evaluate` gives the findings of a pattern rule.
-/

namespace ChecklistReview.PatternCheck

open Source

/-- A regular expression, or nothing if it is malformed. -/
def compile? (source : Wording) (setup : Regex.Setup := {}) :
    Logged (Except Log.Failure (Option Regex)) :=
  match Regex.compile source.toList source.halves setup with
  | .ok regex => pure (.ok (some regex))
  | .error .repeatTooLarge => pure (.error .tooLarge)
  | .error (.longNumber digits) => pure (.error (.longNumber digits))
  | .error .alphabetClash => pure (.error .contradiction)
  | .error .tooDeep => pure (.error .tooDeep)
  | .error fault => do
    Logged.log .warning .patternRule
      s!"Invalid pattern {source.quoted}: {fault.message source.toList}"
    pure (.ok none)

/-- The text of a match. -/
def textOf (text : Array Char) (span : Regex.Span) : String :=
  String.ofList (text.extract span.start span.stop).toList

/-- The finding for a match. -/
def findingAt (document : Document) (rule : Rule) (source : Wording) (text : Array Char)
    (span : Regex.Span) : Finding :=
  let location := document.locate span.start
  { ruleId := rule.identity
    description := (Rule.nonempty? rule.description).getD source
    severity := rule.severity.getD .warning
    isFixable := rule.isFixable
    file := document.path
    line := location.line
    one_le_line := location.one_le_line
    snippet := location.snippet
    found := some (textOf text span)
    language := some document.language }

/-- The findings of a pattern rule, from left to right. -/
def evaluate (document : Document) (rule : Rule) (source : Wording) (setup : Regex.Setup := {}) :
    Logged (Except Log.Failure (List Finding)) :=
  if rule.appliesTo document.language then do
    match ← compile? source setup with
    | .error failure => pure (.error failure)
    | .ok none => pure (.ok [])
    | .ok (some regex) =>
      let text := document.text.toArray
      pure (.ok ((regex.findAll text).map (findingAt document rule source text)))
  else pure (.ok [])

end ChecklistReview.PatternCheck
