import ChecklistReview.Finding.Data

/-!
# Rules

A rule of a checklist: what it checks, which files it is for, how serious a violation is and
how it can be mended.

## Main definitions

* `Rule` with its `Rule.Check`.
* `Rule.identity` is the name under which findings refer to a rule.
* `Rule.ofJson` reads a rule of a given kind.
-/

namespace ChecklistReview

/-- What a rule checks. -/
inductive Rule.Check where
  /-- No match of a regular expression. -/
  | pattern (source : Wording)
  /-- A named property of the syntax tree. -/
  | structural (name : Option Wording)
  /-- A greatest number of lines. -/
  | fileLength (most : Option Int)
  /-- A greatest length of lines. -/
  | lineLength (most : Option Int)
  deriving DecidableEq

/-- The kinds of rules. -/
inductive Rule.Kind where
  | pattern
  | structural
  | fileLength
  | lineLength
  deriving DecidableEq

/-- A rule of a checklist. -/
structure Rule where
  id : Option Wording
  title : Option Wording
  description : Option Wording
  severity : Option Severity
  /-- The languages the rule is for, if it is not for all. -/
  languages : Option (List Wording)
  isFixable : Bool
  /-- The template that replaces a match. -/
  template : Option Wording
  check : Rule.Check
  deriving DecidableEq

namespace Rule

/-- The name of a kind. -/
def Kind.name : Kind → String
  | .pattern => "pattern"
  | .structural => "ast_rule"
  | .fileLength => "file_rule"
  | .lineLength => "line_rule"

/-- The identity of a rule of a kind that has neither identity nor description. -/
def Kind.defaultIdentity : Kind → String
  | .pattern => "pattern_rule"
  | .structural => "ast_rule"
  | .fileLength => "file_rule"
  | .lineLength => "line_rule"

/-- The kind of a check. -/
def Check.kind : Check → Kind
  | .pattern _ => .pattern
  | .structural _ => .structural
  | .fileLength _ => .fileLength
  | .lineLength _ => .lineLength

/-- The kind of a rule. -/
def kind (r : Rule) : Kind := r.check.kind

/-- A text that is not empty. -/
def nonempty? (s : Option Wording) : Option Wording := s.filter (· ≠ .text "")

/-- The name under which findings refer to a rule. -/
def identity (r : Rule) : Wording :=
  ((nonempty? r.id).or (nonempty? r.description)).getD (.text r.kind.defaultIdentity)

/-- Whether a rule is for a language. -/
def appliesTo (r : Rule) (language : String) : Bool := r.languages.all (·.contains (.text language))

/-- Whether violations can be mended. -/
def canFix (r : Rule) : Bool := r.isFixable && r.template.isSome

/-- The text in a template that stands for the match. -/
def placeholder : String := "$MATCH"

section Reading

open Validation

/-- A list of languages. -/
def readLanguages : Json → Checked (List Wording)
  | .array items => Checked.all readText 0 items
  | _ => .problem .noTuple

/-- The template of a fix. -/
def readTemplate : Json → Checked Wording
  | .object members =>
    withDefault (.object members) "replaceTemplate" "replace_template" (.text placeholder) readText
  | _ => .problem .noRecord

/-- What a rule of a kind checks. -/
def readCheck (item : Json) : Kind → Checked Check
  | .pattern => .pattern <$> required item "pattern" "pattern" readText
  | .structural => .structural <$> withDefault item "rule" "rule" none (optional readText)
  | .fileLength =>
    .fileLength <$> withDefault item "maxLines" "max_lines" none (optional readInteger)
  | .lineLength =>
    .lineLength <$> withDefault item "maxLength" "max_length" none (optional readInteger)

/-- A rule of a kind. Members with other keys are not looked at. -/
def ofJson (kind : Kind) (item : Json) : Checked Rule :=
  Rule.mk
    <$> withDefault item "id" "id" none (optional readText)
    <*> withDefault item "title" "title" none (optional readText)
    <*> withDefault item "description" "description" none (optional readText)
    <*> withDefault item "severity" "severity" none (optional Severity.ofJson)
    <*> withDefault item "languages" "languages" none (optional readLanguages)
    <*> withDefault item "autoFixable" "auto_fixable" false readTruth
    <*> withDefault item "autoFix" "auto_fix" none (optional readTemplate)
    <*> readCheck item kind

end Reading

end Rule

end ChecklistReview
