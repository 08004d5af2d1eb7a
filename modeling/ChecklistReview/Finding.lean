import ChecklistReview.Path
import ChecklistReview.Text.Wording

/-!
# Findings

A finding is a violation of a rule at one line of one file. It holds what is needed to show
and to mend it, and names its rule by the rule's identity.
-/

namespace ChecklistReview

/-- How serious a violation is. -/
inductive Severity where
  | info
  | warning
  | error
  | major
  | blocking
  deriving DecidableEq, Inhabited

namespace Severity

/-- All severities. -/
def all : List Severity := [.info, .warning, .error, .major, .blocking]

/-- The word for a severity. -/
def name : Severity → String
  | .info => "info"
  | .warning => "warning"
  | .error => "error"
  | .major => "major"
  | .blocking => "blocking"

/-- The severity of a word. -/
def ofName? (word : String) : Option Severity := all.find? fun s => s.name = word

/-- The word for a severity in capitals. -/
def heading : Severity → String
  | .info => "INFO"
  | .warning => "WARNING"
  | .error => "ERROR"
  | .major => "MAJOR"
  | .blocking => "BLOCKING"

end Severity

/-- A violation of a rule at one line of a file. -/
structure Finding where
  /-- The identity of the rule. -/
  ruleId : Wording
  description : Wording
  severity : Severity
  isFixable : Bool
  file : Path
  /-- Number of the line, counted from 1. -/
  line : Nat
  one_le_line : 1 ≤ line
  snippet : Wording
  /-- The text that violates the rule. -/
  found : Option Wording
  language : Option Wording
  deriving DecidableEq

/-- Whether all texts of a finding are without halves. -/
def Finding.isText (f : Finding) : Bool :=
  f.ruleId.isText && f.description.isText && f.snippet.isText && f.found.all Wording.isText &&
    f.language.all Wording.isText

end ChecklistReview
