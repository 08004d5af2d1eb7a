/-!
# Issues with data

Data from outside is checked member by member. Each member that does not fit is an issue, and
all issues of a record are gathered in the order of its members.

## Main definitions

* `Issue` is a problem with the value at a place.
* `Checked` is a value or the issues found instead; it is an applicative functor that gathers
  issues.
-/

namespace ChecklistReview.Validation

/-- A step on the way to a value. -/
inductive Segment where
  | key (name : String)
  | index (n : Nat)
  deriving DecidableEq

/-- The text of a step. -/
def Segment.text : Segment → String
  | .key name => name
  | .index n => ToString.toString n

/-- What is wrong with a value. -/
inductive Problem where
  | missing
  | noString
  | noText
  | noInteger
  | unreadableInteger
  | fractionalInteger
  | hugeInteger
  | noFiniteNumber
  | noTruthValue
  | unreadableTruthValue
  | unknownChoice
  | unknownLiteral
  | noTuple
  | noList
  | noRecord
  | tooSmall
  | noPath
  | noTimestamp
  | unreadableTimestamp
  | unreadableDate
  | malformedText
  deriving DecidableEq

/-- The word for a problem. -/
def Problem.name : Problem → String
  | .missing => "missing"
  | .noString => "string_type"
  | .noText => "string_unicode"
  | .noInteger => "int_type"
  | .unreadableInteger => "int_parsing"
  | .fractionalInteger => "int_from_float"
  | .hugeInteger => "int_parsing_size"
  | .noFiniteNumber => "finite_number"
  | .noTruthValue => "bool_type"
  | .unreadableTruthValue => "bool_parsing"
  | .unknownChoice => "enum"
  | .unknownLiteral => "literal_error"
  | .noTuple => "tuple_type"
  | .noList => "list_type"
  | .noRecord => "model_type"
  | .tooSmall => "greater_than_equal"
  | .noPath => "path_type"
  | .noTimestamp => "datetime_type"
  | .unreadableTimestamp => "datetime_parsing"
  | .unreadableDate => "datetime_from_date_parsing"
  | .malformedText => "json_invalid"

/-- A problem at a place. -/
structure Issue where
  place : List Segment
  problem : Problem
  deriving DecidableEq

/-- An issue as messages show it. -/
def Issue.text (i : Issue) : String :=
  ".".intercalate (i.place.map Segment.text) ++ ":" ++ i.problem.name

/-- Issues as messages show them. -/
def describe (issues : List Issue) : String := "; ".intercalate (issues.map Issue.text)

/-- A value, or the issues found instead. -/
inductive Checked (α : Type) where
  | valid (a : α)
  | invalid (issues : List Issue)
  deriving DecidableEq

namespace Checked

/-- A single problem with the value itself. -/
def problem {α : Type} (p : Problem) : Checked α := .invalid [{ place := [], problem := p }]

/-- Changes a valid value. -/
def map {α β : Type} (f : α → β) : Checked α → Checked β
  | .valid a => .valid (f a)
  | .invalid issues => .invalid issues

/-- Applies a checked function to a checked value and gathers the issues of both. -/
def apply {α β : Type} : Checked (α → β) → Checked α → Checked β
  | .valid f, .valid a => .valid (f a)
  | .valid _, .invalid issues => .invalid issues
  | .invalid issues, .valid _ => .invalid issues
  | .invalid issues, .invalid others => .invalid (issues ++ others)

instance : Applicative Checked where
  map := map
  pure := .valid
  seq f x := apply f (x ())

/-- Checks a valid value further. -/
def andThen {α β : Type} (x : Checked α) (f : α → Checked β) : Checked β :=
  match x with
  | .valid a => f a
  | .invalid issues => .invalid issues

/-- Puts a step in front of the places of all issues. -/
def under {α : Type} (s : Segment) : Checked α → Checked α
  | .valid a => .valid a
  | .invalid issues => .invalid (issues.map fun i => { i with place := s :: i.place })

/-- Checks the items of a list, each under its number from `start` on. -/
def all {α β : Type} (check : α → Checked β) : Nat → List α → Checked (List β)
  | _, [] => .valid []
  | n, a :: rest => apply (map List.cons (under (.index n) (check a))) (all check (n + 1) rest)

end Checked

end ChecklistReview.Validation
