/-!
# Logs

What happens beside the result of an operation is recorded in a log, which is a value like any
other: an operation gives its result together with the entries it made.

## Main definitions

* `Log.Entry` is a message of a component at a level.
* `Logged` is a result with the entries made on the way; it is a monad.
-/

namespace ChecklistReview

namespace Log

/-- How much an entry matters. -/
inductive Level where
  | debug
  | info
  | warning
  | error
  deriving DecidableEq, Inhabited

/-- The word for a level. -/
def Level.name : Level → String
  | .debug => "DEBUG"
  | .info => "INFO"
  | .warning => "WARNING"
  | .error => "ERROR"

/-- Levels by weight. -/
def Level.rank : Level → Nat
  | .debug => 0
  | .info => 1
  | .warning => 2
  | .error => 3

/-- The part of the program that makes an entry. -/
inductive Component where
  | checklist
  | source
  | engine
  | fix
  | command
  | syntaxTree
  | artifact
  | patternRule
  | metricRule
  | nullCheckRule
  | traversal
  deriving DecidableEq, Inhabited

/-- The name under which a component's entries appear. -/
def Component.name : Component → String
  | .checklist => "coderev.config"
  | .source => "coderev.context"
  | .engine => "coderev.engine"
  | .fix => "coderev.fixes"
  | .command => "coderev.main"
  | .syntaxTree => "coderev.parser"
  | .artifact => "coderev.reporting.artifact"
  | .patternRule => "coderev.rules.pattern"
  | .metricRule => "coderev.rules.metrics"
  | .nullCheckRule => "coderev.rules.null_checks"
  | .traversal => "coderev.traversal"

/-- A failure that ended an evaluation. -/
inductive Failure where
  /-- A number is greater than what can be counted. -/
  | tooLarge
  /-- A number has more digits than are read. -/
  | longNumber (digits : Nat)
  /-- Two demands contradict each other. -/
  | contradiction
  /-- Calls are nested deeper than the stack has room for. -/
  | tooDeep
  deriving DecidableEq, Inhabited

/-- An entry of a log. -/
structure Entry where
  level : Level
  component : Component
  message : String
  /-- The failure that the entry records, if there was one. -/
  failure : Option Failure := none
  deriving DecidableEq, Inhabited

/-- The entries that are at least at a level. -/
def atLeast (level : Level) (entries : List Entry) : List Entry :=
  entries.filter fun e => level.rank ≤ e.level.rank

end Log

/-- A result with the log entries made on the way. -/
structure Logged (α : Type) where
  value : α
  entries : List Log.Entry

namespace Logged

/-- First one operation, then another that uses its result. -/
def andThen {α β : Type} (x : Logged α) (f : α → Logged β) : Logged β :=
  let y := f x.value
  { value := y.value, entries := x.entries ++ y.entries }

instance : Monad Logged where
  pure a := { value := a, entries := [] }
  bind := andThen

@[simp]
theorem value_pure {α : Type} (a : α) : (pure a : Logged α).value = a := rfl

@[simp]
theorem value_bind {α β : Type} (x : Logged α) (f : α → Logged β) :
    (x >>= f).value = (f x.value).value := rfl

/-- Makes an entry. -/
def log (level : Log.Level) (component : Log.Component) (message : String) : Logged Unit :=
  { value := (), entries := [{ level, component, message }] }

/-- The operations of a list, one after another. -/
def forEach {α β : Type} (xs : List α) (f : α → Logged β) : Logged (List β) :=
  match xs with
  | [] => pure []
  | x :: rest => do
    let y ← f x
    let ys ← forEach rest f
    pure (y :: ys)

@[simp]
theorem value_forEach {α β : Type} (xs : List α) (f : α → Logged β) :
    (forEach xs f).value = xs.map fun x => (f x).value := by
  induction xs with
  | nil => rfl
  | cons x rest ih => simp [forEach, ih]

end Logged

end ChecklistReview
