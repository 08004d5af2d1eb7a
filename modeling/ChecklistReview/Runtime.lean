import ChecklistReview.Json.Value
import ChecklistReview.Log
import ChecklistReview.Regex.Parser

/-!
# What a program runs on

Some work is done by nested calls, for which there is only so much room on the stack: reading data,
showing it in a message, reading a regular expression and searching a syntax tree. Work that is
nested deeper fails.
-/

namespace ChecklistReview

/-- What a program runs on. Where nothing is given, there is no bound. -/
structure Runtime where
  /-- Messages below this level are not written. -/
  level : Log.Level := .warning
  /-- How deep data may be nested that is read. -/
  reading : Option Nat := none
  /-- How deep data may be nested that is shown in a message. -/
  showing : Option Nat := none
  /-- What regular expressions are read with. -/
  expressions : Regex.Setup := {}
  /-- How deep the calls may be nested that search a syntax tree. -/
  searching : Option Nat := none

namespace Runtime

/-- The usual room on the stack. -/
def usual : Runtime :=
  { reading := some 993, showing := some 988, expressions := { room := some 990 }
    searching := some 985 }

/-- Whether a message at a level can show a value, if it is written at all. -/
def canShow (runtime : Runtime) (level : Log.Level) (value : Json) : Bool :=
  level.rank < runtime.level.rank || runtime.showing.all (value.depth ≤ ·)

end Runtime

end ChecklistReview
