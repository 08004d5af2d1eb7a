import ChecklistReview.Json.Inline
import ChecklistReview.Json.Reader
import ChecklistReview.Log
import ChecklistReview.Rule
import ChecklistReview.Runtime
import ChecklistReview.Source.Reading

/-!
# Checklists

A checklist is a record with a list of items, each of which becomes one rule. An item that is
no rule or does not fit is left out and noted in the log, and the others are kept.

## Main definitions

* `Checklist.kindOf?` decides the kind of an item.
* `Checklist.readItem` makes a rule of an item.
* `Checklist.readItems` makes the rules of a list.
* `Checklist.ofText` makes the rules of the text of a checklist.
* `Checklist.load` reads a checklist file.
-/

namespace ChecklistReview.Checklist

open Validation

/-- What makes reading a list of items fail. -/
inductive Fault where
  /-- The kind of an item is an array or object. -/
  | structuredKind (isArray : Bool)
  /-- The value is no list of items. -/
  | noItems (value : Json)
  /-- The bytes are no text. -/
  | undecodable (fault : Text.Utf8.Fault)
  /-- A whole number has too many digits. -/
  | longNumber (digits : Nat)
  /-- An array or object is nested too deep to be read. -/
  | deepText (isArray : Bool)
  /-- A value is nested too deep to be shown in a message. -/
  | deepValue

/-- What is said of a fault. -/
def Fault.message : Fault → String
  | .structuredKind true => "unhashable type: 'list'"
  | .structuredKind false => "unhashable type: 'dict'"
  | .noItems value => "'" ++ value.sort ++ "' object is not iterable"
  | .undecodable fault => fault.message
  | .longNumber digits => (Json.Complaint.longNumber digitLimit digits).words
  | .deepText isArray => (Json.Complaint.tooDeep isArray).words
  | .deepValue => "maximum recursion depth exceeded while getting the repr of an object"

/-- Whether a value counts as present: it is neither missing, false, zero nor empty. -/
def isPresent : Json → Bool
  | .null => false
  | .bool b => b
  | .int n => n ≠ 0
  | .real x => x != 0.0
  | .str s => s ≠ ""
  | .broken _ => true
  | .array items => !items.isEmpty
  | .object members => !members.isEmpty

/-- The kinds that an item names. -/
def namedKinds : List Rule.Kind := [.fileLength, .lineLength, .structural]

/-- The kind that an item names. -/
def namedKind? : Json → Option Rule.Kind
  | .str s => namedKinds.find? fun kind => kind.name = s
  | _ => none

/-- The kind of an item: the one it names, or a pattern if it has one. -/
def kindOf? (item : Json) : Option Rule.Kind :=
  match namedKind? ((item.field? "type").getD .null) with
  | some kind => some kind
  | none => if isPresent ((item.field? "pattern").getD .null) then some .pattern else none

/-- How messages name an item: by its identity or its description. -/
def labelOf (item : Json) : Json :=
  let id := (item.field? "id").getD .null
  if isPresent id then id else (item.field? "description").getD .null

/-- Leaves out an item with a message that shows a value. -/
def leaveOut (runtime : Runtime) (level : Log.Level) (shown : Json) (message : String) :
    Logged (Except Fault (Option Rule)) :=
  if runtime.canShow level shown then do
    Logged.log level .checklist message
    pure (.ok none)
  else pure (.error .deepValue)

/-- The rule of an object. -/
def readObject (item : Json) (runtime : Runtime := {}) : Logged (Except Fault (Option Rule)) :=
  let label := labelOf item
  match kindOf? item with
  | none =>
    let named := ((item.field? "type").getD .null).inline
    leaveOut runtime .debug label
      s!"Ignoring checklist item {label.inline}: unknown type {named} and no pattern"
  | some kind =>
    match Rule.ofJson kind item with
    | .valid rule => pure (.ok (some rule))
    | .invalid issues =>
      leaveOut runtime .warning label
        s!"Ignoring invalid checklist item {label.inline}: {describe issues}"

/-- The rule of an item, if it is one. -/
def readItem (item : Json) (runtime : Runtime := {}) : Logged (Except Fault (Option Rule)) :=
  match item with
  | .object members =>
    match (Json.object members).field? "type" with
    | some (.array _) => pure (.error (.structuredKind true))
    | some (.object _) => pure (.error (.structuredKind false))
    | _ => readObject (.object members) runtime
  | other =>
    leaveOut runtime .warning other
      s!"Ignoring checklist item that is not an object: {other.inline}"

/-- The rules of a list of items, in order. -/
def readItems (items : List Json) (runtime : Runtime := {}) : Logged (Except Fault (List Rule)) :=
  match items with
  | [] => pure (.ok [])
  | item :: rest => do
    match ← readItem item runtime with
    | .error fault => pure (.error fault)
    | .ok rule =>
      match ← readItems rest runtime with
      | .error fault => pure (.error fault)
      | .ok rules => pure (.ok (rule.toList ++ rules))

/-- A code point as an item. -/
def itemOfCode (code : Nat) : Json :=
  if code.isValidChar then .str (String.ofList [Char.ofNat code]) else .broken [code]

/-- The items of a value: those of an array, the keys of an object and the characters of a
text. -/
def itemsOf : Json → Except Fault (List Json)
  | .array items => .ok items
  | .object members => .ok (members.map fun (key, _) => .str key)
  | .str s => .ok (s.toList.map fun c => .str (String.ofList [c]))
  | .broken codes => .ok (codes.map itemOfCode)
  | value => .error (.noItems value)

/-- The rules of any value. -/
def readValue (value : Json) (runtime : Runtime := {}) : Logged (Except Fault (List Rule)) :=
  match itemsOf value with
  | .error fault => pure (.error fault)
  | .ok items => readItems items runtime

/-- What becomes of a checklist whose text is no data. -/
def refuseText (path : Path) (fault : Json.Fault) : Logged (Except Fault (List Rule)) :=
  match fault.complaint with
  | .longNumber _ digits => pure (.error (.longNumber digits))
  | .tooDeep isArray => pure (.error (.deepText isArray))
  | _ => do
    Logged.log .error .checklist s!"Checklist {path} is not valid JSON: {fault.message}"
    pure (.ok [])

/-- The limits for the text of a checklist. -/
def limits (runtime : Runtime) : Json.Limits :=
  { digits := some digitLimit, depth := runtime.reading }

/-- The rules of the text of a checklist, which is known under a path. A text that is not a
checklist has none. -/
def ofText (path : Path) (text : List Char) (runtime : Runtime := {}) :
    Logged (Except Fault (List Rule)) :=
  match Json.read text (limits runtime) with
  | .error fault => refuseText path fault
  | .ok data =>
    match data.field? "items" with
    | some (.array items) => do
      match ← readItems items runtime with
      | .error fault => pure (.error fault)
      | .ok rules =>
        Logged.log .info .checklist
          s!"Loaded {rules.length} rule(s) from {items.length} checklist item(s) in {path}"
        pure (.ok rules)
    | _ => do
      Logged.log .error .checklist s!"Checklist {path} has no \"items\" list"
      pure (.ok [])

/-- The name of the file that holds the checklist of a workspace. -/
def fileName : String := "checklist.json"

/-- The rules of a checklist file. A file that cannot be read has none. -/
def load (read : Source.Reader) (path : Path) (runtime : Runtime := {}) :
    Logged (Except Fault (List Rule)) :=
  match read path with
  | .error fault => do
    Logged.log .error .checklist s!"Failed to read checklist {path}: {fault.message path}"
    pure (.ok [])
  | .ok bytes =>
    match Text.Utf8.decodeStrict bytes with
    | .error fault => pure (.error (.undecodable fault))
    | .ok text => ofText path (Text.Utf8.unifyBreaks text) runtime

end ChecklistReview.Checklist
