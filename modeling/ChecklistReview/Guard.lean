import ChecklistReview.Text.Blank
import ChecklistReview.Text.Word

/-!
# Guards against missing values

A guard compares a name with `null` or `undefined`: the name, a comparison and the literal,
with blanks between them. The name must not go on to the left and the literal must not go on
to the right.

## Main definitions

* `Guard.length?` reads a guard at the start of a text.
* `Guard.find?` finds the first guard in a text.
-/

namespace ChecklistReview.Guard

open Text

/-- Characters that would make the name part of a longer one. -/
def joinsLeft (c : Char) : Bool := isWordChar c || c = '$' || c = '.'

/-- Characters that would make the literal part of a longer name. -/
def joinsRight (c : Char) : Bool := isWordChar c || c = '$'

/-- What follows a comparison at the start of a text. -/
def afterOperator? : List Char → Option (List Char)
  | '=' :: '=' :: '=' :: rest => some rest
  | '!' :: '=' :: '=' :: rest => some rest
  | '=' :: '=' :: rest => some rest
  | '!' :: '=' :: rest => some rest
  | _ => none

/-- What follows a literal at the start of a text. -/
def afterLiteral? : List Char → Option (List Char)
  | 'n' :: 'u' :: 'l' :: 'l' :: rest => some rest
  | 'u' :: 'n' :: 'd' :: 'e' :: 'f' :: 'i' :: 'n' :: 'e' :: 'd' :: rest => some rest
  | _ => none

/-- What follows a name at the start of a text. -/
def afterName? : List Char → List Char → Option (List Char)
  | [], text => some text
  | _ :: _, [] => none
  | a :: name, b :: text => if a = b then afterName? name text else none

/-- What follows a guard for a name at the start of a text. -/
def after? (name text : List Char) : Option (List Char) := do
  let rest ← afterName? name text
  let rest ← afterOperator? (rest.dropWhile isBlank)
  let rest ← afterLiteral? (rest.dropWhile isBlank)
  if rest.head?.any joinsRight then none else some rest

/-- The length of a guard for a name at the start of a text. -/
def length? (name text : List Char) : Option Nat :=
  (after? name text).map fun rest => text.length - rest.length

/-- The first guard at or after an offset, for a text that follows the character `previous`. -/
def findFrom? (name : List Char) (previous : Option Char) (offset : Nat) :
    List Char → Option (Nat × Nat)
  | [] => at? []
  | c :: rest =>
    match at? (c :: rest) with
    | some span => some span
    | none => findFrom? name (some c) (offset + 1) rest
where
  /-- The guard at this offset. -/
  at? (text : List Char) : Option (Nat × Nat) :=
    if previous.any joinsLeft then none
    else (length? name text).map fun length => (offset, offset + length)

/-- Start and end of the first guard for a name in a text. -/
def find? (name text : List Char) : Option (Nat × Nat) := findFrom? name none 0 text

/-- Whether a text holds a guard for a name. -/
def isIn (name text : List Char) : Bool := (find? name text).isSome

end ChecklistReview.Guard
