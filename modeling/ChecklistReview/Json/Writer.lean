import ChecklistReview.Decimal.Shortest
import ChecklistReview.Json.Value
import ChecklistReview.Text.Quoted

/-!
# Writing data

A value is written on one line, or with one member or item a line and two blanks for each level
of nesting.

## Main definitions

* `Json.compact` writes on one line.
* `Json.pretty` writes with line breaks.
-/

namespace ChecklistReview.Json

open Text

/-- A character of a string. Quotes, backslashes and control characters are escaped. -/
def escapeChar (c : Char) : List Char :=
  if c = '"' then ['\\', '"']
  else if c = '\\' then ['\\', '\\']
  else if c.toNat = 8 then ['\\', 'b']
  else if c = '\t' then ['\\', 't']
  else if c = '\n' then ['\\', 'n']
  else if c.toNat = 12 then ['\\', 'f']
  else if c = '\r' then ['\\', 'r']
  else if c.toNat < 0x20 then '\\' :: 'u' :: hexDigits 4 c.toNat
  else [c]

/-- A string between quotes. -/
def writeString (s : String) : List Char := '"' :: s.toList.flatMap escapeChar ++ ['"']

/-- A number in decimal digits. -/
def writeInt (n : Int) : List Char :=
  if n < 0 then '-' :: Nat.toDigits 10 n.natAbs else Nat.toDigits 10 n.natAbs

/-- A value without parts. -/
def writeAtom : Json → List Char
  | .null => "null".toList
  | .bool true => "true".toList
  | .bool false => "false".toList
  | .int n => writeInt n
  | .real x => (Decimal.render x).toList
  | .str s => writeString s
  | .broken codes => '"' :: codes.flatMap (fun n => '\\' :: 'u' :: hexDigits 4 n) ++ ['"']
  | .array _ => "[]".toList
  | .object _ => "\x7b\x7d".toList

/-- How the parts of a value are set apart. -/
structure Layout where
  /-- What precedes a part at a level of nesting. -/
  lead : Nat → List Char
  /-- What stands between a key and its value. -/
  colon : List Char

mutual

/-- Writes a value at a level of nesting. -/
def write (layout : Layout) (level : Nat) : Json → List Char
  | .array (item :: items) =>
    '[' :: layout.lead (level + 1) ++ write layout (level + 1) item ++
      writeItems layout (level + 1) items ++ layout.lead level ++ [']']
  | .object ((key, value) :: members) =>
    '{' :: layout.lead (level + 1) ++ writeString key ++ layout.colon ++
      write layout (level + 1) value ++ writeMembers layout (level + 1) members ++
      layout.lead level ++ ['}']
  | j => writeAtom j

/-- Writes further items of an array. -/
def writeItems (layout : Layout) (level : Nat) : List Json → List Char
  | [] => []
  | item :: items =>
    ',' :: layout.lead level ++ write layout level item ++ writeItems layout level items

/-- Writes further members of an object. -/
def writeMembers (layout : Layout) (level : Nat) : List (String × Json) → List Char
  | [] => []
  | (key, value) :: members =>
    ',' :: layout.lead level ++ writeString key ++ layout.colon ++ write layout level value ++
      writeMembers layout level members

end

/-- Everything on one line. -/
def Layout.compact : Layout := { lead := fun _ => [], colon := [':'] }

/-- A line for each part. -/
def Layout.pretty : Layout :=
  { lead := fun level => '\n' :: List.replicate (2 * level) ' ', colon := [':', ' '] }

/-- Writes a value on one line. -/
def compact (j : Json) : String := String.ofList (j.write .compact 0)

/-- Writes a value with a line for each part. -/
def pretty (j : Json) : String := String.ofList (j.write .pretty 0)

end ChecklistReview.Json
