import ChecklistReview.Json.Value
import ChecklistReview.Text.Blank
import ChecklistReview.Text.Numeral
import ChecklistReview.Validation.Issue

/-!
# Values of members

How values are read as texts, numbers and truth values. Reading is generous: numbers and truth
values may be written as texts, and whole numbers as numbers with an empty fraction.

## Main definitions

* `readText`, `readInteger` and `readTruth` read a value.
* `optional` admits the missing value.
* `required` and `withDefault` look up a member, which may have two names.
-/

namespace ChecklistReview.Validation

/-- A text, which may hold halves of characters. -/
def readText : Json → Checked Wording
  | .str s => .valid (.text s)
  | .broken codes => .valid (.ofCodes codes)
  | _ => .problem .noString

/-! ### Whole numbers -/

/-- Blanks around numbers: white space without the separators of fields and records. -/
def isPadding (c : Char) : Bool := Text.isBlank c && !(0x1c ≤ c.toNat && c.toNat ≤ 0x1f)

/-- A text without padding. -/
def dropPadding (text : List Char) : List Char :=
  ((text.dropWhile isPadding).reverse.dropWhile isPadding).reverse

/-- A decimal digit of ASCII. -/
def isDigit (c : Char) : Bool := '0' ≤ c && c ≤ '9'

/-- Digits with single underscores between them, without the underscores. -/
def dropUnderscores : List Char → Option (List Char)
  | [] => none
  | [c] => if isDigit c then some [c] else none
  | c :: '_' :: rest => if isDigit c then (dropUnderscores rest).map (c :: ·) else none
  | c :: rest => if isDigit c then (dropUnderscores rest).map (c :: ·) else none

/-- Digits without zeros at their start, where underscores may stand between the zeros. -/
def dropLeadingZeros (text : List Char) : List Char :=
  match text with
  | '0' :: rest =>
    match rest.dropWhile fun c => c = '0' || c = '_' with
    | [] => text.drop (text.length - 1)
    | more => more
  | _ => text

/-- The part of a number before a fraction of zeros. -/
def dropZeroFraction (text : List Char) : Option (List Char) :=
  match text.dropWhile (· ≠ '.') with
  | [] => some text
  | _ :: [] => none
  | _ :: zeros => if zeros.all (· = '0') then some (text.takeWhile (· ≠ '.')) else none

/-- The digits of a number without a sign. -/
def digitsOf? (text : List Char) : Option (List Char) := do
  let whole ← dropZeroFraction text
  dropUnderscores (dropLeadingZeros whole)

/-- At most this many digits are read. -/
def digitLimit : Nat := Text.numeralLimit

/-- A whole number written as a text. -/
def integerOfText (s : String) : Checked Int :=
  let (isNegative, body) := match dropPadding s.toList with
    | '-' :: rest => (true, rest)
    | '+' :: rest => (false, rest)
    | rest => (false, rest)
  match digitsOf? body with
  | none => .problem .unreadableInteger
  | some digits =>
    if digitLimit < digits.length then .problem .hugeInteger
    else
      let n : Int := Nat.ofDigitChars 10 digits 0
      .valid (if isNegative then -n else n)

/-- A whole number written with a fraction. Such numbers are read up to the size of a machine
word. -/
def integerOfReal (x : Float) : Checked Int :=
  if x.isNaN || x.isInf then .problem .noFiniteNumber
  else if x.floor != x then .problem .fractionalInteger
  else if -9223372036854775808 < x && x < 9223372036854775807 then .valid x.toInt64.toInt
  else .problem .hugeInteger

/-- A whole number. -/
def readInteger : Json → Checked Int
  | .int n => .valid n
  | .bool b => .valid (if b then 1 else 0)
  | .real x => integerOfReal x
  | .str s => integerOfText s
  | .broken _ => .problem .noText
  | _ => .problem .noInteger

/-! ### Truth values -/

/-- The texts that mean true, in lower case. -/
def trueWords : List String := ["1", "on", "t", "true", "y", "yes"]

/-- The texts that mean false, in lower case. -/
def falseWords : List String := ["0", "off", "f", "false", "n", "no"]

/-- A truth value written as a text, in upper or lower case. -/
def truthOfText (s : String) : Checked Bool :=
  let word := String.ofList (s.toList.map Char.toLower)
  if word ∈ trueWords then .valid true
  else if word ∈ falseWords then .valid false
  else .problem .unreadableTruthValue

/-- A truth value written as a number. -/
def truthOfInteger (n : Int) : Checked Bool :=
  if n = 0 then .valid false
  else if n = 1 then .valid true
  else .problem .unreadableTruthValue

/-- A truth value. -/
def readTruth : Json → Checked Bool
  | .bool b => .valid b
  | .str s => truthOfText s
  | .int n =>
    if -9223372036854775808 ≤ n && n ≤ 9223372036854775807 then truthOfInteger n
    else .problem .noTruthValue
  | .real x =>
    match integerOfReal x with
    | .valid n => truthOfInteger n
    | .invalid _ => .problem .noTruthValue
  | .broken _ => .problem .noText
  | _ => .problem .noTruthValue

/-! ### Members -/

/-- Admits the missing value. -/
def optional {α : Type} (read : Json → Checked α) : Json → Checked (Option α)
  | .null => .valid none
  | j => (read j).map some

/-- A member under its key, or under its second key, with the key that was used. -/
def member? (record : Json) (key second : String) : Option (String × Json) :=
  match record.field? key with
  | some j => some (key, j)
  | none => (record.field? second).map fun j => (second, j)

/-- A member that may be absent. -/
def withDefault {α : Type} (record : Json) (key second : String) (default : α)
    (read : Json → Checked α) : Checked α :=
  match member? record key second with
  | some (used, j) => (read j).under (.key used)
  | none => .valid default

/-- A member that must be present. -/
def required {α : Type} (record : Json) (key second : String) (read : Json → Checked α) :
    Checked α :=
  match member? record key second with
  | some (used, j) => (read j).under (.key used)
  | none => .invalid [{ place := [.key key], problem := .missing }]

end ChecklistReview.Validation
