import ChecklistReview.Decimal.Shortest
import ChecklistReview.Json.Value
import ChecklistReview.Text.Numeral

/-!
# Reading data

`Json.read` reads one value that takes up a whole text. A text that holds none is refused, with
the place at which reading stopped.

A reader takes the text that is left and gives a value with what is left after it. Places are
kept as the number of characters left, so that a reader need not know where it stands. Readers may
be given limits for what they accept; what is beyond them ends the reading.

## Main definitions

* `Json.Fault` says what is wrong and where.
* `Json.Limits` are the limits of a reader.
* `Json.readValue` reads a value at the start of a text.
* `Json.read` reads a whole text.
-/

namespace ChecklistReview.Json

/-- What is wrong with a text. -/
inductive Complaint where
  | noValue
  | noKey
  | noColon
  | noComma
  | extraData
  | openString
  | controlCharacter
  | badEscape
  | badUnicodeEscape
  | byteOrderMark
  /-- A whole number has more digits than the limit. -/
  | longNumber (limit digits : Nat)
  /-- An array or object is nested too deep. -/
  | tooDeep (isArray : Bool)
  /-- A string is no text. -/
  | noText
  deriving DecidableEq

/-- The words for a complaint. -/
def Complaint.words : Complaint → String
  | .noValue => "Expecting value"
  | .noKey => "Expecting property name enclosed in double quotes"
  | .noColon => "Expecting ':' delimiter"
  | .noComma => "Expecting ',' delimiter"
  | .extraData => "Extra data"
  | .openString => "Unterminated string starting at"
  | .controlCharacter => "Invalid control character at"
  | .badEscape => "Invalid \\escape"
  | .badUnicodeEscape => "Invalid \\uXXXX escape"
  | .byteOrderMark => "Unexpected UTF-8 BOM (decode using utf-8-sig)"
  | .longNumber limit digits => Text.tooManyDigits limit digits
  | .tooDeep isArray =>
    let sort := if isArray then "array" else "object"
    s!"maximum recursion depth exceeded while decoding a JSON {sort} from a unicode string"
  | .noText => "Lone surrogate in a string"

/-- A complaint at the place with `left` characters left. -/
structure Stop where
  complaint : Complaint
  left : Nat

/-- Blanks between the parts of a value. -/
def isGap (c : Char) : Bool := c = ' ' || c = '\t' || c = '\n' || c = '\r'

/-- The text after a gap. -/
def skipGap (text : List Char) : List Char := text.dropWhile isGap

/-- Stops at a text. -/
def stop {α : Type} (complaint : Complaint) (text : List Char) : Except Stop α :=
  .error { complaint, left := text.length }

/-! ### Strings -/

/-- The value of a digit to the base sixteen. -/
def hexValue? (c : Char) : Option Nat :=
  if '0' ≤ c ∧ c ≤ '9' then some (c.toNat - '0'.toNat)
  else if 'a' ≤ c ∧ c ≤ 'f' then some (c.toNat - 'a'.toNat + 10)
  else if 'A' ≤ c ∧ c ≤ 'F' then some (c.toNat - 'A'.toNat + 10)
  else none

/-- The value of four digits to the base sixteen. -/
def fourDigits? (a b c d : Char) : Option Nat := do
  let a ← hexValue? a
  let b ← hexValue? b
  let c ← hexValue? c
  let d ← hexValue? d
  pure (((a * 16 + b) * 16 + c) * 16 + d)

/-- The first half of a surrogate pair. -/
def isHighHalf (n : Nat) : Bool := 0xd800 ≤ n && n ≤ 0xdbff

/-- The second half of a surrogate pair. -/
def isLowHalf (n : Nat) : Bool := 0xdc00 ≤ n && n ≤ 0xdfff

/-- The code point of a surrogate pair. -/
def joinHalves (high low : Nat) : Nat := (high - 0xd800) * 0x400 + (low - 0xdc00) + 0x10000

/-- The character of a short escape. -/
def escaped? : Char → Option Nat
  | '"' => some '"'.toNat
  | '\\' => some '\\'.toNat
  | '/' => some '/'.toNat
  | 'b' => some 8
  | 'f' => some 12
  | 'n' => some 10
  | 'r' => some 13
  | 't' => some 9
  | _ => none

/-- The code units of a string after its opening quote, with the text after its closing quote.
An escape by number needs a character after it, as the closing quote is one. -/
def readStringTail : List Char → Except Stop (List Nat × List Char)
  | [] => .error { complaint := .openString, left := 0 }
  | '"' :: rest => .ok ([], rest)
  | ['\\'] => .error { complaint := .openString, left := 0 }
  | '\\' :: 'u' :: a :: b :: c :: d :: x :: rest =>
    match fourDigits? a b c d with
    | none => .error { complaint := .badUnicodeEscape, left := rest.length + 6 }
    | some unit =>
      (readStringTail (x :: rest)).map fun (units, after) => (unit :: units, after)
  | '\\' :: 'u' :: rest => .error { complaint := .badUnicodeEscape, left := rest.length + 1 }
  | '\\' :: c :: rest =>
    match escaped? c with
    | some unit => (readStringTail rest).map fun (units, after) => (unit :: units, after)
    | none => .error { complaint := .badEscape, left := rest.length + 2 }
  | c :: rest =>
    if c.toNat < 0x20 then .error { complaint := .controlCharacter, left := rest.length + 1 }
    else (readStringTail rest).map fun (units, after) => (c.toNat :: units, after)

/-- The place of a fault in a string that starts a text. A string without an end is refused where
it starts. -/
def Stop.inString (text : List Char) (s : Stop) : Stop :=
  match s.complaint with
  | .openString => { s with left := text.length }
  | _ => s

/-- The code units of the string that starts a text; `rest` is the text after its opening
quote. -/
def readString (text rest : List Char) : Except Stop (List Nat × List Char) :=
  (readStringTail rest).mapError (Stop.inString text)

/-- The code points of code units: surrogate pairs are joined. -/
def joinPairs : List Nat → List Nat
  | [] => []
  | [unit] => [unit]
  | high :: low :: rest =>
    if isHighHalf high && isLowHalf low then joinHalves high low :: joinPairs rest
    else high :: joinPairs (low :: rest)

/-- The text of code units. -/
def textOfUnits (units : List Nat) : String := String.ofList ((joinPairs units).map Char.ofNat)

/-- The value of code units: a text, if they make up characters. -/
def ofUnits (units : List Nat) : Json :=
  if (joinPairs units).all Text.isCharacterCode then .str (textOfUnits units)
  else .broken (joinPairs units)

/-! ### Numbers -/

/-- A digit of a decimal. -/
def isDigit (c : Char) : Bool := '0' ≤ c && c ≤ '9'

/-- The value of decimal digits. -/
def natOfDigits (digits : List Char) : Nat := Nat.ofDigitChars 10 digits 0

/-- The digits before the point: a zero stands alone. -/
def readWhole : List Char → Option (List Char × List Char)
  | '0' :: rest => some (['0'], rest)
  | text =>
    match text.takeWhile isDigit with
    | [] => none
    | digits => some (digits, text.dropWhile isDigit)

/-- The digits after the point, if there are any. -/
def readFraction : List Char → Option (List Char) × List Char
  | '.' :: rest =>
    match rest.takeWhile isDigit with
    | [] => (none, '.' :: rest)
    | digits => (some digits, rest.dropWhile isDigit)
  | text => (none, text)

/-- The power of ten after the digits, if there is one. -/
def readExponent : List Char → Option Int × List Char
  | c :: rest =>
    if c = 'e' || c = 'E' then
      let (isNegative, digits) := match rest with
        | '-' :: more => (true, more)
        | '+' :: more => (false, more)
        | more => (false, more)
      match digits.takeWhile isDigit with
      | [] => (none, c :: rest)
      | ds =>
        let n : Int := natOfDigits ds
        (some (if isNegative then -n else n), digits.dropWhile isDigit)
    else (none, c :: rest)
  | [] => (none, [])

/-- Whether a number has a minus sign, and the text after the sign. -/
def readSign : List Char → Bool × List Char
  | '-' :: rest => (true, rest)
  | text => (false, text)

/-- A number: whole if it has neither point nor power of ten. -/
def readNumber (text : List Char) : Option (Json × List Char) :=
  let (isNegative, body) := readSign text
  match readWhole body with
  | none => none
  | some (whole, rest) =>
    let (fraction, rest) := readFraction rest
    let (exponent, rest) := readExponent rest
    match fraction, exponent with
    | none, none =>
      let n : Int := natOfDigits whole
      some (.int (if isNegative then -n else n), rest)
    | _, _ =>
      let places := fraction.getD []
      let power := exponent.getD 0 - places.length
      some (.real (Decimal.ofScientific isNegative (natOfDigits (whole ++ places)) power), rest)

/-! ### Values -/

/-- The text after a word at its start. -/
def afterWord? (word : String) (text : List Char) : Option (List Char) :=
  if word.toList.isPrefixOf text then some (text.drop word.length) else none

/-- The values that are words. -/
def words : List (String × Json) :=
  [("null", .null), ("true", .bool true), ("false", .bool false),
    ("NaN", .real (Float.ofBits 0x7ff8000000000000)),
    ("Infinity", .real (Float.ofBits 0x7ff0000000000000)),
    ("-Infinity", .real (Float.ofBits 0xfff0000000000000))]

/-- A value that is a word. -/
def readWord? (text : List Char) : Option (Json × List Char) :=
  words.findSome? fun (word, value) => (afterWord? word text).map fun rest => (value, rest)

/-- What a reader accepts. Where nothing is given, there is no limit. -/
structure Limits where
  /-- How many digits a whole number may have. -/
  digits : Option Nat := none
  /-- Whether a minus sign counts as a digit. -/
  countsSign : Bool := false
  /-- How deep arrays and objects may be nested. -/
  depth : Option Nat := none
  /-- Whether strings must be texts. -/
  onlyTexts : Bool := false

namespace Limits

/-- The limits within an array or object, if there may be one. -/
def inner? (limits : Limits) : Option Limits :=
  match limits.depth with
  | none => some limits
  | some 0 => none
  | some (depth + 1) => some { limits with depth := some depth }

/-- The number of digits of a whole number. -/
def digitsOf (limits : Limits) (n : Int) : Nat :=
  (Nat.toDigits 10 n.natAbs).length + if limits.countsSign && n < 0 then 1 else 0

/-- What is wrong with a value without parts that is beyond the limits. -/
def excess? (limits : Limits) : Json → Option Complaint
  | .int n =>
    match limits.digits with
    | none => none
    | some most =>
      if most < limits.digitsOf n then some (.longNumber most (limits.digitsOf n)) else none
  | .broken _ => if limits.onlyTexts then some .noText else none
  | _ => none

/-- Stops at a value without parts that is beyond the limits. -/
def check (limits : Limits) (value : Json) (text : List Char) : Except Stop Unit :=
  match limits.excess? value with
  | some complaint => stop complaint text
  | none => .ok ()

end Limits

/-- A value without parts: a word or a number. -/
def readAtom (limits : Limits) (text : List Char) : Except Stop (Json × List Char) :=
  match readWord? text with
  | some found => .ok found
  | none =>
    match readNumber text with
    | none => stop .noValue text
    | some (value, rest) => do
      limits.check value text
      .ok (value, rest)

mutual

/-- A value at the start of a text. The fuel bounds the number of nested readers; every two of
them take a character. -/
def readValue (limits : Limits) : Nat → List Char → Except Stop (Json × List Char)
  | 0, text => stop .noValue text
  | fuel + 1, text =>
    match text with
    | '"' :: rest => do
      let (units, rest) ← readString text rest
      limits.check (ofUnits units) text
      .ok (ofUnits units, rest)
    | '[' :: rest =>
      match limits.inner? with
      | none => stop (.tooDeep true) text
      | some inner =>
        match skipGap rest with
        | ']' :: rest => .ok (.array [], rest)
        | rest => do
          let (items, rest) ← readItems inner fuel rest
          .ok (.array items, rest)
    | '{' :: rest =>
      match limits.inner? with
      | none => stop (.tooDeep false) text
      | some inner =>
        match skipGap rest with
        | '}' :: rest => .ok (.object [], rest)
        | rest => do
          let (members, rest) ← readMembers inner fuel [] rest
          .ok (.object members, rest)
    | _ => readAtom limits text

/-- The items of an array up to its closing bracket. -/
def readItems (limits : Limits) : Nat → List Char → Except Stop (List Json × List Char)
  | 0, text => stop .noValue text
  | fuel + 1, text => do
    let (item, rest) ← readValue limits fuel text
    match skipGap rest with
    | ']' :: rest => .ok ([item], rest)
    | ',' :: rest =>
      let (items, rest) ← readItems limits fuel (skipGap rest)
      .ok (item :: items, rest)
    | rest => stop .noComma rest

/-- The members of an object up to its closing brace, added to those before. -/
def readMembers (limits : Limits) :
    Nat → List (String × Json) → List Char → Except Stop (List (String × Json) × List Char)
  | 0, _, text => stop .noKey text
  | fuel + 1, before, text =>
    match text with
    | '"' :: rest => do
      let (units, rest) ← readString text rest
      limits.check (ofUnits units) text
      match skipGap rest with
      | ':' :: rest =>
        let (value, rest) ← readValue limits fuel (skipGap rest)
        let members := setMember (textOfUnits units) value before
        match skipGap rest with
        | '}' :: rest => .ok (members, rest)
        | ',' :: rest => readMembers limits fuel members (skipGap rest)
        | rest => stop .noComma rest
      | rest => stop .noColon rest
    | rest => stop .noKey rest

end

/-! ### Whole texts -/

/-- What is wrong with a text, and where. -/
structure Fault where
  complaint : Complaint
  /-- Number of the line, counted from 1. -/
  line : Nat
  /-- Number of the column, counted from 1. -/
  column : Nat
  /-- Number of characters before the place. -/
  offset : Nat
  deriving DecidableEq

/-- What is said of a fault. -/
def Fault.message (f : Fault) : String :=
  s!"{f.complaint.words}: line {f.line} column {f.column} (char {f.offset})"

/-- A fault by its distance from the end of the text. -/
def Fault.ofStop (text : List Char) (s : Stop) : Fault :=
  let offset := text.length - s.left
  let before := text.take offset
  { complaint := s.complaint
    line := before.count '\n' + 1
    column := (before.reverse.takeWhile (· ≠ '\n')).length + 1
    offset }

/-- One value that takes up a whole text, without the place of a fault. -/
def readAll (limits : Limits) (text : List Char) : Except Stop Json :=
  if text.head? = some (Char.ofNat 0xfeff) then stop .byteOrderMark text
  else do
    let (value, rest) ← readValue limits (2 * text.length + 2) (skipGap text)
    match skipGap rest with
    | [] => .ok value
    | rest => stop .extraData rest

/-- Reads one value that takes up a whole text. -/
def read (text : List Char) (limits : Limits := {}) : Except Fault Json :=
  (readAll limits text).mapError (Fault.ofStop text)

end ChecklistReview.Json
