import ChecklistReview.Text.Blank
import ChecklistReview.Text.Word

/-!
# Whole numbers in texts

A whole number may have blanks around it and a sign in front, its digits may be of any script,
and single underscores may stand between them. Numbers are read up to a limit of digits, zeros in
front included.
-/

namespace ChecklistReview.Text

/-- Numbers with more digits are not read. -/
def numeralLimit : Nat := 4300

/-- What is said of a number with more digits than a limit. -/
def tooManyDigits (limit digits : Nat) : String :=
  s!"Exceeds the limit ({limit} digits) for integer string conversion: value has {digits} " ++
    "digits; use sys.set_int_max_str_digits() to increase the limit"

/-- The value of digits with single underscores between them, added to the digits before. -/
def digitsValue? (before : Nat) : List Char → Option Nat
  | [] => some before
  | '_' :: c :: rest => (digitValue? c).bind fun d => digitsValue? (before * 10 + d) rest
  | c :: rest => (digitValue? c).bind fun d => digitsValue? (before * 10 + d) rest

/-- The value of a number without a sign, unless it has too many digits. -/
def unsignedValue? (text : List Char) : Option Nat :=
  if numeralLimit < text.countP (· ≠ '_') then none
  else
    match text with
    | [] => none
    | c :: rest => (digitValue? c).bind fun d => digitsValue? d rest

/-- The value of a whole number. -/
def integerValue? (text : List Char) : Option Int :=
  match strip text with
  | '-' :: digits => (unsignedValue? digits).map fun n => -(n : Int)
  | '+' :: digits => (unsignedValue? digits).map fun n => (n : Int)
  | digits => (unsignedValue? digits).map fun n => (n : Int)

end ChecklistReview.Text
