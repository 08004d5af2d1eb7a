import ChecklistReview.Text.Printable
import ChecklistReview.Text.Wording

/-!
# Quoted texts

A quoted text stands between single quotes, or between double quotes if it holds single ones
and no double ones. Characters that do not show as themselves are written by their numbers.
-/

namespace ChecklistReview.Text

/-- A digit of a number to a base of at most sixteen. -/
def hexDigit (n : Nat) : Char := "0123456789abcdef".toList.getD n '0'

/-- The last `width` digits of a number to the base sixteen. -/
def hexDigits : Nat → Nat → List Char
  | 0, _ => []
  | width + 1, n => hexDigits width (n / 16) ++ [hexDigit (n % 16)]

/-- A code point by its number, as short as its size allows. -/
def escapeCode (n : Nat) : List Char :=
  if n < 0x100 then '\\' :: 'x' :: hexDigits 2 n
  else if n < 0x10000 then '\\' :: 'u' :: hexDigits 4 n
  else '\\' :: 'U' :: hexDigits 8 n

/-- A character of a quoted text. -/
def quotedChar (quote c : Char) : List Char :=
  if c = quote || c = '\\' then ['\\', c]
  else if c = '\t' then ['\\', 't']
  else if c = '\n' then ['\\', 'n']
  else if c = '\r' then ['\\', 'r']
  else if isPrintable c then [c]
  else escapeCode c.toNat

/-- The quote that a text is put between. -/
def quoteFor (text : List Char) : Char :=
  if text.contains '\'' && !text.contains '"' then '"' else '\''

/-- A text between quotes. -/
def quoted (text : String) : String :=
  let quote := quoteFor text.toList
  String.ofList (quote :: text.toList.flatMap (quotedChar quote) ++ [quote])

/-- Code points between quotes. Halves of characters are written by their numbers. -/
def quotedCodes (codes : List Nat) : String :=
  let quote := quoteFor ((codes.filter isCharacterCode).map Char.ofNat)
  String.ofList (quote :: codes.flatMap (fun n =>
    if isCharacterCode n then quotedChar quote (Char.ofNat n) else escapeCode n) ++ [quote])

end ChecklistReview.Text

namespace ChecklistReview

/-- A text between quotes. -/
def Wording.quoted : Wording → String
  | .text s => Text.quoted s
  | .broken codes _ => Text.quotedCodes codes

end ChecklistReview
