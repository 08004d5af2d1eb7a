import ChecklistReview.Regex.Syntax
import ChecklistReview.Text.Blank
import ChecklistReview.Text.Case
import ChecklistReview.Text.Word

/-!
# Tests of single characters

The parts of an expression that take exactly one character, with the settings that matter for
them.

## Main definitions

* `CharTest` is such a part.
* `CharTest.accepts` tells which characters it takes.
-/

namespace ChecklistReview.Regex

/-- A part that takes one character. -/
inductive CharTest where
  | any
  | notLineFeed
  /-- A set, with its alphabet and whether case is ignored. -/
  | set (isAscii ignoreCase isNegated : Bool) (members : List Member)
  deriving DecidableEq

/-- Whether a character is of a category. -/
def Category.holds (isAscii : Bool) : Category → Char → Bool
  | .digit, c => if isAscii then c.isDigit else Text.isDecimalDigit c
  | .space, c =>
    if isAscii then (9 ≤ c.toNat && c.toNat ≤ 13) || c = ' ' else Text.isBlank c
  | .word, c => if isAscii then c.isAlphanum || c = '_' else Text.isWordChar c

/-- Whether a member of a set holds a character. -/
def Member.holds (isAscii : Bool) (c : Char) : Member → Bool
  | .code n => c.toNat = n
  | .range low high => low ≤ c.toNat && c.toNat ≤ high
  | .category kind isNegated => kind.holds isAscii c != isNegated

/-- The code points that are the same as a character if case is ignored, in lower case. -/
def foldings (isAscii : Bool) (c : Char) : List Nat :=
  if isAscii then [Text.lowerAscii c.toNat] else Text.caseSiblings (Text.lowerCode c.toNat)

/-- The code points that are the same as one in lower case. -/
def unfoldings (isAscii : Bool) (code : Nat) : List Nat :=
  if isAscii then
    if 0x61 ≤ code && code ≤ 0x7a then [code, code - 32] else [code]
  else Text.withLower code

/-- Whether a member of a set holds a character if case is ignored. -/
def Member.holdsFolded (isAscii : Bool) (c : Char) (m : Member) : Bool :=
  let folded := foldings isAscii c
  match m with
  | .code n =>
    folded.contains (if isAscii then Text.lowerAscii n else Text.lowerCode n)
  | .range low high =>
    folded.any fun code => (unfoldings isAscii code).any fun n => low ≤ n && n ≤ high
  | .category kind isNegated => kind.holds isAscii c != isNegated

/-- Whether a part takes a character. -/
def CharTest.accepts (t : CharTest) (c : Char) : Bool :=
  match t with
  | .any => true
  | .notLineFeed => c ≠ '\n'
  | .set isAscii ignoreCase isNegated members =>
    let holds := if ignoreCase then Member.holdsFolded isAscii c else Member.holds isAscii c
    members.any holds != isNegated

end ChecklistReview.Regex
