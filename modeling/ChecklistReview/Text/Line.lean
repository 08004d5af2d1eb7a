import ChecklistReview.Text.Blank

/-!
# Lines

A line of a text ends at a carriage return followed by a line feed, at a carriage return or at
a line feed. A text that ends with a break has an empty last line.

The definitions hold for every type of letters with a carriage return and a line feed, so that
they apply to bytes and to texts with undecoded bytes as well.

## Main definitions

* `Breaks` is a type of letters with a carriage return and a line feed.
* `Alphabet` is a type of letters that includes the characters.
* `lines` cuts a text into lines, each with the break that ends it; `join` is its inverse.
* `splitLines` gives the lines without their breaks.
* `breakOffsets` lists where the breaks begin.
* `LineIndex` finds the line of an offset by bisection.
-/

namespace ChecklistReview.Text

/-- A type of letters with a carriage return and a line feed. -/
class Breaks (α : Type) where
  cr : α
  lf : α
  cr_ne_lf : cr ≠ lf

/-- A type of letters that includes the characters. Halves of characters have letters as well,
none of which is a character of ASCII. -/
class Alphabet (α : Type) where
  ofChar : Char → α
  ofHalf : Nat → α
  ofChar_inj : ∀ {a b : Char}, ofChar a = ofChar b → a = b
  ofHalf_ne : ∀ {n : Nat} {c : Char}, c.toNat < 128 → ofHalf n ≠ ofChar c

/-- The replacement character is the letter for every half. -/
instance : Alphabet Char where
  ofChar c := c
  ofHalf _ := Char.ofNat 0xfffd
  ofChar_inj h := h
  ofHalf_ne h heq := by
    rw [← heq] at h
    exact absurd h (by decide)

instance {α : Type} [Alphabet α] : Breaks α where
  cr := Alphabet.ofChar '\r'
  lf := Alphabet.ofChar '\n'
  cr_ne_lf h := absurd (Alphabet.ofChar_inj h) (by decide)

export Breaks (cr lf)

section

variable {α : Type} [DecidableEq α] [Breaks α]

/-- A line and the break that ends it, which is empty for the last line. -/
structure Line (α : Type) where
  content : List α
  ending : List α
  deriving DecidableEq

/-- Puts a letter in front of the first line. -/
def prepend (c : α) : List (Line α) → List (Line α)
  | [] => [⟨[c], []⟩]
  | l :: ls => ⟨c :: l.content, l.ending⟩ :: ls

/-- The lines of a text with their breaks. -/
def lines : List α → List (Line α)
  | [] => [⟨[], []⟩]
  | [c] => if c = cr ∨ c = lf then [⟨[], [c]⟩, ⟨[], []⟩] else [⟨[c], []⟩]
  | c :: d :: rest =>
    if c = cr ∧ d = lf then ⟨[], [c, d]⟩ :: lines rest
    else if c = cr ∨ c = lf then ⟨[], [c]⟩ :: lines (d :: rest)
    else prepend c (lines (d :: rest))

/-- The text that lines come from. -/
def join (ls : List (Line α)) : List α := ls.flatMap fun l => l.content ++ l.ending

/-- The lines of a text without their breaks. -/
def splitLines (text : List α) : List (List α) := (lines text).map Line.content

/-- The offsets at which breaks begin, for a text that starts at `offset`. -/
def breakOffsetsFrom (offset : Nat) : List α → List Nat
  | [] => []
  | [c] => if c = cr ∨ c = lf then [offset] else []
  | c :: d :: rest =>
    if c = cr ∧ d = lf then offset :: breakOffsetsFrom (offset + 2) rest
    else if c = cr ∨ c = lf then offset :: breakOffsetsFrom (offset + 1) (d :: rest)
    else breakOffsetsFrom (offset + 1) (d :: rest)

/-- The offsets at which the breaks of a text begin, in increasing order. -/
def breakOffsets (text : List α) : List Nat := breakOffsetsFrom 0 text

end

/-- A position in a text as a report shows it: the number of its line, and that line without
the blanks around it. -/
structure Location where
  line : Nat
  one_le_line : 1 ≤ line
  snippet : String

/-- The lines of a text, prepared to find the line of an offset. -/
structure LineIndex where
  /-- The lines without their breaks. -/
  lines : Array (List Char)
  /-- The offsets at which breaks begin. -/
  breaks : Array Nat

namespace LineIndex

/-- The index of a text. -/
def ofText (text : List Char) : LineIndex :=
  { lines := (splitLines text).toArray, breaks := (breakOffsets text).toArray }

/-- The number of entries at positions `low` to `high` that are below `offset`, plus `low`, for
an increasing array. Each step halves the range. -/
def countBelow (breaks : Array Nat) (offset : Int) (low high : Nat) : Nat :=
  if h : low < high then
    let middle := (low + high) / 2
    if ((breaks.getD middle 0 : Nat) : Int) < offset then countBelow breaks offset (middle + 1) high
    else countBelow breaks offset low middle
  else low
termination_by high - low

/-- The number of the line, counted from 1, that holds an offset. Offsets before the text are
on its first line and offsets after it on its last. -/
def lineNumber (index : LineIndex) (offset : Int) : Nat :=
  countBelow index.breaks offset 0 index.breaks.size + 1

/-- A line by its number, without the blanks around it, and nothing for a number that no line
has. -/
def snippet (index : LineIndex) (number : Int) : String :=
  if 1 ≤ number then String.ofList (strip (index.lines.getD (number.toNat - 1) [])) else ""

/-- The line of an offset. -/
def locate (index : LineIndex) (offset : Int) : Location :=
  { line := index.lineNumber offset
    one_le_line := Nat.succ_pos _
    snippet := index.snippet (index.lineNumber offset) }

end LineIndex

end ChecklistReview.Text
