import ChecklistReview.Text.Blank
import ChecklistReview.Text.Width

/-!
# Wrapped text

A text is set into lines of a given width. Lines break between words; a word that is too long
is folded over several lines or cut short with an ellipsis.

## Main definitions

* `breaks` finds where a line is broken.
* `wrap` sets a text into lines.
* `extent` measures how much room a text needs.
-/

namespace ChecklistReview.Layout

open Text

/-- Where the lines of a text stand in their column. -/
inductive Justify where
  /-- At the left, without blanks after them. -/
  | natural
  | left
  | center
  | right
  deriving DecidableEq

/-- What happens to a word that is too long. -/
inductive Overflow where
  | fold
  | ellipsis
  deriving DecidableEq

/-- The rest of a text after its first word. A word takes the blanks around it. -/
def afterWord (text : List Char) : List Char :=
  ((text.dropWhile isBlank).dropWhile (!isBlank ·)).dropWhile isBlank

theorem length_dropWhile_le {α : Type} (p : α → Bool) (l : List α) :
    (l.dropWhile p).length ≤ l.length := (List.dropWhile_sublist p).length_le

/-- The words of a text, each with the blanks after it and the first with those before it.
Blanks without a word are none. -/
def words (text : List Char) : List (List Char) :=
  match _h : text.dropWhile isBlank with
  | [] => []
  | _ :: _ => text.take (text.length - (afterWord text).length) :: words (afterWord text)
termination_by text.length
decreasing_by
  simp only [afterWord, _h]
  next c rest =>
  have hc : isBlank c = false := by
    have := List.head?_dropWhile_not isBlank text
    rw [_h] at this
    simpa using this
  have h1 := length_dropWhile_le isBlank text
  rw [_h] at h1
  simp only [List.dropWhile_cons, hc, Bool.not_false, ↓reduceIte]
  have h2 := length_dropWhile_le (!isBlank ·) rest
  have h3 := length_dropWhile_le isBlank (rest.dropWhile (!isBlank ·))
  simp only [List.length_cons] at h1
  omega

/-- What is known while words are placed. -/
structure Placing where
  /-- The offset of the next word. -/
  offset : Nat := 0
  /-- The width of the current line. -/
  filled : Nat := 0
  /-- The offsets at which lines are broken, the last one first. -/
  found : List Nat := []

/-- Notes a break, except at the start of the text. -/
def Placing.breakAt (p : Placing) (offset : Nat) : Placing :=
  if offset = 0 then p else { p with found := offset :: p.found }

/-- Breaks the line before each piece of a word that is folded. -/
def placePieces (offset : Nat) (p : Placing) : List (List Char) → Placing
  | [] => p
  | [piece] => { p.breakAt offset with filled := width piece }
  | piece :: rest => placePieces (offset + piece.length) (p.breakAt offset) rest

/-- Places a word. -/
def place (most : Nat) (overflow : Overflow) (p : Placing) (word : List Char) : Placing :=
  let size := width (stripRight word)
  let placed :=
    if p.filled + size ≤ most then { p with filled := p.filled + width word }
    else if most < size then
      match overflow with
      | .fold => placePieces p.offset p (chop most word)
      | .ellipsis => { p.breakAt p.offset with filled := width word }
    else if p.filled ≠ 0 && p.offset ≠ 0 then { p.breakAt p.offset with filled := width word }
    else p
  { placed with offset := p.offset + word.length }

/-- The offsets at which a line is broken. -/
def breaks (most : Nat) (overflow : Overflow) (text : List Char) : List Nat :=
  ((words text).foldl (place most overflow) {}).found.reverse

/-- A text cut at increasing offsets, for a text that starts at `offset`. -/
def cutAt (offset : Nat) : List Nat → List Char → List (List Char)
  | [], text => [text]
  | b :: bs, text => text.take (b - offset) :: cutAt b bs (text.drop (b - offset))

/-- A line without the blanks at its end that stand beyond a width. -/
def dropExcess (most : Nat) (line : List Char) : List Char :=
  let blankCount := (line.reverse.takeWhile isBlank).length
  line.take (line.length - min blankCount (line.length - most))

/-- A line cut short at a width. -/
def shorten (most : Nat) (overflow : Overflow) (line : List Char) : List Char :=
  if width line ≤ most then line
  else
    match overflow with
    | .fold => fit most line
    | .ellipsis => fit (most - 1) line ++ ['…']

/-- A line in its place. -/
def justify (most : Nat) (overflow : Overflow) (how : Justify) (line : List Char) : List Char :=
  match how with
  | .natural => line
  | .left =>
    let short := shorten most overflow line
    short ++ blanks (most - width short)
  | .center =>
    let short := shorten most overflow (stripRight line)
    let padded := blanks ((most - width short) / 2) ++ short
    padded ++ blanks (most - width padded)
  | .right =>
    let short := shorten most overflow (stripRight line)
    blanks (most - width short) ++ short

/-- Distance between tab stops. -/
def tabSize : Nat := 8

/-- A line with tabs replaced by blanks up to the next tab stop, from the column `filled` on.
The pieces between tabs are measured as a whole. -/
def expandTabs (filled : Nat) (piece : List Char) : List Char → List Char
  | [] => piece
  | c :: rest =>
    if c = '\t' then
      let reached := filled + width (piece ++ [' '])
      let stop := (reached + tabSize - 1) / tabSize * tabSize
      piece ++ ' ' :: blanks (stop - reached) ++ expandTabs stop [] rest
    else expandTabs filled (piece ++ [c]) rest

/-- The pieces of a text between line feeds. -/
def linesOf : List Char → List (List Char)
  | [] => [[]]
  | c :: rest =>
    if c = '\n' then [] :: linesOf rest
    else
      match linesOf rest with
      | [] => [[c]]
      | line :: lines => (c :: line) :: lines

/-- Sets a text into lines of a width. -/
def wrap (most : Nat) (overflow : Overflow) (how : Justify) (text : List Char) :
    List (List Char) :=
  (linesOf text).flatMap fun line =>
    let line := expandTabs 0 [] line
    (cutAt 0 (breaks most overflow line) line).map fun part =>
      shorten most overflow (justify most overflow how (dropExcess most part))

/-- Characters that a screen would obey are left out: bells, steps back, tabs and feeds of
other kinds, and returns. -/
def clean (text : List Char) : List Char :=
  text.filter fun c => c.toNat ∉ [7, 8, 11, 12, 13]

/-! ### Room -/

/-- How much room something needs, at least and at best. -/
structure Extent where
  least : Nat
  most : Nat
  deriving DecidableEq

/-- Characters that end a line when a text is measured. -/
def isLineEnd (c : Char) : Bool :=
  c.toNat ∈ [0x0a, 0x0b, 0x0c, 0x0d, 0x1c, 0x1d, 0x1e, 0x85, 0x2028, 0x2029]

/-- The greatest width of the pieces of a text between characters of a kind. -/
def widest (isEnd : Char → Bool) (piece : List Char) : List Char → Nat
  | [] => width piece
  | c :: rest =>
    if isEnd c then max (width piece) (widest isEnd [] rest)
    else widest isEnd (piece ++ [c]) rest

/-- How much room a text needs: its widest word, and its widest line. -/
def extent (text : List Char) : Extent :=
  let most := widest isLineEnd [] text
  { least := if text.all isBlank then most else widest isBlank [] text, most }

/-- The room within a limit. -/
def Extent.within (e : Extent) (limit : Nat) : Extent :=
  { least := min (min e.least e.most) limit, most := min e.most limit }

end ChecklistReview.Layout
