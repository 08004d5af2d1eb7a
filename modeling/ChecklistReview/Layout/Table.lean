import ChecklistReview.Layout.Frame
import ChecklistReview.Layout.Wrap

/-!
# Tables

A table has columns with headings and rows of texts. Columns of a fixed width keep it as long as
there is room. The other columns are as wide as their widest text, and where there is not enough
room the widest of them are narrowed first.

## Main definitions

* `Table` with its `Column`s.
* `Table.widths` divides the room among the columns.
* `Table.render` sets a table into lines.
-/

namespace ChecklistReview.Layout

open Text

/-- A column of a table. -/
structure Column where
  heading : String
  justify : Justify := .left
  /-- The width of its texts, if it is fixed. -/
  fixed : Option Nat := none

/-- A table. -/
structure Table where
  title : Option String := none
  frame : Frame
  columns : List Column
  /-- The rows, with a text for each column. -/
  rows : List (List (List Char))

namespace Table

/-- Blanks on the two sides of a text. -/
def padding : Nat := 2

/-- The sum of widths or shares. -/
def sumOf (ns : List Nat) : Nat := ns.foldl (· + ·) 0

/-- The quotient, rounded to the nearest number and to an even one in the middle. -/
def roundedQuotient (a b : Nat) : Nat :=
  let q := a / b
  let twice := 2 * (a % b)
  if b < twice || (twice = b && q % 2 = 1) then q + 1 else q

/-- Takes `total` from values in the ratio of their shares, each at most its limit. A triple has
a share, a limit and a value, and `shares` is the sum of the shares. -/
def reduceBy (total shares : Nat) : List (Nat × Nat × Nat) → List Nat
  | [] => []
  | (share, limit, value) :: rest =>
    if share ≠ 0 && shares ≠ 0 then
      let taken := min limit (roundedQuotient (share * total) shares)
      (value - taken) :: reduceBy (total - taken) (shares - share) rest
    else value :: reduceBy total shares rest

/-- Takes `total` from values in the ratio of their shares. Values whose limit is zero have no
share. -/
def reduce (total : Nat) (parts : List (Nat × Nat × Nat)) : List Nat :=
  let parts := parts.map fun (share, limit, value) =>
    (if limit = 0 then 0 else share, limit, value)
  let shares := sumOf (parts.map fun part => part.1)
  if shares = 0 then parts.map fun part => part.2.2 else reduceBy total shares parts

/-- One round of narrowing: the widest columns that may be narrowed come down to the next
widest. Nothing if that is not possible. -/
def narrowOnce? (room : Nat) (columns : List (Nat × Bool)) : Option (List (Nat × Bool)) :=
  let total := sumOf (columns.map Prod.fst)
  let widest := ((columns.filter Prod.snd).map Prod.fst).foldl max 0
  let next := ((columns.filter fun c => c.2 && c.1 ≠ widest).map Prod.fst).foldl max 0
  if total ≤ room || widest = next then none
  else
    let limit := min (total - room) (widest - next)
    let parts := columns.map fun (w, mayNarrow) =>
      (if mayNarrow && w = widest then 1 else 0, limit, w)
    some ((reduce (total - room) parts).zip (columns.map Prod.snd))

/-- Narrows columns, in as many rounds as `fuel` allows. -/
def narrow (room : Nat) : Nat → List (Nat × Bool) → List Nat
  | 0, columns => columns.map Prod.fst
  | fuel + 1, columns =>
    match narrowOnce? room columns with
    | none => columns.map Prod.fst
    | some narrower => narrow room fuel narrower

/-- The width of a column within a limit: a fixed width, or that of its widest text. -/
def columnWidth (limit : Nat) (column : Column) (texts : List (List Char)) : Nat :=
  match column.fixed with
  | some w => min (w + padding) limit
  | none =>
    if limit ≤ padding then limit
    else
      let widest := ((column.heading.toList :: texts).map fun t => (extent t).most).foldl max 0
      min (min widest limit + padding) limit

/-- The texts of the columns. -/
def texts (t : Table) : List (Column × List (List Char)) :=
  t.columns.zipIdx.map fun (column, i) => (column, t.rows.map fun row => row.getD i [])

/-- The widths of the columns, with the padding of their texts. -/
def widths (t : Table) (room : Nat) : List Nat :=
  let wanted := t.texts.map fun (column, cells) => max 1 (columnWidth room column cells)
  if sumOf wanted ≤ room then wanted
  else
    let narrowed := narrow room (sumOf wanted)
      (wanted.zip (t.columns.map fun column => column.fixed.isNone))
    let narrowed := if sumOf narrowed ≤ room then narrowed
      else reduce (sumOf narrowed - room) (narrowed.map fun w => (1, w, w))
    (narrowed.zip t.texts).map fun (w, column, cells) => columnWidth w column cells

/-- The width that the frame takes. -/
def frameWidth (t : Table) : Nat := t.columns.length + 1

/-- The lines of a text in a column. -/
def cellLines (w : Nat) (how : Justify) (text : List Char) : List (List Char) :=
  if w ≤ padding then []
  else
    (wrap (w - padding) .ellipsis how text).map fun line => ' ' :: fit (w - padding) line ++ [' ']

/-- Lines with blank lines below or above them. -/
def fillBelow (w height : Nat) (lines : List (List Char)) : List (List Char) :=
  lines ++ List.replicate (height - lines.length) (blanks w)

/-- Lines with blank lines above them. -/
def fillAbove (w height : Nat) (lines : List (List Char)) : List (List Char) :=
  List.replicate (height - lines.length) (blanks w) ++ lines

/-- The lines of a row. The texts of the headings stand at the bottom. -/
def rowLines (t : Table) (ws : List Nat) (isHeading : Bool) (row : List (List Char)) :
    List (List Char) :=
  let cells := (ws.zip (t.columns.zip row)).map fun (w, column, text) =>
    (w, cellLines w column.justify text)
  let height := max 1 ((cells.map fun cell => cell.2.length).foldl max 0)
  let filled := cells.map fun (w, lines) =>
    if isHeading then fillAbove w height lines else fillBelow w height lines
  (List.range height).map fun i => t.frame.row (filled.map fun lines => lines.getD i [])

/-- Sets a table into lines. -/
def render (t : Table) (room : Nat) : List (List Char) :=
  let ws := t.widths (room - t.frameWidth)
  let total := sumOf ws + t.frameWidth
  let title := match t.title with
    | some title => if total = 0 then [] else wrap total .fold .center title.toList
    | none => []
  let headings := t.rowLines ws true (t.columns.map fun column => column.heading.toList)
  title ++ [t.frame.top.line ws] ++ headings ++ [t.frame.head.line ws] ++
    t.rows.flatMap (t.rowLines ws false) ++ [t.frame.bottom.line ws]

end Table

end ChecklistReview.Layout
