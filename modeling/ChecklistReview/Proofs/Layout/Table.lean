import ChecklistReview.Layout.Panel

/-!
# Rows of a table in its lines

A table is set into lines row by row: below its title and its headings stand the lines of the
first row, then those of the second one, and so on. A panel keeps every line that it frames.

## Main statements

* `Table.linesOfRow_ne_nil`: a row has at least one line.
* `Table.rows_infix_render`: the lines of the rows stand one after the other.
* `Panel.lines_infix_render`: the framed lines stand one after the other.
-/

namespace ChecklistReview.Layout

open Text

namespace Table

/-- The lines of a row when its table is set into a width. -/
def linesOfRow (t : Table) (room : Nat) (row : List (List Char)) : List (List Char) :=
  t.rowLines (t.widths (room - t.frameWidth)) false row

theorem linesOfRow_ne_nil (t : Table) (room : Nat) (row : List (List Char)) :
    t.linesOfRow room row ≠ [] := by
  rw [linesOfRow, rowLines, ne_eq, List.map_eq_nil_iff, List.range_eq_nil]
  omega

/-- The lines of the rows stand one after the other in the table. -/
theorem rows_infix_render (t : Table) (room : Nat) :
    t.rows.flatMap (t.linesOfRow room) <:+: t.render room :=
  List.infix_append _ _ _

end Table

namespace Panel

/-- A line in a panel. -/
def framed (p : Panel) (room : Nat) (line : List Char) : List Char :=
  p.frame.left :: ' ' :: fit (innerWidth room) line ++ [' ', p.frame.right]

/-- A panel with room for a character holds each of its lines in its frame. -/
theorem lines_infix_render (p : Panel) {room : Nat} (hroom : 4 < room)
    (lines : List (List Char)) : lines.map (p.framed room) <:+: p.render room lines := by
  have hinner : innerWidth room ≠ 0 := by
    rw [innerWidth]
    omega
  rw [render, if_neg hinner]
  exact ⟨[p.topLine room], [p.frame.bottom.line [room - 2]], rfl⟩

end Panel

end ChecklistReview.Layout
