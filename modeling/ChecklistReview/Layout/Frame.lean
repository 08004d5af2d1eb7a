import ChecklistReview.Text.Width

/-!
# Frames

The lines around and between the cells of a table or around a panel.
-/

namespace ChecklistReview.Layout

open Text

/-- The characters of a horizontal line: at its left end, along it, where it meets a divider,
and at its right end. -/
structure Edge where
  left : Char
  along : Char
  crossing : Char
  right : Char

/-- The characters of a frame. -/
structure Frame where
  top : Edge
  /-- Below the headings. -/
  head : Edge
  bottom : Edge
  /-- Left of a row, between its cells and right of it. -/
  left : Char
  divider : Char
  right : Char

/-- A line of blanks. -/
def Edge.blank : Edge := { left := ' ', along := ' ', crossing := ' ', right := ' ' }

/-- A frame with round corners. -/
def Frame.rounded : Frame :=
  { top := { left := '╭', along := '─', crossing := '┬', right := '╮' }
    head := { left := '├', along := '─', crossing := '┼', right := '┤' }
    bottom := { left := '╰', along := '─', crossing := '┴', right := '╯' }
    left := '│', divider := '│', right := '│' }

/-- A frame that shows only the line below the headings. -/
def Frame.simple : Frame :=
  { top := Edge.blank
    head := { left := ' ', along := '─', crossing := '─', right := ' ' }
    bottom := Edge.blank
    left := ' ', divider := ' ', right := ' ' }

/-- A horizontal line over columns. -/
def Edge.line (e : Edge) (widths : List Nat) : List Char :=
  e.left :: List.intercalate [e.crossing] (widths.map fun w => List.replicate w e.along) ++
    [e.right]

/-- A line of a row. -/
def Frame.row (f : Frame) (cells : List (List Char)) : List Char :=
  f.left :: List.intercalate [f.divider] cells ++ [f.right]

end ChecklistReview.Layout
