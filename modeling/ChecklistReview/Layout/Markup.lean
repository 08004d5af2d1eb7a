import ChecklistReview.Layout.Wrap

/-!
# Marked-up text

Texts for the screen may hold tags in square brackets, which ask for a style. A backslash before
a tag makes it plain text, and two backslashes stand for one. Styles are not shown here, so that
what remains of a marked-up text is its plain text.

## Main definitions

* `tag?` recognises a tag.
* `escape` makes all tags of a text plain.
* `plainText` is the plain text of a marked-up text.
-/

namespace ChecklistReview.Layout.Markup

/-- Whether a character may begin the name of a tag. -/
def beginsTag (c : Char) : Bool := ('a' ≤ c && c ≤ 'z') || c = '#' || c = '/' || c = '@'

/-- The rest of a text after its first closing bracket, unless an opening one comes first, and
the characters up to there. -/
def closing? : List Char → Option (List Char × List Char)
  | [] => none
  | c :: rest =>
    if c = ']' then some ([c], rest)
    else if c = '[' then none
    else (closing? rest).map fun (tag, more) => (c :: tag, more)

/-- A tag at the start of a text, and the rest of the text. -/
def tag? : List Char → Option (List Char × List Char)
  | '[' :: c :: rest =>
    if beginsTag c then (closing? rest).map fun (tag, more) => ('[' :: c :: tag, more) else none
  | _ => none

theorem length_of_closing? {text tag rest : List Char} (h : closing? text = some (tag, rest)) :
    rest.length < text.length := by
  induction text generalizing tag with
  | nil => simp [closing?] at h
  | cons c more ih =>
    simp only [closing?] at h
    split at h
    · simp only [Option.some.injEq, Prod.mk.injEq] at h
      simp [← h.2]
    · split at h
      · simp at h
      · obtain ⟨parts, hp, he⟩ := Option.map_eq_some_iff.mp h
        simp only [Prod.mk.injEq] at he
        have hc : closing? more = some (parts.1, rest) := by rw [hp, ← he.2]
        have := ih hc
        simp only [List.length_cons]
        omega

theorem length_of_tag? {text tag rest : List Char} (h : tag? text = some (tag, rest)) :
    rest.length < text.length := by
  unfold tag? at h
  split at h
  · split at h
    · obtain ⟨parts, hp, he⟩ := Option.map_eq_some_iff.mp h
      simp only [Prod.mk.injEq] at he
      rename_i more _
      have hc : closing? more = some (parts.1, rest) := by rw [hp, ← he.2]
      have := length_of_closing? hc
      simp only [List.length_cons]
      omega
    · simp at h
  · simp at h

/-- The backslashes at the start of a text. -/
def backslashes (text : List Char) : Nat := (text.takeWhile (· = '\\')).length

/-- A part of a marked-up text. -/
inductive Part where
  | char (c : Char)
  /-- A tag after a number of backslashes. -/
  | tag (escapes : Nat) (text : List Char)

/-- The parts of a marked-up text. `escapes` counts the backslashes just before the text, which
belong to a tag if one follows. -/
def parts (escapes : Nat) (text : List Char) : List Part :=
  match _h : tag? text with
  | some (tag, rest) => .tag escapes tag :: parts 0 rest
  | none =>
    match text with
    | [] => List.replicate escapes (.char '\\')
    | c :: rest =>
      if c = '\\' then parts (escapes + 1) rest
      else List.replicate escapes (.char '\\') ++ .char c :: parts 0 rest
termination_by text.length
decreasing_by
  · exact length_of_tag? _h
  · simp
  · simp

/-- Backslashes. -/
def slashes (n : Nat) : List Char := List.replicate n '\\'

/-- A part with its tag made plain. -/
def Part.escaped : Part → List Char
  | .char c => [c]
  | .tag escapes text => slashes (2 * escapes + 1) ++ text

/-- A text with its tags made plain. A backslash at its end is doubled, so that it does not
escape what follows. -/
def escape (text : List Char) : List Char :=
  let escaped := (parts 0 text).flatMap Part.escaped
  if backslashes escaped.reverse = 1 then escaped ++ ['\\'] else escaped

/-- A text without the backslash before each opening bracket. -/
def unescape : List Char → List Char
  | [] => []
  | [c] => [c]
  | c :: d :: rest =>
    if c = '\\' && d = '[' then unescape (d :: rest) else c :: unescape (d :: rest)

/-- The plain text of parts. `run` are the characters since the last tag. -/
def plainOf (run : List Char) : List Part → List Char
  | [] => unescape run
  | .char c :: rest => plainOf (run ++ [c]) rest
  | .tag escapes text :: rest =>
    unescape run ++ slashes (escapes / 2) ++ (if escapes % 2 = 1 then text else []) ++
      plainOf [] rest

/-- The plain text of a marked-up text. -/
def plainText (text : List Char) : List Char :=
  if text.contains '[' then clean (plainOf [] (parts 0 text)) else clean text

end ChecklistReview.Layout.Markup
