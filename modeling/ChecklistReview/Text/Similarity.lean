/-!
# Similar words

Two words are alike as far as they share runs of characters: their longest common run, and on
both sides of it what the remaining parts share. Words that are alike enough are offered when a
word is unknown.

## Main definitions

* `shared` counts the characters that two words share.
* `closeTo` chooses the words that are like a word.
-/

namespace ChecklistReview.Text

/-- How many characters two words have in common at their beginnings. -/
def commonStart : List Char → List Char → Nat
  | a :: as, b :: bs => if a = b then commonStart as bs + 1 else 0
  | _, _ => 0

/-- A run that occurs in two words. -/
structure Run where
  /-- Where the run starts in the first word. -/
  first : Nat
  /-- Where the run starts in the second word. -/
  second : Nat
  length : Nat

/-- The longer of two runs, and the earlier one if they are equally long. -/
def Run.longer (earlier later : Run) : Run :=
  if earlier.length < later.length then later else earlier

/-- The longest common run of two words, the earliest in the first word and then in the second. -/
def longestRun (a b : List Char) : Run :=
  (List.range a.length).foldl (fun best i =>
    (List.range b.length).foldl (fun best j =>
      best.longer { first := i, second := j, length := commonStart (a.drop i) (b.drop j) }) best)
    { first := 0, second := 0, length := 0 }

/-- How many characters two words share. -/
def shared (a b : List Char) : Nat :=
  match longestRun a b with
  | { first := i, second := j, length } =>
    if _h : i < a.length ∧ 0 < length then
      shared (a.take i) (b.take j) + length + shared (a.drop (i + length)) (b.drop (j + length))
    else 0
termination_by a.length
decreasing_by
  · simp only [List.length_take]; omega
  · simp only [List.length_drop]; omega

/-- A word with what it shares with another one. -/
structure Likeness where
  word : String
  shared : Nat
  /-- The number of characters of both words. -/
  total : Nat

/-- Whether two words are alike enough: they share three tenths of all their characters. -/
def Likeness.isClose (l : Likeness) : Bool := 3 * l.total ≤ 10 * l.shared

/-- Whether the first likeness is offered before the second: the greater share first, and the
later word among equal shares. -/
def Likeness.precedes (l m : Likeness) : Bool :=
  let left := l.shared * m.total
  let right := m.shared * l.total
  right < left || (left = right && m.word ≤ l.word)

/-- So many words are offered at most. -/
def offerLimit : Nat := 3

/-- The candidates that are like a word, the best first. -/
def closeTo (word : String) (candidates : List String) : List String :=
  let all := candidates.map fun c : String =>
    { word := c, shared := shared c.toList word.toList, total := c.length + word.length : Likeness }
  (((all.filter Likeness.isClose).mergeSort Likeness.precedes).take offerLimit).map Likeness.word

end ChecklistReview.Text
