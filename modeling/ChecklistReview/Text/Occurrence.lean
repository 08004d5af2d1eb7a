/-!
# Occurrences of a text in a text

## Main definitions

* `cut?` cuts a text around the first occurrence of another.
* `replaceFirst` replaces the first occurrence.
* `piecesBetween` are the pieces between occurrences from left to right.
-/

namespace ChecklistReview.Text

variable {α : Type} [DecidableEq α]

/-- The parts of a text before and after the first occurrence of another. -/
def cut? (sought : List α) : List α → Option (List α × List α)
  | [] => if sought = [] then some ([], []) else none
  | c :: rest =>
    if sought.isPrefixOf (c :: rest) then some ([], (c :: rest).drop sought.length)
    else (cut? sought rest).map fun (before, after) => (c :: before, after)

/-- A text cut around an occurrence has the occurrence between the parts. -/
theorem eq_append_of_cut?_eq_some {sought text before after : List α}
    (h : cut? sought text = some (before, after)) : text = before ++ (sought ++ after) := by
  induction text generalizing before with
  | nil =>
    simp only [cut?] at h
    split at h
    · next hs => simp_all
    · simp at h
  | cons c rest ih =>
    simp only [cut?] at h
    split at h
    · next hp =>
      obtain ⟨tail, ht⟩ := List.isPrefixOf_iff_prefix.mp hp
      simp only [Option.some.injEq, Prod.mk.injEq] at h
      rw [← h.1, ← h.2, ← ht]
      simp
    · cases hr : cut? sought rest with
      | none => simp [hr] at h
      | some parts =>
        simp only [hr, Option.map_some, Option.some.injEq, Prod.mk.injEq] at h
        have := @ih parts.1 (by rw [hr, ← h.2])
        rw [← h.1, List.cons_append, ← this]

/-- Whether a text occurs in another. -/
def occursIn (sought text : List α) : Bool := (cut? sought text).isSome

/-- A text with the first occurrence of `sought` replaced. -/
def replaceFirst (sought new text : List α) : List α :=
  match cut? sought text with
  | some (before, after) => before ++ new ++ after
  | none => text

/-- The pieces of a text between the occurrences of a text that is not empty, from left to
right and without overlaps. -/
def piecesBetween (sought : List α) (h : sought ≠ []) (text : List α) : List (List α) :=
  match _hc : cut? sought text with
  | none => [text]
  | some (before, after) => before :: piecesBetween sought h after
termination_by text.length
decreasing_by
  have hl := congrArg List.length (eq_append_of_cut?_eq_some _hc)
  have hs := List.length_pos_iff.mpr h
  simp only [List.length_append] at hl
  omega

end ChecklistReview.Text
