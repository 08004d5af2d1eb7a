import ChecklistReview.Layout.Wrap

/-!
# Text that needs no wrapping

A text of characters that take one cell each stays one line where there is room for all of them.

## Main statements

* `width_eq_length`: such a text is as wide as it is long.
* `flatten_words_isPrefix`: the words of a text one after the other are its beginning.
* `wrap_of_length_le`: a text with enough room is one line.
-/

namespace ChecklistReview.Text

/-- The characters from a blank to a tilde. -/
def IsVisible (c : Char) : Prop := 32 ≤ c.toNat ∧ c.toNat < 127

theorem cells_of_lt : ∀ n < 127, 32 ≤ n → cells (Char.ofNat n) = 1 := by
  decide +kernel

namespace IsVisible

variable {c : Char}

theorem cells_eq (h : IsVisible c) : cells c = 1 := by
  simpa using cells_of_lt c.toNat h.2 h.1

theorem ne_of_le (h : IsVisible c) {d : Char} (hd : 127 ≤ d.toNat) : c ≠ d := by
  rintro rfl
  exact absurd h.2 (Nat.not_lt.mpr hd)

theorem ne_of_lt (h : IsVisible c) {d : Char} (hd : d.toNat < 32) : c ≠ d := by
  rintro rfl
  exact absurd h.1 (Nat.not_le.mpr hd)

end IsVisible

/-- A text of characters of one cell is as wide as it is long, whatever stands before it. -/
theorem widthAfter_eq_length {text : List Char} (h : ∀ c ∈ text, IsVisible c)
    (last : Option Char) : widthAfter last text = text.length := by
  induction text generalizing last with
  | nil => rfl
  | cons c rest ih =>
    have hc := h c List.mem_cons_self
    have hjoiner : c ≠ joiner := hc.ne_of_le (by decide)
    have hmark : c ≠ emojiMark := hc.ne_of_le (by decide)
    cases rest with
    | nil => simp [widthAfter, hjoiner, hmark, hc.cells_eq]
    | cons d rest =>
      have hrest := ih (fun e he => h e (List.mem_cons_of_mem c he)) (some c)
      simp [widthAfter, hjoiner, hmark, hc.cells_eq, hrest]
      omega

theorem width_eq_length {text : List Char} (h : ∀ c ∈ text, IsVisible c) :
    width text = text.length := widthAfter_eq_length h none

end ChecklistReview.Text

namespace ChecklistReview.Layout

open Text

theorem afterWord_isSuffix (text : List Char) : afterWord text <:+ text :=
  ((List.dropWhile_suffix _).trans (List.dropWhile_suffix _)).trans (List.dropWhile_suffix _)

/-- The words of a text one after the other are its beginning. -/
theorem flatten_words_isPrefix (text : List Char) : (words text).flatten <+: text := by
  fun_induction words text with
  | case1 text _ => exact List.nil_prefix
  | case2 text c rest _ ih =>
    -- what follows the first word is the text without as many characters as the word has
    have hrest := List.suffix_iff_eq_drop.mp (afterWord_isSuffix text)
    have htext := List.take_append_drop (text.length - (afterWord text).length) text
    rw [← hrest] at htext
    conv => rhs; rw [← htext]
    rw [List.flatten_cons]
    exact (List.prefix_append_right_inj _).mpr ih

theorem stripRight_isPrefix (text : List Char) : stripRight text <+: text := by
  rw [stripRight, ← List.reverse_suffix, List.reverse_reverse]
  exact List.dropWhile_suffix _

section Fits

variable {most : Nat} {overflow : Overflow}

/-- A word that fits into the line is placed there. -/
theorem place_of_length_le {p : Placing} {word : List Char} (hword : ∀ c ∈ word, IsVisible c)
    (hle : p.filled + word.length ≤ most) :
    place most overflow p word =
      { p with filled := p.filled + word.length, offset := p.offset + word.length } := by
  have hstrip : width (stripRight word) ≤ word.length := by
    have hpart := stripRight_isPrefix word
    rw [width_eq_length fun c hc => hword c (hpart.subset hc)]
    exact hpart.length_le
  unfold place
  simp only [width_eq_length hword]
  rw [if_pos (by omega)]

theorem found_foldl_place {parts : List (List Char)} {p : Placing}
    (hparts : ∀ c ∈ parts.flatten, IsVisible c)
    (hle : p.filled + parts.flatten.length ≤ most) :
    (parts.foldl (place most overflow) p).found = p.found := by
  induction parts generalizing p with
  | nil => rfl
  | cons word parts ih =>
    simp only [List.flatten_cons, List.length_append] at hparts hle
    rw [List.foldl_cons, place_of_length_le
      (fun c hc => hparts c (List.mem_append_left _ hc)) (by omega),
      ih (fun c hc => hparts c (List.mem_append_right _ hc)) (by simp only; omega)]

/-- A text with enough room is not broken. -/
theorem breaks_of_length_le {text : List Char} (htext : ∀ c ∈ text, IsVisible c)
    (hle : text.length ≤ most) : breaks most overflow text = [] := by
  have hwords := flatten_words_isPrefix text
  have hlength := hwords.length_le
  rw [breaks, found_foldl_place (fun c hc => htext c (hwords.subset hc)) (by simp only; omega),
    List.reverse_nil]

theorem expandTabs_of_not_mem {text : List Char} (h : '\t' ∉ text) (filled : Nat)
    (piece : List Char) : expandTabs filled piece text = piece ++ text := by
  induction text generalizing piece with
  | nil => rw [expandTabs, List.append_nil]
  | cons c rest ih =>
    rw [List.mem_cons, not_or] at h
    rw [expandTabs, if_neg (Ne.symm h.1), ih h.2, List.append_assoc, List.singleton_append]

theorem linesOf_of_not_mem {text : List Char} (h : '\n' ∉ text) : linesOf text = [text] := by
  induction text with
  | nil => rfl
  | cons c rest ih =>
    rw [List.mem_cons, not_or] at h
    rw [linesOf, if_neg (Ne.symm h.1), ih h.2]

/-- A text with enough room is one line. -/
theorem wrap_of_length_le {text : List Char} (htext : ∀ c ∈ text, IsVisible c)
    (hle : text.length ≤ most) : wrap most overflow .natural text = [text] := by
  have htab : '\t' ∉ text := fun h => (htext _ h).ne_of_lt (by decide) rfl
  have hfeed : '\n' ∉ text := fun h => (htext _ h).ne_of_lt (by decide) rfl
  have hkept : dropExcess most text = text := by
    rw [dropExcess, Nat.sub_eq_zero_of_le hle, Nat.min_zero, Nat.sub_zero, List.take_length]
  have hwidth : width text ≤ most := by
    rwa [width_eq_length htext]
  simp only [wrap, linesOf_of_not_mem hfeed, List.flatMap_singleton, expandTabs_of_not_mem htab,
    List.nil_append, breaks_of_length_le htext hle, cutAt, List.map_singleton, hkept, justify]
  rw [shorten.eq_def, if_pos hwidth]

end Fits

end ChecklistReview.Layout
