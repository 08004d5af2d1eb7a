import ChecklistReview.Proofs.Fix.Contract

/-!
# Templates and lines

A template is cut at its placeholders before the match is known, and the pieces are joined by the
match as it is. So a placeholder that the match brings along, or that comes about where the match
meets the pieces, is not replaced.

The placeholder begins with a letter that does not come again in it. Hence it cannot overlap with
itself, and there is only one way to cut a template into pieces without placeholders.

## Main statements

* `separates_placeholder_iff`: the pieces of a template are the only ones without placeholders.
* `render_self`: the placeholder as match gives the template.
* `fixLine_cases`: a line is mended at the first occurrence of the match.
* `insertion_is_literal`: what templates and lines become.
-/

namespace ChecklistReview.Fix

open Text

variable {α : Type} [Alphabet α]

-- ════════════════════════════════════════════════════════════════════════
-- The pieces of a template
-- ════════════════════════════════════════════════════════════════════════

theorem placeholder_eq_cons :
    (placeholder : List α) = Alphabet.ofChar '$' :: letters (.text "MATCH") := rfl

/-- The pieces of a template are the only ones without placeholders that make it up with
placeholders between them. -/
theorem separates_placeholder_iff {template : List α} {pieces : List (List α)} :
    Separates placeholder template pieces ↔
      pieces ≠ [] ∧ List.intercalate placeholder pieces = template ∧
        ∀ piece ∈ pieces, ¬ placeholder <:+: piece := by
  have hfirst : Alphabet.ofChar '$' ∉ (letters (.text "MATCH") : List α) := by
    rw [mem_letters_iff (by decide)]
    decide
  rw [placeholder_eq_cons]
  exact separates_iff_of_not_mem hfirst

variable [DecidableEq α]

theorem render_of_separates {template : List α} {pieces : List (List α)}
    (h : Separates placeholder template pieces) (found : List α) :
    render template found = List.intercalate found pieces := by
  rw [render, (separates_iff placeholder_ne_nil).mp h]

/-- The placeholder as match gives the template. -/
theorem render_self (template : List α) : render template placeholder = template :=
  (separates_piecesBetween placeholder_ne_nil template).intercalate_eq

-- ════════════════════════════════════════════════════════════════════════
-- Lines
-- ════════════════════════════════════════════════════════════════════════

/-- A line is mended at the first occurrence of the match, if there is one. -/
theorem fixLine_cases (line found template : List α) :
    (∃ before after, FirstOccurrence found line before after ∧ (found = [] → before = []) ∧
        fixLine line found template = before ++ render template found ++ after) ∨
      (¬ found <:+: line ∧ fixLine line found template = line) := by
  rcases replaceFirst_cases found (render template found) line with ⟨before, after, hfirst, heq⟩ | h
  · refine .inl ⟨before, after, hfirst, ?_, heq⟩
    rintro rfl
    exact hfirst.before_eq_nil
  · exact .inr h

/-- Templates and matches are inserted literally. A template has pieces, which are those between its
placeholders from left to right and the only ones without placeholders that make it up; every match
joins these same pieces. In a line the match is replaced where least stands before it, at the very
start if it is empty, and a line without the match stays. So the placeholder as match gives the
template, and the placeholder as template changes no line. -/
theorem insertion_is_literal (template : List α) :
    (∃ pieces : List (List α),
      (∀ others, Separates placeholder template others ↔ others = pieces) ∧
      (∀ others, others ≠ [] ∧ List.intercalate placeholder others = template ∧
        (∀ piece ∈ others, ¬ placeholder <:+: piece) ↔ others = pieces) ∧
      ∀ found, render template found = List.intercalate found pieces) ∧
    (∀ line found : List α,
      (∃ before after, FirstOccurrence found line before after ∧ (found = [] → before = []) ∧
          fixLine line found template = before ++ render template found ++ after) ∨
        (¬ found <:+: line ∧ fixLine line found template = line)) ∧
    render template placeholder = template ∧
    ∀ line found : List α, fixLine line found placeholder = line := by
  refine ⟨?_, fun line found => fixLine_cases line found template, render_self template,
    fixLine_placeholder⟩
  have hpieces := separates_piecesBetween placeholder_ne_nil template
  have hunique : ∀ others, Separates placeholder template others ↔
      others = piecesBetween placeholder placeholder_ne_nil template :=
    fun others => separates_iff placeholder_ne_nil
  refine ⟨_, hunique, ?_, render_of_separates hpieces⟩
  intro others
  rw [← separates_placeholder_iff]
  exact hunique others

/-- The match makes a placeholder together with the pieces around it, which stays, and the line has
the match twice. -/
theorem insertion_is_literal_around_match :
    let template : List Char := "$MA$MATCHH".toList
    let found : List Char := "TC".toList
    let line : List Char := "TTCTC".toList
    render template found = "$MATCH".toList ∧
      fixLine line found template = "T$MATCHTC".toList := by
  intro template found line
  obtain ⟨⟨pieces, -, hunique, hrender⟩, hline, -, -⟩ := insertion_is_literal template
  have hpieces : ["$MA".toList, "H".toList] = pieces :=
    (hunique _).mp ⟨by decide, by decide, by decide⟩
  have hrendered : render template found = "$MATCH".toList := by
    rw [hrender, ← hpieces]
    decide
  refine ⟨hrendered, ?_⟩
  have hfirst : FirstOccurrence found line "T".toList "TC".toList :=
    cut?_eq_some_iff.mp (by decide)
  rcases hline line found with ⟨before, after, hother, -, heq⟩ | ⟨hnot, -⟩
  · obtain ⟨rfl, rfl⟩ := hother.unique hfirst
    rw [heq, hrendered]
    decide
  · exact absurd ⟨_, _, hfirst.eq_append.symm⟩ hnot

end ChecklistReview.Fix
