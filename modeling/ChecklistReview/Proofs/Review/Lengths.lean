import ChecklistReview.Proofs.Review.Location
import ChecklistReview.Proofs.Review.PatternFindings
import ChecklistReview.Proofs.Text.Runs

/-!
# What length rules measure

Length rules look at the lines of a file. What they report can be told from the text alone: the
number of lines by counting the letters that end lines, and the lines that are too long as the runs
of other letters. A smaller threshold reports the same and possibly more.

## Main statements

* `LengthCheck.longLines_eq_map`: the lines that are reported are the long runs of the text.
* `LengthCheck.sublist_longLines`: what a threshold reports, a smaller one reports as well.
* `Review.lengths_measure_text`: all of this for the rules of a checklist.
-/

namespace ChecklistReview

open Source Text

-- ════════════════════════════════════════════════════════════════════════
-- Long lines in a text
-- ════════════════════════════════════════════════════════════════════════

namespace Text

theorem breakCount_append_break {content ending text : List Char} (hc : Unbroken content)
    (he : IsBreak ending) (hr : ending = [cr] → text.head? ≠ some lf) :
    breakCount (content ++ (ending ++ text)) = breakCount text + 1 := by
  have hlines := congrArg List.length (lines_append_break hc he hr)
  rw [List.length_cons, length_lines_eq, length_lines_eq] at hlines
  omega

/-- A text has a long line exactly if it has a part without breaks that is one letter longer than
lines may be. -/
theorem exists_long_line_iff {most : Int} (hmost : 0 ≤ most) (text : List Char) :
    (∃ line ∈ splitLines text, most < line.length) ↔
      ∃ part, part <:+: text ∧ Unbroken part ∧ (part.length : Int) = most + 1 := by
  constructor
  · rintro ⟨line, hline, hlong⟩
    obtain ⟨l, hl, rfl⟩ := List.mem_map.mp hline
    obtain ⟨index, hindex⟩ := List.getElem?_of_mem hl
    obtain ⟨before, after, -, -, -, htext⟩ := exists_of_lines_getElem? hindex
    have hpart : l.content.take (most.toNat + 1) <:+: l.content :=
      (List.take_prefix _ _).isInfix
    refine ⟨l.content.take (most.toNat + 1), hpart.trans ?_, ?_, ?_⟩
    · exact ⟨join before, l.ending ++ join after, by rw [htext, List.append_assoc]⟩
    · exact (unbroken_of_mem_splitLines hline).of_part hpart
    · rw [List.length_take]
      omega
  · rintro ⟨part, ⟨before, after, rfl⟩, hunbroken, hlength⟩
    obtain ⟨line, hline, hinfix⟩ := @LineIndex.infix_line_of_unbroken before part after hunbroken
    rw [← List.append_assoc] at hline
    refine ⟨line, List.mem_of_getElem? hline, ?_⟩
    have hle := hinfix.length_le
    omega

end Text

-- ════════════════════════════════════════════════════════════════════════
-- Long lines as they are reported
-- ════════════════════════════════════════════════════════════════════════

namespace LengthCheck

/-- The lines that are reported are the long runs of the text, each with the number of breaks
before it. -/
theorem longLines_eq_map {most : Int} (hmost : 0 ≤ most) (document : Document) (rule : Rule)
    {ls : List (Line Char)} (h : Cut ls) (index : Nat) :
    longLines document rule most index (ls.map Line.content) =
      (longRuns most (join ls)).map fun p =>
        findingForLine document rule (runFrom (join ls) p)
          (index + breakCount ((join ls).take p)) := by
  induction h generalizing index with
  | @last content hc =>
    have hrun : runFrom content 0 = content := by
      have hzero := @runFrom_zero Char _ _ content [] hc (by simp)
      rwa [List.append_nil] at hzero
    rw [List.map_singleton, longLines, longLines, join_cons, join_nil, List.append_nil,
      List.append_nil, longRuns_of_unbroken hmost hc]
    by_cases hlong : most < content.length
    · rw [if_pos hlong, if_pos hlong, List.map_singleton, hrun]
      rfl
    · rw [if_neg hlong, if_neg hlong, List.map_nil]
  | @cons content ending rest hc he hr _ ih =>
    -- After the first break the offsets are shifted and there is one more break before them.
    have hlater : ∀ p, findingForLine document rule (runFrom (join rest) p)
        (index + 1 + breakCount ((join rest).take p)) =
        findingForLine document rule
          (runFrom (content ++ (ending ++ join rest)) ((content ++ ending).length + p))
          (index + breakCount
            ((content ++ (ending ++ join rest)).take ((content ++ ending).length + p))) := by
      intro p
      have hseam : ending = [cr] → ((join rest).take p).head? ≠ some lf := by
        intro hcr hlf
        rw [List.head?_take] at hlf
        by_cases hp : p = 0
        · simp [hp] at hlf
        · rw [if_neg hp] at hlf
          exact hr hcr hlf
      have hbreaks := breakCount_append_break hc he hseam
      rw [← List.append_assoc, runFrom_append_right, List.take_length_add_append,
        List.append_assoc, hbreaks]
      congr 1
      omega
    have hfirst : runFrom (content ++ (ending ++ join rest)) 0 = content := by
      apply runFrom_zero hc
      intro c hmem
      exact endsLine_of_mem_head? he hmem
    rw [List.map_cons, longLines, ih, List.map_congr_left fun p _ => hlater p, join_cons,
      longRuns_append_break hmost hc he, List.map_append, List.map_map]
    by_cases hlong : most < content.length
    · rw [if_pos hlong, if_pos hlong, List.map_singleton, hfirst]
      rfl
    · rw [if_neg hlong, if_neg hlong]
      rfl

theorem sublist_longLines {few many : Int} (h : few ≤ many) {document : Document}
    {rule other : Rule} (hsame : findingForLine document rule = findingForLine document other)
    (index : Nat) (ls : List (List Char)) :
    (longLines document rule many index ls).Sublist (longLines document other few index ls) := by
  induction ls generalizing index with
  | nil => exact List.Sublist.refl _
  | cons line ls ih =>
    rw [longLines, longLines, hsame]
    by_cases hmany : many < line.length
    · have hfew : few < line.length := by omega
      rw [if_pos hmany, if_pos hfew]
      exact (ih (index + 1)).cons_cons _
    · rw [if_neg hmany]
      by_cases hfew : few < line.length
      · rw [if_pos hfew]
        exact (ih (index + 1)).cons _
      · rw [if_neg hfew]
        exact ih (index + 1)

theorem longLines_eq_nil_iff {most : Int} (document : Document) (rule : Rule) (index : Nat)
    (ls : List (List Char)) :
    longLines document rule most index ls = [] ↔ ¬ ∃ line ∈ ls, most < line.length := by
  induction ls generalizing index with
  | nil => simp [longLines]
  | cons line ls ih =>
    rw [longLines]
    by_cases hlong : most < line.length
    · simp [hlong]
    · rw [if_neg hlong, ih]
      simp [hlong]

end LengthCheck

-- ════════════════════════════════════════════════════════════════════════
-- Length rules
-- ════════════════════════════════════════════════════════════════════════

/-- The rule with a greatest number of lines as its check. -/
def Rule.limitingLines (rule : Rule) (most : Int) : Rule :=
  { rule with check := .fileLength (some most) }

/-- The rule with a greatest length of lines as its check. -/
def Rule.limitingLength (rule : Rule) (most : Int) : Rule :=
  { rule with check := .lineLength (some most) }

namespace Review

theorem threshold?_of_ne {most : Int} (h : most ≠ 0) :
    LengthCheck.threshold? (some most) = some most := by
  simp [LengthCheck.threshold?, h]

section

variable {document : Document} {rule : Rule} {parse : SyntaxReader} {runtime : Runtime}
  (happlies : rule.appliesTo document.language = true) {most : Int} (hne : most ≠ 0)

include happlies hne

theorem value_limitingLines :
    (evaluateRule document (rule.limitingLines most) parse runtime).value =
      .ok (if most < document.lineCount then
        [LengthCheck.findingForFile document (rule.limitingLines most)] else []) := by
  have hsame : (rule.limitingLines most).appliesTo document.language = true := happlies
  change Except.ok (LengthCheck.evaluateFile document (rule.limitingLines most)
    (some most)).value = _
  rw [LengthCheck.evaluateFile, threshold?_of_ne hne]
  by_cases hmost : most < document.lineCount
  · simp [hsame, hmost]
  · simp [hmost]

theorem value_limitingLength :
    (evaluateRule document (rule.limitingLength most) parse runtime).value =
      .ok (LengthCheck.longLines document (rule.limitingLength most) most 0 document.lines) := by
  have hsame : (rule.limitingLength most).appliesTo document.language = true := happlies
  change Except.ok (LengthCheck.evaluateLines document (rule.limitingLength most)
    (some most)).value = _
  rw [LengthCheck.evaluateLines, threshold?_of_ne hne]
  simp [hsame]

end

/-- What length rules report on a text, for every rule that is for its language. A greatest number
of lines is exceeded exactly if the count of the letters that end lines says so. With a greatest
length, the findings are the runs of letters between such letters that are longer, from left to
right, so there is one exactly if a part without breaks is one letter longer than that. The findings
for a threshold are among those for a smaller one, in the same order. -/
theorem lengths_measure_text (path : Path) (text : String) (language : Option String) (rule : Rule)
    (parse : SyntaxReader) (runtime : Runtime) :
    let document := Document.ofText path text language
    let letters := text.toList
    rule.appliesTo document.language = true →
    (∀ most : Int, most ≠ 0 →
      (evaluateRule document (rule.limitingLines most) parse runtime).value =
        .ok (if most < 1 + letters.count '\r' + letters.count '\n' - wideBreaks letters then
          [LengthCheck.findingForFile document (rule.limitingLines most)] else [])) ∧
    (∀ most : Int, 0 < most → ∃ findings,
      (evaluateRule document (rule.limitingLength most) parse runtime).value = .ok findings ∧
      findings = (longRuns most letters).map (fun p =>
        LengthCheck.findingForLine document (rule.limitingLength most) (runFrom letters p)
          (breakCount (letters.take p))) ∧
      (findings ≠ [] ↔
        ∃ part, part <:+: letters ∧ ('\r' ∉ part ∧ '\n' ∉ part) ∧
          (part.length : Int) = most + 1)) ∧
    (∀ few many : Int, few ≠ 0 → many ≠ 0 → few ≤ many →
      (∃ xs ys, (evaluateRule document (rule.limitingLines many) parse runtime).value = .ok xs ∧
        (evaluateRule document (rule.limitingLines few) parse runtime).value = .ok ys ∧
        xs.Sublist ys) ∧
      (∃ xs ys, (evaluateRule document (rule.limitingLength many) parse runtime).value = .ok xs ∧
        (evaluateRule document (rule.limitingLength few) parse runtime).value = .ok ys ∧
        xs.Sublist ys)) := by
  intro document letters happlies
  have hlines : document.lineCount = (lines letters).length := by
    rw [← length_splitLines]
    exact lineCount_ofText path text language
  have hcount : (lines letters).length + wideBreaks letters =
      letters.count '\r' + letters.count '\n' + 1 := length_lines_add_wideBreaks letters
  refine ⟨?_, ?_, ?_⟩
  · intro most hne
    have hiff : most < (document.lineCount : Int) ↔
        most < 1 + letters.count '\r' + letters.count '\n' - wideBreaks letters := by omega
    rw [value_limitingLines happlies hne]
    simp only [hiff]
  · intro most hmost
    refine ⟨_, value_limitingLength happlies (by omega), ?_, ?_⟩
    · have hruns := LengthCheck.longLines_eq_map (Int.le_of_lt hmost) document
        (rule.limitingLength most) (cut_lines letters) 0
      simp only [join_lines, Nat.zero_add] at hruns
      exact hruns
    · rw [ne_eq, LengthCheck.longLines_eq_nil_iff, Classical.not_not]
      simp only [← unbroken_char_iff]
      exact exists_long_line_iff (Int.le_of_lt hmost) letters
  · intro few many hfew hmany hle
    constructor
    · refine ⟨_, _, value_limitingLines happlies hmany, value_limitingLines happlies hfew, ?_⟩
      by_cases hexceeds : many < document.lineCount
      · rw [if_pos hexceeds, if_pos (by omega)]
        exact List.Sublist.refl _
      · rw [if_neg hexceeds]
        exact List.nil_sublist _
    · have hsame : LengthCheck.findingForLine document (rule.limitingLength many) =
          LengthCheck.findingForLine document (rule.limitingLength few) := rfl
      exact ⟨_, _, value_limitingLength happlies hmany, value_limitingLength happlies hfew,
        LengthCheck.sublist_longLines hle hsame 0 document.lines⟩

namespace MixedBreaks

/-- Four lines, the third of them empty, with breaks of two letters and of one. -/
def text : String := String.ofList ['a', 'b', '\r', '\n', 'c', 'd', 'e', '\r', '\n', '\r', 'f']

def path : Path := ⟨.relative, ["a.ts"]⟩

def document : Document := Document.ofText path text none

/-- A rule for all languages. -/
def rule : Rule :=
  { id := some (.text "L"), title := none, description := none, severity := none, languages := none
    isFixable := false, template := none, check := .lineLength none }

end MixedBreaks

open MixedBreaks

/-- The run of three letters is on the second line, and there are four lines. -/
theorem lengths_measure_mixed_breaks :
    rule.appliesTo document.language = true ∧
    (evaluateRule document (rule.limitingLines 3)).value =
      .ok [LengthCheck.findingForFile document (rule.limitingLines 3)] ∧
    (evaluateRule document (rule.limitingLines 4)).value = .ok [] ∧
    (evaluateRule document (rule.limitingLength 2)).value =
      .ok [LengthCheck.findingForLine document (rule.limitingLength 2) ['c', 'd', 'e'] 1] := by
  have happlies : rule.appliesTo document.language = true := rfl
  obtain ⟨hfile, hline, -⟩ :=
    lengths_measure_text path text none rule TypeScript.parse {} happlies
  obtain ⟨findings, hvalue, hruns, -⟩ := hline 2 (by decide)
  refine ⟨happlies, hfile 3 (by decide), hfile 4 (by decide), ?_⟩
  rw [hruns] at hvalue
  exact hvalue

end Review

end ChecklistReview
