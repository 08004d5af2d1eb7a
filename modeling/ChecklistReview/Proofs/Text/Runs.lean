import ChecklistReview.Proofs.Text.Lines

/-!
# Lines as runs of letters

What can be said about the lines of a text without cutting it into lines. Their number is one more
than the number of carriage returns and line feeds, where the two of a break of two letters count
once. The lines that are not empty are the runs of letters between letters that end lines, each as
long as it can be.

## Main statements

* `length_lines_eq`: the number of lines by counting letters.
* `longRuns` are the offsets at which long runs start, and `longRuns_append_break` tells how a line
  and its break add to them.
-/

namespace ChecklistReview.Text

variable {α : Type} [Breaks α] [DecidableEq α]

-- ════════════════════════════════════════════════════════════════════════
-- Counting letters
-- ════════════════════════════════════════════════════════════════════════

/-- The number of carriage returns with a line feed right after them. -/
def wideBreaks (text : List α) : Nat := (text.zip text.tail).countP fun p => p = (cr, lf)

/-- The number of breaks of a text: its carriage returns and line feeds, less one for each two that
are one break. -/
def breakCount (text : List α) : Nat := text.count cr + text.count lf - wideBreaks text

theorem wideBreaks_cons (c : α) (text : List α) :
    wideBreaks (c :: text) =
      wideBreaks text + if c = cr ∧ text.head? = some lf then 1 else 0 := by
  cases text with
  | nil => simp [wideBreaks]
  | cons d text => simp [wideBreaks, List.countP_cons]

theorem length_lines_cons {c : α} (hc : c ≠ cr ∧ c ≠ lf) (text : List α) :
    (lines (c :: text)).length = (lines text).length := by
  rw [lines_cons hc]
  obtain ⟨l, ls, hls⟩ := List.exists_cons_of_ne_nil (lines_ne_nil text)
  rw [hls]
  rfl

theorem length_lines_add_wideBreaks (text : List α) :
    (lines text).length + wideBreaks text = text.count cr + text.count lf + 1 := by
  have hne : (lf : α) ≠ cr := fun h => Breaks.cr_ne_lf h.symm
  induction text using break_induction with
  | nil => simp [wideBreaks]
  | letter c text hc ih =>
    rw [length_lines_cons hc, wideBreaks_cons, if_neg fun h => hc.1 h.1,
      List.count_cons_of_ne hc.1, List.count_cons_of_ne hc.2]
    omega
  | feed text ih =>
    rw [lines_lf_cons, wideBreaks_cons, if_neg fun h => hne h.1, List.count_cons_of_ne hne,
      List.count_cons_self, List.length_cons]
    omega
  | both text ih =>
    rw [lines_cr_lf_cons, wideBreaks_cons, if_pos ⟨rfl, rfl⟩, wideBreaks_cons,
      if_neg fun h => hne h.1, List.count_cons_self, List.count_cons_of_ne Breaks.cr_ne_lf,
      List.count_cons_of_ne hne, List.count_cons_self, List.length_cons]
    omega
  | ret text h ih =>
    rw [lines_cr_cons h, wideBreaks_cons, if_neg fun hw => h hw.2, List.count_cons_self,
      List.count_cons_of_ne Breaks.cr_ne_lf, List.length_cons]
    omega

theorem length_lines_eq (text : List α) : (lines text).length = breakCount text + 1 := by
  have hcount := length_lines_add_wideBreaks text
  have hpos := List.length_pos_iff.mpr (lines_ne_nil text)
  rw [breakCount]
  omega

-- ════════════════════════════════════════════════════════════════════════
-- Runs
-- ════════════════════════════════════════════════════════════════════════

/-- Whether a letter ends a line. -/
def endsLine (c : α) : Bool := c = cr || c = lf

/-- Whether an offset is at the start of a text or right after a letter that ends lines. -/
def startsRun (text : List α) (p : Nat) : Bool := p = 0 || text[p - 1]?.any endsLine

/-- The letters from an offset on, as far as none of them ends a line. -/
def runFrom (text : List α) (p : Nat) : List α := (text.drop p).takeWhile fun c => !endsLine c

/-- Whether a run of more letters than `most` starts at an offset. -/
def isLongRun (most : Int) (text : List α) (p : Nat) : Bool :=
  startsRun text p && most < (runFrom text p).length

/-- The offsets at which the runs of more letters than `most` start. -/
def longRuns (most : Int) (text : List α) : List Nat :=
  (List.range text.length).filter (isLongRun most text)

theorem endsLine_eq_false_iff {c : α} : endsLine c = false ↔ c ≠ cr ∧ c ≠ lf := by
  simp [endsLine]

theorem endsLine_of_mem {ending : List α} (h : IsBreak ending) {c : α} (hc : c ∈ ending) :
    endsLine c = true := by
  rcases h with rfl | rfl | rfl <;>
    simp only [List.mem_cons, List.not_mem_nil, or_false] at hc <;> simp [endsLine, hc]

theorem endsLine_of_mem_head? {ending rest : List α} (h : IsBreak ending) {c : α}
    (hc : c ∈ (ending ++ rest).head?) : endsLine c = true := by
  obtain ⟨d, more, rfl⟩ := List.exists_cons_of_ne_nil h.ne_nil
  obtain rfl : d = c := by simpa using hc
  exact endsLine_of_mem h List.mem_cons_self

theorem runFrom_zero {content after : List α} (hc : Unbroken content)
    (hafter : ∀ c ∈ after.head?, endsLine c = true) : runFrom (content ++ after) 0 = content := by
  rw [runFrom, List.drop_zero, List.takeWhile_append_of_pos]
  · cases after with
    | nil => simp
    | cons c after => simp [hafter c rfl]
  · intro c hmem
    rw [endsLine_eq_false_iff.mpr (hc c hmem)]
    rfl

theorem runFrom_append_right (before rest : List α) (q : Nat) :
    runFrom (before ++ rest) (before.length + q) = runFrom rest q := by
  rw [runFrom, runFrom, List.drop_append, List.drop_eq_nil_of_le (Nat.le_add_right _ _),
    Nat.add_sub_cancel_left, List.nil_append]

theorem startsRun_append_right {before rest : List α} {c : α} (hlast : before.getLast? = some c)
    (hc : endsLine c = true) (q : Nat) :
    startsRun (before ++ rest) (before.length + q) = startsRun rest q := by
  have hpos : 0 < before.length := by
    cases before with
    | nil => simp at hlast
    | cons d before => exact Nat.succ_pos _
  cases q with
  | zero =>
    have hprevious : (before ++ rest)[before.length - 1]? = some c := by
      rw [List.getElem?_append_left (by omega), ← List.getLast?_eq_getElem?, hlast]
    simp [startsRun, hprevious, hc]
  | succ q =>
    have hprevious : (before ++ rest)[before.length + q]? = rest[q]? := by
      rw [List.getElem?_append_right (Nat.le_add_right _ _), Nat.add_sub_cancel_left]
    simp [startsRun, ← Nat.add_assoc, hprevious]

/-- Of the offsets on a line only the first starts a run. -/
theorem filter_isLongRun_content {most : Int} (hmost : 0 ≤ most) {content after : List α}
    (hc : Unbroken content) (hafter : ∀ c ∈ after.head?, endsLine c = true) :
    (List.range content.length).filter (isLongRun most (content ++ after)) =
      if most < content.length then [0] else [] := by
  have hfirst : isLongRun most (content ++ after) 0 = decide (most < content.length) := by
    rw [isLongRun, runFrom_zero hc hafter]
    simp [startsRun]
  cases content with
  | nil =>
    rw [if_neg (by simpa using hmost)]
    rfl
  | cons d content =>
    have hlater : ∀ p ∈ (List.range content.length).map Nat.succ,
        ¬ isLongRun most (d :: content ++ after) p = true := by
      intro p hp
      obtain ⟨q, hq, rfl⟩ := List.mem_map.mp hp
      have hq : q < (d :: content).length := Nat.lt_succ_of_lt (List.mem_range.mp hq)
      have hprevious : (d :: content ++ after)[q]? = some (d :: content)[q] := by
        rw [List.getElem?_append_left hq, List.getElem?_eq_getElem hq]
      have hplain := endsLine_eq_false_iff.mpr (hc _ (List.getElem_mem hq))
      have hstart : startsRun (d :: content ++ after) (q + 1) = false := by
        rw [startsRun, Nat.add_sub_cancel, hprevious]
        simp [hplain]
      rw [isLongRun, hstart]
      simp
    rw [List.length_cons, List.range_succ_eq_map, List.filter_cons, hfirst,
      List.filter_eq_nil_iff.mpr hlater]
    simp

theorem longRuns_of_unbroken {most : Int} (hmost : 0 ≤ most) {content : List α}
    (hc : Unbroken content) :
    longRuns most content = if most < content.length then [0] else [] := by
  have hnone : ∀ c ∈ ([] : List α).head?, endsLine c = true := by simp
  have hcontent := filter_isLongRun_content hmost hc hnone
  rwa [List.append_nil] at hcontent

/-- The runs of a text are the first line, if it is one, and those after its break. -/
theorem longRuns_append_break {most : Int} (hmost : 0 ≤ most) {content ending : List α}
    (hc : Unbroken content) (he : IsBreak ending) (rest : List α) :
    longRuns most (content ++ (ending ++ rest)) =
      (if most < content.length then [0] else []) ++
        (longRuns most rest).map ((content ++ ending).length + ·) := by
  have hhead : ∀ c ∈ (ending ++ rest).head?, endsLine c = true :=
    fun c hc => endsLine_of_mem_head? he hc
  -- No run starts at a letter that ends a line.
  have hending : ((List.range ending.length).map (content.length + ·)).filter
      (isLongRun most (content ++ (ending ++ rest))) = [] := by
    rw [List.filter_eq_nil_iff]
    intro p hp
    obtain ⟨q, hq, rfl⟩ := List.mem_map.mp hp
    have hq := List.mem_range.mp hq
    have hbreak := endsLine_of_mem he (List.getElem_mem hq)
    have hempty : runFrom (ending ++ rest) q = [] := by
      rw [runFrom, List.drop_append_of_le_length (Nat.le_of_lt hq), List.drop_eq_getElem_cons hq,
        List.cons_append, List.takeWhile_cons_of_neg (by simp [hbreak])]
    have hshort : ¬ most < 0 := by omega
    simp [isLongRun, runFrom_append_right, hempty, hshort]
  have hrest : isLongRun most (content ++ (ending ++ rest)) ∘ ((content ++ ending).length + ·) =
      isLongRun most rest := by
    funext q
    have hlast := List.getLast?_eq_some_getLast he.ne_nil
    have hbreak := endsLine_of_mem he (List.getLast_mem he.ne_nil)
    have hend : (content ++ ending).getLast? = some (ending.getLast he.ne_nil) := by
      rw [List.getLast?_append, hlast, Option.some_or]
    rw [Function.comp_apply, isLongRun, isLongRun, ← List.append_assoc, runFrom_append_right,
      startsRun_append_right hend hbreak]
  rw [longRuns, List.length_append, List.length_append, ← Nat.add_assoc, List.range_add,
    List.range_add, List.filter_append, List.filter_append, filter_isLongRun_content hmost hc hhead,
    hending, List.append_nil, ← List.length_append, List.filter_map, hrest, longRuns]

end ChecklistReview.Text
