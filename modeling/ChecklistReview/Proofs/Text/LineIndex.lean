import ChecklistReview.Proofs.Text.Lines

/-!
# Lines by offset

The line of an offset is found by bisection among the offsets at which breaks begin. The
number it gives is the number of lines of the text before the offset, so that the lines a text
is cut into and the numbers that findings carry belong together.

## Main statements

* `countBelow_eq_countP`: the bisection counts the entries below an offset.
* `countP_breakOffsets_append`: the breaks that begin in the first of two texts.
* `lineNumber_ofText`: the line of an offset is the last line of the text before it.
* `infix_line_of_unbroken`: a part of a text without breaks lies on the line of its start.
-/

namespace ChecklistReview.Text

-- ════════════════════════════════════════════════════════════════════════
-- Bisection
-- ════════════════════════════════════════════════════════════════════════

namespace LineIndex

/-- Where a bisection stands: entries before `low` are below the offset, and those from `high` on
are not. -/
structure Between (breaks : List Nat) (offset : Int) (low high : Nat) : Prop where
  low_le_high : low ≤ high
  high_le_length : high ≤ breaks.length
  below : ∀ i, i < low → (breaks.getD i 0 : Int) < offset
  above : ∀ i, high ≤ i → i < breaks.length → offset ≤ breaks.getD i 0

/-- The entries of an increasing list stay in order by position. -/
theorem getD_le_getD {breaks : List Nat} (hs : breaks.Pairwise (· < ·)) {i j : Nat} (hij : i ≤ j)
    (hj : j < breaks.length) : breaks.getD i 0 ≤ breaks.getD j 0 := by
  have hi : i < breaks.length := by omega
  rw [← List.getElem_eq_getD (h := hi), ← List.getElem_eq_getD (h := hj)]
  rcases Nat.lt_or_eq_of_le hij with h | rfl
  · exact Nat.le_of_lt (List.pairwise_iff_getElem.mp hs i j hi hj h)
  · exact Nat.le_refl _

theorem getD_toArray (breaks : List Nat) (i : Nat) : breaks.toArray.getD i 0 = breaks.getD i 0 := by
  rw [Array.getD_eq_getD_getElem?, List.getElem?_toArray, List.getD_eq_getElem?_getD]

/-- Each step of the bisection keeps the two sides apart until they meet. -/
theorem between_countBelow {breaks : List Nat} (hs : breaks.Pairwise (· < ·)) {offset : Int}
    {low high : Nat} (h : Between breaks offset low high) :
    Between breaks offset (countBelow breaks.toArray offset low high)
      (countBelow breaks.toArray offset low high) := by
  fun_induction countBelow breaks.toArray offset low high with
  | case1 low high hlt middle hm ih =>
    have hmiddle : middle < breaks.length := by
      have := h.high_le_length
      omega
    refine ih ⟨by omega, h.high_le_length, ?_, h.above⟩
    intro i hi
    have hle := getD_le_getD hs (show i ≤ middle by omega) hmiddle
    rw [getD_toArray] at hm
    omega
  | case2 low high hlt middle hm ih =>
    refine ih ⟨by omega, ?_, h.below, ?_⟩
    · have := h.high_le_length
      omega
    · intro i hi hlength
      have hle := getD_le_getD hs hi hlength
      rw [getD_toArray] at hm
      omega
  | case3 low high hlt =>
    have heq : high = low := by
      have := h.low_le_high
      omega
    rw [heq] at h
    exact h

/-- Two sides that meet count the entries that pass a test. -/
theorem Between.countP_eq {breaks : List Nat} {offset : Int} {k : Nat}
    (h : Between breaks offset k k) : breaks.countP (fun b : Nat => (b : Int) < offset) = k := by
  have hk := h.high_le_length
  rw [← List.take_append_drop k breaks, List.countP_append]
  have hbelow : (breaks.take k).countP (fun b : Nat => (b : Int) < offset) = k := by
    have hall : ∀ b ∈ breaks.take k, decide ((b : Int) < offset) = true := by
      intro b hb
      obtain ⟨i, hi, rfl⟩ := List.getElem_of_mem hb
      have hik : i < k := by
        rw [List.length_take] at hi
        omega
      have := h.below i hik
      rw [← List.getElem_eq_getD (h := by omega)] at this
      simpa using this
    rw [List.countP_eq_length.mpr hall, List.length_take]
    omega
  have habove : (breaks.drop k).countP (fun b : Nat => (b : Int) < offset) = 0 := by
    rw [List.countP_eq_zero]
    intro b hb
    obtain ⟨i, hi, rfl⟩ := List.getElem_of_mem hb
    rw [List.length_drop] at hi
    have := h.above (k + i) (by omega) (by omega)
    rw [← List.getElem_eq_getD (h := by omega)] at this
    simpa using this
  rw [hbelow, habove]
  rfl

/-- The bisection counts the entries of an increasing list that are below an offset. -/
theorem countBelow_eq_countP {breaks : List Nat} (hs : breaks.Pairwise (· < ·)) (offset : Int) :
    countBelow breaks.toArray offset 0 breaks.toArray.size =
      breaks.countP (fun b : Nat => (b : Int) < offset) := by
  have hstart : Between breaks offset 0 breaks.length := by
    refine ⟨Nat.zero_le _, Nat.le_refl _, ?_, ?_⟩
    · intro i hi
      exact absurd hi (Nat.not_lt_zero i)
    · intro i hi hlength
      exact absurd hlength (by omega)
  exact (between_countBelow hs hstart).countP_eq.symm

end LineIndex

-- ════════════════════════════════════════════════════════════════════════
-- Where breaks begin
-- ════════════════════════════════════════════════════════════════════════

section Offsets

variable {α : Type} [Breaks α] [DecidableEq α]

@[simp]
theorem breakOffsetsFrom_nil (n : Nat) : breakOffsetsFrom n ([] : List α) = [] := by
  simp [breakOffsetsFrom]

theorem breakOffsetsFrom_cons (n : Nat) {c : α} (hc : c ≠ cr ∧ c ≠ lf) (text : List α) :
    breakOffsetsFrom n (c :: text) = breakOffsetsFrom (n + 1) text := by
  cases text with
  | nil => simp [breakOffsetsFrom, hc.1, hc.2]
  | cons d rest => simp [breakOffsetsFrom, hc.1, hc.2]

theorem breakOffsetsFrom_lf_cons (n : Nat) (text : List α) :
    breakOffsetsFrom n (lf :: text) = n :: breakOffsetsFrom (n + 1) text := by
  have hne : (lf : α) ≠ cr := fun h => Breaks.cr_ne_lf h.symm
  cases text with
  | nil => simp [breakOffsetsFrom]
  | cons d rest => simp [breakOffsetsFrom, hne]

theorem breakOffsetsFrom_cr_lf_cons (n : Nat) (text : List α) :
    breakOffsetsFrom n (cr :: lf :: text) = n :: breakOffsetsFrom (n + 2) text := by
  simp [breakOffsetsFrom]

theorem breakOffsetsFrom_cr_cons (n : Nat) {text : List α} (h : text.head? ≠ some lf) :
    breakOffsetsFrom n (cr :: text) = n :: breakOffsetsFrom (n + 1) text := by
  cases text with
  | nil => simp [breakOffsetsFrom]
  | cons d rest =>
    have hd : d ≠ lf := by simpa using h
    simp [breakOffsetsFrom, hd]

/-- Breaks begin within the text. -/
theorem mem_breakOffsetsFrom {n b : Nat} {text : List α} (h : b ∈ breakOffsetsFrom n text) :
    n ≤ b ∧ b < n + text.length := by
  induction text using break_induction generalizing n with
  | nil => simp at h
  | letter c text hc ih =>
    rw [breakOffsetsFrom_cons n hc] at h
    have := ih h
    simp only [List.length_cons]
    omega
  | feed text ih =>
    rw [breakOffsetsFrom_lf_cons] at h
    simp only [List.length_cons]
    rcases List.mem_cons.mp h with rfl | h
    · omega
    · have := ih h
      omega
  | both text ih =>
    rw [breakOffsetsFrom_cr_lf_cons] at h
    simp only [List.length_cons]
    rcases List.mem_cons.mp h with rfl | h
    · omega
    · have := ih h
      omega
  | ret text hr ih =>
    rw [breakOffsetsFrom_cr_cons n hr] at h
    simp only [List.length_cons]
    rcases List.mem_cons.mp h with rfl | h
    · omega
    · have := ih h
      omega

/-- The offsets of breaks increase. -/
theorem pairwise_breakOffsetsFrom (n : Nat) (text : List α) :
    (breakOffsetsFrom n text).Pairwise (· < ·) := by
  induction text using break_induction generalizing n with
  | nil => simp
  | letter c text hc ih =>
    rw [breakOffsetsFrom_cons n hc]
    exact ih (n + 1)
  | feed text ih =>
    rw [breakOffsetsFrom_lf_cons]
    refine List.Pairwise.cons (fun b hb => ?_) (ih (n + 1))
    have := mem_breakOffsetsFrom hb
    omega
  | both text ih =>
    rw [breakOffsetsFrom_cr_lf_cons]
    refine List.Pairwise.cons (fun b hb => ?_) (ih (n + 2))
    have := mem_breakOffsetsFrom hb
    omega
  | ret text hr ih =>
    rw [breakOffsetsFrom_cr_cons n hr]
    refine List.Pairwise.cons (fun b hb => ?_) (ih (n + 1))
    have := mem_breakOffsetsFrom hb
    omega

/-- A text has one line more than it has breaks. -/
theorem length_breakOffsetsFrom (n : Nat) (text : List α) :
    (breakOffsetsFrom n text).length + 1 = (lines text).length := by
  induction text using break_induction generalizing n with
  | nil => simp
  | letter c text hc ih =>
    rw [breakOffsetsFrom_cons n hc, lines_cons hc, ih (n + 1)]
    obtain ⟨l, ls, hls⟩ := List.exists_cons_of_ne_nil (lines_ne_nil text)
    simp [hls, prepend]
  | feed text ih => simp [breakOffsetsFrom_lf_cons, lines_lf_cons, ih]
  | both text ih => simp [breakOffsetsFrom_cr_lf_cons, lines_cr_lf_cons, ih]
  | ret text hr ih => simp [breakOffsetsFrom_cr_cons n hr, lines_cr_cons hr, ih]

/-- No break of a text that starts at an offset begins before it. -/
theorem countP_breakOffsetsFrom_start (n : Nat) (text : List α) :
    (breakOffsetsFrom n text).countP (· < n) = 0 := by
  rw [List.countP_eq_zero]
  intro b hb
  have := mem_breakOffsetsFrom hb
  simp only [decide_eq_true_eq]
  omega

private theorem countP_lt_cons {x k : Nat} (h : x < k) (l : List Nat) :
    (x :: l).countP (· < k) = l.countP (· < k) + 1 :=
  List.countP_cons_of_pos (decide_eq_true h)

/-- Of two texts together, as many breaks begin in the first as it has on its own. This also
holds if the two tear a break: it begins with its carriage return. -/
theorem countP_breakOffsets_append (n : Nat) (a b : List α) :
    (breakOffsetsFrom n (a ++ b)).countP (· < n + a.length) = (breakOffsetsFrom n a).length := by
  induction a using break_induction generalizing n with
  | nil => simpa using countP_breakOffsetsFrom_start n b
  | letter c a hc ih =>
    have hn : n + (c :: a).length = n + 1 + a.length := by
      rw [List.length_cons]
      omega
    rw [hn, List.cons_append, breakOffsetsFrom_cons n hc, breakOffsetsFrom_cons n hc, ih]
  | feed a ih =>
    have hn : n + (lf :: a).length = n + 1 + a.length := by
      rw [List.length_cons]
      omega
    rw [hn, List.cons_append, breakOffsetsFrom_lf_cons, breakOffsetsFrom_lf_cons,
      countP_lt_cons (by omega), ih, List.length_cons]
  | both a ih =>
    have hn : n + (cr :: lf :: a).length = n + 2 + a.length := by
      rw [List.length_cons, List.length_cons]
      omega
    rw [hn, List.cons_append, List.cons_append, breakOffsetsFrom_cr_lf_cons,
      breakOffsetsFrom_cr_lf_cons, countP_lt_cons (by omega), ih,
      List.length_cons]
  | ret a ha ih =>
    have hn : n + (cr :: a).length = n + 1 + a.length := by
      rw [List.length_cons]
      omega
    rw [hn, List.cons_append, breakOffsetsFrom_cr_cons n ha, List.length_cons]
    by_cases hab : (a ++ b).head? = some lf
    · -- Only an empty `a` lets the line feed of `b` follow the carriage return.
      cases a with
      | cons d a => exact absurd hab ha
      | nil =>
        obtain ⟨rest, rfl⟩ := List.head?_eq_some_iff.mp hab
        have hlater : (breakOffsetsFrom (n + 2) rest).countP (· < n + 1 + 0) = 0 := by
          rw [List.countP_eq_zero]
          intro x hx
          have := mem_breakOffsetsFrom hx
          simp only [decide_eq_true_eq]
          omega
        rw [List.nil_append, breakOffsetsFrom_cr_lf_cons, List.length_nil,
          countP_lt_cons (by omega), hlater, breakOffsetsFrom_nil,
          List.length_nil]
    · rw [breakOffsetsFrom_cr_cons n hab, countP_lt_cons (by omega), ih]

end Offsets

-- ════════════════════════════════════════════════════════════════════════
-- The line of an offset
-- ════════════════════════════════════════════════════════════════════════

namespace LineIndex

/-- The number of a line counts the breaks that begin before the offset. -/
theorem lineNumber_ofText_eq_countP (text : List Char) (offset : Int) :
    (ofText text).lineNumber offset =
      (breakOffsets text).countP (fun b : Nat => (b : Int) < offset) + 1 := by
  exact congrArg (· + 1) (countBelow_eq_countP (pairwise_breakOffsetsFrom 0 text) offset)

/-- The line of an offset is the last line of the text before it. -/
theorem lineNumber_ofText (before after : List Char) :
    (ofText (before ++ after)).lineNumber before.length = (Text.lines before).length := by
  rw [lineNumber_ofText_eq_countP, ← length_breakOffsetsFrom 0 before,
    ← countP_breakOffsets_append 0 before after]
  simp [breakOffsets]

/-- Every offset is on a line of the text. -/
theorem lineNumber_ofText_le (text : List Char) (offset : Int) :
    (ofText text).lineNumber offset ≤ (splitLines text).length := by
  rw [lineNumber_ofText_eq_countP, length_splitLines, ← length_breakOffsetsFrom 0 text]
  exact Nat.succ_le_succ List.countP_le_length

/-- Lines follow each other as offsets do. -/
theorem lineNumber_ofText_mono (text : List Char) {a b : Int} (h : a ≤ b) :
    (ofText text).lineNumber a ≤ (ofText text).lineNumber b := by
  rw [lineNumber_ofText_eq_countP, lineNumber_ofText_eq_countP]
  refine Nat.succ_le_succ (List.countP_mono_left fun offset _ hoffset => ?_)
  simp only [decide_eq_true_eq] at hoffset ⊢
  omega

/-- A part of a text without breaks lies on the line on which it starts. -/
theorem infix_line_of_unbroken {before part after : List Char} (hu : Unbroken part) :
    ∃ line, (splitLines (before ++ (part ++ after)))[
        (ofText (before ++ (part ++ after))).lineNumber before.length - 1]? = some line ∧
      part <:+: line := by
  have hnumber := lineNumber_ofText before (part ++ after)
  cases part with
  | nil =>
    -- The empty text lies on every line.
    have hle := lineNumber_ofText_le (before ++ ([] ++ after)) before.length
    have hpos : 0 < (Text.lines before).length := List.length_pos_iff.mpr (lines_ne_nil before)
    refine ⟨_, List.getElem?_eq_getElem (by omega), List.nil_infix⟩
  | cons c part =>
    have hlf : (c :: part ++ after).head? ≠ some lf := by
      intro h
      exact (unbroken_cons.mp hu).1.2 (Option.some.inj h)
    obtain ⟨l, ls, hls⟩ := List.exists_cons_of_ne_nil (lines_ne_nil after)
    -- The line goes on from the last line before the part to the first line after it.
    have hlines : Text.lines (before ++ (c :: part ++ after)) =
        (Text.lines before).dropLast ++
          ⟨lastLine before ++ (c :: part ++ l.content), l.ending⟩ :: ls := by
      rw [lines_append before _ (fun _ => hlf), lines_append_of_unbroken hu, hls, prependAll_eq,
        prependAll_eq]
    refine ⟨lastLine before ++ (c :: part ++ l.content), ?_, ?_⟩
    · rw [hnumber, splitLines, hlines, List.map_append, List.map_cons,
        List.getElem?_append_right (by simp), List.length_map, List.length_dropLast,
        Nat.sub_self]
      rfl
    · exact ⟨lastLine before, l.content, by simp⟩

end LineIndex

end ChecklistReview.Text
