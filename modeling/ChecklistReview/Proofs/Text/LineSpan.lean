import ChecklistReview.Proofs.Text.LineIndex

/-!
# The line on which an offset is

Two things decide on the line of an offset: the bisection among the breaks, and the lines that a
text is cut into. Both agree with the count of breaks one position after another, and the line
that is found is the one that spans the offset. Only an offset inside a break of two letters is
spanned by no line.

## Main statements

* `breakOffsets_eq_filter`: the breaks are where a look at each position sees one begin.
* `LineAt.unique`: no two lines span an offset.
* `exists_lineAt`: the line that is found spans the offset.
* `offset_lands_on_line`: all of this for the index of a text.
-/

namespace ChecklistReview.Text

section Positions

variable {α : Type} [Breaks α] [DecidableEq α]

-- ════════════════════════════════════════════════════════════════════════
-- Breaks one position after another
-- ════════════════════════════════════════════════════════════════════════

/-- Whether a break begins at a position: there is a carriage return, or a line feed that does
not follow one. -/
def beginsBreak (text : List α) (p : Nat) : Bool :=
  text[p]? = some cr || (text[p]? = some lf && !(0 < p && text[p - 1]? = some cr))

/-- The number of breaks that begin before an offset, counted one position after another. -/
def countBreaks (text : List α) (offset : Nat) : Nat :=
  ((List.range (min offset text.length)).filter (beginsBreak text)).length

theorem beginsBreak_cons_add_two (c : α) (text : List α) (p : Nat) :
    beginsBreak (c :: text) (p + 2) = beginsBreak text (p + 1) := by
  simp [beginsBreak]

/-- A letter in front of a text begins no later break, unless it takes the line feed after it. -/
theorem beginsBreak_cons_succ {c : α} {text : List α} (h : c = cr → text.head? ≠ some lf)
    (p : Nat) : beginsBreak (c :: text) (p + 1) = beginsBreak text p := by
  cases p with
  | succ p => exact beginsBreak_cons_add_two c text p
  | zero =>
    by_cases hc : c = cr
    · have hlf : text[0]? ≠ some lf := by simpa [List.head?_eq_getElem?] using h hc
      simp [beginsBreak, hlf]
    · simp [beginsBreak, hc]

theorem filter_beginsBreak_cons {c : α} {text : List α} (h : c = cr → text.head? ≠ some lf) :
    (List.range (c :: text).length).filter (beginsBreak (c :: text)) =
      (if c = cr ∨ c = lf then [0] else []) ++
        ((List.range text.length).filter (beginsBreak text)).map (· + 1) := by
  have hlater : beginsBreak (c :: text) ∘ (· + 1) = beginsBreak text := by
    funext p
    exact beginsBreak_cons_succ h p
  have hfirst : beginsBreak (c :: text) 0 = decide (c = cr ∨ c = lf) := by
    simp [beginsBreak]
  rw [List.length_cons, List.range_succ_eq_map, List.filter_cons, hfirst, List.filter_map]
  rw [show Nat.succ = (· + 1) from rfl, hlater]
  by_cases hc : c = cr ∨ c = lf
  · simp [hc]
  · simp [hc]

theorem filter_beginsBreak_cr_lf_cons (text : List α) :
    (List.range (cr :: lf :: text).length).filter (beginsBreak (cr :: lf :: text)) =
      0 :: ((List.range text.length).filter (beginsBreak text)).map (· + 2) := by
  have hlater : beginsBreak (cr :: lf :: text) ∘ (· + 2) = beginsBreak text := by
    funext p
    have hlf : (lf : α) = cr → text.head? ≠ some lf := fun h => absurd h.symm Breaks.cr_ne_lf
    exact (beginsBreak_cons_add_two cr (lf :: text) p).trans (beginsBreak_cons_succ hlf p)
  have hfirst : beginsBreak (cr :: lf :: text) 0 = true := by
    simp [beginsBreak]
  have hsecond : beginsBreak (cr :: lf :: text) 1 = false := by
    have hne : (lf : α) ≠ cr := fun h => Breaks.cr_ne_lf h.symm
    simp [beginsBreak, hne]
  have hrange : List.range (text.length + 2) = 0 :: 1 :: (List.range text.length).map (· + 2) := by
    rw [List.range_succ_eq_map, List.range_succ_eq_map]
    simp
  rw [List.length_cons, List.length_cons, hrange, List.filter_cons_of_pos hfirst,
    List.filter_cons_of_neg (by simp [hsecond]), List.filter_map, hlater]

private theorem map_shift (n k : Nat) (offsets : List Nat) :
    (offsets.map (· + k)).map (n + ·) = offsets.map (n + k + ·) := by
  rw [List.map_map]
  apply List.map_congr_left
  intro p _
  show n + (p + k) = n + k + p
  omega

theorem breakOffsetsFrom_eq_map_filter (n : Nat) (text : List α) :
    breakOffsetsFrom n text =
      ((List.range text.length).filter (beginsBreak text)).map (n + ·) := by
  induction text using break_induction generalizing n with
  | nil => simp
  | letter c text hc ih =>
    rw [breakOffsetsFrom_cons n hc, filter_beginsBreak_cons fun h => absurd h hc.1,
      if_neg (by simp [hc]), List.nil_append, map_shift, ih]
  | feed text ih =>
    rw [breakOffsetsFrom_lf_cons, filter_beginsBreak_cons fun h => absurd h.symm Breaks.cr_ne_lf,
      if_pos (.inr rfl), List.singleton_append, List.map_cons, map_shift, ih]
    rfl
  | both text ih =>
    rw [breakOffsetsFrom_cr_lf_cons, filter_beginsBreak_cr_lf_cons, List.map_cons, map_shift, ih]
    rfl
  | ret text hr ih =>
    rw [breakOffsetsFrom_cr_cons n hr, filter_beginsBreak_cons fun _ => hr, if_pos (.inl rfl),
      List.singleton_append, List.map_cons, map_shift, ih]
    rfl

/-- The breaks are where a look at each position sees one begin. -/
theorem breakOffsets_eq_filter (text : List α) :
    breakOffsets text = (List.range text.length).filter (beginsBreak text) := by
  rw [breakOffsets, breakOffsetsFrom_eq_map_filter]
  simp

/-- The breaks before an offset, counted in the list of all and one position after another. -/
theorem countP_breakOffsets_eq_countBreaks (text : List α) (offset : Nat) :
    (breakOffsets text).countP (· < offset) = countBreaks text offset := by
  rw [breakOffsets_eq_filter, countBreaks, List.countP_eq_length_filter, List.filter_filter]
  by_cases h : offset ≤ text.length
  · obtain ⟨more, hmore⟩ := Nat.exists_eq_add_of_le h
    rw [Nat.min_eq_left h, hmore, List.range_add, List.filter_append]
    have hbefore : (List.range offset).filter (fun p => decide (p < offset) && beginsBreak text p) =
        (List.range offset).filter (beginsBreak text) := by
      apply List.filter_congr
      intro p hp
      simp [List.mem_range.mp hp]
    have hafter : ((List.range more).map (offset + ·)).filter
        (fun p => decide (p < offset) && beginsBreak text p) = [] := by
      rw [List.filter_eq_nil_iff]
      intro p hp
      obtain ⟨k, -, rfl⟩ := List.mem_map.mp hp
      have hk : ¬ offset + k < offset := by omega
      simp [hk]
    rw [hbefore, hafter, List.append_nil]
  · rw [Nat.min_eq_right (by omega)]
    congr 1
    apply List.filter_congr
    intro p hp
    have hp := List.mem_range.mp hp
    simp [show p < offset by omega]

-- ════════════════════════════════════════════════════════════════════════
-- Lines and the offsets they span
-- ════════════════════════════════════════════════════════════════════════

/-- A line of a text by its number, with the offset at which it starts. -/
def LineAt (text : List α) (number start : Nat) (content : List α) : Prop :=
  ∃ before ending after, lines text = before ++ ⟨content, ending⟩ :: after ∧
    before.length + 1 = number ∧ (join before).length = start

/-- An offset between the two letters of one break. -/
def InsideBreak (text : List α) (offset : Nat) : Prop :=
  0 < offset ∧ text[offset - 1]? = some cr ∧ text[offset]? = some lf

instance (text : List α) (offset : Nat) : Decidable (InsideBreak text offset) :=
  inferInstanceAs (Decidable (_ ∧ _))

/-- A line ends before the next one starts. -/
theorem LineAt.lt_start {text content content' : List α} {number number' start start' : Nat}
    (h : LineAt text number start content) (h' : LineAt text number' start' content')
    (hlt : number < number') : start + content.length < start' := by
  obtain ⟨before, ending, after, hlines, rfl, rfl⟩ := h
  obtain ⟨before', ending', after', hlines', rfl, rfl⟩ := h'
  obtain ⟨more, rfl⟩ : before ++ [⟨content, ending⟩] <+: before' := by
    have hprefix : before ++ [⟨content, ending⟩] <+: lines text := ⟨after, by simp [hlines]⟩
    apply List.prefix_of_prefix_length_le hprefix ⟨_, hlines'.symm⟩
    rw [List.length_append, List.length_singleton]
    omega
  have hcut := cut_lines text
  rw [hlines'] at hcut
  have hending : ending ≠ [] :=
    (hcut.isBreak (m := ⟨content, ending⟩) (by simp)).ne_nil
  have hpos := List.length_pos_iff.mpr hending
  simp only [join_append, join_cons, List.length_append]
  omega

/-- No two lines span an offset. -/
theorem LineAt.unique {text content content' : List α} {number number' start start' offset : Nat}
    (h : LineAt text number start content) (hle : start ≤ offset)
    (hge : offset ≤ start + content.length)
    (h' : LineAt text number' start' content') (hle' : start' ≤ offset)
    (hge' : offset ≤ start' + content'.length) : number = number' := by
  rcases Nat.lt_trichotomy number number' with hlt | heq | hgt
  · have := h.lt_start h' hlt
    omega
  · exact heq
  · have := h'.lt_start h hgt
    omega

/-- The last line of a text has no break. -/
theorem lines_eq_dropLast_append (text : List α) :
    lines text = (lines text).dropLast ++ [⟨lastLine text, []⟩] := by
  have hcut : ∀ {ls : List (Line α)} (h : Cut ls), (ls.getLast h.ne_nil).ending = [] := by
    intro ls h
    induction h with
    | last _ => rfl
    | cons _ _ _ h ih => rw [List.getLast_cons h.ne_nil, ih]
  have hlast : (lines text).getLast (lines_ne_nil text) = ⟨lastLine text, []⟩ := by
    rw [lastLine, ← hcut (cut_lines text)]
  rw [← hlast, List.dropLast_concat_getLast]

/-- An offset that is not inside a break is on the last line of the text before it. -/
theorem exists_lineAt {before after : List α}
    (hinside : ¬ InsideBreak (before ++ after) before.length) :
    ∃ start content, LineAt (before ++ after) (lines before).length start content ∧
      start ≤ before.length ∧ before.length ≤ start + content.length := by
  have hseam : before.getLast? = some cr → after.head? ≠ some lf := by
    intro hcr hlf
    have hne : before ≠ [] := by
      rintro rfl
      simp at hcr
    have hpos : 0 < before.length := List.length_pos_iff.mpr hne
    apply hinside
    refine ⟨hpos, ?_, ?_⟩
    · rw [List.getElem?_append_left (by omega), ← List.getLast?_eq_getElem?, hcr]
    · rw [List.getElem?_append_right (Nat.le_refl _), Nat.sub_self, ← List.head?_eq_getElem?, hlf]
  obtain ⟨first, rest, hafter⟩ := List.exists_cons_of_ne_nil (lines_ne_nil after)
  have hlines : lines (before ++ after) = (lines before).dropLast ++
      ⟨lastLine before ++ first.content, first.ending⟩ :: rest := by
    rw [lines_append before after hseam, hafter, prependAll_eq]
  have hlength : before.length =
      (join (lines before).dropLast).length + (lastLine before).length := by
    have hjoin := congrArg join (lines_eq_dropLast_append before)
    rw [join_lines, join_append, join_cons] at hjoin
    have hsize := congrArg List.length hjoin
    simpa using hsize
  refine ⟨(join (lines before).dropLast).length, lastLine before ++ first.content,
    ⟨_, _, _, hlines, ?_, rfl⟩, ?_, ?_⟩
  · rw [List.length_dropLast]
    have := List.length_pos_iff.mpr (lines_ne_nil before)
    omega
  · omega
  · rw [List.length_append]
    omega

end Positions

-- ════════════════════════════════════════════════════════════════════════
-- The index of a text
-- ════════════════════════════════════════════════════════════════════════

namespace LineIndex

theorem lineNumber_ofText_eq_countBreaks (text : List Char) (offset : Int) :
    (ofText text).lineNumber offset = countBreaks text offset.toNat + 1 := by
  rw [lineNumber_ofText_eq_countP, ← countP_breakOffsets_eq_countBreaks]
  congr 1
  apply List.countP_congr
  intro b _
  simp only [decide_eq_true_eq]
  omega

/-- The line that is found for an offset in the text is the one that spans it. -/
theorem eq_lineNumber_ofText_iff {text : List Char} {offset : Nat} (hle : offset ≤ text.length)
    (hinside : ¬ InsideBreak text offset) (number : Nat) :
    number = (ofText text).lineNumber offset ↔
      ∃ start content, LineAt text number start content ∧ start ≤ offset ∧
        offset ≤ start + content.length := by
  obtain ⟨before, after, rfl, rfl⟩ : ∃ before after, text = before ++ after ∧
      before.length = offset :=
    ⟨text.take offset, text.drop offset, (List.take_append_drop offset text).symm,
      List.length_take_of_le hle⟩
  rw [lineNumber_ofText]
  obtain ⟨start, content, hline, hstart, hend⟩ := exists_lineAt hinside
  constructor
  · rintro rfl
    exact ⟨start, content, hline, hstart, hend⟩
  · rintro ⟨start', content', hline', hstart', hend'⟩
    exact hline'.unique hstart' hend' hline hstart hend

/-- The bisection gives the number of breaks that begin before an offset, counted one position
after another, plus one. It never goes down as offsets grow and is always the number of a line.
The line with this number is the only one that spans the offset, for every offset of the text
that is not inside a break. -/
theorem offset_lands_on_line (text : List Char) :
    (∀ offset : Int, (ofText text).lineNumber offset = countBreaks text offset.toNat + 1) ∧
    (∀ a b : Int, a ≤ b → (ofText text).lineNumber a ≤ (ofText text).lineNumber b) ∧
    (∀ offset : Int, 1 ≤ (ofText text).lineNumber offset ∧
      (ofText text).lineNumber offset ≤ (splitLines text).length) ∧
    (∀ offset : Nat, offset ≤ text.length → ¬ InsideBreak text offset → ∀ number,
      number = (ofText text).lineNumber offset ↔
        ∃ start content, LineAt text number start content ∧ start ≤ offset ∧
          offset ≤ start + content.length) := by
  refine ⟨?_, ?_, ?_, ?_⟩
  · intro offset
    exact lineNumber_ofText_eq_countBreaks text offset
  · intro a b hab
    exact lineNumber_ofText_mono text hab
  · intro offset
    exact ⟨Nat.succ_pos _, lineNumber_ofText_le text offset⟩
  · intro offset hle hinside number
    exact eq_lineNumber_ofText_iff hle hinside number

/-- The offset after a break of two letters is on the second line, where that line starts. -/
theorem offset_lands_after_wide_break :
    let text := ['a', '\r', '\n', 'b', '\r', 'c']
    InsideBreak text 2 ∧ ¬ InsideBreak text 3 ∧ LineAt text 2 3 ['b'] ∧
      (ofText text).lineNumber 3 = 2 ∧ countBreaks text 3 + 1 = 2 ∧
      (ofText text).lineNumber (-1) ≤ (ofText text).lineNumber 3 := by
  intro text
  obtain ⟨hcount, hmono, -, hspan⟩ := offset_lands_on_line text
  have houtside : ¬ InsideBreak text 3 := by decide
  have hline : LineAt text 2 3 ['b'] :=
    ⟨[⟨['a'], ['\r', '\n']⟩], ['\r'], [⟨['c'], []⟩], by decide, rfl, rfl⟩
  have hnumber : 2 = (ofText text).lineNumber (3 : Nat) :=
    (hspan 3 (by decide) houtside 2).mpr ⟨3, ['b'], hline, by decide, by decide⟩
  refine ⟨by decide, houtside, hline, hnumber.symm, ?_, hmono (-1) 3 (by decide)⟩
  exact (hcount 3).symm.trans hnumber.symm

end LineIndex

end ChecklistReview.Text
