import ChecklistReview.Proofs.Fix.Contract

/-!
# The lines of a mended text

A fix exchanges the content of one line and leaves all breaks where they are. What it gives is a
text again, and who looks at a line of it by number cuts it anew. The new cut has the same lines,
the mended one apart, unless the mended line *vanishes*: it is emptied between a carriage return
and a line feed, and these two are one break from then on.

## Main statements

* `mem_of_mem_fixText`: where the letters of a mended text come from.
* `unbroken_replacement`: a template without breaks puts none into the line.
* `cut_replaceLine`: lines with one content exchanged are a cut if that line does not vanish.
* `splitLines_of_vanishes`: a line that vanishes is missing afterwards, and no other is.
* `fix_keeps_lines_iff`: when a fix keeps the lines of a text, and what it does otherwise.
-/

namespace ChecklistReview.Fix

open Text

variable {α : Type}

-- ════════════════════════════════════════════════════════════════════════
-- Letters of a mended line
-- ════════════════════════════════════════════════════════════════════════

section Letters

variable [Alphabet α]

/-- The letters of a text hold a break exactly if its characters do. -/
theorem unbroken_letters_iff {text : Wording} :
    Unbroken (letters text : List α) ↔ '\r' ∉ text.toList ∧ '\n' ∉ text.toList := by
  constructor
  · intro h
    constructor
    · intro hcr
      exact (h _ ((mem_letters_iff (by decide)).mpr hcr)).1 rfl
    · intro hlf
      exact (h _ ((mem_letters_iff (by decide)).mpr hlf)).2 rfl
  · rintro ⟨hcr, hlf⟩ c hc
    constructor
    · rintro rfl
      exact hcr ((mem_letters_iff (by decide)).mp hc)
    · rintro rfl
      exact hlf ((mem_letters_iff (by decide)).mp hc)

omit [Alphabet α] in
theorem mem_of_mem_intercalate {separator : List α} {pieces : List (List α)} {c : α}
    (h : c ∈ separator.intercalate pieces) : c ∈ separator ∨ ∃ piece ∈ pieces, c ∈ piece := by
  induction pieces with
  | nil => simp at h
  | cons piece pieces ih =>
    cases pieces with
    | nil => exact .inr ⟨piece, List.mem_cons_self, by simpa using h⟩
    | cons next pieces =>
      rw [List.intercalate_cons_cons, List.mem_append, List.mem_append] at h
      rcases h with (hp | hs) | hr
      · exact .inr ⟨piece, List.mem_cons_self, hp⟩
      · exact .inl hs
      · rcases ih hr with hs | ⟨other, hother, hc⟩
        · exact .inl hs
        · exact .inr ⟨other, List.mem_cons_of_mem _ hother, hc⟩

variable [DecidableEq α]

theorem mem_of_mem_render {template found : List α} {c : α} (h : c ∈ render template found) :
    c ∈ found ∨ c ∈ template := by
  rcases mem_of_mem_intercalate h with hfound | ⟨piece, hpiece, hmem⟩
  · exact .inl hfound
  · exact .inr (mem_of_mem_piecesBetween placeholder_ne_nil hpiece hmem)

/-- What was found is on the line, so the letters that come out are those of the line and of the
template. -/
theorem mem_of_mem_fixLine {line found template : List α} (hfound : found <:+: line) {c : α}
    (h : c ∈ fixLine line found template) : c ∈ line ∨ c ∈ template := by
  rcases mem_of_mem_replaceFirst h with hnew | hold
  · rcases mem_of_mem_render hnew with hfrom | htemplate
    · exact .inl (hfound.subset hfrom)
    · exact .inr htemplate
  · exact .inl hold

/-- The letters of a mended text are those of the text and of the template. -/
theorem mem_of_mem_fixText {f : Finding} {rule : Rule} {template : Wording} {t : List α}
    {result : Result α} (htemplate : rule.template = some template)
    (h : fixText f (some rule) t = .ok result) {c : α} (hc : c ∈ result.text) :
    c ∈ t ∨ c ∈ (letters template : List α) := by
  obtain ⟨-, -, before, ending, after, -, -, -, ht, htext⟩ := fixText_frame h
  obtain ⟨rule', template', line, hrule, -, htemplate', hline, hinfix, rfl⟩ :=
    fixText_eq_ok_iff.mp h
  obtain rfl := Option.some.inj hrule
  obtain rfl := Option.some.inj (htemplate.symm.trans htemplate')
  rw [htext] at hc
  rw [ht]
  simp only [List.mem_append] at hc ⊢
  rcases hc with hbefore | hnew | hafter
  · exact .inl (.inl hbefore)
  · rcases mem_of_mem_fixLine hinfix hnew with hold | htemplate
    · exact .inl (.inr (.inl hold))
    · exact .inr htemplate
  · exact .inl (.inr (.inr hafter))

/-- A template without breaks puts none into the line. -/
theorem unbroken_replacement {f : Finding} {rule : Rule} {template : Wording} {t : List α}
    {result : Result α} (htemplate : rule.template = some template)
    (hplain : '\r' ∉ template.toList ∧ '\n' ∉ template.toList)
    (h : fixText f (some rule) t = .ok result) : Unbroken result.edit.replacement := by
  obtain ⟨rule', template', line, hrule, -, htemplate', hline, hinfix, rfl⟩ :=
    fixText_eq_ok_iff.mp h
  obtain rfl := Option.some.inj hrule
  obtain rfl := Option.some.inj (htemplate.symm.trans htemplate')
  intro c hc
  rcases mem_of_mem_fixLine hinfix hc with hold | hnew
  · exact (cut_lines t).unbroken (List.mem_of_getElem? hline) c hold
  · exact unbroken_letters_iff.mpr hplain c hnew

end Letters

-- ════════════════════════════════════════════════════════════════════════
-- Lines that vanish
-- ════════════════════════════════════════════════════════════════════════

section Vanishing

variable [Breaks α]

/-- A line vanishes with a new content: it is emptied between a carriage return and a line
feed. -/
def Vanishes (ls : List (Line α)) (index : Nat) (content : List α) : Prop :=
  content = [] ∧ 0 < index ∧ ls[index - 1]?.map Line.ending = some [cr] ∧
    ls[index]?.map Line.ending = some [lf]

instance [DecidableEq α] (ls : List (Line α)) (index : Nat) (content : List α) :
    Decidable (Vanishes ls index content) :=
  inferInstanceAs (Decidable (_ ∧ _ ∧ _ ∧ _))

/-- The line in the middle vanishes. -/
theorem vanishes_middle {before after : List (Line α)} {a b : Line α} (ha : a.ending = [cr])
    (hb : b.ending = [lf]) : Vanishes (before ++ a :: b :: after) (before.length + 1) [] := by
  refine ⟨rfl, Nat.succ_pos _, ?_, ?_⟩
  · simp [ha]
  · simp [hb]

theorem exists_of_vanishes {ls : List (Line α)} {index : Nat} {content : List α}
    (h : Vanishes ls index content) : content = [] ∧ ∃ before a b after,
      ls = before ++ a :: b :: after ∧ index = before.length + 1 ∧ a.ending = [cr] ∧
        b.ending = [lf] := by
  obtain ⟨hnil, hpos, ha, hb⟩ := h
  obtain ⟨a, ha, hcr⟩ := Option.map_eq_some_iff.mp ha
  obtain ⟨b, hb, hlf⟩ := Option.map_eq_some_iff.mp hb
  obtain ⟨hi, rfl⟩ := List.getElem?_eq_some_iff.mp ha
  obtain ⟨hj, rfl⟩ := List.getElem?_eq_some_iff.mp hb
  refine ⟨hnil, ls.take (index - 1), ls[index - 1], ls[index], ls.drop (index + 1), ?_, ?_, hcr,
    hlf⟩
  · have hstep : ls.drop (index - 1) = ls[index - 1] :: ls[index] :: ls.drop (index + 1) := by
      rw [List.drop_eq_getElem_cons hi, show index - 1 + 1 = index by omega,
        List.drop_eq_getElem_cons hj]
    rw [← hstep, List.take_append_drop]
  · simp only [List.length_take]
    omega

omit [Breaks α] in
theorem replaceLine_append (before after : List (Line α)) (l : Line α) (content : List α) :
    replaceLine (before ++ l :: after) before.length content =
      before ++ ⟨content, l.ending⟩ :: after := by
  induction before with
  | nil => rfl
  | cons b before ih => simpa [replaceLine] using ih

/-- Lines with one content exchanged are a cut if that line does not vanish. -/
theorem cut_replaceLine {ls : List (Line α)} {index : Nat} {content : List α} (h : Cut ls)
    (hi : index < ls.length) (hu : Unbroken content) (hkeep : ¬ Vanishes ls index content) :
    Cut (replaceLine ls index content) := by
  obtain ⟨before, l, after, rfl, rfl⟩ : ∃ before l after, ls = before ++ l :: after ∧
      before.length = index := by
    refine ⟨ls.take index, ls[index], ls.drop (index + 1), ?_, ?_⟩
    · rw [← List.drop_eq_getElem_cons hi, List.take_append_drop]
    · simp only [List.length_take]
      omega
  rw [replaceLine_append]
  refine h.exchangeContent hu fun hnil hlf p hp hcr => hkeep ?_
  -- The line before is the last of `before`, so the three of them make the line vanish.
  obtain ⟨front, rfl⟩ := List.getLast?_eq_some_iff.mp hp
  subst hnil
  have hvanish : Vanishes (front ++ p :: l :: after) (front.length + 1) [] :=
    vanishes_middle hcr hlf
  simpa using hvanish

omit [Breaks α] in
theorem map_content_replaceLine (ls : List (Line α)) (index : Nat) (content : List α) :
    (replaceLine ls index content).map Line.content = (ls.map Line.content).set index content := by
  induction ls generalizing index with
  | nil => simp [replaceLine]
  | cons l ls ih =>
    cases index with
    | zero => simp [replaceLine]
    | succ index => simpa [replaceLine] using ih index

section Splitting

variable [DecidableEq α]

/-- The lines of a text in which one line was exchanged and did not vanish. -/
theorem splitLines_replaceLine {ls : List (Line α)} {index : Nat} {content : List α} (h : Cut ls)
    (hi : index < ls.length) (hu : Unbroken content) (hkeep : ¬ Vanishes ls index content) :
    splitLines (join (replaceLine ls index content)) = (ls.map Line.content).set index content := by
  rw [splitLines, lines_join (cut_replaceLine h hi hu hkeep), map_content_replaceLine]

/-- A line that vanishes is missing afterwards, and no other is. -/
theorem splitLines_of_vanishes {ls : List (Line α)} {index : Nat} {content : List α} (h : Cut ls)
    (hv : Vanishes ls index content) :
    splitLines (join (replaceLine ls index content)) = (ls.map Line.content).eraseIdx index := by
  obtain ⟨rfl, before, a, b, after, rfl, rfl, ha, hb⟩ := exists_of_vanishes hv
  have htext : join (replaceLine (before ++ a :: b :: after) (before.length + 1) []) =
      join (before ++ ⟨a.content, [cr, lf]⟩ :: after) := by
    have hreplace := replaceLine_append (before ++ [a]) after b []
    simp only [List.append_assoc, List.singleton_append, List.length_append,
      List.length_singleton] at hreplace
    simp [hreplace, ha, hb]
  rw [htext, splitLines, lines_join (h.fuse ha hb), List.map_append, List.map_append,
    List.eraseIdx_append_of_length_le (by simp)]
  simp

end Splitting

end Vanishing

-- ════════════════════════════════════════════════════════════════════════
-- Lines after a fix
-- ════════════════════════════════════════════════════════════════════════

section Keeping

variable [Alphabet α] [DecidableEq α]

/-- A fix by a template without breaks keeps the lines of a text, so that it has as many as before
and only the finding's line is another, exactly if that line does not vanish. A line that vanishes
is missing afterwards, and no other is. -/
theorem fix_keeps_lines_iff {f : Finding} {rule : Rule} {template : Wording} {t : List α}
    {result : Result α} (htemplate : rule.template = some template)
    (hplain : '\r' ∉ template.toList ∧ '\n' ∉ template.toList)
    (h : (applyFix f (some rule) t).value = .ok result) :
    (splitLines result.text = (splitLines t).set (f.line - 1) result.edit.replacement ↔
      ¬ Vanishes (lines t) (f.line - 1) result.edit.replacement) ∧
    (Vanishes (lines t) (f.line - 1) result.edit.replacement →
      splitLines result.text = (splitLines t).eraseIdx (f.line - 1)) := by
  have hfix := applyFix_value_eq_ok_iff.mp h
  have hu := unbroken_replacement htemplate hplain hfix
  obtain ⟨_, _, line, -, -, -, hline, -, hresult⟩ := fixText_eq_ok_iff.mp hfix
  obtain ⟨hi, -⟩ := List.getElem?_eq_some_iff.mp hline
  have htext : result.text = join (replaceLine (lines t) (f.line - 1) result.edit.replacement) := by
    rw [hresult]
    rfl
  rw [htext]
  refine ⟨⟨fun hset hv => ?_, splitLines_replaceLine (cut_lines t) hi hu⟩,
    splitLines_of_vanishes (cut_lines t)⟩
  -- One line is missing, so the lines cannot be those that were there.
  have hlength := congrArg List.length ((splitLines_of_vanishes (cut_lines t) hv).symm.trans hset)
  rw [List.length_set, length_splitLines, List.length_eraseIdx, List.length_map, if_pos hi]
    at hlength
  omega

end Keeping

namespace Sample

/-- A rule with a template. -/
def ruleWith (template : String) : Rule :=
  { id := some (.text template), title := none, description := none, severity := none
    languages := none, isFixable := true, template := some (.text template)
    check := .pattern "[xz]" }

/-- A finding on the line with an index. -/
def findingOn (index : Nat) (found : String) : Finding :=
  { ruleId := found, description := found, severity := .warning, isFixable := true
    file := ⟨.relative, ["a.ts"]⟩, line := index + 1, one_le_line := Nat.succ_pos index
    snippet := found, found := some (.text found), language := some "typescript" }

theorem applyFix_eq {index : Nat} {found : String} {t : List Char} {line : Line Char}
    (template : String) (hline : (lines t)[index]? = some line)
    (hfound : quotedText (findingOn index found) <:+: line.content) :
    (applyFix (findingOn index found) (some (ruleWith template)) t).value =
      .ok (mended (findingOn index found) template t line.content) :=
  applyFix_value_eq_ok_iff.mpr
    (fixText_eq_ok_iff.mpr
      ⟨ruleWith template, .text template, line, rfl, rfl, rfl, hline, hfound, rfl⟩)

end Sample

open Sample

/-- A line that is emptied between a carriage return and a carriage return with its line feed
stays. -/
theorem fix_keeps_emptied_line :
    ∃ result, (applyFix (findingOn 1 "x") (some (ruleWith "")) "a\rx\r\nb".toList).value =
        .ok result ∧
      result.edit.replacement = [] ∧ splitLines result.text = [['a'], [], ['b']] := by
  have hline : (lines "a\rx\r\nb".toList)[1]? = some ⟨['x'], ['\r', '\n']⟩ := by decide
  have hfound : quotedText (findingOn 1 "x") <:+: ['x'] := by decide
  have hfix := applyFix_eq "" hline hfound
  have hnil : (mended (findingOn 1 "x") "" "a\rx\r\nb".toList ['x']).edit.replacement = [] := by
    decide +kernel
  refine ⟨_, hfix, hnil, ?_⟩
  rw [(fix_keeps_lines_iff rfl (by decide) hfix).1.mpr (by rw [hnil]; decide), hnil]
  decide

/-- A line that is emptied between a carriage return and a line feed is missing afterwards, and
the lines after it have other numbers. -/
theorem fix_drops_emptied_line :
    ∃ result, (applyFix (findingOn 1 "x") (some (ruleWith "")) "a\rx\nb".toList).value =
        .ok result ∧
      result.edit.replacement = [] ∧ splitLines "a\rx\nb".toList = [['a'], ['x'], ['b']] ∧
      splitLines result.text = [['a'], ['b']] ∧
      splitLines result.text ≠
        (splitLines "a\rx\nb".toList).set ((findingOn 1 "x").line - 1) result.edit.replacement := by
  have hline : (lines "a\rx\nb".toList)[1]? = some ⟨['x'], ['\n']⟩ := by decide
  have hfound : quotedText (findingOn 1 "x") <:+: ['x'] := by decide
  refine ⟨_, applyFix_eq "" hline hfound, ?_, ?_, ?_, ?_⟩
  · decide +kernel
  · decide
  · decide +kernel
  · decide +kernel

end ChecklistReview.Fix
