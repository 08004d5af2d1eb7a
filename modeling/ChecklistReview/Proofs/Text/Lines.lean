import ChecklistReview.Text.Line

/-!
# Lines of a text

`Cut` says what it means to cut a text into lines: no line holds a letter that ends lines, each
line but the last is followed by a break, and no break tears a carriage return from the line
feed after it. Every text has exactly one cut, and `lines` finds it. All other facts about
lines follow from this without another look at how `lines` works.

## Main statements

* `cut_lines` and `join_lines`: `lines` cuts a text.
* `lines_join` and `eq_lines_iff`: a cut is the one that `lines` finds.
* `lines_flatMap`: cutting commutes with writing each letter in another alphabet.
* `lines_append`: how the lines of two texts make up those of both together.
* `Cut.exchangeContent` and `Cut.fuse`: what becomes of a cut when a line gets another content.
-/

namespace ChecklistReview.Text

variable {α : Type}

@[simp]
theorem join_nil : join ([] : List (Line α)) = [] := rfl

@[simp]
theorem join_cons (l : Line α) (ls : List (Line α)) :
    join (l :: ls) = l.content ++ (l.ending ++ join ls) := by
  simp [join]

@[simp]
theorem join_append (a b : List (Line α)) : join (a ++ b) = join a ++ join b := by
  simp [join]

theorem join_prepend (c : α) (ls : List (Line α)) : join (prepend c ls) = c :: join ls := by
  cases ls with
  | nil => simp [prepend]
  | cons l ls => simp [prepend]

/-- Puts a text in front of the first line. -/
def prependAll (text : List α) (ls : List (Line α)) : List (Line α) := text.foldr prepend ls

@[simp]
theorem prependAll_nil (ls : List (Line α)) : prependAll [] ls = ls := rfl

@[simp]
theorem prependAll_cons (c : α) (text : List α) (ls : List (Line α)) :
    prependAll (c :: text) ls = prepend c (prependAll text ls) := rfl

/-- A text goes in front of the first line as a whole. -/
theorem prependAll_eq (text : List α) (l : Line α) (ls : List (Line α)) :
    prependAll text (l :: ls) = ⟨text ++ l.content, l.ending⟩ :: ls := by
  induction text with
  | nil => rfl
  | cons c text ih => rw [prependAll_cons, ih]; rfl

variable [Breaks α]

/-- A text without letters that end lines. -/
def Unbroken (text : List α) : Prop := ∀ c ∈ text, c ≠ cr ∧ c ≠ lf

instance [DecidableEq α] (text : List α) : Decidable (Unbroken text) :=
  inferInstanceAs (Decidable (∀ c ∈ text, c ≠ cr ∧ c ≠ lf))

/-- What ends a line. -/
def IsBreak (ending : List α) : Prop := ending = [cr, lf] ∨ ending = [cr] ∨ ending = [lf]

instance [DecidableEq α] (ending : List α) : Decidable (IsBreak ending) :=
  inferInstanceAs (Decidable (ending = [cr, lf] ∨ ending = [cr] ∨ ending = [lf]))

/-- Lines as a text is cut into them. A carriage return that ends a line is not followed by a
line feed, because the two together are one break. -/
inductive Cut : List (Line α) → Prop where
  | last {content : List α} (hc : Unbroken content) : Cut [⟨content, []⟩]
  | cons {content ending : List α} {rest : List (Line α)} (hc : Unbroken content)
      (he : IsBreak ending) (hr : ending = [cr] → (join rest).head? ≠ some lf) (h : Cut rest) :
      Cut (⟨content, ending⟩ :: rest)

-- ════════════════════════════════════════════════════════════════════════
-- Texts without breaks
-- ════════════════════════════════════════════════════════════════════════

@[simp]
theorem unbroken_nil : Unbroken ([] : List α) := by
  intro c hc
  simp at hc

theorem unbroken_cons {c : α} {text : List α} :
    Unbroken (c :: text) ↔ (c ≠ cr ∧ c ≠ lf) ∧ Unbroken text := by
  simp [Unbroken]

/-- A part of a text without breaks has none. -/
theorem Unbroken.of_part {part text : List α} (h : Unbroken text) (hp : part <:+: text) :
    Unbroken part :=
  fun c hc => h c (hp.subset hc)

-- ════════════════════════════════════════════════════════════════════════
-- Cuts
-- ════════════════════════════════════════════════════════════════════════

/-- A cut has at least one line. -/
theorem Cut.ne_nil {ls : List (Line α)} (h : Cut ls) : ls ≠ [] := by
  cases h <;> simp

/-- A letter that ends no line may stand before a cut. -/
theorem Cut.prepend {c : α} {ls : List (Line α)} (hc : c ≠ cr ∧ c ≠ lf) (h : Cut ls) :
    Cut (prepend c ls) := by
  cases h with
  | last hl => exact .last (unbroken_cons.mpr ⟨hc, hl⟩)
  | cons hl he hr h => exact .cons (unbroken_cons.mpr ⟨hc, hl⟩) he hr h

section Cutting

variable [DecidableEq α]

-- ════════════════════════════════════════════════════════════════════════
-- The equations of `lines`
-- ════════════════════════════════════════════════════════════════════════

@[simp]
theorem lines_nil : lines ([] : List α) = [⟨[], []⟩] := by
  simp [lines]

/-- A letter that ends no line belongs to the first line. -/
theorem lines_cons {c : α} (hc : c ≠ cr ∧ c ≠ lf) (text : List α) :
    lines (c :: text) = prepend c (lines text) := by
  cases text with
  | nil => simp [lines, hc.1, hc.2, prepend]
  | cons d rest => simp [lines, hc.1, hc.2]

/-- A line feed ends a line. -/
theorem lines_lf_cons (text : List α) : lines (lf :: text) = ⟨[], [lf]⟩ :: lines text := by
  have hne : (lf : α) ≠ cr := fun h => Breaks.cr_ne_lf h.symm
  cases text with
  | nil => simp [lines]
  | cons d rest => simp [lines, hne]

/-- A carriage return and a line feed end a line together. -/
theorem lines_cr_lf_cons (text : List α) :
    lines (cr :: lf :: text) = ⟨[], [cr, lf]⟩ :: lines text := by
  simp [lines]

/-- A carriage return alone ends a line. -/
theorem lines_cr_cons {text : List α} (h : text.head? ≠ some lf) :
    lines (cr :: text) = ⟨[], [cr]⟩ :: lines text := by
  cases text with
  | nil => simp [lines]
  | cons d rest =>
    have hd : d ≠ lf := by simpa using h
    simp [lines, hd]

/-- Induction over a text break by break. -/
theorem break_induction {motive : List α → Prop} (nil : motive [])
    (letter : ∀ c text, c ≠ cr ∧ c ≠ lf → motive text → motive (c :: text))
    (feed : ∀ text, motive text → motive (lf :: text))
    (both : ∀ text, motive text → motive (cr :: lf :: text))
    (ret : ∀ text, text.head? ≠ some lf → motive text → motive (cr :: text)) (text : List α) :
    motive text := by
  induction hn : text.length using Nat.strongRecOn generalizing text with
  | _ n ih =>
    cases text with
    | nil => exact nil
    | cons c rest =>
      have hrest : motive rest := ih rest.length (by simp [← hn]) rest rfl
      by_cases hr : c = cr
      · subst hr
        by_cases hl : rest.head? = some lf
        · -- The carriage return takes the line feed with it.
          obtain ⟨tail, rfl⟩ := List.head?_eq_some_iff.mp hl
          exact both tail (ih tail.length (by simp only [← hn, List.length_cons]; omega) tail rfl)
        · exact ret rest hl hrest
      · by_cases hl : c = lf
        · subst hl
          exact feed rest hrest
        · exact letter c rest ⟨hr, hl⟩ hrest

-- ════════════════════════════════════════════════════════════════════════
-- The one cut of a text
-- ════════════════════════════════════════════════════════════════════════

/-- The lines of a text make up the text. -/
@[simp]
theorem join_lines (text : List α) : join (lines text) = text := by
  induction text using break_induction with
  | nil => simp
  | letter c text hc ih => rw [lines_cons hc, join_prepend, ih]
  | feed text ih => simp [lines_lf_cons, ih]
  | both text ih => simp [lines_cr_lf_cons, ih]
  | ret text h ih => simp [lines_cr_cons h, ih]

/-- The lines of a text are a cut. -/
theorem cut_lines (text : List α) : Cut (lines text) := by
  induction text using break_induction with
  | nil =>
    rw [lines_nil]
    exact .last unbroken_nil
  | letter c text hc ih =>
    rw [lines_cons hc]
    exact ih.prepend hc
  | feed text ih =>
    rw [lines_lf_cons]
    refine .cons unbroken_nil (.inr (.inr rfl)) ?_ ih
    intro h
    exact absurd (List.cons.inj h).1.symm Breaks.cr_ne_lf
  | both text ih =>
    rw [lines_cr_lf_cons]
    exact .cons unbroken_nil (.inl rfl) (by simp) ih
  | ret text h ih =>
    rw [lines_cr_cons h]
    exact .cons unbroken_nil (.inr (.inl rfl)) (fun _ => by rwa [join_lines]) ih

/-- A text without breaks is one line. -/
theorem lines_of_unbroken {content : List α} (hc : Unbroken content) :
    lines content = [⟨content, []⟩] := by
  induction content with
  | nil => simp
  | cons c content ih =>
    obtain ⟨h, hc⟩ := unbroken_cons.mp hc
    rw [lines_cons h, ih hc]
    rfl

/-- A break cuts off the text before it. -/
theorem lines_append_break {content ending text : List α} (hc : Unbroken content)
    (he : IsBreak ending) (hr : ending = [cr] → text.head? ≠ some lf) :
    lines (content ++ (ending ++ text)) = ⟨content, ending⟩ :: lines text := by
  induction content with
  | nil =>
    rcases he with rfl | rfl | rfl
    · exact lines_cr_lf_cons text
    · exact lines_cr_cons (hr rfl)
    · exact lines_lf_cons text
  | cons c content ih =>
    obtain ⟨h, hc⟩ := unbroken_cons.mp hc
    rw [List.cons_append, lines_cons h, ih hc]
    rfl

/-- A cut is the one that `lines` finds. -/
theorem lines_join {ls : List (Line α)} (h : Cut ls) : lines (join ls) = ls := by
  induction h with
  | last hc => simpa using lines_of_unbroken hc
  | cons hc he hr _ ih => rw [join_cons, lines_append_break hc he hr, ih]

/-- A text has exactly one cut. -/
theorem eq_lines_iff {text : List α} {ls : List (Line α)} :
    ls = lines text ↔ Cut ls ∧ join ls = text := by
  constructor
  · rintro rfl
    exact ⟨cut_lines text, join_lines text⟩
  · rintro ⟨h, rfl⟩
    exact (lines_join h).symm

/-- A text has at least one line. -/
theorem lines_ne_nil (text : List α) : lines text ≠ [] := (cut_lines text).ne_nil

end Cutting

-- ════════════════════════════════════════════════════════════════════════
-- The lines of a cut
-- ════════════════════════════════════════════════════════════════════════

/-- No line of a cut holds a letter that ends lines. -/
theorem Cut.unbroken {ls : List (Line α)} (h : Cut ls) {l : Line α} (hl : l ∈ ls) :
    Unbroken l.content := by
  induction h with
  | last hc =>
    rw [List.mem_singleton.mp hl]
    exact hc
  | cons hc _ _ _ ih =>
    rcases List.mem_cons.mp hl with rfl | hl
    · exact hc
    · exact ih hl

/-- A line that is not the last of a cut ends in a break, and the lines after it are a cut. -/
theorem Cut.of_cons {l : Line α} {ls : List (Line α)} (h : Cut (l :: ls)) (hne : ls ≠ []) :
    IsBreak l.ending ∧ (l.ending = [cr] → (join ls).head? ≠ some lf) ∧ Cut ls := by
  cases h with
  | last _ => exact absurd rfl hne
  | cons _ he hr h => exact ⟨he, hr, h⟩

/-- All lines of a cut but the last end in a break. -/
theorem Cut.isBreak {before after : List (Line α)} {l : Line α} (h : Cut (before ++ l :: after))
    {m : Line α} (hm : m ∈ before) : IsBreak m.ending := by
  induction before with
  | nil => simp at hm
  | cons b before ih =>
    obtain ⟨he, _, h⟩ := h.of_cons (by simp)
    rcases List.mem_cons.mp hm with rfl | hm
    · exact he
    · exact ih h hm

/-- Lines at the end of a cut are a cut. -/
theorem Cut.of_append {before rest : List (Line α)} (h : Cut (before ++ rest)) (hne : rest ≠ []) :
    Cut rest := by
  induction before with
  | nil => exact h
  | cons b before ih => exact ih (h.of_cons (by simp [hne])).2.2

theorem IsBreak.ne_nil {ending : List α} (h : IsBreak ending) : ending ≠ [] := by
  rcases h with rfl | rfl | rfl <;> simp

/-- A text that begins with a line and its break begins as they do. -/
theorem head?_join_cons {l : Line α} (h : IsBreak l.ending) (ls : List (Line α)) :
    (join (l :: ls)).head? = (l.content ++ l.ending).head? := by
  obtain ⟨c, ending, hc⟩ := List.exists_cons_of_ne_nil h.ne_nil
  simp [List.head?_append, hc]

/-- The lines at the end of a cut may be exchanged for others, unless this puts a line feed after
a carriage return. -/
theorem Cut.exchange {before rest rest' : List (Line α)} (h : Cut (before ++ rest))
    (hne : rest ≠ []) (h' : Cut rest')
    (hseam : (join rest').head? = some lf →
      (join rest).head? = some lf ∨ ∀ l, before.getLast? = some l → l.ending ≠ [cr]) :
    Cut (before ++ rest') := by
  induction before with
  | nil => exact h'
  | cons b before ih =>
    obtain ⟨he, hr, hcut⟩ := h.of_cons (by simp [hne])
    have hrest : Cut (before ++ rest') := by
      refine ih hcut fun hlf => (hseam hlf).imp_right fun hlast l hl => hlast l ?_
      rw [List.getLast?_cons, hl]
      rfl
    refine .cons (h.unbroken List.mem_cons_self) he ?_ hrest
    intro hcr hlf
    -- Only the seam is new: it is after `b` exactly if no other line comes before it.
    cases before with
    | nil =>
      rcases hseam hlf with hold | hlast
      · exact hr hcr hold
      · exact hlast b rfl hcr
    | cons c before =>
      have hc : IsBreak c.ending := (hcut.of_cons (by simp [hne])).1
      have hsame : (join (c :: (before ++ rest))).head? =
          (join (c :: (before ++ rest'))).head? := by
        rw [head?_join_cons hc, head?_join_cons hc]
      exact hr hcr (hsame.trans hlf)

/-- A line of a cut may have another content, unless it is emptied between a carriage return and
a line feed. -/
theorem Cut.exchangeContent {before after : List (Line α)} {l : Line α} {content : List α}
    (h : Cut (before ++ l :: after)) (hu : Unbroken content)
    (hkeep : content = [] → l.ending = [lf] → ∀ p, before.getLast? = some p → p.ending ≠ [cr]) :
    Cut (before ++ ⟨content, l.ending⟩ :: after) := by
  have hrest : Cut (l :: after) := h.of_append (by simp)
  have hrest' : Cut (⟨content, l.ending⟩ :: after) := by
    cases hrest with
    | last _ => exact .last hu
    | cons _ he hr hafter => exact .cons hu he hr hafter
  refine h.exchange (by simp) hrest' fun hlf => ?_
  rw [join_cons] at hlf
  cases content with
  | cons c content =>
    have hc : c = lf := by simpa using hlf
    exact absurd hc (unbroken_cons.mp hu).1.2
  | nil =>
    refine .inr (hkeep rfl ?_)
    cases hrest with
    | last _ => simp at hlf
    | cons _ he _ _ =>
      rcases he with rfl | rfl | rfl
      · exact absurd (by simpa using hlf) Breaks.cr_ne_lf
      · exact absurd (by simpa using hlf) Breaks.cr_ne_lf
      · rfl

/-- Without the line between them, a carriage return and a line feed are one break. -/
theorem Cut.fuse {before after : List (Line α)} {a b : Line α} (h : Cut (before ++ a :: b :: after))
    (ha : a.ending = [cr]) (hb : b.ending = [lf]) :
    Cut (before ++ ⟨a.content, [cr, lf]⟩ :: after) := by
  have hrest : Cut (a :: b :: after) := h.of_append (by simp)
  have hafter : Cut after := by
    cases (hrest.of_cons (by simp)).2.2 with
    | last _ => simp at hb
    | cons _ _ _ hafter => exact hafter
  have hu : Unbroken a.content := hrest.unbroken List.mem_cons_self
  refine h.exchange (by simp) (.cons hu (.inl rfl) (by simp) hafter) fun hlf => .inl ?_
  rw [join_cons, List.head?_append] at hlf ⊢
  simpa [ha] using hlf

section Splitting

variable [DecidableEq α]

/-- The number of lines with and without their breaks is the same. -/
theorem length_splitLines (text : List α) : (splitLines text).length = (lines text).length := by
  simp [splitLines]

/-- No line of a text holds a letter that ends lines. -/
theorem unbroken_of_mem_splitLines {text line : List α} (h : line ∈ splitLines text) :
    Unbroken line := by
  obtain ⟨l, hl, rfl⟩ := List.mem_map.mp h
  exact (cut_lines text).unbroken hl

/-- A line of a text stands between those before it, with their breaks, and its own break with
those after it. -/
theorem exists_of_lines_getElem? {text : List α} {index : Nat} {l : Line α}
    (h : (lines text)[index]? = some l) :
    ∃ before after, lines text = before ++ l :: after ∧ before.length = index ∧
      (∀ m ∈ before, IsBreak m.ending) ∧
      text = join before ++ (l.content ++ (l.ending ++ join after)) := by
  obtain ⟨hi, hl⟩ := List.getElem?_eq_some_iff.mp h
  have hcut : lines text = (lines text).take index ++ l :: (lines text).drop (index + 1) := by
    rw [← hl, ← List.drop_eq_getElem_cons hi, List.take_append_drop]
  refine ⟨(lines text).take index, (lines text).drop (index + 1), hcut, ?_, ?_, ?_⟩
  · simp only [List.length_take]
    omega
  · have hlines := cut_lines text
    rw [hcut] at hlines
    exact fun m hm => hlines.isBreak hm
  · have hjoin := join_lines text
    rw [hcut, join_append, join_cons] at hjoin
    exact hjoin.symm

end Splitting

-- ════════════════════════════════════════════════════════════════════════
-- Lines of texts that are put together
-- ════════════════════════════════════════════════════════════════════════

section Appending

variable [DecidableEq α]

/-- The content of the last line of a text. -/
def lastLine (text : List α) : List α := ((lines text).getLast (lines_ne_nil text)).content

/-- A text without breaks belongs to the first line of what follows. -/
theorem lines_append_of_unbroken {content : List α} (hc : Unbroken content) (text : List α) :
    lines (content ++ text) = prependAll content (lines text) := by
  induction content with
  | nil => rfl
  | cons c content ih =>
    obtain ⟨h, hc⟩ := unbroken_cons.mp hc
    rw [List.cons_append, lines_cons h, ih hc, prependAll_cons]

private theorem getLast?_cons_of_eq_some {β : Type} {a : List β} {c d : β}
    (h : a.getLast? = some d) :
    (c :: a).getLast? = some d := by
  rw [List.getLast?_cons, h]
  rfl

private theorem dropLast_cons_lines (l : Line α) (text : List α) :
    (l :: lines text).dropLast = l :: (lines text).dropLast :=
  List.dropLast_cons_of_ne_nil (lines_ne_nil text)

/-- The lines of two texts together: the last line of the first goes on in the first line of
the second, unless a break is torn in two. -/
theorem lines_append (a b : List α) (h : a.getLast? = some cr → b.head? ≠ some lf) :
    lines (a ++ b) = (lines a).dropLast ++ prependAll (lastLine a) (lines b) := by
  induction a using break_induction with
  | nil => simp [lastLine]
  | letter c a hc ih =>
    rw [List.cons_append, lines_cons hc, ih fun h' => h (getLast?_cons_of_eq_some h')]
    simp only [lastLine, lines_cons hc]
    -- The letter joins the first line of `a`, which is the last one if there are no others.
    obtain ⟨l, ls, hls⟩ := List.exists_cons_of_ne_nil (lines_ne_nil a)
    cases ls with
    | nil => simp [hls, prepend]
    | cons m ls => simp [hls, prepend]
  | feed a ih =>
    rw [List.cons_append, lines_lf_cons, ih fun h' => h (getLast?_cons_of_eq_some h')]
    simp only [lastLine, lines_lf_cons, dropLast_cons_lines, List.cons_append,
      List.getLast_cons (lines_ne_nil a)]
  | both a ih =>
    rw [List.cons_append, List.cons_append, lines_cr_lf_cons,
      ih fun h' => h (getLast?_cons_of_eq_some (getLast?_cons_of_eq_some h'))]
    simp only [lastLine, lines_cr_lf_cons, dropLast_cons_lines, List.cons_append,
      List.getLast_cons (lines_ne_nil a)]
  | ret a ha ih =>
    have hab : (a ++ b).head? ≠ some lf := by
      cases a with
      | nil => exact h rfl
      | cons d a => exact ha
    rw [List.cons_append, lines_cr_cons hab, ih fun h' => h (getLast?_cons_of_eq_some h')]
    simp only [lastLine, lines_cr_cons ha, dropLast_cons_lines, List.cons_append,
      List.getLast_cons (lines_ne_nil a)]

end Appending

-- ════════════════════════════════════════════════════════════════════════
-- Lines in another alphabet
-- ════════════════════════════════════════════════════════════════════════

section Writing

variable {β : Type} [Breaks β]

/-- Whether a way to write letters in another alphabet keeps a letter apart from breaks: breaks
are written as breaks, and other letters as something without them. -/
structure KeepsBreaks (write : α → List β) (c : α) : Prop where
  cr_eq : c = cr → write c = [cr]
  lf_eq : c = lf → write c = [lf]
  ne_nil : write c ≠ []
  unbroken : c ≠ cr ∧ c ≠ lf → Unbroken (write c)

/-- A line in another alphabet. -/
def Line.flatMap (write : α → List β) (l : Line α) : Line β :=
  ⟨l.content.flatMap write, l.ending.flatMap write⟩

omit [Breaks α] [Breaks β] in
theorem join_map_flatMap (write : α → List β) (ls : List (Line α)) :
    join (ls.map (Line.flatMap write)) = (join ls).flatMap write := by
  induction ls with
  | nil => rfl
  | cons l ls ih => simp [ih, Line.flatMap]

/-- What a letter is written as begins with a line feed only if the letter is one. -/
theorem KeepsBreaks.head?_ne_lf {write : α → List β} {text : List α}
    (hw : ∀ c ∈ text, KeepsBreaks write c) (h : text.head? ≠ some lf) :
    (text.flatMap write).head? ≠ some lf := by
  cases text with
  | nil => simp
  | cons c text =>
    have hc := hw c List.mem_cons_self
    have hlf : c ≠ lf := by simpa using h
    obtain ⟨d, rest, hd⟩ := List.exists_cons_of_ne_nil hc.ne_nil
    rw [List.flatMap_cons, hd, List.cons_append, List.head?_cons]
    intro heq
    have hdlf : d = lf := Option.some.inj heq
    by_cases hcr : c = cr
    · rw [hc.cr_eq hcr] at hd
      exact Breaks.cr_ne_lf ((List.cons.inj hd).1.trans hdlf)
    · exact (hc.unbroken ⟨hcr, hlf⟩ d (hd ▸ List.mem_cons_self)).2 hdlf

variable [DecidableEq α] [DecidableEq β]

/-- Cutting a text into lines commutes with writing its letters in another alphabet. -/
theorem lines_flatMap {write : α → List β} {text : List α}
    (hw : ∀ c ∈ text, KeepsBreaks write c) :
    lines (text.flatMap write) = (lines text).map (Line.flatMap write) := by
  induction text using break_induction with
  | nil => simp [Line.flatMap]
  | letter c text hc ih =>
    have hu := (hw c List.mem_cons_self).unbroken hc
    rw [List.flatMap_cons, lines_append_of_unbroken hu,
      ih (fun d hd => hw d (List.mem_cons_of_mem _ hd)), lines_cons hc]
    obtain ⟨l, ls, hls⟩ := List.exists_cons_of_ne_nil (lines_ne_nil text)
    rw [hls, List.map_cons, prependAll_eq]
    simp [prepend, Line.flatMap]
  | feed text ih =>
    rw [List.flatMap_cons, (hw lf List.mem_cons_self).lf_eq rfl, List.singleton_append,
      lines_lf_cons, lines_lf_cons, ih (fun d hd => hw d (List.mem_cons_of_mem _ hd))]
    simp [Line.flatMap, (hw lf List.mem_cons_self).lf_eq rfl]
  | both text ih =>
    have hcr := (hw cr List.mem_cons_self).cr_eq rfl
    have hlf := (hw lf (List.mem_cons_of_mem _ List.mem_cons_self)).lf_eq rfl
    rw [List.flatMap_cons, List.flatMap_cons, hcr, hlf, List.singleton_append,
      List.singleton_append, lines_cr_lf_cons, lines_cr_lf_cons,
      ih (fun d hd => hw d (List.mem_cons_of_mem _ (List.mem_cons_of_mem _ hd)))]
    simp [Line.flatMap, hcr, hlf]
  | ret text h ih =>
    have hw' : ∀ c ∈ text, KeepsBreaks write c := fun d hd => hw d (List.mem_cons_of_mem _ hd)
    have hcr := (hw cr List.mem_cons_self).cr_eq rfl
    rw [List.flatMap_cons, hcr, List.singleton_append,
      lines_cr_cons (KeepsBreaks.head?_ne_lf hw' h), lines_cr_cons h, ih hw']
    simp [Line.flatMap, hcr]

end Writing

end ChecklistReview.Text
