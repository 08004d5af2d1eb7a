import ChecklistReview.Proofs.Fix.LineStructure
import Mathlib.Data.List.Nodup

/-!
# Fixes one after another

Findings are mended one after another, each in the text that the fix before it gave, while they
keep the line numbers of the first text. What carries such a run is that each text on the way is
the join of a cut, in which the lines still to be mended are those of the first text. A step needs
its own line only (`applyFix_join`), and changes no other.

## Main definitions

* `applyAll` applies fixes one after another.
* `Repair` is a fix that succeeds in a text on its own and leaves something of its line.

## Main statements

* `Repair.applyFix_join`: a repair does in a later text what it does in the first.
* `applyAll_join`: a run of repairs of different lines, in any order.
* `repairs_commute`: every order of repairs of different lines gives the same text.
-/

namespace ChecklistReview.Fix

open Text

variable {α : Type}

-- ════════════════════════════════════════════════════════════════════════
-- Edits of lines
-- ════════════════════════════════════════════════════════════════════════

/-- Where the line of an edit is among the lines of a text. -/
def Edit.index (e : Edit α) : Nat := e.line - 1

/-- The lines after an edit. -/
def Edit.applyTo (e : Edit α) (ls : List (Line α)) : List (Line α) :=
  replaceLine ls e.index e.replacement

/-- The lines after edits, one after another. -/
def editAll (edits : List (Edit α)) (ls : List (Line α)) : List (Line α) :=
  edits.foldl (fun ls e => e.applyTo ls) ls

theorem editAll_cons (e : Edit α) (edits : List (Edit α)) (ls : List (Line α)) :
    editAll (e :: edits) ls = editAll edits (e.applyTo ls) := rfl

theorem getElem?_applyTo (e : Edit α) (ls : List (Line α)) (i : Nat) :
    (e.applyTo ls)[i]? =
      if e.index = i then ls[i]?.map (fun l => ⟨e.replacement, l.ending⟩) else ls[i]? := by
  rw [Edit.applyTo, replaceLine, List.getElem?_modify]
  split
  · rfl
  · simp

theorem map_ending_applyTo (e : Edit α) (ls : List (Line α)) :
    (e.applyTo ls).map Line.ending = ls.map Line.ending := by
  apply List.ext_getElem?
  intro i
  rw [List.getElem?_map, List.getElem?_map, getElem?_applyTo]
  split
  · rw [Option.map_map]
    rfl
  · rfl

theorem applyTo_comm {d e : Edit α} (h : d.index ≠ e.index) (ls : List (Line α)) :
    e.applyTo (d.applyTo ls) = d.applyTo (e.applyTo ls) := by
  apply List.ext_getElem?
  intro i
  simp only [getElem?_applyTo]
  by_cases hd : d.index = i
  · have he : e.index ≠ i := fun he => h (hd.trans he.symm)
    simp only [hd, he, if_true, if_false]
  · simp only [hd, if_false]

/-- Edits keep all breaks. -/
theorem map_ending_editAll (edits : List (Edit α)) (ls : List (Line α)) :
    (editAll edits ls).map Line.ending = ls.map Line.ending := by
  induction edits generalizing ls with
  | nil => rfl
  | cons e edits ih => rw [editAll_cons, ih, map_ending_applyTo]

theorem getElem?_editAll_of_ne {edits : List (Edit α)} {i : Nat} (h : ∀ e ∈ edits, e.index ≠ i)
    (ls : List (Line α)) : (editAll edits ls)[i]? = ls[i]? := by
  induction edits generalizing ls with
  | nil => rfl
  | cons e edits ih =>
    have he : e.index ≠ i := h e List.mem_cons_self
    rw [editAll_cons, ih fun d hd => h d (List.mem_cons_of_mem _ hd), getElem?_applyTo, if_neg he]

/-- Of edits of different lines each one decides on its own line. -/
theorem getElem?_editAll_of_mem {edits : List (Edit α)} (hdistinct : (edits.map Edit.index).Nodup)
    {e : Edit α} (he : e ∈ edits) (ls : List (Line α)) :
    (editAll edits ls)[e.index]? = ls[e.index]?.map (fun l => ⟨e.replacement, l.ending⟩) := by
  induction edits generalizing ls with
  | nil => simp at he
  | cons d edits ih =>
    rw [List.map_cons, List.nodup_cons] at hdistinct
    rw [editAll_cons]
    rcases List.mem_cons.mp he with rfl | he
    · have hothers : ∀ d ∈ edits, d.index ≠ e.index := by
        intro d hd heq
        exact hdistinct.1 (heq ▸ List.mem_map_of_mem hd)
      rw [getElem?_editAll_of_ne hothers, getElem?_applyTo, if_pos rfl]
    · have hne : d.index ≠ e.index := by
        intro heq
        exact hdistinct.1 (heq ▸ List.mem_map_of_mem he)
      rw [ih hdistinct.2 he, getElem?_applyTo, if_neg hne]

/-- Edits of different lines may come in any order. -/
theorem editAll_perm {edits edits' : List (Edit α)} (h : edits.Perm edits')
    (hdistinct : (edits.map Edit.index).Nodup) (ls : List (Line α)) :
    editAll edits ls = editAll edits' ls := by
  refine h.foldl_eq' (fun d hd e he ls => ?_) ls
  by_cases heq : d.index = e.index
  · obtain rfl : d = e := List.inj_on_of_nodup_map hdistinct hd he heq
    rfl
  · exact applyTo_comm heq ls

-- ════════════════════════════════════════════════════════════════════════
-- Runs of fixes
-- ════════════════════════════════════════════════════════════════════════

variable [Alphabet α] [DecidableEq α]

/-- Applies fixes one after another, each to the text that the one before it gives. The result is
the edits that were made and the last text; the first fix that is not available ends the run. -/
def applyAll : List (Finding × Rule) → List α → Except Unavailable (List (Edit α) × List α)
  | [], t => .ok ([], t)
  | (f, rule) :: rest, t => do
    let result ← (applyFix f (some rule) t).value
    let others ← applyAll rest result.text
    pure (result.edit :: others.1, others.2)

/-- A fix that succeeds in a text by a template without breaks, and leaves something of its
line. -/
structure Repair (t : List α) where
  finding : Finding
  rule : Rule
  template : Wording
  template_eq : rule.template = some template
  plain : '\r' ∉ template.toList ∧ '\n' ∉ template.toList
  result : Result α
  succeeds : (applyFix finding (some rule) t).value = .ok result
  ne_nil : result.edit.replacement ≠ []

namespace Repair

variable {t : List α}

/-- What a repair asks for. -/
def request (x : Repair t) : Finding × Rule := (x.finding, x.rule)

/-- The edit that a repair makes on its own. -/
def edit (x : Repair t) : Edit α := x.result.edit

theorem fixText_eq (x : Repair t) : fixText x.finding (some x.rule) t = .ok x.result :=
  applyFix_value_eq_ok_iff.mp x.succeeds

theorem index_edit (x : Repair t) : x.edit.index = x.finding.line - 1 := by
  rw [Edit.index, edit, (fixText_frame x.fixText_eq).1]

theorem unbroken_edit (x : Repair t) : Unbroken x.edit.replacement :=
  unbroken_replacement x.template_eq x.plain x.fixText_eq

/-- Line numbers count from 1, so different numbers are different places. -/
theorem nodup_index_edit {fixes : List (Repair t)}
    (h : (fixes.map fun x => x.finding.line).Nodup) :
    ((fixes.map edit).map Edit.index).Nodup := by
  rw [List.map_map]
  rw [List.Nodup, List.pairwise_map] at h ⊢
  refine h.imp fun {x y} hne heq => hne ?_
  have hx := x.finding.one_le_line
  have hy := y.finding.one_le_line
  simp only [Function.comp_apply, index_edit] at heq
  omega

/-- A repair does in a later text what it does in the first, as long as its line is still the
same. -/
theorem applyFix_join (x : Repair t) {ls : List (Line α)} (hcut : Cut ls)
    (hsame : ls[x.edit.index]? = (lines t)[x.edit.index]?) :
    (applyFix x.finding (some x.rule) (join ls)).value = .ok ⟨x.edit, join (x.edit.applyTo ls)⟩ ∧
      Cut (x.edit.applyTo ls) := by
  obtain ⟨rule, template, line, hrule, hfix, htemplate, hline, hinfix, hresult⟩ :=
    fixText_eq_ok_iff.mp x.fixText_eq
  rw [← x.index_edit, ← hsame] at hline
  obtain ⟨hi, -⟩ := List.getElem?_eq_some_iff.mp hline
  constructor
  · rw [applyFix_value_eq_ok_iff, fixText_eq_ok_iff]
    refine ⟨rule, template, line, hrule, hfix, htemplate, ?_, hinfix, ?_⟩
    · rw [lines_join hcut, ← x.index_edit]
      exact hline
    · rw [mended, lines_join hcut, ← x.index_edit]
      simp only [Edit.applyTo, edit, hresult]
      rfl
  · exact cut_replaceLine hcut hi x.unbroken_edit fun hv => x.ne_nil hv.1

end Repair

variable {t : List α}

/-- A run of repairs of different lines, from any cut in which these lines are as at first. -/
theorem applyAll_join {order : List (Repair t)}
    (hdistinct : ((order.map Repair.edit).map Edit.index).Nodup) {ls : List (Line α)}
    (hcut : Cut ls) (hsame : ∀ x ∈ order, ls[x.edit.index]? = (lines t)[x.edit.index]?) :
    applyAll (order.map Repair.request) (join ls) =
        .ok (order.map Repair.edit, join (editAll (order.map Repair.edit) ls)) ∧
      Cut (editAll (order.map Repair.edit) ls) := by
  induction order generalizing ls with
  | nil => exact ⟨rfl, hcut⟩
  | cons x order ih =>
    rw [List.map_cons, List.map_cons, List.nodup_cons] at hdistinct
    obtain ⟨hstep, hcut'⟩ := x.applyFix_join hcut (hsame x List.mem_cons_self)
    -- The step leaves the lines of the other repairs as they were.
    have hsame' : ∀ y ∈ order, (x.edit.applyTo ls)[y.edit.index]? = (lines t)[y.edit.index]? := by
      intro y hy
      have hne : x.edit.index ≠ y.edit.index := by
        intro heq
        exact hdistinct.1 (heq ▸ List.mem_map_of_mem (List.mem_map_of_mem hy))
      rw [getElem?_applyTo, if_neg hne]
      exact hsame y (List.mem_cons_of_mem _ hy)
    obtain ⟨hrun, hend⟩ := ih hdistinct.2 hcut' hsame'
    refine ⟨?_, hend⟩
    rw [List.map_cons, List.map_cons, Repair.request, applyAll, hstep]
    show (applyAll (order.map Repair.request) (join (x.edit.applyTo ls)) >>= _) = _
    rw [hrun]
    rfl

/-- Repairs of different lines commute. In every order each of them succeeds, in the text that
those before it gave, with the edit that it makes on its own, and the last text is the same: it has
the breaks of the first one, the repaired lines are the replacements, and all others are as they
were. -/
theorem repairs_commute (fixes : List (Repair t))
    (hdistinct : (fixes.map fun x => x.finding.line).Nodup) :
    ∃ final : List α,
      (∀ order : List (Repair t), order.Perm fixes →
        applyAll (order.map Repair.request) t = .ok (order.map Repair.edit, final)) ∧
      (lines final).map Line.ending = (lines t).map Line.ending ∧
      (∀ x ∈ fixes, (splitLines final)[x.finding.line - 1]? = some x.edit.replacement) ∧
      ∀ i, (∀ x ∈ fixes, x.finding.line ≠ i + 1) → (splitLines final)[i]? = (splitLines t)[i]? := by
  have hindex := Repair.nodup_index_edit hdistinct
  have hcut := (applyAll_join hindex (cut_lines t) fun _ _ => rfl).2
  refine ⟨join (editAll (fixes.map Repair.edit) (lines t)), ?_, ?_, ?_, ?_⟩
  · intro order horder
    have hedits := horder.map Repair.edit
    have hindex' := ((hedits.map Edit.index).nodup_iff).mpr hindex
    have hrun := (applyAll_join hindex' (cut_lines t) fun _ _ => rfl).1
    rwa [join_lines, editAll_perm hedits hindex'] at hrun
  · rw [lines_join hcut, map_ending_editAll]
  · intro x hx
    obtain ⟨-, -, line, -, -, -, hline, -, -⟩ := fixText_eq_ok_iff.mp x.fixText_eq
    rw [splitLines, lines_join hcut, List.getElem?_map, ← x.index_edit,
      getElem?_editAll_of_mem hindex (List.mem_map_of_mem hx), x.index_edit, hline]
    rfl
  · intro i hi
    have hother : ∀ e ∈ fixes.map Repair.edit, e.index ≠ i := by
      intro e he heq
      obtain ⟨x, hx, rfl⟩ := List.mem_map.mp he
      have hpos := x.finding.one_le_line
      rw [x.index_edit] at heq
      exact hi x hx (by omega)
    rw [splitLines, lines_join hcut, List.getElem?_map, getElem?_editAll_of_ne hother, splitLines,
      List.getElem?_map]

namespace Sample

def text : List Char := "x\ry\r\nz".toList

/-- Puts brackets around the first line. -/
def bracket : Repair text where
  finding := findingOn 0 "x"
  rule := ruleWith "[$MATCH]"
  template := "[$MATCH]"
  template_eq := rfl
  plain := by decide
  result := mended (findingOn 0 "x") "[$MATCH]" text ['x']
  succeeds := applyFix_eq "[$MATCH]" (show _ = some ⟨['x'], ['\r']⟩ by decide) (by decide)
  ne_nil := by decide +kernel

/-- Puts a dash in place of the last line. -/
def dash : Repair text where
  finding := findingOn 2 "z"
  rule := ruleWith "-"
  template := "-"
  template_eq := rfl
  plain := by decide
  result := mended (findingOn 2 "z") "-" text ['z']
  succeeds := applyFix_eq "-" (show _ = some ⟨['z'], []⟩ by decide) (by decide)
  ne_nil := by decide +kernel

end Sample

/-- The first and the last of three lines are repaired in both orders. -/
theorem repairs_commute_around_line :
    ∃ edits edits' final,
      applyAll [Sample.bracket.request, Sample.dash.request] Sample.text = .ok (edits, final) ∧
      applyAll [Sample.dash.request, Sample.bracket.request] Sample.text = .ok (edits', final) ∧
      (splitLines final)[0]? = some "[x]".toList ∧ (splitLines final)[1]? = some "y".toList ∧
      (splitLines final)[2]? = some "-".toList := by
  obtain ⟨final, hrun, -, hfixed, hother⟩ :=
    repairs_commute [Sample.bracket, Sample.dash] (by decide)
  have hbracket : Sample.bracket.edit.replacement = "[x]".toList := by decide +kernel
  have hdash : Sample.dash.edit.replacement = "-".toList := by decide +kernel
  refine ⟨_, _, final, hrun [Sample.bracket, Sample.dash] (.refl _),
    hrun [Sample.dash, Sample.bracket] (.swap _ _ _), ?_, ?_, ?_⟩
  · exact (hfixed Sample.bracket (by simp)).trans (congrArg some hbracket)
  · refine (hother 1 ?_).trans (by decide)
    simp [Sample.bracket, Sample.dash, Sample.findingOn]
  · exact (hfixed Sample.dash (by simp)).trans (congrArg some hdash)

end ChecklistReview.Fix
