import ChecklistReview.Proofs.Layout.Table
import ChecklistReview.Proofs.Layout.Wrap
import ChecklistReview.Proofs.Report.Sections
import Mathlib.Data.List.Flatten

/-!
# What the lines of a report hold

A report is shown as lines. They hold the table of every section with the lines of each finding,
the table of the files with the lines of each file, and the numbers of findings in words.

## Main statements

* `tables_sublist_showFindings`: the tables stand in the order of the sections.
* `findingLines_infix_tableLines`: the findings of a section stand in its table in their order.
* `fileLines_infix_filesLines`: the files stand in their table in their order.
* `summary_mem_showFindings`: the numbers of findings stand in a line if there is room for them.
-/

namespace ChecklistReview.Report

open Layout

-- ════════════════════════════════════════════════════════════════════════
-- Sections
-- ════════════════════════════════════════════════════════════════════════

theorem showFindings_of_ne_nil (settings : Settings) {findings : List Finding} (h : findings ≠ [])
    (scanned : List Path) (rules : List Rule) :
    showFindings settings findings scanned rules =
      (sections findings).flatMap (sectionLines settings (templates rules)) ++
        filesLines settings findings scanned ++ [[]] ++
        Layout.Panel.renderText { frame := .rounded, title := some "Summary" } settings.width
          (summaryText findings).toList := by
  rw [showFindings, if_neg (by simpa using h)]

/-- The list of the files is shown with and without findings. -/
theorem filesLines_infix_showFindings (settings : Settings) (findings : List Finding)
    (scanned : List Path) (rules : List Rule) :
    filesLines settings findings scanned <:+: showFindings settings findings scanned rules := by
  cases findings with
  | nil => exact (List.suffix_append _ _).isInfix
  | cons f findings =>
    rw [showFindings_of_ne_nil settings (List.cons_ne_nil f findings)]
    rw [List.append_assoc]
    exact ⟨_, _, rfl⟩

/-- Every section is shown. -/
theorem sectionLines_infix_showFindings (settings : Settings) {findings : List Finding}
    (scanned : List Path) (rules : List Rule) {s : FileSection} (hs : s ∈ sections findings) :
    sectionLines settings (templates rules) s <:+:
      showFindings settings findings scanned rules := by
  have hfindings : findings ≠ [] := by
    rintro rfl
    exact absurd hs List.not_mem_nil
  obtain ⟨before, after, hparts⟩ := List.append_of_mem hs
  rw [showFindings_of_ne_nil settings hfindings, hparts, List.flatMap_append, List.flatMap_cons]
  simp only [List.append_assoc]
  exact ⟨_, _, List.append_assoc _ _ _⟩

/-- The table of a section is shown. -/
theorem tableLines_infix_showFindings (settings : Settings) {findings : List Finding}
    (scanned : List Path) (rules : List Rule) {s : FileSection} (hs : s ∈ sections findings) :
    tableLines settings.width (findingTable s.findings) <:+:
      showFindings settings findings scanned rules :=
  (List.infix_append _ _ _).trans (sectionLines_infix_showFindings settings scanned rules hs)

/-- The tables are shown in the order of the sections. -/
theorem tables_sublist_showFindings (settings : Settings) (findings : List Finding)
    (scanned : List Path) (rules : List Rule) :
    ((sections findings).flatMap fun s =>
      tableLines settings.width (findingTable s.findings)).Sublist
        (showFindings settings findings scanned rules) := by
  cases findings with
  | nil => exact List.nil_sublist _
  | cons f findings =>
    rw [showFindings_of_ne_nil settings (List.cons_ne_nil f findings), List.append_assoc,
      List.append_assoc]
    refine List.Sublist.trans ?_ (List.sublist_append_left _ _)
    apply List.Sublist.flatMap_right
    intro s _
    exact (List.infix_append _ _ _).sublist

/-- A line of a table that stands alone, cut off at a width. -/
def cropped (width : Nat) (line : List Char) : List Char :=
  if Text.width line ≤ width then line else Text.fit width line

/-- The lines of a finding in the table of findings. -/
def findingLines (width : Nat) (findings : List Finding) (f : Finding) : List (List Char) :=
  ((findingTable findings).linesOfRow width (findingRow f)).map (cropped width)

theorem findingLines_ne_nil (width : Nat) (findings : List Finding) (f : Finding) :
    findingLines width findings f ≠ [] := by
  rw [findingLines, ne_eq, List.map_eq_nil_iff]
  exact Table.linesOfRow_ne_nil _ width _

/-- The findings of a table stand there one after the other. -/
theorem findingLines_infix_tableLines (width : Nat) (findings : List Finding) :
    findings.flatMap (findingLines width findings) <:+:
      tableLines width (findingTable findings) := by
  have hrows := ((findingTable findings).rows_infix_render width).map (cropped width)
  rw [List.map_flatMap, show (findingTable findings).rows = findings.map findingRow from rfl,
    List.flatMap_map] at hrows
  exact hrows

-- ════════════════════════════════════════════════════════════════════════
-- Files
-- ════════════════════════════════════════════════════════════════════════

/-- The lines of a file in the list of files. -/
def fileLines (settings : Settings) (rows : List FileRow) (row : FileRow) : List (List Char) :=
  ((fileTable settings rows).linesOfRow (Panel.innerWidth settings.width)
    (fileTableRow settings row)).map (Panel.framed { frame := .rounded } settings.width)

theorem fileLines_ne_nil (settings : Settings) (rows : List FileRow) (row : FileRow) :
    fileLines settings rows row ≠ [] := by
  rw [fileLines, ne_eq, List.map_eq_nil_iff]
  exact Table.linesOfRow_ne_nil _ _ _

/-- The files stand in their list one after the other. -/
theorem fileLines_infix_filesLines {settings : Settings} (hwidth : 4 < settings.width)
    (findings : List Finding) {scanned : List Path} (hscanned : scanned ≠ []) :
    (fileRows findings scanned).flatMap (fileLines settings (fileRows findings scanned)) <:+:
      filesLines settings findings scanned := by
  have hnonempty : scanned.isEmpty = false := by simpa using hscanned
  have hrows := ((fileTable settings (fileRows findings scanned)).rows_infix_render
    (Panel.innerWidth settings.width)).map (Panel.framed { frame := .rounded } settings.width)
  rw [List.map_flatMap, show (fileTable settings (fileRows findings scanned)).rows =
    (fileRows findings scanned).map (fileTableRow settings) from rfl, List.flatMap_map] at hrows
  rw [filesLines, hnonempty]
  exact (hrows.trans (Panel.lines_infix_render _ hwidth _)).trans (List.suffix_cons _ _).isInfix

-- ════════════════════════════════════════════════════════════════════════
-- Numbers of findings
-- ════════════════════════════════════════════════════════════════════════

/-- The panel with the numbers of findings. -/
def summaryPanel : Panel := { frame := .rounded, title := some "Summary" }

/-- A number of findings in words. -/
def issueWords (n : Nat) : String := if n = 1 then "1 issue" else s!"{n} issues"

/-- The numbers of findings in words: all of them, and those of each severity. -/
def summaryWords (findings : List Finding) : List String :=
  issueWords findings.length ::
    (severityCounts findings).map fun row => s!"{row.2} {row.1.name}"

theorem summaryText_eq (findings : List Finding) :
    summaryText findings = " | ".intercalate (summaryWords findings) := rfl

theorem isVisible_of_mem_toDigits {n : Nat} {c : Char} (h : c ∈ Nat.toDigits 10 n) :
    Text.IsVisible c := by
  have hdigit := Nat.isDigit_of_mem_toDigits (by decide) (by decide) h
  have hrange : 48 ≤ c.toNat ∧ c.toNat ≤ 57 := by
    simpa [Char.isDigit, Char.le_def, UInt32.le_iff_toNat_le] using hdigit
  exact ⟨by omega, by omega⟩

theorem isVisible_of_mem_name (s : Severity) : ∀ c ∈ s.name.toList, Text.IsVisible c := by
  cases s <;> simp [Severity.name, Text.IsVisible]

theorem isVisible_of_mem_issueWords (n : Nat) :
    ∀ c ∈ (issueWords n).toList, Text.IsVisible c := by
  rw [issueWords]
  split
  · simp [Text.IsVisible]
  · have htext : (s!"{n} issues").toList = Nat.toDigits 10 n ++ " issues".toList := by
      simp [ToString.toString, Nat.repr]
    rw [htext, List.forall_mem_append]
    exact ⟨fun c => isVisible_of_mem_toDigits, by simp [Text.IsVisible]⟩

theorem isVisible_of_mem_summaryWords {findings : List Finding} {word : String}
    (h : word ∈ summaryWords findings) : ∀ c ∈ word.toList, Text.IsVisible c := by
  rw [summaryWords, List.mem_cons, List.mem_map] at h
  rcases h with rfl | ⟨⟨s, n⟩, -, rfl⟩
  · exact isVisible_of_mem_issueWords _
  · have htext : (s!"{n} {s.name}").toList = Nat.toDigits 10 n ++ ' ' :: s.name.toList := by
      simp [ToString.toString, Nat.repr]
    rw [htext, List.forall_mem_append, List.forall_mem_cons]
    exact ⟨fun c => isVisible_of_mem_toDigits, ⟨by decide, by decide⟩, isVisible_of_mem_name s⟩

theorem isVisible_of_mem_intercalate {between : List Char} {parts : List (List Char)}
    (hbetween : ∀ c ∈ between, Text.IsVisible c)
    (hparts : ∀ part ∈ parts, ∀ c ∈ part, Text.IsVisible c) :
    ∀ c ∈ between.intercalate parts, Text.IsVisible c := by
  induction parts with
  | nil => simp
  | cons part parts ih =>
    rw [List.forall_mem_cons] at hparts
    cases parts with
    | nil => simpa using hparts.1
    | cons next parts =>
      rw [List.intercalate_cons_cons, List.forall_mem_append, List.forall_mem_append]
      exact ⟨⟨hparts.1, hbetween⟩, ih hparts.2⟩

theorem isVisible_of_mem_summaryText (findings : List Finding) :
    ∀ c ∈ (summaryText findings).toList, Text.IsVisible c := by
  rw [summaryText_eq, String.toList_intercalate]
  apply isVisible_of_mem_intercalate
  · simp [Text.IsVisible]
  · intro word hword
    obtain ⟨text, htext, rfl⟩ := List.mem_map.mp hword
    exact isVisible_of_mem_summaryWords htext

/-- The numbers of findings are shown at the end. -/
theorem summary_suffix_showFindings (settings : Settings) {findings : List Finding}
    (h : findings ≠ []) (scanned : List Path) (rules : List Rule) :
    summaryPanel.renderText settings.width (" | ".intercalate (summaryWords findings)).toList <:+
      showFindings settings findings scanned rules := by
  rw [showFindings_of_ne_nil settings h]
  exact List.suffix_append _ _

/-- The numbers of findings stand in a line if there is room for them. -/
theorem summary_mem_showFindings {settings : Settings} {findings : List Finding}
    (h : findings ≠ []) (scanned : List Path) (rules : List Rule) (hroom : 4 < settings.width)
    (hwidth : (" | ".intercalate (summaryWords findings)).length ≤
      Panel.innerWidth settings.width) :
    summaryPanel.framed settings.width (" | ".intercalate (summaryWords findings)).toList ∈
      showFindings settings findings scanned rules := by
  have hpanel := summary_suffix_showFindings settings h scanned rules
  rw [← summaryText_eq] at hwidth hpanel ⊢
  have hline : wrap (Panel.innerWidth settings.width) .fold .natural (summaryText findings).toList =
      [(summaryText findings).toList] :=
    wrap_of_length_le (isVisible_of_mem_summaryText findings) (by rwa [String.length_toList])
  rw [Panel.renderText, hline] at hpanel
  exact ((Panel.lines_infix_render _ hroom _).trans hpanel.isInfix).subset (by simp)

end ChecklistReview.Report
