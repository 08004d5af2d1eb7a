import ChecklistReview.Proofs.Review.Evaluation
import ChecklistReview.Proofs.Review.Origin
import Mathlib.Data.List.Perm.Basic

/-!
# What a review is made of

A review is a table with a row for each entry and a column for each rule, read row by row. A cell
is what the evaluation of the rule gives in the document of the entry, and it is empty if the
evaluation fails or the entry cannot be read. Nothing but its own evaluation decides on a cell, so
a failure loses one cell, and reviews of two lists of entries make up the review of both.

`Engine.cell` and `Engine.table` say this without reference to how a review is carried out.

## Main statements

* `Engine.review_value`: a review gives the table.
* `Engine.table_append`: the table of two lists of entries.
* `Engine.reportsOwnFile_of_mayFail`: the usual evaluations are about the document evaluated.
* `Engine.reviewData_of_shape_fault`: a value that is no entry ends the review without a report.
* `review_contains_failures`: all of this together.
-/

namespace ChecklistReview.Review

open Source

-- ════════════════════════════════════════════════════════════════════════
-- The table
-- ════════════════════════════════════════════════════════════════════════

/-- The text of an entry: the one that is given, or the one that is read. -/
def Entry.text? (read : Reader) : Entry → Option String
  | .text _ given => some given
  | .path place =>
    match read place with
    | .ok bytes => some (String.ofList (Text.Utf8.decodeReplacing bytes))
    | .error _ => none

/-- Whether an entry has a text. -/
def Entry.isReadable (read : Reader) (entry : Entry) : Bool := (entry.text? read).isSome

namespace Engine

/-- What the evaluation of a rule in an entry adds to the findings. -/
def cell (engine : Engine) (entry : Entry) (rule : Rule) : List Finding :=
  match entry.text? engine.read with
  | none => []
  | some text =>
    match (engine.evaluate (Document.ofText entry.file text) rule).value with
    | .ok findings => findings
    | .error _ => []

/-- The report that a review should give. -/
def table (engine : Engine) (rules : List Rule) (entries : List Entry) : Report :=
  { findings := entries.flatMap fun entry => rules.flatMap (engine.cell entry)
    scanned := (entries.filter fun entry => entry.isReadable engine.read).map Entry.file
    skipped := (entries.filter fun entry => !entry.isReadable engine.read).map Entry.file }

theorem load_value (engine : Engine) (entry : Entry) :
    (engine.load entry).value = (entry.text? engine.read).map (Document.ofText entry.file) := by
  cases entry with
  | text path text => rfl
  | path path =>
    rw [load, Logged.value_bind, readText, Logged.value_bind, Logged.value_pure, readBytes,
      Entry.text?]
    cases engine.read path with
    | ok bytes => rfl
    | error fault => rfl

theorem findingsIn_eq_cell (engine : Engine) (entry : Entry) (rule : Rule) :
    engine.findingsIn entry rule = engine.cell entry rule := by
  rw [findingsIn, cell, load_value]
  cases entry.text? engine.read with
  | none => rfl
  | some text => exact engine.findingsOf_value _ rule

/-- An entry that cannot be read is skipped, and every other one is scanned. -/
theorem scanned_skipped_examine (engine : Engine) (rules : List Rule) (entry : Entry) :
    (engine.examine rules entry).value.scanned =
        (if entry.isReadable engine.read then [entry.file] else []) ∧
      (engine.examine rules entry).value.skipped =
        (if entry.isReadable engine.read then [] else [entry.file]) := by
  rw [examine, Logged.value_bind, load_value, Entry.isReadable]
  cases entry.text? engine.read with
  | none => exact ⟨rfl, rfl⟩
  | some text => exact ⟨rfl, rfl⟩

theorem table_cons (engine : Engine) (rules : List Rule) (entry : Entry) (entries : List Entry) :
    engine.table rules (entry :: entries) =
      (engine.examine rules entry).value ++ engine.table rules entries := by
  obtain ⟨hscanned, hskipped⟩ := engine.scanned_skipped_examine rules entry
  have hfindings := engine.findings_examine rules entry
  rw [funext (engine.findingsIn_eq_cell entry)] at hfindings
  change _ = Report.append _ _
  rw [Report.append, hfindings, hscanned, hskipped]
  cases h : entry.isReadable engine.read <;> simp [table, h]

/-- A review gives the table. -/
theorem review_value (engine : Engine) (rules : List Rule) (entries : List Entry) :
    (engine.review rules entries).value = engine.table rules entries := by
  induction entries with
  | nil => rfl
  | cons entry entries ih => rw [review_cons, ih, table_cons]

/-- The table of two lists of entries. -/
theorem table_append (engine : Engine) (rules : List Rule) (a b : List Entry) :
    engine.table rules (a ++ b) = engine.table rules a ++ engine.table rules b := by
  change _ = Report.append _ _
  simp [table, Report.append]

/-- Each entry is scanned or skipped, once. -/
theorem scanned_skipped_perm (engine : Engine) (rules : List Rule) (entries : List Entry) :
    ((engine.table rules entries).scanned ++ (engine.table rules entries).skipped).Perm
      (entries.map Entry.file) := by
  rw [table, ← List.map_append]
  exact (List.filter_append_perm _ entries).map Entry.file

-- ════════════════════════════════════════════════════════════════════════
-- Findings and files
-- ════════════════════════════════════════════════════════════════════════

theorem mem_cell_iff {engine : Engine} {entry : Entry} {rule : Rule} {f : Finding} :
    f ∈ engine.cell entry rule ↔ ∃ text findings, entry.text? engine.read = some text ∧
      (engine.evaluate (Document.ofText entry.file text) rule).value = .ok findings ∧
      f ∈ findings := by
  rw [cell]
  cases entry.text? engine.read with
  | none => simp
  | some text =>
    cases h : (engine.evaluate (Document.ofText entry.file text) rule).value with
    | error failure => simp [h]
    | ok findings => simp [h]

/-- A finding comes from the evaluation of a rule in an entry that was scanned. -/
theorem exists_of_mem_table {engine : Engine} {rules : List Rule} {entries : List Entry}
    {f : Finding} (hf : f ∈ (engine.table rules entries).findings) :
    ∃ entry ∈ entries, ∃ rule ∈ rules, f ∈ engine.cell entry rule ∧
      entry.file ∈ (engine.table rules entries).scanned := by
  obtain ⟨entry, hentry, hrow⟩ := List.mem_flatMap.mp hf
  obtain ⟨rule, hrule, hcell⟩ := List.mem_flatMap.mp hrow
  obtain ⟨text, _, htext, -, -⟩ := mem_cell_iff.mp hcell
  have hreadable : entry.isReadable engine.read = true := by
    rw [Entry.isReadable, htext, Option.isSome_some]
  have hscanned : entry.file ∈ (engine.table rules entries).scanned :=
    List.mem_map_of_mem (List.mem_filter.mpr ⟨hentry, hreadable⟩)
  exact ⟨entry, hentry, rule, hrule, hcell, hscanned⟩

/-- The evaluations of an engine report on the document that is evaluated. -/
def ReportsOwnFile (engine : Engine) : Prop :=
  ∀ document rule findings, (engine.evaluate document rule).value = .ok findings →
    ∀ f ∈ findings, f.file = document.path

/-- An engine evaluates as usual, except that any evaluation may fail. -/
def MayFail (engine : Engine) (parse : SyntaxReader) (runtime : Runtime) : Prop :=
  ∀ document rule,
    (engine.evaluate document rule).value = (evaluateRule document rule parse runtime).value ∨
      ∃ failure, (engine.evaluate document rule).value = .error failure

theorem reportsOwnFile_of_mayFail {engine : Engine} {parse : SyntaxReader} {runtime : Runtime}
    (h : engine.MayFail parse runtime) : engine.ReportsOwnFile := by
  intro document rule findings hfindings f hf
  rcases h document rule with husual | ⟨failure, hfailure⟩
  · exact (reports_of_mem (husual.symm.trans hfindings) hf).file_eq
  · rw [hfailure] at hfindings
    cases hfindings

theorem file_mem_scanned {engine : Engine} (h : engine.ReportsOwnFile) {rules : List Rule}
    {entries : List Entry} {f : Finding} (hf : f ∈ (engine.table rules entries).findings) :
    f.file ∈ (engine.table rules entries).scanned := by
  obtain ⟨entry, -, rule, -, hcell, hscanned⟩ := exists_of_mem_table hf
  obtain ⟨_, findings, -, hfindings, hmem⟩ := mem_cell_iff.mp hcell
  have hfile : f.file = entry.file := h _ rule findings hfindings f hmem
  rw [hfile]
  exact hscanned

end Engine

-- ════════════════════════════════════════════════════════════════════════
-- Entries in data form
-- ════════════════════════════════════════════════════════════════════════

/-- A value that is a path, or that has two items. -/
def HasEntryShape : Json → Prop
  | .str _ => True
  | .broken _ => True
  | .array items => items.length = 2
  | .object members => members.length = 2
  | _ => False

theorem Entry.ofJson_of_not_shape {value : Json} (h : ¬ HasEntryShape value) :
    Entry.ofJson value = .error (.shape value) := by
  rw [Entry.ofJson.eq_def]
  split
  · exact absurd trivial h
  · exact absurd trivial h
  · exact absurd rfl h
  · exact absurd rfl h
  · rfl

namespace Engine

/-- Values that are entries are read up to where the others begin. -/
theorem readEntries_append {data : List Json} {entries : List Entry}
    (h : data.map Entry.ofJson = entries.map .ok) (rest : List Json) :
    readEntries (data ++ rest) = (entries ++ (readEntries rest).1, (readEntries rest).2) := by
  induction data generalizing entries with
  | nil =>
    obtain rfl := List.map_eq_nil_iff.mp h.symm
    rfl
  | cons value data ih =>
    cases entries with
    | nil => simp at h
    | cons entry entries =>
      obtain ⟨hvalue, hdata⟩ := List.cons.inj h
      rw [List.cons_append, readEntries, hvalue, ih hdata]
      rfl

theorem exists_entries {data : List Json}
    (h : ∀ value ∈ data, ∃ entry, Entry.ofJson value = .ok entry) :
    ∃ entries : List Entry, data.map Entry.ofJson = entries.map .ok := by
  induction data with
  | nil => exact ⟨[], rfl⟩
  | cons value data ih =>
    obtain ⟨entry, hentry⟩ := h value List.mem_cons_self
    obtain ⟨entries, hentries⟩ := ih fun v hv => h v (List.mem_cons_of_mem _ hv)
    exact ⟨entry :: entries, by rw [List.map_cons, List.map_cons, hentry, hentries]⟩

/-- Entries in data form are reviewed as the entries that they are. -/
theorem reviewData_of_entries (engine : Engine) (rules : List Rule) {data : List Json}
    {entries : List Entry} (h : data.map Entry.ofJson = entries.map .ok) :
    (engine.reviewData rules data).value = .ok (engine.review rules entries).value := by
  have hread : readEntries data = (entries, none) := by
    simpa [readEntries] using readEntries_append h []
  rw [reviewData, hread]
  rfl

/-- A value that is no entry ends the review without a report. -/
theorem reviewData_of_shape_fault (engine : Engine) (rules : List Rule) {before after : List Json}
    {value : Json} (hbefore : ∀ v ∈ before, ∃ entry, Entry.ofJson v = .ok entry)
    (hvalue : ¬ HasEntryShape value) :
    (engine.reviewData rules (before ++ value :: after)).value = .error (.shape value) := by
  obtain ⟨entries, hentries⟩ := exists_entries hbefore
  have hread : (readEntries (before ++ value :: after)).2 = some (.shape value) := by
    rw [readEntries_append hentries, readEntries, Entry.ofJson_of_not_shape hvalue]
  rw [reviewData, hread]
  rfl

end Engine

/-- A review gives the findings entry by entry and within an entry rule by rule, and nothing for an
evaluation that fails. Each entry is scanned or skipped, in the given order, and findings are about
files that were scanned. Reviews of two lists of entries make up the review of both. A value that
is no entry ends a review without a report. -/
theorem review_contains_failures (engine : Engine) (rules : List Rule) :
    (∀ entries,
      (engine.review rules entries).value = engine.table rules entries ∧
      ((engine.review rules entries).value.scanned ++
        (engine.review rules entries).value.skipped).Perm (entries.map Entry.file) ∧
      (∀ f ∈ (engine.review rules entries).value.findings,
        ∃ entry ∈ entries, ∃ rule ∈ rules, f ∈ engine.cell entry rule ∧
          entry.file ∈ (engine.review rules entries).value.scanned) ∧
      (engine.ReportsOwnFile → ∀ f ∈ (engine.review rules entries).value.findings,
        f.file ∈ (engine.review rules entries).value.scanned)) ∧
    (∀ parse runtime, engine.MayFail parse runtime → engine.ReportsOwnFile) ∧
    (∀ a b, (engine.review rules (a ++ b)).value =
      (engine.review rules a).value ++ (engine.review rules b).value) ∧
    (∀ data entries, data.map Entry.ofJson = entries.map .ok →
      (engine.reviewData rules data).value = .ok (engine.review rules entries).value) ∧
    (∀ before value after, (∀ v ∈ before, ∃ entry, Entry.ofJson v = .ok entry) →
      ¬ HasEntryShape value →
      (engine.reviewData rules (before ++ value :: after)).value = .error (.shape value)) := by
  refine ⟨?_, ?_, ?_, ?_, ?_⟩
  · intro entries
    rw [engine.review_value rules entries]
    refine ⟨rfl, engine.scanned_skipped_perm rules entries, ?_, ?_⟩
    · intro f hf
      exact Engine.exists_of_mem_table hf
    · intro hown f hf
      exact Engine.file_mem_scanned hown hf
  · intro parse runtime hmay
    exact Engine.reportsOwnFile_of_mayFail hmay
  · intro a b
    rw [engine.review_value, engine.review_value, engine.review_value, engine.table_append]
  · intro data entries hdata
    exact engine.reviewData_of_entries rules hdata
  · intro before value after hbefore hvalue
    exact engine.reviewData_of_shape_fault rules hbefore hvalue

namespace BrokenEvaluation

/-- A pattern whose evaluation fails, because it repeats too often. -/
def endless : Rule :=
  { id := some (.text "endless"), title := none, description := none, severity := none
    languages := none, isFixable := false, template := none, check := .pattern "a{99999999999}" }

/-- A limit of one character. -/
def short : Rule := { endless with id := some (.text "short"), check := .lineLength (some 1) }

/-- An engine that reads no files. -/
def engine : Engine := .standard fun _ => .error .notFound

/-- A file that is missing. -/
def missing : Entry := .path ⟨.relative, ["b.ts"]⟩

/-- A file of two characters. -/
def given : Entry := .text ⟨.relative, ["a.ts"]⟩ "ab"

end BrokenEvaluation

open BrokenEvaluation

/-- Neither a missing file nor an evaluation that fails costs the finding of another rule. -/
theorem review_contains_two_failures :
    let rules := [endless, short]
    let report := (engine.review rules [missing, given]).value
    (engine.evaluate (Document.ofText given.file "ab") endless).value.isOk = false ∧
      report.findings.map Finding.ruleId = [.text "short"] ∧
      report.scanned = [given.file] ∧ report.skipped = [missing.file] ∧
      (∀ f ∈ report.findings, f.file ∈ report.scanned) ∧
      (engine.reviewData rules [.str "b.ts", .array [.str "a.ts", .str "ab"]]).value = .ok report ∧
      (engine.reviewData rules [.str "b.ts", .int 5, .str "c.ts"]).value =
        .error (.shape (.int 5)) := by
  intro rules report
  obtain ⟨hreview, hmay, -, hdata, hshape⟩ := review_contains_failures engine rules
  obtain ⟨htable, -, -, hscanned⟩ := hreview [missing, given]
  have hown : engine.ReportsOwnFile := hmay TypeScript.parse {} fun _ _ => .inl rfl
  have hfirst : ∀ v ∈ [Json.str "b.ts"], ∃ entry, Entry.ofJson v = .ok entry := by
    intro v hv
    rw [List.mem_singleton.mp hv]
    exact ⟨missing, rfl⟩
  refine ⟨by decide +kernel, ?_, ?_, ?_, hscanned hown, hdata _ [missing, given] rfl,
    hshape [.str "b.ts"] (.int 5) [.str "c.ts"] hfirst id⟩
  · change (engine.review rules [missing, given]).value.findings.map Finding.ruleId = _
    rw [htable]
    decide +kernel
  · change (engine.review rules [missing, given]).value.scanned = _
    rw [htable]
    rfl
  · change (engine.review rules [missing, given]).value.skipped = _
    rw [htable]
    rfl

end ChecklistReview.Review
