import ChecklistReview.Fix
import ChecklistReview.Review

/-!
# Where findings come from

The findings of a review are those of its rules in its entries, one after another. A finding
refers to its rule by the rule's identity, which leads back to the rule if no other rule has it.

## Main statements

* `review_cons`: a review goes on entry by entry.
* `findings_review`: the findings of a review, entry by entry and rule by rule.
* `mem_findings_review_iff`: each finding is produced by a rule in an entry.
* `findRule?_identity`: a rule is found by its identity if no other rule has it.
-/

namespace ChecklistReview.Review.Engine

open Source

/-- The findings of a rule in an entry: none if the entry cannot be read. -/
def findingsIn (engine : Engine) (entry : Entry) (rule : Rule) : List Finding :=
  match (engine.load entry).value with
  | none => []
  | some document => (engine.findingsOf document rule).value

/-- The findings of an evaluation: none if it fails. -/
theorem findingsOf_value (engine : Engine) (document : Document) (rule : Rule) :
    (engine.findingsOf document rule).value =
      match (engine.evaluate document rule).value with
      | .ok findings => findings
      | .error _ => [] := by
  rw [findingsOf, Logged.value_bind]
  cases (engine.evaluate document rule).value with
  | ok findings => rfl
  | error failure => rfl

/-- The findings of an entry, rule by rule. -/
theorem findings_examine (engine : Engine) (rules : List Rule) (entry : Entry) :
    (engine.examine rules entry).value.findings = rules.flatMap (engine.findingsIn entry) := by
  rw [examine, Logged.value_bind]
  unfold findingsIn
  cases (engine.load entry).value with
  | none => simp [Report.empty]
  | some document => simp [List.flatMap_def]

theorem findings_append (a b : Report) : (a ++ b).findings = a.findings ++ b.findings := rfl

/-- A review reports on its first entry and then on the others. -/
theorem review_cons (engine : Engine) (rules : List Rule) (entry : Entry) (rest : List Entry) :
    (engine.review rules (entry :: rest)).value =
      (engine.examine rules entry).value ++ (engine.review rules rest).value := rfl

/-- The findings of a review, entry by entry and within an entry rule by rule. -/
theorem findings_review (engine : Engine) (rules : List Rule) (entries : List Entry) :
    (engine.review rules entries).value.findings =
      entries.flatMap fun entry => rules.flatMap (engine.findingsIn entry) := by
  induction entries with
  | nil => rfl
  | cons entry rest ih =>
    rw [review_cons, findings_append, ih, findings_examine, List.flatMap_cons]

/-- Each finding of a review is produced by one of its rules in one of its entries. -/
theorem mem_findings_review_iff {engine : Engine} {rules : List Rule} {entries : List Entry}
    {f : Finding} :
    f ∈ (engine.review rules entries).value.findings ↔
      ∃ entry ∈ entries, ∃ rule ∈ rules, f ∈ engine.findingsIn entry rule := by
  simp only [findings_review, List.mem_flatMap]

/-- The findings of a rule in a text that is given. -/
theorem findingsIn_text (engine : Engine) (path : Path) (text : String) (rule : Rule) :
    engine.findingsIn (.text path text) rule =
      (engine.findingsOf (Document.ofText path text) rule).value := rfl

end ChecklistReview.Review.Engine

namespace ChecklistReview.Fix

/-- A rule is found by its identity if no other rule has it. -/
theorem findRule?_identity {rules : List Rule} (hdistinct : (rules.map Rule.identity).Nodup)
    {rule : Rule} (hmem : rule ∈ rules) : findRule? rules rule.identity = some rule := by
  induction rules with
  | nil => simp at hmem
  | cons first rest ih =>
    rw [List.map_cons, List.nodup_cons] at hdistinct
    rcases List.mem_cons.mp hmem with rfl | hrest
    · simp [findRule?]
    · have hne : first.identity ≠ rule.identity := by
        intro heq
        exact hdistinct.1 (heq ▸ List.mem_map_of_mem hrest)
      simpa [findRule?, hne] using ih hdistinct.2 hrest

end ChecklistReview.Fix
