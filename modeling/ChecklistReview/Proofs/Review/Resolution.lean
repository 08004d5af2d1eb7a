import ChecklistReview.Proofs.Review.Evaluation
import ChecklistReview.Proofs.Review.Origin

/-!
# From findings back to rules

A finding holds no rule but an identity, and whoever needs the rule looks the identity up. Findings
of pattern rules and length rules carry the identity of their rule. Those of rules on syntax trees
carry a fixed one, so they lead to the rule of that identity, which need not be their own.

## Main statements

* `findRule?_eq_some_iff`: which rule an identity leads to.
* `ruleId_of_mem_findingsIn`: the identity that a finding of a review carries.
* `finding_leads_back`: which findings lead back to their rule.
-/

namespace ChecklistReview.Fix

/-- Among rules of different identities an identity leads to the rule that has it. -/
theorem findRule?_eq_some_iff {rules : List Rule} (hdistinct : (rules.map Rule.identity).Nodup)
    {identity : Wording} {rule : Rule} :
    findRule? rules identity = some rule ↔ rule ∈ rules ∧ rule.identity = identity := by
  constructor
  · intro h
    have hidentity := List.find?_some h
    exact ⟨List.mem_of_find?_eq_some h, by simpa using hidentity⟩
  · rintro ⟨hmem, rfl⟩
    exact findRule?_identity hdistinct hmem

end ChecklistReview.Fix

namespace ChecklistReview.Review

open Source

/-- The findings of a rule in an entry are what the rule reports in the document of the entry. -/
theorem reports_of_mem_findingsIn {read : Reader} {parse : SyntaxReader} {runtime : Runtime}
    {entry : Entry} {rule : Rule} {f : Finding}
    (hf : f ∈ (Engine.standard read parse runtime).findingsIn entry rule) :
    ∃ document, ((Engine.standard read parse runtime).load entry).value = some document ∧
      Reports parse runtime document rule f := by
  rw [Engine.findingsIn] at hf
  split at hf
  · simp at hf
  · next document hload =>
    rw [Engine.findingsOf_value] at hf
    split at hf
    · next findings hfindings => exact ⟨document, hload, reports_of_mem hfindings hf⟩
    · simp at hf

theorem ruleId_of_mem_findingsIn {read : Reader} {parse : SyntaxReader} {runtime : Runtime}
    {entry : Entry} {rule : Rule} {f : Finding}
    (hf : f ∈ (Engine.standard read parse runtime).findingsIn entry rule) :
    f.ruleId = reportedIdentity rule := by
  obtain ⟨document, -, hreports⟩ := reports_of_mem_findingsIn hf
  exact hreports.ruleId_eq

/-- Which findings lead back to their rule. The findings of a review are those of its rules in its
entries, one after another. Among rules of different identities, a finding of a pattern rule or a
length rule leads to the rule that produced it. A finding of a rule on syntax trees carries a fixed
identity: it leads to the rule that has this identity, and so to the rule that produced it exactly
if that is the one. -/
theorem finding_leads_back (read : Reader) (parse : SyntaxReader) (runtime : Runtime)
    (rules : List Rule) (hdistinct : (rules.map Rule.identity).Nodup) (entries : List Entry) :
    ((Engine.standard read parse runtime).review rules entries).value.findings =
      (entries.flatMap fun entry =>
        rules.flatMap ((Engine.standard read parse runtime).findingsIn entry)) ∧
    ∀ entry ∈ entries, ∀ rule ∈ rules,
      ∀ f ∈ (Engine.standard read parse runtime).findingsIn entry rule,
      (rule.kind ≠ .structural → Fix.findRule? rules f.ruleId = some rule) ∧
      (rule.kind = .structural →
        f.ruleId = .text "C2" ∧
        (Fix.findRule? rules f.ruleId = some rule ↔ rule.identity = .text "C2") ∧
        ∀ other, Fix.findRule? rules f.ruleId = some other ↔
          other ∈ rules ∧ other.identity = .text "C2") := by
  refine ⟨Engine.findings_review _ rules entries, ?_⟩
  intro entry _ rule hrule f hf
  have hid := ruleId_of_mem_findingsIn hf
  constructor
  · intro hkind
    rw [hid, reportedIdentity_of_ne hkind]
    exact Fix.findRule?_identity hdistinct hrule
  · intro hkind
    have hfixed : f.ruleId = .text "C2" := hid.trans (reportedIdentity_structural hkind)
    have hleads : ∀ other, Fix.findRule? rules f.ruleId = some other ↔
        other ∈ rules ∧ other.identity = .text "C2" := by
      intro other
      rw [hfixed]
      exact Fix.findRule?_eq_some_iff hdistinct
    refine ⟨hfixed, ?_, hleads⟩
    rw [hleads rule]
    exact and_iff_right hrule

namespace ArrowFunction

/-- A function with one parameter. -/
def entry : Entry := .text ⟨.relative, ["a.ts"]⟩ "x=>x"

/-- A node of the syntax tree of the function. -/
def node (kind : String) (isNamed : Bool) (field : Option String) (start stop : Nat)
    (children : List Tree) : Tree :=
  .node { kind, isNamed, field, status := .sound, hasError := false, start, stop, row := 0 }
    children

/-- The syntax tree of the function. -/
def tree : Tree :=
  node "program" true none 0 4 [node "expression_statement" true none 0 4
    [node "arrow_function" true none 0 4
      [node "identifier" true (some "parameter") 0 1 [], node "=>" false none 1 3 [],
        node "identifier" true (some "body") 3 4 []]]]

/-- An engine that reads no files and parses the function. -/
def engine : Engine := .standard (fun _ => .error .notFound) (fun _ _ => tree)

/-- A rule with an identity. -/
def ruleNamed (identity : String) (check : Rule.Check) : Rule :=
  { id := some (.text identity), title := none, description := none, severity := none
    languages := none, isFixable := true, template := some (.text "($MATCH)"), check }

/-- The rule on syntax trees with an identity. -/
def nullCheck (identity : String) : Rule :=
  ruleNamed identity (.structural (some (.text StructureCheck.nullCheckName)))

end ArrowFunction

open ArrowFunction

/-- Findings of a length rule and of a rule on syntax trees lead back to their rules. -/
theorem finding_leads_back_of_two_kinds :
    let rules := [ruleNamed "short" (.lineLength (some 1)), nullCheck "C2"]
    ∀ rule ∈ rules, ∃ f ∈ (engine.review rules [entry]).value.findings,
      f ∈ engine.findingsIn entry rule ∧ Fix.findRule? rules f.ruleId = some rule := by
  intro rules rule hrule
  obtain ⟨hreview, hleads⟩ := finding_leads_back (fun _ => .error .notFound) (fun _ _ => tree) {}
    rules (by decide) [entry]
  have hsome : ∀ rule ∈ rules, engine.findingsIn entry rule ≠ [] := by
    decide +kernel
  obtain ⟨f, hf⟩ := List.exists_mem_of_ne_nil _ (hsome rule hrule)
  have hmem : f ∈ (engine.review rules [entry]).value.findings :=
    Engine.mem_findings_review_iff.mpr ⟨entry, List.mem_singleton_self entry, rule, hrule, hf⟩
  refine ⟨f, hmem, hf, ?_⟩
  obtain ⟨hother, hstructural⟩ := hleads entry (List.mem_singleton_self entry) rule hrule f hf
  by_cases hkind : rule.kind = .structural
  · have hidentity : ∀ rule ∈ rules, rule.kind = .structural → rule.identity = .text "C2" := by
      decide
    exact (hstructural hkind).2.1.mpr (hidentity rule hrule hkind)
  · exact hother hkind

/-- A finding of a rule on syntax trees that has another identity leads to no rule at all. -/
theorem structural_finding_leads_nowhere :
    ([nullCheck "N1"].map Rule.identity).Nodup ∧
      ∃ f ∈ (engine.review [nullCheck "N1"] [entry]).value.findings,
        f ∈ engine.findingsIn entry (nullCheck "N1") ∧
          Fix.findRule? [nullCheck "N1"] f.ruleId = none := by
  decide +kernel

end ChecklistReview.Review
