import ChecklistReview.Review

/-!
# What an evaluation reports

`Reports` lists once what each kind of rule can report in a document, with all that has to hold for
it. Every finding of an evaluation is one of these, and what findings have in common, whatever
their rule, is read off there.

## Main statements

* `reports_of_mem`: the findings of an evaluation.
* `Reports.file_eq`: a finding is about the document that was evaluated.
* `Reports.ruleId_eq`: the identity that a finding carries.
-/

namespace ChecklistReview.Review

open Source

/-- What a rule reports in a document. -/
inductive Reports (parse : SyntaxReader) (runtime : Runtime) (document : Document) (rule : Rule) :
    Finding → Prop where
  | pattern {source : Wording} {regex : Regex} {span : Regex.Span}
      (hcheck : rule.check = .pattern source) (happlies : rule.appliesTo document.language = true)
      (hcompile : Regex.compile source.toList source.halves runtime.expressions = .ok regex)
      (hspan : span ∈ regex.findAll document.text.toArray) :
      Reports parse runtime document rule
        (PatternCheck.findingAt document rule source document.text.toArray span)
  | structural {tree parameter : Tree}
      (hcheck : rule.check = .structural (some (.text StructureCheck.nullCheckName)))
      (hlanguage : document.language ∈ syntaxLanguages)
      (happlies : rule.appliesTo document.language = true)
      (htree : (soundTreeOf (some document.path) document.text parse).value = .ok tree)
      (hparameter : parameter ∈ NullCheck.unguarded document.text.toArray tree) :
      Reports parse runtime document rule (NullCheck.findingAt document parameter)
  | fileLength {most : Int} (hcheck : rule.check = .fileLength (some most)) (hne : most ≠ 0)
      (happlies : rule.appliesTo document.language = true) (hlong : most < document.lineCount) :
      Reports parse runtime document rule (LengthCheck.findingForFile document rule)
  | lineLength {most : Int} {index : Nat} {line : List Char}
      (hcheck : rule.check = .lineLength (some most)) (hne : most ≠ 0)
      (happlies : rule.appliesTo document.language = true)
      (hline : document.lines[index]? = some line) (hlong : most < line.length) :
      Reports parse runtime document rule (LengthCheck.findingForLine document rule line index)

variable {parse : SyntaxReader} {runtime : Runtime} {document : Document} {rule : Rule}
  {f : Finding}

-- ════════════════════════════════════════════════════════════════════════
-- The four kinds
-- ════════════════════════════════════════════════════════════════════════

theorem compile?_eq_ok_some {source : Wording} {setup : Regex.Setup} {regex : Regex}
    (h : (PatternCheck.compile? source setup).value = .ok (some regex)) :
    Regex.compile source.toList source.halves setup = .ok regex := by
  rw [PatternCheck.compile?] at h
  split at h
  · next hcompile =>
    obtain rfl := Option.some.inj (Except.ok.inj h)
    exact hcompile
  · cases h
  · cases h
  · cases h
  · cases h
  · cases h

/-- The findings of a pattern rule, if there are any. -/
theorem pattern_findings {source : Wording} {setup : Regex.Setup} {findings : List Finding}
    (h : (PatternCheck.evaluate document rule source setup).value = .ok findings) :
    findings = [] ∨
      rule.appliesTo document.language = true ∧
        ∃ regex, Regex.compile source.toList source.halves setup = .ok regex ∧
          findings = (regex.findAll document.text.toArray).map
            (PatternCheck.findingAt document rule source document.text.toArray) := by
  rw [PatternCheck.evaluate] at h
  split at h
  · next happlies =>
    rw [Logged.value_bind] at h
    split at h
    · cases h
    · exact .inl (Except.ok.inj h).symm
    · next regex hregex =>
      exact .inr ⟨happlies, regex, compile?_eq_ok_some hregex, (Except.ok.inj h).symm⟩
  · exact .inl (Except.ok.inj h).symm

theorem reports_of_mem_pattern {source : Wording} {findings : List Finding}
    (hcheck : rule.check = .pattern source)
    (h : (PatternCheck.evaluate document rule source runtime.expressions).value = .ok findings)
    (hf : f ∈ findings) : Reports parse runtime document rule f := by
  rcases pattern_findings h with rfl | ⟨happlies, regex, hcompile, rfl⟩
  · simp at hf
  · obtain ⟨span, hspan, rfl⟩ := List.mem_map.mp hf
    exact .pattern hcheck happlies hcompile hspan

theorem exists_of_scanTree_eq_ok {tree : Tree} {findings : List Finding}
    (h : (NullCheck.scanTree document tree).value = .ok findings) :
    ∃ sound, requireSound (some document.path) tree = .ok sound ∧
      findings = (NullCheck.unguarded document.text.toArray sound).map
        (NullCheck.findingAt document) := by
  rw [NullCheck.scanTree] at h
  split at h
  · cases h
  · next sound hsound => exact ⟨sound, hsound, (Except.ok.inj h).symm⟩

/-- The findings of a rule on syntax trees, if there are any. -/
theorem structural_findings {name : Option Wording} {findings : List Finding}
    (h : (StructureCheck.evaluate document rule name parse runtime).value = .ok findings) :
    findings = [] ∨
      name = some (.text StructureCheck.nullCheckName) ∧ document.language ∈ syntaxLanguages ∧
        rule.appliesTo document.language = true ∧
        ∃ tree, (soundTreeOf (some document.path) document.text parse).value = .ok tree ∧
          findings = (NullCheck.unguarded document.text.toArray tree).map
            (NullCheck.findingAt document) := by
  rw [StructureCheck.evaluate] at h
  split at h
  · exact .inl (Except.ok.inj h).symm
  · next hname =>
    split at h
    · next hgate =>
      rw [Bool.and_eq_true, decide_eq_true_iff] at hgate
      rw [Logged.value_bind] at h
      split at h
      · cases h
      · rw [Logged.value_bind] at h
        split at h
        · next scanned hscan =>
          obtain ⟨sound, hsound, hscanned⟩ := exists_of_scanTree_eq_ok hscan
          refine .inr ⟨Classical.not_not.mp hname, hgate.1, hgate.2, sound, hsound, ?_⟩
          rw [← Except.ok.inj h, hscanned]
        · exact .inl (Except.ok.inj h).symm
    · exact .inl (Except.ok.inj h).symm

theorem reports_of_mem_structural {name : Option Wording} {findings : List Finding}
    (hcheck : rule.check = .structural name)
    (h : (StructureCheck.evaluate document rule name parse runtime).value = .ok findings)
    (hf : f ∈ findings) : Reports parse runtime document rule f := by
  rcases structural_findings h with rfl | ⟨rfl, hlanguage, happlies, tree, htree, rfl⟩
  · simp at hf
  · obtain ⟨parameter, hparameter, rfl⟩ := List.mem_map.mp hf
    exact .structural hcheck hlanguage happlies htree hparameter

theorem threshold?_eq_some {most : Option Int} {n : Int}
    (h : LengthCheck.threshold? most = some n) : most = some n ∧ n ≠ 0 := by
  obtain ⟨hmost, hne⟩ := Option.filter_eq_some_iff.mp h
  exact ⟨hmost, by simpa using hne⟩

theorem reports_of_mem_fileLength {most : Option Int} (hcheck : rule.check = .fileLength most)
    (hf : f ∈ (LengthCheck.evaluateFile document rule most).value) :
    Reports parse runtime document rule f := by
  rw [LengthCheck.evaluateFile] at hf
  split at hf
  · simp at hf
  · next n hn =>
    obtain ⟨rfl, hne⟩ := threshold?_eq_some hn
    split at hf
    · next hgate =>
      rw [Bool.and_eq_true, decide_eq_true_iff] at hgate
      obtain rfl := List.mem_singleton.mp hf
      exact .fileLength hcheck hne hgate.1 hgate.2
    · simp at hf

theorem exists_of_mem_longLines {most : Int} {start : Nat} {ls : List (List Char)}
    (hf : f ∈ LengthCheck.longLines document rule most start ls) :
    ∃ index line, ls[index]? = some line ∧ most < line.length ∧
      f = LengthCheck.findingForLine document rule line (start + index) := by
  induction ls generalizing start with
  | nil => simp [LengthCheck.longLines] at hf
  | cons first ls ih =>
    have hlater : f ∈ LengthCheck.longLines document rule most (start + 1) ls →
        ∃ index line, (first :: ls)[index]? = some line ∧ most < line.length ∧
          f = LengthCheck.findingForLine document rule line (start + index) := by
      intro hf
      obtain ⟨index, line, hline, hlong, hfinding⟩ := ih hf
      refine ⟨index + 1, line, hline, hlong, ?_⟩
      rw [hfinding, Nat.add_assoc, Nat.add_comm 1 index]
    rw [LengthCheck.longLines] at hf
    split at hf
    · next hlong =>
      rcases List.mem_cons.mp hf with rfl | hf
      · exact ⟨0, first, rfl, hlong, rfl⟩
      · exact hlater hf
    · exact hlater hf

theorem reports_of_mem_lineLength {most : Option Int} (hcheck : rule.check = .lineLength most)
    (hf : f ∈ (LengthCheck.evaluateLines document rule most).value) :
    Reports parse runtime document rule f := by
  rw [LengthCheck.evaluateLines] at hf
  split at hf
  · simp at hf
  · next n hn =>
    obtain ⟨rfl, hne⟩ := threshold?_eq_some hn
    split at hf
    · next happlies =>
      obtain ⟨index, line, hline, hlong, rfl⟩ := exists_of_mem_longLines hf
      rw [Nat.zero_add]
      exact .lineLength hcheck hne happlies hline hlong
    · simp at hf

-- ════════════════════════════════════════════════════════════════════════
-- All findings
-- ════════════════════════════════════════════════════════════════════════

/-- Every finding of an evaluation is one that the kind of its rule can report. -/
theorem reports_of_mem {findings : List Finding}
    (h : (evaluateRule document rule parse runtime).value = .ok findings) (hf : f ∈ findings) :
    Reports parse runtime document rule f := by
  rw [evaluateRule] at h
  split at h
  · next source hcheck => exact reports_of_mem_pattern hcheck h hf
  · next name hcheck => exact reports_of_mem_structural hcheck h hf
  · next most hcheck =>
    obtain rfl := Except.ok.inj h
    exact reports_of_mem_fileLength hcheck hf
  · next most hcheck =>
    obtain rfl := Except.ok.inj h
    exact reports_of_mem_lineLength hcheck hf

/-- A finding is about the document that was evaluated. -/
theorem Reports.file_eq (h : Reports parse runtime document rule f) : f.file = document.path := by
  cases h <;> rfl

/-- The identity that the findings of a rule carry. Rules on syntax trees all report under the
same one. -/
def reportedIdentity (rule : Rule) : Wording :=
  match rule.kind with
  | .structural => .text NullCheck.ruleId
  | _ => rule.identity

theorem reportedIdentity_structural {rule : Rule} (h : rule.kind = .structural) :
    reportedIdentity rule = .text NullCheck.ruleId := by
  rw [reportedIdentity, h]

theorem reportedIdentity_of_ne {rule : Rule} (h : rule.kind ≠ .structural) :
    reportedIdentity rule = rule.identity := by
  rw [reportedIdentity]
  split
  · next hkind => exact absurd hkind h
  · rfl

theorem Reports.ruleId_eq (h : Reports parse runtime document rule f) :
    f.ruleId = reportedIdentity rule := by
  have hkind : rule.kind = rule.check.kind := rfl
  cases h with
  | pattern hcheck _ _ _ => rw [reportedIdentity, hkind, hcheck]; rfl
  | structural hcheck _ _ _ _ => rw [reportedIdentity, hkind, hcheck]; rfl
  | fileLength hcheck _ _ _ => rw [reportedIdentity, hkind, hcheck]; rfl
  | lineLength hcheck _ _ _ _ => rw [reportedIdentity, hkind, hcheck]; rfl

end ChecklistReview.Review
