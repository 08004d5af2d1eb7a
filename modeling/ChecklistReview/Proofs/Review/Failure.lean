import ChecklistReview.Checklist
import ChecklistReview.Proofs.NullCheck.Depth
import ChecklistReview.Proofs.Regex.Limits
import ChecklistReview.Proofs.Regex.Overrun
import ChecklistReview.Review

/-!
# When an evaluation fails

A rule that asks for nothing that can be checked has no findings: its expression is malformed, the
property it names is not known, or it has no threshold. Evaluations fail for two other reasons only:
the expression of a rule exceeds a limit, and then its text shows why, or the syntax tree of a file
is too deep for the calls that search it.

## Main statements

* `IsInvalid`: the rules that ask for nothing that can be checked.
* `evaluateRule_eq_error_iff`: which evaluations fail.
* `evaluation_fails_only_at_limits`: all of this together.
-/

namespace ChecklistReview.Review

open Source

/-- What a rule checks is nothing that can be checked. -/
inductive IsInvalid (setup : Regex.Setup) : Rule.Check → Prop where
  | malformed {source : Wording} {complaint : Regex.Complaint} {place : Option Nat}
      (h : Regex.compile source.toList source.halves setup = .error (.malformed complaint place)) :
      IsInvalid setup (.pattern source)
  | unknown {name : Option Wording} (h : name ≠ some (.text StructureCheck.nullCheckName)) :
      IsInvalid setup (.structural name)
  | noLineCount {most : Option Int} (h : most = none ∨ most = some 0) :
      IsInvalid setup (.fileLength most)
  | noLineLength {most : Option Int} (h : most = none ∨ most = some 0) :
      IsInvalid setup (.lineLength most)

/-- The extent of an expression as it is written in a rule. -/
def extentOf (source : Wording) (setup : Regex.Setup) : Regex.Extent :=
  Regex.extentOf source.toList source.halves setup

/-- The syntax tree of a document, with or without faults. -/
def treeIn (parse : SyntaxReader) (document : Document) : Tree :=
  (treeOf (some document.path) document.text parse).value

section

variable {parse : SyntaxReader} {runtime : Runtime} {document : Document} {rule : Rule}
  {failure : Log.Failure}

-- ════════════════════════════════════════════════════════════════════════
-- Expressions
-- ════════════════════════════════════════════════════════════════════════

section Expressions

variable {source : Wording} {setup : Regex.Setup}

theorem compile?_of_malformed {complaint : Regex.Complaint} {place : Option Nat}
    (h : Regex.compile source.toList source.halves setup = .error (.malformed complaint place)) :
    (PatternCheck.compile? source setup).value = .ok none := by
  unfold PatternCheck.compile?
  rw [h]
  rfl

theorem compile?_of_failure {fault : Regex.Fault}
    (h : Regex.compile source.toList source.halves setup = .error fault)
    (hfailure : fault.failure? = some failure) :
    (PatternCheck.compile? source setup).value = .error failure := by
  unfold PatternCheck.compile?
  rw [h]
  cases fault <;> cases hfailure <;> rfl

/-- An expression is compiled, is malformed, or exceeds a limit. -/
theorem compile?_cases (source : Wording) (setup : Regex.Setup) :
    (∃ regex?, (PatternCheck.compile? source setup).value = .ok regex?) ∨
      ∃ failure, (PatternCheck.compile? source setup).value = .error failure ∧
        Regex.Overruns (extentOf source setup) failure := by
  cases hcompile : Regex.compile source.toList source.halves setup with
  | ok regex =>
    left
    unfold PatternCheck.compile?
    rw [hcompile]
    exact ⟨some regex, rfl⟩
  | error fault =>
    have hfounded := Regex.founded_of_compile_eq_error hcompile
    cases hfailure : fault.failure? with
    | none =>
      left
      cases fault with
      | malformed complaint place => exact ⟨none, compile?_of_malformed hcompile⟩
      | _ => cases hfailure
    | some failure =>
      right
      rw [Regex.Founded, hfailure] at hfounded
      exact ⟨failure, compile?_of_failure hcompile hfailure, hfounded⟩

/-- What is found once an expression is compiled; nothing if it is malformed. -/
def findingsOf? (document : Document) (rule : Rule) (source : Wording) :
    Option Regex → List Finding
  | none => []
  | some regex => (regex.findAll document.text.toArray).map
      (PatternCheck.findingAt document rule source document.text.toArray)

theorem value_evaluate_pattern (happlies : rule.appliesTo document.language = true) :
    (PatternCheck.evaluate document rule source setup).value =
      (PatternCheck.compile? source setup).value.map (findingsOf? document rule source) := by
  rw [PatternCheck.evaluate, if_pos happlies, Logged.value_bind]
  cases (PatternCheck.compile? source setup).value with
  | error failure => rfl
  | ok regex? => cases regex? <;> rfl

theorem value_evaluate_of_not_applies (happlies : ¬ rule.appliesTo document.language = true) :
    (PatternCheck.evaluate document rule source setup).value = .ok [] := by
  rw [PatternCheck.evaluate, if_neg happlies]
  rfl

theorem evaluate_eq_error_iff :
    (PatternCheck.evaluate document rule source setup).value = .error failure ↔
      rule.appliesTo document.language = true ∧
        (PatternCheck.compile? source setup).value = .error failure := by
  by_cases happlies : rule.appliesTo document.language = true
  · rw [value_evaluate_pattern happlies]
    cases (PatternCheck.compile? source setup).value with
    | error found => simp [happlies, Except.map]
    | ok regex? => simp [Except.map]
  · rw [value_evaluate_of_not_applies happlies]
    simp [happlies]

end Expressions

-- ════════════════════════════════════════════════════════════════════════
-- Syntax trees
-- ════════════════════════════════════════════════════════════════════════

/-- The calls that search the tree of a document are nested deeper than there is room for. -/
def TreeOverruns (parse : SyntaxReader) (runtime : Runtime) (document : Document) : Prop :=
  ∃ room, runtime.searching = some room ∧
    room < NullCheck.callDepth document.text.toArray (treeIn parse document)

theorem overruns_iff :
    StructureCheck.overruns runtime document.text.toArray (treeIn parse document) = true ↔
      TreeOverruns parse runtime document := by
  rw [StructureCheck.overruns, TreeOverruns]
  cases runtime.searching with
  | none => simp
  | some room => simp

/-- A rule on syntax trees looks at a document. -/
def SearchesTree (document : Document) (rule : Rule) (name : Option Wording) : Prop :=
  name = some (.text StructureCheck.nullCheckName) ∧ document.language ∈ syntaxLanguages ∧
    rule.appliesTo document.language = true

theorem evaluate_tree_eq_error_iff {name : Option Wording} :
    (StructureCheck.evaluate document rule name parse runtime).value = .error failure ↔
      SearchesTree document rule name ∧ TreeOverruns parse runtime document ∧
        failure = .tooDeep := by
  rw [StructureCheck.evaluate, SearchesTree, ← overruns_iff]
  split
  · next hname => simp [hname]
  · next hname =>
    rw [Classical.not_not] at hname
    split
    · next hgate =>
      rw [Bool.and_eq_true, decide_eq_true_iff] at hgate
      rw [Logged.value_bind, ← treeIn]
      split
      · next hover => simp [hname, hgate, hover, eq_comm]
      · next hover =>
        rw [Logged.value_bind]
        split <;> simp [hover]
    · next hgate =>
      rw [Bool.and_eq_true, decide_eq_true_iff] at hgate
      simp [hgate]

/-- A tree that is half as high as there is room for is not too deep. -/
theorem not_treeOverruns
    (h : ∀ room, runtime.searching = some room → 2 * (treeIn parse document).height ≤ room) :
    ¬ TreeOverruns parse runtime document := by
  rintro ⟨room, hroom, hlt⟩
  have hle := NullCheck.callDepth_le document.text.toArray (treeIn parse document)
  have hheight := h room hroom
  omega

/-- A tree without faults that is higher than there is room for is too deep. -/
theorem treeOverruns_of_lt_height {room : Nat} (hroom : runtime.searching = some room)
    (hsound : (treeIn parse document).label.hasError = false)
    (hlt : room < (treeIn parse document).height) : TreeOverruns parse runtime document :=
  ⟨room, hroom, Nat.lt_of_lt_of_le hlt (NullCheck.height_le_callDepth _ hsound)⟩

-- ════════════════════════════════════════════════════════════════════════
-- All kinds of rules
-- ════════════════════════════════════════════════════════════════════════

/-- What makes the evaluation of a rule fail. -/
inductive Fails (parse : SyntaxReader) (runtime : Runtime) (document : Document) (rule : Rule)
    (failure : Log.Failure) : Prop where
  /-- The expression of the rule cannot be compiled, and is not malformed. -/
  | expression {source : Wording} (hcheck : rule.check = .pattern source)
      (happlies : rule.appliesTo document.language = true)
      (hcompile : (PatternCheck.compile? source runtime.expressions).value = .error failure)
  /-- The tree that the rule looks at is too deep. -/
  | tree {name : Option Wording} (hcheck : rule.check = .structural name)
      (hsearches : SearchesTree document rule name) (hdeep : TreeOverruns parse runtime document)
      (hfailure : failure = .tooDeep)

/-- Only the expression of a rule or the tree that it looks at can make its evaluation fail. -/
theorem evaluateRule_eq_error_iff :
    (evaluateRule document rule parse runtime).value = .error failure ↔
      Fails parse runtime document rule failure := by
  constructor
  · intro h
    rw [evaluateRule] at h
    split at h
    · next source hcheck =>
      obtain ⟨happlies, hcompile⟩ := evaluate_eq_error_iff.mp h
      exact .expression hcheck happlies hcompile
    · next name hcheck =>
      obtain ⟨hsearches, hdeep, hfailure⟩ := evaluate_tree_eq_error_iff.mp h
      exact .tree hcheck hsearches hdeep hfailure
    · cases h
    · cases h
  · intro h
    cases h with
    | expression hcheck happlies hcompile =>
      simp only [evaluateRule, hcheck]
      exact evaluate_eq_error_iff.mpr ⟨happlies, hcompile⟩
    | tree hcheck hsearches hdeep hfailure =>
      simp only [evaluateRule, hcheck]
      exact evaluate_tree_eq_error_iff.mpr ⟨hsearches, hdeep, hfailure⟩

theorem threshold?_of_invalid {most : Option Int} (h : most = none ∨ most = some 0) :
    LengthCheck.threshold? most = none := by
  rcases h with rfl | rfl <;> rfl

/-- A rule that asks for nothing that can be checked has no findings. -/
theorem evaluateRule_of_isInvalid (h : IsInvalid runtime.expressions rule.check) :
    (evaluateRule document rule parse runtime).value = .ok [] := by
  rw [evaluateRule]
  cases hcheck : rule.check with
  | pattern source =>
    rw [hcheck] at h
    cases h with
    | malformed hmalformed =>
      by_cases happlies : rule.appliesTo document.language = true
      · show (PatternCheck.evaluate document rule source runtime.expressions).value = _
        rw [value_evaluate_pattern happlies, compile?_of_malformed hmalformed]
        rfl
      · exact value_evaluate_of_not_applies happlies
  | structural name =>
    rw [hcheck] at h
    cases h with
    | unknown hname =>
      show (StructureCheck.evaluate document rule name parse runtime).value = _
      rw [StructureCheck.evaluate, if_pos hname]
      rfl
  | fileLength most =>
    rw [hcheck] at h
    cases h with
    | noLineCount hmost =>
      show Except.ok (LengthCheck.evaluateFile document rule most).value = _
      rw [LengthCheck.evaluateFile, threshold?_of_invalid hmost]
      rfl
  | lineLength most =>
    rw [hcheck] at h
    cases h with
    | noLineLength hmost =>
      show Except.ok (LengthCheck.evaluateLines document rule most).value = _
      rw [LengthCheck.evaluateLines, threshold?_of_invalid hmost]
      rfl

theorem exists_findings_of_withinLimits
    (hexpression : ∀ source, rule.check = .pattern source →
      Regex.withinLimits (extentOf source runtime.expressions) = true)
    (htree : ∀ room, rule.kind = .structural → runtime.searching = some room →
      2 * (treeIn parse document).height ≤ room) :
    ∃ findings, (evaluateRule document rule parse runtime).value = .ok findings := by
  cases hvalue : (evaluateRule document rule parse runtime).value with
  | ok findings => exact ⟨findings, rfl⟩
  | error failure =>
    cases evaluateRule_eq_error_iff.mp hvalue with
    | @expression source hcheck _ hcompile =>
      rcases compile?_cases source runtime.expressions with ⟨regex?, hok⟩ | ⟨found, -, hoverruns⟩
      · rw [hok] at hcompile
        cases hcompile
      · have hwithin := hexpression source hcheck
        rw [hoverruns.withinLimits_eq_false] at hwithin
        cases hwithin
    | tree hcheck _ hdeep _ =>
      have hkind : rule.kind = .structural := by rw [Rule.kind, hcheck, Rule.Check.kind]
      exact absurd hdeep (not_treeOverruns fun room => htree room hkind)

-- ════════════════════════════════════════════════════════════════════════
-- Expressions that exceed a limit
-- ════════════════════════════════════════════════════════════════════════

/-- The failure of a number of repetitions that is too large. -/
def countFailure (digits : List Char) : Log.Failure :=
  if Text.numeralLimit < digits.length then .longNumber digits.length else .tooLarge

theorem failure?_countFault (digits : List Char) :
    (Regex.countFault digits).failure? = some (countFailure digits) := by
  rw [Regex.countFault, countFailure]
  split <;> rfl

theorem compile?_of_count {setup : Regex.Setup}
    (hroom : ∀ room, setup.room = some room → 2 ≤ room) (word : List Char)
    {digits after : List Char} (hdigits : ∀ d ∈ digits, d.isDigit = true)
    (hlarge : Regex.repeatLimit ≤ Regex.valueOf 10 digits) (hafter : after ≠ ['\\']) :
    (PatternCheck.compile?
      (String.ofList (Regex.quote word ++ '{' :: (digits ++ '}' :: after))) setup).value =
      .error (countFailure digits) := by
  refine compile?_of_failure ?_ (failure?_countFault digits)
  rw [Wording.toList, String.toList_ofList]
  exact Regex.compile_eq_error_of_count hroom word hdigits hlarge hafter

theorem compile?_of_nested {setup : Regex.Setup} {n room : Nat} {after : List Char}
    (hbound : setup.room = some room) (hroom : room < 2 * n + 2) (hafter : after ≠ ['\\'])
    (hmark : after.head? ≠ some '?') :
    (PatternCheck.compile? (String.ofList (List.replicate n '(' ++ after)) setup).value =
      .error .tooDeep := by
  have hfailure : Regex.Fault.tooDeep.failure? = some .tooDeep := rfl
  refine compile?_of_failure ?_ hfailure
  rw [Wording.toList, String.toList_ofList]
  exact Regex.compile_eq_error_of_nested hbound hroom hafter hmark

end

namespace Boundary

/-- A rule with an expression. -/
def rule (source : String) : Rule :=
  { id := some (.text "A"), title := none, description := none, severity := none
    languages := none, isFixable := false, template := none, check := .pattern source }

/-- The item of a checklist that stands for it. -/
def item (source : String) : Json := .object [("id", .str "A"), ("pattern", .str source)]

/-- A short text. -/
def document : Document := Document.ofText (Path.ofString "a.ts") "a"

/-- Groups in groups. -/
def nested (n : Nat) : String := String.ofList (List.replicate n '(' ++ List.replicate n ')')

theorem nested_succ_ne (n : Nat) : nested (n + 1) ≠ "" := by
  intro h
  have hnil : (nested (n + 1)).toList = [] := by rw [h]; rfl
  simp [nested] at hnil

theorem readItem_item {source : String} (h : source ≠ "") :
    (Checklist.readItem (item source)).value = .ok (some (rule source)) := by
  have hpresent : Checklist.isPresent (.str source) = true := by simpa [Checklist.isPresent] using h
  have hkind : Checklist.kindOf? (item source) = some .pattern := if_pos hpresent
  change (Checklist.readObject (item source)).value = _
  simp only [Checklist.readObject, hkind]
  rfl

end Boundary

end ChecklistReview.Review
