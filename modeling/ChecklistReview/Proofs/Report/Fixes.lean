import ChecklistReview.Proofs.Report.Shown

/-!
# The fixes that a report lists

A report lists fixes for the identities of its findings. It takes the template of the first rule
of an identity that can fix, while a fix is made with the first rule of the identity, whether that
one can fix or not. So a listed fix is the one that would be made, unless the first rule of an
identity cannot fix and hides a later one that can.

## Main statements

* `lookup_templates`: the template that a report has for an identity.
* `lists_iff`: the templates that a report lists.
* `lists_of_applies`: the fix that would be made is listed.
* `listed_fix_applies_iff`: when the listed fixes are those that would be made.
-/

namespace ChecklistReview.Report

open ChecklistReview.Fix Text

/-- A report lists a template for an identity. -/
def Lists (rules : List Rule) (findings : List Finding) (identity template : Wording) : Prop :=
  ∃ s ∈ sections findings, (identity, template) ∈ fixes (templates rules) s.findings

/-- Findings of an identity are mended with a template. -/
def Applies (rules : List Rule) (identity template : Wording) : Prop :=
  ∃ rule, findRule? rules identity = some rule ∧ rule.canFix = true ∧
    rule.template = some template

/-- The first rule of an identity that can fix. -/
def fixingRule? (rules : List Rule) (identity : Wording) : Option Rule :=
  rules.find? fun rule => rule.canFix && rule.identity = identity

/-- The first rule of an identity cannot fix, but another one can. -/
def HidesFix (rules : List Rule) (identity : Wording) : Prop :=
  ∃ first, findRule? rules identity = some first ∧ first.canFix = false ∧
    ∃ rule ∈ rules, rule.identity = identity ∧ rule.canFix = true

-- ════════════════════════════════════════════════════════════════════════
-- Rules that can fix
-- ════════════════════════════════════════════════════════════════════════

variable {rules : List Rule} {identity : Wording}

theorem exists_template {rule : Rule} (h : rule.canFix = true) :
    ∃ template, rule.template = some template := by
  rw [Rule.canFix, Bool.and_eq_true] at h
  exact Option.isSome_iff_exists.mp h.2

theorem fixingRule?_isSome_iff :
    (fixingRule? rules identity).isSome = true ↔
      ∃ rule ∈ rules, rule.identity = identity ∧ rule.canFix = true := by
  simp [fixingRule?, and_comm]

theorem canFix_of_fixingRule? {rule : Rule} (h : fixingRule? rules identity = some rule) :
    rule.canFix = true := by
  have htest := List.find?_some h
  rw [Bool.and_eq_true] at htest
  exact htest.1

theorem isSome_findRule? {rule : Rule} (hmem : rule ∈ rules)
    (hidentity : rule.identity = identity) : (findRule? rules identity).isSome = true := by
  rw [findRule?, List.find?_isSome]
  exact ⟨rule, hmem, decide_eq_true hidentity⟩

/-- If the first rule of an identity can fix, it is the first one that can. -/
theorem fixingRule?_of_findRule? {rule : Rule} (h : findRule? rules identity = some rule)
    (hfix : rule.canFix = true) : fixingRule? rules identity = some rule := by
  rw [findRule?, List.find?_eq_some_iff_append] at h
  obtain ⟨hidentity, before, after, rfl, hbefore⟩ := h
  rw [fixingRule?, List.find?_eq_some_iff_append]
  refine ⟨by rw [hfix, hidentity, Bool.and_self], before, after, rfl, ?_⟩
  intro other hother
  have hne := hbefore other hother
  rw [Bool.not_eq_true'] at hne
  rw [hne, Bool.and_false, Bool.not_false]

-- ════════════════════════════════════════════════════════════════════════
-- Templates
-- ════════════════════════════════════════════════════════════════════════

theorem templates_cons_of_canFix {rule : Rule} {template : Wording} (hfix : rule.canFix = true)
    (htemplate : rule.template = some template) :
    templates (rule :: rules) = (rule.identity, template) :: templates rules := by
  rw [Rule.canFix, Bool.and_eq_true] at hfix
  simp [templates, hfix.1, htemplate]

theorem templates_cons_of_not_canFix {rule : Rule} (hfix : rule.canFix = false) :
    templates (rule :: rules) = templates rules := by
  rw [Rule.canFix, Bool.and_eq_false_iff] at hfix
  rcases hfix with hfix | hfix
  · simp [templates, hfix]
  · simp [templates, Option.isSome_eq_false_iff.mp hfix |> Option.isNone_iff_eq_none.mp]

/-- A report has the template of the first rule of an identity that can fix. -/
theorem lookup_templates (rules : List Rule) (identity : Wording) :
    (templates rules).lookup identity = (fixingRule? rules identity).bind Rule.template := by
  induction rules with
  | nil => rfl
  | cons rule rules ih =>
    by_cases hfix : rule.canFix = true
    · obtain ⟨template, htemplate⟩ := exists_template hfix
      rw [templates_cons_of_canFix hfix htemplate, List.lookup_cons]
      by_cases hidentity : identity = rule.identity
      · have hfirst : fixingRule? (rule :: rules) identity = some rule :=
          List.find?_cons_of_pos (by simp [hfix, hidentity])
        rw [hfirst, Option.bind_some, htemplate, hidentity, beq_self_eq_true]
      · have hlater : fixingRule? (rule :: rules) identity = fixingRule? rules identity :=
          List.find?_cons_of_neg (by simp [Ne.symm hidentity])
        rw [hlater, beq_eq_false_iff_ne.mpr hidentity, ih]
    · have hlater : fixingRule? (rule :: rules) identity = fixingRule? rules identity :=
        List.find?_cons_of_neg (by simp [hfix])
      rw [templates_cons_of_not_canFix (Bool.not_eq_true _ ▸ hfix), hlater, ih]

theorem mem_fixes_iff {offered : List (Wording × Wording)} {findings : List Finding}
    {template : Wording} :
    (identity, template) ∈ fixes offered findings ↔
      identity ∈ findings.map Finding.ruleId ∧ offered.lookup identity = some template := by
  rw [fixes, List.mem_filterMap]
  constructor
  · rintro ⟨other, hother, heq⟩
    obtain ⟨found, hfound, hpair⟩ := Option.map_eq_some_iff.mp heq
    obtain ⟨rfl, rfl⟩ := Prod.mk.inj hpair
    exact ⟨List.mem_eraseDups.mp hother, hfound⟩
  · rintro ⟨hmem, hfound⟩
    exact ⟨identity, List.mem_eraseDups.mpr hmem, by rw [hfound, Option.map_some]⟩

/-- A report lists the templates that it has for the identities of its findings. -/
theorem lists_iff {findings : List Finding} {template : Wording} :
    Lists rules findings identity template ↔ identity ∈ findings.map Finding.ruleId ∧
      (fixingRule? rules identity).bind Rule.template = some template := by
  have hmem : (∃ s ∈ sections findings, identity ∈ s.findings.map Finding.ruleId) ↔
      identity ∈ findings.map Finding.ruleId := by
    rw [← ((flatMap_sections_perm findings).map Finding.ruleId).mem_iff]
    simp only [List.map_flatMap, List.mem_flatMap]
  rw [← lookup_templates, ← hmem]
  constructor
  · rintro ⟨s, hs, hlisted⟩
    obtain ⟨hidentity, htemplate⟩ := mem_fixes_iff.mp hlisted
    exact ⟨⟨s, hs, hidentity⟩, htemplate⟩
  · rintro ⟨⟨s, hs, hidentity⟩, htemplate⟩
    exact ⟨s, hs, mem_fixes_iff.mpr ⟨hidentity, htemplate⟩⟩

-- ════════════════════════════════════════════════════════════════════════
-- Listed and made fixes
-- ════════════════════════════════════════════════════════════════════════

variable {findings : List Finding}

/-- The fix that would be made is listed. -/
theorem lists_of_applies (hid : identity ∈ findings.map Finding.ruleId) {template : Wording}
    (h : Applies rules identity template) : Lists rules findings identity template := by
  obtain ⟨rule, hrule, hfix, htemplate⟩ := h
  rw [lists_iff, fixingRule?_of_findRule? hrule hfix, Option.bind_some]
  exact ⟨hid, htemplate⟩

/-- A listed fix would be made, unless it is hidden. -/
theorem applies_of_lists {template : Wording} (h : Lists rules findings identity template)
    (hhides : ¬ HidesFix rules identity) : Applies rules identity template := by
  obtain ⟨rule, hrule, htemplate⟩ := Option.bind_eq_some_iff.mp (lists_iff.mp h).2
  obtain ⟨other, hmem, hidentity, hfix⟩ :=
    fixingRule?_isSome_iff.mp (Option.isSome_of_eq_some hrule)
  obtain ⟨first, hfirst⟩ := Option.isSome_iff_exists.mp (isSome_findRule? hmem hidentity)
  have hfirstFix : first.canFix = true := by
    by_contra hno
    exact hhides ⟨first, hfirst, Bool.not_eq_true _ ▸ hno, other, hmem, hidentity, hfix⟩
  have hfixing := fixingRule?_of_findRule? hfirst hfirstFix
  obtain rfl := Option.some.inj (hfixing.symm.trans hrule)
  exact ⟨first, hfirst, hfirstFix, htemplate⟩

/-- A hidden fix is listed. -/
theorem exists_lists_of_hidesFix (hid : identity ∈ findings.map Finding.ruleId)
    (h : HidesFix rules identity) : ∃ template, Lists rules findings identity template := by
  obtain ⟨-, -, -, hother⟩ := h
  obtain ⟨rule, hrule⟩ := Option.isSome_iff_exists.mp (fixingRule?_isSome_iff.mpr hother)
  obtain ⟨template, htemplate⟩ := exists_template (canFix_of_fixingRule? hrule)
  refine ⟨template, lists_iff.mpr ⟨hid, ?_⟩⟩
  rw [hrule, Option.bind_some, htemplate]

theorem not_applies_of_hidesFix (h : HidesFix rules identity) (template : Wording) :
    ¬ Applies rules identity template := by
  obtain ⟨first, hfirst, hno, -⟩ := h
  rintro ⟨rule, hrule, hfix, -⟩
  obtain rfl := Option.some.inj (hfirst.symm.trans hrule)
  rw [hno] at hfix
  cases hfix

/-- A fix with a rule that cannot fix is refused. -/
theorem fixText_of_not_canFix {α : Type} [Alphabet α] [DecidableEq α] {rule : Rule}
    (h : rule.canFix = false) (f : Finding) (text : List α) :
    fixText f (some rule) text = .error .notFixable := by
  simp only [fixText]
  split
  · next template hfix htemplate => simp [Rule.canFix, hfix, htemplate] at h
  · rfl

/-- A listed fix is shown in a report that shows fixes. -/
theorem fixLines_infix_showFindings {settings : Settings} (hverbose : settings.isVerbose = true)
    (scanned : List Path) {template : Wording} (h : Lists rules findings identity template) :
    fixLines settings.width identity template <:+:
      showFindings settings findings scanned rules := by
  obtain ⟨s, hs, hlisted⟩ := h
  refine List.IsInfix.trans ?_ (sectionLines_infix_showFindings settings scanned rules hs)
  obtain ⟨before, after, hparts⟩ := List.append_of_mem hlisted
  have hfound : (fixes (templates rules) s.findings).isEmpty = false := by simp [hparts]
  have hlines : fixLines settings.width identity template <:+:
      fixesLines settings (templates rules) s.findings := by
    simp only [fixesLines, hverbose, if_true, hfound, Bool.false_eq_true, if_false]
    rw [hparts, List.flatMap_append, List.flatMap_cons]
    simp only [List.append_assoc]
    exact ⟨_, _, List.append_assoc _ _ _⟩
  exact hlines.trans (List.suffix_append _ _).isInfix

/-- For an identity of its findings, a report lists the template of the first rule that can fix, and
shows it. The fix that would be made is always listed. The listed fixes are those that would be made
if and only if the first rule of the identity hides no later one, and otherwise a fix is listed but
refused. -/
theorem listed_fix_applies_iff {α : Type} [Alphabet α] [DecidableEq α] (rules : List Rule)
    (findings : List Finding) (identity : Wording)
    (hid : identity ∈ findings.map Finding.ruleId) :
    (∀ template, Lists rules findings identity template ↔
      (fixingRule? rules identity).bind Rule.template = some template) ∧
    (∀ template settings scanned, settings.isVerbose = true →
      Lists rules findings identity template →
      fixLines settings.width identity template <:+:
        showFindings settings findings scanned rules) ∧
    (∀ template, Applies rules identity template → Lists rules findings identity template) ∧
    ((∀ template, Lists rules findings identity template ↔ Applies rules identity template) ↔
      ¬ HidesFix rules identity) ∧
    (HidesFix rules identity → (∃ template, Lists rules findings identity template) ∧
      ∀ (f : Finding) (text : List α),
        fixText f (findRule? rules identity) text = .error .notFixable) := by
  refine ⟨?_, ?_, ?_, ?_, ?_⟩
  · intro template
    rw [lists_iff, and_iff_right hid]
  · intro template settings scanned hverbose hlisted
    exact fixLines_infix_showFindings hverbose scanned hlisted
  · intro template happlies
    exact lists_of_applies hid happlies
  · constructor
    · intro hsame hhides
      obtain ⟨template, hlisted⟩ := exists_lists_of_hidesFix hid hhides
      exact not_applies_of_hidesFix hhides template ((hsame template).mp hlisted)
    · intro hhides template
      exact ⟨fun hlisted => applies_of_lists hlisted hhides, lists_of_applies hid⟩
  · intro hhides
    refine ⟨exists_lists_of_hidesFix hid hhides, ?_⟩
    obtain ⟨first, hfirst, hno, -⟩ := hhides
    intro f text
    rw [hfirst]
    exact fixText_of_not_canFix hno f text

namespace SharedIdentity

/-- A rule that cannot fix. -/
def plain : Rule :=
  { id := some (.text "X"), title := none, description := none, severity := none, languages := none
    isFixable := false, template := none, check := .pattern "zzz" }

/-- A rule of the same identity that can. -/
def fixing : Rule :=
  { plain with isFixable := true, template := some (.text "b"), check := .pattern "a" }

def finding : Finding :=
  { ruleId := "X", description := "d", severity := .warning, isFixable := false
    file := ⟨.relative, ["a.ts"]⟩, line := 1, one_le_line := Nat.one_pos, snippet := "zzz"
    found := some (.text "zzz"), language := none }

end SharedIdentity

open SharedIdentity

/-- With the rule that can fix first, the listed fix is the one that would be made. -/
theorem listed_fix_applies_with_fixing_first :
    .text "X" ∈ [finding].map Finding.ruleId ∧ Lists [fixing, plain] [finding] "X" "b" ∧
      ∀ template, Lists [fixing, plain] [finding] "X" template ↔
        Applies [fixing, plain] "X" template := by
  have hid : .text "X" ∈ [finding].map Finding.ruleId := by decide
  obtain ⟨hlists, -, -, hsame, -⟩ :=
    listed_fix_applies_iff (α := Char) [fixing, plain] [finding] "X" hid
  refine ⟨hid, (hlists "b").mpr rfl, hsame.mpr ?_⟩
  rintro ⟨first, hfirst, hno, -⟩
  obtain rfl := Option.some.inj hfirst
  cases hno

/-- With the rule that cannot fix first, a fix is listed that would not be made. -/
theorem listed_fix_does_not_apply :
    .text "X" ∈ [finding].map Finding.ruleId ∧ Lists [plain, fixing] [finding] "X" "b" ∧
      ¬ Applies [plain, fixing] "X" "b" := by
  have hid : .text "X" ∈ [finding].map Finding.ruleId := by decide
  refine ⟨hid, lists_iff.mpr ⟨hid, rfl⟩, not_applies_of_hidesFix ?_ "b"⟩
  exact ⟨plain, rfl, rfl, fixing, by simp, rfl, rfl⟩

end ChecklistReview.Report
