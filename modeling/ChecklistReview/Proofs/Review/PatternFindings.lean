import ChecklistReview.Proofs.Fix.Contract
import ChecklistReview.Proofs.Regex.Span
import ChecklistReview.Proofs.Review.Evaluation
import ChecklistReview.Proofs.Review.Origin
import ChecklistReview.Proofs.Text.LineIndex

/-!
# Findings of pattern rules

A finding of a pattern rule quotes a part of the text and names the line on which the part
starts. A fix looks for the quoted text on that line only, so what it needs is that the part
does not go over the end of the line.

## Main statements

* `exists_of_mem_findingsIn_pattern`: what a finding of a pattern rule quotes, and where.
* `onLine_iff_unbroken`: the quoted text is on the line exactly if it holds no break.
* `pattern_finding_mendable_iff`: review and fix agree on the findings of pattern rules.
-/

namespace ChecklistReview.Review

open Source Text

/-- The line with a number is there and holds a text. -/
def OnLine (text : List Char) (number : Nat) (part : List Char) : Prop :=
  ∃ line, (splitLines text)[number - 1]? = some line ∧ part <:+: line

/-- A finding of a pattern rule names the rule, quotes a part of the text and names the line on
which the part starts. -/
theorem exists_of_mem_findingsIn_pattern {read : Reader} {parse : SyntaxReader}
    {runtime : Runtime} {path : Path} {text : String} {rule : Rule} {source : Wording}
    (hcheck : rule.check = .pattern source) {f : Finding}
    (hf : f ∈ (Engine.standard read parse runtime).findingsIn (.text path text) rule) :
    f.ruleId = rule.identity ∧ ∃ before part after, text.toList = before ++ (part ++ after) ∧
      f.found = some (.text (String.ofList part)) ∧
      f.line = (LineIndex.ofText text.toList).lineNumber before.length := by
  rw [Engine.findingsIn_text, Engine.findingsOf_value] at hf
  simp only [Engine.standard, evaluateRule, hcheck] at hf
  split at hf
  · next findings hfindings =>
    rcases pattern_findings hfindings with rfl | ⟨-, regex, -, rfl⟩
    · simp at hf
    · obtain ⟨span, hspan, rfl⟩ := List.mem_map.mp hf
      obtain ⟨hle, hsize⟩ := Regex.mem_findAll hspan
      change span.stop ≤ text.toList.length at hsize
      refine ⟨rfl, text.toList.take span.start,
        (text.toList.drop span.start).take (span.stop - span.start),
        (text.toList.drop span.start).drop (span.stop - span.start), ?_, ?_, ?_⟩
      · rw [List.take_append_drop, List.take_append_drop]
      · simp [PatternCheck.findingAt, PatternCheck.textOf, Document.ofText, List.extract]
      · rw [List.length_take, Nat.min_eq_left (Nat.le_trans hle hsize)]
        rfl
  · simp at hf

/-- A part of a text is on the line on which it starts exactly if it holds no break. -/
theorem onLine_iff_unbroken (before part after : List Char) :
    OnLine (before ++ (part ++ after))
        ((LineIndex.ofText (before ++ (part ++ after))).lineNumber before.length) part ↔
      Unbroken part := by
  constructor
  · rintro ⟨line, hline, hinfix⟩
    exact (unbroken_of_mem_splitLines (List.mem_of_getElem? hline)).of_part hinfix
  · intro hu
    exact LineIndex.infix_line_of_unbroken hu

/-- The letters of a text over the characters are its characters. -/
theorem letters_char (text : String) : (Fix.letters (.text text) : List Char) = text.toList := by
  simp [Fix.letters, Alphabet.ofChar]

/-- Breaks of characters are the carriage return and the line feed. -/
theorem unbroken_char_iff {text : List Char} : Unbroken text ↔ '\r' ∉ text ∧ '\n' ∉ text := by
  constructor
  · intro h
    exact ⟨fun hc => (h _ hc).1 rfl, fun hc => (h _ hc).2 rfl⟩
  · rintro ⟨hcr, hlf⟩ c hc
    constructor
    · rintro rfl
      exact hcr hc
    · rintro rfl
      exact hlf hc

/-- Review and fix agree on the findings of pattern rules. The findings of a review are those that
the rules produce. One that a pattern rule produces leads back to the rule; what it quotes is on
its line exactly if it holds neither a carriage return nor a line feed; and so it can be mended in
the unchanged text exactly if the rule has a fix and it holds neither. -/
theorem pattern_finding_mendable_iff (read : Reader) (parse : SyntaxReader) (runtime : Runtime)
    (rules : List Rule) (hdistinct : (rules.map Rule.identity).Nodup) (path : Path)
    (text : String) :
    (∀ f, f ∈ ((Engine.standard read parse runtime).review rules
        [.text path text]).value.findings ↔
      ∃ rule ∈ rules, f ∈ (Engine.standard read parse runtime).findingsIn (.text path text) rule) ∧
    ∀ rule ∈ rules, ∀ source, rule.check = .pattern source →
      ∀ f ∈ (Engine.standard read parse runtime).findingsIn (.text path text) rule,
        Fix.findRule? rules f.ruleId = some rule ∧
        ∃ found : String, f.found = some (.text found) ∧
          (OnLine text.toList f.line found.toList ↔
            '\r' ∉ found.toList ∧ '\n' ∉ found.toList) ∧
          ((∃ result, (Fix.applyFix f (some rule) text.toList).value = .ok result) ↔
            rule.canFix = true ∧ '\r' ∉ found.toList ∧ '\n' ∉ found.toList) := by
  refine ⟨fun f => ?_, ?_⟩
  · simp only [Engine.mem_findings_review_iff, List.mem_singleton, exists_eq_left]
  intro rule hrule source hcheck f hf
  obtain ⟨hid, before, part, after, htext, hfound, hline⟩ :=
    exists_of_mem_findingsIn_pattern hcheck hf
  have honline : OnLine text.toList f.line part ↔ '\r' ∉ part ∧ '\n' ∉ part := by
    rw [hline, htext, onLine_iff_unbroken, unbroken_char_iff]
  refine ⟨?_, String.ofList part, hfound, by rwa [String.toList_ofList], ?_⟩
  · rw [hid]
    exact Fix.findRule?_identity hdistinct hrule
  · rw [String.toList_ofList, ← honline]
    simp only [Fix.applyFix_value_eq_ok_iff, Fix.exists_fixText_eq_ok_iff]
    have hquoted : Fix.quotedText f = part := by
      rw [Fix.quotedText, hfound, Option.getD_some, letters_char, String.toList_ofList]
    constructor
    · rintro ⟨rule', hrule', hfix, -, line, hget, hinfix⟩
      obtain rfl := Option.some.inj hrule'
      exact ⟨hfix, line, hget, hquoted ▸ hinfix⟩
    · rintro ⟨hfix, line, hget, hinfix⟩
      refine ⟨rule, rfl, hfix, ?_, line, hget, hquoted ▸ hinfix⟩
      rw [hline]
      exact LineIndex.lineNumber_ofText_le _ _

/-- A match after a carriage return with its line feed is mended on the second line. -/
theorem pattern_finding_mendable_after_break :
    let rule : Rule :=
      { id := some (.text "letters"), title := none, description := none, severity := none
        languages := none, isFixable := true, template := some (.text "[$MATCH]")
        check := .pattern "[bc]+" }
    let f : Finding :=
      { ruleId := "letters", description := "[bc]+", severity := .warning, isFixable := true
        file := ⟨.relative, ["a.ts"]⟩, line := 2, one_le_line := by decide, snippet := "bcb"
        found := some (.text "bcb"), language := some "typescript" }
    let text := "a\r\n bcb\rd"
    f ∈ ((Engine.standard fun _ => .error .notFound).review [rule]
        [.text ⟨.relative, ["a.ts"]⟩ text]).value.findings ∧
      ∃ result, (Fix.applyFix f (some rule) text.toList).value = .ok result := by
  intro rule f text
  obtain ⟨hreview, hpattern⟩ := pattern_finding_mendable_iff (fun _ => .error .notFound)
    TypeScript.parse {} [rule] (by decide) ⟨.relative, ["a.ts"]⟩ text
  have hf : f ∈ (Engine.standard fun _ => .error .notFound).findingsIn
      (.text ⟨.relative, ["a.ts"]⟩ text) rule := by
    decide +kernel
  obtain ⟨-, found, hfound, -, hiff⟩ :=
    hpattern rule (List.mem_singleton_self rule) "[bc]+" rfl f hf
  obtain rfl : "bcb" = found := Wording.text.inj (Option.some.inj hfound)
  exact ⟨(hreview f).2 ⟨rule, List.mem_singleton_self rule, hf⟩, hiff.mpr (by decide)⟩

end ChecklistReview.Review
