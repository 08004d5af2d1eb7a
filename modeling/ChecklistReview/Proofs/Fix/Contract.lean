import ChecklistReview.Fix
import ChecklistReview.Proofs.Text.Lines
import ChecklistReview.Proofs.Text.Occurrence

/-!
# What a fix does

`fixText_eq_ok_iff` says once when a fix succeeds and what it gives; everything else about
fixes is derived from it. `Mendable` is the condition in terms of the text alone.

## Main statements

* `fixText_eq_ok_iff`: when a fix succeeds, and what it gives then.
* `exists_fixText_eq_ok_iff`: a fix succeeds exactly if the finding is mendable.
* `fixText_frame`: a fix changes one line and nothing before or after it.
* `applyFix_contract`: the contract of a fix as a whole.
-/

namespace ChecklistReview.Fix

open Text

variable {α : Type} [Alphabet α]

/-- A letter is a character of ASCII exactly if the code point is. -/
theorem letterOf_eq_iff {code : Nat} {c : Char} (hc : c.toNat < 128) :
    (letterOf code : α) = Alphabet.ofChar c ↔ charOfCode code = c := by
  rw [letterOf, charOfCode]
  split
  · exact ⟨fun h => Alphabet.ofChar_inj h, fun h => congrArg _ h⟩
  · refine iff_of_false (Alphabet.ofHalf_ne hc) ?_
    rintro rfl
    exact absurd hc (by decide)

/-- The letters of a text hold a character of ASCII exactly if its characters do. -/
theorem mem_letters_iff {text : Wording} {c : Char} (hc : c.toNat < 128) :
    Alphabet.ofChar c ∈ (letters text : List α) ↔ c ∈ text.toList := by
  cases text with
  | text s =>
    simp only [letters, Wording.toList, List.mem_map]
    constructor
    · rintro ⟨d, hd, heq⟩
      exact Alphabet.ofChar_inj heq ▸ hd
    · intro hmem
      exact ⟨c, hmem, rfl⟩
  | broken codes isBroken => simp only [letters, Wording.toList, List.mem_map, letterOf_eq_iff hc]

/-- The text that a finding quotes, as letters. -/
def quotedText (f : Finding) : List α := letters (f.found.getD (.text ""))

variable [DecidableEq α]

/-- A finding can be mended in a text: its rule is there and has a fix, its line is there, and
the line holds the text that was found. -/
def Mendable (f : Finding) (r : Option Rule) (t : List α) : Prop :=
  ∃ rule, r = some rule ∧ rule.canFix = true ∧ f.line ≤ (splitLines t).length ∧
    ∃ line, (splitLines t)[f.line - 1]? = some line ∧ quotedText f <:+: line

-- ════════════════════════════════════════════════════════════════════════
-- The result of a fix
-- ════════════════════════════════════════════════════════════════════════

/-- What a fix of a line by a template gives. -/
def mended (f : Finding) (template : Wording) (t : List α) (line : List α) : Result α :=
  let replacement := fixLine line (quotedText f) (letters template)
  { edit := { line := f.line, before := line, replacement }
    text := join (replaceLine (lines t) (f.line - 1) replacement) }

/-- When a fix succeeds, and what it gives then. -/
theorem fixText_eq_ok_iff {f : Finding} {r : Option Rule} {t : List α} {result : Result α} :
    fixText f r t = .ok result ↔
      ∃ rule template line, r = some rule ∧ rule.isFixable = true ∧
        rule.template = some template ∧ (lines t)[f.line - 1]? = some line ∧
        quotedText f <:+: line.content ∧ result = mended f template t line.content := by
  constructor
  · intro h
    simp only [fixText] at h
    split at h
    · cases h
    · next rule =>
      split at h
      · next template hfix htemplate =>
        split at h
        · cases h
        · next line hline =>
          split at h
          · next hoccurs =>
            refine ⟨rule, template, line, rfl, hfix, htemplate, hline, occursIn_iff.mp hoccurs, ?_⟩
            exact (Except.ok.inj h).symm
          · cases h
      · cases h
  · rintro ⟨rule, template, line, rfl, hfix, htemplate, hline, hinfix, rfl⟩
    have hoccurs : occursIn (letters (f.found.getD (.text ""))) line.content = true :=
      occursIn_iff.mpr hinfix
    simp only [fixText, hfix, htemplate, hline, hoccurs, if_true]
    rfl

/-- A fix with a note in the log gives what the fix gives. -/
theorem applyFix_value (f : Finding) (r : Option Rule) (t : List α) :
    (applyFix f r t).value = (fixText f r t).mapError fun obstacle => ⟨f.ruleId, obstacle⟩ := by
  rw [applyFix]
  split
  · next h => rw [h]; rfl
  · next h => rw [h]; rfl

/-- A fix with a note in the log succeeds exactly if the fix does. -/
theorem applyFix_value_eq_ok_iff {f : Finding} {r : Option Rule} {t : List α} {result : Result α} :
    (applyFix f r t).value = .ok result ↔ fixText f r t = .ok result := by
  rw [applyFix_value]
  cases fixText f r t with
  | error obstacle =>
    constructor
    · intro h
      cases h
    · intro h
      cases h
  | ok result' =>
    constructor
    · intro h
      exact congrArg Except.ok (Except.ok.inj h)
    · intro h
      exact congrArg Except.ok (Except.ok.inj h)

-- ════════════════════════════════════════════════════════════════════════
-- When a fix succeeds
-- ════════════════════════════════════════════════════════════════════════

/-- A fix succeeds exactly if the finding is mendable. -/
theorem exists_fixText_eq_ok_iff {f : Finding} {r : Option Rule} {t : List α} :
    (∃ result, fixText f r t = .ok result) ↔ Mendable f r t := by
  constructor
  · rintro ⟨result, h⟩
    obtain ⟨rule, template, line, rfl, hfix, htemplate, hline, hinfix, -⟩ := fixText_eq_ok_iff.mp h
    have hget : (splitLines t)[f.line - 1]? = some line.content := by
      simp [splitLines, hline]
    obtain ⟨hlt, -⟩ := List.getElem?_eq_some_iff.mp hget
    have hpos := f.one_le_line
    refine ⟨rule, rfl, ?_, by omega, line.content, hget, hinfix⟩
    simp [Rule.canFix, hfix, htemplate]
  · rintro ⟨rule, rfl, hfix, -, content, hget, hinfix⟩
    simp only [Rule.canFix, Bool.and_eq_true, Option.isSome_iff_exists] at hfix
    obtain ⟨hfix, template, htemplate⟩ := hfix
    simp only [splitLines, List.getElem?_map, Option.map_eq_some_iff] at hget
    obtain ⟨line, hline, rfl⟩ := hget
    exact ⟨_, fixText_eq_ok_iff.mpr
      ⟨rule, template, line, rfl, hfix, htemplate, hline, hinfix, rfl⟩⟩

-- ════════════════════════════════════════════════════════════════════════
-- What a fix leaves alone
-- ════════════════════════════════════════════════════════════════════════

omit [Alphabet α] [DecidableEq α] in
/-- A line with a new content stays between the lines around it and keeps its break. -/
theorem join_replaceLine (before after : List (Line α)) (l : Line α) (content : List α) :
    join (replaceLine (before ++ l :: after) before.length content) =
      join before ++ (content ++ (l.ending ++ join after)) := by
  induction before with
  | nil => simp [replaceLine]
  | cons b before ih =>
    simp only [replaceLine, List.cons_append, List.length_cons, List.modify_succ_cons, join_cons,
      List.append_assoc] at ih ⊢
    rw [ih]

/-- A fix changes the content of one line and nothing before or after it. -/
theorem fixText_frame {f : Finding} {r : Option Rule} {t : List α} {result : Result α}
    (h : fixText f r t = .ok result) :
    result.edit.line = f.line ∧ (splitLines t)[f.line - 1]? = some result.edit.before ∧
      ∃ before ending after, lines t = before ++ ⟨result.edit.before, ending⟩ :: after ∧
        before.length = f.line - 1 ∧ (∀ l ∈ before, IsBreak l.ending) ∧
        t = join before ++ (result.edit.before ++ (ending ++ join after)) ∧
        result.text = join before ++ (result.edit.replacement ++ (ending ++ join after)) := by
  obtain ⟨rule, template, line, rfl, -, -, hline, -, rfl⟩ := fixText_eq_ok_iff.mp h
  obtain ⟨before, after, hcut, hlength, hbreaks, ht⟩ := exists_of_lines_getElem? hline
  refine ⟨rfl, by simp [splitLines, hline, mended], before, line.ending, after, hcut, hlength,
    hbreaks, ht, ?_⟩
  simp only [mended, hcut, ← hlength, join_replaceLine]

-- ════════════════════════════════════════════════════════════════════════
-- The template that changes nothing
-- ════════════════════════════════════════════════════════════════════════

/-- A template that is the placeholder alone becomes the match. -/
theorem render_placeholder (found : List α) : render placeholder found = found := by
  rw [render, piecesBetween_self]
  simp

/-- A template that is the placeholder alone leaves a line as it is. -/
theorem fixLine_placeholder (line found : List α) : fixLine line found placeholder = line := by
  rw [fixLine, render_placeholder, replaceFirst_self]

/-- A fix by a template that is the placeholder alone leaves the text as it is. -/
theorem fixText_placeholder {f : Finding} {rule : Rule} {t : List α} {result : Result α}
    (htemplate : rule.template = some (.text Rule.placeholder))
    (h : fixText f (some rule) t = .ok result) : result.text = t := by
  obtain ⟨-, -, before, ending, after, -, -, -, ht, htext⟩ := fixText_frame h
  obtain ⟨rule', template, line, hrule, -, htemplate', -, -, rfl⟩ := fixText_eq_ok_iff.mp h
  obtain rfl := Option.some.inj hrule
  obtain rfl := Option.some.inj (htemplate.symm.trans htemplate')
  have hsame : fixLine line.content (quotedText f) (letters (.text Rule.placeholder)) =
      line.content := fixLine_placeholder line.content (quotedText f)
  rw [htext, ht]
  simp only [mended, hsame]

-- ════════════════════════════════════════════════════════════════════════
-- The contract
-- ════════════════════════════════════════════════════════════════════════

/-- The contract of a fix. It succeeds exactly if the finding is mendable and otherwise names the
finding's rule in its refusal. When it succeeds, the text is cut into lines, and all of it stays
but the content of the finding's line: the lines before it with their breaks, and what follows
it. A template that is the placeholder alone changes nothing. -/
theorem applyFix_contract (f : Finding) (r : Option Rule) (t : List α) :
    ((∃ result, (applyFix f r t).value = .ok result) ↔ Mendable f r t) ∧
    (¬ Mendable f r t → ∃ obstacle, (applyFix f r t).value = .error ⟨f.ruleId, obstacle⟩) ∧
    (∀ result, (applyFix f r t).value = .ok result →
      result.edit.line = f.line ∧ (splitLines t)[f.line - 1]? = some result.edit.before ∧
      ∃ (ls : List (Line α)) (P S : List α), Cut ls ∧ join ls = t ∧
        ls.map Line.content = splitLines t ∧ P = join (ls.take (f.line - 1)) ∧
        (∀ l ∈ ls.take (f.line - 1), IsBreak l.ending) ∧
        t = P ++ result.edit.before ++ S ∧ result.text = P ++ result.edit.replacement ++ S) ∧
    (∀ rule result, r = some rule → rule.template = some (.text Rule.placeholder) →
      (applyFix f r t).value = .ok result → result.text = t) := by
  simp only [applyFix_value_eq_ok_iff]
  refine ⟨exists_fixText_eq_ok_iff, ?_, ?_, ?_⟩
  · intro hnot
    rw [applyFix_value]
    cases hfix : fixText f r t with
    | error obstacle => exact ⟨obstacle, rfl⟩
    | ok result => exact absurd (exists_fixText_eq_ok_iff.mp ⟨result, hfix⟩) hnot
  · intro result h
    obtain ⟨hline, hget, before, ending, after, hcut, hlength, hbreaks, ht, htext⟩ :=
      fixText_frame h
    have htake : (lines t).take (f.line - 1) = before := by
      rw [hcut, ← hlength, List.take_left]
    refine ⟨hline, hget, lines t, join before, ending ++ join after, cut_lines t, join_lines t, rfl,
      by rw [htake], by rwa [htake], ?_, ?_⟩
    · rw [List.append_assoc]
      exact ht
    · rw [List.append_assoc]
      exact htext
  · rintro rule result rfl htemplate h
    exact fixText_placeholder htemplate h

/-- The third line of a text with all three breaks is mended in place. -/
theorem applyFix_contract_mixed_breaks :
    let f : Finding :=
      { ruleId := "calls", description := "", severity := .warning, isFixable := true
        file := ⟨.relative, ["a.ts"]⟩, line := 3, one_le_line := by decide, snippet := "f f"
        found := some (.text "f"), language := none }
    let rule : Rule :=
      { id := some (.text "calls"), title := none, description := none, severity := none
        languages := none, isFixable := true, template := some (.text "g($MATCH)")
        check := .pattern "f" }
    let t : List Char := "a\r\nb\rf f\n".toList
    Mendable f (some rule) t ∧ ∃ result, (applyFix f (some rule) t).value = .ok result ∧
      result.edit.before = "f f".toList ∧ ∃ P S, t = P ++ result.edit.before ++ S ∧
        result.text = P ++ result.edit.replacement ++ S := by
  intro f rule t
  have hmend : Mendable f (some rule) t :=
    ⟨rule, rfl, rfl, by decide, "f f".toList, by decide, by decide⟩
  obtain ⟨hiff, -, hframe, -⟩ := applyFix_contract f (some rule) t
  obtain ⟨result, hresult⟩ := hiff.mpr hmend
  obtain ⟨-, hget, -, P, S, -, -, -, -, -, ht, htext⟩ := hframe result hresult
  exact ⟨hmend, result, hresult, Option.some.inj (hget.symm.trans (by decide)), P, S, ht, htext⟩

end ChecklistReview.Fix
