import ChecklistReview.Artifact
import ChecklistReview.Proofs.Json.RoundTrip
import ChecklistReview.Proofs.Path
import ChecklistReview.Proofs.Text.Utf8
import ChecklistReview.Proofs.Timestamp
import ChecklistReview.Proofs.Validation
import Mathlib.Data.Nat.Digits.Defs

/-!
# Artifacts are read as they were written

An artifact is stable if it has nothing that the written form cannot keep: its offset is of whole
minutes, its paths are normal, its line numbers are short enough to be read and its texts have no
halves of characters. Stable artifacts are read as they were written, and every artifact that is
read is stable.

## Main statements

* `Finding.ofJson_toJson` and `Artifact.ofJson_toJson`: data is read as it was written.
* `isStable_of_ofBytes`: what is read is stable.
* `ofBytes_toText`: what is written for a stable artifact is read as that artifact.
* `written_artifact_reads_back`: reading inverts writing.
-/

namespace ChecklistReview

open Validation

-- ════════════════════════════════════════════════════════════════════════
-- Findings
-- ════════════════════════════════════════════════════════════════════════

theorem Severity.ofJson_name (s : Severity) : Severity.ofJson (.str s.name) = .valid s := by
  cases s <;> rfl

theorem Scope.ofJson_name (s : Scope) : Scope.ofJson (.str s.name) = .valid s := by
  cases s <;> rfl

namespace Finding

theorem readPath_toString {p : Path} (h : p.IsNormal) : readPath (.str p.toString) = .valid p := by
  rw [readPath, Path.ofString_toString h]

theorem readLine_int {n : Nat} (h : 1 ≤ n) : readLine (.int n) = .valid ⟨n, h⟩ := by
  simp [readLine, readInteger, Checked.andThen, h]

/-- A finding is read as it was written. -/
theorem ofJson_toJson {f : Finding} (h : f.file.IsNormal) : ofJson f.toJson = .valid f := by
  have hruleId : f.toJson.field? "ruleId" = some (.ofWording f.ruleId) := rfl
  have hdescription : f.toJson.field? "description" = some (.ofWording f.description) := rfl
  have hseverity : f.toJson.field? "severity" = some (.str f.severity.name) := rfl
  have hfixable : f.toJson.field? "autoFixable" = some (.bool f.isFixable) := rfl
  have hfile : f.toJson.field? "file" = some (.str f.file.toString) := rfl
  have hline : f.toJson.field? "line" = some (.int f.line) := rfl
  have hsnippet : f.toJson.field? "snippet" = some (.ofWording f.snippet) := rfl
  have hfound : f.toJson.field? "match" = f.found.map .ofWording := by
    obtain ⟨_, _, _, _, _, _, _, _, found, language⟩ := f
    cases found <;> cases language <;> rfl
  have hlanguage : f.toJson.field? "language" = f.language.map .ofWording := by
    obtain ⟨_, _, _, _, _, _, _, _, found, language⟩ := f
    cases found <;> cases language <;> rfl
  have hobject : ofJson f.toJson = ofObject f.toJson := rfl
  rw [hobject, ofObject, required_of_field? hruleId, required_of_field? hdescription,
    withDefault_of_field? hseverity, withDefault_of_field? hfixable, required_of_field? hfile,
    required_of_field? hline, withDefault_of_field? hsnippet, withDefault_optional hfound,
    withDefault_optional hlanguage, Severity.ofJson_name, readPath_toString h,
    readLine_int f.one_le_line, readText_ofWording, readText_ofWording, readText_ofWording]
  rfl

theorem isPlain_ofWording {w : Wording} (h : w.isText = true) : (Json.ofWording w).IsPlain := by
  cases w with
  | text s => trivial
  | broken codes _ => cases h

theorem isPlain_toJson {f : Finding} (h : f.isText = true) : f.toJson.IsPlain := by
  obtain ⟨_, _, _, _, _, _, _, _, found, language⟩ := f
  simp only [isText, Bool.and_eq_true] at h
  obtain ⟨⟨⟨⟨hruleId, hdescription⟩, hsnippet⟩, hfound⟩, hlanguage⟩ := h
  cases found <;> cases language
  all_goals
    simp_all [toJson, Json.IsPlain, Json.ArePlainMembers, isPlain_ofWording]

theorem admit_ofWording {limits : Json.Limits} {w : Wording} (h : w.isText = true) :
    limits.Admit (.ofWording w) := by
  cases w with
  | text s => rfl
  | broken codes _ => cases h

theorem admit_toJson {limits inner : Json.Limits} (hinner : limits.inner? = some inner)
    {f : Finding} (h : f.isText = true) (hline : inner.Admit (.int f.line)) :
    limits.Admit f.toJson := by
  refine ⟨inner, hinner, ?_⟩
  obtain ⟨_, _, _, isFixable, _, _, _, _, found, language⟩ := f
  simp only [isText, Bool.and_eq_true] at h
  obtain ⟨⟨⟨⟨hruleId, hdescription⟩, hsnippet⟩, hfound⟩, hlanguage⟩ := h
  have hstr (s : String) : inner.Admit (.str s) := rfl
  have hbool : inner.Admit (.bool isFixable) := rfl
  cases found <;> cases language
  all_goals
    simp_all [Json.Limits.AdmitMembers, admit_ofWording]

-- ════════════════════════════════════════════════════════════════════════
-- What is read under limits
-- ════════════════════════════════════════════════════════════════════════

/-- Limits under which strings are texts and whole numbers have no more digits than are read. -/
structure IsStrict (limits : Json.Limits) : Prop where
  digits : limits.digits = some digitLimit
  onlyTexts : limits.onlyTexts = true

theorem IsStrict.inner {limits inner : Json.Limits} (h : IsStrict limits)
    (hinner : limits.inner? = some inner) : IsStrict inner := by
  obtain ⟨hdigits, -, -, honly⟩ := Json.Limits.inner?_cases hinner
  exact ⟨hdigits.trans h.digits, honly.trans h.onlyTexts⟩

/-- The number of digits bounds a number. -/
theorem lt_pow_length_toDigits (n : Nat) : n < 10 ^ (Nat.toDigits 10 n).length := by
  have hdigits : ∀ c ∈ Nat.toDigits 10 n, Validation.isDigit c = true := by
    intro c hc
    exact Json.isDigit_of_mem_toDigits hc
  have hlt := ofDigitChars_lt hdigits 0
  rwa [Nat.ofDigitChars_ten_toDigits, Nat.zero_add, Nat.one_mul] at hlt

section Strict

variable {limits : Json.Limits} (hstrict : IsStrict limits)
include hstrict

theorem toNat_lt_of_admit {n : Int} (h : limits.Admit (.int n)) : n.toNat < 10 ^ digitLimit := by
  have hexcess : limits.excess? (.int n) = none := h
  simp only [Json.Limits.excess?, hstrict.digits] at hexcess
  split at hexcess
  · cases hexcess
  · next hlong =>
    have hlength : (Nat.toDigits 10 n.natAbs).length ≤ digitLimit :=
      Nat.le_trans (Nat.le_add_right _ _) (Nat.not_lt.1 hlong)
    calc n.toNat ≤ n.natAbs := by omega
      _ < 10 ^ (Nat.toDigits 10 n.natAbs).length := lt_pow_length_toDigits _
      _ ≤ 10 ^ digitLimit := Nat.pow_le_pow_right (by decide) hlength

theorem isText_of_readText {j : Json} {w : Wording} (hj : limits.Admit j)
    (h : readText j = .valid w) : w.isText = true := by
  cases j with
  | str s =>
    cases h
    rfl
  | broken codes =>
    have hexcess : limits.excess? (.broken codes) = none := hj
    simp [Json.Limits.excess?, hstrict.onlyTexts] at hexcess
  | _ => cases h

theorem isText_of_optional {j : Json} {x : Option Wording} (hj : limits.Admit j)
    (h : Validation.optional readText j = .valid x) : x.all Wording.isText = true := by
  cases j with
  | null =>
    cases h
    rfl
  | str s =>
    cases h
    rfl
  | broken codes =>
    have hexcess : limits.excess? (.broken codes) = none := hj
    simp [Json.Limits.excess?, hstrict.onlyTexts] at hexcess
  | _ => cases h

theorem lt_of_readLine {j : Json} {n : { n : Nat // 1 ≤ n }} (hj : limits.Admit j)
    (h : readLine j = .valid n) : n.val < 10 ^ digitLimit := by
  cases hinteger : readInteger j with
  | invalid issues =>
    simp only [readLine, hinteger, Checked.andThen] at h
    exact nomatch h
  | valid m =>
    have hlt : m.toNat < 10 ^ digitLimit := by
      refine toNat_lt_of_readInteger ?_ hinteger
      rintro m rfl
      exact toNat_lt_of_admit hstrict hj
    simp only [readLine, hinteger, Checked.andThen] at h
    split at h
    · rw [← Checked.valid.inj h]
      exact hlt
    · exact nomatch h

end Strict

theorem isNormal_of_readPath {j : Json} {p : Path} (h : readPath j = .valid p) : p.IsNormal := by
  cases j with
  | str s =>
    cases h
    exact Path.isNormal_ofString s
  | broken codes =>
    cases h
    exact Path.isNormal_ofString _
  | _ => exact nomatch h

/-- A finding that has nothing that its written form cannot keep. -/
structure IsStable (f : Finding) : Prop where
  /-- The path is normal. -/
  isNormal : f.file.IsNormal
  /-- The line number has no more digits than are read. -/
  isShort : f.line < 10 ^ digitLimit
  /-- The texts have no halves of characters. -/
  isText : f.isText = true

/-- A finding that is read is stable. -/
theorem isStable_of_ofJson {limits : Json.Limits} (hstrict : IsStrict limits) {j : Json}
    {f : Finding} (hj : limits.Admit j) (h : ofJson j = .valid f) : f.IsStable := by
  cases j with
  | object ms =>
    obtain ⟨inner, hinner, hms⟩ := hj
    have hstrict := hstrict.inner hinner
    have hms := Json.Limits.admitMembers_iff.1 hms
    have h : ofObject (.object ms) = .valid f := h
    simp only [ofObject, Checked.seq_eq_valid_iff, Checked.map_eq_valid_iff] at h
    -- the members in the order of the record, the last one outermost
    obtain ⟨_, language, ⟨_, found, ⟨_, snippet, ⟨_, line, ⟨_, file, ⟨_, _, ⟨_, _, ⟨_, description,
      ⟨ruleId, hruleId, rfl⟩, hdescription, rfl⟩, -, rfl⟩, -, rfl⟩, hfile, rfl⟩, hline, rfl⟩,
      hsnippet, rfl⟩, hfound, rfl⟩, hlanguage, rfl⟩ := h
    obtain ⟨_, _, hmem, hruleId⟩ := exists_of_required hruleId
    have hruleId := isText_of_readText hstrict (hms _ hmem) hruleId
    obtain ⟨_, _, hmem, hdescription⟩ := exists_of_required hdescription
    have hdescription := isText_of_readText hstrict (hms _ hmem) hdescription
    obtain ⟨_, _, -, hfile⟩ := exists_of_required hfile
    obtain ⟨_, _, hmem, hline⟩ := exists_of_required hline
    have hline := lt_of_readLine hstrict (hms _ hmem) hline
    have hsnippet : snippet.isText = true := by
      rcases exists_of_withDefault hsnippet with rfl | ⟨_, _, hmem, hsnippet⟩
      · rfl
      · exact isText_of_readText hstrict (hms _ hmem) hsnippet
    have hoptional : ∀ {x : Option Wording} {key : String}, withDefault (.object ms) key key none
        (Validation.optional readText) = .valid x → x.all Wording.isText = true := by
      intro x key hx
      rcases exists_of_withDefault hx with rfl | ⟨_, _, hmem, hx⟩
      · rfl
      · exact isText_of_optional hstrict (hms _ hmem) hx
    refine ⟨isNormal_of_readPath hfile, hline, ?_⟩
    simp [isText, make, hruleId, hdescription, hsnippet, hoptional hfound, hoptional hlanguage]
  | _ => exact nomatch h

end Finding

-- ════════════════════════════════════════════════════════════════════════
-- Artifacts
-- ════════════════════════════════════════════════════════════════════════

namespace Artifact

/-- An artifact that has nothing that its written form cannot keep. -/
structure IsStable (a : Artifact) : Prop where
  /-- The offset, if it is known, is of whole minutes. -/
  wholeMinutes : a.generatedAt.HasWholeMinutes
  findings : ∀ f ∈ a.findings, f.IsStable

theorem ofJson_record {t : Timestamp} (h : t.HasWholeMinutes) :
    Timestamp.ofJson (.str t.record) = .valid t := by
  rw [Timestamp.ofJson, Timestamp.ofText?_record h]

/-- An artifact is read as it was written. -/
theorem ofJson_toJson {a : Artifact} (h : a.IsStable) : ofJson a.toJson = .valid a := by
  have hgeneratedAt : a.toJson.field? "generatedAt" = some (.str a.generatedAt.record) := rfl
  have hscope : a.toJson.field? "scope" = some (.str a.scope.name) := rfl
  have hfindings : a.toJson.field? "findings" =
      some (.array (a.findings.map Finding.toJson)) := rfl
  have hread : readFindings (.array (a.findings.map Finding.toJson)) = .valid a.findings :=
    Checked.all_valid (fun f hf => Finding.ofJson_toJson (h.findings f hf).isNormal) 0
  have hobject : ofJson a.toJson = Artifact.mk
      <$> required a.toJson "generatedAt" "generated_at" Timestamp.ofJson
      <*> required a.toJson "scope" "scope" Scope.ofJson
      <*> withDefault a.toJson "findings" "findings" [] readFindings := rfl
  rw [hobject, required_of_field? hgeneratedAt, required_of_field? hscope,
    withDefault_of_field? hfindings, ofJson_record h.wholeMinutes, Scope.ofJson_name, hread]
  rfl

theorem isPlain_toJson {a : Artifact} (h : a.IsStable) : a.toJson.IsPlain := by
  have hfindings : ∀ fs : List Finding, (∀ f ∈ fs, f.IsStable) →
      Json.ArePlain (fs.map Finding.toJson) := by
    intro fs hfs
    induction fs with
    | nil => trivial
    | cons f fs ih =>
      obtain ⟨hf, hfs⟩ := List.forall_mem_cons.1 hfs
      exact ⟨Finding.isPlain_toJson hf.isText, ih hfs⟩
  refine ⟨?_, trivial, trivial, hfindings a.findings h.findings, trivial⟩
  simp

theorem isStrict_limits : Finding.IsStrict limits := ⟨rfl, rfl⟩

/-- A line number with no more digits than are read is within the limits. -/
theorem admit_line {inner : Json.Limits} (hinner : Finding.IsStrict inner) {n : Nat}
    (h : n < 10 ^ digitLimit) : inner.Admit (.int n) := by
  have hlength : inner.digitsOf n ≤ digitLimit := by
    have hnonneg : ¬ ((n : Int) < 0) := by omega
    simp only [Json.Limits.digitsOf, Int.natAbs_natCast, hnonneg, decide_false, Bool.and_false,
      Bool.false_eq_true, if_false, Nat.add_zero]
    exact Nat.toDigits_length 10 n digitLimit (by decide) h
  show inner.excess? (.int n) = none
  simp only [Json.Limits.excess?, hinner.digits, Nat.not_lt.2 hlength, if_false]

theorem admit_toJson {a : Artifact} (h : a.IsStable) : limits.Admit a.toJson := by
  have hfindings : ∀ f ∈ a.findings,
      ({ limits with depth := some 198 } : Json.Limits).Admit f.toJson := by
    intro f hf
    refine Finding.admit_toJson rfl (h.findings f hf).isText (admit_line ⟨rfl, rfl⟩ ?_)
    exact (h.findings f hf).isShort
  refine ⟨_, rfl, rfl, rfl, ⟨_, rfl, ?_⟩, trivial⟩
  exact Json.Limits.admitItems_iff.2 (List.forall_mem_map.2 hfindings)

/-- What is written for a stable artifact is read as that artifact. -/
theorem ofBytes_toText {a : Artifact} (h : a.IsStable) :
    ofBytes (Text.Utf8.encode a.toText.toList) = .ok a := by
  have hplain := isPlain_toJson h
  have hbreaks : Text.Utf8.unifyBreaks a.toText.toList = a.toText.toList :=
    Text.Utf8.unifyBreaks_of_forall_ne fun c hc heq => Json.pretty_ne_return hplain (heq ▸ hc)
  have htext : ofText a.toText.toList = .valid a := by
    rw [ofText, toText, Json.read_pretty hplain (admit_toJson h)]
    exact ofJson_toJson h
  rw [ofBytes, Text.Utf8.decodeStrict_encode]
  simp only [hbreaks, htext]

theorem hasWholeMinutes_of_ofJson {j : Json} {t : Timestamp} (h : Timestamp.ofJson j = .valid t) :
    t.HasWholeMinutes := by
  unfold Timestamp.ofJson at h
  repeat' split at h
  · next ht =>
    cases h
    exact Timestamp.hasWholeMinutes_of_ofText? ht
  · exact nomatch h
  · next ht =>
    cases h
    exact Timestamp.hasWholeMinutes_of_ofEpoch? ht
  · exact nomatch h
  · exact nomatch h
  · next ht =>
    cases h
    exact Timestamp.hasWholeMinutes_of_ofReal? ht
  · exact nomatch h
  · exact nomatch h

theorem isStable_of_readFindings {limits : Json.Limits} (hstrict : Finding.IsStrict limits)
    {j : Json} {fs : List Finding} (hj : limits.Admit j) (h : readFindings j = .valid fs) :
    ∀ f ∈ fs, f.IsStable := by
  cases j with
  | array items =>
    intro f hf
    obtain ⟨inner, hinner, hitems⟩ := hj
    obtain ⟨item, hitem, hread⟩ := Checked.exists_of_all_eq_valid h hf
    have hadmit := Json.Limits.admitItems_iff.1 hitems item hitem
    exact Finding.isStable_of_ofJson (hstrict.inner hinner) hadmit hread
  | _ => exact nomatch h

theorem isStable_of_ofJson {limits : Json.Limits} (hstrict : Finding.IsStrict limits) {j : Json}
    {a : Artifact} (hj : limits.Admit j) (h : ofJson j = .valid a) : a.IsStable := by
  cases j with
  | object ms =>
    obtain ⟨inner, hinner, hms⟩ := hj
    simp only [ofJson, Checked.seq_eq_valid_iff, Checked.map_eq_valid_iff] at h
    obtain ⟨_, fs, ⟨_, _, ⟨t, htime, rfl⟩, -, rfl⟩, hfindings, rfl⟩ := h
    obtain ⟨_, _, -, htime⟩ := exists_of_required htime
    refine ⟨hasWholeMinutes_of_ofJson htime, ?_⟩
    rcases exists_of_withDefault hfindings with rfl | ⟨_, j, hmem, hread⟩
    · exact fun f hf => nomatch hf
    · have hadmit := Json.Limits.admitMembers_iff.1 hms _ hmem
      exact isStable_of_readFindings (hstrict.inner hinner) hadmit hread
  | _ => exact nomatch h

/-- What is read is stable. -/
theorem isStable_of_ofBytes {bytes : List UInt8} {a : Artifact} (h : ofBytes bytes = .ok a) :
    a.IsStable := by
  unfold ofBytes at h
  split at h
  · exact nomatch h
  · next text _ =>
    split at h
    · next a' htext =>
      cases h
      unfold ofText at htext
      split at htext
      · exact nomatch htext
      · next data hdata =>
        exact isStable_of_ofJson isStrict_limits (Json.admit_of_read hdata) htext
    · exact nomatch h

/-- Reading inverts writing: an artifact whose offset is unknown or of whole minutes, whose paths
are normal and whose line numbers can be read is read as it was written, whatever characters its
texts hold; and so is every artifact that was read before. -/
theorem written_artifact_reads_back :
    (∀ a : Artifact, a.generatedAt.HasWholeMinutes → (∀ f ∈ a.findings, f.file.IsNormal) →
      (∀ f ∈ a.findings, f.line < 10 ^ digitLimit) → (∀ f ∈ a.findings, f.isText = true) →
      ofBytes (Text.Utf8.encode a.toText.toList) = .ok a) ∧
    ∀ (bytes : List UInt8) (a : Artifact), ofBytes bytes = .ok a →
      ofBytes (Text.Utf8.encode a.toText.toList) = .ok a := by
  refine ⟨fun a hminutes hnormal hshort htext => ?_, fun _ _ h => ?_⟩
  · exact ofBytes_toText ⟨hminutes, fun f hf => ⟨hnormal f hf, hshort f hf, htext f hf⟩⟩
  · exact ofBytes_toText (isStable_of_ofBytes h)

/-- An artifact with quotes, breaks, control characters and a character beyond the basic plane
among its texts, from a clock half an hour behind universal time. -/
def unusual : Artifact where
  generatedAt :=
    ⟨{ year := 1, month := 2, day := 28, micro := 40, offset := some (-1800) }, by decide⟩
  scope := .singleFile
  findings :=
    [{ ruleId := "a\"\\b", description := "\t\n\r\u0000\u001f\u007f", severity := .blocking
       isFixable := true, file := ⟨.doubleRoot, ["..", "a b"]⟩, line := 12345678901234567890
       one_le_line := by decide, snippet := "\u2028😀", found := some "", language := none }]

/-- A text that is read with names, numbers and paths in other forms than those written. -/
def looseText : String :=
  "\x7b\r\n\"generated_at\":\"2024-02-29t12:30:59,5-0030\"," ++
    "\"scope\":\"Entire Workspace\",\"findings\":[\x7b\"rule_id\":\"r\"," ++
    "\"description\":\"\\u0041\",\"file\":\"a//./b\",\"line\":\"1_0\"\x7d]\x7d"

/-- What is read from that text. -/
def looselyRead : Artifact where
  generatedAt :=
    ⟨{ year := 2024, month := 2, day := 29, hour := 12, minute := 30, second := 59, micro := 500000
       offset := some (-1800) }, by decide⟩
  scope := .workspace
  findings :=
    [{ ruleId := "r", description := "A", severity := .warning, isFixable := false
       file := ⟨.relative, ["a", "b"]⟩, line := 10, one_le_line := by decide, snippet := ""
       found := none, language := none }]

/-- Unusual texts are kept, and what was read from a loose text is written in one form. -/
theorem unusual_artifact_reads_back :
    ofBytes (Text.Utf8.encode unusual.toText.toList) = .ok unusual ∧
    ofBytes (Text.Utf8.encode looseText.toList) = .ok looselyRead ∧
    ofBytes (Text.Utf8.encode looselyRead.toText.toList) = .ok looselyRead := by
  have htext : ofText (Text.Utf8.unifyBreaks looseText.toList) = .valid looselyRead := by
    decide +kernel
  have hread : ofBytes (Text.Utf8.encode looseText.toList) = .ok looselyRead := by
    rw [ofBytes, Text.Utf8.decodeStrict_encode]
    simp only [htext]
  refine ⟨written_artifact_reads_back.1 unusual ?_ (by decide) ?_ (by decide), hread,
    written_artifact_reads_back.2 _ _ hread⟩
  · rintro o ⟨⟩
    decide
  · intro f hf
    rw [List.mem_singleton.1 hf]
    exact lt_limit (by decide)

end Artifact

end ChecklistReview
