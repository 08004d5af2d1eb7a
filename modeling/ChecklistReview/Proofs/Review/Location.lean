import ChecklistReview.Proofs.Review.Evaluation
import ChecklistReview.Proofs.Review.Resolution
import ChecklistReview.Proofs.Text.LineIndex
import ChecklistReview.Proofs.Text.Utf8

/-!
# Where findings are

Findings get their line in three ways: by counting lines, from the offset of a match, and from the
offset of a syntax node. All of them lead to a line of the text that was reviewed, and the snippet
is that line. Only the finding for a whole file shows something else, the number of lines.

A parser that counts bytes gives an offset of characters by decoding the bytes before it, which
are a part of the text if the offset does not cut a character.

## Main statements

* `LineIndex.exists_line_of_locate`: an offset is located on a line of the text, with its snippet.
* `Reports.line_le`: every finding is on a line of the text.
* `finding_resolves`: where the findings of each kind of rule are, and what they show.
-/

namespace ChecklistReview.Text.LineIndex

/-- A line by its number, and what is shown of it. -/
theorem exists_line_of_snippet {text : List Char} {number : Nat} (hpos : 1 ≤ number)
    (hle : number ≤ (splitLines text).length) :
    ∃ line, (splitLines text)[number - 1]? = some line ∧
      (ofText text).snippet number = String.ofList (strip line) := by
  have hlt : number - 1 < (splitLines text).length := by omega
  have hline := List.getElem?_eq_getElem hlt
  refine ⟨_, hline, ?_⟩
  have hentry : (ofText text).lines.getD ((number : Int).toNat - 1) [] =
      (splitLines text)[number - 1] := by
    rw [Int.toNat_natCast, Array.getD_eq_getD_getElem?, ofText, List.getElem?_toArray, hline]
    rfl
  rw [snippet, if_pos (by omega), hentry]

/-- An offset is located on a line of the text, and what is shown is that line. -/
theorem exists_line_of_locate (text : List Char) (offset : Int) :
    ((ofText text).locate offset).line ≤ (splitLines text).length ∧
      ∃ line, (splitLines text)[((ofText text).locate offset).line - 1]? = some line ∧
        ((ofText text).locate offset).snippet = String.ofList (strip line) := by
  have hle := lineNumber_ofText_le text offset
  exact ⟨hle, exists_line_of_snippet ((ofText text).locate offset).one_le_line hle⟩

/-- A byte offset that cuts no character is located on the last line of the text before it. -/
theorem lineNumber_of_decodeStrict {text before : List Char} {byte : Nat}
    (h : Utf8.decodeStrict ((Utf8.encode text).take byte) = .ok before) :
    (ofText text).lineNumber before.length = (splitLines before).length := by
  obtain ⟨after, rfl⟩ := Utf8.exists_append_of_decodeStrict h
  rw [lineNumber_ofText, length_splitLines]

end ChecklistReview.Text.LineIndex

namespace ChecklistReview.Review

open Source Text

variable {parse : SyntaxReader} {runtime : Runtime} {path : Path} {text : String}
  {language : Option String} {rule : Rule} {f : Finding}

theorem lineCount_ofText (path : Path) (text : String) (language : Option String) :
    (Document.ofText path text language).lineCount = (splitLines text.toList).length :=
  List.size_toArray

/-- Every finding is on a line of the text. -/
theorem Reports.line_le (h : Reports parse runtime (Document.ofText path text language) rule f) :
    f.line ≤ (splitLines text.toList).length := by
  cases h with
  | pattern => exact (LineIndex.exists_line_of_locate text.toList _).1
  | structural => exact (LineIndex.exists_line_of_locate text.toList _).1
  | fileLength =>
    have hne : splitLines text.toList ≠ [] := by
      intro hnil
      exact lines_ne_nil text.toList (List.map_eq_nil_iff.mp hnil)
    exact List.length_pos_iff.mpr hne
  | @lineLength most index line _ _ _ hline _ =>
    obtain ⟨hlt, -⟩ := List.getElem?_eq_some_iff.mp hline
    exact hlt

/-- What a finding shows is its line, unless it is about the whole file. -/
theorem Reports.exists_line
    (h : Reports parse runtime (Document.ofText path text language) rule f)
    (hkind : rule.kind ≠ .fileLength) :
    ∃ line, (splitLines text.toList)[f.line - 1]? = some line ∧
      f.snippet = String.ofList (strip line) := by
  cases h with
  | @pattern _ _ span =>
    obtain ⟨line, hline, hsnippet⟩ := (LineIndex.exists_line_of_locate text.toList span.start).2
    exact ⟨line, hline, congrArg Wording.text hsnippet⟩
  | @structural _ parameter =>
    obtain ⟨line, hline, hsnippet⟩ :=
      (LineIndex.exists_line_of_locate text.toList parameter.label.start).2
    exact ⟨line, hline, congrArg Wording.text hsnippet⟩
  | fileLength hcheck =>
    refine absurd ?_ hkind
    rw [Rule.kind, hcheck]
    rfl
  | lineLength _ _ _ hline _ => exact ⟨_, hline, rfl⟩

/-- A finding about the whole file is on its first line and shows the number of lines. -/
theorem Reports.whole_file
    (h : Reports parse runtime (Document.ofText path text language) rule f)
    (hkind : rule.kind = .fileLength) :
    f.line = 1 ∧ f.snippet = s!"File has {(splitLines text.toList).length} lines" := by
  have hcheck : rule.check.kind = .fileLength := hkind
  cases h with
  | pattern h => rw [h] at hcheck; cases hcheck
  | structural h => rw [h] at hcheck; cases hcheck
  | lineLength h => rw [h] at hcheck; cases hcheck
  | fileLength => exact ⟨rfl, by rw [← lineCount_ofText path text language]; rfl⟩

/-- A finding of a rule on syntax trees is on the line on which the parameter starts, also if the
parser counts bytes. -/
theorem Reports.parameter_line
    (h : Reports parse runtime (Document.ofText path text language) rule f)
    (hkind : rule.kind = .structural) :
    ∃ tree, (soundTreeOf (some path) text.toList parse).value = .ok tree ∧
      ∃ parameter ∈ NullCheck.unguarded text.toList.toArray tree,
        f = NullCheck.findingAt (Document.ofText path text language) parameter ∧
        ∀ byte before, Utf8.decodeStrict ((Utf8.encode text.toList).take byte) = .ok before →
          before.length = parameter.label.start → f.line = (splitLines before).length := by
  have hcheck : rule.check.kind = .structural := hkind
  cases h with
  | pattern h => rw [h] at hcheck; cases hcheck
  | fileLength h => rw [h] at hcheck; cases hcheck
  | lineLength h => rw [h] at hcheck; cases hcheck
  | @structural tree parameter _ _ _ htree hparameter =>
    refine ⟨tree, htree, parameter, hparameter, rfl, fun byte before hbefore hstart => ?_⟩
    rw [← LineIndex.lineNumber_of_decodeStrict hbefore, hstart]
    rfl

/-- Every finding of an evaluation is on a line of the text that was evaluated. The snippet of a
pattern rule, a rule on the length of lines or a rule on syntax trees is that line without the
blanks around it. A rule on the length of files reports the first line and the number of lines. For
a rule on syntax trees the line is the one on which the parameter starts, where the parser may
count bytes, if it does not cut characters. -/
theorem finding_resolves (parse : SyntaxReader) (runtime : Runtime) (path : Path) (text : String)
    (language : Option String) (rule : Rule) (findings : List Finding)
    (h : (evaluateRule (Document.ofText path text language) rule parse runtime).value =
      .ok findings) :
    ∀ f ∈ findings,
      (1 ≤ f.line ∧ f.line ≤ (splitLines text.toList).length) ∧
      (rule.kind ≠ .fileLength →
        ∃ line, (splitLines text.toList)[f.line - 1]? = some line ∧
          f.snippet = String.ofList (strip line)) ∧
      (rule.kind = .fileLength →
        f.line = 1 ∧ f.snippet = s!"File has {(splitLines text.toList).length} lines") ∧
      (rule.kind = .structural →
        ∃ tree, (soundTreeOf (some path) text.toList parse).value = .ok tree ∧
          ∃ parameter ∈ NullCheck.unguarded text.toList.toArray tree,
            f = NullCheck.findingAt (Document.ofText path text language) parameter ∧
            ∀ byte before, Utf8.decodeStrict ((Utf8.encode text.toList).take byte) = .ok before →
              before.length = parameter.label.start → f.line = (splitLines before).length) := by
  intro f hf
  have hreports := reports_of_mem h hf
  exact ⟨⟨f.one_le_line, hreports.line_le⟩, hreports.exists_line, hreports.whole_file,
    hreports.parameter_line⟩

namespace DefaultValue

open ArrowFunction (node nullCheck)

/-- A function with a function in the default value of its first parameter. The second parameter
is after a separator. -/
def source (separator : Char) : String := "(é = x => x," ++ String.singleton separator ++ "b) => b"

/-- The syntax tree of the function, whatever blank the separator is. -/
def tree : Tree :=
  node "program" true none 0 20 [node "expression_statement" true none 0 20
    [node "arrow_function" true none 0 20
      [node "formal_parameters" true (some "parameters") 0 15
        [node "(" false none 0 1 [],
          node "required_parameter" true none 1 11
            [node "identifier" true (some "pattern") 1 2 [], node "=" false none 3 4 [],
              node "arrow_function" true (some "value") 5 11
                [node "identifier" true (some "parameter") 5 6 [], node "=>" false none 7 9 [],
                  node "identifier" true (some "body") 10 11 []]],
          node "," false none 11 12 [],
          node "required_parameter" true none 13 14
            [node "identifier" true (some "pattern") 13 14 []],
          node ")" false none 14 15 []],
        node "=>" false none 16 18 [], node "identifier" true (some "body") 19 20 []]]]

/-- The file with the function. -/
def file : Path := ⟨.relative, ["a.ts"]⟩

/-- What the rule on syntax trees reports. -/
def reported (separator : Char) : List Finding :=
  (NullCheck.unguarded (source separator).toList.toArray tree).map
    (NullCheck.findingAt (Document.ofText file (source separator) none))

theorem evaluateRule_eq (separator : Char) :
    (evaluateRule (Document.ofText file (source separator) none) (nullCheck "C2")
      (fun _ _ => tree)).value = .ok (reported separator) :=
  rfl

end DefaultValue

open ArrowFunction (nullCheck)
open DefaultValue

/-- The second parameter comes after fourteen bytes, which are thirteen characters, and is found
on the second line. -/
theorem finding_resolves_after_wide_character :
    ∃ f ∈ reported '\r', f.found = some (.text "b") ∧
      Utf8.decodeStrict ((Utf8.encode (source '\r').toList).take 14) =
        .ok "(é = x => x,\r".toList ∧
      f.line = (splitLines "(é = x => x,\r".toList).length ∧ f.line = 2 ∧
      ∃ line, (splitLines (source '\r').toList)[f.line - 1]? = some line ∧
        f.snippet = String.ofList (strip line) := by
  have hsome : ∃ f ∈ reported '\r', f.found = some (.text "b") := by decide +kernel
  have hbytes : Utf8.decodeStrict ((Utf8.encode (source '\r').toList).take 14) =
      .ok "(é = x => x,\r".toList := by decide +kernel
  have hstart : ∀ p ∈ NullCheck.unguarded (source '\r').toList.toArray tree,
      (NullCheck.findingAt (Document.ofText file (source '\r') none) p).found = some (.text "b") →
        "(é = x => x,\r".toList.length = p.label.start := by decide +kernel
  obtain ⟨f, hf, hfound⟩ := hsome
  obtain ⟨-, hshown, -, hparameter⟩ := finding_resolves _ {} file (source '\r') none
    (nullCheck "C2") (reported '\r') (evaluateRule_eq '\r') f hf
  obtain ⟨other, htree, parameter, hmem, rfl, hline⟩ := hparameter rfl
  obtain rfl : tree = other := Except.ok.inj htree
  have hnumber := hline 14 _ hbytes (hstart parameter hmem hfound)
  exact ⟨_, hf, hfound, hbytes, hnumber, hnumber, hshown (by decide)⟩

end ChecklistReview.Review
