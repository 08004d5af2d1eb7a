import ChecklistReview.Proofs.NullCheck.Unguarded
import ChecklistReview.Proofs.Review.LineOrder
import ChecklistReview.Proofs.Review.Location
import ChecklistReview.Proofs.Review.PatternFindings

/-!
# Findings of rules on syntax trees

A finding for an unguarded parameter quotes the name of the parameter and names the line on which
it starts. The offset of the parameter comes from the syntax tree and the line from the text, where
a lone carriage return ends a line. A name lies on one line, so a fix finds it there.

## Main statements

* `NullCheck.exists_of_mem_unguarded`: what is reported is an identifier of the tree.
* `parameter_finding_mendable`: a finding points at its parameter and can be mended there.
-/

namespace ChecklistReview.NullCheck

theorem IsSimpleName.kind_eq {parameter c : Tree} {path : List Nat}
    (h : IsSimpleName parameter path c) : c.kind = "identifier" := by
  cases h <;> assumption

theorem IsParameter.kind_eq {function c : Tree} {q : List Nat} (h : IsParameter function q c) :
    c.kind = "identifier" := by
  cases h with
  | single _ hkind => exact hkind
  | listed _ _ _ _ hname => exact hname.kind_eq

theorem kind_of_mem_parameters {function p : Tree} (h : p ∈ parameters function) :
    p.kind = "identifier" := by
  obtain ⟨qs, hlocated⟩ := exists_located_parameters function
  have hp : some p ∈ qs.map function.at? := by
    rw [hlocated.map_at?]
    exact List.mem_map_of_mem h
  obtain ⟨q, hq, hat⟩ := List.mem_map.mp hp
  obtain ⟨c, hc⟩ := (hlocated.mem_iff q).mp hq
  obtain rfl : c = p := Option.some.inj (hc.at?.symm.trans hat)
  exact hc.kind_eq

/-- What is reported is an identifier of the tree. -/
theorem exists_of_mem_unguarded {source : Array Char} {tree p : Tree}
    (h : p ∈ unguarded source tree) : p ∈ tree.walk ∧ p.kind = "identifier" := by
  obtain ⟨function, hfunction, hp⟩ := List.mem_flatMap.mp h
  have hparameter := (unguardedOf_sublist source function).subset hp
  exact ⟨Tree.mem_walk_trans hfunction (mem_walk_of_mem_parameters hparameter),
    kind_of_mem_parameters hparameter⟩

end ChecklistReview.NullCheck

namespace ChecklistReview.Review

open Source Text

variable {parse : SyntaxReader} {path : Path} {text : String} {language : Option String}

theorem scan_value_of_sound {tree : Tree}
    (h : (soundTreeOf (some path) text.toList parse).value = .ok tree) :
    (NullCheck.scan (Document.ofText path text language) parse).value =
      .ok ((NullCheck.unguarded text.toList.toArray tree).map
        (NullCheck.findingAt (Document.ofText path text language))) := by
  have htree : requireSound (some (Document.ofText path text language).path)
      (treeOf (some (Document.ofText path text language).path)
        (Document.ofText path text language).text parse).value = .ok tree := h
  rw [NullCheck.scan, Logged.value_bind, NullCheck.scanTree, htree]
  rfl

/-- The text around a node that lies in it. -/
theorem exists_around {source : List Char} {node : Tree} (hle : node.label.start ≤ node.label.stop)
    (hsize : node.label.stop ≤ source.length) :
    ∃ before after, source = before ++ (NullCheck.textOf source.toArray node ++ after) ∧
      before.length = node.label.start := by
  refine ⟨source.take node.label.start, source.drop node.label.stop, ?_, ?_⟩
  · have htext : NullCheck.textOf source.toArray node =
        (source.drop node.label.start).take (node.label.stop - node.label.start) := by
      rw [NullCheck.textOf, List.extract_toArray, List.extract_eq_take_drop]
    have hrest : (source.drop node.label.start).drop (node.label.stop - node.label.start) =
        source.drop node.label.stop := by
      rw [List.drop_drop, Nat.add_sub_cancel' hle]
    rw [htext, ← hrest, List.take_append_drop, List.take_append_drop]
  · exact List.length_take_of_le (Nat.le_trans hle hsize)

/-- What a finding quotes can be mended where it is on the line of the finding. -/
theorem exists_applyFix_of_onLine {source part : List Char} {f : Finding}
    (hfound : f.found = some (.text (String.ofList part)))
    (hline : f.line ≤ (splitLines source).length)
    (hon : OnLine source f.line part) {rule : Rule} (hfix : rule.canFix = true) :
    ∃ result, (Fix.applyFix f (some rule) source).value = .ok result := by
  have hquoted : Fix.quotedText f = part := by
    rw [Fix.quotedText, hfound, Option.getD_some, letters_char, String.toList_ofList]
  have hmendable : Fix.Mendable f (some rule) source := by
    obtain ⟨line, hget, hinfix⟩ := hon
    exact ⟨rule, rfl, hfix, hline, line, hget, hquoted ▸ hinfix⟩
  obtain ⟨result, hresult⟩ := Fix.exists_fixText_eq_ok_iff.mpr hmendable
  exact ⟨result, Fix.applyFix_value_eq_ok_iff.mpr hresult⟩

/-- Findings for unguarded parameters point at the parameter that they name. The nodes of the tree
lie in the text, and no identifier goes over the end of a line. Then a text that fits the grammar
has findings, and each comes from an identifier of the tree: it quotes the text at the offset of the
identifier, is on the line of that offset, and what it quotes is on this line. So every rule that
has a fix mends the finding in the unchanged text. If the parser counts bytes and cuts no
characters, the bytes of the identifier are the same text. -/
theorem parameter_finding_mendable (parse : SyntaxReader) (path : Path) (text : String)
    (language : Option String) (tree : Tree)
    (hsound : (soundTreeOf (some path) text.toList parse).value = .ok tree)
    (hspans : ∀ node ∈ tree.walk,
      node.label.start ≤ node.label.stop ∧ node.label.stop ≤ text.toList.length)
    (hidentifiers : ∀ node ∈ tree.walk, node.kind = "identifier" →
      '\r' ∉ NullCheck.textOf text.toList.toArray node ∧
        '\n' ∉ NullCheck.textOf text.toList.toArray node) :
    ∃ findings,
      (NullCheck.scan (Document.ofText path text language) parse).value = .ok findings ∧
      ∀ f ∈ findings, ∃ node ∈ NullCheck.unguarded text.toList.toArray tree, ∃ found : String,
        f = NullCheck.findingAt (Document.ofText path text language) node ∧
        node ∈ tree.walk ∧ node.kind = "identifier" ∧ f.found = some (.text found) ∧
        (∃ before after, text.toList = before ++ (found.toList ++ after) ∧
          before.length = node.label.start) ∧
        f.line = (LineIndex.ofText text.toList).lineNumber node.label.start ∧
        OnLine text.toList f.line found.toList ∧
        (∀ rule : Rule, rule.canFix = true →
          ∃ result, (Fix.applyFix f (some rule) text.toList).value = .ok result) ∧
        ∀ first last before through,
          Utf8.decodeStrict ((Utf8.encode text.toList).take first) = .ok before →
          Utf8.decodeStrict ((Utf8.encode text.toList).take last) = .ok through →
          before.length = node.label.start → through.length = node.label.stop →
          Utf8.decodeReplacing (((Utf8.encode text.toList).take last).drop first) =
              found.toList ∧
            f.line = (splitLines before).length := by
  refine ⟨_, scan_value_of_sound hsound, ?_⟩
  intro f hf
  obtain ⟨node, hnode, rfl⟩ := List.mem_map.mp hf
  obtain ⟨hwalk, hkind⟩ := NullCheck.exists_of_mem_unguarded hnode
  obtain ⟨hle, hsize⟩ := hspans node hwalk
  obtain ⟨before, after, htext, hbefore⟩ := exists_around hle hsize
  have hline : (NullCheck.findingAt (Document.ofText path text language) node).line =
      (LineIndex.ofText text.toList).lineNumber node.label.start := rfl
  have hunbroken : Unbroken (NullCheck.textOf text.toList.toArray node) :=
    unbroken_char_iff.mpr (hidentifiers node hwalk hkind)
  have hon : OnLine text.toList
      (NullCheck.findingAt (Document.ofText path text language) node).line
      (NullCheck.textOf text.toList.toArray node) := by
    have h := (onLine_iff_unbroken before _ after).mpr hunbroken
    rwa [← htext, hbefore, ← hline] at h
  refine ⟨node, hnode, String.ofList (NullCheck.textOf text.toList.toArray node), rfl, hwalk, hkind,
    rfl, ?_, hline, ?_, ?_, ?_⟩
  · rw [String.toList_ofList]
    exact ⟨before, after, htext, hbefore⟩
  · rwa [String.toList_ofList]
  · intro rule hfix
    exact exists_applyFix_of_onLine rfl (LineIndex.lineNumber_ofText_le _ _) hon hfix
  · intro first last before through hfirst hlast hstart hstop
    rw [hline, ← hstart, LineIndex.lineNumber_of_decodeStrict hfirst,
      Utf8.decodeReplacing_slice hfirst hlast (by omega), hstart, hstop, String.toList_ofList,
      NullCheck.textOf, List.extract_toArray, List.extract_eq_take_drop]
    exact ⟨rfl, rfl⟩

namespace LoneReturn

open ArrowFunction (node)

/-- Two functions with a lone carriage return between them, after a character of two bytes. -/
def source : String := "é=>1;\rx=>x"

/-- The syntax tree of the functions, whose nodes all are in the first row. -/
def tree : Tree :=
  node "program" true none 0 10
    [node "expression_statement" true none 0 5
      [node "arrow_function" true none 0 4
        [node "identifier" true (some "parameter") 0 1 [], node "=>" false none 1 3 [],
          node "number" true (some "body") 3 4 []],
        node ";" false none 4 5 []],
      node "expression_statement" true none 6 10
        [node "arrow_function" true none 6 10
          [node "identifier" true (some "parameter") 6 7 [], node "=>" false none 7 9 [],
            node "identifier" true (some "body") 9 10 []]]]

end LoneReturn

open ArrowFunction (nullCheck)

/-- The parameter after a lone carriage return is in the first row of the tree and on the second
line of the text. -/
theorem parameter_finding_mendable_after_lone_return :
    ∃ findings, (NullCheck.scan (Document.ofText DefaultValue.file LoneReturn.source none)
        (fun _ _ => LoneReturn.tree)).value = .ok findings ∧
      ∃ f ∈ findings, f.found = some (.text "x") ∧ f.line = 2 ∧
        (∃ node ∈ LoneReturn.tree.walk,
          f = NullCheck.findingAt (Document.ofText DefaultValue.file LoneReturn.source none) node ∧
          node.label.row = 0 ∧ node.label.start = 6 ∧
          Utf8.decodeReplacing (((Utf8.encode LoneReturn.source.toList).take 8).drop 7) = ['x']) ∧
        ∃ result, (Fix.applyFix f (some (nullCheck "C2")) LoneReturn.source.toList).value =
          .ok result := by
  obtain ⟨findings, hscan, hfindings⟩ := parameter_finding_mendable (fun _ _ => LoneReturn.tree)
    DefaultValue.file LoneReturn.source none LoneReturn.tree rfl (by decide +kernel)
    (by decide +kernel)
  have hreported : findings = (NullCheck.unguarded LoneReturn.source.toList.toArray
      LoneReturn.tree).map (NullCheck.findingAt (Document.ofText DefaultValue.file LoneReturn.source
        none)) :=
    Except.ok.inj (hscan.symm.trans (scan_value_of_sound rfl))
  have hsome : ∃ f ∈ findings, f.found = some (.text "x") ∧ f.line = 2 := by
    rw [hreported]
    decide +kernel
  obtain ⟨f, hf, hfound, hline⟩ := hsome
  obtain ⟨node, hnode, found, rfl, hwalk, -, hquoted, -, -, -, hfix, hbytes⟩ := hfindings f hf
  have hplace : ∀ node ∈ NullCheck.unguarded LoneReturn.source.toList.toArray LoneReturn.tree,
      (NullCheck.findingAt (Document.ofText DefaultValue.file LoneReturn.source none) node).found =
        some (.text "x") → node.label.row = 0 ∧ node.label.start = 6 ∧ node.label.stop = 7 := by
    decide +kernel
  obtain ⟨hrow, hstart, hstop⟩ := hplace node hnode hfound
  obtain rfl : found = "x" := Wording.text.inj (Option.some.inj (hquoted.symm.trans hfound))
  have hdecoded := hbytes 7 8 "é=>1;\r".toList "é=>1;\rx".toList (by decide +kernel)
    (by decide +kernel) (by rw [hstart]; decide) (by rw [hstop]; decide)
  exact ⟨findings, hscan, _, hf, hfound, hline, ⟨node, hwalk, rfl, hrow, hstart, hdecoded.1⟩,
    hfix (nullCheck "C2") (by decide)⟩

end ChecklistReview.Review
