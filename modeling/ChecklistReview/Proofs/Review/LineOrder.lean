import ChecklistReview.Proofs.Regex.Span
import ChecklistReview.Proofs.Review.Evaluation
import ChecklistReview.Proofs.Review.Location
import ChecklistReview.Proofs.Text.LineIndex
import ChecklistReview.Proofs.Tree

/-!
# The order of findings

The findings of a rule are meant to come in the order of their lines. Matches are found from left to
right and long lines from top to bottom. The parameters of functions come function by function in
document order, and a function is met before the functions in it. So the parameters of a function
come before those of the functions in it, also of those that stand in its list of parameters, before
other parameters. This is the only way in which the order can fail.

## Main statements

* `NullCheck.pairwise_unguarded_iff`: when unguarded parameters come in order.
* `inLineOrder_pattern`, `inLineOrder_longLines`: the findings of the other rules come in order.
* `inLineOrder_iff`: when the findings of a rule come in the order of their lines.
-/

namespace ChecklistReview

-- ════════════════════════════════════════════════════════════════════════
-- Parameters in a tree
-- ════════════════════════════════════════════════════════════════════════

namespace NullCheck

theorem mem_children_of_child? {t c : Tree} {field : String} (h : t.child? field = some c) :
    c ∈ t.children :=
  List.mem_of_find?_eq_some h

theorem eq_of_identifier? {t s : Tree} (h : identifier? t = some s) : s = t := by
  unfold identifier? at h
  split at h
  · exact (Option.some.inj h).symm
  · cases h

theorem mem_walk_of_child? {t s : Tree} {field : String}
    (h : (t.child? field).bind identifier? = some s) : s ∈ t.walk := by
  obtain ⟨c, hc, hs⟩ := Option.bind_eq_some_iff.mp h
  obtain rfl := eq_of_identifier? hs
  exact Tree.mem_walk_of_mem_children (mem_children_of_child? hc) (Tree.mem_walk_self s)

theorem mem_walk_of_simpleName? {t s : Tree} (h : simpleName? t = some s) : s ∈ t.walk := by
  unfold simpleName? at h
  split at h
  · obtain rfl := Option.some.inj h
    exact Tree.mem_walk_self t
  · split at h
    · exact mem_walk_of_child? h
    · split at h
      · exact mem_walk_of_child? h
      · cases h

/-- The parameters of a function are nodes of it. -/
theorem mem_walk_of_mem_parameters {function p : Tree} (h : p ∈ parameters function) :
    p ∈ function.walk := by
  unfold parameters at h
  split at h
  · next single hsingle =>
    obtain rfl := eq_of_identifier? (Option.mem_toList.mp h)
    exact Tree.mem_walk_of_mem_children (mem_children_of_child? hsingle) (Tree.mem_walk_self p)
  · split at h
    · next list hlist =>
      obtain ⟨parameter, hparameter, hname⟩ := List.mem_filterMap.mp h
      have hp : p ∈ list.walk := Tree.mem_walk_of_mem_children (List.mem_filter.mp hparameter).1
        (mem_walk_of_simpleName? hname)
      exact Tree.mem_walk_of_mem_children (mem_children_of_child? hlist) hp
    · simp at h

/-- The parameters of a function come from left to right. -/
theorem pairwise_parameters {function : Tree} (h : function.isOrdered = true) :
    (parameters function).Pairwise fun p q => p.label.start ≤ q.label.start := by
  unfold parameters
  split
  · next single _ =>
    cases identifier? single with
    | none => exact List.Pairwise.nil
    | some p => exact List.pairwise_singleton _ p
  · split
    · next list hlist =>
      obtain ⟨-, -, hordered⟩ :=
        Tree.extent_of_mem (Tree.areOrdered_children h) (mem_children_of_child? hlist)
      have hchildren := Tree.areOrdered_children hordered
      rw [List.pairwise_filterMap]
      refine ((Tree.pairwise_of_areOrdered hchildren).filter _).imp_of_mem ?_
      intro a b ha hb hab p hp q hq
      have haordered := (Tree.extent_of_mem hchildren (List.mem_filter.mp ha).1).2.2
      have hbordered := (Tree.extent_of_mem hchildren (List.mem_filter.mp hb).1).2.2
      have hpextent := Tree.extent_of_mem_walk haordered (mem_walk_of_simpleName? hp)
      have hqextent := Tree.extent_of_mem_walk hbordered (mem_walk_of_simpleName? hq)
      have hple := Tree.start_le_stop hpextent.2.2
      omega
    · exact List.Pairwise.nil

theorem unguardedOf_sublist (source : Array Char) (function : Tree) :
    (unguardedOf source function).Sublist (parameters function) := by
  unfold unguardedOf
  split
  · split
    · exact List.filter_sublist
    · exact List.nil_sublist _
  · exact List.nil_sublist _

/-- Unguarded parameters of an ordered tree come in order, as far as a measure of offsets tells,
exactly if those of each function come before those of the functions in it. -/
theorem pairwise_unguarded_iff {measure : Nat → Nat}
    (hmono : ∀ {a b}, a ≤ b → measure a ≤ measure b) (source : Array Char) {tree : Tree}
    (h : tree.isOrdered = true) :
    ((unguarded source tree).Pairwise fun p q => measure p.label.start ≤ measure q.label.start) ↔
      ∀ outer ∈ tree.walk, ∀ inner ∈ outer.descendants,
        ∀ p ∈ unguardedOf source outer, ∀ q ∈ unguardedOf source inner,
          measure p.label.start ≤ measure q.label.start := by
  have hright : ∀ s t : Tree, s.label.stop ≤ t.label.start → s.isOrdered = true →
      t.isOrdered = true → ∀ p ∈ unguardedOf source s, ∀ q ∈ unguardedOf source t,
        measure p.label.start ≤ measure q.label.start := by
    intro s t hst hs ht p hp q hq
    have hpextent := Tree.extent_of_mem_walk hs
      (mem_walk_of_mem_parameters ((unguardedOf_sublist source s).subset hp))
    have hqextent := Tree.extent_of_mem_walk ht
      (mem_walk_of_mem_parameters ((unguardedOf_sublist source t).subset hq))
    have hple := Tree.start_le_stop hpextent.2.2
    exact hmono (by omega)
  have hsingle : ∀ function ∈ tree.walk, (unguardedOf source function).Pairwise fun p q =>
      measure p.label.start ≤ measure q.label.start := by
    intro function hfunction
    have hordered := (Tree.extent_of_mem_walk h hfunction).2.2
    exact ((pairwise_parameters hordered).sublist (unguardedOf_sublist source function)).imp hmono
  rw [unguarded, List.pairwise_flatMap, Tree.pairwise_walk_iff hright h]
  exact and_iff_right hsingle

end NullCheck

-- ════════════════════════════════════════════════════════════════════════
-- Findings in the order of their lines
-- ════════════════════════════════════════════════════════════════════════

namespace Review

open Source Text

/-- Findings in the order of their lines. -/
def InLineOrder (findings : List Finding) : Prop :=
  findings.Pairwise fun f g => f.line ≤ g.line

instance (findings : List Finding) : Decidable (InLineOrder findings) :=
  inferInstanceAs (Decidable (findings.Pairwise fun f g => f.line ≤ g.line))

variable {parse : SyntaxReader} {path : Path} {text : String} {language : Option String}
  {rule : Rule} {findings : List Finding}

theorem inLineOrder_pattern {source : Wording} {setup : Regex.Setup}
    (h : (PatternCheck.evaluate (Document.ofText path text language) rule source setup).value =
      .ok findings) : InLineOrder findings := by
  rcases pattern_findings h with rfl | ⟨-, regex, -, rfl⟩
  · exact List.Pairwise.nil
  · refine List.pairwise_map.mpr ((Regex.pairwise_findAll regex).imp fun hle => ?_)
    exact LineIndex.lineNumber_ofText_mono text.toList (Int.ofNat_le.mpr hle)

theorem inLineOrder_longLines (document : Document) (rule : Rule) (most : Int) (start : Nat)
    (ls : List (List Char)) : InLineOrder (LengthCheck.longLines document rule most start ls) := by
  induction ls generalizing start with
  | nil => exact List.Pairwise.nil
  | cons line ls ih =>
    rw [LengthCheck.longLines]
    split
    · refine List.Pairwise.cons (fun f hf => ?_) (ih (start + 1))
      obtain ⟨index, later, -, -, rfl⟩ := exists_of_mem_longLines hf
      change start + 1 ≤ start + 1 + index + 1
      omega
    · exact ih (start + 1)

theorem inLineOrder_lineLength (document : Document) (rule : Rule) (most : Option Int) :
    InLineOrder (LengthCheck.evaluateLines document rule most).value := by
  rw [LengthCheck.evaluateLines]
  split
  · exact List.Pairwise.nil
  · split
    · exact inLineOrder_longLines document rule _ 0 document.lines
    · exact List.Pairwise.nil

theorem inLineOrder_fileLength (document : Document) (rule : Rule) (most : Option Int) :
    InLineOrder (LengthCheck.evaluateFile document rule most).value := by
  rw [LengthCheck.evaluateFile]
  split
  · exact List.Pairwise.nil
  · split
    · exact List.pairwise_singleton _ _
    · exact List.Pairwise.nil

/-- Whether the parameters of a function that are reported come on the lines before those of the
functions in it. -/
def OuterFirst (document : Document) (tree : Tree) : Prop :=
  ∀ outer ∈ tree.walk, ∀ inner ∈ outer.descendants,
    ∀ p ∈ NullCheck.unguardedOf document.text.toArray outer,
      ∀ q ∈ NullCheck.unguardedOf document.text.toArray inner,
        (NullCheck.findingAt document p).line ≤ (NullCheck.findingAt document q).line

instance (document : Document) (tree : Tree) : Decidable (OuterFirst document tree) :=
  inferInstanceAs (Decidable (∀ outer ∈ tree.walk, ∀ inner ∈ outer.descendants,
    ∀ p ∈ NullCheck.unguardedOf document.text.toArray outer,
      ∀ q ∈ NullCheck.unguardedOf document.text.toArray inner,
        (NullCheck.findingAt document p).line ≤ (NullCheck.findingAt document q).line))

theorem inLineOrder_unguarded_iff {tree : Tree} (h : tree.isOrdered = true) :
    InLineOrder ((NullCheck.unguarded text.toList.toArray tree).map
        (NullCheck.findingAt (Document.ofText path text language))) ↔
      OuterFirst (Document.ofText path text language) tree := by
  rw [InLineOrder, List.pairwise_map]
  exact NullCheck.pairwise_unguarded_iff
    (fun hle => LineIndex.lineNumber_ofText_mono text.toList (Int.ofNat_le.mpr hle))
    text.toList.toArray h

/-- When the findings of a rule come in the order of their lines. Those of pattern rules and length
rules always do. A rule on syntax trees reports nothing or the unguarded parameters of the tree, and
these come in order, for a tree that lies in the text, exactly if no function in another one has
a parameter to report on an earlier line than a parameter to report of the other. -/
theorem inLineOrder_iff (parse : SyntaxReader) (runtime : Runtime) (path : Path) (text : String)
    (language : Option String) (rule : Rule) (findings : List Finding)
    (h : (evaluateRule (Document.ofText path text language) rule parse runtime).value =
      .ok findings) :
    (rule.kind ≠ .structural → InLineOrder findings) ∧
    (rule.kind = .structural → findings = [] ∨
      ∃ tree, (soundTreeOf (some path) text.toList parse).value = .ok tree ∧
        findings = (NullCheck.unguarded text.toList.toArray tree).map
          (NullCheck.findingAt (Document.ofText path text language)) ∧
        (tree.isOrdered = true →
          (InLineOrder findings ↔ OuterFirst (Document.ofText path text language) tree))) := by
  rw [Rule.kind]
  rw [evaluateRule] at h
  split at h
  · next source hcheck =>
    rw [hcheck]
    refine ⟨fun _ => inLineOrder_pattern h, fun hkind => ?_⟩
    cases hkind
  · next name hcheck =>
    rw [hcheck]
    refine ⟨fun hkind => absurd rfl hkind, fun _ => ?_⟩
    rcases structural_findings h with hnone | ⟨-, -, -, tree, htree, hfindings⟩
    · exact .inl hnone
    · refine .inr ⟨tree, htree, hfindings, fun hordered => ?_⟩
      rw [hfindings]
      exact inLineOrder_unguarded_iff hordered
  · next most hcheck =>
    rw [hcheck]
    obtain rfl := Except.ok.inj h
    refine ⟨fun _ => inLineOrder_fileLength _ rule most, fun hkind => ?_⟩
    cases hkind
  · next most hcheck =>
    rw [hcheck]
    obtain rfl := Except.ok.inj h
    refine ⟨fun _ => inLineOrder_lineLength _ rule most, fun hkind => ?_⟩
    cases hkind

open ArrowFunction (nullCheck)
open DefaultValue

/-- On one line all parameters are in order, although that of the function in the default value is
to the left of one that is reported before. -/
theorem inLineOrder_iff_on_one_line :
    tree.isOrdered = true ∧
      (reported ' ').map Finding.found = [some (.text "é"), some (.text "b"), some (.text "x")] ∧
      InLineOrder (reported ' ') := by
  have hordered : tree.isOrdered = true := by decide +kernel
  have hfound : (reported ' ').map Finding.found =
      [some (.text "é"), some (.text "b"), some (.text "x")] := by
    decide +kernel
  have houter : OuterFirst (Document.ofText file (source ' ') none) tree := by decide +kernel
  have hstructural := (inLineOrder_iff _ {} file (source ' ') none (nullCheck "C2") (reported ' ')
    (evaluateRule_eq ' ')).2 rfl
  rcases hstructural with hnone | ⟨other, htree, -, hiff⟩
  · rw [hnone] at hfound
    cases hfound
  · obtain rfl : tree = other := Except.ok.inj htree
    exact ⟨hordered, hfound, (hiff hordered).mpr houter⟩

/-- The parameter of the function in the default value is reported after that of the next line. -/
theorem default_value_breaks_line_order :
    tree.isOrdered = true ∧
      (evaluateRule (Document.ofText file (source '\r') none) (nullCheck "C2")
        (fun _ _ => tree)).value = .ok (reported '\r') ∧
      (reported '\r').map (fun f => (f.found, f.line)) =
        [(some (.text "é"), 1), (some (.text "b"), 2), (some (.text "x"), 1)] ∧
      ¬ InLineOrder (reported '\r') :=
  ⟨by decide +kernel, evaluateRule_eq '\r', by decide +kernel, by decide +kernel⟩

end Review

end ChecklistReview
