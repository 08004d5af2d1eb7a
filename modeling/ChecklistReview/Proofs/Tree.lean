import ChecklistReview.Tree
import Mathlib.Data.List.Pairwise

/-!
# Syntax trees in a text

The nodes of a syntax tree cover parts of a text. In an ordered tree a node covers what the nodes
below it cover, and nodes next to each other follow each other in the text. Walking such a tree
meets a node before those below it, and otherwise the nodes from left to right.

## Main statements

* `Tree.isOrdered`: the tree lies in the text as its nodes say.
* `Tree.extent_of_mem_walk`: what a node below covers.
* `Tree.pairwise_walk_iff`: a relation that holds from left to right holds along a walk exactly if
  it holds between each node and those below it.
-/

namespace ChecklistReview.Tree

-- ════════════════════════════════════════════════════════════════════════
-- Walking
-- ════════════════════════════════════════════════════════════════════════

/-- The nodes below a node, in document order. -/
def descendants (t : Tree) : List Tree := walkAll t.children

theorem walk_eq (t : Tree) : t.walk = t :: t.descendants := by
  cases t with
  | node l cs => rw [walk, descendants, children]

theorem walkAll_eq_flatMap (ts : List Tree) : walkAll ts = ts.flatMap walk := by
  induction ts with
  | nil => rw [walkAll, List.flatMap_nil]
  | cons t ts ih => rw [walkAll, ih, List.flatMap_cons]

theorem mem_walk_iff {s t : Tree} : s ∈ t.walk ↔ s = t ∨ s ∈ t.descendants := by
  rw [walk_eq, List.mem_cons]

theorem mem_descendants_iff {s t : Tree} : s ∈ t.descendants ↔ ∃ c ∈ t.children, s ∈ c.walk := by
  rw [descendants, walkAll_eq_flatMap, List.mem_flatMap]

theorem mem_walk_self (t : Tree) : t ∈ t.walk := mem_walk_iff.mpr (.inl rfl)

theorem mem_walk_of_mem_children {s c t : Tree} (hc : c ∈ t.children) (hs : s ∈ c.walk) :
    s ∈ t.walk :=
  mem_walk_iff.mpr (.inr (mem_descendants_iff.mpr ⟨c, hc, hs⟩))

/-- Induction over a tree: what holds of a node if it holds of its children holds of every tree. -/
theorem child_induction {motive : Tree → Prop}
    (node : ∀ l cs, (∀ c ∈ cs, motive c) → motive (.node l cs)) (t : Tree) : motive t :=
  match t with
  | .node l cs => node l cs fun c _ => child_induction node c
termination_by sizeOf t
decreasing_by
  have := List.sizeOf_lt_of_mem ‹c ∈ cs›
  simp only [Tree.node.sizeOf_spec]
  omega

theorem mem_walk_trans {r s t : Tree} (hs : s ∈ t.walk) (hr : r ∈ s.walk) : r ∈ t.walk := by
  induction t using child_induction with
  | node l cs ih =>
    rcases mem_walk_iff.mp hs with rfl | hs
    · exact hr
    · obtain ⟨c, hc, hs⟩ := mem_descendants_iff.mp hs
      exact mem_walk_of_mem_children hc (ih c hc hs)

-- ════════════════════════════════════════════════════════════════════════
-- Trees that lie in a text
-- ════════════════════════════════════════════════════════════════════════

mutual

/-- Whether the nodes of a tree cover parts of a text as the tree says. -/
def isOrdered : Tree → Bool
  | .node l cs => areOrdered l.start l.stop cs

/-- Whether trees follow each other between two offsets. -/
def areOrdered (first last : Nat) : List Tree → Bool
  | [] => first ≤ last
  | t :: ts => first ≤ t.label.start && t.isOrdered && areOrdered t.label.stop last ts

end

theorem areOrdered_cons {first last : Nat} {t : Tree} {ts : List Tree} :
    areOrdered first last (t :: ts) = true ↔
      first ≤ t.label.start ∧ t.isOrdered = true ∧ areOrdered t.label.stop last ts = true := by
  rw [areOrdered, Bool.and_eq_true, Bool.and_eq_true, decide_eq_true_iff, and_assoc]

theorem areOrdered_children {t : Tree} (h : t.isOrdered = true) :
    areOrdered t.label.start t.label.stop t.children = true := by
  cases t with
  | node l cs => rwa [isOrdered] at h

mutual

theorem start_le_stop {t : Tree} (h : t.isOrdered = true) : t.label.start ≤ t.label.stop := by
  match t with
  | .node l cs => exact first_le_last (areOrdered_children h)

theorem first_le_last {first last : Nat} {ts : List Tree} (h : areOrdered first last ts = true) :
    first ≤ last := by
  match ts with
  | [] => simpa [areOrdered] using h
  | t :: ts =>
    obtain ⟨hfirst, ht, hts⟩ := areOrdered_cons.mp h
    have hstop := start_le_stop ht
    have hlast := first_le_last hts
    omega

end

/-- Trees that follow each other lie between the two offsets, and each is ordered. -/
theorem extent_of_mem {first last : Nat} {ts : List Tree} (h : areOrdered first last ts = true)
    {t : Tree} (ht : t ∈ ts) :
    first ≤ t.label.start ∧ t.label.stop ≤ last ∧ t.isOrdered = true := by
  induction ts generalizing first with
  | nil => simp at ht
  | cons s ts ih =>
    obtain ⟨hfirst, hs, hts⟩ := areOrdered_cons.mp h
    have hstop := start_le_stop hs
    rcases List.mem_cons.mp ht with rfl | ht
    · exact ⟨hfirst, first_le_last hts, hs⟩
    · obtain ⟨hstart, hlast, hordered⟩ := ih hts ht
      exact ⟨by omega, hlast, hordered⟩

/-- Trees that follow each other do so also at a distance. -/
theorem pairwise_of_areOrdered {first last : Nat} {ts : List Tree}
    (h : areOrdered first last ts = true) :
    ts.Pairwise fun s t => s.label.stop ≤ t.label.start := by
  induction ts generalizing first with
  | nil => exact List.Pairwise.nil
  | cons s ts ih =>
    obtain ⟨-, -, hts⟩ := areOrdered_cons.mp h
    exact List.Pairwise.cons (fun t ht => (extent_of_mem hts ht).1) (ih hts)

/-- A node of an ordered tree covers a part of what the tree covers, and is ordered. -/
theorem extent_of_mem_walk {s t : Tree} (ht : t.isOrdered = true) (hs : s ∈ t.walk) :
    t.label.start ≤ s.label.start ∧ s.label.stop ≤ t.label.stop ∧ s.isOrdered = true := by
  induction t using child_induction with
  | node l cs ih =>
    rcases mem_walk_iff.mp hs with rfl | hs
    · exact ⟨Nat.le_refl _, Nat.le_refl _, ht⟩
    · obtain ⟨c, hc, hs⟩ := mem_descendants_iff.mp hs
      obtain ⟨hstart, hstop, hordered⟩ := extent_of_mem (areOrdered_children ht) hc
      have hwithin := ih c hc hordered hs
      exact ⟨by omega, by omega, hwithin.2.2⟩

/-- A relation that holds from left to right holds along the walk of an ordered tree exactly if it
holds between each node and those below it. -/
theorem pairwise_walk_iff {R : Tree → Tree → Prop}
    (hright : ∀ s t, s.label.stop ≤ t.label.start → s.isOrdered = true → t.isOrdered = true → R s t)
    {t : Tree} (ht : t.isOrdered = true) :
    t.walk.Pairwise R ↔ ∀ outer ∈ t.walk, ∀ inner ∈ outer.descendants, R outer inner := by
  induction t using child_induction with
  | node l cs ih =>
    have hchildren := areOrdered_children ht
    -- Nodes below different children follow each other, so only single children are left.
    have hacross : cs.Pairwise fun c d => ∀ a ∈ c.walk, ∀ b ∈ d.walk, R a b := by
      refine (pairwise_of_areOrdered hchildren).imp_of_mem fun {c d} hc hd hcd a ha b hb => ?_
      have hca := extent_of_mem_walk (extent_of_mem hchildren hc).2.2 ha
      have hdb := extent_of_mem_walk (extent_of_mem hchildren hd).2.2 hb
      exact hright a b (by omega) hca.2.2 hdb.2.2
    have hwithin : ∀ c ∈ cs, c.walk.Pairwise R ↔
        ∀ outer ∈ c.walk, ∀ inner ∈ outer.descendants, R outer inner := by
      intro c hc
      exact ih c hc (extent_of_mem hchildren hc).2.2
    rw [walk_eq, List.pairwise_cons]
    constructor
    · rintro ⟨hroot, hbelow⟩ outer houter inner hinner
      rw [descendants, walkAll_eq_flatMap, List.pairwise_flatMap] at hbelow
      rcases List.mem_cons.mp houter with rfl | houter
      · exact hroot inner hinner
      · obtain ⟨c, hc, houter⟩ := mem_descendants_iff.mp houter
        exact (hwithin c hc).mp (hbelow.1 c hc) outer houter inner hinner
    · intro h
      refine ⟨h _ List.mem_cons_self, ?_⟩
      rw [descendants, walkAll_eq_flatMap, List.pairwise_flatMap]
      refine ⟨fun c hc => (hwithin c hc).mpr fun outer houter => ?_, hacross⟩
      exact h outer (List.mem_cons_of_mem _ (mem_descendants_iff.mpr ⟨c, hc, houter⟩))

end ChecklistReview.Tree
