import ChecklistReview.Traversal
import Mathlib.Data.List.Sort

/-!
# The order of paths

Paths are compared name by name. This is the lexicographic order of their parts, so it is linear
on paths that start at the same place, and lists of such paths that are in strict order are
determined by their members.

## Main statements

* `compareParts_eq_lt_iff`: the comparison is the lexicographic order.
* `StrictlyOrdered.eq_of_mem_iff`: lists in strict order with the same members are equal.
* `strictlyOrdered_mergeSort`: sorting paths without repetition gives a list in strict order.
-/

namespace ChecklistReview.Path

theorem compareParts_eq_lt_iff (a b : List String) : compareParts a b = .lt ↔ a < b := by
  induction a generalizing b with
  | nil =>
    cases b with
    | nil => simp [compareParts]
    | cons y b => simp [compareParts]
  | cons x a ih =>
    cases b with
    | nil => simp [compareParts]
    | cons y b =>
      rw [compareParts, List.cons_lt_cons_iff]
      by_cases heq : x = y
      · simp [heq, ih]
      · by_cases hlt : x < y
        · simp [heq, hlt]
        · simp [heq, hlt]

theorem compareParts_eq_gt_iff (a b : List String) : compareParts a b = .gt ↔ b < a := by
  induction a generalizing b with
  | nil =>
    cases b with
    | nil => simp [compareParts]
    | cons y b => simp [compareParts]
  | cons x a ih =>
    cases b with
    | nil => simp [compareParts]
    | cons y b =>
      rw [compareParts, List.cons_lt_cons_iff]
      by_cases heq : x = y
      · simp [heq, ih]
      · by_cases hlt : x < y
        · simp [heq, hlt, Ne.symm heq, String.lt_asymm hlt]
        · have hgt : y < x := by
            by_contra hge
            exact heq (String.le_antisymm (String.not_lt.mp hge) (String.not_lt.mp hlt))
          simp [heq, hlt, hgt]

/-- A list of paths in strict order. -/
def StrictlyOrdered (paths : List Path) : Prop := paths.Pairwise fun p q => p.compare q = .lt

/-- Lists in strict order with the same members are equal. -/
theorem StrictlyOrdered.eq_of_mem_iff {a b : List Path} (ha : StrictlyOrdered a)
    (hb : StrictlyOrdered b) (h : ∀ p, p ∈ a ↔ p ∈ b) : a = b := by
  have hirrefl : Std.Irrefl fun p q : Path => p.compare q = .lt := by
    constructor
    intro p hp
    exact List.lt_irrefl p.parts ((compareParts_eq_lt_iff _ _).mp hp)
  have hantisymm : Std.Antisymm fun p q : Path => p.compare q = .lt := by
    constructor
    intro p q hpq hqp
    have hlt := (compareParts_eq_lt_iff _ _).mp hpq
    exact absurd ((compareParts_eq_lt_iff _ _).mp hqp) (List.lt_asymm hlt)
  exact List.Pairwise.eq_of_mem_iff ha hb h

theorem StrictlyOrdered.filter {paths : List Path} (h : StrictlyOrdered paths)
    (test : Path → Bool) : StrictlyOrdered (paths.filter test) :=
  List.Pairwise.filter test h

theorem inOrder_iff (p q : Path) : Traversal.inOrder p q = true ↔ ¬ q.parts < p.parts := by
  rw [Traversal.inOrder, decide_eq_true_eq, ne_eq, Path.compare, compareParts_eq_gt_iff]

/-- Different paths that start at the same place are in strict order if they are in order. -/
theorem compare_eq_lt_of_inOrder {p q : Path} (hanchor : p.anchor = q.anchor) (hne : p ≠ q)
    (h : Traversal.inOrder p q = true) : p.compare q = .lt := by
  have hparts : p.parts ≠ q.parts := by
    intro heq
    apply hne
    obtain ⟨anchor, names⟩ := p
    obtain ⟨anchor', names'⟩ := q
    obtain rfl : anchor = anchor' := hanchor
    cases anchor <;> simp_all [parts]
  rw [Path.compare, compareParts_eq_lt_iff]
  by_contra hge
  exact hparts (List.le_antisymm ((inOrder_iff p q).mp h) hge)

/-- Paths that start at the same place, none of them twice, are put in strict order. -/
theorem strictlyOrdered_mergeSort {paths : List Path} (anchor : Anchor)
    (hanchor : ∀ p ∈ paths, p.anchor = anchor) (hnodup : paths.Nodup) :
    StrictlyOrdered (paths.mergeSort Traversal.inOrder) := by
  have hordered : (paths.mergeSort Traversal.inOrder).Pairwise
      fun p q => Traversal.inOrder p q = true := by
    apply List.pairwise_mergeSort
    · intro p q r hpq hqr
      rw [inOrder_iff] at *
      exact List.le_trans hpq hqr
    · intro p q
      rw [Bool.or_eq_true, inOrder_iff, inOrder_iff]
      exact List.le_total p.parts q.parts
  have hdistinct : (paths.mergeSort Traversal.inOrder).Nodup :=
    (List.mergeSort_perm paths Traversal.inOrder).nodup_iff.mpr hnodup
  have hboth := hordered.and hdistinct
  apply hboth.imp_of_mem
  intro p q hp hq h
  have hp := hanchor p (List.mem_mergeSort.mp hp)
  have hq := hanchor q (List.mem_mergeSort.mp hq)
  exact compare_eq_lt_of_inOrder (hp.trans hq.symm) h.2 h.1

end ChecklistReview.Path
