import ChecklistReview.Proofs.Tree
import Mathlib.Data.List.Sort

/-!
# Positions in a tree

Two nodes of a tree may look the same, so a node is told apart by where it is: the numbers of the
children on the way from the root to it. Positions are compared as lists, which is the order in
which a walk meets the nodes: a node before those below it, and otherwise from left to right.

## Main statements

* `Tree.at?`: the node at a position.
* `Tree.map_at?_positions`, `Tree.pairwise_positions`: a walk meets the nodes in the order of their
  positions, each once.
* `Tree.IsUnder`: the first child under a field, by its number.
* `Tree.Located`: nodes by their positions.
* `Tree.exists_located_children`: what is found below each child, by positions.
-/

namespace ChecklistReview.Tree

/-- The node at a position. -/
def at? : Tree → List Nat → Option Tree
  | t, [] => some t
  | t, i :: position => t.children[i]?.bind fun c => c.at? position

theorem at?_nil (t : Tree) : t.at? [] = some t := rfl

theorem at?_cons (t : Tree) (i : Nat) (position : List Nat) :
    t.at? (i :: position) = t.children[i]?.bind fun c => c.at? position := rfl

theorem at?_append (t : Tree) (p q : List Nat) :
    t.at? (p ++ q) = (t.at? p).bind fun s => s.at? q := by
  induction p generalizing t with
  | nil => rfl
  | cons i p ih =>
    rw [List.cons_append, at?_cons, at?_cons, Option.bind_assoc]
    congr 1
    funext c
    exact ih c

-- ════════════════════════════════════════════════════════════════════════
-- The positions of a walk
-- ════════════════════════════════════════════════════════════════════════

mutual

/-- The positions of a tree, in document order. -/
def positions : Tree → List (List Nat)
  | .node _ cs => [] :: positionsFrom 0 cs

/-- The positions of the children from a number on. -/
def positionsFrom (first : Nat) : List Tree → List (List Nat)
  | [] => []
  | t :: ts => t.positions.map (first :: ·) ++ positionsFrom (first + 1) ts

end

theorem positions_eq (t : Tree) : t.positions = [] :: positionsFrom 0 t.children := by
  cases t with
  | node l cs => rw [positions, children]

theorem mem_positionsFrom_iff {first : Nat} {ts : List Tree} {p : List Nat} :
    p ∈ positionsFrom first ts ↔
      ∃ i c q, ts[i]? = some c ∧ q ∈ c.positions ∧ p = (first + i) :: q := by
  induction ts generalizing first with
  | nil => simp [positionsFrom]
  | cons t ts ih =>
    rw [positionsFrom, List.mem_append, List.mem_map, ih]
    constructor
    · rintro (⟨q, hq, rfl⟩ | ⟨i, c, q, hc, hq, rfl⟩)
      · exact ⟨0, t, q, rfl, hq, rfl⟩
      · exact ⟨i + 1, c, q, hc, hq, by rw [Nat.add_right_comm, Nat.add_assoc]⟩
    · rintro ⟨i, c, q, hc, hq, rfl⟩
      cases i with
      | zero =>
        obtain rfl := Option.some.inj hc
        exact .inl ⟨q, hq, rfl⟩
      | succ i => exact .inr ⟨i, c, q, hc, hq, by rw [Nat.add_right_comm, Nat.add_assoc]⟩

theorem mem_positions_iff {t : Tree} {p : List Nat} : p ∈ t.positions ↔ ∃ s, t.at? p = some s := by
  induction p generalizing t with
  | nil => simp [positions_eq, at?_nil]
  | cons i p ih =>
    have hcons : i :: p ∈ t.positions ↔ i :: p ∈ positionsFrom 0 t.children := by
      simp [positions_eq]
    rw [hcons, mem_positionsFrom_iff, at?_cons]
    constructor
    · rintro ⟨j, c, q, hc, hq, heq⟩
      rw [Nat.zero_add] at heq
      obtain ⟨rfl, rfl⟩ := List.cons.inj heq
      obtain ⟨s, hs⟩ := ih.mp hq
      exact ⟨s, by rw [hc, Option.bind_some, hs]⟩
    · rintro ⟨s, hs⟩
      obtain ⟨c, hc, hs⟩ := Option.bind_eq_some_iff.mp hs
      exact ⟨i, c, p, hc, ih.mpr ⟨s, hs⟩, by rw [Nat.zero_add]⟩

theorem pairwise_positions (t : Tree) : t.positions.Pairwise (· < ·) := by
  induction t using child_induction with
  | node l cs ih =>
    -- Positions below one child are in order by induction, and those below a later child start
    -- with a greater number.
    have hfrom : ∀ first ts, (∀ c ∈ ts, c.positions.Pairwise (· < ·)) →
        (positionsFrom first ts).Pairwise (· < ·) := by
      intro first ts hts
      induction ts generalizing first with
      | nil => exact List.Pairwise.nil
      | cons t ts ihts =>
        rw [positionsFrom, List.pairwise_append]
        refine ⟨?_, ihts _ fun c hc => hts c (List.mem_cons_of_mem _ hc), ?_⟩
        · rw [List.pairwise_map]
          refine (hts t List.mem_cons_self).imp fun hpq => ?_
          exact List.Lex.cons hpq
        · intro p hp q hq
          obtain ⟨p, -, rfl⟩ := List.mem_map.mp hp
          obtain ⟨i, c, q, -, -, rfl⟩ := mem_positionsFrom_iff.mp hq
          exact List.Lex.rel (by omega)
    rw [positions, List.pairwise_cons]
    refine ⟨fun p hp => ?_, hfrom 0 cs ih⟩
    obtain ⟨i, c, q, -, -, rfl⟩ := mem_positionsFrom_iff.mp hp
    exact List.Lex.nil

/-- A walk meets the nodes in the order of their positions. -/
theorem map_at?_positions (t : Tree) : t.positions.map t.at? = t.walk.map some := by
  induction t using child_induction with
  | node l cs ih =>
    have hfrom : ∀ first ts, cs.drop first = ts →
        (positionsFrom first ts).map (Tree.node l cs).at? = (walkAll ts).map some := by
      intro first ts hts
      induction ts generalizing first with
      | nil => rw [positionsFrom, walkAll, List.map_nil, List.map_nil]
      | cons t ts ihts =>
        have hget : cs[first]? = some t := by
          rw [← List.head?_drop, hts, List.head?_cons]
        have hrest : cs.drop (first + 1) = ts := by
          rw [← List.tail_drop, hts, List.tail_cons]
        rw [positionsFrom, walkAll, List.map_append, List.map_append, ihts _ hrest, List.map_map]
        congr 1
        rw [← ih t (List.mem_of_getElem? hget)]
        refine List.map_congr_left fun p _ => ?_
        simp only [Function.comp_apply, at?_cons, children, hget, Option.bind_some]
    rw [positions, List.map_cons, walk_eq, List.map_cons, at?_nil, hfrom 0 cs List.drop_zero]
    rfl

-- ════════════════════════════════════════════════════════════════════════
-- Children under a field
-- ════════════════════════════════════════════════════════════════════════

/-- A child is the first one under a field. -/
structure IsUnder (t : Tree) (field : String) (i : Nat) (c : Tree) : Prop where
  child : t.children[i]? = some c
  field_eq : c.label.field = some field
  first : ∀ j < i, ∀ d, t.children[j]? = some d → d.label.field ≠ some field

theorem IsUnder.at? {t c : Tree} {field : String} {i : Nat} (h : t.IsUnder field i c) :
    t.at? [i] = some c := by
  rw [at?_cons, h.child, Option.bind_some, at?_nil]

theorem IsUnder.unique {t c d : Tree} {field : String} {i j : Nat} (hc : t.IsUnder field i c)
    (hd : t.IsUnder field j d) : i = j ∧ c = d := by
  have hij : ¬i < j := fun hlt => hd.first i hlt c hc.child hc.field_eq
  have hji : ¬j < i := fun hlt => hc.first j hlt d hd.child hd.field_eq
  obtain rfl : i = j := by omega
  exact ⟨rfl, Option.some.inj (hc.child.symm.trans hd.child)⟩

theorem child?_eq_some_iff {t c : Tree} {field : String} :
    t.child? field = some c ↔ ∃ i, t.IsUnder field i c := by
  rw [child?, List.find?_eq_some_iff_getElem]
  constructor
  · rintro ⟨hfield, i, hi, hc, hbefore⟩
    refine ⟨i, ?_, of_decide_eq_true hfield, fun j hj d hd => ?_⟩
    · rw [List.getElem?_eq_getElem hi, hc]
    · obtain ⟨hlt, rfl⟩ := List.getElem?_eq_some_iff.mp hd
      simpa using hbefore j hj
  · rintro ⟨i, hchild, hfield, hfirst⟩
    obtain ⟨hlt, hc⟩ := List.getElem?_eq_some_iff.mp hchild
    refine ⟨decide_eq_true hfield, i, hlt, hc, fun j hj => ?_⟩
    have := hfirst j hj _ (List.getElem?_eq_getElem (Nat.lt_trans hj hlt))
    simpa using this

theorem child?_eq_none_iff {t : Tree} {field : String} :
    t.child? field = none ↔ ∀ i c, ¬t.IsUnder field i c := by
  constructor
  · intro h i c hc
    rw [child?_eq_some_iff.mpr ⟨i, hc⟩] at h
    cases h
  · intro h
    cases hchild : t.child? field with
    | none => rfl
    | some c =>
      obtain ⟨i, hc⟩ := child?_eq_some_iff.mp hchild
      exact absurd hc (h i c)

-- ════════════════════════════════════════════════════════════════════════
-- Nodes by their positions
-- ════════════════════════════════════════════════════════════════════════

/-- Positions in order, which are all those of a kind, and the nodes at them. -/
structure Located (t : Tree) (IsIn : List Nat → Prop) (positions : List (List Nat))
    (nodes : List Tree) : Prop where
  ordered : positions.Pairwise (· < ·)
  mem_iff : ∀ q, q ∈ positions ↔ IsIn q
  map_at? : positions.map t.at? = nodes.map some

theorem Located.nil {t : Tree} {IsIn : List Nat → Prop} (h : ∀ q, ¬IsIn q) :
    Located t IsIn [] [] :=
  ⟨.nil, fun q => iff_of_false (by simp) (h q), rfl⟩

/-- Among the located nodes those that pass a test are located too. -/
theorem Located.filter {t : Tree} {IsIn : List Nat → Prop} {qs : List (List Nat)}
    {nodes : List Tree} (h : Located t IsIn qs nodes) (test : Tree → Bool) :
    Located t (fun q => IsIn q ∧ ∃ c, t.at? q = some c ∧ test c = true)
      (qs.filter fun q => (t.at? q).any test) (nodes.filter test) := by
  refine ⟨h.ordered.filter _, fun q => ?_, ?_⟩
  · rw [List.mem_filter, h.mem_iff, Option.any_eq_true]
  · have hfilter := congrArg (List.filter (Option.any test)) h.map_at?
    rwa [List.filter_map, List.filter_map] at hfilter

/-- Nodes below a child are located below the node. -/
theorem Located.below {t c : Tree} {IsIn : List Nat → Prop} {qs : List (List Nat)}
    {nodes : List Tree} (h : Located c IsIn qs nodes) {i : Nat} (hc : t.children[i]? = some c) :
    Located t (fun q => ∃ path, IsIn path ∧ q = i :: path) (qs.map (i :: ·)) nodes := by
  refine ⟨?_, fun q => ?_, ?_⟩
  · rw [List.pairwise_map]
    exact h.ordered.imp fun hlt => List.Lex.cons hlt
  · rw [List.mem_map]
    constructor
    · rintro ⟨path, hpath, rfl⟩
      exact ⟨path, (h.mem_iff path).mp hpath, rfl⟩
    · rintro ⟨path, hpath, rfl⟩
      exact ⟨path, (h.mem_iff path).mpr hpath, rfl⟩
  · rw [List.map_map, ← h.map_at?]
    refine List.map_congr_left fun q _ => ?_
    rw [Function.comp_apply, at?_cons, hc, Option.bind_some]

section Children

variable (find : Tree → Option Tree) (IsFound : Tree → List Nat → Tree → Prop)
  (hfind : ∀ t c, find t = some c ↔ ∃ path, IsFound t path c)
  (hunique : ∀ {t c d p q}, IsFound t p c → IsFound t q d → p = q)
  (hat : ∀ {t c p}, IsFound t p c → t.at? p = some c)

include hfind hunique hat

theorem exists_located_childrenFrom (t : Tree) {first : Nat} {ts : List Tree}
    (hts : t.children.drop first = ts) :
    ∃ qs, Located t (fun q => ∃ j s path c, first ≤ j ∧ t.children[j]? = some s ∧
      IsFound s path c ∧ q = j :: path) qs (ts.filterMap find) := by
  induction ts generalizing first with
  | nil =>
    refine ⟨[], .nil ?_⟩
    rintro q ⟨j, s, path, c, hle, hj, -⟩
    obtain ⟨hlt, -⟩ := List.getElem?_eq_some_iff.mp hj
    have hlength := List.drop_eq_nil_iff.mp hts
    omega
  | cons s ts ih =>
    have hget : t.children[first]? = some s := by
      rw [← List.head?_drop, hts, List.head?_cons]
    have hrest : t.children.drop (first + 1) = ts := by
      rw [← List.tail_drop, hts, List.tail_cons]
    obtain ⟨qs, hqs⟩ := ih hrest
    -- The child adds a position in front, or nothing.
    have hsplit : ∀ q, (∃ j s path c, first ≤ j ∧ t.children[j]? = some s ∧ IsFound s path c ∧
        q = j :: path) ↔ (∃ path c, IsFound s path c ∧ q = first :: path) ∨ q ∈ qs := by
      intro q
      rw [hqs.mem_iff]
      constructor
      · rintro ⟨j, s', path, c, hle, hj, hfound, rfl⟩
        rcases Nat.eq_or_lt_of_le hle with rfl | hlt
        · obtain rfl := Option.some.inj (hget.symm.trans hj)
          exact .inl ⟨path, c, hfound, rfl⟩
        · exact .inr ⟨j, s', path, c, hlt, hj, hfound, rfl⟩
      · rintro (⟨path, c, hfound, rfl⟩ | ⟨j, s', path, c, hlt, h⟩)
        · exact ⟨first, s, path, c, Nat.le_refl _, hget, hfound, rfl⟩
        · exact ⟨j, s', path, c, Nat.le_of_succ_le hlt, h⟩
    cases hs : find s with
    | some c =>
      obtain ⟨path, hfound⟩ := (hfind s c).mp hs
      refine ⟨(first :: path) :: qs, .cons (fun q hq => ?_) hqs.ordered, fun q => ?_, ?_⟩
      · obtain ⟨j, s', path', c', hlt, -, -, rfl⟩ := (hqs.mem_iff q).mp hq
        exact List.Lex.rel hlt
      · rw [hsplit, List.mem_cons]
        refine or_congr_left ⟨?_, ?_⟩
        · rintro rfl
          exact ⟨path, c, hfound, rfl⟩
        · rintro ⟨path', c', hfound', rfl⟩
          rw [hunique hfound' hfound]
      · rw [List.filterMap_cons_some hs, List.map_cons, List.map_cons, hqs.map_at?, at?_cons,
          hget, Option.bind_some, hat hfound]
    | none =>
      refine ⟨qs, hqs.ordered, fun q => ?_, ?_⟩
      · rw [hsplit]
        refine (or_iff_right ?_).symm
        rintro ⟨path, c, hfound, -⟩
        rw [(hfind s c).mpr ⟨path, hfound⟩] at hs
        cases hs
      · rw [List.filterMap_cons_none hs, hqs.map_at?]

/-- What is found below the children, one after another, if below each there is at most one. -/
theorem exists_located_children (t : Tree) :
    ∃ qs, Located t (fun q => ∃ j s path c, t.children[j]? = some s ∧ IsFound s path c ∧
      q = j :: path) qs (t.children.filterMap find) := by
  obtain ⟨qs, hqs⟩ := exists_located_childrenFrom find IsFound hfind hunique hat t (List.drop_zero)
  simp only [Nat.zero_le, true_and] at hqs
  exact ⟨qs, hqs⟩

end Children

end ChecklistReview.Tree
