import ChecklistReview.NullCheck
import ChecklistReview.Proofs.Tree.Position
import Mathlib.Data.List.Sort

/-!
# Unguarded parameters

Which parameters are reported is said here node by node, with nodes told apart by their positions:
the parameter belongs to a function that is checked and has a body, it has a single name, and no
`if` at any depth of the body has a condition that guards the name. The reported nodes are those of
all such parameters, function by function in document order and within a function in the order of
declaration, each once.

## Main statements

* `IsUnguarded`: the parameter at a position is unguarded.
* `isGuarded_iff`: the search in a body finds a guard exactly if there is one.
* `exists_located_unguardedOf`: where the unguarded parameters of a function are.
* `exists_isReport`: the reported nodes are those of all unguarded parameters, in order.
-/

namespace ChecklistReview.NullCheck

-- ════════════════════════════════════════════════════════════════════════
-- What is to be reported
-- ════════════════════════════════════════════════════════════════════════

/-- The function is one whose parameters are checked: neither a constructor nor an accessor. -/
structure IsCheckedFunction (source : Array Char) (function : Tree) : Prop where
  isNamed : function.label.isNamed = true
  kind_mem : function.kind ∈ functionKinds
  not_constructor : function.kind = "method_definition" →
    ∀ i name, function.IsUnder "name" i name → textOf source name ≠ "constructor".toList
  not_accessor : function.kind = "method_definition" →
    ∀ c ∈ function.children, c.label.isNamed = false → c.kind ≠ "get" ∧ c.kind ≠ "set"

/-- The identifier that is the single name of a parameter, by its position in the parameter. -/
inductive IsSimpleName : Tree → List Nat → Tree → Prop
  | identifier {t : Tree} (h : t.kind = "identifier") : IsSimpleName t [] t
  | pattern {t c : Tree} {i : Nat}
    (h : t.kind = "required_parameter" ∨ t.kind = "optional_parameter")
    (hc : t.IsUnder "pattern" i c) (hkind : c.kind = "identifier") : IsSimpleName t [i] c
  | left {t c : Tree} {i : Nat} (h : t.kind = "assignment_pattern") (hc : t.IsUnder "left" i c)
    (hkind : c.kind = "identifier") : IsSimpleName t [i] c

/-- The identifier of a parameter of a function, by its position in the function: the only
parameter of a function without a list, or one of the list. -/
inductive IsParameter : Tree → List Nat → Tree → Prop
  | single {function c : Tree} {i : Nat} (hc : function.IsUnder "parameter" i c)
    (hkind : c.kind = "identifier") : IsParameter function [i] c
  | listed {function list parameter c : Tree} {i j : Nat} {path : List Nat}
    (hnone : ∀ k d, ¬function.IsUnder "parameter" k d)
    (hlist : function.IsUnder "parameters" i list) (hj : list.children[j]? = some parameter)
    (hnamed : parameter.label.isNamed = true) (hname : IsSimpleName parameter path c) :
    IsParameter function (i :: j :: path) c

/-- Some `if` at or below a node has a condition that guards the name. -/
def HasGuard (source : Array Char) (name : List Char) (t : Tree) : Prop :=
  ∃ p node i condition, t.at? p = some node ∧ node.kind = "if_statement" ∧
    node.IsUnder "condition" i condition ∧ Guard.isIn name (textOf source condition) = true

/-- A parameter and its function, by their positions. -/
structure Site where
  function : List Nat
  parameter : List Nat

/-- A function comes before another in the document, or a parameter before another one of the same
function. -/
def Site.Before (a b : Site) : Prop :=
  a.function < b.function ∨ a.function = b.function ∧ a.parameter < b.parameter

/-- The identifier at a position in a function is the name of an unguarded parameter. -/
def IsUnguardedIn (source : Array Char) (function : Tree) (q : List Nat) : Prop :=
  IsCheckedFunction source function ∧
    ∃ i body c, function.IsUnder "body" i body ∧ IsParameter function q c ∧
      ¬HasGuard source (textOf source c) body

/-- A site is that of an unguarded parameter. -/
def IsUnguarded (source : Array Char) (tree : Tree) (s : Site) : Prop :=
  ∃ function q, tree.at? s.function = some function ∧ s.parameter = s.function ++ q ∧
    IsUnguardedIn source function q

-- ════════════════════════════════════════════════════════════════════════
-- What the parts of the search decide
-- ════════════════════════════════════════════════════════════════════════

theorem isPlainMethod_iff {source : Array Char} {method : Tree} :
    isPlainMethod source method = true ↔
      (∀ i name, method.IsUnder "name" i name → textOf source name ≠ "constructor".toList) ∧
        ∀ c ∈ method.children, c.label.isNamed = false → c.kind ≠ "get" ∧ c.kind ≠ "set" := by
  rw [isPlainMethod, Bool.and_eq_true, Bool.not_eq_true', Bool.not_eq_true']
  refine and_congr ?_ ?_
  · constructor
    · intro h i name hname heq
      rw [Tree.child?_eq_some_iff.mpr ⟨i, hname⟩, Option.any_some, decide_eq_false_iff_not] at h
      exact h heq
    · intro h
      cases hchild : method.child? "name" with
      | none => rfl
      | some name =>
        obtain ⟨i, hname⟩ := Tree.child?_eq_some_iff.mp hchild
        exact decide_eq_false (h i name hname)
  · rw [List.any_eq_false]
    refine forall₂_congr fun c _ => ?_
    cases c.label.isNamed <;> simp

theorem isChecked_iff {source : Array Char} {function : Tree} :
    isChecked source function = true ↔ IsCheckedFunction source function := by
  rw [isChecked, isFunction, Bool.and_eq_true, Bool.and_eq_true, Bool.or_eq_true,
    isPlainMethod_iff, decide_eq_true_eq, decide_eq_true_eq]
  constructor
  · rintro ⟨⟨hnamed, hkind⟩, hmethod⟩
    refine ⟨hnamed, hkind, fun h => ?_, fun h => ?_⟩
    · exact (hmethod.resolve_left fun hne => hne h).1
    · exact (hmethod.resolve_left fun hne => hne h).2
  · rintro ⟨hnamed, hkind, hconstructor, haccessor⟩
    refine ⟨⟨hnamed, hkind⟩, ?_⟩
    by_cases h : function.kind = "method_definition"
    · exact .inr ⟨hconstructor h, haccessor h⟩
    · exact .inl h

theorem guardsHere_iff {source : Array Char} {name : List Char} {t : Tree} :
    guardsHere source name t = true ↔ t.kind = "if_statement" ∧
      ∃ i condition, t.IsUnder "condition" i condition ∧
        Guard.isIn name (textOf source condition) = true := by
  rw [guardsHere, Bool.and_eq_true, decide_eq_true_eq, Option.any_eq_true]
  refine and_congr_right fun _ => ?_
  constructor
  · rintro ⟨condition, hcondition, hguard⟩
    obtain ⟨i, hi⟩ := Tree.child?_eq_some_iff.mp hcondition
    exact ⟨i, condition, hi, hguard⟩
  · rintro ⟨i, condition, hi, hguard⟩
    exact ⟨condition, Tree.child?_eq_some_iff.mpr ⟨i, hi⟩, hguard⟩

theorem isGuardedAmong_iff {source : Array Char} {name : List Char} {ts : List Tree} :
    isGuardedAmong source name ts = true ↔ ∃ t ∈ ts, isGuarded source name t = true := by
  induction ts with
  | nil => simp [isGuardedAmong]
  | cons t ts ih => rw [isGuardedAmong, Bool.or_eq_true, ih, List.exists_mem_cons_iff]

/-- The search finds a guard exactly if there is one at some depth. -/
theorem isGuarded_iff {source : Array Char} {name : List Char} {t : Tree} :
    isGuarded source name t = true ↔ HasGuard source name t := by
  induction t using Tree.child_induction with
  | node l cs ih =>
    rw [isGuarded, Bool.or_eq_true, guardsHere_iff, isGuardedAmong_iff]
    constructor
    · rintro (⟨hkind, i, condition, hi, hguard⟩ | ⟨c, hc, hguard⟩)
      · exact ⟨[], _, i, condition, Tree.at?_nil _, hkind, hi, hguard⟩
      · obtain ⟨p, node, i, condition, hp, hnode⟩ := (ih c hc).mp hguard
        obtain ⟨j, hj⟩ := List.getElem?_of_mem hc
        refine ⟨j :: p, node, i, condition, ?_, hnode⟩
        rw [Tree.at?_cons, Tree.children, hj, Option.bind_some, hp]
    · rintro ⟨p, node, i, condition, hp, hkind, hi, hguard⟩
      cases p with
      | nil =>
        obtain rfl := Option.some.inj hp
        exact .inl ⟨hkind, i, condition, hi, hguard⟩
      | cons j p =>
        obtain ⟨c, hc, hp⟩ := Option.bind_eq_some_iff.mp hp
        have hmem : c ∈ cs := List.mem_of_getElem? hc
        exact .inr ⟨c, hmem, (ih c hmem).mpr ⟨p, node, i, condition, hp, hkind, hi, hguard⟩⟩

-- ════════════════════════════════════════════════════════════════════════
-- Where the parameters of a function are
-- ════════════════════════════════════════════════════════════════════════

theorem IsSimpleName.at? {t c : Tree} {path : List Nat} (h : IsSimpleName t path c) :
    t.at? path = some c := by
  cases h with
  | identifier => rfl
  | pattern _ hc _ => exact hc.at?
  | left _ hc _ => exact hc.at?

theorem bind_identifier?_eq_some_iff {t c : Tree} {field : String} :
    (t.child? field).bind identifier? = some c ↔
      ∃ i, t.IsUnder field i c ∧ c.kind = "identifier" := by
  rw [Option.bind_eq_some_iff]
  constructor
  · rintro ⟨d, hd, hc⟩
    rw [identifier?, Option.ite_none_right_eq_some] at hc
    obtain ⟨hkind, hdc⟩ := hc
    obtain rfl := Option.some.inj hdc
    obtain ⟨i, hi⟩ := Tree.child?_eq_some_iff.mp hd
    exact ⟨i, hi, hkind⟩
  · rintro ⟨i, hi, hkind⟩
    exact ⟨c, Tree.child?_eq_some_iff.mpr ⟨i, hi⟩, if_pos hkind⟩

theorem simpleName?_eq_some_iff {t c : Tree} :
    simpleName? t = some c ↔ ∃ path, IsSimpleName t path c := by
  rw [simpleName?]
  split
  · next hkind =>
    constructor
    · intro h
      obtain rfl := Option.some.inj h
      exact ⟨[], .identifier hkind⟩
    · rintro ⟨path, h⟩
      cases h with
      | identifier => rfl
      | pattern h => rw [hkind] at h; exact absurd h (by decide)
      | left h => rw [hkind] at h; exact absurd h (by decide)
  · next hidentifier =>
    split
    · next hkind =>
      rw [bind_identifier?_eq_some_iff]
      constructor
      · rintro ⟨i, hi, hc⟩
        exact ⟨[i], .pattern hkind hi hc⟩
      · rintro ⟨path, h⟩
        cases h with
        | identifier h => exact absurd h hidentifier
        | pattern _ hi hc => exact ⟨_, hi, hc⟩
        | left h => rw [h] at hkind; exact absurd hkind (by decide)
    · next hparameter =>
      split
      · next hkind =>
        rw [bind_identifier?_eq_some_iff]
        constructor
        · rintro ⟨i, hi, hc⟩
          exact ⟨[i], .left hkind hi hc⟩
        · rintro ⟨path, h⟩
          cases h with
          | identifier h => exact absurd h hidentifier
          | pattern h => exact absurd h hparameter
          | left _ hi hc => exact ⟨_, hi, hc⟩
      · next hassignment =>
        refine iff_of_false (by simp) ?_
        rintro ⟨path, h⟩
        cases h with
        | identifier h => exact hidentifier h
        | pattern h => exact hparameter h
        | left h => exact hassignment h

theorem IsSimpleName.unique {t c d : Tree} {p q : List Nat} (hc : IsSimpleName t p c)
    (hd : IsSimpleName t q d) : p = q ∧ c = d := by
  cases hc with
  | identifier h =>
    cases hd with
    | identifier => exact ⟨rfl, rfl⟩
    | pattern h' => rw [h] at h'; exact absurd h' (by decide)
    | left h' => rw [h] at h'; exact absurd h' (by decide)
  | pattern h hi =>
    cases hd with
    | identifier h' => rw [h'] at h; exact absurd h (by decide)
    | pattern _ hj =>
      obtain ⟨rfl, rfl⟩ := hi.unique hj
      exact ⟨rfl, rfl⟩
    | left h' => rw [h'] at h; exact absurd h (by decide)
  | left h hi =>
    cases hd with
    | identifier h' => rw [h'] at h; exact absurd h (by decide)
    | pattern h' => rw [h] at h'; exact absurd h' (by decide)
    | left _ hj =>
      obtain ⟨rfl, rfl⟩ := hi.unique hj
      exact ⟨rfl, rfl⟩

/-- The parameters of a function, by their positions in it. -/
theorem exists_located_parameters (function : Tree) :
    ∃ qs, function.Located (fun q => ∃ c, IsParameter function q c) qs (parameters function) := by
  cases hsingle : function.child? "parameter" with
  | some single =>
    obtain ⟨i, hi⟩ := Tree.child?_eq_some_iff.mp hsingle
    have hparameters : parameters function = (identifier? single).toList := by
      rw [parameters, hsingle]
    have hmem : ∀ q, (∃ c, IsParameter function q c) ↔ single.kind = "identifier" ∧ q = [i] := by
      intro q
      constructor
      · rintro ⟨c, h⟩
        cases h with
        | single hc hkind =>
          obtain ⟨rfl, rfl⟩ := hi.unique hc
          exact ⟨hkind, rfl⟩
        | listed hnone => exact absurd hi (hnone i single)
      · rintro ⟨hkind, rfl⟩
        exact ⟨single, .single hi hkind⟩
    by_cases hkind : single.kind = "identifier"
    · refine ⟨[[i]], List.pairwise_singleton _ _, fun q => ?_, ?_⟩
      · rw [hmem, List.mem_singleton, and_iff_right hkind]
      · rw [hparameters, identifier?, if_pos hkind, List.map_singleton, hi.at?]
        rfl
    · rw [hparameters, identifier?, if_neg hkind]
      exact ⟨[], .nil fun q h => hkind ((hmem q).mp h).1⟩
  | none =>
    have hnone := Tree.child?_eq_none_iff.mp hsingle
    cases hlist : function.child? "parameters" with
    | some list =>
      obtain ⟨i, hi⟩ := Tree.child?_eq_some_iff.mp hlist
      have hparameters : parameters function = list.children.filterMap fun c =>
          if c.label.isNamed then simpleName? c else none := by
        simp only [parameters, hsingle, hlist, Tree.namedChildren, List.filterMap_filter]
      obtain ⟨qs, hqs⟩ := Tree.exists_located_children
        (fun c => if c.label.isNamed then simpleName? c else none)
        (fun s path c => s.label.isNamed = true ∧ IsSimpleName s path c)
        (fun s c => by
          rw [Option.ite_none_right_eq_some, simpleName?_eq_some_iff]
          exact exists_and_left.symm)
        (fun hc hd => (hc.2.unique hd.2).1) (fun hc => hc.2.at?) list
      have hbelow := hqs.below hi.child
      refine ⟨_, hbelow.ordered, fun q => (hbelow.mem_iff q).trans ?_, hparameters ▸ hbelow.map_at?⟩
      constructor
      · rintro ⟨_, ⟨j, s, path, c, hj, ⟨hnamed, hname⟩, rfl⟩, rfl⟩
        exact ⟨c, .listed hnone hi hj hnamed hname⟩
      · rintro ⟨c, h⟩
        cases h with
        | single hc => exact absurd hc (hnone _ _)
        | listed _ hlist' hj hnamed hname =>
          obtain ⟨rfl, rfl⟩ := hi.unique hlist'
          exact ⟨_, ⟨_, _, _, _, hj, ⟨hnamed, hname⟩, rfl⟩, rfl⟩
    | none =>
      have hparameters : parameters function = [] := by
        rw [parameters, hsingle, hlist]
      rw [hparameters]
      refine ⟨[], .nil ?_⟩
      rintro q ⟨c, h⟩
      cases h with
      | single hc => exact hnone _ _ hc
      | listed _ hlist' => exact Tree.child?_eq_none_iff.mp hlist _ _ hlist'

theorem IsParameter.at? {function c : Tree} {q : List Nat} (h : IsParameter function q c) :
    function.at? q = some c := by
  cases h with
  | single hc => exact hc.at?
  | listed _ hlist hj _ hname =>
    rw [Tree.at?_cons, hlist.child, Option.bind_some, Tree.at?_cons, hj, Option.bind_some,
      hname.at?]

/-- The unguarded parameters of a function, by their positions in it. -/
theorem exists_located_unguardedOf (source : Array Char) (function : Tree) :
    ∃ qs, function.Located (IsUnguardedIn source function) qs (unguardedOf source function) := by
  rw [unguardedOf]
  split
  · next hchecked =>
    cases hbody : function.child? "body" with
    | some body =>
      obtain ⟨i, hi⟩ := Tree.child?_eq_some_iff.mp hbody
      obtain ⟨qs, hqs⟩ := exists_located_parameters function
      have hfilter := hqs.filter fun p => !isGuarded source (textOf source p) body
      refine ⟨_, hfilter.ordered, fun q => (hfilter.mem_iff q).trans ?_, hfilter.map_at?⟩
      simp only [Bool.not_eq_true', Bool.eq_false_iff, ne_eq, isGuarded_iff]
      constructor
      · rintro ⟨⟨c, hc⟩, d, hd, hguard⟩
        obtain rfl := Option.some.inj (hc.at?.symm.trans hd)
        exact ⟨isChecked_iff.mp hchecked, i, body, c, hi, hc, hguard⟩
      · rintro ⟨-, j, body', c, hj, hc, hguard⟩
        obtain ⟨rfl, rfl⟩ := hi.unique hj
        exact ⟨⟨c, hc⟩, c, hc.at?, hguard⟩
    | none =>
      refine ⟨[], .nil ?_⟩
      rintro q ⟨-, i, body, c, hi, -⟩
      exact Tree.child?_eq_none_iff.mp hbody i body hi
  · next hchecked => exact ⟨[], .nil fun q h => hchecked (isChecked_iff.mpr h.1)⟩

-- ════════════════════════════════════════════════════════════════════════
-- What is reported for a tree
-- ════════════════════════════════════════════════════════════════════════

/-- The sites of the nodes that are reported for a tree. -/
structure IsReport (source : Array Char) (tree : Tree) (sites : List Site) : Prop where
  /-- The reported nodes are those at the sites, one after another. -/
  map_at? : sites.map (fun s => tree.at? s.parameter) = (unguarded source tree).map some
  /-- The sites are in document order, and so no two are the same. -/
  ordered : sites.Pairwise Site.Before
  /-- The sites are those of all unguarded parameters. -/
  mem_iff : ∀ s, s ∈ sites ↔ IsUnguarded source tree s

theorem append_lt_append_left (p : List Nat) {q r : List Nat} (h : q < r) : p ++ q < p ++ r := by
  induction p with
  | nil => exact h
  | cons i p ih => exact List.Lex.cons ih

theorem exists_isReport (source : Array Char) (tree : Tree) :
    ∃ sites, IsReport source tree sites := by
  choose qs hqs using exists_located_unguardedOf source
  refine ⟨tree.positions.flatMap fun p => ((tree.at? p).elim [] qs).map fun q => ⟨p, p ++ q⟩,
    ?_, ?_, ?_⟩
  · have hreport : ∀ p ∈ tree.positions,
        (((tree.at? p).elim [] qs).map fun q => Site.mk p (p ++ q)).map
          (fun s => tree.at? s.parameter) =
        (tree.at? p).elim [] fun function => (unguardedOf source function).map some := by
      intro p hp
      obtain ⟨function, hfunction⟩ := Tree.mem_positions_iff.mp hp
      rw [hfunction, Option.elim_some, Option.elim_some, ← (hqs function).map_at?, List.map_map]
      refine List.map_congr_left fun q _ => ?_
      rw [Function.comp_apply, Tree.at?_append, hfunction, Option.bind_some]
    rw [List.map_flatMap, List.flatMap_congr hreport, unguarded, List.map_flatMap]
    have hwalk := congrArg (List.flatMap fun t : Option Tree =>
      t.elim [] fun function => (unguardedOf source function).map some) tree.map_at?_positions
    rwa [List.flatMap_map, List.flatMap_map] at hwalk
  · rw [List.pairwise_flatMap]
    constructor
    · intro p hp
      obtain ⟨function, hfunction⟩ := Tree.mem_positions_iff.mp hp
      rw [hfunction, Option.elim_some, List.pairwise_map]
      exact (hqs function).ordered.imp fun hlt => .inr ⟨rfl, append_lt_append_left p hlt⟩
    · refine tree.pairwise_positions.imp fun hlt a ha b hb => ?_
      obtain ⟨_, -, rfl⟩ := List.mem_map.mp ha
      obtain ⟨_, -, rfl⟩ := List.mem_map.mp hb
      exact .inl hlt
  · intro s
    simp only [List.mem_flatMap, List.mem_map, Tree.mem_positions_iff]
    constructor
    · rintro ⟨p, ⟨function, hfunction⟩, q, hq, rfl⟩
      rw [hfunction, Option.elim_some, (hqs function).mem_iff] at hq
      exact ⟨function, q, hfunction, rfl, hq⟩
    · rintro ⟨function, q, hfunction, hparameter, hq⟩
      refine ⟨s.function, ⟨function, hfunction⟩, q, ?_, ?_⟩
      · rw [hfunction, Option.elim_some]
        exact ((hqs function).mem_iff q).mpr hq
      · rw [← hparameter]

theorem IsReport.nodup {source : Array Char} {tree : Tree} {sites : List Site}
    (h : IsReport source tree sites) : sites.Nodup := by
  refine h.ordered.imp fun {a b} hab heq => ?_
  rw [heq] at hab
  rcases hab with hlt | ⟨-, hlt⟩
  · exact List.lt_irrefl _ hlt
  · exact List.lt_irrefl _ hlt

/-- The names that are reported for the function at a position. -/
def namesAt (source : Array Char) (tree : Tree) (sites : List Site) (p : List Nat) :
    List (List Char) :=
  ((sites.filter fun s => s.function = p).filterMap fun s => tree.at? s.parameter).map
    (textOf source)

theorem IsReport.namesAt_eq {source : Array Char} {tree function : Tree} {sites : List Site}
    {p : List Nat} (h : IsReport source tree sites) (hfunction : tree.at? p = some function) :
    namesAt source tree sites p = (unguardedOf source function).map (textOf source) := by
  obtain ⟨qs, hqs⟩ := exists_located_unguardedOf source function
  have hparameters : (sites.filter fun s => s.function = p).map Site.parameter =
      qs.map (p ++ ·) := by
    refine List.Pairwise.eq_of_mem_iff (r := (· < ·)) ?_ ?_ fun r => ?_
    · rw [List.pairwise_map]
      refine (h.ordered.filter _).imp_of_mem fun {a b} ha hb hab => ?_
      have ha := of_decide_eq_true (List.mem_filter.mp ha).2
      have hb := of_decide_eq_true (List.mem_filter.mp hb).2
      rcases hab with hlt | ⟨-, hlt⟩
      · rw [ha, hb] at hlt
        exact absurd hlt (List.lt_irrefl p)
      · exact hlt
    · rw [List.pairwise_map]
      exact hqs.ordered.imp fun hlt => append_lt_append_left p hlt
    · simp only [List.mem_map, List.mem_filter, decide_eq_true_eq, h.mem_iff, hqs.mem_iff]
      constructor
      · rintro ⟨s, ⟨⟨function', q, hfunction', hparameter, hq⟩, rfl⟩, rfl⟩
        obtain rfl := Option.some.inj (hfunction.symm.trans hfunction')
        exact ⟨q, hq, hparameter.symm⟩
      · rintro ⟨q, hq, rfl⟩
        exact ⟨⟨p, p ++ q⟩, ⟨⟨function, q, hfunction, rfl, hq⟩, rfl⟩, rfl⟩
  have hnodes : (sites.filter fun s => s.function = p).filterMap (fun s => tree.at? s.parameter) =
      unguardedOf source function := by
    have hmap := congrArg (List.filterMap tree.at?) hparameters
    have hat := congrArg (List.filterMap id) hqs.map_at?
    rw [List.filterMap_map, List.filterMap_map] at hmap hat
    have hbelow : (tree.at? ∘ fun q => p ++ q) = function.at? := by
      funext q
      rw [Function.comp_apply, Tree.at?_append, hfunction, Option.bind_some]
    rw [hbelow] at hmap
    exact hmap.trans (hat.trans (by simp))
  rw [namesAt, hnodes]

end ChecklistReview.NullCheck
