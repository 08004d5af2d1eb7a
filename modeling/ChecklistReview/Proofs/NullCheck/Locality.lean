import ChecklistReview.Proofs.NullCheck.Unguarded
import Mathlib.Data.List.Forall2

/-!
# What a report depends on

Whether the parameters of a function are reported depends on the function's own nodes and their
texts. Where the function stands, and what stands around it, makes no difference: trees that are
alike node by node have the same names reported for them, also in different texts.

## Main statements

* `Alike`: trees that are the same up to where they stand.
* `Alike.names_eq`: the same names are reported for them.
* `unguarded_exactly_once`: what is reported for a tree, and on what it depends.
-/

namespace ChecklistReview.NullCheck

mutual

/-- Trees in two texts have nodes of the same kinds under the same fields, and the same text at each
of them. -/
def Alike (source other : Array Char) : Tree → Tree → Prop
  | .node l cs, .node k ds =>
    l.kind = k.kind ∧ l.isNamed = k.isNamed ∧
      textOf source (.node l cs) = textOf other (.node k ds) ∧ AllAlike source other cs ds

def AllAlike (source other : Array Char) : List Tree → List Tree → Prop
  | [], [] => True
  | c :: cs, d :: ds =>
    c.label.field = d.label.field ∧ Alike source other c d ∧ AllAlike source other cs ds
  | [], _ :: _ => False
  | _ :: _, [] => False

end

/-- Children that are alike and under the same field. -/
def AlikeChildren (source other : Array Char) (c d : Tree) : Prop :=
  c.label.field = d.label.field ∧ Alike source other c d

variable {source other : Array Char} {t s : Tree}

theorem forall₂_of_allAlike {cs ds : List Tree} (h : AllAlike source other cs ds) :
    List.Forall₂ (AlikeChildren source other) cs ds := by
  induction cs generalizing ds with
  | nil =>
    cases ds with
    | nil => exact .nil
    | cons d ds => exact absurd h (by simp [AllAlike])
  | cons c cs ih =>
    cases ds with
    | nil => exact absurd h (by simp [AllAlike])
    | cons d ds =>
      rw [AllAlike] at h
      exact .cons ⟨h.1, h.2.1⟩ (ih h.2.2)

theorem Alike.kind_eq (h : Alike source other t s) : t.kind = s.kind := by
  cases t; cases s
  rw [Alike] at h
  exact h.1

theorem Alike.isNamed_eq (h : Alike source other t s) : t.label.isNamed = s.label.isNamed := by
  cases t; cases s
  rw [Alike] at h
  exact h.2.1

theorem Alike.text_eq (h : Alike source other t s) : textOf source t = textOf other s := by
  cases t; cases s
  rw [Alike] at h
  exact h.2.2.1

theorem Alike.children (h : Alike source other t s) :
    List.Forall₂ (AlikeChildren source other) t.children s.children := by
  cases t; cases s
  rw [Alike] at h
  exact forall₂_of_allAlike h.2.2.2

theorem Alike.child? (h : Alike source other t s) (field : String) :
    Option.Rel (Alike source other) (t.child? field) (s.child? field) := by
  have hchildren := h.children
  rw [Tree.child?, Tree.child?]
  generalize t.children = cs at hchildren
  generalize s.children = ds at hchildren
  induction hchildren with
  | nil => exact .none
  | @cons c d cs ds hcd _ ih =>
    rw [List.find?_cons, List.find?_cons, hcd.1]
    cases decide (d.label.field = some field) with
    | true => exact .some hcd.2
    | false => exact ih

theorem Alike.any_child? (h : Alike source other t s) (field : String) {p q : Tree → Bool}
    (hpq : ∀ {c d}, Alike source other c d → p c = q d) :
    (t.child? field).any p = (s.child? field).any q := by
  have hchild := h.child? field
  generalize t.child? field = c at hchild
  generalize s.child? field = d at hchild
  cases hchild with
  | none => rfl
  | some hcd => exact hpq hcd

theorem Alike.isGuarded_eq (h : Alike source other t s) (name : List Char) :
    isGuarded source name t = isGuarded other name s := by
  induction t using Tree.child_induction generalizing s with
  | node l cs ih =>
    cases s with
    | node k ds =>
      have hhere : guardsHere source name (.node l cs) = guardsHere other name (.node k ds) := by
        rw [guardsHere, guardsHere, h.kind_eq,
          h.any_child? "condition" fun hcd => by rw [hcd.text_eq]]
      have hchildren : List.Forall₂ (AlikeChildren source other) cs ds := h.children
      have hbelow : isGuardedAmong source name cs = isGuardedAmong other name ds := by
        clear h hhere
        induction hchildren with
        | nil => rw [isGuardedAmong, isGuardedAmong]
        | cons hcd _ ihds =>
          rw [isGuardedAmong, isGuardedAmong, ih _ List.mem_cons_self hcd.2,
            ihds fun c hc => ih c (List.mem_cons_of_mem _ hc)]
      rw [isGuarded, isGuarded, hhere, hbelow]

theorem Alike.isChecked_eq (h : Alike source other t s) :
    isChecked source t = isChecked other s := by
  have hname : ((t.child? "name").any fun name => textOf source name = "constructor".toList) =
      (s.child? "name").any fun name => textOf other name = "constructor".toList :=
    h.any_child? "name" fun hcd => by rw [hcd.text_eq]
  have haccessor :
      (t.children.any fun c => !c.label.isNamed && (c.kind = "get" || c.kind = "set")) =
      s.children.any fun c => !c.label.isNamed && (c.kind = "get" || c.kind = "set") := by
    have hchildren := h.children
    generalize t.children = cs at hchildren
    generalize s.children = ds at hchildren
    induction hchildren with
    | nil => rfl
    | cons hcd _ ih => rw [List.any_cons, List.any_cons, ih, hcd.2.kind_eq, hcd.2.isNamed_eq]
  rw [isChecked, isChecked, isFunction, isFunction, isPlainMethod, isPlainMethod, hname, haccessor,
    h.kind_eq, h.isNamed_eq]

theorem Alike.identifier? (h : Alike source other t s) :
    Option.Rel (Alike source other) (NullCheck.identifier? t) (NullCheck.identifier? s) := by
  rw [NullCheck.identifier?, NullCheck.identifier?, h.kind_eq]
  split
  · exact .some h
  · exact .none

theorem Alike.bind_identifier? (h : Alike source other t s) (field : String) :
    Option.Rel (Alike source other) ((t.child? field).bind NullCheck.identifier?)
      ((s.child? field).bind NullCheck.identifier?) := by
  have hchild := h.child? field
  generalize t.child? field = c at hchild
  generalize s.child? field = d at hchild
  cases hchild with
  | none => exact .none
  | some hcd => exact hcd.identifier?

theorem Alike.simpleName? (h : Alike source other t s) :
    Option.Rel (Alike source other) (NullCheck.simpleName? t) (NullCheck.simpleName? s) := by
  rw [NullCheck.simpleName?, NullCheck.simpleName?, h.kind_eq]
  split
  · exact .some h
  · split
    · exact h.bind_identifier? "pattern"
    · split
      · exact h.bind_identifier? "left"
      · exact .none

theorem Alike.parameters (h : Alike source other t s) :
    List.Forall₂ (Alike source other) (NullCheck.parameters t) (NullCheck.parameters s) := by
  have hsingle := h.child? "parameter"
  have hlist := h.child? "parameters"
  rw [NullCheck.parameters, NullCheck.parameters]
  generalize t.child? "parameter" = c at hsingle
  generalize s.child? "parameter" = d at hsingle
  cases hsingle with
  | some hcd =>
    have hidentifier := hcd.identifier?
    dsimp only
    generalize NullCheck.identifier? _ = c at hidentifier
    generalize NullCheck.identifier? _ = d at hidentifier
    cases hidentifier with
    | some hcd => exact .cons hcd .nil
    | none => exact .nil
  | none =>
    dsimp only
    generalize t.child? "parameters" = c at hlist
    generalize s.child? "parameters" = d at hlist
    cases hlist with
    | none => exact .nil
    | some hcd =>
      refine List.rel_filterMap (fun _ _ hab => hab.2.simpleName?)
        (List.rel_filter (fun _ _ hab => ?_) hcd.children)
      dsimp only
      rw [hab.2.isNamed_eq]

/-- The same names are reported for trees that are alike. -/
theorem Alike.names_eq (h : Alike source other t s) :
    (unguardedOf source t).map (textOf source) = (unguardedOf other s).map (textOf other) := by
  have hbody := h.child? "body"
  have hparameters := h.parameters
  have hunguarded : List.Forall₂ (Alike source other) (unguardedOf source t)
      (unguardedOf other s) := by
    rw [unguardedOf, unguardedOf, h.isChecked_eq]
    split
    · generalize t.child? "body" = c at hbody
      generalize s.child? "body" = d at hbody
      cases hbody with
      | none => exact .nil
      | some hcd =>
        refine List.rel_filter (fun p q hpq => ?_) hparameters
        dsimp only
        rw [hpq.text_eq, hcd.isGuarded_eq]
    · exact .nil
  rw [← List.forall₂_eq_eq_eq, List.forall₂_map_left_iff, List.forall₂_map_right_iff]
  exact hunguarded.imp fun p q hpq => hpq.text_eq

/-- What is reported for a tree, and on what it depends. The reported nodes are the names of the
unguarded parameters, all of them and each for one site, function by function in document order and
within a function in the order of declaration. The names that are reported for a function are the
same wherever a tree has a function that is alike, whatever else the tree and the text hold. -/
theorem unguarded_exactly_once (source : Array Char) (tree : Tree) :
    (∃ sites, IsReport source tree sites ∧ sites.Nodup) ∧
    ∀ sites, IsReport source tree sites →
      ∀ (other : Array Char) (tree' : Tree) (sites' : List Site), IsReport other tree' sites' →
        ∀ p q function function', tree.at? p = some function → tree'.at? q = some function' →
          Alike source other function function' →
            namesAt source tree sites p = namesAt other tree' sites' q := by
  constructor
  · obtain ⟨sites, hsites⟩ := exists_isReport source tree
    exact ⟨sites, hsites, hsites.nodup⟩
  · intro sites hsites other tree' sites' hsites' p q function function' hp hq halike
    calc namesAt source tree sites p
        = (unguardedOf source function).map (textOf source) := hsites.namesAt_eq hp
      _ = (unguardedOf other function').map (textOf other) := halike.names_eq
      _ = namesAt other tree' sites' q := (hsites'.namesAt_eq hq).symm

namespace GuardOutside

/-- A node of the trees below. -/
def node (kind : String) (isNamed : Bool) (field : Option String) (start stop : Nat)
    (children : List Tree) : Tree :=
  .node { kind, isNamed, field, status := .sound, hasError := false, start, stop, row := 0 }
    children

/-- The function `x=>x` at an offset. -/
def function (start : Nat) : Tree :=
  node "arrow_function" true none start (start + 4)
    [node "identifier" true (some "parameter") start (start + 1) [],
      node "=>" false none (start + 1) (start + 3) [],
      node "identifier" true (some "body") (start + 3) (start + 4) []]

/-- The tree of `x=>x`. -/
def alone : Tree :=
  node "program" true none 0 4 [node "expression_statement" true none 0 4 [function 0]]

/-- The tree of `if(x!=null)x=>x`. -/
def behindCondition : Tree :=
  node "program" true none 0 15 [node "if_statement" true none 0 15
    [node "if" false none 0 2 [],
      node "parenthesized_expression" true (some "condition") 2 11
        [node "(" false none 2 3 [],
          node "binary_expression" true none 3 10
            [node "identifier" true (some "left") 3 4 [],
              node "!=" false (some "operator") 4 6 [],
              node "null" true (some "right") 6 10 [node "null" false none 6 10 []]],
          node ")" false none 10 11 []],
      node "expression_statement" true (some "consequence") 11 15 [function 11]]]

end GuardOutside

open GuardOutside

/-- A guard around a function does not count for its parameter. -/
theorem unguarded_exactly_once_behind_condition :
    let source := "x=>x".toList.toArray
    let other := "if(x!=null)x=>x".toList.toArray
    ∃ sites sites', IsReport source alone sites ∧ IsReport other behindCondition sites' ∧
      alone.at? [0, 0] = some (function 0) ∧ behindCondition.at? [0, 2, 0] = some (function 11) ∧
      Alike source other (function 0) (function 11) ∧
      namesAt source alone sites [0, 0] = ["x".toList] ∧
      namesAt other behindCondition sites' [0, 2, 0] = ["x".toList] := by
  intro source other
  obtain ⟨⟨sites, hsites, -⟩, hlocal⟩ := unguarded_exactly_once source alone
  obtain ⟨⟨sites', hsites', -⟩, -⟩ := unguarded_exactly_once other behindCondition
  have hleaf : ∀ kind isNamed field a b c d,
      textOf source (node kind isNamed field a b []) =
        textOf other (node kind isNamed field c d []) →
      Alike source other (node kind isNamed field a b []) (node kind isNamed field c d []) :=
    fun _ _ _ _ _ _ _ htext => ⟨rfl, rfl, htext, trivial⟩
  have halike : Alike source other (function 0) (function 11) :=
    ⟨rfl, rfl, by decide +kernel, rfl, hleaf _ _ _ _ _ _ _ (by decide +kernel), rfl,
      hleaf _ _ _ _ _ _ _ (by decide +kernel), rfl, hleaf _ _ _ _ _ _ _ (by decide +kernel),
      trivial⟩
  have hnames : namesAt source alone sites [0, 0] = ["x".toList] := by
    rw [hsites.namesAt_eq (show alone.at? [0, 0] = some (function 0) from rfl)]
    decide +kernel
  have hsame := hlocal sites hsites other behindCondition sites' hsites' [0, 0] [0, 2, 0]
    (function 0) (function 11) rfl rfl halike
  exact ⟨sites, sites', hsites, hsites', rfl, rfl, halike, hnames, hsame ▸ hnames⟩

end ChecklistReview.NullCheck
