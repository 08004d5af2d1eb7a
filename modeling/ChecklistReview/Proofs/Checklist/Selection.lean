import ChecklistReview.Proofs.Checklist
import ChecklistReview.Proofs.Validation

/-!
# The kind of an item

An item of a checklist becomes a rule of one kind, which its members `type` and `pattern` choose.
From then on only the members of that kind count: two items that have these members in common
become the same rule, whatever else they hold.

## Main statements

* `Rule.Kind.keys` are the keys of the members that count for a kind, and `Rule.ofJson_congr` says
  that no others do.
* `Selects` says which members choose a kind, and `ruleOf?_eq_some_iff` which items become rules.
* `item_resolves_to_one_kind`: what becomes of any item.
-/

namespace ChecklistReview

/-- Two values have the same members under some keys. -/
def Json.AgreeOn (keys : List String) (a b : Json) : Prop :=
  ∀ key ∈ keys, a.field? key = b.field? key

/-- The value is a text, of characters only or with halves of pairs among them. -/
def Json.IsText : Json → Prop
  | .str _ => True
  | .broken _ => True
  | _ => False

-- ════════════════════════════════════════════════════════════════════════
-- Members that count
-- ════════════════════════════════════════════════════════════════════════

namespace Validation

section

variable {α : Type} {a b : Json} {key second : String}
  (hkey : a.field? key = b.field? key) (hsecond : a.field? second = b.field? second)

include hkey hsecond

theorem member?_congr : member? a key second = member? b key second := by
  rw [member?, member?, hkey, hsecond]

theorem withDefault_congr {default : α} {read : Json → Checked α} :
    withDefault a key second default read = withDefault b key second default read := by
  rw [withDefault, withDefault, member?_congr hkey hsecond]

theorem required_congr {read : Json → Checked α} :
    required a key second read = required b key second read := by
  rw [required, required, member?_congr hkey hsecond]

end

/-- A text that must be present stands under its key. -/
theorem field?_of_required {record : Json} {key : String} {s : Wording}
    (h : required record key key readText = .valid s) :
    ∃ j, record.field? key = some j ∧ j.IsText := by
  rw [required, member?] at h
  cases hfield : record.field? key with
  | none => simp [hfield] at h
  | some j =>
    rw [hfield] at h
    have hread : readText j = .valid s := Checked.under_eq_valid_iff.mp h
    refine ⟨j, rfl, ?_⟩
    cases j with
    | str t => trivial
    | broken codes => trivial
    | _ => cases hread

end Validation

namespace Rule

open Validation

/-- The keys of the members that count for rules of every kind. -/
def sharedKeys : List String :=
  ["id", "title", "description", "severity", "languages", "autoFixable", "auto_fixable", "autoFix",
    "auto_fix"]

/-- The keys of the members that count for rules of one kind only. -/
def Kind.ownKeys : Kind → List String
  | .pattern => ["pattern"]
  | .structural => ["rule"]
  | .fileLength => ["maxLines", "max_lines"]
  | .lineLength => ["maxLength", "max_length"]

/-- The keys of the members that count for a kind. -/
def Kind.keys (kind : Kind) : List String := sharedKeys ++ kind.ownKeys

theorem readCheck_congr {kind : Kind} {a b : Json} (h : Json.AgreeOn kind.ownKeys a b) :
    readCheck a kind = readCheck b kind := by
  cases kind with
  | pattern =>
    have hown := h "pattern" List.mem_cons_self
    simp only [readCheck, required_congr hown hown]
  | structural =>
    have hown := h "rule" List.mem_cons_self
    simp only [readCheck, withDefault_congr hown hown]
  | fileLength =>
    have hown := h "maxLines" List.mem_cons_self
    have hsecond := h "max_lines" (List.mem_cons_of_mem _ List.mem_cons_self)
    simp only [readCheck, withDefault_congr hown hsecond]
  | lineLength =>
    have hown := h "maxLength" List.mem_cons_self
    have hsecond := h "max_length" (List.mem_cons_of_mem _ List.mem_cons_self)
    simp only [readCheck, withDefault_congr hown hsecond]

/-- A rule is read from the members of its kind and from no others. -/
theorem ofJson_congr {kind : Kind} {a b : Json} (h : Json.AgreeOn kind.keys a b) :
    ofJson kind a = ofJson kind b := by
  obtain ⟨hshared, hown⟩ := List.forall_mem_append.mp h
  simp only [sharedKeys, List.forall_mem_cons] at hshared
  obtain ⟨hid, htitle, hdescription, hseverity, hlanguages, hfixable, hfixable', hfix, hfix', -⟩ :=
    hshared
  unfold ofJson
  rw [withDefault_congr hid hid, withDefault_congr htitle htitle,
    withDefault_congr hdescription hdescription, withDefault_congr hseverity hseverity,
    withDefault_congr hlanguages hlanguages, withDefault_congr hfixable hfixable',
    withDefault_congr hfix hfix', readCheck_congr hown]

theorem readCheck_of_ofJson {kind : Kind} {item : Json} {rule : Rule}
    (h : ofJson kind item = .valid rule) : readCheck item kind = .valid rule.check := by
  unfold ofJson at h
  obtain ⟨_, check, hfix, hcheck, rfl⟩ := Checked.seq_eq_valid_iff.mp h
  obtain ⟨_, template, hfixable, -, rfl⟩ := Checked.seq_eq_valid_iff.mp hfix
  obtain ⟨_, isFixable, hlanguages, -, rfl⟩ := Checked.seq_eq_valid_iff.mp hfixable
  obtain ⟨_, languages, hseverity, -, rfl⟩ := Checked.seq_eq_valid_iff.mp hlanguages
  obtain ⟨_, severity, hdescription, -, rfl⟩ := Checked.seq_eq_valid_iff.mp hseverity
  obtain ⟨_, description, htitle, -, rfl⟩ := Checked.seq_eq_valid_iff.mp hdescription
  obtain ⟨_, title, hid, -, rfl⟩ := Checked.seq_eq_valid_iff.mp htitle
  obtain ⟨id, -, rfl⟩ := Checked.map_eq_valid_iff.mp hid
  exact hcheck

theorem kind_of_readCheck {kind : Kind} {item : Json} {check : Check}
    (h : readCheck item kind = .valid check) : check.kind = kind := by
  cases kind <;> obtain ⟨_, -, rfl⟩ := Checked.map_eq_valid_iff.mp h <;> rfl

theorem kind_of_ofJson {kind : Kind} {item : Json} {rule : Rule}
    (h : ofJson kind item = .valid rule) : rule.kind = kind :=
  kind_of_readCheck (readCheck_of_ofJson h)

end Rule

-- ════════════════════════════════════════════════════════════════════════
-- The choice of a kind
-- ════════════════════════════════════════════════════════════════════════

namespace Checklist

/-- The item names none of the kinds that can be named. -/
def NamesNoKind (item : Json) : Prop :=
  ∀ kind ∈ namedKinds, item.field? "type" ≠ some (.str kind.name)

/-- The members of an item choose a kind: the one that the item names, or a pattern if it names
none and has one. -/
def Selects (item : Json) : Rule.Kind → Prop
  | .pattern =>
    NamesNoKind item ∧
      ∃ source, source.IsText ∧ source ≠ .str "" ∧ item.field? "pattern" = some source
  | kind => item.field? "type" = some (.str kind.name)

theorem namedKind?_eq_some_iff {j : Json} {kind : Rule.Kind} :
    namedKind? j = some kind ↔ kind ∈ namedKinds ∧ j = .str kind.name := by
  cases j with
  | str s =>
    constructor
    · intro h
      have hfind : namedKinds.find? (fun kind => kind.name = s) = some kind := h
      have hname : kind.name = s := by simpa using List.find?_some hfind
      exact ⟨List.mem_of_find?_eq_some hfind, by rw [hname]⟩
    · rintro ⟨hmem, hname⟩
      obtain rfl := Json.str.inj hname
      cases kind with
      | pattern => simp [namedKinds] at hmem
      | _ => decide
  | _ => simp [namedKind?]

theorem namedKind?_eq_none_iff {item : Json} :
    namedKind? ((item.field? "type").getD .null) = none ↔ NamesNoKind item := by
  rw [Option.eq_none_iff_forall_ne_some]
  simp only [ne_eq, namedKind?_eq_some_iff, not_and, NamesNoKind]
  refine forall₂_congr fun kind _ => not_congr ?_
  cases item.field? "type" with
  | none => simp
  | some j => simp

theorem kindOf?_of_selects {item : Json} {kind : Rule.Kind} (h : Selects item kind) :
    kindOf? item = some kind := by
  have hnamed : ∀ named ∈ namedKinds, item.field? "type" = some (.str named.name) →
      kindOf? item = some named := by
    intro named hmem htype
    have hkind : namedKind? ((item.field? "type").getD .null) = some named := by
      rw [namedKind?_eq_some_iff, htype]
      exact ⟨hmem, rfl⟩
    simp only [kindOf?, hkind]
  cases kind with
  | pattern =>
    obtain ⟨hfree, source, htext, hne, hpattern⟩ := h
    have hpresent : isPresent source = true := by
      cases source with
      | str s => simpa [isPresent] using hne
      | broken codes => rfl
      | _ => cases htext
    simp only [kindOf?, namedKind?_eq_none_iff.mpr hfree, hpattern, Option.getD_some, hpresent,
      if_true]
  | structural => exact hnamed _ (by decide) h
  | fileLength => exact hnamed _ (by decide) h
  | lineLength => exact hnamed _ (by decide) h

theorem selects_of_ofJson {item : Json} {kind : Rule.Kind} {rule : Rule}
    (hkind : kindOf? item = some kind) (h : Rule.ofJson kind item = .valid rule) :
    Selects item kind := by
  unfold kindOf? at hkind
  cases hnamed : namedKind? ((item.field? "type").getD .null) with
  | some named =>
    rw [hnamed] at hkind
    obtain rfl := Option.some.inj hkind
    obtain ⟨hmem, htype⟩ := namedKind?_eq_some_iff.mp hnamed
    have hfield : item.field? "type" = some (.str named.name) := by
      cases hfield : item.field? "type" with
      | none => simp [hfield] at htype
      | some j => rw [← htype, hfield, Option.getD_some]
    cases named with
    | pattern => simp [namedKinds] at hmem
    | _ => exact hfield
  | none =>
    rw [hnamed] at hkind
    have hpresent : isPresent ((item.field? "pattern").getD .null) = true := by
      by_contra habsent
      simp [habsent] at hkind
    obtain rfl : kind = .pattern := by simpa [hpresent] using hkind.symm
    obtain ⟨source, hsource, -⟩ :=
      Validation.Checked.map_eq_valid_iff.mp (Rule.readCheck_of_ofJson h)
    obtain ⟨found, hpattern, htext⟩ := Validation.field?_of_required hsource
    refine ⟨namedKind?_eq_none_iff.mp hnamed, found, htext, ?_, hpattern⟩
    rintro rfl
    rw [hpattern] at hpresent
    exact absurd hpresent (by decide)

/-- The items that become rules, and the rules they become. -/
theorem ruleOf?_eq_some_iff {members : List (String × Json)} {rule : Rule} :
    ruleOf? (.object members) = some rule ↔
      Selects (.object members) rule.kind ∧
        Rule.ofJson rule.kind (.object members) = .valid rule := by
  constructor
  · intro h
    simp only [ruleOf?] at h
    cases hkind : kindOf? (.object members) with
    | none => simp [hkind] at h
    | some kind =>
      rw [hkind] at h
      cases hread : Rule.ofJson kind (.object members) with
      | invalid issues => simp [hread] at h
      | valid found =>
        obtain rfl : found = rule := by simpa [hread] using h
        rw [Rule.kind_of_ofJson hread]
        exact ⟨selects_of_ofJson hkind hread, hread⟩
  · rintro ⟨hselects, hread⟩
    simp only [ruleOf?, kindOf?_of_selects hselects, hread]

-- ════════════════════════════════════════════════════════════════════════
-- Items that are seen alike
-- ════════════════════════════════════════════════════════════════════════

/-- Two items have in common what chooses a kind, and the members of the kind that is chosen. -/
structure SeenAlike (a b : Json) : Prop where
  type_eq : a.field? "type" = b.field? "type"
  pattern_eq : NamesNoKind a → a.field? "pattern" = b.field? "pattern"
  agreeOn : ∀ kind, Selects a kind → a.AgreeOn kind.keys b

theorem SeenAlike.selects_iff {a b : Json} (h : SeenAlike a b) (kind : Rule.Kind) :
    Selects a kind ↔ Selects b kind := by
  have hnames : NamesNoKind a ↔ NamesNoKind b := by
    simp only [NamesNoKind, h.type_eq]
  cases kind with
  | pattern =>
    simp only [Selects]
    rw [← hnames]
    refine and_congr_right fun hfree => ?_
    rw [h.pattern_eq hfree]
  | structural => simp only [Selects, h.type_eq]
  | fileLength => simp only [Selects, h.type_eq]
  | lineLength => simp only [Selects, h.type_eq]

theorem SeenAlike.ruleOf?_eq {members others : List (String × Json)}
    (h : SeenAlike (.object members) (.object others)) :
    ruleOf? (.object members) = ruleOf? (.object others) := by
  apply Option.ext
  intro rule
  rw [ruleOf?_eq_some_iff, ruleOf?_eq_some_iff, ← h.selects_iff]
  refine and_congr_right fun hselects => ?_
  rw [Rule.ofJson_congr (h.agreeOn rule.kind hselects)]

namespace Sample

/-- A line rule with members of other kinds, none of which would fit. -/
def crowded : List (String × Json) :=
  [("pattern", .str "("), ("maxLines", .array []), ("type", .str "line_rule"),
    ("max_length", .int 5), ("rule", .int 7)]

/-- A line rule without them. -/
def bare : List (String × Json) := [("max_length", .int 5), ("type", .str "line_rule")]

/-- The rule that both stand for. -/
def shortLines : Rule :=
  { id := none, title := none, description := none, severity := none, languages := none
    isFixable := false, template := none, check := .lineLength (some 5) }

theorem seenAlike_crowded_bare : SeenAlike (.object crowded) (.object bare) where
  type_eq := rfl
  pattern_eq h := absurd rfl (h .lineLength (by decide))
  agreeOn kind hselects := by
    have hkind : kindOf? (.object crowded) = some .lineLength := rfl
    obtain rfl : kind = .lineLength := by
      rw [kindOf?_of_selects hselects] at hkind
      exact Option.some.inj hkind
    simp only [Json.AgreeOn, Rule.Kind.keys, Rule.sharedKeys, Rule.Kind.ownKeys, List.cons_append,
      List.nil_append, List.forall_mem_cons]
    exact ⟨rfl, rfl, rfl, rfl, rfl, rfl, rfl, rfl, rfl, rfl, rfl, List.forall_mem_nil _⟩

end Sample

end Checklist

end ChecklistReview
