import ChecklistReview.Checklist
import ChecklistReview.Proofs.Json.Limits
import ChecklistReview.Proofs.Text.Utf8

/-!
# Loading checklists

A checklist file that can be read and holds a list of items gives one rule for each item that is
one, in order. Items that are no rules are left out without any effect on the others. Other files
give no rules and an error in the log.

Loading fails, with no rules at all, for five reasons: the bytes are no text, a whole number has
too many digits, the text is nested deeper than there is room for, the kind of an item is an array
or an object, or a message would show a value that is nested deeper than there is room for. Nothing
else makes it fail.

## Main statements

* `readItem_of_showable` and `readItems_of_showable`: the rules of one item and of a list.
* `Blocked`: what makes loading fail.
* `load_contract`: what is loaded from any file.
-/

namespace ChecklistReview

@[simp]
theorem Logged.entries_pure {α : Type} (a : α) : (pure a : Logged α).entries = [] := rfl

@[simp]
theorem Logged.entries_bind {α β : Type} (x : Logged α) (f : α → Logged β) :
    (x >>= f).entries = x.entries ++ (f x.value).entries := rfl

@[simp]
theorem Logged.entries_log (level : Log.Level) (component : Log.Component) (message : String) :
    (Logged.log level component message).entries = [{ level, component, message }] := rfl

namespace Checklist

open Text Validation

-- ════════════════════════════════════════════════════════════════════════
-- Items
-- ════════════════════════════════════════════════════════════════════════

/-- The rule that an item stands for, if it is a record of a kind and fits it. -/
def ruleOf? : Json → Option Rule
  | .object members =>
    match kindOf? (.object members) with
    | none => none
    | some kind =>
      match Rule.ofJson kind (.object members) with
      | .valid rule => some rule
      | .invalid _ => none
  | _ => none

/-- Whether the kind of an item is an array or an object. -/
def hasStructuredKind (item : Json) : Bool :=
  match item.field? "type" with
  | some (.array _) => true
  | some (.object _) => true
  | _ => false

/-- Whether entries report no error. -/
def IsCalm (entries : List Log.Entry) : Prop := ∀ entry ∈ entries, entry.level ≠ .error

theorem isCalm_nil : IsCalm [] := List.forall_mem_nil _

theorem IsCalm.append {xs ys : List Log.Entry} (hxs : IsCalm xs) (hys : IsCalm ys) :
    IsCalm (xs ++ ys) :=
  List.forall_mem_append.mpr ⟨hxs, hys⟩

/-- The value that a message shows if an item is left out, and the level of the message. -/
def shownOf? : Json → Option (Log.Level × Json)
  | .object members =>
    match kindOf? (.object members) with
    | none => some (.debug, labelOf (.object members))
    | some kind =>
      match Rule.ofJson kind (.object members) with
      | .valid _ => none
      | .invalid _ => some (.warning, labelOf (.object members))
  | item => some (.warning, item)

/-- Whether an item is a rule or can be left out with its message. -/
def isShowable (runtime : Runtime) (item : Json) : Bool :=
  (shownOf? item).all fun shown => runtime.canShow shown.1 shown.2

theorem isShowable_of_free (item : Json) : isShowable {} item = true := by
  rw [isShowable]
  cases shownOf? item with
  | none => rfl
  | some shown => simp [Runtime.canShow]

theorem value_leaveOut (runtime : Runtime) (level : Log.Level) (shown : Json) (message : String) :
    (leaveOut runtime level shown message).value =
      if runtime.canShow level shown then .ok none else .error .deepValue := by
  rw [leaveOut]
  split <;> rfl

theorem isCalm_leaveOut {level : Log.Level} (h : level ≠ .error) (runtime : Runtime) (shown : Json)
    (message : String) : IsCalm (leaveOut runtime level shown message).entries := by
  rw [leaveOut]
  split
  · simpa [IsCalm] using h
  · exact isCalm_nil

theorem value_readObject (members : List (String × Json)) (runtime : Runtime) :
    (readObject (.object members) runtime).value =
      if isShowable runtime (.object members) then .ok (ruleOf? (.object members))
      else .error .deepValue := by
  cases hkind : kindOf? (.object members) with
  | none =>
    simp only [readObject, ruleOf?, isShowable, shownOf?, hkind, value_leaveOut, Option.all_some]
  | some kind =>
    cases hrule : Rule.ofJson kind (.object members) with
    | valid rule =>
      simp only [readObject, ruleOf?, isShowable, shownOf?, hkind, hrule, Logged.value_pure,
        Option.all_none, if_true]
    | invalid issues =>
      simp only [readObject, ruleOf?, isShowable, shownOf?, hkind, hrule, value_leaveOut,
        Option.all_some]

theorem isCalm_readObject (item : Json) (runtime : Runtime) :
    IsCalm (readObject item runtime).entries := by
  rw [readObject]
  dsimp only
  split
  · exact isCalm_leaveOut (by decide) _ _ _
  · split
    · exact isCalm_nil
    · exact isCalm_leaveOut (by decide) _ _ _

/-- An item gives its rule, if it has one, unless it cannot be left out. -/
theorem readItem_of_plain {item : Json} (h : hasStructuredKind item = false) (runtime : Runtime) :
    (readItem item runtime).value =
      if isShowable runtime item then .ok (ruleOf? item) else .error .deepValue := by
  cases item with
  | object members =>
    rw [readItem]
    rw [hasStructuredKind] at h
    split
    · next hfield => simp [hfield] at h
    · next hfield => simp [hfield] at h
    · exact value_readObject members runtime
  | _ => exact value_leaveOut _ _ _ _

theorem readItem_of_showable {item : Json} {runtime : Runtime} (h : hasStructuredKind item = false)
    (hshow : isShowable runtime item = true) :
    (readItem item runtime).value = .ok (ruleOf? item) := by
  rw [readItem_of_plain h, if_pos hshow]

/-- An item makes reading fail if its kind is structured or it cannot be left out. -/
theorem readItem_eq_error {item : Json} {runtime : Runtime}
    (h : hasStructuredKind item = true ∨ isShowable runtime item = false) :
    ∃ fault, (readItem item runtime).value = .error fault := by
  cases hkind : hasStructuredKind item with
  | false =>
    have hshow : isShowable runtime item = false := h.resolve_left (by simp [hkind])
    rw [readItem_of_plain hkind, hshow]
    exact ⟨_, rfl⟩
  | true =>
    cases item with
    | object members =>
      rw [readItem]
      rw [hasStructuredKind] at hkind
      split
      · exact ⟨_, rfl⟩
      · exact ⟨_, rfl⟩
      · next harray hobject =>
        split at hkind
        · next hfield => exact absurd hfield (harray _)
        · next hfield => exact absurd hfield (hobject _)
        · cases hkind
    | _ => cases hkind

theorem isCalm_readItem (item : Json) (runtime : Runtime) :
    IsCalm (readItem item runtime).entries := by
  cases item with
  | object members =>
    rw [readItem]
    split
    · exact isCalm_nil
    · exact isCalm_nil
    · exact isCalm_readObject _ runtime
  | _ => exact isCalm_leaveOut (by decide) _ _ _

-- ════════════════════════════════════════════════════════════════════════
-- Lists of items
-- ════════════════════════════════════════════════════════════════════════

/-- Each item gives its rule, whatever the others are. -/
theorem readItems_of_showable {items : List Json} {runtime : Runtime}
    (h : ∀ item ∈ items, hasStructuredKind item = false ∧ isShowable runtime item = true) :
    (readItems items runtime).value = .ok (items.filterMap ruleOf?) := by
  induction items with
  | nil => rfl
  | cons item rest ih =>
    obtain ⟨⟨hkind, hshow⟩, hrest⟩ := List.forall_mem_cons.mp h
    rw [readItems, Logged.value_bind, readItem_of_showable hkind hshow]
    dsimp only
    rw [Logged.value_bind, ih hrest]
    cases hrule : ruleOf? item with
    | none => rw [List.filterMap_cons_none hrule]; rfl
    | some rule => rw [List.filterMap_cons_some hrule]; rfl

theorem readItems_eq_error {items : List Json} {item : Json} {runtime : Runtime}
    (hmem : item ∈ items) (h : hasStructuredKind item = true ∨ isShowable runtime item = false) :
    ∃ fault, (readItems items runtime).value = .error fault := by
  induction items with
  | nil => simp at hmem
  | cons first rest ih =>
    rw [readItems, Logged.value_bind]
    cases hfirst : (readItem first runtime).value with
    | error fault => exact ⟨fault, rfl⟩
    | ok rule =>
      -- The item is not the first, which was read.
      have hrest : item ∈ rest := by
        rcases List.mem_cons.mp hmem with rfl | hrest
        · obtain ⟨fault, hfault⟩ := readItem_eq_error h
          rw [hfault] at hfirst
          cases hfirst
        · exact hrest
      obtain ⟨fault, hfault⟩ := ih hrest
      dsimp only
      rw [Logged.value_bind, hfault]
      exact ⟨fault, rfl⟩

theorem isCalm_readItems (items : List Json) (runtime : Runtime) :
    IsCalm (readItems items runtime).entries := by
  induction items with
  | nil => exact isCalm_nil
  | cons item rest ih =>
    rw [readItems, Logged.entries_bind]
    refine (isCalm_readItem item runtime).append ?_
    split
    · exact isCalm_nil
    · rw [Logged.entries_bind]
      refine ih.append ?_
      split
      · exact isCalm_nil
      · exact isCalm_nil

-- ════════════════════════════════════════════════════════════════════════
-- Files
-- ════════════════════════════════════════════════════════════════════════

/-- The text of a file, if it can be read and is one. -/
def text? (read : Source.Reader) (path : Path) : Option (List Char) := do
  let bytes ← (read path).toOption
  let text ← (Utf8.decodeStrict bytes).toOption
  some (Utf8.unifyBreaks text)

/-- The items of a text, if it holds a list of them. -/
def itemsIn? (text : List Char) : Option (List Json) :=
  match Json.read text with
  | .error _ => none
  | .ok data =>
    match data.field? "items" with
    | some (.array items) => some items
    | _ => none

/-- The items of a file, if it holds a list of them. -/
def items? (read : Source.Reader) (path : Path) : Option (List Json) :=
  (text? read path).bind itemsIn?

/-- Reading a text comes to a whole number with too many digits. -/
def HasLongNumber (runtime : Runtime) (text : List Char) : Prop :=
  ∃ fault limit digits, Json.read text (limits runtime) = .error fault ∧
    fault.complaint = .longNumber limit digits

/-- Reading a text comes to an array or object that is nested deeper than there is room for. -/
def IsTooDeep (runtime : Runtime) (text : List Char) : Prop :=
  ∃ fault isArray, Json.read text (limits runtime) = .error fault ∧
    fault.complaint = .tooDeep isArray

/-- What makes loading fail. -/
inductive Blocked (read : Source.Reader) (path : Path) (runtime : Runtime) : Prop where
  /-- The bytes are no text. -/
  | undecodable {bytes : List UInt8} {fault : Utf8.Fault} (hread : read path = .ok bytes)
      (hdecode : Utf8.decodeStrict bytes = .error fault)
  /-- A whole number has too many digits. -/
  | longNumber {text : List Char} (htext : text? read path = some text)
      (hlong : HasLongNumber runtime text)
  /-- The text is nested too deep. -/
  | deepText {text : List Char} (htext : text? read path = some text)
      (hdeep : IsTooDeep runtime text)
  /-- The kind of an item is an array or an object. -/
  | structuredKind {items : List Json} {item : Json} (hitems : items? read path = some items)
      (hitem : item ∈ items) (hkind : hasStructuredKind item = true)
  /-- A message would show a value that is nested too deep. -/
  | deepValue {items : List Json} {item : Json} (hitems : items? read path = some items)
      (hitem : item ∈ items) (hshow : isShowable runtime item = false)

/-- Reading a text comes to one of the limits. -/
def Exceeds (runtime : Runtime) (text : List Char) : Prop :=
  HasLongNumber runtime text ∨ IsTooDeep runtime text

/-- A text that does not come to a limit is read as if there were none. -/
theorem read_of_not_exceeds {runtime : Runtime} {text : List Char} (h : ¬ Exceeds runtime text) :
    Json.read text (limits runtime) = Json.read text := by
  rcases Json.read_limits (limits runtime) text with hsame | ⟨fault, hexceeded, hread⟩
  · exact hsame
  · refine absurd ?_ h
    cases hcomplaint : fault.complaint with
    | longNumber limit digits => exact .inl ⟨fault, limit, digits, hread, hcomplaint⟩
    | tooDeep isArray => exact .inr ⟨fault, isArray, hread, hcomplaint⟩
    | noText =>
      rw [hcomplaint] at hexceeded
      cases hexceeded with
      | noText honly => cases honly
    | _ =>
      rw [hcomplaint] at hexceeded
      cases hexceeded

theorem ofText_of_exceeds {runtime : Runtime} {text : List Char} (path : Path)
    (h : Exceeds runtime text) : ∃ fault, (ofText path text runtime).value = .error fault := by
  rcases h with ⟨fault, limit, digits, hread, hcomplaint⟩ | ⟨fault, isArray, hread, hcomplaint⟩
  · refine ⟨.longNumber digits, ?_⟩
    simp only [ofText, hread, refuseText, hcomplaint, Logged.value_pure]
  · refine ⟨.deepText isArray, ?_⟩
    simp only [ofText, hread, refuseText, hcomplaint, Logged.value_pure]

theorem itemsIn?_eq_some_iff {text : List Char} {items : List Json} :
    itemsIn? text = some items ↔
      ∃ data, Json.read text = .ok data ∧ data.field? "items" = some (.array items) := by
  unfold itemsIn?
  cases Json.read text with
  | error fault => simp
  | ok data =>
    simp only [Except.ok.injEq, exists_eq_left']
    split
    · next found hfield => simp [hfield]
    · next hfield =>
      constructor
      · intro h
        cases h
      · intro h
        exact absurd h (hfield items)

theorem ofText_of_items {runtime : Runtime} {text : List Char} {items : List Json} (path : Path)
    (h : itemsIn? text = some items) (hfree : ¬ Exceeds runtime text) :
    (ofText path text runtime).value = (readItems items runtime).value ∧
      IsCalm (ofText path text runtime).entries := by
  obtain ⟨data, hdata, hfield⟩ := itemsIn?_eq_some_iff.mp h
  have hread := (read_of_not_exceeds hfree).trans hdata
  simp only [ofText, hread, hfield, Logged.value_bind, Logged.entries_bind]
  cases hvalue : (readItems items runtime).value with
  | error fault => exact ⟨rfl, (isCalm_readItems items runtime).append isCalm_nil⟩
  | ok rules => exact ⟨rfl, (isCalm_readItems items runtime).append (by simp [IsCalm])⟩

theorem ofText_of_no_items {runtime : Runtime} {text : List Char} (path : Path)
    (h : itemsIn? text = none) (hfree : ¬ Exceeds runtime text) :
    (ofText path text runtime).value = .ok [] ∧ ¬ IsCalm (ofText path text runtime).entries := by
  have hread := read_of_not_exceeds hfree
  rw [ofText, hread]
  cases hdata : Json.read text with
  | error fault =>
    have hlimited := hread.trans hdata
    dsimp only
    rw [refuseText]
    split
    · next limit digits hcomplaint =>
      exact absurd (.inl ⟨fault, limit, digits, hlimited, hcomplaint⟩) hfree
    · next isArray hcomplaint =>
      exact absurd (.inr ⟨fault, isArray, hlimited, hcomplaint⟩) hfree
    · exact ⟨rfl, by simp [IsCalm]⟩
  | ok data =>
    dsimp only
    split
    · next items hfield =>
      rw [itemsIn?_eq_some_iff.mpr ⟨data, hdata, hfield⟩] at h
      cases h
    · exact ⟨rfl, by simp [IsCalm]⟩

section

variable {read : Source.Reader} {path : Path} {runtime : Runtime}

theorem load_of_text {text : List Char} (h : text? read path = some text) :
    load read path runtime = ofText path text runtime := by
  rw [text?] at h
  rw [load]
  cases hread : read path with
  | error fault => simp [hread, Except.toOption] at h
  | ok bytes =>
    cases hdecode : Utf8.decodeStrict bytes with
    | error fault => simp [hread, hdecode, Except.toOption] at h
    | ok chars =>
      simp only [hread, hdecode, Except.toOption, Option.bind_some, Option.some.injEq,
        Option.bind_eq_bind] at h
      dsimp only
      rw [hdecode, ← h]

/-- One item is enough to make loading fail. -/
theorem load_of_failing_item {items : List Json} {item : Json}
    (hitems : items? read path = some items) (hitem : item ∈ items)
    (hfails : hasStructuredKind item = true ∨ isShowable runtime item = false) :
    ∃ fault, (load read path runtime).value = .error fault := by
  obtain ⟨text, htext, hitems⟩ := Option.bind_eq_some_iff.mp hitems
  rw [load_of_text htext]
  by_cases hexceeds : Exceeds runtime text
  · exact ofText_of_exceeds path hexceeds
  · rw [(ofText_of_items path hitems hexceeds).1]
    exact readItems_eq_error hitem hfails

theorem load_of_blocked (h : Blocked read path runtime) :
    ∃ fault, (load read path runtime).value = .error fault := by
  cases h with
  | @undecodable bytes fault hread hdecode =>
    refine ⟨.undecodable fault, ?_⟩
    simp only [load, hread, hdecode, Logged.value_pure]
  | longNumber htext hlong =>
    rw [load_of_text htext]
    exact ofText_of_exceeds path (.inl hlong)
  | deepText htext hdeep =>
    rw [load_of_text htext]
    exact ofText_of_exceeds path (.inr hdeep)
  | structuredKind hitems hitem hkind => exact load_of_failing_item hitems hitem (.inl hkind)
  | deepValue hitems hitem hshow => exact load_of_failing_item hitems hitem (.inr hshow)

/-- A file that is no text is unreadable or makes loading fail. -/
theorem load_of_no_text (h : text? read path = none) (hfree : ¬ Blocked read path runtime) :
    (load read path runtime).value = .ok [] ∧ ¬ IsCalm (load read path runtime).entries := by
  rw [load]
  cases hread : read path with
  | error fault => exact ⟨rfl, by simp [IsCalm]⟩
  | ok bytes =>
    cases hdecode : Utf8.decodeStrict bytes with
    | error fault => exact absurd (.undecodable hread hdecode) hfree
    | ok chars => simp [text?, hread, hdecode, Except.toOption] at h

end

/-- What is loaded from any file, for any room that there is. If nothing makes loading fail, the
rules are those of the items that stand for one, in the order of the items, and there is an error in
the log exactly if the file holds no list of items. Otherwise there is no result. -/
theorem load_contract (read : Source.Reader) (path : Path) (runtime : Runtime) :
    (¬ Blocked read path runtime →
      (load read path runtime).value = .ok (((items? read path).getD []).filterMap ruleOf?) ∧
      ((∃ entry ∈ (load read path runtime).entries, entry.level = .error) ↔
        items? read path = none)) ∧
    (Blocked read path runtime → ∃ fault, (load read path runtime).value = .error fault) := by
  refine ⟨fun hfree => ?_, load_of_blocked⟩
  have hlog : (∃ entry ∈ (load read path runtime).entries, entry.level = .error) ↔
      ¬ IsCalm (load read path runtime).entries := by simp [IsCalm]
  rw [hlog]
  cases htext : text? read path with
  | none =>
    obtain ⟨hvalue, hentries⟩ := load_of_no_text htext hfree
    simp [items?, htext, hvalue, hentries]
  | some text =>
    have hexceeds : ¬ Exceeds runtime text := by
      rintro (hlong | hdeep)
      · exact hfree (.longNumber htext hlong)
      · exact hfree (.deepText htext hdeep)
    have hitems : items? read path = itemsIn? text := by rw [items?, htext, Option.bind_some]
    rw [load_of_text htext, hitems]
    cases hin : itemsIn? text with
    | none =>
      obtain ⟨hvalue, hentries⟩ := ofText_of_no_items path hin hexceeds
      simp [hvalue, hentries]
    | some items =>
      obtain ⟨hvalue, hentries⟩ := ofText_of_items path hin hexceeds
      have hread : ∀ item ∈ items,
          hasStructuredKind item = false ∧ isShowable runtime item = true := by
        intro item hitem
        constructor
        · refine Bool.eq_false_iff.mpr fun hkind => hfree ?_
          exact .structuredKind (hitems.trans hin) hitem hkind
        · refine Bool.not_eq_false _ |>.mp fun hshow => hfree ?_
          exact .deepValue (hitems.trans hin) hitem hshow
      simp [hvalue, hentries, readItems_of_showable hread]

namespace Sample

/-- The file of the checklist. -/
def path : Path := ⟨.relative, [fileName]⟩

/-- A checklist with a value that is no object, an item without a kind, an item that does not fit
its kind, and two items that are rules. -/
def mixed : String :=
  "\x7b\"items\": [7, \x7b\"type\": 5\x7d, " ++
  "\x7b\"type\": \"line_rule\", \"maxLength\": \"no\"\x7d, " ++
  "\x7b\"id\": \"A\", \"pattern\": \"a\"\x7d, \x7b\"id\": \"F\", \"type\": \"file_rule\"\x7d]\x7d"

/-- A checklist with an item whose kind is an array, before an item that is a rule. -/
def structured : String :=
  "\x7b\"items\": [\x7b\"type\": [1]\x7d, \x7b\"id\": \"A\", \"pattern\": \"a\"\x7d]\x7d"

/-- A text that opens arrays in arrays. -/
def brackets (n : Nat) : String := String.ofList (List.replicate n '[')

/-- The reader of a file with a text. -/
def readText (text : String) : Source.Reader := fun _ => .ok (Utf8.encode text.toList)

theorem text?_readText (text : String) :
    text? (readText text) path = some (Utf8.unifyBreaks text.toList) := by
  simp [text?, readText, Utf8.decodeStrict_encode, Except.toOption]

theorem items?_readText (text : String) :
    items? (readText text) path = itemsIn? (Utf8.unifyBreaks text.toList) := by
  rw [items?, text?_readText, Option.bind_some]

theorem blocked_brackets {runtime : Runtime} {room : Nat} (h : runtime.reading = some room) :
    Blocked (readText (brackets (room + 1))) path runtime := by
  refine .deepText (text?_readText _) ?_
  obtain ⟨fault, hread, hcomplaint⟩ :=
    @Json.read_brackets (limits runtime) _ _ h (Nat.lt_succ_self room) []
  rw [List.append_nil] at hread
  refine ⟨fault, true, ?_, hcomplaint⟩
  have hbreaks : Utf8.unifyBreaks (List.replicate (room + 1) '[') = List.replicate (room + 1) '[' :=
    Utf8.unifyBreaks_of_forall_ne fun c hc => by
      rw [List.eq_of_mem_replicate hc]
      decide
  rw [brackets, String.toList_ofList, hbreaks]
  exact hread

end Sample

open Sample

/-- Items that are no rules are left out on their own. -/
theorem load_contract_of_mixed_items :
    ∃ rules, (load (readText mixed) path .usual).value = .ok rules ∧
      rules.map Rule.identity = ["A", "F"] ∧
      IsCalm (load (readText mixed) path .usual).entries := by
  have hsome : (load (readText mixed) path .usual).value.toOption.isSome = true := by
    rw [load_of_text (text?_readText mixed)]
    decide +kernel
  have hrules : (((items? (readText mixed) path).getD []).filterMap ruleOf?).map Rule.identity =
      ["A", "F"] := by
    rw [items?_readText]
    decide +kernel
  obtain ⟨hloaded, hfails⟩ := load_contract (readText mixed) path .usual
  have hfree : ¬ Blocked (readText mixed) path .usual := by
    intro hblocked
    obtain ⟨fault, hfault⟩ := hfails hblocked
    rw [hfault] at hsome
    cases hsome
  obtain ⟨hvalue, hlog⟩ := hloaded hfree
  refine ⟨_, hvalue, hrules, fun entry hentry hlevel => ?_⟩
  rw [hlog.mp ⟨entry, hentry, hlevel⟩] at hrules
  cases hrules

/-- Bytes that are no text, a kind that is an array, and arrays that are nested deeper than there is
room for leave no result. In the second case another item is a rule. -/
theorem load_fails :
    (∀ rules, (load (fun _ => .ok [0xff, 0xfe, 0x7b, 0x7d]) path).value ≠ .ok rules) ∧
    (∀ rules, (load (readText structured) path).value ≠ .ok rules) ∧
    (((items? (readText structured) path).getD []).filterMap ruleOf?).map Rule.identity =
      ["A"] ∧
    (∀ runtime room, runtime.reading = some room →
      ∀ rules, (load (readText (brackets (room + 1))) path runtime).value ≠ .ok rules) := by
  have hbytes : (load (fun _ => .ok [0xff, 0xfe, 0x7b, 0x7d]) path).value.toOption = none := by
    decide +kernel
  have htext : (load (readText structured) path).value.toOption = none := by
    rw [load_of_text (text?_readText structured)]
    decide +kernel
  refine ⟨fun rules hrules => ?_, fun rules hrules => ?_, ?_, ?_⟩
  · rw [hrules] at hbytes
    cases hbytes
  · rw [hrules] at htext
    cases htext
  · rw [items?_readText]
    decide +kernel
  · intro runtime room hroom rules hrules
    obtain ⟨fault, hfault⟩ := load_of_blocked (blocked_brackets hroom)
    rw [hfault] at hrules
    cases hrules

end Checklist

end ChecklistReview
