import ChecklistReview.Validation.Field
import Mathlib.Algebra.Group.Nat.Defs

/-!
# What valid data tells

A record is valid only if each of its members is, so what holds of every member that is read
holds of every valid record.

## Main statements

* `Checked.seq_eq_valid_iff`: a record is valid if all of its members are.
* `Checked.exists_of_all_eq_valid`: each item of a valid list comes from an item that was read.
* `exists_of_required` and `exists_of_withDefault`: where the value of a member comes from.
* `toNat_lt_of_readInteger`: whole numbers are read up to a limit of digits.
-/

namespace ChecklistReview.Validation

-- ════════════════════════════════════════════════════════════════════════
-- Checked values
-- ════════════════════════════════════════════════════════════════════════

namespace Checked

variable {α β : Type}

@[simp]
theorem map_valid (f : α → β) (a : α) : f <$> (Checked.valid a) = .valid (f a) := rfl

@[simp]
theorem valid_seq (f : α → β) (a : α) :
    (Checked.valid f : Checked (α → β)) <*> Checked.valid a = .valid (f a) := rfl

theorem map_eq_valid_iff {f : α → β} {x : Checked α} {b : β} :
    f <$> x = .valid b ↔ ∃ a, x = .valid a ∧ f a = b := by
  cases x with
  | valid a => simp
  | invalid issues =>
    constructor
    · exact fun h => nomatch h
    · rintro ⟨a, h, -⟩
      exact nomatch h

/-- A record is valid if all of its members are. -/
theorem seq_eq_valid_iff {f : Checked (α → β)} {x : Checked α} {b : β} :
    f <*> x = .valid b ↔ ∃ g a, f = .valid g ∧ x = .valid a ∧ g a = b := by
  cases f with
  | valid g =>
    cases x with
    | valid a => simp
    | invalid issues =>
      constructor
      · exact fun h => nomatch h
      · rintro ⟨_, a, -, h, -⟩
        exact nomatch h
  | invalid issues =>
    constructor
    · cases x <;> exact fun h => nomatch h
    · rintro ⟨g, a, h, -⟩
      exact nomatch h

@[simp]
theorem under_valid (s : Segment) (a : α) : (Checked.valid a).under s = .valid a := rfl

theorem under_eq_valid_iff {s : Segment} {x : Checked α} {a : α} :
    x.under s = .valid a ↔ x = .valid a := by
  cases x <;> simp [under]

/-- A list is valid if all of its items are. -/
theorem all_valid {check : α → Checked β} {write : β → α} {items : List β}
    (h : ∀ b ∈ items, check (write b) = .valid b) (start : Nat) :
    all check start (items.map write) = .valid items := by
  induction items generalizing start with
  | nil => rfl
  | cons b items ih =>
    rw [List.map_cons, all, h b List.mem_cons_self,
      ih (fun b hb => h b (List.mem_cons_of_mem _ hb))]
    rfl

/-- Each item of a valid list comes from an item that was read. -/
theorem exists_of_all_eq_valid {check : α → Checked β} {start : Nat} {items : List α}
    {results : List β} (h : all check start items = .valid results) {b : β} (hb : b ∈ results) :
    ∃ a ∈ items, check a = .valid b := by
  induction items generalizing start results with
  | nil =>
    cases h
    simp at hb
  | cons a items ih =>
    obtain ⟨g, rest, hfirst, hrest, rfl⟩ := seq_eq_valid_iff.1 h
    obtain ⟨first, hunder, rfl⟩ := map_eq_valid_iff.1 hfirst
    rcases List.mem_cons.1 hb with rfl | hb
    · exact ⟨a, List.mem_cons_self, under_eq_valid_iff.1 hunder⟩
    · obtain ⟨a', ha', hcheck⟩ := ih hrest hb
      exact ⟨a', List.mem_cons_of_mem _ ha', hcheck⟩

end Checked

-- ════════════════════════════════════════════════════════════════════════
-- Members
-- ════════════════════════════════════════════════════════════════════════

section Members

variable {α : Type} {ms : List (String × Json)} {key second : String} {read : Json → Checked α}

theorem exists_of_member? {used : String} {j : Json}
    (h : member? (.object ms) key second = some (used, j)) : ∃ k, (k, j) ∈ ms := by
  have hlookup : ∀ k, (Json.object ms).field? k = some j → ∃ k, (k, j) ∈ ms := by
    intro k hk
    obtain ⟨before, after, hms, -⟩ := List.lookup_eq_some_iff.1 hk
    have hms : ms = before ++ (k, j) :: after := hms
    exact ⟨k, by simp [hms]⟩
  unfold member? at h
  split at h
  · next j' hj =>
    obtain ⟨-, rfl⟩ := Prod.mk.inj (Option.some.inj h)
    exact hlookup key hj
  · obtain ⟨j', hj, heq⟩ := Option.map_eq_some_iff.1 h
    obtain ⟨-, rfl⟩ := Prod.mk.inj heq
    exact hlookup second hj

/-- The value of a member that must be present is read from one of the members. -/
theorem exists_of_required {a : α} (h : required (.object ms) key second read = .valid a) :
    ∃ k j, (k, j) ∈ ms ∧ read j = .valid a := by
  unfold required at h
  split at h
  · next used j hmember =>
    obtain ⟨k, hk⟩ := exists_of_member? hmember
    exact ⟨k, j, hk, Checked.under_eq_valid_iff.1 h⟩
  · exact nomatch h

/-- The value of a member that may be absent is the default or is read from one of the members. -/
theorem exists_of_withDefault {default a : α}
    (h : withDefault (.object ms) key second default read = .valid a) :
    a = default ∨ ∃ k j, (k, j) ∈ ms ∧ read j = .valid a := by
  unfold withDefault at h
  split at h
  · next used j hmember =>
    obtain ⟨k, hk⟩ := exists_of_member? hmember
    exact .inr ⟨k, j, hk, Checked.under_eq_valid_iff.1 h⟩
  · cases h
    exact .inl rfl

theorem required_of_field? {record j : Json} (h : record.field? key = some j) :
    required record key second read = (read j).under (.key key) := by
  simp only [required, member?, h]

theorem withDefault_of_field? {record j : Json} {default : α} (h : record.field? key = some j) :
    withDefault record key second default read = (read j).under (.key key) := by
  simp only [withDefault, member?, h]

/-- A text is read as it is written, with its halves. -/
theorem readText_ofWording (w : Wording) : readText (.ofWording w) = .valid w := by
  cases w with
  | text s => rfl
  | broken codes h =>
    simp only [Json.ofWording, readText, Wording.ofCodes]
    split
    · next hall =>
      rw [hall] at h
      cases h
    · rfl

/-- A text that may be missing is read as it is, present or not. -/
theorem withDefault_optional {record : Json} {x : Option Wording}
    (h : record.field? key = x.map Json.ofWording) :
    withDefault record key key none (Validation.optional readText) = .valid x := by
  cases x with
  | none => simp only [withDefault, member?, h, Option.map_none]
  | some w =>
    have hread : Validation.optional readText (.ofWording w) =
        some <$> readText (.ofWording w) := by
      cases w <;> rfl
    rw [withDefault_of_field? h, hread, readText_ofWording]
    rfl

end Members

-- ════════════════════════════════════════════════════════════════════════
-- Whole numbers
-- ════════════════════════════════════════════════════════════════════════

theorem isDigit_of_dropUnderscores {text digits : List Char}
    (h : dropUnderscores text = some digits) : ∀ c ∈ digits, isDigit c = true := by
  fun_induction dropUnderscores text generalizing digits with
  | case1 => simp at h
  | case2 c hc =>
    cases h
    simpa using hc
  | case3 => simp at h
  | case4 c rest hc ih =>
    obtain ⟨more, hmore, rfl⟩ := Option.map_eq_some_iff.1 h
    simpa using ⟨hc, ih hmore⟩
  | case5 => simp at h
  | case6 c rest _ _ hc ih =>
    obtain ⟨more, hmore, rfl⟩ := Option.map_eq_some_iff.1 h
    simpa using ⟨hc, ih hmore⟩
  | case7 => simp at h

/-- Digits make up a number below the power of ten of their count. -/
theorem ofDigitChars_lt {digits : List Char} (h : ∀ c ∈ digits, isDigit c = true) (init : Nat) :
    Nat.ofDigitChars 10 digits init < (init + 1) * 10 ^ digits.length := by
  induction digits generalizing init with
  | nil => simp
  | cons c digits ih =>
    obtain ⟨hc, hdigits⟩ := List.forall_mem_cons.1 h
    have hdigit : c.toNat - '0'.toNat ≤ 9 := by
      simp only [isDigit, Bool.and_eq_true, decide_eq_true_eq] at hc
      have hle : c.toNat ≤ '9'.toNat := hc.2
      simp only [Char.reduceToNat] at hle ⊢
      omega
    rw [Nat.ofDigitChars_cons, List.length_cons, Nat.pow_succ, Nat.mul_comm _ 10, ← Nat.mul_assoc]
    refine Nat.lt_of_lt_of_le (ih hdigits _) (Nat.mul_le_mul_right _ ?_)
    omega

theorem lt_limit {n : Nat} (h : n < 10 ^ 20) : n < 10 ^ digitLimit :=
  Nat.lt_of_lt_of_le h (Nat.pow_le_pow_right (by decide) (by decide))

theorem integerOfText_lt {s : String} {n : Int} (h : integerOfText s = .valid n) :
    n.toNat < 10 ^ digitLimit := by
  unfold integerOfText at h
  simp only at h
  split at h
  · exact nomatch h
  · next digits hdigits =>
    split at h
    · exact nomatch h
    · next hlength =>
      simp only [digitsOf?, Option.bind_eq_bind, Option.bind_eq_some_iff] at hdigits
      obtain ⟨whole, -, hdigits⟩ := hdigits
      have hlt := ofDigitChars_lt (isDigit_of_dropUnderscores hdigits) 0
      have hle := Nat.pow_le_pow_right (show 0 < 10 by decide) (Nat.le_of_not_lt hlength)
      have hn := Checked.valid.inj h
      split at hn <;> omega

theorem integerOfReal_lt {x : Float} {n : Int} (h : integerOfReal x = .valid n) :
    n.toNat < 10 ^ digitLimit := by
  unfold integerOfReal at h
  repeat' split at h
  · exact nomatch h
  · exact nomatch h
  · cases h
    have hlt := x.toInt64.toInt_lt
    exact lt_limit (by omega)
  · exact nomatch h

/-- Whole numbers are read up to a limit of digits, if those that data holds are. -/
theorem toNat_lt_of_readInteger {j : Json} {n : Int}
    (hj : ∀ m : Int, j = .int m → m.toNat < 10 ^ digitLimit) (h : readInteger j = .valid n) :
    n.toNat < 10 ^ digitLimit := by
  cases j with
  | int m =>
    cases h
    exact hj n rfl
  | bool b =>
    cases h
    exact lt_limit (by cases b <;> decide)
  | real x => exact integerOfReal_lt h
  | str s => exact integerOfText_lt h
  | null => exact nomatch h
  | broken codes => exact nomatch h
  | array items => exact nomatch h
  | object ms => exact nomatch h

end ChecklistReview.Validation
