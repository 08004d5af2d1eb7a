import ChecklistReview.Json.Writer
import ChecklistReview.Proofs.Json.Limits

/-!
# Data is read as it was written

A value of words, whole numbers, texts, arrays and objects is read as it was written, whatever
blanks the layout puts between its parts.

## Main statements

* `readStringTail_flatMap`: the characters of a string are read one by one.
* `readNumber_writeInt`: whole numbers are read up to what follows them.
* `readValue_write`: a value is read from the start of what is written.
* `read_pretty`: the whole of what is written is read.
-/

namespace ChecklistReview.Json

-- ════════════════════════════════════════════════════════════════════════
-- Strings
-- ════════════════════════════════════════════════════════════════════════

theorem hexValue?_hexDigit {d : Nat} (h : d < 16) : hexValue? (Text.hexDigit d) = some d := by
  have hdigit : ∀ d : Fin 16, hexValue? (Text.hexDigit d) = some d.val := by decide
  exact hdigit ⟨d, h⟩

/-- Four digits to the base sixteen are read as they were written. -/
theorem fourDigits?_hexDigits {n : Nat} (h : n < 0x10000) :
    ∃ a b c d, Text.hexDigits 4 n = [a, b, c, d] ∧ fourDigits? a b c d = some n := by
  refine ⟨_, _, _, _, rfl, ?_⟩
  have hlt : ∀ m, m % 16 < 16 := fun m => Nat.mod_lt m (by decide)
  simp only [fourDigits?, hexValue?_hexDigit (hlt _), Option.bind_eq_bind, Option.bind_some]
  exact congrArg some (by omega)

/-- A short escape is read as the character it stands for. -/
theorem readStringTail_escaped {e : Char} {unit : Nat} (he : escaped? e = some unit)
    (rest : List Char) :
    readStringTail ('\\' :: e :: rest) =
      (readStringTail rest).map fun (units, after) => (unit :: units, after) := by
  have hu : e ≠ 'u' := by
    rintro rfl
    simp [escaped?] at he
  rw [readStringTail]
  · simp [he]
  · simp [hu]
  · simp [hu]

/-- An escape by number is read as the character of that number. -/
theorem readStringTail_number {n : Nat} (h : n < 0x10000) {rest : List Char} (hrest : rest ≠ []) :
    readStringTail ('\\' :: 'u' :: Text.hexDigits 4 n ++ rest) =
      (readStringTail rest).map fun (units, after) => (n :: units, after) := by
  obtain ⟨x, more, rfl⟩ := List.exists_cons_of_ne_nil hrest
  obtain ⟨a, b, c, d, hdigits, hvalue⟩ := fourDigits?_hexDigits h
  rw [hdigits]
  simp only [List.cons_append, List.nil_append]
  rw [readStringTail]
  simp only [hvalue]

/-- Other characters stand for themselves. -/
theorem readStringTail_plain {c : Char} (hquote : c ≠ '"') (hslash : c ≠ '\\')
    (hcontrol : ¬c.toNat < 0x20) (rest : List Char) :
    readStringTail (c :: rest) =
      (readStringTail rest).map fun (units, after) => (c.toNat :: units, after) := by
  rw [readStringTail]
  · simp [hcontrol]
  all_goals simp [hquote, hslash]

/-- What is written for a character: a short escape, an escape by number or the character. -/
theorem escapeChar_cases (c : Char) :
    (∃ e, escaped? e = some c.toNat ∧ escapeChar c = ['\\', e]) ∨
      (c.toNat < 0x20 ∧ escapeChar c = '\\' :: 'u' :: Text.hexDigits 4 c.toNat) ∨
      (c ≠ '"' ∧ c ≠ '\\' ∧ ¬c.toNat < 0x20) ∧ escapeChar c = [c] := by
  unfold escapeChar
  iterate 7
    split
    · next h => exact .inl ⟨_, by rw [h]; rfl, rfl⟩
  split
  · next h => exact .inr (.inl ⟨h, rfl⟩)
  · next hquote hslash _ _ _ _ _ hcontrol => exact .inr (.inr ⟨⟨hquote, hslash, hcontrol⟩, rfl⟩)

/-- A character is read from the start of what is written for it. -/
theorem readStringTail_escapeChar (c : Char) {rest : List Char} (hrest : rest ≠ []) :
    readStringTail (escapeChar c ++ rest) =
      (readStringTail rest).map fun (units, after) => (c.toNat :: units, after) := by
  rcases escapeChar_cases c with ⟨e, he, h⟩ | ⟨hc, h⟩ | ⟨⟨hquote, hslash, hcontrol⟩, h⟩
  · rw [h]
    exact readStringTail_escaped he rest
  · rw [h]
    exact readStringTail_number (by omega) hrest
  · rw [h]
    exact readStringTail_plain hquote hslash hcontrol rest

/-- The characters of a string are read up to its closing quote. -/
theorem readStringTail_flatMap (text rest : List Char) :
    readStringTail (text.flatMap escapeChar ++ '"' :: rest) = .ok (text.map Char.toNat, rest) := by
  induction text with
  | nil => rfl
  | cons c text ih =>
    rw [List.flatMap_cons, List.append_assoc, readStringTail_escapeChar c (by simp), ih]
    rfl

theorem readString_flatMap (whole text rest : List Char) :
    readString whole (text.flatMap escapeChar ++ '"' :: rest) =
      .ok (text.map Char.toNat, rest) := by
  rw [readString, readStringTail_flatMap]
  rfl

/-- No character is half of a surrogate pair. -/
theorem isHighHalf_toNat (c : Char) : isHighHalf c.toNat = false := by
  have hvalid : c.toNat.isValidChar := c.valid
  simp only [Nat.isValidChar] at hvalid
  simp only [isHighHalf, Bool.and_eq_false_iff, decide_eq_false_iff_not]
  omega

theorem joinPairs_map_toNat (text : List Char) :
    joinPairs (text.map Char.toNat) = text.map Char.toNat := by
  induction text with
  | nil => rfl
  | cons c text ih =>
    cases text with
    | nil => rfl
    | cons d text =>
      rw [List.map_cons, List.map_cons, joinPairs, isHighHalf_toNat, Bool.false_and,
        if_neg Bool.false_ne_true]
      exact congrArg _ ih

theorem textOfUnits_map_toNat (text : List Char) :
    textOfUnits (text.map Char.toNat) = String.ofList text := by
  simp [textOfUnits, joinPairs_map_toNat, Function.comp_def]

theorem ofUnits_map_toNat (text : List Char) :
    ofUnits (text.map Char.toNat) = .str (String.ofList text) := by
  have hall : (joinPairs (text.map Char.toNat)).all Text.isCharacterCode = true := by
    rw [joinPairs_map_toNat, List.all_map, List.all_eq_true]
    exact fun c _ => decide_eq_true c.valid
  rw [ofUnits, if_pos hall, textOfUnits_map_toNat]

-- ════════════════════════════════════════════════════════════════════════
-- Numbers
-- ════════════════════════════════════════════════════════════════════════

/-- Whether a text does not go on with a number that ends before it. -/
def EndsNumber (rest : List Char) : Prop :=
  ∀ c ∈ rest.head?, isDigit c = false ∧ c ≠ '.' ∧ c ≠ 'e' ∧ c ≠ 'E'

theorem isDigit_of_mem_toDigits {n : Nat} {c : Char} (h : c ∈ Nat.toDigits 10 n) :
    isDigit c = true := by
  have hdigit := Nat.isDigit_of_mem_toDigits (by decide) (by decide) h
  simpa [isDigit, Char.isDigit, Char.le_def] using hdigit

theorem ne_of_isDigit {c d : Char} (hc : isDigit c = true) (hd : isDigit d = false) : c ≠ d := by
  rintro rfl
  exact absurd (hc.symm.trans hd) (by decide)

/-- Only zero is written with a zero at its start. -/
theorem head?_toDigits_ne {n : Nat} (h : 0 < n) : (Nat.toDigits 10 n).head? ≠ some '0' := by
  induction n using Nat.strongRecOn with
  | _ n ih =>
    by_cases hn : n < 10
    · have hdigit : ∀ d : Fin 10, 0 < d.val → Nat.digitChar d ≠ '0' := by decide
      rw [Nat.toDigits_of_lt_base hn]
      simpa using hdigit ⟨n, hn⟩ h
    · have hdiv := ih (n / 10) (by omega) (by omega)
      obtain ⟨c, more, hdigits⟩ :=
        List.exists_cons_of_ne_nil (@Nat.toDigits_ne_nil (n / 10) 10)
      rw [Nat.toDigits_of_base_le (by decide) (by omega)]
      rw [hdigits] at hdiv ⊢
      exact hdiv

theorem takeWhile_toDigits (n : Nat) {rest : List Char} (h : EndsNumber rest) :
    (Nat.toDigits 10 n ++ rest).takeWhile isDigit = Nat.toDigits 10 n ∧
      (Nat.toDigits 10 n ++ rest).dropWhile isDigit = rest := by
  have hstop : rest.takeWhile isDigit = [] ∧ rest.dropWhile isDigit = rest := by
    cases rest with
    | nil => exact ⟨rfl, rfl⟩
    | cons c rest => simp [(h c rfl).1]
  rw [List.takeWhile_append_of_pos fun c => isDigit_of_mem_toDigits,
    List.dropWhile_append_of_pos fun c => isDigit_of_mem_toDigits, hstop.1, hstop.2]
  simp

theorem readWhole_toDigits (n : Nat) {rest : List Char} (h : EndsNumber rest) :
    readWhole (Nat.toDigits 10 n ++ rest) = some (Nat.toDigits 10 n, rest) := by
  obtain ⟨htake, hdrop⟩ := takeWhile_toDigits n h
  rcases Nat.eq_zero_or_pos n with rfl | hpos
  · rfl
  · obtain ⟨c, more, hdigits⟩ := List.exists_cons_of_ne_nil (@Nat.toDigits_ne_nil n 10)
    have hc : c ≠ '0' := by
      intro heq
      exact head?_toDigits_ne hpos (by rw [hdigits, heq]; rfl)
    rw [hdigits, List.cons_append] at htake hdrop ⊢
    rw [readWhole, htake, hdrop]
    · simpa using hc

theorem readFraction_of_endsNumber {rest : List Char} (h : EndsNumber rest) :
    readFraction rest = (none, rest) := by
  cases rest with
  | nil => rfl
  | cons c rest =>
    rw [readFraction]
    simpa using (h c rfl).2.1

theorem readExponent_of_endsNumber {rest : List Char} (h : EndsNumber rest) :
    readExponent rest = (none, rest) := by
  cases rest with
  | nil => rfl
  | cons c rest => simp [readExponent, (h c rfl).2.2.1, (h c rfl).2.2.2]

theorem readSign_toDigits (n : Nat) (rest : List Char) :
    readSign (Nat.toDigits 10 n ++ rest) = (false, Nat.toDigits 10 n ++ rest) := by
  obtain ⟨c, more, hdigits⟩ := List.exists_cons_of_ne_nil (@Nat.toDigits_ne_nil n 10)
  have hc : isDigit c = true := isDigit_of_mem_toDigits (hdigits ▸ List.mem_cons_self)
  rw [hdigits, List.cons_append, readSign]
  intro rest heq
  exact ne_of_isDigit hc (by decide) (List.cons.inj heq).1

/-- A whole number is read up to what follows it. -/
theorem readNumber_writeInt (n : Int) {rest : List Char} (h : EndsNumber rest) :
    readNumber (writeInt n ++ rest) = some (.int n, rest) := by
  have hvalue : natOfDigits (Nat.toDigits 10 n.natAbs) = n.natAbs := Nat.ofDigitChars_ten_toDigits
  unfold writeInt
  split
  · next hneg =>
    have hsign : readSign ('-' :: (Nat.toDigits 10 n.natAbs ++ rest)) =
      (true, Nat.toDigits 10 n.natAbs ++ rest) := rfl
    have habs : -(n.natAbs : Int) = n := by omega
    rw [← hvalue] at habs
    simp [readNumber, hsign, readWhole_toDigits _ h, readFraction_of_endsNumber h,
      readExponent_of_endsNumber h, habs]
  · next hnonneg =>
    have habs : (n.natAbs : Int) = n := by omega
    rw [← hvalue] at habs
    simp [readNumber, readSign_toDigits, readWhole_toDigits _ h, readFraction_of_endsNumber h,
      readExponent_of_endsNumber h, habs]

-- ════════════════════════════════════════════════════════════════════════
-- Values without parts
-- ════════════════════════════════════════════════════════════════════════

/-- What is written for a whole number begins with a digit, or with a minus sign and a digit. -/
theorem writeInt_cases (n : Int) :
    ∃ c more, isDigit c = true ∧ (writeInt n = c :: more ∨ writeInt n = '-' :: c :: more) := by
  obtain ⟨c, more, hdigits⟩ := List.exists_cons_of_ne_nil (@Nat.toDigits_ne_nil n.natAbs 10)
  refine ⟨c, more, isDigit_of_mem_toDigits (hdigits ▸ List.mem_cons_self), ?_⟩
  rw [writeInt, hdigits]
  split
  · exact .inr rfl
  · exact .inl rfl

/-- Words begin with two letters that are no digits. -/
theorem exists_of_mem_words {word : String} {value : Json} (h : (word, value) ∈ words) :
    ∃ a b more, word.toList = a :: b :: more ∧ isDigit a = false ∧ isDigit b = false := by
  have hall : (words.map fun w => w.1.toList).all (fun w =>
      decide (2 ≤ w.length) && (w.take 2).all fun c => !isDigit c) = true := by decide
  have hword := List.all_eq_true.1 hall word.toList (List.mem_map.2 ⟨_, h, rfl⟩)
  match hlist : word.toList with
  | [] => simp [hlist] at hword
  | [_] => simp [hlist] at hword
  | a :: b :: more =>
    rw [hlist] at hword
    exact ⟨a, b, more, rfl, by simpa using hword⟩

theorem afterWord?_writeInt {word : String} {value : Json} (h : (word, value) ∈ words) (n : Int)
    (rest : List Char) : afterWord? word (writeInt n ++ rest) = none := by
  obtain ⟨a, b, more, hword, ha, hb⟩ := exists_of_mem_words h
  obtain ⟨c, digits, hc, hform⟩ := writeInt_cases n
  refine if_neg ?_
  rcases hform with hform | hform
  · simp [hword, hform, (ne_of_isDigit hc ha).symm]
  · simp [hword, hform, (ne_of_isDigit hc hb).symm]

/-- No word begins as a whole number does. -/
theorem readWord?_writeInt (n : Int) (rest : List Char) :
    readWord? (writeInt n ++ rest) = none := by
  rw [readWord?, List.findSome?_eq_none_iff]
  rintro ⟨word, value⟩ hword
  simp only [afterWord?_writeInt hword, Option.map_none]

theorem readAtom_writeInt {limits : Limits} {n : Int} (hn : limits.excess? (.int n) = none)
    {rest : List Char} (h : EndsNumber rest) :
    readAtom limits (writeInt n ++ rest) = .ok (.int n, rest) := by
  simp only [readAtom, readWord?_writeInt, readNumber_writeInt n h, Limits.check, hn]
  rfl

-- ════════════════════════════════════════════════════════════════════════
-- Layouts
-- ════════════════════════════════════════════════════════════════════════

/-- A layout that puts only blanks between the parts of a value. -/
structure Layout.IsBlank (layout : Layout) : Prop where
  lead : ∀ level, ∀ c ∈ layout.lead level, isGap c = true
  colon : ∃ gap, layout.colon = ':' :: gap ∧ ∀ c ∈ gap, isGap c = true

theorem Layout.isBlank_pretty : Layout.pretty.IsBlank where
  lead level c h := by
    rcases List.mem_cons.1 h with rfl | h
    · rfl
    · rw [(List.mem_replicate.1 h).2]
      rfl
  colon := ⟨[' '], rfl, List.forall_mem_singleton.2 rfl⟩

/-- A gap is skipped up to what follows it. -/
theorem skipGap_append {gap text : List Char} (hgap : ∀ c ∈ gap, isGap c = true)
    (htext : ∀ c ∈ text.head?, isGap c = false) : skipGap (gap ++ text) = text := by
  rw [skipGap, List.dropWhile_append_of_pos hgap]
  cases text with
  | nil => rfl
  | cons c text => simp [htext c rfl]

theorem not_digit_of_isGap {c : Char} (h : isGap c = true) :
    isDigit c = false ∧ c ≠ '.' ∧ c ≠ 'e' ∧ c ≠ 'E' := by
  simp only [isGap, Bool.or_eq_true, decide_eq_true_eq] at h
  rcases h with ((rfl | rfl) | rfl) | rfl <;> decide

theorem endsNumber_append {gap text : List Char} (hgap : ∀ c ∈ gap, isGap c = true)
    (htext : EndsNumber text) : EndsNumber (gap ++ text) := by
  cases gap with
  | nil => exact htext
  | cons c gap =>
    intro d hd
    rw [← Option.some.inj hd]
    exact not_digit_of_isGap (hgap c List.mem_cons_self)

theorem endsNumber_cons {c : Char} (h : c = ',' ∨ c = ']' ∨ c = '}') (text : List Char) :
    EndsNumber (c :: text) := by
  intro d hd
  rw [← Option.some.inj hd]
  rcases h with rfl | rfl | rfl <;> decide

-- ════════════════════════════════════════════════════════════════════════
-- Values
-- ════════════════════════════════════════════════════════════════════════

mutual

/-- A value whose parts are words, whole numbers and texts, with distinct keys in each object. -/
def IsPlain : Json → Prop
  | .real _ | .broken _ => False
  | .array items => ArePlain items
  | .object ms => (ms.map Prod.fst).Nodup ∧ ArePlainMembers ms
  | _ => True

/-- Values each of which is plain. -/
def ArePlain : List Json → Prop
  | [] => True
  | j :: js => j.IsPlain ∧ ArePlain js

/-- Members each of whose values is plain. -/
def ArePlainMembers : List (String × Json) → Prop
  | [] => True
  | (_, j) :: ms => j.IsPlain ∧ ArePlainMembers ms

end

/-- The items of an array without what is around them. -/
def writtenItems (layout : Layout) (level : Nat) : List Json → List Char
  | [] => []
  | item :: items => write layout level item ++ writeItems layout level items

/-- The members of an object without what is around them. -/
def writtenMembers (layout : Layout) (level : Nat) : List (String × Json) → List Char
  | [] => []
  | (key, value) :: members =>
    writeString key ++ layout.colon ++ write layout level value ++ writeMembers layout level members

/-- Whether a character is no blank, no closing bracket and no byte order mark. -/
def MayBegin (c : Char) : Prop := isGap c = false ∧ c ≠ ']' ∧ c ≠ Char.ofNat 0xfeff

instance (c : Char) : Decidable (MayBegin c) := inferInstanceAs (Decidable (_ ∧ _))

theorem mayBegin_of_isDigit {c : Char} (h : isDigit c = true) : MayBegin c := by
  refine ⟨?_, ne_of_isDigit h (by decide), ne_of_isDigit h (by decide)⟩
  cases hgap : isGap c with
  | false => rfl
  | true => exact absurd rfl (ne_of_isDigit h (not_digit_of_isGap hgap).1)

/-- What is written for a value begins with a character that no reader skips or refuses. -/
theorem head_write (layout : Layout) (level : Nat) {j : Json} (h : j.IsPlain) :
    ∃ c more, write layout level j = c :: more ∧ MayBegin c := by
  cases j with
  | null => exact ⟨_, _, rfl, by decide⟩
  | bool b => cases b <;> exact ⟨_, _, rfl, by decide⟩
  | int n =>
    obtain ⟨c, more, hc, hform | hform⟩ := writeInt_cases n
    · exact ⟨c, more, hform, mayBegin_of_isDigit hc⟩
    · exact ⟨_, _, hform, by decide⟩
  | str s => exact ⟨_, _, rfl, by decide⟩
  | array items => cases items <;> exact ⟨_, _, rfl, by decide⟩
  | object ms => cases ms <;> exact ⟨_, _, rfl, by decide⟩
  | real x => exact h.elim
  | broken codes => exact h.elim

theorem write_array (layout : Layout) (level : Nat) (item : Json) (items : List Json) :
    write layout level (.array (item :: items)) = '[' :: (layout.lead (level + 1) ++
      (writtenItems layout (level + 1) (item :: items) ++ (layout.lead level ++ [']']))) := by
  simp [write, writtenItems]

theorem writeItems_cons (layout : Layout) (level : Nat) (item : Json) (items : List Json) :
    writeItems layout level (item :: items) =
      ',' :: (layout.lead level ++ writtenItems layout level (item :: items)) := by
  simp [writeItems, writtenItems]

theorem write_object (layout : Layout) (level : Nat) (m : String × Json)
    (ms : List (String × Json)) :
    write layout level (.object (m :: ms)) = '{' :: (layout.lead (level + 1) ++
      (writtenMembers layout (level + 1) (m :: ms) ++ (layout.lead level ++ ['}']))) := by
  simp [write, writtenMembers]

theorem writeMembers_cons (layout : Layout) (level : Nat) (m : String × Json)
    (ms : List (String × Json)) :
    writeMembers layout level (m :: ms) =
      ',' :: (layout.lead level ++ writtenMembers layout level (m :: ms)) := by
  simp [writeMembers, writtenMembers]

theorem setMember_of_not_mem {key : String} (value : Json) {before : List (String × Json)}
    (h : key ∉ before.map Prod.fst) : setMember key value before = before ++ [(key, value)] := by
  induction before with
  | nil => rfl
  | cons m before ih =>
    obtain ⟨hm, hbefore⟩ := not_or.1 (mt List.mem_cons.2 h)
    rw [setMember, if_neg (Ne.symm hm), ih hbefore, List.cons_append]

theorem head?_write (layout : Layout) (level : Nat) {j : Json} (h : j.IsPlain) (rest : List Char) :
    ∀ c ∈ (write layout level j ++ rest).head?, MayBegin c := by
  obtain ⟨c, more, hwrite, hc⟩ := head_write layout level h
  rw [hwrite]
  intro d hd
  rw [← Option.some.inj hd]
  exact hc

theorem head?_writtenItems (layout : Layout) (level : Nat) {item : Json} (h : item.IsPlain)
    (items : List Json) (rest : List Char) :
    ∀ c ∈ (writtenItems layout level (item :: items) ++ rest).head?, MayBegin c := by
  rw [writtenItems, List.append_assoc]
  exact head?_write layout level h _

/-- There is fuel for one reader at least. -/
theorem exists_fuel {layout : Layout} {level fuel : Nat} {j : Json} (h : j.IsPlain)
    (hfuel : 2 * (write layout level j).length ≤ fuel) : ∃ n, fuel = n + 1 := by
  obtain ⟨c, more, hwrite, -⟩ := head_write layout level h
  rw [hwrite, List.length_cons] at hfuel
  exact ⟨fuel - 1, by omega⟩

-- ════════════════════════════════════════════════════════════════════════
-- What one reader does
-- ════════════════════════════════════════════════════════════════════════

variable {limits inner : Limits}

theorem readValue_writeString (fuel : Nat) (s : String) (rest : List Char) :
    readValue limits (fuel + 1) (writeString s ++ rest) = .ok (.str s, rest) := by
  have hwritten : writeString s ++ rest = '"' :: (s.toList.flatMap escapeChar ++ '"' :: rest) := by
    simp [writeString]
  rw [hwritten, readValue, readString_flatMap]
  simp only [bind, Except.bind, ofUnits_map_toNat, String.ofList_toList, Limits.check,
    Limits.excess?]

theorem readValue_writeInt (fuel : Nat) {n : Int} (hn : limits.excess? (.int n) = none)
    {rest : List Char} (h : EndsNumber rest) :
    readValue limits (fuel + 1) (writeInt n ++ rest) = .ok (.int n, rest) := by
  have hatom := readAtom_writeInt hn h
  obtain ⟨c, more, hc, hform | hform⟩ := writeInt_cases n
  · rw [hform, List.cons_append] at hatom ⊢
    rw [readValue]
    · exact hatom
    all_goals
      intro _ heq
      exact ne_of_isDigit hc (by decide) (List.cons.inj heq).1
  · rw [hform] at hatom ⊢
    exact hatom

theorem readValue_array {fuel : Nat} {gap text rest : List Char} {items : List Json}
    (hinner : limits.inner? = some inner) (hgap : ∀ c ∈ gap, isGap c = true)
    (htext : ∀ c ∈ text.head?, MayBegin c)
    (hitems : readItems inner fuel text = .ok (items, rest)) :
    readValue limits (fuel + 1) ('[' :: (gap ++ text)) = .ok (.array items, rest) := by
  have hskip : skipGap (gap ++ text) = text := skipGap_append hgap fun c hc => (htext c hc).1
  rw [readValue]
  simp only [hinner, hskip]
  split
  · exact absurd rfl (htext ']' rfl).2.1
  · rw [hitems]
    rfl

theorem readItems_last {fuel : Nat} {text gap rest : List Char} {item : Json}
    (hitem : readValue limits fuel text = .ok (item, gap ++ ']' :: rest))
    (hgap : ∀ c ∈ gap, isGap c = true) :
    readItems limits (fuel + 1) text = .ok ([item], rest) := by
  have hskip : skipGap (gap ++ ']' :: rest) = ']' :: rest :=
    skipGap_append hgap (by simp [isGap])
  rw [readItems, hitem]
  simp only [bind, Except.bind, hskip]

theorem readItems_more {fuel : Nat} {text gap more rest : List Char} {item : Json}
    {items : List Json} (hitem : readValue limits fuel text = .ok (item, ',' :: (gap ++ more)))
    (hgap : ∀ c ∈ gap, isGap c = true) (hmore : ∀ c ∈ more.head?, isGap c = false)
    (hitems : readItems limits fuel more = .ok (items, rest)) :
    readItems limits (fuel + 1) text = .ok (item :: items, rest) := by
  have hskip : skipGap (',' :: (gap ++ more)) = ',' :: (gap ++ more) := rfl
  rw [readItems, hitem]
  simp only [bind, Except.bind, hskip, skipGap_append hgap hmore, hitems]

theorem readValue_object {fuel : Nat} {gap text rest : List Char} {ms : List (String × Json)}
    (hinner : limits.inner? = some inner) (hgap : ∀ c ∈ gap, isGap c = true)
    (htext : text.head? = some '"') (hms : readMembers inner fuel [] text = .ok (ms, rest)) :
    readValue limits (fuel + 1) ('{' :: (gap ++ text)) = .ok (.object ms, rest) := by
  have hskip : skipGap (gap ++ text) = text := by
    refine skipGap_append hgap ?_
    simp [htext, isGap]
  rw [readValue]
  simp only [hinner, hskip]
  split
  · simp at htext
  · rw [hms]
    rfl

/-- What is written before the value of a member: its key, a colon and a gap. -/
theorem exists_written_key {layout : Layout} (hl : layout.IsBlank) (key : String) :
    ∃ gap, (∀ c ∈ gap, isGap c = true) ∧ ∀ text, writeString key ++ layout.colon ++ text =
      '"' :: (key.toList.flatMap escapeChar ++ '"' :: ':' :: (gap ++ text)) := by
  obtain ⟨gap, hcolon, hgap⟩ := hl.colon
  refine ⟨gap, hgap, fun text => ?_⟩
  simp [writeString, hcolon]

theorem readMembers_last {layout : Layout} (hl : layout.IsBlank) {fuel : Nat}
    {before : List (String × Json)} {key : String} {text gap rest : List Char} {value : Json}
    (htext : ∀ c ∈ text.head?, isGap c = false)
    (hvalue : readValue limits fuel text = .ok (value, gap ++ '}' :: rest))
    (hgap : ∀ c ∈ gap, isGap c = true) :
    readMembers limits (fuel + 1) before (writeString key ++ layout.colon ++ text) =
      .ok (setMember key value before, rest) := by
  obtain ⟨colonGap, hcolonGap, hwritten⟩ := exists_written_key hl key
  have hcolon : skipGap (':' :: (colonGap ++ text)) = ':' :: (colonGap ++ text) := rfl
  have hskip : skipGap (gap ++ '}' :: rest) = '}' :: rest :=
    skipGap_append hgap (by simp [isGap])
  rw [hwritten, readMembers, readString_flatMap]
  simp only [bind, Except.bind, hcolon, skipGap_append hcolonGap htext, hvalue,
    Limits.check, ofUnits_map_toNat, Limits.excess?, textOfUnits_map_toNat, String.ofList_toList,
    hskip]

theorem readMembers_more {layout : Layout} (hl : layout.IsBlank) {fuel : Nat}
    {before : List (String × Json)} {key : String} {text gap more : List Char} {value : Json}
    (htext : ∀ c ∈ text.head?, isGap c = false)
    (hvalue : readValue limits fuel text = .ok (value, ',' :: (gap ++ more)))
    (hgap : ∀ c ∈ gap, isGap c = true) (hmore : ∀ c ∈ more.head?, isGap c = false) :
    readMembers limits (fuel + 1) before (writeString key ++ layout.colon ++ text) =
      readMembers limits fuel (setMember key value before) more := by
  obtain ⟨colonGap, hcolonGap, hwritten⟩ := exists_written_key hl key
  have hcolon : skipGap (':' :: (colonGap ++ text)) = ':' :: (colonGap ++ text) := rfl
  have hskip : skipGap (',' :: (gap ++ more)) = ',' :: (gap ++ more) := rfl
  rw [hwritten, readMembers, readString_flatMap]
  simp only [bind, Except.bind, hcolon, skipGap_append hcolonGap htext, hvalue,
    Limits.check, ofUnits_map_toNat, Limits.excess?, textOfUnits_map_toNat, String.ofList_toList,
    hskip, skipGap_append hgap hmore]

-- ════════════════════════════════════════════════════════════════════════
-- Reading what is written
-- ════════════════════════════════════════════════════════════════════════

/-- What follows an item does not continue a number. -/
theorem endsNumber_writeItems (layout : Layout) (level : Nat) (items : List Json) {gap : List Char}
    (hgap : ∀ c ∈ gap, isGap c = true) (rest : List Char) :
    EndsNumber (writeItems layout level items ++ (gap ++ ']' :: rest)) := by
  cases items with
  | nil =>
    rw [writeItems, List.nil_append]
    exact endsNumber_append hgap (endsNumber_cons (by simp) rest)
  | cons item items =>
    rw [writeItems_cons]
    exact endsNumber_cons (by simp) _

/-- What follows a member does not continue a number. -/
theorem endsNumber_writeMembers (layout : Layout) (level : Nat) (ms : List (String × Json))
    {gap : List Char} (hgap : ∀ c ∈ gap, isGap c = true) (rest : List Char) :
    EndsNumber (writeMembers layout level ms ++ (gap ++ '}' :: rest)) := by
  cases ms with
  | nil =>
    rw [writeMembers, List.nil_append]
    exact endsNumber_append hgap (endsNumber_cons (by simp) rest)
  | cons m ms =>
    rw [writeMembers_cons]
    exact endsNumber_cons (by simp) _

section Reading

variable {layout : Layout} (hl : layout.IsBlank)
include hl

mutual

/-- A value is read from the start of what is written. The fuel is bounded by the length of what
is written, as every two readers take a character. -/
theorem readValue_write : ∀ (limits : Limits) (j : Json), j.IsPlain → limits.Admit j →
    ∀ (level fuel : Nat) (rest : List Char), EndsNumber rest →
    2 * (write layout level j).length ≤ fuel →
    readValue limits fuel (write layout level j ++ rest) = .ok (j, rest)
  | _, .null, hj, _, _, _, rest, _, hfuel => by
    obtain ⟨fuel, rfl⟩ := exists_fuel hj hfuel
    rfl
  | _, .bool true, hj, _, _, _, rest, _, hfuel => by
    obtain ⟨fuel, rfl⟩ := exists_fuel hj hfuel
    rfl
  | _, .bool false, hj, _, _, _, rest, _, hfuel => by
    obtain ⟨fuel, rfl⟩ := exists_fuel hj hfuel
    rfl
  | _, .int n, hj, hn, _, _, rest, hrest, hfuel => by
    obtain ⟨fuel, rfl⟩ := exists_fuel hj hfuel
    exact readValue_writeInt fuel hn hrest
  | _, .str s, hj, _, _, _, rest, _, hfuel => by
    obtain ⟨fuel, rfl⟩ := exists_fuel hj hfuel
    exact readValue_writeString fuel s rest
  | _, .array [], hj, hfits, _, _, rest, _, hfuel => by
    obtain ⟨fuel, rfl⟩ := exists_fuel hj hfuel
    obtain ⟨inner, hinner, -⟩ := hfits
    simp only [write, readValue, hinner]
    rfl
  | _, .object [], hj, hfits, _, _, rest, _, hfuel => by
    obtain ⟨fuel, rfl⟩ := exists_fuel hj hfuel
    obtain ⟨inner, hinner, -⟩ := hfits
    simp only [write, readValue, hinner]
    rfl
  | _, .array (item :: items), hj, hfits, level, _, rest, _, hfuel => by
    obtain ⟨fuel, rfl⟩ := exists_fuel hj hfuel
    obtain ⟨inner, hinner, hfits⟩ := hfits
    rw [write_array] at hfuel ⊢
    simp only [List.length_cons, List.length_append] at hfuel
    have hitems := readItems_write inner (item :: items) hj hfits (by simp) (level + 1) fuel
      (layout.lead level) (hl.lead level) rest (by omega)
    simp only [List.cons_append, List.append_assoc, List.nil_append]
    exact readValue_array hinner (hl.lead (level + 1)) (head?_writtenItems _ _ hj.1 _ _) hitems
  | _, .object (m :: ms), hj, hfits, level, _, rest, _, hfuel => by
    obtain ⟨fuel, rfl⟩ := exists_fuel hj hfuel
    obtain ⟨inner, hinner, hfits⟩ := hfits
    rw [write_object] at hfuel ⊢
    simp only [List.length_cons, List.length_append] at hfuel
    have hms := readMembers_write inner (m :: ms) hj.2 hfits (by simp) [] hj.1 (level + 1) fuel
      (layout.lead level) (hl.lead level) rest (by omega)
    simp only [List.cons_append, List.append_assoc, List.nil_append] at hms ⊢
    exact readValue_object hinner (hl.lead (level + 1)) rfl hms

/-- The items of an array are read up to its closing bracket. -/
theorem readItems_write : ∀ (limits : Limits) (items : List Json), ArePlain items →
    limits.AdmitItems items → items ≠ [] →
    ∀ (level fuel : Nat) (gap : List Char), (∀ c ∈ gap, isGap c = true) → ∀ (rest : List Char),
    2 * (writtenItems layout level items).length + 1 ≤ fuel →
    readItems limits fuel (writtenItems layout level items ++ (gap ++ ']' :: rest)) =
      .ok (items, rest)
  | _, [], _, _, hne, _, _, _, _, _, _ => absurd rfl hne
  | limits, [item], h, hfits, _, level, fuel, gap, hgap, rest, hfuel => by
    simp only [writtenItems, writeItems, List.append_nil] at hfuel ⊢
    obtain ⟨fuel, rfl⟩ : ∃ n, fuel = n + 1 := ⟨fuel - 1, by omega⟩
    have hends := endsNumber_writeItems layout level [] hgap rest
    exact readItems_last
      (readValue_write limits item h.1 hfits.1 level fuel _ hends (by omega)) hgap
  | limits, item :: next :: items, h, hfits, _, level, fuel, gap, hgap, rest, hfuel => by
    have hends := endsNumber_writeItems layout level (next :: items) hgap rest
    rw [writtenItems, List.append_assoc]
    rw [writtenItems, writeItems_cons] at hfuel
    simp only [List.length_cons, List.length_append] at hfuel
    obtain ⟨fuel, rfl⟩ : ∃ n, fuel = n + 1 := ⟨fuel - 1, by omega⟩
    have hitem := readValue_write limits item h.1 hfits.1 level fuel _ hends (by omega)
    have hitems := readItems_write limits (next :: items) h.2 hfits.2 (by simp) level fuel gap hgap
      rest (by omega)
    rw [writeItems_cons, List.cons_append, List.append_assoc] at hitem ⊢
    exact readItems_more hitem (hl.lead level)
      (fun c hc => (head?_writtenItems layout level h.2.1 items _ c hc).1) hitems

/-- The members of an object are read up to its closing brace. -/
theorem readMembers_write : ∀ (limits : Limits) (ms : List (String × Json)), ArePlainMembers ms →
    limits.AdmitMembers ms → ms ≠ [] →
    ∀ (before : List (String × Json)), ((before ++ ms).map Prod.fst).Nodup →
    ∀ (level fuel : Nat) (gap : List Char), (∀ c ∈ gap, isGap c = true) → ∀ (rest : List Char),
    2 * (writtenMembers layout level ms).length + 1 ≤ fuel →
    readMembers limits fuel before (writtenMembers layout level ms ++ (gap ++ '}' :: rest)) =
      .ok (before ++ ms, rest)
  | _, [], _, _, hne, _, _, _, _, _, _, _, _ => absurd rfl hne
  | limits, (key, value) :: ms, h, hfits, _, before, hnodup, level, fuel, gap, hgap, rest,
      hfuel => by
    have hends := endsNumber_writeMembers layout level ms hgap rest
    have hset : setMember key value before = before ++ [(key, value)] := by
      refine setMember_of_not_mem value fun hmem => ?_
      rw [List.map_append, List.map_cons] at hnodup
      exact (List.nodup_append.1 hnodup).2.2 key hmem key List.mem_cons_self rfl
    rw [writtenMembers, List.append_assoc, List.append_assoc]
    simp only [writtenMembers, List.length_append] at hfuel
    obtain ⟨fuel, rfl⟩ : ∃ n, fuel = n + 1 := ⟨fuel - 1, by omega⟩
    have hvalue := readValue_write limits value h.1 hfits.1 level fuel _ hends (by omega)
    have hhead := fun c hc => (head?_write layout level h.1
      (writeMembers layout level ms ++ (gap ++ '}' :: rest)) c hc).1
    cases ms with
    | nil => rw [readMembers_last hl hhead hvalue hgap, hset]
    | cons m ms =>
      rw [writeMembers_cons] at hfuel
      simp only [List.length_cons, List.length_append] at hfuel
      rw [writeMembers_cons, List.cons_append, List.append_assoc (layout.lead level)]
        at hvalue hhead ⊢
      have hms := readMembers_write limits (m :: ms) h.2 hfits.2 (by simp)
        (before ++ [(key, value)]) (by simpa using hnodup) level fuel gap hgap rest (by omega)
      have hmore : ∀ c ∈ (writtenMembers layout level (m :: ms) ++
          (gap ++ '}' :: rest)).head?, isGap c = false := by
        simp [writtenMembers, writeString, isGap]
      rw [readMembers_more hl hhead hvalue (hl.lead level) hmore, hset, hms]
      simp

end

end Reading

/-- What is written with a line for each part is read as the value, if that is within the limits. -/
theorem read_pretty {j : Json} (h : j.IsPlain) (hfits : limits.Admit j) :
    read j.pretty.toList limits = .ok j := by
  have htext : j.pretty.toList = write .pretty 0 j := String.toList_ofList
  have hhead := head?_write .pretty 0 h []
  rw [List.append_nil] at hhead
  have hskip : skipGap (write .pretty 0 j) = write .pretty 0 j :=
    @skipGap_append [] _ (by simp) fun c hc => (hhead c hc).1
  have hvalue := readValue_write Layout.isBlank_pretty limits j h hfits 0
    (2 * (write .pretty 0 j).length + 2) [] (by simp [EndsNumber]) (by omega)
  rw [List.append_nil] at hvalue
  have hmark : (write .pretty 0 j).head? ≠ some (Char.ofNat 0xfeff) :=
    fun heq => (hhead _ heq).2.2 rfl
  rw [htext, read, readAll, if_neg hmark, hskip, hvalue]
  rfl

-- ════════════════════════════════════════════════════════════════════════
-- Line breaks
-- ════════════════════════════════════════════════════════════════════════

theorem hexDigits_ne_return {width n : Nat} {c : Char} (h : c ∈ Text.hexDigits width n) :
    c ≠ '\r' := by
  induction width generalizing n with
  | zero => simp [Text.hexDigits] at h
  | succ width ih =>
    rcases List.mem_append.1 h with h | h
    · exact ih h
    · have hdigit : ∀ d : Fin 16, Text.hexDigit d ≠ '\r' := by decide
      rw [List.mem_singleton.1 h]
      exact hdigit ⟨n % 16, Nat.mod_lt n (by decide)⟩

/-- Carriage returns are escaped. -/
theorem escapeChar_ne_return {c d : Char} (h : d ∈ escapeChar c) : d ≠ '\r' := by
  rintro rfl
  rcases escapeChar_cases c with ⟨e, he, hform⟩ | ⟨-, hform⟩ | ⟨⟨-, -, hcontrol⟩, hform⟩
  · rw [hform] at h
    simp only [List.mem_cons, List.not_mem_nil, or_false, Char.reduceEq, false_or] at h
    rw [← h] at he
    simp [escaped?] at he
  · rw [hform] at h
    simp only [List.mem_cons, Char.reduceEq, false_or] at h
    exact hexDigits_ne_return h rfl
  · rw [hform] at h
    rw [← List.mem_singleton.1 h] at hcontrol
    exact hcontrol (by decide)

theorem writeString_ne_return (s : String) : '\r' ∉ writeString s := by
  simp only [writeString, List.mem_cons, List.mem_append, List.mem_flatMap, List.cons_append,
    Char.reduceEq, List.not_mem_nil, or_false, false_or]
  rintro ⟨c, -, hc⟩
  exact escapeChar_ne_return hc rfl

theorem writeInt_ne_return (n : Int) : '\r' ∉ writeInt n := by
  have hdigits : '\r' ∉ Nat.toDigits 10 n.natAbs := by
    intro h
    exact absurd (isDigit_of_mem_toDigits h) (by decide)
  unfold writeInt
  split
  · simpa using hdigits
  · exact hdigits

section NoReturn

variable {layout : Layout} (hl : (∀ level, '\r' ∉ layout.lead level) ∧ '\r' ∉ layout.colon)
include hl

mutual

/-- What is written for a value has no carriage returns but those of its layout. -/
theorem write_ne_return : ∀ (j : Json), j.IsPlain → ∀ level, '\r' ∉ write layout level j
  | .null, _, _ => by simp [write, writeAtom]
  | .bool true, _, _ => by simp [write, writeAtom]
  | .bool false, _, _ => by simp [write, writeAtom]
  | .int n, _, _ => writeInt_ne_return n
  | .str s, _, _ => writeString_ne_return s
  | .array [], _, _ => by simp [write, writeAtom]
  | .object [], _, _ => by simp [write, writeAtom]
  | .array (item :: items), h, level => by
    simp [write, hl.1, write_ne_return item h.1 (level + 1),
      writeItems_ne_return items h.2 (level + 1)]
  | .object ((key, value) :: ms), h, level => by
    simp [write, hl.1, hl.2, writeString_ne_return key,
      write_ne_return value h.2.1 (level + 1), writeMembers_ne_return ms h.2.2 (level + 1)]

theorem writeItems_ne_return :
    ∀ (items : List Json), ArePlain items → ∀ level, '\r' ∉ writeItems layout level items
  | [], _, _ => by simp [writeItems]
  | item :: items, h, level => by
    simp [writeItems, hl.1, write_ne_return item h.1 level, writeItems_ne_return items h.2 level]

theorem writeMembers_ne_return :
    ∀ (ms : List (String × Json)), ArePlainMembers ms → ∀ level,
      '\r' ∉ writeMembers layout level ms
  | [], _, _ => by simp [writeMembers]
  | (key, value) :: ms, h, level => by
    simp [writeMembers, hl.1, hl.2, writeString_ne_return key, write_ne_return value h.1 level,
      writeMembers_ne_return ms h.2 level]

end

end NoReturn

/-- What is written with a line for each part has only line feeds for breaks. -/
theorem pretty_ne_return {j : Json} (h : j.IsPlain) : '\r' ∉ j.pretty.toList := by
  rw [pretty, String.toList_ofList]
  refine write_ne_return ⟨fun level => ?_, by decide⟩ j h 0
  simp [Layout.pretty, List.mem_replicate]

end ChecklistReview.Json
