import ChecklistReview.Timestamp
import Mathlib.Algebra.Group.Nat.Defs

/-!
# Timestamps are read as they were written

A timestamp in a record is read as the same timestamp if its offset is of whole minutes, which
holds of all timestamps that are read from a text or a count.

## Main statements

* `toList_pad`: a number below a power of ten is written in exactly that many digits.
* `ofText?_record`: what is written for a record is read as the timestamp.
* `hasWholeMinutes_of_ofText?`: what is read has an offset of whole minutes.
-/

namespace ChecklistReview.Timestamp

-- ════════════════════════════════════════════════════════════════════════
-- Digits
-- ════════════════════════════════════════════════════════════════════════

/-- The last `width` digits of a number. -/
def lastDigits : Nat → Nat → List Char
  | 0, _ => []
  | width + 1, n => lastDigits width (n / 10) ++ [Nat.digitChar (n % 10)]

@[simp]
theorem length_lastDigits (width n : Nat) : (lastDigits width n).length = width := by
  induction width generalizing n with
  | zero => rfl
  | succ width ih => simp [lastDigits, ih]

/-- A number that fits is written in as many digits as there is room for. -/
theorem toList_pad {width n : Nat} (h : n < 10 ^ (width + 1)) :
    (pad (width + 1) n).toList = lastDigits (width + 1) n := by
  have hlist : ∀ w m, (pad w m).toList =
      List.replicate (w - (Nat.toDigits 10 m).length) '0' ++ Nat.toDigits 10 m := by
    simp [pad]
  rw [hlist]
  induction width generalizing n with
  | zero =>
    have hn : n < 10 := by simpa using h
    simp [Nat.toDigits_of_lt_base hn, lastDigits, Nat.mod_eq_of_lt hn]
  | succ width ih =>
    have hdiv : n / 10 < 10 ^ (width + 1) := by
      rw [Nat.pow_succ] at h
      omega
    rw [lastDigits, ← ih hdiv]
    by_cases hn : n < 10
    · simp [Nat.toDigits_of_lt_base hn, Nat.mod_eq_of_lt hn, Nat.div_eq_of_lt hn,
        List.replicate_succ']
    · rw [Nat.toDigits_of_base_le (by decide) (by omega : 10 ≤ n)]
      simp

theorem ofDigitChars_lastDigits {width n : Nat} (h : n < 10 ^ width) :
    Nat.ofDigitChars 10 (lastDigits width n) 0 = n := by
  induction width generalizing n with
  | zero => simp_all [lastDigits]
  | succ width ih =>
    have hdiv : n / 10 < 10 ^ width := by
      rw [Nat.pow_succ] at h
      omega
    rw [lastDigits, Nat.ofDigitChars_append, ih hdiv,
      Nat.ofDigitChars_cons_digitChar_of_lt_ten (Nat.mod_lt n (by decide)), Nat.ofDigitChars_nil]
    omega

theorem digit?_digitChar {d : Nat} (h : d < 10) : digit? (Nat.digitChar d) = some d := by
  have hdigit : ∀ d : Fin 10, digit? (Nat.digitChar d) = some d.val := by decide
  exact hdigit ⟨d, h⟩

/-- Two digits are read as the number that they are the last digits of. -/
theorem twoDigits?_lastDigits (n : Nat) (rest : List Char) :
    twoDigits? (lastDigits 2 n ++ rest) = some (n % 100, rest) := by
  have htens : n / 10 % 10 < 10 := Nat.mod_lt _ (by decide)
  have hones : n % 10 < 10 := Nat.mod_lt _ (by decide)
  simp only [lastDigits, List.nil_append, List.cons_append, twoDigits?, digit?_digitChar htens,
    digit?_digitChar hones, Option.bind_eq_bind, Option.bind_some, Option.some.injEq, Prod.mk.injEq,
    and_true]
  omega

theorem lastDigits_four (n : Nat) : lastDigits 4 n = lastDigits 2 (n / 100) ++ lastDigits 2 n := by
  simp [lastDigits, Nat.div_div_eq_div_mul]

theorem isSome_digit?_of_mem_lastDigits {width n : Nat} {c : Char} (h : c ∈ lastDigits width n) :
    (digit? c).isSome = true := by
  induction width generalizing n with
  | zero => simp [lastDigits] at h
  | succ width ih =>
    rcases List.mem_append.1 h with h | h
    · exact ih h
    · rw [List.mem_singleton.1 h, digit?_digitChar (Nat.mod_lt n (by decide))]
      rfl

-- ════════════════════════════════════════════════════════════════════════
-- The written form
-- ════════════════════════════════════════════════════════════════════════

/-- The microseconds in the written form. -/
def fractionForm (micro : Nat) : List Char := if micro = 0 then [] else '.' :: lastDigits 6 micro

/-- The offset in the written form. -/
def offsetForm : Option Int → List Char
  | none => []
  | some offset =>
    if offset = 0 then ['Z']
    else (if offset < 0 then '-' else '+') ::
      (lastDigits 2 (offset.natAbs / 3600) ++ ':' :: lastDigits 2 (offset.natAbs % 3600 / 60))

theorem daysIn_le (year month : Nat) : daysIn year month ≤ 31 := by
  unfold daysIn
  repeat' split
  all_goals decide

/-- The parts of a timestamp fit into the digits that they are written in. -/
theorem bounds (t : Timestamp) :
    t.parts.year ≤ 9999 ∧ t.parts.month ≤ 12 ∧ t.parts.day ≤ 31 ∧ t.parts.hour ≤ 23 ∧
      t.parts.minute ≤ 59 ∧ t.parts.second ≤ 59 ∧ t.parts.micro ≤ 999999 ∧
      ∀ o ∈ t.parts.offset, o.natAbs < 86400 := by
  have h := t.isProper
  have hdays := daysIn_le t.parts.year t.parts.month
  simp only [Parts.isProper, Bool.and_eq_true, decide_eq_true_eq] at h
  have hoffset : ∀ o ∈ t.parts.offset, o.natAbs < 86400 := by
    intro o ho
    have hall := h.2
    rw [Option.mem_def.1 ho] at hall
    exact of_decide_eq_true hall
  refine ⟨?_, ?_, ?_, ?_, ?_, ?_, ?_, hoffset⟩
  all_goals omega

theorem toString_text (text : String) : ToString.toString text = text := rfl

theorem toList_zoneText {offset : Option Int} (h : ∀ o ∈ offset, o.natAbs < 86400) :
    (zoneText offset).toList = offsetForm offset := by
  cases offset with
  | none => rfl
  | some o =>
    have ho := h o rfl
    by_cases hzero : o = 0
    · simp [zoneText, offsetForm, hzero]
    · simp only [zoneText, offsetForm, if_neg hzero, offsetText, toString_text,
        String.toList_append]
      rw [toList_pad (by omega), toList_pad (by omega)]
      split <;> rfl

theorem toList_fraction {micro : Nat} (h : micro ≤ 999999) :
    (if micro = 0 then "" else "." ++ pad 6 micro).toList = fractionForm micro := by
  unfold fractionForm
  split
  · rfl
  · rw [String.toList_append, toList_pad (by omega)]
    rfl

/-- The written form, letter by letter. -/
theorem toList_record (t : Timestamp) :
    t.record.toList = lastDigits 4 t.parts.year ++ '-' :: (lastDigits 2 t.parts.month ++
      '-' :: (lastDigits 2 t.parts.day ++ 'T' :: (lastDigits 2 t.parts.hour ++
      ':' :: (lastDigits 2 t.parts.minute ++ ':' :: (lastDigits 2 t.parts.second ++
      (fractionForm t.parts.micro ++ offsetForm t.parts.offset)))))) := by
  obtain ⟨hyear, hmonth, hday, hhour, hminute, hsecond, hmicro, hoffset⟩ := t.bounds
  simp only [record, clockText, toString_text, String.toList_append, toList_zoneText hoffset,
    toList_fraction hmicro]
  rw [toList_pad (by omega), toList_pad (by omega), toList_pad (by omega), toList_pad (by omega),
    toList_pad (by omega), toList_pad (by omega)]
  simp

-- ════════════════════════════════════════════════════════════════════════
-- Reading the written form
-- ════════════════════════════════════════════════════════════════════════

/-- Whether the offset, if it is known, is of whole minutes. -/
def HasWholeMinutes (t : Timestamp) : Prop := ∀ o ∈ t.parts.offset, (60 : Int) ∣ o

theorem skip?_cons (c : Char) (rest : List Char) : skip? c (c :: rest) = some rest := by
  simp [skip?]

theorem date?_written {year : Nat} (h : year ≤ 9999) (month day : Nat) (rest : List Char) :
    date? (lastDigits 4 year ++ '-' :: (lastDigits 2 month ++ '-' :: (lastDigits 2 day ++ rest))) =
      some ({ year, month := month % 100, day := day % 100 }, rest) := by
  have hyear : year / 100 % 100 * 100 + year % 100 = year := by omega
  rw [lastDigits_four, List.append_assoc]
  simp only [date?, twoDigits?_lastDigits, skip?_cons, Option.bind_eq_bind, Option.bind_some, hyear]

theorem head?_offsetForm (offset : Option Int) :
    ∀ c ∈ (offsetForm offset).head?, c = 'Z' ∨ c = '+' ∨ c = '-' := by
  cases offset with
  | none => simp [offsetForm]
  | some o =>
    simp only [offsetForm]
    repeat' split
    all_goals simp

/-- The fraction is read up to the offset. -/
theorem fraction?_written {micro : Nat} (h : micro ≤ 999999) (offset : Option Int) :
    fraction? (fractionForm micro ++ offsetForm offset) = some (micro, offsetForm offset) := by
  have hhead := head?_offsetForm offset
  generalize offsetForm offset = rest at hhead
  unfold fractionForm
  split
  · next hzero =>
    cases rest with
    | nil => simp [fraction?, hzero]
    | cons c rest =>
      have hc : ¬(c = '.' || c = ',') = true := by
        rcases hhead c rfl with rfl | rfl | rfl <;> decide
      simp [fraction?, hzero, hc]
  · next hpos =>
    have hstop : rest.takeWhile (fun d => (digit? d).isSome) = [] := by
      cases rest with
      | nil => rfl
      | cons c rest => rcases hhead c rfl with rfl | rfl | rfl <;> simp [digit?]
    have hdigits : (lastDigits 6 micro ++ rest).takeWhile (fun d => (digit? d).isSome) =
        lastDigits 6 micro := by
      rw [List.takeWhile_append_of_pos fun c => isSome_digit?_of_mem_lastDigits, hstop,
        List.append_nil]
    have hmicro : microOf (lastDigits 6 micro) = micro := by
      rw [microOf, List.take_append_of_le_length (by simp), List.take_of_length_le (by simp),
        ofDigitChars_lastDigits (by omega)]
    have hne : lastDigits 6 micro ≠ [] := by simp [lastDigits]
    simp [fraction?, hdigits, hmicro, hne]

theorem offsetAmount?_written {amount : Nat} (h : amount < 86400) (hminutes : 60 ∣ amount) :
    offsetAmount? (lastDigits 2 (amount / 3600) ++ ':' :: lastDigits 2 (amount % 3600 / 60)) =
      some amount := by
  have hlast := twoDigits?_lastDigits (amount % 3600 / 60) []
  rw [List.append_nil] at hlast
  have hlt : amount % 3600 / 60 % 100 < 60 := by omega
  have hsum : amount / 3600 % 100 * 3600 + amount % 3600 / 60 % 100 * 60 = amount := by omega
  simp [offsetAmount?, twoDigits?_lastDigits, hlast, hlt, hsum]

/-- An offset of whole minutes is read as it was written. -/
theorem offset?_written {offset : Option Int} (h : ∀ o ∈ offset, o.natAbs < 86400)
    (hminutes : ∀ o ∈ offset, (60 : Int) ∣ o) : offset? (offsetForm offset) = some offset := by
  cases offset with
  | none => rfl
  | some o =>
    have hamount := offsetAmount?_written (h o rfl) (Int.natAbs_dvd_natAbs.2 (hminutes o rfl))
    have hminus : ∀ text, offset? ('-' :: text) = (offsetAmount? text).map fun n : Nat =>
      some (-(n : Int)) := fun _ => rfl
    have hplus : ∀ text, offset? ('+' :: text) = (offsetAmount? text).map fun n : Nat =>
      some (n : Int) := fun _ => rfl
    rcases Int.lt_trichotomy o 0 with hneg | rfl | hpos
    · have hzero : o ≠ 0 := by omega
      have habs : -(o.natAbs : Int) = o := by omega
      rw [offsetForm, if_neg hzero, if_pos hneg, hminus, hamount, Option.map_some, habs]
    · rfl
    · have hzero : o ≠ 0 := by omega
      have hnonneg : ¬o < 0 := by omega
      have habs : (o.natAbs : Int) = o := by omega
      rw [offsetForm, if_neg hzero, if_neg hnonneg, hplus, hamount, Option.map_some, habs]

/-- What is written for a record is read as the timestamp. -/
theorem ofText?_record {t : Timestamp} (h : t.HasWholeMinutes) : ofText? t.record = some t := by
  obtain ⟨hyear, hmonth, hday, hhour, hminute, hsecond, hmicro, hoffset⟩ := t.bounds
  have hseconds : seconds? (':' :: (lastDigits 2 t.parts.second ++
      (fractionForm t.parts.micro ++ offsetForm t.parts.offset))) =
        some (t.parts.second % 100, t.parts.micro, offsetForm t.parts.offset) := by
    simp [seconds?, twoDigits?_lastDigits, fraction?_written hmicro]
  have hparts : ofParts? t.parts = some t := by simp [ofParts?, t.isProper]
  have hcalendar : calendar? t.record.toList = some t := by
    rw [toList_record, calendar?, date?_written hyear]
    simp only [Option.bind_eq_bind, Option.bind_some, twoDigits?_lastDigits, skip?_cons, hseconds,
      offset?_written hoffset h, isMark, Nat.mod_eq_of_lt (show t.parts.month < 100 by omega),
      Nat.mod_eq_of_lt (show t.parts.day < 100 by omega),
      Nat.mod_eq_of_lt (show t.parts.hour < 100 by omega),
      Nat.mod_eq_of_lt (show t.parts.minute < 100 by omega),
      Nat.mod_eq_of_lt (show t.parts.second < 100 by omega)]
    simpa using hparts
  rw [ofText?, hcalendar]
  rfl

-- ════════════════════════════════════════════════════════════════════════
-- What is read
-- ════════════════════════════════════════════════════════════════════════

theorem parts_of_ofParts? {p : Parts} {t : Timestamp} (h : ofParts? p = some t) : t.parts = p := by
  unfold ofParts? at h
  split at h
  · rw [← Option.some.inj h]
  · simp at h

theorem hasWholeMinutes_of_ofEpoch? {seconds : Int} {micro : Nat} {t : Timestamp}
    (h : ofEpoch? seconds micro = some t) : t.HasWholeMinutes := by
  unfold ofEpoch? at h
  split at h
  · intro o ho
    rw [parts_of_ofParts? h, Option.mem_some] at ho
    rw [← ho]
    exact Int.dvd_zero 60
  · simp at h

theorem hasWholeMinutes_of_ofReal? {count : Float} {t : Timestamp} (h : ofReal? count = some t) :
    t.HasWholeMinutes := by
  unfold ofReal? at h
  split at h
  · simp at h
  · exact hasWholeMinutes_of_ofEpoch? h

theorem hasWholeMinutes_of_ofDecimal? {isNegative : Bool} {whole : Nat} {fraction : List Char}
    {t : Timestamp} (h : ofDecimal? isNegative whole fraction = some t) : t.HasWholeMinutes := by
  unfold ofDecimal? at h
  split at h
  · exact hasWholeMinutes_of_ofEpoch? h
  · simp at h

theorem hasWholeMinutes_of_count? {text : List Char} {t : Timestamp} (h : count? text = some t) :
    t.HasWholeMinutes := by
  simp only [count?, Option.bind_eq_bind, Option.bind_eq_some_iff] at h
  obtain ⟨whole, -, h⟩ := h
  split at h
  · exact hasWholeMinutes_of_ofEpoch? h
  · exact hasWholeMinutes_of_ofDecimal? h

theorem dvd_of_offsetAmount? {text : List Char} {n : Nat} (h : offsetAmount? text = some n) :
    60 ∣ n := by
  simp only [offsetAmount?, Option.bind_eq_bind, Option.bind_eq_some_iff] at h
  obtain ⟨⟨hours, rest⟩, -, ⟨minutes, rest'⟩, -, h⟩ := h
  split at h
  · have hn : hours * 3600 + minutes * 60 = n := Option.some.inj h
    omega
  · simp at h

theorem dvd_of_offset? {text : List Char} {o : Int} (h : offset? text = some (some o)) :
    (60 : Int) ∣ o := by
  cases text with
  | nil => simp [offset?] at h
  | cons c rest =>
    simp only [offset?] at h
    repeat' split at h
    · rw [← Option.some.inj (Option.some.inj h)]
      exact Int.dvd_zero 60
    · simp at h
    · obtain ⟨n, hn, hf⟩ := Option.map_eq_some_iff.1 h
      rw [← Option.some.inj hf]
      exact Int.natCast_dvd_natCast.2 (dvd_of_offsetAmount? hn)
    · obtain ⟨n, hn, hf⟩ := Option.map_eq_some_iff.1 h
      rw [← Option.some.inj hf]
      exact Int.dvd_neg.2 (Int.natCast_dvd_natCast.2 (dvd_of_offsetAmount? hn))
    · simp at h

theorem offset_of_date? {text rest : List Char} {day : Parts} (h : date? text = some (day, rest)) :
    day.offset = none := by
  simp only [date?, Option.bind_eq_bind, Option.bind_eq_some_iff, Option.some.injEq,
    Prod.mk.injEq] at h
  obtain ⟨_, -, _, -, _, -, _, -, _, -, _, -, hday, -⟩ := h
  rw [← hday]

theorem hasWholeMinutes_of_calendar? {text : List Char} {t : Timestamp}
    (h : calendar? text = some t) : t.HasWholeMinutes := by
  simp only [calendar?, Option.bind_eq_bind, Option.bind_eq_some_iff] at h
  obtain ⟨⟨day, rest⟩, hdate, h⟩ := h
  intro o ho
  split at h
  · rw [parts_of_ofParts? h, offset_of_date? hdate] at ho
    simp at ho
  · split at h
    · simp only [Option.bind_eq_some_iff] at h
      obtain ⟨_, -, _, -, _, -, _, -, offset, hoffset, h⟩ := h
      rw [parts_of_ofParts? h] at ho
      exact dvd_of_offset? (hoffset.trans (congrArg some ho))
    · simp at h

/-- What is read from a text has an offset of whole minutes. -/
theorem hasWholeMinutes_of_ofText? {text : String} {t : Timestamp} (h : ofText? text = some t) :
    t.HasWholeMinutes := by
  rcases Option.or_eq_some_iff.1 h with hcalendar | ⟨-, hcount⟩
  · exact hasWholeMinutes_of_calendar? hcalendar
  · exact hasWholeMinutes_of_count? hcount

end ChecklistReview.Timestamp
