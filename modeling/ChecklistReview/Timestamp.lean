/-!
# Timestamps

A timestamp is a day of the calendar, a time of the day down to microseconds and, if it is
known, the offset of its clock from universal time.

## Main definitions

* `Timestamp` is a timestamp; its parts are within their ranges.
* `Timestamp.ofText?` reads a text, which may also count seconds or milliseconds.
* `Timestamp.ofSeconds?` and `Timestamp.ofReal?` read a count.
* `Timestamp.ofIso?` reads the full form.
* `Timestamp.record` writes the form that is kept in records, and `Timestamp.iso` the full form.
-/

namespace ChecklistReview

namespace Timestamp

/-- Whether a year has a leap day. -/
def isLeap (year : Nat) : Bool := year % 4 = 0 && (year % 100 ≠ 0 || year % 400 = 0)

/-- The number of days of a month. -/
def daysIn (year month : Nat) : Nat :=
  if month = 2 then if isLeap year then 29 else 28
  else if month = 4 || month = 6 || month = 9 || month = 11 then 30
  else 31

/-- An offset is less than a day, counted in seconds. -/
def dayLength : Nat := 86400

/-- The parts of a timestamp. -/
structure Parts where
  year : Nat
  month : Nat
  day : Nat
  hour : Nat := 0
  minute : Nat := 0
  second : Nat := 0
  micro : Nat := 0
  /-- Seconds by which the clock is ahead of universal time. -/
  offset : Option Int := none
  deriving DecidableEq

/-- Whether the parts are within their ranges. -/
def Parts.isProper (p : Parts) : Bool :=
  1 ≤ p.year && p.year ≤ 9999 && 1 ≤ p.month && p.month ≤ 12 && 1 ≤ p.day &&
    p.day ≤ daysIn p.year p.month && p.hour ≤ 23 && p.minute ≤ 59 && p.second ≤ 59 &&
    p.micro ≤ 999999 && p.offset.all fun o => o.natAbs < dayLength

end Timestamp

/-- A timestamp. -/
structure Timestamp where
  parts : Timestamp.Parts
  isProper : parts.isProper = true
  deriving DecidableEq

namespace Timestamp

/-- The timestamp with the given parts, if they are within their ranges. -/
def ofParts? (p : Parts) : Option Timestamp :=
  if h : p.isProper = true then some ⟨p, h⟩ else none

/-! ### Writing -/

/-- A number with leading zeros, at least `width` digits long. -/
def pad (width n : Nat) : String :=
  let digits := Nat.toDigits 10 n
  String.ofList (List.replicate (width - digits.length) '0' ++ digits)

/-- Day and time. -/
def clockText (p : Parts) : String :=
  let day := s!"{pad 4 p.year}-{pad 2 p.month}-{pad 2 p.day}"
  let time := s!"{pad 2 p.hour}:{pad 2 p.minute}:{pad 2 p.second}"
  let fraction := if p.micro = 0 then "" else s!".{pad 6 p.micro}"
  s!"{day}T{time}{fraction}"

/-- Sign, hours and minutes of an offset. -/
def offsetText (offset : Int) : String :=
  let sign := if offset < 0 then "-" else "+"
  s!"{sign}{pad 2 (offset.natAbs / 3600)}:{pad 2 (offset.natAbs % 3600 / 60)}"

/-- An offset as records keep it: universal time is marked by a letter, and seconds are left
out. -/
def zoneText : Option Int → String
  | none => ""
  | some offset => if offset = 0 then "Z" else offsetText offset

/-- A timestamp as records keep it. -/
def record (t : Timestamp) : String := clockText t.parts ++ zoneText t.parts.offset

/-- A timestamp in full. -/
def iso (t : Timestamp) : String :=
  clockText t.parts ++ match t.parts.offset with
    | none => ""
    | some offset =>
      let seconds := offset.natAbs % 60
      if seconds = 0 then offsetText offset else s!"{offsetText offset}:{pad 2 seconds}"

/-! ### Counts of seconds -/

/-- Day, month and year of a number of days since the first of March of the year 0. The year
is taken to begin in March, so that the leap day is its last. -/
def dateOfDays (days : Nat) : Nat × Nat × Nat :=
  let era := days / 146097
  let dayOfEra := days % 146097
  let yearOfEra := (dayOfEra - dayOfEra / 1460 + dayOfEra / 36524 - dayOfEra / 146096) / 365
  let dayOfYear := dayOfEra - (365 * yearOfEra + yearOfEra / 4 - yearOfEra / 100)
  let shifted := (5 * dayOfYear + 2) / 153
  let day := dayOfYear - (153 * shifted + 2) / 5 + 1
  let month := if shifted < 10 then shifted + 3 else shifted - 9
  let year := era * 400 + yearOfEra + (if month ≤ 2 then 1 else 0)
  (year, month, day)

/-- Days from the first of March of the year 0 to the first of January 1970. -/
def epochDays : Nat := 719468

/-- The first second of the year 1600. -/
def firstSecond : Int := -11676096000

/-- The last second of the year 9999. -/
def lastSecond : Int := 253402300799

/-- The timestamp of a count of seconds since 1970, in universal time. -/
def ofEpoch? (seconds : Int) (micro : Nat) : Option Timestamp :=
  if firstSecond ≤ seconds && seconds ≤ lastSecond then
    let shifted := (seconds + epochDays * dayLength).toNat
    let (year, month, day) := dateOfDays (shifted / dayLength)
    let time := shifted % dayLength
    ofParts?
      { year, month, day, hour := time / 3600, minute := time % 3600 / 60, second := time % 60
        micro, offset := some 0 }
  else none

/-- Counts beyond this are in milliseconds. -/
def millisecondsFrom : Nat := 20000000000

/-- The timestamp of a count of seconds or milliseconds and of microseconds beside it. -/
def ofSeconds? (count : Int) (micro : Nat) : Option Timestamp :=
  let (seconds, extra) :=
    if count.natAbs ≤ millisecondsFrom then (count, 0)
    else (count.fdiv 1000, (count.fmod 1000).toNat * 1000)
  let total := micro + extra
  ofEpoch? (seconds + (total / 1000000 : Nat)) (total % 1000000)

/-- The whole number at or below a number, within the range of a machine word. -/
def floorOf (x : Float) : Int := x.floor.toInt64.toInt

/-- The timestamp of a count with a fraction. The fraction counts forward also before 1970. -/
def ofReal? (count : Float) : Option Timestamp :=
  if count.isNaN || count.isInf then none
  else
    let fraction := (if count < 0 then count.ceil - count else count - count.floor)
    ofSeconds? (floorOf count) ((fraction * 1000000.0).round.toUInt64.toNat)

/-! ### Reading -/

/-- The value of a decimal digit. -/
def digit? (c : Char) : Option Nat :=
  if '0' ≤ c && c ≤ '9' then some (c.toNat - '0'.toNat) else none

/-- A number of two digits at the start of a text. -/
def twoDigits? : List Char → Option (Nat × List Char)
  | a :: b :: rest => do
    let tens ← digit? a
    let ones ← digit? b
    some (tens * 10 + ones, rest)
  | _ => none

/-- A given character at the start of a text. -/
def skip? (c : Char) : List Char → Option (List Char)
  | d :: rest => if c = d then some rest else none
  | [] => none

/-- Year, month and day at the start of a text. -/
def date? (text : List Char) : Option (Parts × List Char) := do
  let (century, text) ← twoDigits? text
  let (years, text) ← twoDigits? text
  let text ← skip? '-' text
  let (month, text) ← twoDigits? text
  let text ← skip? '-' text
  let (day, text) ← twoDigits? text
  some ({ year := century * 100 + years, month, day }, text)

/-- The first six digits of a fraction as microseconds. -/
def microOf (digits : List Char) : Nat :=
  Nat.ofDigitChars 10 ((digits ++ List.replicate 6 '0').take 6) 0

/-- A fraction of a second at the start of a text. -/
def fraction? (text : List Char) : Option (Nat × List Char) :=
  match text with
  | c :: rest =>
    if c = '.' || c = ',' then
      let digits := rest.takeWhile fun d => (digit? d).isSome
      if digits.isEmpty then none else some (microOf digits, rest.drop digits.length)
    else some (0, text)
  | [] => some (0, [])

/-- Seconds with their fraction at the start of a text, which may be left out. -/
def seconds? (text : List Char) : Option (Nat × Nat × List Char) :=
  match text with
  | ':' :: rest => do
    let (second, rest) ← twoDigits? rest
    let (micro, rest) ← fraction? rest
    some (second, micro, rest)
  | _ => some (0, 0, text)

/-- Hours and minutes of an offset, which end the text. -/
def offsetAmount? (text : List Char) : Option Nat := do
  let (hours, rest) ← twoDigits? text
  let rest := match rest with
    | ':' :: more => more
    | _ => rest
  let (minutes, rest) ← twoDigits? rest
  if rest.isEmpty && minutes < 60 then some (hours * 3600 + minutes * 60) else none

/-- The minus sign that is no hyphen. -/
def minusSign : Char := Char.ofNat 0x2212

/-- The offset that ends a text, and nothing for the end of the text. -/
def offset? : List Char → Option (Option Int)
  | [] => some none
  | c :: rest =>
    if c = 'Z' || c = 'z' then if rest.isEmpty then some (some 0) else none
    else if c = '+' then (offsetAmount? rest).map fun n : Nat => some (n : Int)
    else if c = '-' || c = minusSign then (offsetAmount? rest).map fun n : Nat => some (-(n : Int))
    else none

/-- Marks between day and time. -/
def isMark (c : Char) : Bool := c = 'T' || c = 't' || c = ' ' || c = '_'

/-- A day, or a day and a time. -/
def calendar? (text : List Char) : Option Timestamp := do
  let (day, text) ← date? text
  match text with
  | [] => ofParts? day
  | mark :: text =>
    if isMark mark then
      let (hour, text) ← twoDigits? text
      let text ← skip? ':' text
      let (minute, text) ← twoDigits? text
      let (second, micro, text) ← seconds? text
      let offset ← offset? text
      ofParts? { day with hour, minute, second, micro, offset }
    else none

/-- The value of a run of digits, if it fits into a machine word. -/
def wordOf? (digits : List Char) : Option Nat :=
  if digits.isEmpty then none
  else do
    let n ← digits.foldlM (fun n c => (digit? c).map fun d => n * 10 + d) 0
    if n < 9223372036854775808 then some n else none

/-- A count with a fraction in a text. -/
def ofDecimal? (isNegative : Bool) (whole : Nat) (fraction : List Char) : Option Timestamp :=
  if fraction.all fun c => (digit? c).isSome then
    let (x, _) := fraction.foldl
      (fun (x, scale) c => (x + (c.toNat - '0'.toNat).toFloat / scale, scale * 10.0))
      (whole.toFloat, 10.0)
    let x := if isNegative then -x else x
    let x := if x.abs > millisecondsFrom.toFloat then x / 1000.0 else x
    let seconds := floorOf x
    ofSeconds? seconds ((x - x.floor) * 1000000.0).round.toUInt64.toNat
  else none

/-- A text that counts seconds or milliseconds. -/
def count? (text : List Char) : Option Timestamp := do
  let (isNegative, body) := match text with
    | '-' :: rest => (true, rest)
    | '+' :: rest => (false, rest)
    | rest => (false, rest)
  let whole ← wordOf? (body.takeWhile (· ≠ '.'))
  match body.dropWhile (· ≠ '.') with
  | [] => ofSeconds? (if isNegative then -(whole : Int) else whole) 0
  | _ :: fraction => ofDecimal? isNegative whole fraction

/-- Reads a text: a day, a day and a time, or a count. -/
def ofText? (text : String) : Option Timestamp := (calendar? text.toList).or (count? text.toList)

/-- Hours, minutes and seconds of an offset, each with what is finer left out, which end the
text. -/
def isoAmount? (text : List Char) : Option Nat := do
  let (hours, rest) ← twoDigits? text
  match rest with
  | [] => some (hours * 3600)
  | ':' :: rest =>
    let (minutes, rest) ← twoDigits? rest
    match rest with
    | [] => some (hours * 3600 + minutes * 60)
    | ':' :: rest =>
      let (seconds, rest) ← twoDigits? rest
      if rest.isEmpty then some (hours * 3600 + minutes * 60 + seconds) else none
    | _ => none
  | _ => none

/-- The offset that ends a text in the full form. -/
def isoOffset? : List Char → Option (Option Int)
  | [] => some none
  | ['Z'] => some (some 0)
  | '+' :: rest => (isoAmount? rest).map fun n : Nat => some (n : Int)
  | '-' :: rest => (isoAmount? rest).map fun n : Nat => some (-(n : Int))
  | _ => none

/-- Minutes and seconds at the start of a text, which may be left out. -/
def isoMinutes? (text : List Char) : Option (Nat × Nat × Nat × List Char) :=
  match text with
  | ':' :: rest => do
    let (minute, rest) ← twoDigits? rest
    let (second, micro, rest) ← seconds? rest
    some (minute, second, micro, rest)
  | _ => some (0, 0, 0, text)

/-- Reads the full form: a day, or a day, any mark and a time. -/
def ofIso? (text : String) : Option Timestamp := do
  let (day, text) ← date? text.toList
  match text with
  | [] => ofParts? day
  | _ :: text =>
    let (hour, text) ← twoDigits? text
    let (minute, second, micro, text) ← isoMinutes? text
    let offset ← isoOffset? text
    ofParts? { day with hour, minute, second, micro, offset }

end Timestamp

end ChecklistReview
