/-!
# Decimals of binary numbers

A binary floating-point number is written with the fewest decimal digits that read back as the
same number, and of those with the digits nearest to it.

## Main definitions

* `ofScientific` is the number nearest to a decimal.
* `Shortest.digits` finds the fewest digits for `mantissa · 2 ^ exponent`.
* `render` writes a number: positional from `0.0001` up to sixteen digits, and otherwise with an
  exponent.
-/

namespace ChecklistReview.Decimal

/-- The number nearest to `mantissa · 10 ^ exponent`. Exponents beyond all numbers are cut off
before they are computed with. -/
def ofScientific (isNegative : Bool) (mantissa : Nat) (exponent : Int) : Float :=
  let size : Int := (Nat.toDigits 10 mantissa).length
  let magnitude : Float :=
    if mantissa = 0 then 0
    else if 400 < exponent + size then Float.ofBits 0x7ff0000000000000
    else if exponent + size < -400 then 0
    else if 0 ≤ exponent then Float.ofScientific mantissa false exponent.toNat
    else Float.ofScientific mantissa true (-exponent).toNat
  if isNegative then -magnitude else magnitude

namespace Shortest

/-- A positive binary number with the bounds between which decimals read back as it, all in
units of `1 / scale`. -/
structure Target where
  value : Nat
  low : Nat
  high : Nat
  scale : Nat
  /-- The bounds themselves read back. -/
  isClosed : Bool

/-- The target of `mantissa · 2 ^ exponent`. Below a power of two the numbers are twice as
dense, except among the smallest. -/
def Target.ofBinary (mantissa : Nat) (exponent : Int) : Target :=
  let isPower := mantissa = Nat.pow 2 52 && -1074 < exponent
  let shift := exponent - 2
  let factor := Nat.pow 2 shift.toNat
  { value := 4 * mantissa * factor
    low := (4 * mantissa - (if isPower then 1 else 2)) * factor
    high := (4 * mantissa + 2) * factor
    scale := Nat.pow 2 (-shift).toNat
    isClosed := mantissa % 2 = 0 }

/-- Whether `digits · 10 ^ power` reads back as the target. -/
def Target.admits (t : Target) (digits : Nat) (power : Int) : Bool :=
  let up := Nat.pow 10 power.toNat
  let down := Nat.pow 10 (-power).toNat
  let point := digits * up * t.scale
  if t.isClosed then t.low * down ≤ point && point ≤ t.high * down
  else t.low * down < point && point < t.high * down

/-- The power of ten of the first digit of a target, searched among small numbers. -/
def Target.leadingPower (t : Target) : Int :=
  if t.scale ≤ t.value then (Nat.toDigits 10 (t.value / t.scale)).length - 1
  else belowOne 400 1
where
  /-- The search below one. -/
  belowOne : Nat → Nat → Int
    | 0, j => -(j : Int)
    | fuel + 1, j => if t.scale ≤ t.value * Nat.pow 10 j then -(j : Int) else belowOne fuel (j + 1)

/-- The neighbours of a target on the grid of a power of ten: the nearer one that reads back. -/
def Target.nearest? (t : Target) (power : Int) : Option Nat :=
  let up := Nat.pow 10 power.toNat * t.scale
  let down := Nat.pow 10 (-power).toNat
  let below := t.value * down / up
  let above := below + 1
  let isBelowNearer := 2 * (t.value * down) ≤ (below + above) * up
  match t.admits below power, t.admits above power with
  | true, true => some (if isBelowNearer then below else above)
  | true, false => some below
  | false, true => some above
  | false, false => none

/-- The fewest digits, with the power of ten of the last one. -/
def digits (mantissa : Nat) (exponent : Int) : Nat × Int :=
  let t := Target.ofBinary mantissa exponent
  let top := t.leadingPower
  search t top 17 0
where
  /-- Tries one digit more at each step. -/
  search (t : Target) (top : Int) : Nat → Nat → Nat × Int
    | 0, _ => (t.value / t.scale, 0)
    | fuel + 1, more =>
      let power := top - more
      match t.nearest? power with
      | some n => (n, power)
      | none => search t top fuel (more + 1)

end Shortest

/-- Digits and the power of ten of the last one, without zeros at the end. -/
def dropZeros : Nat → Nat → Int → Nat × Int
  | 0, n, power => (n, power)
  | fuel + 1, n, power =>
    if n % 10 = 0 && n ≠ 0 then dropZeros fuel (n / 10) (power + 1) else (n, power)

/-- A decimal of digits with the power of ten of the last one. -/
def layout (n : Nat) (power : Int) : String :=
  let digits := Nat.toDigits 10 n
  let point : Int := digits.length + power
  if -4 < point && point ≤ 16 then
    if point ≤ 0 then
      "0." ++ String.ofList (List.replicate (-point).toNat '0' ++ digits)
    else if power < 0 then
      String.ofList (digits.take point.toNat) ++ "." ++ String.ofList (digits.drop point.toNat)
    else String.ofList (digits ++ List.replicate power.toNat '0') ++ ".0"
  else
    let exponent := point - 1
    let size := Nat.toDigits 10 exponent.natAbs
    let size := if size.length < 2 then '0' :: size else size
    let fraction := digits.drop 1
    String.ofList (digits.take 1) ++
      (if fraction.isEmpty then "" else "." ++ String.ofList fraction) ++
      (if exponent < 0 then "e-" else "e+") ++ String.ofList size

/-- Writes a number. -/
def render (x : Float) : String :=
  let bits := x.toBits.toNat
  let sign := if bits / Nat.pow 2 63 = 1 then "-" else ""
  let field : Nat := bits / Nat.pow 2 52 % Nat.pow 2 11
  let fraction := bits % Nat.pow 2 52
  if field = 2047 then
    if fraction = 0 then sign ++ "inf" else "nan"
  else if field = 0 && fraction = 0 then sign ++ "0.0"
  else
    let (mantissa, exponent) : Nat × Int :=
      if field = 0 then (fraction, -1074) else (fraction + Nat.pow 2 52, (field : Int) - 1075)
    let (n, power) := Shortest.digits mantissa exponent
    let (n, power) := dropZeros 20 n power
    sign ++ layout n power

end ChecklistReview.Decimal
