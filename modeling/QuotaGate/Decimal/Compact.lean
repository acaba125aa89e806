/-
Compact decimal text of a floating-point number.

A finite number is `mantissa * 2 ^ exponent`; the reals that round to it form an
interval around it.  `compact` multiplies the number and the ends of that interval by a
power of ten that brings them near to one, and cuts off all places that the interval
does not need.

* `Scaled` — numbers with a significand of 64 bits; a product keeps the upper half of
  its bits;
* `Fixed.cut` — the fewest places whose remainder is no more than the interval is wide;
* `compact` — the digits of a number.

Design notes: the products are rounded, so the interval is narrowed by one unit at each
end.  What is left lies inside it, so the digits read back; only now and then do they
number one more than the fewest.
-/
import QuotaGate.Text.Numeral

namespace QuotaGate.Decimal

/-- The number `significand * 2 ^ exponent`. -/
structure Scaled where
  significand : Nat
  exponent : Int

namespace Scaled

/-- The same number with a significand of 64 bits. -/
def widen (x : Scaled) : Scaled :=
  let spare := 63 - x.significand.log2
  { significand := x.significand <<< spare, exponent := x.exponent - spare }

/-- The same number with the exponent `e`, which is no greater. -/
def lower (x : Scaled) (e : Int) : Scaled :=
  { significand := x.significand <<< (x.exponent - e).toNat, exponent := e }

/-- The product, without the lower 64 bits of its significand; a half of the last bit is
rounded up. -/
def mul (x y : Scaled) : Scaled :=
  { significand := (x.significand * y.significand + (1 <<< 63)) >>> 64
    exponent := x.exponent + y.exponent + 64 }

/-- The quotient of two positive numbers, rounded to 64 bits. -/
def quotient (num den : Nat) : Scaled :=
  let rough : Int := num.log2 - den.log2 - 63
  -- The rough exponent is the right one or one too great.
  let fits : Bool := den <<< (63 + rough.toNat) ≤ num <<< (-rough).toNat
  let exponent := if fits then rough else rough - 1
  let n := num <<< (-exponent).toNat
  let d := den <<< exponent.toNat
  { significand := (2 * n + d) / (2 * d), exponent }

/-- The power `10 ^ k`, rounded to 64 bits. -/
def power (k : Int) : Scaled :=
  quotient (Nat.pow 10 k.toNat) (Nat.pow 10 (-k).toNat)

end Scaled

/-- The exponent of the power of ten that brings a number of 64 bits with exponent `e`
near to one.  Every eighth power will do. -/
def balance (e : Int) : Int :=
  let least := -((61 + e) * 30103 / 100000)
  8 * ((least + 347) / 8 + 1) - 348

/-- A positive number and the room below it, in units of which `one` make up one. -/
structure Fixed where
  top : Nat
  one : Nat
  /-- How far below the top the interval ends. -/
  slack : Nat
  /-- How far below the top the number itself lies. -/
  gap : Nat

namespace Fixed

/-- The greatest count of places, at most `k`, before the point that the interval does
not need. -/
def wholePlaces? (x : Fixed) : (k : Nat) → Option Nat
  | 0 => if x.top % x.one ≤ x.slack then some 0 else none
  | k + 1 => if x.top % (Nat.pow 10 (k + 1) * x.one) ≤ x.slack then some (k + 1) else x.wholePlaces? k

/-- The least count of places after the point that the interval needs, from `i` on for
at most `tries` places. -/
def fractionPlaces (x : Fixed) : (tries i : Nat) → Nat
  | 0, i => i
  | tries + 1, i =>
    if x.top * Nat.pow 10 i % x.one < x.slack * Nat.pow 10 i then i else x.fractionPlaces tries (i + 1)

/-- Steps down from `n` units of which the top is `rest` beyond, as long as this comes
nearer to the number and does not leave the interval. -/
def approach (unit slack gap : Nat) : (n rest : Nat) → Nat
  | 0, _ => 0
  | n + 1, rest =>
    if rest < gap ∧ rest + unit ≤ slack ∧ (rest + unit < gap ∨ rest + unit - gap < gap - rest) then
      approach unit slack gap n (rest + unit)
    else n + 1

/-- The decimal `n * 10 ^ e` that the number is cut to.  Beyond eight places after the
point it stays at the upper end of the interval. -/
def cut (x : Fixed) : Nat × Int :=
  match x.wholePlaces? ((Nat.toDigits 10 (x.top / x.one)).length - 1) with
  | some k =>
    let unit := Nat.pow 10 k * x.one
    (approach unit x.slack x.gap (x.top / unit) (x.top % unit), k)
  | none =>
    let i := x.fractionPlaces 20 1
    let scale := Nat.pow 10 i
    let top := x.top * scale
    let gap := if i < 9 then x.gap * scale else 0
    (approach x.one (x.slack * scale) gap (top / x.one) (top % x.one), -i)

end Fixed

/-- A decimal `n * 10 ^ e` of few digits that rounds to `mantissa * 2 ^ exponent`.  Just
above a power of two the gap to the number below is half the gap to the one above. -/
def compact (mantissa : Nat) (exponent : Int) : Nat × Int :=
  let value := Scaled.widen { significand := mantissa, exponent }
  let high := Scaled.widen { significand := 2 * mantissa + 1, exponent := exponent - 1 }
  let below : Scaled :=
    if mantissa = 1 <<< 52 then { significand := 4 * mantissa - 1, exponent := exponent - 2 }
    else { significand := 2 * mantissa - 1, exponent := exponent - 1 }
  let k := balance high.exponent
  let scale := Scaled.power k
  let top := high.mul scale
  let bottom := (below.lower high.exponent).mul scale
  -- Each end is narrowed by the one unit that its product may be off.
  let d := Fixed.cut
    { top := top.significand - 1
      one := 1 <<< (-top.exponent).toNat
      slack := top.significand - 1 - (bottom.significand + 1)
      gap := top.significand - 1 - (value.mul scale).significand }
  (d.1, d.2 - k)

/-- How a decimal is laid out. -/
structure Layout where
  /-- Most digits before the point in positional notation. -/
  longest : Int
  /-- Most zeros after the point, before the first other digit, in positional notation. -/
  zeros : Int
  /-- Written after a whole number. -/
  whole : String

/-- Lays out the decimal `n * 10 ^ e`. -/
def Layout.write (l : Layout) (n : Nat) (e : Int) : String :=
  let digits := Nat.toDigits 10 n
  let point : Int := digits.length + e
  let pad (k : Int) : List Char := List.replicate k.toNat '0'
  if 0 ≤ e ∧ point ≤ l.longest then String.ofList (digits ++ pad e) ++ l.whole
  else if 0 < point ∧ point ≤ l.longest then
    String.ofList (digits.take point.toNat) ++ "." ++ String.ofList (digits.drop point.toNat)
  else if -l.zeros ≤ point ∧ point ≤ 0 then "0." ++ String.ofList (pad (-point) ++ digits)
  else
    let rest := digits.drop 1
    String.ofList (digits.take 1) ++ (if rest = [] then "" else "." ++ String.ofList rest)
      ++ "e" ++ Numeral.ofInt (point - 1)

/-- The text of a floating-point number in a layout. -/
def Layout.float (l : Layout) (x : Float) : String :=
  let bits := x.toBits.toNat
  let raw := bits >>> 52 % 2048
  let fraction := bits % (1 <<< 52)
  let sign := if bits >>> 63 = 1 then "-" else ""
  if raw = 2047 then if fraction = 0 then sign ++ "inf" else "NaN"
  else if raw = 0 ∧ fraction = 0 then sign ++ "0" ++ l.whole
  else
    let mantissa := if raw = 0 then fraction else (1 <<< 52) + fraction
    let exponent : Int := ((if raw = 0 then 1 else raw : Nat) : Int) - 1075
    let d := compact mantissa exponent
    sign ++ l.write d.1 d.2

end QuotaGate.Decimal
