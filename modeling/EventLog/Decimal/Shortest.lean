import EventLog.Decimal.Binary64
import EventLog.Text.Digits

/-!
# Shortest decimal text

A binary floating point number is written with the fewest decimal digits that read back as the same
number; of several such decimals the nearest one is taken. Whether a decimal reads back is decided
exactly: it must lie in the interval of the numbers that round to the magnitude.

* `Magnitude.shortest`: the digits and their power of ten.
* `floatText`: the written form. Between `10 ^ -5` and `10 ^ 16` it is positional, with at least one
  digit after the point; outside of that it has an exponent.
-/

namespace EventLog.Decimal

open Text

namespace Magnitude

/-- The numbers that round to a magnitude lie between `low / den` and `high / den`, for the
magnitude `mid / den`; the ends belong to them if the significand is even. -/
structure Interval where
  /-- The numerator of the lower end. -/
  low : Nat
  /-- The numerator of the magnitude. -/
  mid : Nat
  /-- The numerator of the upper end. -/
  high : Nat
  /-- The common denominator. -/
  den : Nat
  /-- Whether the ends round to the magnitude too. -/
  closed : Bool

/-- The interval of a magnitude. The neighbour below is closer if the significand is the least with
53 bits. -/
def interval (x : Magnitude) : Interval :=
  let unit := Nat.pow 2 x.exponent.toNat
  let below := if x.significand = leastNormal ∧ leastExponent < x.exponent then 1 else 2
  { low := (4 * x.significand - below) * unit
    mid := 4 * x.significand * unit
    high := (4 * x.significand + 2) * unit
    den := 4 * x.den
    closed := x.significand % 2 = 0 }

/-- Whether the decimal `digits * 10 ^ power` lies in an interval. -/
def Interval.holds (i : Interval) (digits : Nat) (power : Int) : Bool :=
  let d := digits * Nat.pow 10 power.toNat * i.den
  let s := Nat.pow 10 (-power).toNat
  if i.closed then i.low * s ≤ d && d ≤ i.high * s else i.low * s < d && d < i.high * s

/-- The greatest power of ten that is not above a ratio. -/
def powerBelow (num den : Nat) : Int :=
  if den ≤ num then ((digits (num / den)).length : Int) - 1
  else -((digits ((den - 1) / num)).length : Int)

/-- The nearer one of the two neighbours of the magnitude on the grid of `10 ^ power`, of those in
the interval. -/
def Interval.onGrid? (i : Interval) (power : Int) : Option Nat :=
  let num := i.mid * Nat.pow 10 (-power).toNat
  let den := i.den * Nat.pow 10 power.toNat
  let d := num / den
  match i.holds d power, i.holds (d + 1) power with
  | true, true => some (roundDiv num den)
  | true, false => some d
  | false, true => some (d + 1)
  | false, false => none

/-- Tries grids that get finer by a digit each, as many as `finer` says. -/
def Interval.search (i : Interval) (power : Int) : (finer : Nat) → Nat × Int
  | 0 => (i.mid * Nat.pow 10 (-power).toNat / (i.den * Nat.pow 10 power.toNat), power)
  | finer + 1 =>
    match i.onGrid? power with
    | some d => (d, power)
    | none => i.search (power - 1) finer

/-- The fewest digits that read back as a magnitude, and the power of ten of the last of them.
Seventeen digits are always enough. -/
def shortest (x : Magnitude) : Nat × Int :=
  let i := x.interval
  i.search (powerBelow i.mid i.den) 17

end Magnitude

/-- The written form of a positive decimal number with the given digits, of which the first one has
the weight `10 ^ power`. -/
def decimalText (ds : List Char) (power : Int) : List Char :=
  if 0 ≤ power ∧ power ≤ 15 then
    let n := power.toNat + 1
    let fraction := ds.drop n
    ds.take n ++ List.replicate (n - ds.length) '0' ++
      '.' :: (if fraction = [] then ['0'] else fraction)
  else if -5 ≤ power ∧ power < 0 then
    '0' :: '.' :: List.replicate ((-power).toNat - 1) '0' ++ ds
  else
    let fraction := ds.drop 1
    ds.take 1 ++ (if fraction = [] then [] else '.' :: fraction) ++
      'e' :: (if power < 0 then '-' else '+') :: digits power.natAbs

/-- The written form of a floating point number. -/
def floatText (negative : Bool) (x : Magnitude) : String :=
  let magnitude :=
    if x.significand = 0 then ['0', '.', '0']
    else
      let (d, power) := x.shortest
      let ds := digits d
      decimalText (trimZeros ds) (power + ds.length - 1)
  String.ofList ((if negative then ['-'] else []) ++ magnitude)

end EventLog.Decimal
