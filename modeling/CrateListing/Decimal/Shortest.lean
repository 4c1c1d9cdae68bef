import CrateListing.Decimal.Binary64

/-!
# Shortest decimals

The shortest decimal that reads back as a given double-precision number; among
several of that length, the one nearest to the number.

A number owns the interval of reals that round to it, with both ends when its
mantissa is even.  On the grid of decimals with one digit, two digits and so on,
the two neighbours of the number are tried until one lies in the interval.

Main definitions:

- `shortest`: the digits and the exponent of the first of them.
- `Layout.write`: how digits and exponent become text.
-/

namespace CrateListing
namespace Decimal

/-- A positive number `mantissa * 2 ^ exponent` with the ends of its interval, all over one
denominator. -/
structure Interval where
  low : Nat
  value : Nat
  high : Nat
  denominator : Nat
  /-- Whether the ends belong to the interval. -/
  closed : Bool

/-- The interval of a positive finite number.  Below a power of two the numbers lie twice as
dense, so the lower end is nearer there. -/
def Interval.of (mantissa : Nat) (exponent : Int) : Interval :=
  let below :=
    if mantissa = Binary64.mantissaEnd / 2 ∧ exponent > Binary64.leastExponent then 1 else 2
  let (scale, denominator) :=
    if 0 ≤ exponent then (Nat.pow 2 exponent.toNat, 4) else (1, 4 * Nat.pow 2 (-exponent).toNat)
  { low := (4 * mantissa - below) * scale
    value := 4 * mantissa * scale
    high := (4 * mantissa + 2) * scale
    denominator := denominator
    closed := mantissa % 2 = 0 }

/-- Whether the fraction lies in the interval. -/
def Interval.holds (interval : Interval) (numerator denominator : Nat) : Bool :=
  let point := numerator * interval.denominator
  let low := interval.low * denominator
  let high := interval.high * denominator
  if interval.closed then decide (low ≤ point) && decide (point ≤ high)
  else decide (low < point) && decide (point < high)

/-- The exponent of the first decimal digit of a positive fraction. -/
def leadingExponent (numerator denominator : Nat) : Int :=
  if numerator ≥ denominator then ((Nat.toDigits 10 (numerator / denominator)).length : Int) - 1
  else
    match (List.range 400).find? fun k => decide (numerator * Nat.pow 10 (k + 1) ≥ denominator) with
    | some k => -((k : Int) + 1)
    | none => -400

/-- The grid `10 ^ exponent` as a fraction. -/
def grid (exponent : Int) : Nat × Nat :=
  if 0 ≤ exponent then (Nat.pow 10 exponent.toNat, 1) else (1, Nat.pow 10 (-exponent).toNat)

/-- The multiple of the grid that stands for the number, when one of its two neighbours lies in
the interval: the nearer of the two if both do. -/
def onGrid? (interval : Interval) (exponent : Int) : Option Nat :=
  let (up, down) := grid exponent
  let lower := interval.value * down / (interval.denominator * up)
  let remainder := interval.value * down % (interval.denominator * up)
  let lowerFits := interval.holds (lower * up) down
  let upperFits := interval.holds ((lower + 1) * up) down
  if lowerFits && upperFits then
    let twice := 2 * remainder
    let width := interval.denominator * up
    if twice < width ∨ (twice = width ∧ lower % 2 = 0) then some lower else some (lower + 1)
  else if lowerFits then some lower
  else if upperFits then some (lower + 1)
  else none

/-- Takes zeros off the end of a digit list, keeping one digit. -/
def dropTrailingZeros (digits : List Char) : List Char :=
  match digits.reverse.dropWhile (· = '0') with
  | [] => ['0']
  | rest => rest.reverse

/-- The digits of the shortest decimal of a positive number and the exponent of the first one. -/
def shortest (mantissa : Nat) (exponent : Int) : List Char × Int :=
  let interval := Interval.of mantissa exponent
  let leading := leadingExponent interval.value interval.denominator
  match (List.range 17).findSome? fun (k : Nat) =>
      (onGrid? interval (leading - k)).map fun multiple => (multiple, leading - k) with
  | none => (['0'], 0)
  | some (multiple, unit) =>
      let digits := Nat.toDigits 10 multiple
      (dropTrailingZeros digits, unit + (digits.length : Int) - 1)

/-- How a number is laid out as text. -/
structure Layout where
  /-- The least exponent of the first digit that is written without an exponent mark. -/
  least : Int
  /-- The greatest such exponent. -/
  greatest : Int
  /-- The least number of digits after the exponent mark. -/
  exponentWidth : Nat

/-- Zeros in front of a text shorter than the width. -/
def padZeros (width : Nat) (digits : List Char) : List Char :=
  List.replicate (width - digits.length) '0' ++ digits

/-- The text of a decimal given by its digits and the exponent of the first digit. -/
def Layout.write (layout : Layout) (digits : List Char) (exponent : Int) : List Char :=
  if layout.least ≤ exponent ∧ exponent ≤ layout.greatest then
    if 0 ≤ exponent then
      let whole := digits.take (exponent.toNat + 1)
      let fraction := digits.drop (exponent.toNat + 1)
      whole ++ List.replicate (exponent.toNat + 1 - whole.length) '0' ++ ['.']
        ++ (if fraction.isEmpty then ['0'] else fraction)
    else '0' :: '.' :: (List.replicate ((-exponent).toNat - 1) '0' ++ digits)
  else
    let fraction := digits.drop 1
    let sign := if exponent < 0 then '-' else '+'
    digits.take 1 ++ (if fraction.isEmpty then [] else '.' :: fraction)
      ++ 'e' :: sign :: padZeros layout.exponentWidth (Nat.toDigits 10 exponent.natAbs)

end Decimal
end CrateListing
