/-!
# Double-precision numbers

Numbers in the binary format with 53 significant bits, as exact data: a finite
number is `mantissa * 2 ^ exponent`.  Reading a decimal rounds it to the nearest
such number, a tie to the one with the even mantissa.
-/

namespace CrateListing

/-- A number in the double-precision format. -/
inductive Binary64 where
  | nan
  | infinite (negative : Bool)
  | finite (negative : Bool) (mantissa : Nat) (exponent : Int)
deriving DecidableEq, Repr

namespace Binary64

/-- The exponent of the smallest positive number. -/
def leastExponent : Int := -1074

/-- The exponent of the largest finite number. -/
def greatestExponent : Int := 971

/-- The first mantissa that needs 54 bits. -/
def mantissaEnd : Nat := Nat.pow 2 53

/-- The quotient rounded to the nearest integer, a tie to the even one. -/
def roundDiv (numerator denominator : Nat) : Nat :=
  let quotient := numerator / denominator
  let twice := 2 * (numerator % denominator)
  if twice > denominator ∨ (twice = denominator ∧ quotient % 2 = 1) then quotient + 1
  else quotient

/-- A fraction `numerator / (denominator * 2 ^ exponent)` as a numerator and a denominator. -/
def scaled (numerator denominator : Nat) (exponent : Int) : Nat × Nat :=
  if 0 ≤ exponent then (numerator, denominator * Nat.pow 2 exponent.toNat)
  else (numerator * Nat.pow 2 (-exponent).toNat, denominator)

/-- The number nearest to a positive fraction. -/
def ofFraction (negative : Bool) (numerator denominator : Nat) : Binary64 :=
  let magnitude : Int := (Nat.log2 numerator : Int) - (Nat.log2 denominator : Int)
  let first := max (magnitude - 53) leastExponent
  let trial := scaled numerator denominator first
  let exponent := if trial.1 / trial.2 ≥ mantissaEnd then first + 1 else first
  let fraction := scaled numerator denominator exponent
  let mantissa := roundDiv fraction.1 fraction.2
  let (mantissa, exponent) :=
    if mantissa = mantissaEnd then (mantissaEnd / 2, exponent + 1) else (mantissa, exponent)
  if exponent > greatestExponent then .infinite negative
  else .finite negative mantissa exponent

/-- The number nearest to `digits * 10 ^ exponent`.  A decimal with more than 310 digits before
the point is infinite and one that starts more than 330 places behind it is zero. -/
def ofDecimal (negative : Bool) (digits : Nat) (exponent : Int) : Binary64 :=
  let places : Int := (Nat.toDigits 10 digits).length + exponent
  if digits = 0 ∨ places < -330 then .finite negative 0 leastExponent
  else if places > 310 then .infinite negative
  else if 0 ≤ exponent then ofFraction negative (digits * Nat.pow 10 exponent.toNat) 1
  else ofFraction negative digits (Nat.pow 10 (-exponent).toNat)

end Binary64
end CrateListing
