import CrateListing.Text.Blank
import CrateListing.Text.Digit
import CrateListing.Text.Quoted

/-!
# Integer numerals

An integer literal is an optional sign and decimal digits of any script, with
single underscores allowed between digits and blanks allowed around the whole.
At most `digitLimit` digits are read.

The canonical numeral of an integer has ASCII digits, no leading zero and a
minus sign exactly when the integer is negative.
-/

namespace CrateListing
namespace Text

/-- The largest number of digits that an integer literal may have. -/
def digitLimit : Nat := 4300

/-- Why a text is not read as an integer. -/
inductive NumeralError where
  /-- The text does not have the form of an integer literal. -/
  | malformed (text : Text)
  /-- The literal has more digits than `digitLimit`. -/
  | tooLong (digits : Nat)
deriving DecidableEq, Repr

/-- The canonical decimal numeral of a natural number. -/
def natural (n : Nat) : Text :=
  Nat.repr n

/-- The digits of the numeral of a natural number. -/
@[simp]
theorem toList_natural (n : Nat) : (natural n).toList = (Nat.toDigits 10 n).map .char := by
  rw [natural, toList_ofString, Nat.toList_repr]

/-- A numeral has no other characters than ASCII digits. -/
theorem isDigit_of_mem_toDigits {n : Nat} {c : CodePoint}
    (h : c ∈ (Nat.toDigits 10 n).map .char) : c.isDigit = true := by
  obtain ⟨digit, hdigit, rfl⟩ := List.mem_map.1 h
  have hrange := Nat.isDigit_of_mem_toDigits (by decide) (by decide) hdigit
  simpa [CodePoint.isDigit_iff, Char.isDigit, UInt32.le_iff_toNat_le] using hrange

/-- The canonical decimal numeral of an integer.  An integer with more than `digitLimit` digits has
one as well, although the program refuses to write it down.  This matters only for crates that were
built by hand: the integers in a file are within the limit (`Json.fits_of_parse`), and so are the
identifiers of a crate that was loaded (`Crate.Numbered.withinLimit`). -/
def decimal : Int → Text
  | .ofNat n => natural n
  | .negSucc n => "-" ++ natural (n + 1)

/-- The wording of a refused integer literal; a long text is cut off. -/
def NumeralError.message : NumeralError → Text
  | .malformed text =>
      "invalid literal for int() with base 10: "
        ++ Text.ofList ((quoted text).toList.take 200)
  | .tooLong digits =>
      "Exceeds the limit (" ++ natural digitLimit
        ++ " digits) for integer string conversion: value has " ++ natural digits
        ++ " digits; use sys.set_int_max_str_digits() to increase the limit"

/-- The number with the given decimal digits, most significant first. -/
def ofDigits (digits : List Nat) : Nat :=
  digits.foldl (fun value digit => 10 * value + digit) 0

/-- The sign at the front of a literal: whether it is a minus sign, and what follows. -/
def splitSign : List CodePoint → Bool × List CodePoint
  | .char '-' :: rest => (true, rest)
  | .char '+' :: rest => (false, rest)
  | text => (false, text)

/-- A character that may occur between the sign and the end of a literal. -/
def isNumeralChar (c : CodePoint) : Bool :=
  c = '_' || isDecimal c

/-- Every underscore stands between two digits, and there is a digit at the end.  The flag tells
whether a digit stands just before the text. -/
def underscoresSeparate : (afterDigit : Bool) → List CodePoint → Bool
  | afterDigit, [] => afterDigit
  | afterDigit, c :: rest =>
      if c = '_' then afterDigit && underscoresSeparate false rest
      else underscoresSeparate true rest

/-- Reads an integer literal.  The number of digits is judged before what follows them. -/
def readInteger (text : Text) : Except NumeralError Int :=
  let (negative, body) := splitSign (dropBlanks text.toList)
  let run := body.takeWhile isNumeralChar
  let digits := run.filterMap digitValue?
  if !underscoresSeparate false run then .error (.malformed text)
  else if digits.length > digitLimit then .error (.tooLong digits.length)
  else if !(dropBlanks (body.dropWhile isNumeralChar)).isEmpty then .error (.malformed text)
  else
    let value : Int := ofDigits digits
    .ok (if negative then -value else value)

end Text
end CrateListing
