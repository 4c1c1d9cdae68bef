import CrateListing.Json.Value
import CrateListing.Json.Quote
import CrateListing.Decimal.Shortest
import CrateListing.Text.Numeral

/-!
# Writing JSON

The text of a JSON value on one line, in ASCII, with one space after commas and
colons.
-/

namespace CrateListing
namespace Json

/-- Numbers are positional from `0.0001` up to sixteen digits before the point; an exponent has
a sign and at least two digits. -/
def realLayout : Decimal.Layout :=
  ⟨-4, 15, 2⟩

/-- The text of a number with a fraction or an exponent. -/
def writeReal : Binary64 → Text
  | .nan => "NaN"
  | .infinite negative => if negative then "-Infinity" else "Infinity"
  | .finite negative mantissa exponent =>
      let (digits, leading) :=
        if mantissa = 0 then (['0'], 0) else Decimal.shortest mantissa exponent
      (if negative then ("-" : Text) else "") ++ String.ofList (realLayout.write digits leading)

mutual
/-- The text of a value. -/
def write : Json → Text
  | .null => "null"
  | .bool value => if value then "true" else "false"
  | .int value => Text.decimal value
  | .real value => writeReal value
  | .str value => quote isAscii value
  | .arr items => "[" ++ Text.intercalate ", " (writeItems items) ++ "]"
  | .obj members => "\x7b" ++ Text.intercalate ", " (writeMembers members) ++ "\x7d"

/-- The texts of the items of an array. -/
def writeItems : List Json → List Text
  | [] => []
  | item :: rest => write item :: writeItems rest

/-- The texts of the members of an object. -/
def writeMembers : List (Text × Json) → List Text
  | [] => []
  | (key, value) :: rest => (quote isAscii key ++ ": " ++ write value) :: writeMembers rest
end

end Json
end CrateListing
