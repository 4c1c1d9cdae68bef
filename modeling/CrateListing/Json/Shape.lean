import CrateListing.Rejection

/-!
# Shapes of JSON values

The crate format is built from a few shapes: objects with named members, arrays
of fixed and of any length, integers, strings, and tagged values.  A tagged value
is an object with one member, whose key is the tag and whose value is the
payload; a string alone is a tag with the payload `null`.
-/

namespace CrateListing
namespace Json

/-- The members of an object. -/
def asObject (what : Text) : Json → Except Rejection (List (Text × Json))
  | .obj members => .ok members
  | other => .error (.unmet (.object what) other)

/-- The items of an array. -/
def asArray (what : Text) : Json → Except Rejection (List Json)
  | .arr items => .ok items
  | other => .error (.unmet (.array what) other)

/-- An integer; truth values and numbers with a fraction or an exponent are none. -/
def asInteger (what : Text) : Json → Except Rejection Int
  | .int value => .ok value
  | other => .error (.unmet (.integer what) other)

/-- A string. -/
def asString (what : Text) : Json → Except Rejection Text
  | .str value => .ok value
  | other => .error (.unmet (.string what) other)

/-- A string or nothing. -/
def asString? (what : Text) : Json → Except Rejection (Option Text)
  | .null => .ok none
  | other => (asString what other).map some

/-- An integer or nothing. -/
def asInteger? (what : Text) : Json → Except Rejection (Option Int)
  | .null => .ok none
  | other => (asInteger what other).map some

/-- A member that has to be there. -/
def member (key : Text) (members : List (Text × Json)) : Except Rejection Json :=
  match Assoc.find? key members with
  | some value => .ok value
  | none => .error (.unmet (.member key) (.obj members))

/-- A member that counts as `null` when it is missing. -/
def memberOrNull (key : Text) (members : List (Text × Json)) : Json :=
  (Assoc.find? key members).getD .null

/-- The items of a member that counts as an empty array when it is missing. -/
def itemsOf (key : Text) (members : List (Text × Json)) : Except Rejection (List Json) :=
  asArray key ((Assoc.find? key members).getD (.arr []))

/-- A tag and its payload. -/
def asTagged (what : Text) : Json → Except Rejection (Text × Json)
  | .str tag => .ok (tag, .null)
  | .obj [(tag, payload)] => .ok (tag, payload)
  | other => .error (.unmet (.tagged what) other)

/-- Why a value is not an array of a fixed length, given that it is none. -/
def misfit (count : Nat) (what : Text) : Json → Rejection
  | .arr items => .unmet (.elements count what) (.arr items)
  | other => .unmet (.array what) other

/-- An array of two items. -/
def asPair (what : Text) : Json → Except Rejection (Json × Json)
  | .arr [a, b] => .ok (a, b)
  | other => .error (misfit 2 what other)

/-- An array of three items. -/
def asTriple (what : Text) : Json → Except Rejection (Json × Json × Json)
  | .arr [a, b, c] => .ok (a, b, c)
  | other => .error (misfit 3 what other)

/-- An array of four items. -/
def asQuadruple (what : Text) : Json → Except Rejection (Json × Json × Json × Json)
  | .arr [a, b, c, d] => .ok (a, b, c, d)
  | other => .error (misfit 4 what other)

/-- The meaning of a name in a table. -/
def asNamed {α : Type} (what : Text) (table : List (Text × α)) (json : Json) :
    Except Rejection α := do
  let name ← asString what json
  match Assoc.find? name table with
  | some meaning => return meaning
  | none => throw (.unknownTag what name)

end Json
end CrateListing
