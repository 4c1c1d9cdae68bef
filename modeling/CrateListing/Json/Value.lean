import CrateListing.Assoc
import CrateListing.Decimal.Binary64
import CrateListing.Text.Basic

/-!
# JSON values

A JSON document as data.  Integers are exact and kept apart from numbers that
were written with a fraction or an exponent.  The members of an object stand in
the order of the document.
-/

namespace CrateListing

/-- A JSON value. -/
inductive Json where
  | null
  | bool (value : Bool)
  | int (value : Int)
  | real (value : Binary64)
  | str (value : Text)
  | arr (items : List Json)
  | obj (members : List (Text × Json))
deriving Repr

instance : Inhabited Json :=
  ⟨.null⟩

end CrateListing
