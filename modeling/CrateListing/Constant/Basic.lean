import CrateListing.Ty.Basic

/-!
# Constants

Values that are written out in a program.
-/

namespace CrateListing

/-- An integer with its type. -/
structure Scalar where
  value : Int
  type : IntegerType
deriving DecidableEq, Repr

/-- A constant value.  An aggregate without a variant is a struct value. -/
inductive Constant where
  | scalar (value : Scalar)
  | bool (value : Bool)
  | char (text : Text)
  | string (text : Text)
  | adt (variant : Option Int) (fields : List Constant)
  | global (id : Int)
deriving Repr, BEq

end CrateListing
