/-!
# Places

A place is a local variable followed by a path of projections into it.
-/

namespace CrateListing

/-- What a field belongs to. -/
inductive FieldOwner where
  /-- A declared type: a struct, or one variant of an enumeration. -/
  | adt (type : Int) (variant : Option Int)
  | tuple (arity : Int)
deriving DecidableEq, Repr

/-- One step of a path. -/
inductive Projection where
  | deref
  | derefBox
  | field (owner : FieldOwner) (index : Int)
deriving DecidableEq, Repr

/-- A local variable and a path from it. -/
structure Place where
  root : Int
  path : List Projection
deriving DecidableEq, Repr

end CrateListing
