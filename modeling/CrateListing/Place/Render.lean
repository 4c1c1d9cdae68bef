import CrateListing.Scope

/-!
# The text of places

A place is shown from the inside out: the local, then each projection around
what was shown so far.
-/

namespace CrateListing

/-- The text of a projection from a place that is already shown. -/
def Projection.render (scope : Scope) (inner : Text) : Projection → Except InternalError Text
  | .deref => .ok ("*(" ++ inner ++ ")")
  | .derefBox => .ok ("deref_box(" ++ inner ++ ")")
  | .field (.tuple _) index => .ok ("(" ++ inner ++ ")." ++ Text.decimal index)
  | .field (.adt type none) index => do
      let field ← scope.fieldName type none index
      return "(" ++ inner ++ ")." ++ field
  | .field (.adt type (some variant)) index => do
      let field ← scope.fieldName type (some variant) index
      let variantName ← scope.variantName type variant
      return "(" ++ inner ++ " as " ++ variantName ++ ")." ++ field

/-- The text of a path from a place that is already shown. -/
def Place.renderPath (scope : Scope) (inner : Text) :
    List Projection → Except InternalError Text
  | [] => .ok inner
  | step :: rest => do
      let shown ← step.render scope inner
      Place.renderPath scope shown rest

/-- The text of a place. -/
def Place.render (scope : Scope) (place : Place) : Except InternalError Text := do
  let root ← scope.localName place.root
  Place.renderPath scope root place.path

end CrateListing
