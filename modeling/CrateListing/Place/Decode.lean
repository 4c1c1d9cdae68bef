import CrateListing.Place.Basic
import CrateListing.Json.Shape

/-!
# Reading places

Places and their projections from their JSON form.
-/

namespace CrateListing

/-- Reads what a field belongs to. -/
def FieldOwner.ofJson (json : Json) : Except Rejection FieldOwner := do
  let (tag, payload) ← json.asTagged "field projection kind"
  if tag = "ProjAdt" then
    let (type, variant) ← payload.asPair "ProjAdt"
    let type ← type.asInteger "type declaration id"
    return .adt type (← variant.asInteger? "variant id")
  else if tag = "ProjTuple" then return .tuple (← payload.asInteger "tuple arity")
  else throw (.unknownTag "field projection kind" tag)

/-- Reads a projection. -/
def Projection.ofJson (json : Json) : Except Rejection Projection := do
  let (tag, payload) ← json.asTagged "projection element"
  if tag = "Deref" then return .deref
  else if tag = "DerefBox" then return .derefBox
  else if tag = "Field" then
    let (owner, index) ← payload.asPair "Field"
    let owner ← FieldOwner.ofJson owner
    return .field owner (← index.asInteger "field id")
  else throw (.unknownTag "projection element" tag)

/-- Reads a place. -/
def Place.ofJson (json : Json) : Except Rejection Place := do
  let members ← json.asObject "place"
  let root ← (← Json.member "var_id" members).asInteger "var_id"
  let path ← (← Json.itemsOf "projection" members).mapM Projection.ofJson
  return ⟨root, path⟩

end CrateListing
