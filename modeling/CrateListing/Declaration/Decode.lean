import CrateListing.Declaration.Basic
import CrateListing.Statement.Decode

/-!
# Reading declarations

Type, global and function declarations from their JSON form.
-/

namespace CrateListing

/-- Reads a qualified name. -/
def Name.ofJson (json : Json) : Except Rejection Name := do
  let items ← json.asArray "name"
  items.mapM (Json.asString "name element")

/-- Reads a region parameter. -/
def RegionParam.ofJson (json : Json) : Except Rejection RegionParam := do
  let members ← json.asObject "region parameter"
  let index ← (← Json.member "index" members).asInteger "region index"
  let name ← (Json.memberOrNull "name" members).asString? "region name"
  return ⟨index, name⟩

/-- Reads a type parameter. -/
def TypeParam.ofJson (json : Json) : Except Rejection TypeParam := do
  let members ← json.asObject "type parameter"
  let index ← (← Json.member "index" members).asInteger "type parameter index"
  let name ← (← Json.member "name" members).asString "type parameter name"
  return ⟨index, name⟩

/-- Reads the region parameters among the members of an object. -/
def RegionParam.ofMembers (members : List (Text × Json)) : Except Rejection (List RegionParam) := do
  let items ← Json.itemsOf "region_params" members
  items.mapM RegionParam.ofJson

/-- Reads the type parameters among the members of an object. -/
def TypeParam.ofMembers (members : List (Text × Json)) : Except Rejection (List TypeParam) := do
  let items ← Json.itemsOf "type_params" members
  items.mapM TypeParam.ofJson

/-! ## Types -/

/-- Reads a field. -/
def FieldDecl.ofJson (json : Json) : Except Rejection FieldDecl := do
  let members ← json.asObject "field"
  let name ← (Json.memberOrNull "name" members).asString? "field name"
  let type ← Ty.ofJson (← Json.member "ty" members)
  return ⟨name, type⟩

/-- Reads a variant; its fields are looked at before its name. -/
def Variant.ofJson (json : Json) : Except Rejection Variant := do
  let members ← json.asObject "variant"
  let fields ← (← Json.itemsOf "fields" members).mapM FieldDecl.ofJson
  let name ← (← Json.member "name" members).asString "variant name"
  return ⟨name, fields⟩

/-- Reads what a declared type consists of. -/
def TypeBody.ofJson (json : Json) : Except Rejection TypeBody := do
  let (tag, payload) ← json.asTagged "type declaration kind"
  if tag = "Struct" then return .struct (← (← payload.asArray "fields").mapM FieldDecl.ofJson)
  else if tag = "Enum" then return .enum (← (← payload.asArray "variants").mapM Variant.ofJson)
  else if tag = "Opaque" then return .hidden
  else throw (.unknownTag "type declaration kind" tag)

/-- Reads a type declaration. -/
def TypeDecl.ofJson (json : Json) : Except Rejection TypeDecl := do
  let members ← json.asObject "type declaration"
  let id ← (← Json.member "def_id" members).asInteger "def_id"
  let name ← Name.ofJson (← Json.member "name" members)
  let body ← TypeBody.ofJson (← Json.member "kind" members)
  let regionParams ← RegionParam.ofMembers members
  let typeParams ← TypeParam.ofMembers members
  let span ← Span.ofJson? (Json.memberOrNull "span" members)
  return ⟨id, name, body, regionParams, typeParams, span⟩

/-! ## Globals -/

/-- Reads a global. -/
def GlobalDecl.ofJson (json : Json) : Except Rejection GlobalDecl := do
  let members ← json.asObject "global declaration"
  let id ← (← Json.member "def_id" members).asInteger "def_id"
  let name ← Name.ofJson (← Json.member "name" members)
  let type ← Ty.ofJson (← Json.member "ty" members)
  let initializer ← (← Json.member "body_id" members).asInteger "body_id"
  let span ← Span.ofJson? (Json.memberOrNull "span" members)
  return ⟨id, name, type, initializer, span⟩

/-! ## Functions -/

/-- Reads a local. -/
def Local.ofJson (json : Json) : Except Rejection Local := do
  let members ← json.asObject "local"
  let index ← (← Json.member "index" members).asInteger "local index"
  let name ← (Json.memberOrNull "name" members).asString? "local name"
  let type ← Ty.ofJson (← Json.member "ty" members)
  return ⟨index, name, type⟩

/-- Reads a signature. -/
def Signature.ofJson (json : Json) : Except Rejection Signature := do
  let members ← json.asObject "signature"
  let inputs ← Ty.listOfJson "inputs" (← Json.member "inputs" members)
  let output ← Ty.ofJson (← Json.member "output" members)
  let regionParams ← RegionParam.ofMembers members
  let typeParams ← TypeParam.ofMembers members
  return ⟨inputs, output, regionParams, typeParams⟩

/-- Reads the inside of a function. -/
def Body.ofJson (json : Json) : Except Rejection Body := do
  let members ← json.asObject "function body"
  let argCount ← (← Json.member "arg_count" members).asInteger "arg_count"
  let locals ← (← (← Json.member "locals" members).asArray "locals").mapM Local.ofJson
  let statement ← Statement.ofJson (← Json.member "body" members)
  return ⟨argCount, locals, statement⟩

/-- Reads the inside of a function, which may be missing. -/
def Body.ofJson? : Json → Except Rejection (Option Body)
  | .null => .ok none
  | json => (Body.ofJson json).map some

/-- Reads a function. -/
def FunDecl.ofJson (json : Json) : Except Rejection FunDecl := do
  let members ← json.asObject "function declaration"
  let id ← (← Json.member "def_id" members).asInteger "def_id"
  let name ← Name.ofJson (← Json.member "name" members)
  let signature ← Signature.ofJson (← Json.member "signature" members)
  let body ← Body.ofJson? (Json.memberOrNull "body" members)
  let span ← Span.ofJson? (Json.memberOrNull "span" members)
  return ⟨id, name, signature, body, span⟩

end CrateListing
