import CrateListing.Ty.Basic
import CrateListing.Json.Shape

/-!
# Reading types

Regions and types from their JSON form.
-/

namespace CrateListing

/-- Reads a region. -/
def Region.ofJson (json : Json) : Except Rejection Region := do
  let (tag, payload) ← json.asTagged "region"
  if tag = "Static" then return .static
  else if tag = "Erased" then return .erased
  else if tag = "Var" then return .var (← payload.asInteger "region id")
  else throw (.unknownTag "region" tag)

/-- Reads a list of regions. -/
def Region.listOfJson (what : Text) (json : Json) : Except Rejection (List Region) := do
  let items ← json.asArray what
  items.mapM Region.ofJson

/-- The integer type with a name. -/
def IntegerType.ofName (name : Text) : Except Rejection IntegerType :=
  match IntegerType.ofName? name with
  | some ty => .ok ty
  | none => .error (.unknownTag "integer type" name)

/-- Reads an integer type. -/
def IntegerType.ofJson (json : Json) : Except Rejection IntegerType := do
  let name ← json.asString "integer type"
  IntegerType.ofName name

/-- The built-in types by name. -/
def BuiltinType.table : List (Text × BuiltinType) :=
  [("Box", .box), ("Vec", .vec), ("Option", .option)]

/-- The kinds of references by name. -/
def Mutability.table : List (Text × Mutability) :=
  [("Mut", .mutable), ("Shared", .shared)]

/-- Reads what a constructed type is built with. -/
def TypeHead.ofJson (json : Json) : Except Rejection TypeHead := do
  let (tag, payload) ← json.asTagged "type id"
  if tag = "Adt" then return .declared (← payload.asInteger "type declaration id")
  else if tag = "Tuple" then return .tuple
  else if tag = "Assumed" then
    return .builtin (← payload.asNamed "assumed type" BuiltinType.table)
  else throw (.unknownTag "type id" tag)

/-- The type that a tag stands for when it holds no other type. -/
def Ty.ofSimpleTag (tag : Text) (payload : Json) : Except Rejection Ty := do
  if tag = "TypeVar" then return .var (← payload.asInteger "type variable id")
  else if tag = "Bool" then return .bool
  else if tag = "Char" then return .char
  else if tag = "Never" then return .never
  else if tag = "Integer" then return .integer (← IntegerType.ofJson payload)
  else if tag = "Str" then return .str
  else throw (.unknownTag "type" tag)

/-- The type that a tag without a payload stands for. -/
def Ty.ofBareTag (tag : Text) : Except Rejection Ty :=
  if tag = "Adt" ∨ tag = "Ref" then .error (Json.misfit 3 tag .null)
  else if tag = "Array" ∨ tag = "Slice" then .error (.unmet (.tagged "type") .null)
  else Ty.ofSimpleTag tag .null

mutual
/-- Reads a type. -/
def Ty.ofJson : Json → Except Rejection Ty
  | .str tag => Ty.ofBareTag tag
  | .obj [(tag, payload)] =>
      if tag = "Adt" then
        match payload with
        | .arr [head, regions, types] => do
            let head ← TypeHead.ofJson head
            let regions ← Region.listOfJson "regions" regions
            match types with
            | .arr items => return .adt head regions (← Ty.allOfJson items)
            | other => throw (.unmet (.array "types") other)
        | other => .error (Json.misfit 3 "Adt" other)
      else if tag = "Array" then do return .array (← Ty.ofJson payload)
      else if tag = "Slice" then do return .slice (← Ty.ofJson payload)
      else if tag = "Ref" then
        match payload with
        | .arr [region, target, kind] => do
            let region ← Region.ofJson region
            let target ← Ty.ofJson target
            return .ref region target (← kind.asNamed "reference kind" Mutability.table)
        | other => .error (Json.misfit 3 "Ref" other)
      else Ty.ofSimpleTag tag payload
  | other => .error (.unmet (.tagged "type") other)

/-- Reads types, one after the other. -/
def Ty.allOfJson : List Json → Except Rejection (List Ty)
  | [] => .ok []
  | item :: rest => do
      let ty ← Ty.ofJson item
      let more ← Ty.allOfJson rest
      return ty :: more
end

/-- Reads a list of types. -/
def Ty.listOfJson (what : Text) (json : Json) : Except Rejection (List Ty) := do
  let items ← json.asArray what
  Ty.allOfJson items

end CrateListing
