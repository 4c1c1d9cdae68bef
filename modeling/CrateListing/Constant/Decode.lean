import CrateListing.Constant.Basic
import CrateListing.Ty.Decode

/-!
# Reading constants

Scalars and constants from their JSON form.  A scalar may be given as a string,
since not every program that handles JSON keeps large integers.
-/

namespace CrateListing

/-- Reads the value of a scalar: an integer, or a string with an integer literal. -/
def Scalar.valueOfJson : Json → Except Rejection Int
  | .str text =>
      match Text.readInteger text with
      | .ok value => .ok value
      | .error _ => .error (.unmet (.integerLiteral text) (.str text))
  | other => other.asInteger "scalar value"

/-- Reads a scalar, whose tag is its type. -/
def Scalar.ofJson (json : Json) : Except Rejection Scalar := do
  let (tag, payload) ← json.asTagged "scalar value"
  let type ← IntegerType.ofName tag
  let value ← Scalar.valueOfJson payload
  return ⟨value, type⟩

/-- The constant that a tag stands for when it holds no other constant. -/
def Constant.ofSimpleTag (tag : Text) (payload : Json) : Except Rejection Constant := do
  if tag = "Scalar" then return .scalar (← Scalar.ofJson payload)
  else if tag = "Bool" then
    match payload with
    | .bool value => return .bool value
    | other => throw (.unmet .boolean other)
  else if tag = "Char" then return .char (← payload.asString "character")
  else if tag = "String" then return .string (← payload.asString "string")
  else if tag = "Global" then return .global (← payload.asInteger "global id")
  else throw (.unknownTag "constant value" tag)

/-- The constant that a tag without a payload stands for. -/
def Constant.ofBareTag (tag : Text) : Except Rejection Constant :=
  if tag = "Adt" then .error (Json.misfit 2 "constant Adt" .null)
  else Constant.ofSimpleTag tag .null

mutual
/-- Reads a constant. -/
def Constant.ofJson : Json → Except Rejection Constant
  | .str tag => Constant.ofBareTag tag
  | .obj [(tag, payload)] =>
      if tag = "Adt" then
        match payload with
        | .arr [variant, fields] => do
            let variant ← variant.asInteger? "variant id"
            match fields with
            | .arr items => return .adt variant (← Constant.allOfJson items)
            | other => throw (.unmet (.array "constant fields") other)
        | other => .error (Json.misfit 2 "constant Adt" other)
      else Constant.ofSimpleTag tag payload
  | other => .error (.unmet (.tagged "constant value") other)

/-- Reads constants, one after the other. -/
def Constant.allOfJson : List Json → Except Rejection (List Constant)
  | [] => .ok []
  | item :: rest => do
      let constant ← Constant.ofJson item
      let more ← Constant.allOfJson rest
      return constant :: more
end

end CrateListing
