import CrateListing.Scope
import CrateListing.Json.Quote

/-!
# The text of constants

Literals keep every character that is not a control character; quotes,
backslashes and control characters are written as escapes.
-/

namespace CrateListing

/-- The text of an integer; its type is shown where it matters. -/
def Scalar.render (scalar : Scalar) : Text :=
  Text.decimal scalar.value

/-- The text of a truth value. -/
def renderBool (value : Bool) : Text :=
  if value then "true" else "false"

/-- A string literal. -/
def stringLiteral (text : Text) : Text :=
  Json.quote Json.isText text

/-- A character literal.  An apostrophe is escaped when it is the whole character. -/
def charLiteral (text : Text) : Text :=
  if text = "'" then "'\\''"
  else "'" ++ Text.ofList (Json.escapeAll Json.isText text) ++ "'"

/-- The mark of a variant in front of a constant of an enumeration. -/
def variantMark : Option Int → Text
  | none => ""
  | some variant => "variant@" ++ Text.decimal variant ++ " "

mutual
/-- The text of a constant. -/
def Constant.render (scope : Scope) : Constant → Except InternalError Text
  | .scalar value => .ok value.render
  | .bool value => .ok (renderBool value)
  | .char text => .ok (charLiteral text)
  | .string text => .ok (stringLiteral text)
  | .adt variant fields => do
      let shown ← Constant.renderAll scope fields
      return variantMark variant ++ "\x7b" ++ Text.intercalate ", " shown ++ "\x7d"
  | .global id => scope.globalName id

/-- The texts of constants, one after the other. -/
def Constant.renderAll (scope : Scope) : List Constant → Except InternalError (List Text)
  | [] => .ok []
  | constant :: rest => do
      let shown ← Constant.render scope constant
      let more ← Constant.renderAll scope rest
      return shown :: more
end

end CrateListing
