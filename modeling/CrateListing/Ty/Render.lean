import CrateListing.Scope

/-!
# The text of types

Regions, types and generic argument lists as they are shown in the scope of a
declaration.
-/

namespace CrateListing

/-- The text of a region. -/
def Region.render (scope : Scope) : Region → Except InternalError Text
  | .static => .ok "'static"
  | .erased => .ok "'_"
  | .var id => scope.regionParamName id

/-- Items between angle brackets; nothing when there are none. -/
def angled (items : List Text) : Text :=
  if items.isEmpty then "" else "<" ++ Text.intercalate ", " items ++ ">"

/-- The word for a mutable reference. -/
def Mutability.word : Mutability → Text
  | .mutable => "mut "
  | .shared => ""

mutual
/-- The text of a type.  The region arguments of a tuple are not shown. -/
def Ty.render (scope : Scope) : Ty → Except InternalError Text
  | .adt .tuple _ types => do
      let shown ← Ty.renderAll scope types
      return "(" ++ Text.intercalate ", " shown ++ ")"
  | .adt (.declared id) regions types => do
      let name ← scope.typeName id
      let shownRegions ← regions.mapM (Region.render scope)
      let shownTypes ← Ty.renderAll scope types
      return name ++ angled (shownRegions ++ shownTypes)
  | .adt (.builtin ty) regions types => do
      let shownRegions ← regions.mapM (Region.render scope)
      let shownTypes ← Ty.renderAll scope types
      return ty.name ++ angled (shownRegions ++ shownTypes)
  | .var id => scope.typeParamName id
  | .bool => .ok "bool"
  | .char => .ok "char"
  | .never => .ok "!"
  | .integer ty => .ok ty.name
  | .str => .ok "str"
  | .array element => do
      let shown ← Ty.render scope element
      return "[" ++ shown ++ "; ?]"
  | .slice element => do
      let shown ← Ty.render scope element
      return "[" ++ shown ++ "]"
  | .ref region target mutability => do
      let shownRegion ← region.render scope
      let shownTarget ← Ty.render scope target
      return "&" ++ shownRegion ++ " " ++ mutability.word ++ shownTarget

/-- The texts of types, one after the other. -/
def Ty.renderAll (scope : Scope) : List Ty → Except InternalError (List Text)
  | [] => .ok []
  | ty :: rest => do
      let shown ← Ty.render scope ty
      let more ← Ty.renderAll scope rest
      return shown :: more
end

/-- A list of generic arguments. -/
def genericArgs (scope : Scope) (regions : List Region) (types : List Ty) :
    Except InternalError Text := do
  let shownRegions ← regions.mapM (Region.render scope)
  let shownTypes ← Ty.renderAll scope types
  return angled (shownRegions ++ shownTypes)

/-- A list of generic parameters. -/
def genericParams (regions : List RegionParam) (types : List TypeParam) : Text :=
  angled (regions.map RegionParam.shown ++ types.map TypeParam.name)

end CrateListing
