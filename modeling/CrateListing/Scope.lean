import CrateListing.Crate.Basic
import CrateListing.Fault

/-!
# Scopes

While a declaration is listed, identifiers are resolved in its scope: its own
locals and generic parameters, and the declarations of the crate.  An identifier
that is not in scope is an error; there is no placeholder for it.
-/

namespace CrateListing

/-- The names that a declaration can refer to. -/
structure Scope where
  crate : Crate
  /-- The declaration that the scope belongs to. -/
  declName : Option Text := none
  locals : Table Local := Table.empty
  regionParams : Table RegionParam := Table.empty
  typeParams : Table TypeParam := Table.empty
deriving Repr

namespace Scope

/-! ## Scopes of declarations -/

/-- The scope of a type declaration. -/
def ofType (crate : Crate) (decl : TypeDecl) : Scope :=
  { crate := crate
    declName := some decl.name.joined
    regionParams := Table.ofItems RegionParam.index decl.regionParams
    typeParams := Table.ofItems TypeParam.index decl.typeParams }

/-- The scope of a global, which has neither locals nor parameters. -/
def ofGlobal (crate : Crate) (decl : GlobalDecl) : Scope :=
  { crate := crate
    declName := some decl.name.joined }

/-- The locals of a function by index. -/
def localsOf (decl : FunDecl) : Table Local :=
  match decl.body with
  | none => Table.empty
  | some body => Table.ofItems Local.index body.locals

/-- The scope of a function: its locals and the parameters of its signature. -/
def ofFunction (crate : Crate) (decl : FunDecl) : Scope :=
  { crate := crate
    declName := some decl.name.joined
    locals := localsOf decl
    regionParams := Table.ofItems RegionParam.index decl.signature.regionParams
    typeParams := Table.ofItems TypeParam.index decl.signature.typeParams }

/-! ## Resolving identifiers -/

/-- The error of a look-up in this scope. -/
def failure (scope : Scope) (fault : Fault) : InternalError :=
  ⟨fault, some ⟨scope.declName, none⟩⟩

/-- What was found, or the error of the look-up. -/
def require {α : Type} (scope : Scope) (fault : Fault) : Option α → Except InternalError α
  | some found => .ok found
  | none => .error (scope.failure fault)

/-- How a local is shown. -/
def localName (scope : Scope) (id : Int) : Except InternalError Text := do
  let var ← scope.require (.unknownLocal id) (scope.locals.find? id)
  return var.shown

/-- How a type parameter is shown. -/
def typeParamName (scope : Scope) (id : Int) : Except InternalError Text := do
  let param ← scope.require (.unknownTypeParam id) (scope.typeParams.find? id)
  return param.name

/-- How a region parameter is shown. -/
def regionParamName (scope : Scope) (id : Int) : Except InternalError Text := do
  let param ← scope.require (.unknownRegionParam id) (scope.regionParams.find? id)
  return param.shown

/-- The declaration of a type. -/
def typeDecl (scope : Scope) (id : Int) : Except InternalError TypeDecl :=
  scope.require (.unknownType id) (scope.crate.types.find? id)

/-- The name of a declared type. -/
def typeName (scope : Scope) (id : Int) : Except InternalError Text := do
  let decl ← scope.typeDecl id
  return decl.name.joined

/-- The name of a declared function. -/
def functionName (scope : Scope) (id : Int) : Except InternalError Text := do
  let decl ← scope.require (.unknownFunction id) (scope.crate.functions.find? id)
  return decl.name.joined

/-- The name of a declared global. -/
def globalName (scope : Scope) (id : Int) : Except InternalError Text := do
  let decl ← scope.require (.unknownGlobal id) (scope.crate.globals.find? id)
  return decl.name.joined

/-! ## Variants and fields -/

/-- The item at an index, which has to lie within the list. -/
def nth? {α : Type} (items : List α) (index : Int) : Option α :=
  if 0 ≤ index then items[index.toNat]? else none

/-- The variant of an enumeration. -/
def variantOf? : TypeBody → Int → Option Variant
  | .enum variants, index => nth? variants index
  | _, _ => none

/-- A variant of a declared enumeration. -/
def variant (scope : Scope) (type variant : Int) : Except InternalError Variant := do
  let decl ← scope.typeDecl type
  scope.require (.unknownVariant decl.name.joined variant) (variantOf? decl.body variant)

/-- The name of a variant. -/
def variantName (scope : Scope) (type variant : Int) : Except InternalError Text := do
  let found ← scope.variant type variant
  return found.name

/-- The fields of a struct, or of a variant when one is given. -/
def fields (scope : Scope) (type : Int) : Option Int → Except InternalError (List FieldDecl)
  | some index => do
      let found ← scope.variant type index
      return found.fields
  | none => do
      let decl ← scope.typeDecl type
      match decl.body with
      | .struct fields => return fields
      | _ => throw (scope.failure (.notStruct decl.name.joined type))

/-- The names of all fields, when there are fields and each of them has a name. -/
def allNames? (fields : List FieldDecl) : Option (List Text) :=
  if fields.isEmpty then none else fields.mapM FieldDecl.name

/-- The names of the fields of a struct or a variant, unless the fields are known by position. -/
def fieldNames? (scope : Scope) (type : Int) (variant : Option Int) :
    Except InternalError (Option (List Text)) := do
  let fields ← scope.fields type variant
  return allNames? fields

/-- How a field is shown: by its name, or by its position when it has none. -/
def fieldName (scope : Scope) (type : Int) (variant : Option Int) (index : Int) :
    Except InternalError Text := do
  let decl ← scope.typeDecl type
  let fields ← scope.fields type variant
  let field ← scope.require (.unknownField decl.name.joined index) (nth? fields index)
  match field.name with
  | some name => return name
  | none => return Text.decimal index

end Scope
end CrateListing
