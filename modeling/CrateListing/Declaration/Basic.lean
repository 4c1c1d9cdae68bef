import CrateListing.Statement.Basic
import CrateListing.Text.Numeral

/-!
# Declarations

Type, global and function declarations.
-/

namespace CrateListing

/-! ## Types -/

/-- A region parameter. -/
structure RegionParam where
  index : Int
  name : Option Text
deriving DecidableEq, Repr

/-- A type parameter. -/
structure TypeParam where
  index : Int
  name : Text
deriving DecidableEq, Repr

/-- A field; a field without a name is known by its position. -/
structure FieldDecl where
  name : Option Text
  type : Ty
deriving Repr, BEq

/-- A variant of an enumeration. -/
structure Variant where
  name : Text
  fields : List FieldDecl
deriving Repr, BEq

/-- What a declared type consists of. -/
inductive TypeBody where
  | struct (fields : List FieldDecl)
  | enum (variants : List Variant)
  /-- The definition is not part of the crate. -/
  | hidden
deriving Repr, BEq

/-- A type declaration. -/
structure TypeDecl where
  id : Int
  name : Name
  body : TypeBody
  regionParams : List RegionParam
  typeParams : List TypeParam
  span : Option Span
deriving Repr, BEq

/-! ## Functions and globals -/

/-- A local variable: the return slot, a parameter or a temporary. -/
structure Local where
  index : Int
  name : Option Text
  type : Ty
deriving Repr, BEq

/-- The types that a function takes and gives. -/
structure Signature where
  inputs : List Ty
  output : Ty
  regionParams : List RegionParam
  typeParams : List TypeParam
deriving Repr, BEq

/-- The inside of a function.  The first local is the return slot; the next `argCount` locals
are the parameters. -/
structure Body where
  argCount : Int
  locals : List Local
  statement : Statement
deriving Repr, BEq

/-- A function declaration; a function without a body is defined outside of the crate. -/
structure FunDecl where
  id : Int
  name : Name
  signature : Signature
  body : Option Body
  span : Option Span
deriving Repr, BEq

/-- Whether a function is defined outside of the crate. -/
def FunDecl.isExternal (decl : FunDecl) : Bool :=
  decl.body.isNone

/-- A global variable, whose value is computed by a function. -/
structure GlobalDecl where
  id : Int
  name : Name
  type : Ty
  initializer : Int
  span : Option Span
deriving Repr, BEq

/-! ## Declarations of any kind -/

/-- The kinds of declarations. -/
inductive DeclKind where
  | type
  | global
  | function
deriving DecidableEq, Repr

/-- The word for a kind. -/
def DeclKind.word : DeclKind → Text
  | .type => "type"
  | .global => "global"
  | .function => "function"

/-- A declaration of any kind. -/
inductive Declaration where
  | type (decl : TypeDecl)
  | global (decl : GlobalDecl)
  | function (decl : FunDecl)
deriving Repr, BEq

namespace Declaration

/-- The identifier among the declarations of its kind. -/
def id : Declaration → Int
  | .type decl => decl.id
  | .global decl => decl.id
  | .function decl => decl.id

/-- The qualified name. -/
def name : Declaration → Name
  | .type decl => decl.name
  | .global decl => decl.name
  | .function decl => decl.name

/-- Where the declaration was written. -/
def span : Declaration → Option Span
  | .type decl => decl.span
  | .global decl => decl.span
  | .function decl => decl.span

end Declaration

/-! ## Names of variables and parameters -/

/-- How a local is shown: by its name, or by its index when it has none. -/
def Local.shown (var : Local) : Text :=
  match var.name with
  | some name => name
  | none => "var@" ++ Text.decimal var.index

/-- How a region parameter is shown: by its name, or by its index when it has none. -/
def RegionParam.shown (param : RegionParam) : Text :=
  match param.name with
  | some name => name
  | none => "'_" ++ Text.decimal param.index

end CrateListing
