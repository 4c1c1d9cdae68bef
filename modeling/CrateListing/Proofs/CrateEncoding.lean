import CrateListing.Proofs.Encoding
import CrateListing.Proofs.Tables

/-!
# Writing a crate as JSON

Declarations have one canonical JSON form, built from the forms of types and
statements: an object with all members of the declaration.  A crate is an object
with its name and the lists of its types, globals and functions, each in the
order of its table.

Main definitions:

- `TypeDecl.toJson`, `GlobalDecl.toJson`, `FunDecl.toJson`: the canonical forms of declarations.
- `Crate.toJson`: the canonical form of a crate.
- `Crate.KeyedById`: declarations are stored under their own identifiers.

Main results:

- Theorem `Crate.outcome_ofJson_toJson`: what is read from the canonical form of any crate.
- Theorem `Crate.ofJson_toJson_of_keyedById`: a crate with declarations under their own identifiers
  is read back as it was.
-/

namespace CrateListing

open Outcome

/-! ## Names and parameters -/

/-- The canonical form of a qualified name. -/
def Name.toJson (name : Name) : Json :=
  Json.ofList .str name

/-- The canonical form of a region parameter. -/
def RegionParam.toJson (param : RegionParam) : Json :=
  .obj [("index", .int param.index), ("name", Json.ofOption .str param.name)]

/-- The canonical form of a type parameter. -/
def TypeParam.toJson (param : TypeParam) : Json :=
  .obj [("index", .int param.index), ("name", .str param.name)]

/-! ## Types -/

/-- The canonical form of a field. -/
def FieldDecl.toJson (field : FieldDecl) : Json :=
  .obj [("name", Json.ofOption .str field.name), ("ty", field.type.toJson)]

/-- The canonical form of a variant. -/
def Variant.toJson (variant : Variant) : Json :=
  .obj [("name", .str variant.name), ("fields", Json.ofList FieldDecl.toJson variant.fields)]

/-- The canonical form of what a declared type consists of. -/
def TypeBody.toJson : TypeBody → Json
  | .struct fields => .obj [("Struct", Json.ofList FieldDecl.toJson fields)]
  | .enum variants => .obj [("Enum", Json.ofList Variant.toJson variants)]
  | .hidden => .str "Opaque"

/-- The canonical form of a type declaration. -/
def TypeDecl.toJson (decl : TypeDecl) : Json :=
  .obj [("def_id", .int decl.id), ("name", decl.name.toJson), ("kind", decl.body.toJson),
    ("region_params", Json.ofList RegionParam.toJson decl.regionParams),
    ("type_params", Json.ofList TypeParam.toJson decl.typeParams),
    ("span", Json.ofOption Span.toJson decl.span)]

/-! ## Globals and functions -/

/-- The canonical form of a global. -/
def GlobalDecl.toJson (decl : GlobalDecl) : Json :=
  .obj [("def_id", .int decl.id), ("name", decl.name.toJson), ("ty", decl.type.toJson),
    ("body_id", .int decl.initializer), ("span", Json.ofOption Span.toJson decl.span)]

/-- The canonical form of a local. -/
def Local.toJson (var : Local) : Json :=
  .obj [("index", .int var.index), ("name", Json.ofOption .str var.name), ("ty", var.type.toJson)]

/-- The canonical form of a signature. -/
def Signature.toJson (signature : Signature) : Json :=
  .obj [("inputs", Json.ofList Ty.toJson signature.inputs), ("output", signature.output.toJson),
    ("region_params", Json.ofList RegionParam.toJson signature.regionParams),
    ("type_params", Json.ofList TypeParam.toJson signature.typeParams)]

/-- The canonical form of the inside of a function. -/
def Body.toJson (body : Body) : Json :=
  .obj [("arg_count", .int body.argCount), ("locals", Json.ofList Local.toJson body.locals),
    ("body", body.statement.toJson)]

/-- The canonical form of a function. -/
def FunDecl.toJson (decl : FunDecl) : Json :=
  .obj [("def_id", .int decl.id), ("name", decl.name.toJson),
    ("signature", decl.signature.toJson), ("body", Json.ofOption Body.toJson decl.body),
    ("span", Json.ofOption Span.toJson decl.span)]

/-! ## Crates -/

/-- The canonical form of a crate. -/
def Crate.toJson (crate : Crate) : Json :=
  .obj [("name", Json.ofOption .str crate.name),
    ("types", Json.ofList TypeDecl.toJson crate.types.values),
    ("globals", Json.ofList GlobalDecl.toJson crate.globals.values),
    ("functions", Json.ofList FunDecl.toJson crate.functions.values)]

/-- Every declaration of a crate is stored under its own identifier. -/
structure Crate.KeyedById (crate : Crate) : Prop where
  types : crate.types.KeyedBy TypeDecl.id
  globals : crate.globals.KeyedBy GlobalDecl.id
  functions : crate.functions.KeyedBy FunDecl.id

/-! ## Reading declarations back -/

/-- A qualified name is read back from its parts. -/
@[simp]
theorem Name.ofJson_toJson (name : Name) : Name.ofJson name.toJson = .ok name := by
  have hsegment (segment : Text) : Json.asString "name element" (.str segment) = .ok segment :=
    rfl
  exact mapM_map_eq_ok hsegment name

@[simp]
theorem RegionParam.ofJson_toJson (param : RegionParam) :
    RegionParam.ofJson param.toJson = .ok param := by
  simp [RegionParam.toJson, RegionParam.ofJson, Json.asObject, Json.member, Json.memberOrNull,
    Assoc.find?, Json.asInteger, pure_eq_ok]

@[simp]
theorem TypeParam.ofJson_toJson (param : TypeParam) :
    TypeParam.ofJson param.toJson = .ok param :=
  rfl

@[simp]
theorem FieldDecl.ofJson_toJson (field : FieldDecl) :
    FieldDecl.ofJson field.toJson = .ok field := by
  simp [FieldDecl.toJson, FieldDecl.ofJson, Json.asObject, Json.member, Json.memberOrNull,
    Assoc.find?, pure_eq_ok]

@[simp]
theorem Variant.ofJson_toJson (variant : Variant) :
    Variant.ofJson variant.toJson = .ok variant := by
  have hfields := mapM_map_eq_ok FieldDecl.ofJson_toJson variant.fields
  simp [Variant.toJson, Variant.ofJson, Json.asObject, Json.member, Json.itemsOf, Assoc.find?,
    Json.asArray, Json.asString, Json.ofList, hfields, pure_eq_ok]

/-- The body of a type is read back from its JSON form. -/
@[simp]
theorem TypeBody.ofJson_toJson (body : TypeBody) : TypeBody.ofJson body.toJson = .ok body := by
  cases body with
  | struct fields =>
      have hfields := mapM_map_eq_ok FieldDecl.ofJson_toJson fields
      simp [TypeBody.toJson, TypeBody.ofJson, Json.asTagged, Json.asArray, Json.ofList, hfields,
        pure_eq_ok]
  | enum variants =>
      have hvariants := mapM_map_eq_ok Variant.ofJson_toJson variants
      simp [TypeBody.toJson, TypeBody.ofJson, Json.asTagged, Json.asArray, Json.ofList, hvariants,
        pure_eq_ok]
  | hidden => rfl

/-- The canonical form of a type declaration is read back. -/
@[simp]
theorem TypeDecl.ofJson_toJson (decl : TypeDecl) : TypeDecl.ofJson decl.toJson = .ok decl := by
  have hregions := mapM_map_eq_ok RegionParam.ofJson_toJson decl.regionParams
  have htypes := mapM_map_eq_ok TypeParam.ofJson_toJson decl.typeParams
  simp [TypeDecl.toJson, TypeDecl.ofJson, RegionParam.ofMembers, TypeParam.ofMembers,
    Json.asObject, Json.member, Json.memberOrNull, Json.itemsOf, Assoc.find?, Json.asInteger,
    Json.asArray, Json.ofList, hregions, htypes, pure_eq_ok]

/-- The canonical form of a global is read back. -/
@[simp]
theorem GlobalDecl.ofJson_toJson (decl : GlobalDecl) :
    GlobalDecl.ofJson decl.toJson = .ok decl := by
  simp [GlobalDecl.toJson, GlobalDecl.ofJson, Json.asObject, Json.member, Json.memberOrNull,
    Assoc.find?, Json.asInteger, pure_eq_ok]

@[simp]
theorem Local.ofJson_toJson (var : Local) : Local.ofJson var.toJson = .ok var := by
  simp [Local.toJson, Local.ofJson, Json.asObject, Json.member, Json.memberOrNull, Assoc.find?,
    Json.asInteger, pure_eq_ok]

@[simp]
theorem Signature.ofJson_toJson (signature : Signature) :
    Signature.ofJson signature.toJson = .ok signature := by
  have hregions := mapM_map_eq_ok RegionParam.ofJson_toJson signature.regionParams
  have htypes := mapM_map_eq_ok TypeParam.ofJson_toJson signature.typeParams
  have hinputs := Ty.listOfJson_ofList "inputs" signature.inputs
  rw [Json.ofList] at hinputs
  simp [Signature.toJson, Signature.ofJson, RegionParam.ofMembers, TypeParam.ofMembers,
    Json.asObject, Json.member, Json.itemsOf, Assoc.find?, Json.asArray, Json.ofList, hregions,
    htypes, hinputs, pure_eq_ok]

theorem Body.ofJson_toJson (body : Body) : Body.ofJson body.toJson = .ok body := by
  have hlocals := mapM_map_eq_ok Local.ofJson_toJson body.locals
  simp [Body.toJson, Body.ofJson, Json.asObject, Json.member, Assoc.find?, Json.asInteger,
    Json.asArray, Json.ofList, hlocals, Statement.ofJson_toJson, pure_eq_ok]

/-- The body of a function is read back, also when there is none. -/
@[simp]
theorem Body.ofJson?_ofOption (body : Option Body) :
    Body.ofJson? (Json.ofOption Body.toJson body) = .ok body := by
  cases body with
  | none => rfl
  | some body =>
      have hbody : Body.ofJson? (Json.ofOption Body.toJson (some body))
          = (Body.ofJson body.toJson).map some := rfl
      rw [hbody, Body.ofJson_toJson]
      rfl

/-- The canonical form of a function is read back. -/
@[simp]
theorem FunDecl.ofJson_toJson (decl : FunDecl) : FunDecl.ofJson decl.toJson = .ok decl := by
  simp [FunDecl.toJson, FunDecl.ofJson, Json.asObject, Json.member, Json.memberOrNull,
    Assoc.find?, Json.asInteger, pure_eq_ok]

/-! ## Reading crates back -/

/-- The name of a crate is read back, also when there is none. -/
@[simp]
theorem Crate.nameOfJson_ofOption (name : Option Text) :
    Crate.nameOfJson (Json.ofOption .str name) = .ok name := by
  cases name <;> rfl

/-- From the canonical form of a crate its declarations are read and stored anew. -/
theorem Crate.outcome_ofJson_toJson (crate : Crate) :
    (Crate.ofJson crate.toJson).outcome
      = .ok (Crate.ofDeclarations crate.name crate.types.values crate.globals.values
          crate.functions.values) := by
  have htypes := mapM_map_eq_ok TypeDecl.ofJson_toJson crate.types.values
  have hglobals := mapM_map_eq_ok GlobalDecl.ofJson_toJson crate.globals.values
  have hfunctions := mapM_map_eq_ok FunDecl.ofJson_toJson crate.functions.values
  simp [Crate.outcome_ofJson, Crate.toJson, Json.asObject, Json.memberOrNull, Json.itemsOf,
    Assoc.find?, Json.asArray, Json.ofList, htypes, hglobals, hfunctions, pure_eq_ok]

/-- A crate whose declarations are stored under their own identifiers is read back from its
canonical form as it was, with every order, name and span. -/
theorem Crate.ofJson_toJson_of_keyedById {crate : Crate} (h : crate.KeyedById) :
    (Crate.ofJson crate.toJson).outcome = .ok crate := by
  rw [Crate.outcome_ofJson_toJson, Crate.ofDeclarations, Table.ofItems_values h.types,
    Table.ofItems_values h.globals, Table.ofItems_values h.functions]

/-- A crate with declarations of every kind: a struct, an enumeration and a hidden type with
parameters, a global, and a function with and one without a body. -/
def Crate.ofEveryKind : Crate :=
  Crate.ofDeclarations (some "demo")
    [⟨2, ["demo", "Pair"], .struct [⟨some "fst", .var 0⟩, ⟨none, .ref (.var 1) (.var 0) .mutable⟩],
        [⟨1, none⟩], [⟨0, "T"⟩], some ⟨1, 1, 4, 2, some "demo.rs"⟩⟩,
      ⟨-1, ["demo", "Tree"], .enum [⟨"Leaf", []⟩, ⟨"Node", [⟨none, .adt (.declared (-1)) [] []⟩]⟩],
        [], [], none⟩,
      ⟨0, [], .hidden, [⟨0, some "'a"⟩], [], none⟩]
    [⟨5, ["demo", "G"], .integer .u32, 1, some ⟨9, 1, 9, 20, none⟩⟩]
    [⟨1, ["demo", "init"], ⟨[.bool], .never, [], []⟩,
        some ⟨1, [⟨0, none, .never⟩, ⟨1, some "x", .bool⟩],
          .mk (some ⟨11, 3, 15, 4, some "demo.rs"⟩)
            (.switch (.integer (.copy ⟨1, []⟩) .u8 [([⟨0, .u8⟩], .mk none (.action .ret))]
              (.mk (some ⟨14, 5, 14, 9, none⟩) (.loop (.mk none (.action (.brk 0)))))))⟩,
        some ⟨10, 1, 16, 2, some "demo.rs"⟩⟩,
      ⟨0, ["demo", "ext"], ⟨[], .char, [], []⟩, none, none⟩]

/-- A crate with every kind of declaration is read back. -/
theorem Crate.ofJson_toJson_ofEveryKind :
    Crate.ofEveryKind.KeyedById ∧
      (Crate.ofJson Crate.ofEveryKind.toJson).outcome = .ok Crate.ofEveryKind := by
  have hkeyed : Crate.ofEveryKind.KeyedById := ⟨by decide, by decide, by decide⟩
  exact ⟨hkeyed, Crate.ofJson_toJson_of_keyedById hkeyed⟩

end CrateListing
