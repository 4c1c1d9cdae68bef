import CrateListing.Crate.Render

/-!
# What a declaration refers to

A declaration refers to its own locals and generic parameters and to other
declarations of the crate.  The references of each part of the syntax are listed
in the order in which the listing looks them up.  What is shown by its number
only, or not shown at all, is not a reference: the region arguments of a tuple
type, the generic arguments of an aggregate, the variant of a constant and of
`set_discriminant`, the type of a choice between integers, and the inputs of a
signature that have no parameter in the body.

Main definitions:

- `Reference`: something that is looked up.
- `Declaration.references`: what is looked up while a declaration is listed.
- `Declaration.WellScoped`: everything that a declaration refers to is declared.
-/

namespace CrateListing

/-- Something that is looked up while a declaration is listed. -/
inductive Reference where
  | localVar (id : Int)
  | regionParam (id : Int)
  | typeParam (id : Int)
  | type (id : Int)
  | function (id : Int)
  | global (id : Int)
  /-- All fields of a struct, or of a variant when one is given. -/
  | fields (type : Int) (variant : Option Int)
  /-- One of these fields by its position. -/
  | field (type : Int) (variant : Option Int) (index : Int)
deriving DecidableEq, Repr

/-! ## References in types -/

/-- The references of a region. -/
def Region.references : Region → List Reference
  | .static => []
  | .var id => [.regionParam id]
  | .erased => []

/-- The references of regions, one after the other. -/
def Region.referencesOfAll (regions : List Region) : List Reference :=
  regions.flatMap Region.references

mutual
/-- The references of a type. -/
def Ty.references : Ty → List Reference
  | .adt .tuple _ types => Ty.referencesOfAll types
  | .adt (.declared id) regions types =>
      .type id :: (Region.referencesOfAll regions ++ Ty.referencesOfAll types)
  | .adt (.builtin _) regions types =>
      Region.referencesOfAll regions ++ Ty.referencesOfAll types
  | .var id => [.typeParam id]
  | .bool => []
  | .char => []
  | .never => []
  | .integer _ => []
  | .str => []
  | .array element => element.references
  | .slice element => element.references
  | .ref region target _ => region.references ++ target.references

/-- The references of types, one after the other. -/
def Ty.referencesOfAll : List Ty → List Reference
  | [] => []
  | ty :: rest => ty.references ++ Ty.referencesOfAll rest
end

/-! ## References in places and expressions -/

/-- The references of a projection. -/
def Projection.references : Projection → List Reference
  | .deref => []
  | .derefBox => []
  | .field (.tuple _) _ => []
  | .field (.adt type variant) index => [.field type variant index]

/-- The references of a place. -/
def Place.references (place : Place) : List Reference :=
  .localVar place.root :: place.path.flatMap Projection.references

mutual
/-- The references of a constant. -/
def Constant.references : Constant → List Reference
  | .scalar _ => []
  | .bool _ => []
  | .char _ => []
  | .string _ => []
  | .adt _ fields => Constant.referencesOfAll fields
  | .global id => [.global id]

/-- The references of constants, one after the other. -/
def Constant.referencesOfAll : List Constant → List Reference
  | [] => []
  | constant :: rest => constant.references ++ Constant.referencesOfAll rest
end

/-- The references of an operand. -/
def Operand.references : Operand → List Reference
  | .copy place => place.references
  | .move place => place.references
  | .const type value => value.references ++ type.references

/-- The references of what an aggregate is made as. -/
def AggregateKind.references : AggregateKind → List Reference
  | .tuple => []
  | .option _ _ => []
  | .adt type variant _ _ => [.fields type variant]

/-- The references of the right-hand side of an assignment.  All operands of an aggregate count,
whether they are shown or not. -/
def Rvalue.references : Rvalue → List Reference
  | .use operand => operand.references
  | .borrow place _ => place.references
  | .unary _ operand => operand.references
  | .binary _ left right => left.references ++ right.references
  | .discriminant place => place.references
  | .aggregate kind operands => operands.flatMap Operand.references ++ kind.references
  | .global id => [.global id]

/-- The reference to a called function. -/
def Callee.references : Callee → List Reference
  | .declared id => [.function id]
  | .builtin _ => []

/-- The references of generic arguments. -/
def genericReferences (regions : List Region) (types : List Ty) : List Reference :=
  Region.referencesOfAll regions ++ Ty.referencesOfAll types

/-- The references of a call. -/
def Call.references (call : Call) : List Reference :=
  genericReferences call.regions call.types ++ (call.callee.references
    ++ (call.arguments.flatMap Operand.references ++ call.target.references))

/-! ## References in statements -/

/-- The references of an action. -/
def Action.references : Action → List Reference
  | .assign place value => place.references ++ value.references
  | .fakeRead place => place.references
  | .setDiscriminant place _ => place.references
  | .drop place => place.references
  | .assert assertion => assertion.condition.references
  | .call made => made.references
  | .panic => []
  | .ret => []
  | .brk _ => []
  | .cont _ => []
  | .nop => []

mutual
/-- The references of a statement. -/
def Statement.references : Statement → List Reference
  | .mk _ content => content.references

/-- The references of what a statement does. -/
def Content.references : Content → List Reference
  | .action action => action.references
  | .sequence first second => first.references ++ second.references
  | .switch switch => switch.references
  | .loop body => body.references

/-- The references of a choice. -/
def Switch.references : Switch → List Reference
  | .branch condition onTrue onFalse =>
      condition.references ++ (onTrue.references ++ onFalse.references)
  | .integer operand _ branches otherwise =>
      operand.references ++ (Switch.integerReferences branches ++ otherwise.references)
  | .variant place branches otherwise =>
      place.references ++ (Switch.variantReferences branches ++ otherwise.references)

/-- The references of branches with integer labels. -/
def Switch.integerReferences : List (List Scalar × Statement) → List Reference
  | [] => []
  | (_, body) :: rest => body.references ++ Switch.integerReferences rest

/-- The references of branches with variant labels. -/
def Switch.variantReferences : List (List Int × Statement) → List Reference
  | [] => []
  | (_, body) :: rest => body.references ++ Switch.variantReferences rest
end

/-! ## References of declarations -/

/-- The references of a field. -/
def FieldDecl.references (field : FieldDecl) : List Reference :=
  field.type.references

/-- The references of a variant. -/
def Variant.references (variant : Variant) : List Reference :=
  variant.fields.flatMap FieldDecl.references

/-- The references of a type declaration. -/
def TypeDecl.references (decl : TypeDecl) : List Reference :=
  match decl.body with
  | .struct fields => fields.flatMap FieldDecl.references
  | .enum variants => variants.flatMap Variant.references
  | .hidden => []

/-- The references of a global: its type, and the function that computes it. -/
def GlobalDecl.references (decl : GlobalDecl) : List Reference :=
  decl.type.references ++ [.function decl.initializer]

/-- The references of the inside of a function.  An input of the signature counts when there is a
parameter for it. -/
def Body.references (body : Body) (inputs : List Ty) : List Reference :=
  (body.parameters.zip inputs).flatMap (fun parameter => parameter.2.references)
    ++ (body.locals.flatMap (fun var => var.type.references) ++ body.statement.references)

/-- The references of a function. -/
def FunDecl.references (decl : FunDecl) : List Reference :=
  decl.signature.output.references ++
    match decl.body with
    | none => Ty.referencesOfAll decl.signature.inputs
    | some body => body.references decl.signature.inputs

/-- What is looked up while a declaration is listed. -/
def Declaration.references : Declaration → List Reference
  | .type decl => decl.references
  | .global decl => decl.references
  | .function decl => decl.references

/-! ## References that are declared -/

/-- The locals of a declaration. -/
def Declaration.locals : Declaration → List Local
  | .type _ => []
  | .global _ => []
  | .function decl => (decl.body.map Body.locals).getD []

/-- The region parameters of a declaration. -/
def Declaration.regionParams : Declaration → List RegionParam
  | .type decl => decl.regionParams
  | .global _ => []
  | .function decl => decl.signature.regionParams

/-- The type parameters of a declaration. -/
def Declaration.typeParams : Declaration → List TypeParam
  | .type decl => decl.typeParams
  | .global _ => []
  | .function decl => decl.signature.typeParams

/-- The fields of a struct, when no variant is given, or of an existing variant of an
enumeration. -/
inductive TypeBody.HasFields : TypeBody → Option Int → List FieldDecl → Prop where
  | struct (fields : List FieldDecl) : HasFields (.struct fields) none fields
  | variant {variants : List Variant} {index : Int} (hlow : 0 ≤ index)
      (hhigh : index < variants.length) :
      HasFields (.enum variants) (some index) (variants.get ⟨index.toNat, by omega⟩).fields

/-- What a reference stands for is there: among the identifiers of the locals and generic
parameters in scope, or in the crate. -/
def Reference.Declared (crate : Crate) (locals regionParams typeParams : List Int) :
    Reference → Prop
  | .localVar id => id ∈ locals
  | .regionParam id => id ∈ regionParams
  | .typeParam id => id ∈ typeParams
  | .type id => id ∈ crate.types.keys
  | .function id => id ∈ crate.functions.keys
  | .global id => id ∈ crate.globals.keys
  | .fields id variant =>
      ∃ owner, crate.types.find? id = some owner ∧
        ∃ fields, owner.body.HasFields variant fields
  | .field id variant index =>
      ∃ owner, crate.types.find? id = some owner ∧
        ∃ fields, owner.body.HasFields variant fields ∧ 0 ≤ index ∧ index < fields.length

/-- Everything that a declaration refers to is among its own locals and generic parameters, or
declared in the crate. -/
def Declaration.WellScoped (crate : Crate) (decl : Declaration) : Prop :=
  ∀ reference ∈ decl.references,
    reference.Declared crate (decl.locals.map Local.index)
      (decl.regionParams.map RegionParam.index) (decl.typeParams.map TypeParam.index)

end CrateListing
