import CrateListing.Proofs.Reading

/-!
# Writing the tree of a function as JSON

Every node of the tree has one canonical JSON form.  A record is an object with
all its members, a variant without a payload is a string, any other variant is
an object with one member, and several payloads stand in an array.

Main definitions:

- `Ty.toJson`, `Constant.toJson`, `Rvalue.toJson`, `Statement.toJson`: the canonical forms.

Main results:

- Theorems `Ty.ofJson_toJson`, `Rvalue.ofJson_toJson` and `Statement.ofJson_toJson`: the canonical
  form is read back as it was.
-/

namespace CrateListing

open Outcome

/-! ## Parts of several forms -/

/-- A value that may be missing. -/
def Json.ofOption {α : Type} (encode : α → Json) : Option α → Json
  | none => .null
  | some value => encode value

/-- A list of values. -/
def Json.ofList {α : Type} (encode : α → Json) (values : List α) : Json :=
  .arr (values.map encode)

/-! ## Types -/

/-- The canonical form of a region. -/
def Region.toJson : Region → Json
  | .static => .str "Static"
  | .var id => .obj [("Var", .int id)]
  | .erased => .str "Erased"

/-- The canonical form of an integer type. -/
def IntegerType.toJson (type : IntegerType) : Json :=
  .str type.name

/-- The tag of a kind of reference. -/
def Mutability.tag : Mutability → Text
  | .mutable => "Mut"
  | .shared => "Shared"

/-- The canonical form of what a constructed type is built with. -/
def TypeHead.toJson : TypeHead → Json
  | .declared id => .obj [("Adt", .int id)]
  | .tuple => .str "Tuple"
  | .builtin type => .obj [("Assumed", .str type.name)]

mutual
/-- The canonical form of a type. -/
def Ty.toJson : Ty → Json
  | .adt head regions types =>
      .obj [("Adt", .arr [head.toJson, Json.ofList Region.toJson regions,
        .arr (Ty.allToJson types)])]
  | .var id => .obj [("TypeVar", .int id)]
  | .bool => .str "Bool"
  | .char => .str "Char"
  | .never => .str "Never"
  | .integer type => .obj [("Integer", type.toJson)]
  | .str => .str "Str"
  | .array element => .obj [("Array", element.toJson)]
  | .slice element => .obj [("Slice", element.toJson)]
  | .ref region target mutability =>
      .obj [("Ref", .arr [region.toJson, target.toJson, .str mutability.tag])]

/-- The canonical forms of types. -/
def Ty.allToJson : List Ty → List Json
  | [] => []
  | type :: rest => type.toJson :: Ty.allToJson rest
end

/-! ## Constants -/

/-- The canonical form of a scalar, whose tag is its type. -/
def Scalar.toJson (scalar : Scalar) : Json :=
  .obj [(scalar.type.name, .int scalar.value)]

mutual
/-- The canonical form of a constant. -/
def Constant.toJson : Constant → Json
  | .scalar value => .obj [("Scalar", value.toJson)]
  | .bool value => .obj [("Bool", .bool value)]
  | .char text => .obj [("Char", .str text)]
  | .string text => .obj [("String", .str text)]
  | .adt variant fields =>
      .obj [("Adt", .arr [Json.ofOption .int variant, .arr (Constant.allToJson fields)])]
  | .global id => .obj [("Global", .int id)]

/-- The canonical forms of constants. -/
def Constant.allToJson : List Constant → List Json
  | [] => []
  | constant :: rest => constant.toJson :: Constant.allToJson rest
end

/-! ## Places -/

/-- The canonical form of what a field belongs to. -/
def FieldOwner.toJson : FieldOwner → Json
  | .adt type variant => .obj [("ProjAdt", .arr [.int type, Json.ofOption .int variant])]
  | .tuple arity => .obj [("ProjTuple", .int arity)]

/-- The canonical form of a projection. -/
def Projection.toJson : Projection → Json
  | .deref => .str "Deref"
  | .derefBox => .str "DerefBox"
  | .field owner index => .obj [("Field", .arr [owner.toJson, .int index])]

/-- The canonical form of a place. -/
def Place.toJson (place : Place) : Json :=
  .obj [("var_id", .int place.root), ("projection", Json.ofList Projection.toJson place.path)]

/-! ## Expressions -/

/-- The canonical form of an operand. -/
def Operand.toJson : Operand → Json
  | .copy place => .obj [("Copy", place.toJson)]
  | .move place => .obj [("Move", place.toJson)]
  | .const type value => .obj [("Const", .arr [type.toJson, value.toJson])]

/-- The canonical form of an operator with one operand. -/
def UnaryOperator.toJson : UnaryOperator → Json
  | .not => .str "Not"
  | .neg => .str "Neg"
  | .cast source target => .obj [("Cast", .arr [source.toJson, target.toJson])]

/-- The tag of a kind of borrow. -/
def BorrowKind.tag : BorrowKind → Text
  | .shared => "Shared"
  | .mutable => "Mut"
  | .twoPhase => "TwoPhaseMut"
  | .shallow => "Shallow"

/-- The tag of an operator with two operands. -/
def BinaryOperator.tag : BinaryOperator → Text
  | .bitXor => "BitXor"
  | .bitAnd => "BitAnd"
  | .bitOr => "BitOr"
  | .eq => "Eq"
  | .lt => "Lt"
  | .le => "Le"
  | .ne => "Ne"
  | .ge => "Ge"
  | .gt => "Gt"
  | .div => "Div"
  | .rem => "Rem"
  | .add => "Add"
  | .sub => "Sub"
  | .mul => "Mul"
  | .shl => "Shl"
  | .shr => "Shr"

/-- The canonical form of what an aggregate value is made as. -/
def AggregateKind.toJson : AggregateKind → Json
  | .tuple => .str "AggregatedTuple"
  | .option variant type => .obj [("AggregatedOption", .arr [.int variant, type.toJson])]
  | .adt type variant regions types =>
      .obj [("AggregatedAdt", .arr [.int type, Json.ofOption .int variant,
        Json.ofList Region.toJson regions, Json.ofList Ty.toJson types])]

/-- The canonical form of the right-hand side of an assignment. -/
def Rvalue.toJson : Rvalue → Json
  | .use operand => .obj [("Use", operand.toJson)]
  | .borrow place kind => .obj [("Ref", .arr [place.toJson, .str kind.tag])]
  | .unary operator operand => .obj [("UnaryOp", .arr [operator.toJson, operand.toJson])]
  | .binary operator left right =>
      .obj [("BinaryOp", .arr [.str operator.tag, left.toJson, right.toJson])]
  | .discriminant place => .obj [("Discriminant", place.toJson)]
  | .aggregate kind operands =>
      .obj [("Aggregate", .arr [kind.toJson, Json.ofList Operand.toJson operands])]
  | .global id => .obj [("Global", .int id)]

/-- The tag of a library function. -/
def BuiltinFunction.tag : BuiltinFunction → Text
  | .replace => "Replace"
  | .boxNew => "BoxNew"
  | .boxDeref => "BoxDeref"
  | .boxDerefMut => "BoxDerefMut"
  | .boxFree => "BoxFree"
  | .vecNew => "VecNew"
  | .vecPush => "VecPush"
  | .vecInsert => "VecInsert"
  | .vecLen => "VecLen"
  | .vecIndex => "VecIndex"
  | .vecIndexMut => "VecIndexMut"

/-- The canonical form of the function that a call names. -/
def Callee.toJson : Callee → Json
  | .declared id => .obj [("Regular", .int id)]
  | .builtin function => .obj [("Assumed", .str function.tag)]

/-- The canonical form of a call. -/
def Call.toJson (call : Call) : Json :=
  .obj [("func", call.callee.toJson), ("args", Json.ofList Operand.toJson call.arguments),
    ("dest", call.target.toJson), ("region_args", Json.ofList Region.toJson call.regions),
    ("type_args", Json.ofList Ty.toJson call.types)]

/-- The canonical form of an assertion. -/
def Assertion.toJson (assertion : Assertion) : Json :=
  .obj [("cond", assertion.condition.toJson), ("expected", .bool assertion.expected)]

/-! ## Statements -/

/-- The canonical form of a position. -/
def Span.positionToJson (line column : Int) : Json :=
  .obj [("line", .int line), ("col", .int column)]

/-- The canonical form of a span. -/
def Span.toJson (span : Span) : Json :=
  .obj [("beg", Span.positionToJson span.startLine span.startColumn),
    ("end", Span.positionToJson span.endLine span.endColumn),
    ("file", Json.ofOption .str span.file)]

/-- The canonical form of an action. -/
def Action.toJson : Action → Json
  | .assign place value => .obj [("Assign", .arr [place.toJson, value.toJson])]
  | .fakeRead place => .obj [("FakeRead", place.toJson)]
  | .setDiscriminant place variant =>
      .obj [("SetDiscriminant", .arr [place.toJson, .int variant])]
  | .drop place => .obj [("Drop", place.toJson)]
  | .assert assertion => .obj [("Assert", assertion.toJson)]
  | .call made => .obj [("Call", made.toJson)]
  | .panic => .str "Panic"
  | .ret => .str "Return"
  | .brk depth => .obj [("Break", .int depth)]
  | .cont depth => .obj [("Continue", .int depth)]
  | .nop => .str "Nop"

mutual
/-- The canonical form of a statement. -/
def Statement.toJson : Statement → Json
  | .mk span content =>
      .obj [("content", content.toJson), ("span", Json.ofOption Span.toJson span)]

/-- The canonical form of what a statement does. -/
def Content.toJson : Content → Json
  | .action action => action.toJson
  | .sequence first second => .obj [("Sequence", .arr [first.toJson, second.toJson])]
  | .switch switch => .obj [("Switch", switch.toJson)]
  | .loop body => .obj [("Loop", body.toJson)]

/-- The canonical form of a choice. -/
def Switch.toJson : Switch → Json
  | .branch condition onTrue onFalse =>
      .obj [("If", .arr [condition.toJson, onTrue.toJson, onFalse.toJson])]
  | .integer operand type branches otherwise =>
      .obj [("SwitchInt", .arr [operand.toJson, type.toJson,
        .arr (Switch.integerBranchesToJson branches), otherwise.toJson])]
  | .variant place branches otherwise =>
      .obj [("Match", .arr [place.toJson, .arr (Switch.variantBranchesToJson branches),
        otherwise.toJson])]

/-- The canonical forms of branches with integer labels. -/
def Switch.integerBranchesToJson : List (List Scalar × Statement) → List Json
  | [] => []
  | (labels, body) :: rest =>
      .arr [Json.ofList Scalar.toJson labels, body.toJson] :: Switch.integerBranchesToJson rest

/-- The canonical forms of branches with variant labels. -/
def Switch.variantBranchesToJson : List (List Int × Statement) → List Json
  | [] => []
  | (labels, body) :: rest =>
      .arr [Json.ofList .int labels, body.toJson] :: Switch.variantBranchesToJson rest
end

/-! ## Reading the canonical form back -/

/-- A list is read back when each of its items is. -/
theorem mapM_map_eq_ok {α : Type} {encode : α → Json} {decode : Json → Except Rejection α}
    (h : ∀ value, decode (encode value) = .ok value) (values : List α) :
    (values.map encode).mapM decode = .ok values := by
  induction values with
  | nil => rfl
  | cons value rest ih =>
      rw [List.map_cons, List.mapM_cons, h, ok_bind, ih]
      rfl

/-- An integer that may be missing is read back. -/
@[simp]
theorem Json.asInteger?_ofOption (what : Text) (value : Option Int) :
    (Json.ofOption .int value).asInteger? what = .ok value := by
  cases value <;> rfl

/-- A text that may be missing is read back. -/
@[simp]
theorem Json.asString?_ofOption (what : Text) (value : Option Text) :
    (Json.ofOption .str value).asString? what = .ok value := by
  cases value <;> rfl

@[simp]
theorem Region.ofJson_toJson (region : Region) : Region.ofJson region.toJson = .ok region := by
  cases region <;> rfl

/-- A list of regions is read back. -/
@[simp]
theorem Region.listOfJson_ofList (what : Text) (regions : List Region) :
    Region.listOfJson what (Json.ofList Region.toJson regions) = .ok regions :=
  mapM_map_eq_ok Region.ofJson_toJson regions

/-- An integer type is found by its name. -/
@[simp]
theorem IntegerType.ofName?_name (type : IntegerType) :
    IntegerType.ofName? type.name = some type := by
  cases type <;> rfl

/-- An integer type is found by its name. -/
@[simp]
theorem IntegerType.ofName_name (type : IntegerType) : IntegerType.ofName type.name = .ok type := by
  simp [IntegerType.ofName]

/-- An integer type is read back from its name. -/
@[simp]
theorem IntegerType.ofJson_toJson (type : IntegerType) :
    IntegerType.ofJson type.toJson = .ok type := by
  simp [IntegerType.toJson, IntegerType.ofJson, Json.asString]

@[simp]
theorem TypeHead.ofJson_toJson (head : TypeHead) : TypeHead.ofJson head.toJson = .ok head := by
  cases head with
  | declared id => rfl
  | tuple => rfl
  | builtin type => cases type <;> rfl

@[simp]
theorem Mutability.asNamed_tag (what : Text) (mutability : Mutability) :
    Json.asNamed what Mutability.table (.str mutability.tag) = .ok mutability := by
  cases mutability <;> rfl

mutual
/-- The canonical form of a type is read back. -/
theorem Ty.ofJson_toJson : (type : Ty) → Ty.ofJson type.toJson = .ok type
  | .adt head regions types => by
      have htypes := Ty.allOfJson_allToJson types
      rw [Ty.toJson, Ty.ofJson_obj]
      simp [Ty.ofTagged, Json.asTriple, Ty.listOfJson, Json.asArray, htypes, pure_eq_ok]
  | .var id => rfl
  | .bool => rfl
  | .char => rfl
  | .never => rfl
  | .integer type => by
      rw [Ty.toJson, Ty.ofJson_obj]
      simp [Ty.ofTagged, Ty.ofSimpleTag, pure_eq_ok]
  | .str => rfl
  | .array element => by
      rw [Ty.toJson, Ty.ofJson_obj]
      simp [Ty.ofTagged, Ty.ofJson_toJson element, pure_eq_ok]
  | .slice element => by
      rw [Ty.toJson, Ty.ofJson_obj]
      simp [Ty.ofTagged, Ty.ofJson_toJson element, pure_eq_ok]
  | .ref region target mutability => by
      rw [Ty.toJson, Ty.ofJson_obj]
      simp [Ty.ofTagged, Json.asTriple, Ty.ofJson_toJson target, pure_eq_ok]

/-- The types in a list are read back one by one. -/
theorem Ty.allOfJson_allToJson : (types : List Ty) →
    Ty.allOfJson (Ty.allToJson types) = .ok types
  | [] => rfl
  | type :: rest => by
      rw [Ty.allToJson, Ty.allOfJson, Ty.ofJson_toJson type, Ty.allOfJson_allToJson rest]
      rfl
end

attribute [simp] Ty.ofJson_toJson

/-- The JSON forms of types in a list are those of the types. -/
theorem Ty.allToJson_eq_map (types : List Ty) : Ty.allToJson types = types.map Ty.toJson := by
  induction types with
  | nil => rfl
  | cons type rest ih => rw [Ty.allToJson, List.map_cons, ih]

/-- A list of types is read back. -/
@[simp]
theorem Ty.listOfJson_ofList (what : Text) (types : List Ty) :
    Ty.listOfJson what (Json.ofList Ty.toJson types) = .ok types := by
  rw [Json.ofList, ← Ty.allToJson_eq_map]
  exact Ty.allOfJson_allToJson types

@[simp]
theorem Scalar.ofJson_toJson (scalar : Scalar) : Scalar.ofJson scalar.toJson = .ok scalar := by
  simp [Scalar.toJson, Scalar.ofJson, Json.asTagged, Scalar.valueOfJson, Json.asInteger, pure_eq_ok]

mutual
/-- The canonical form of a constant is read back. -/
theorem Constant.ofJson_toJson : (constant : Constant) →
    Constant.ofJson constant.toJson = .ok constant
  | .scalar value => by
      rw [Constant.toJson, Constant.ofJson_obj]
      simp [Constant.ofTagged, Constant.ofSimpleTag, pure_eq_ok]
  | .bool value => rfl
  | .char text => rfl
  | .string text => rfl
  | .adt variant fields => by
      have hfields := Constant.allOfJson_allToJson fields
      rw [Constant.toJson, Constant.ofJson_obj]
      simp [Constant.ofTagged, Json.asPair, Json.asArray, hfields, pure_eq_ok]
  | .global id => rfl

/-- The constants in a list are read back one by one. -/
theorem Constant.allOfJson_allToJson : (constants : List Constant) →
    Constant.allOfJson (Constant.allToJson constants) = .ok constants
  | [] => rfl
  | constant :: rest => by
      rw [Constant.allToJson, Constant.allOfJson, Constant.ofJson_toJson constant,
        Constant.allOfJson_allToJson rest]
      rfl
end

attribute [simp] Constant.ofJson_toJson

/-- The JSON forms of constants in a list are those of the constants. -/
theorem Constant.allToJson_eq_map (constants : List Constant) :
    Constant.allToJson constants = constants.map Constant.toJson := by
  induction constants with
  | nil => rfl
  | cons constant rest ih => rw [Constant.allToJson, List.map_cons, ih]

@[simp]
theorem FieldOwner.ofJson_toJson (owner : FieldOwner) :
    FieldOwner.ofJson owner.toJson = .ok owner := by
  cases owner with
  | adt type variant => cases variant <;> rfl
  | tuple arity => rfl

@[simp]
theorem Projection.ofJson_toJson (projection : Projection) :
    Projection.ofJson projection.toJson = .ok projection := by
  cases projection with
  | deref => rfl
  | derefBox => rfl
  | field owner index =>
      simp [Projection.toJson, Projection.ofJson, Json.asTagged, Json.asPair, Json.asInteger,
        pure_eq_ok]

@[simp]
theorem Place.ofJson_toJson (place : Place) : Place.ofJson place.toJson = .ok place := by
  have hpath := mapM_map_eq_ok Projection.ofJson_toJson place.path
  simp [Place.toJson, Place.ofJson, Json.asObject, Json.member, Json.itemsOf, Assoc.find?,
    Json.asInteger, Json.asArray, Json.ofList, hpath, pure_eq_ok]

@[simp]
theorem Operand.ofJson_toJson (operand : Operand) :
    Operand.ofJson operand.toJson = .ok operand := by
  cases operand with
  | copy place => simp [Operand.toJson, Operand.ofJson, Json.asTagged, pure_eq_ok]
  | move place => simp [Operand.toJson, Operand.ofJson, Json.asTagged, pure_eq_ok]
  | const type value =>
      simp [Operand.toJson, Operand.ofJson, Json.asTagged, Json.asPair, pure_eq_ok]

@[simp]
theorem UnaryOperator.ofJson_toJson (operator : UnaryOperator) :
    UnaryOperator.ofJson operator.toJson = .ok operator := by
  cases operator with
  | not => rfl
  | neg => rfl
  | cast source target =>
      simp [UnaryOperator.toJson, UnaryOperator.ofJson, Json.asTagged, Json.asPair, pure_eq_ok]

@[simp]
theorem BorrowKind.asNamed_tag (what : Text) (kind : BorrowKind) :
    Json.asNamed what BorrowKind.table (.str kind.tag) = .ok kind := by
  cases kind <;> rfl

@[simp]
theorem BinaryOperator.asNamed_tag (what : Text) (operator : BinaryOperator) :
    Json.asNamed what BinaryOperator.table (.str operator.tag) = .ok operator := by
  cases operator <;> rfl

@[simp]
theorem AggregateKind.ofJson_toJson (kind : AggregateKind) :
    AggregateKind.ofJson kind.toJson = .ok kind := by
  cases kind with
  | tuple => rfl
  | option variant type =>
      simp [AggregateKind.toJson, AggregateKind.ofJson, Json.asTagged, Json.asPair, Json.asInteger,
        pure_eq_ok]
  | adt type variant regions types =>
      simp [AggregateKind.toJson, AggregateKind.ofJson, Json.asTagged, Json.asQuadruple,
        Json.asInteger, pure_eq_ok]

/-- The canonical form of the right-hand side of an assignment is read back. -/
@[simp]
theorem Rvalue.ofJson_toJson (value : Rvalue) : Rvalue.ofJson value.toJson = .ok value := by
  cases value with
  | use operand => simp [Rvalue.toJson, Rvalue.ofJson, Json.asTagged, pure_eq_ok]
  | borrow place kind =>
      simp [Rvalue.toJson, Rvalue.ofJson, Json.asTagged, Json.asPair, pure_eq_ok]
  | unary operator operand =>
      simp [Rvalue.toJson, Rvalue.ofJson, Json.asTagged, Json.asPair, pure_eq_ok]
  | binary operator left right =>
      simp [Rvalue.toJson, Rvalue.ofJson, Json.asTagged, Json.asTriple, pure_eq_ok]
  | discriminant place => simp [Rvalue.toJson, Rvalue.ofJson, Json.asTagged, pure_eq_ok]
  | aggregate kind operands =>
      have hoperands := mapM_map_eq_ok Operand.ofJson_toJson operands
      simp [Rvalue.toJson, Rvalue.ofJson, Json.asTagged, Json.asPair, Json.ofList, Json.asArray,
        hoperands, pure_eq_ok]
  | global id => rfl

@[simp]
theorem Callee.ofJson_toJson (callee : Callee) : Callee.ofJson callee.toJson = .ok callee := by
  cases callee with
  | declared id => rfl
  | builtin function => cases function <;> rfl

@[simp]
theorem Call.ofJson_toJson (call : Call) : Call.ofJson call.toJson = .ok call := by
  have harguments := mapM_map_eq_ok Operand.ofJson_toJson call.arguments
  have hregions := mapM_map_eq_ok Region.ofJson_toJson call.regions
  have htypes := mapM_map_eq_ok Ty.ofJson_toJson call.types
  simp [Call.toJson, Call.ofJson, Json.asObject, Json.member, Json.itemsOf, Assoc.find?,
    Json.asArray, Json.ofList, Ty.allOfJson_eq_mapM, harguments, hregions, htypes, pure_eq_ok]

@[simp]
theorem Assertion.ofJson_toJson (assertion : Assertion) :
    Assertion.ofJson assertion.toJson = .ok assertion := by
  simp [Assertion.toJson, Assertion.ofJson, Json.asObject, Json.member, Assoc.find?, pure_eq_ok]

/-- A position is read back from its members. -/
@[simp]
theorem Span.positionOfMembers_eq (line column : Int) :
    Span.positionOfMembers [("line", .int line), ("col", .int column)] = .ok (line, column) :=
  rfl

/-- A span is read back, also when there is none. -/
@[simp]
theorem Span.ofJson?_ofOption (span : Option Span) :
    Span.ofJson? (Json.ofOption Span.toJson span) = .ok span := by
  cases span with
  | none => rfl
  | some span =>
      have hspan : Json.ofOption Span.toJson (some span) = span.toJson := rfl
      rw [hspan, Span.toJson]
      simp [Span.ofJson?, Span.positionToJson, Json.asObject, Json.member, Json.memberOrNull,
        Assoc.find?, pure_eq_ok]

/-- The canonical form of an action is read back as an action. -/
theorem Content.ofJson_toJson_action (action : Action) :
    Content.ofJson action.toJson = .ok (.action action) := by
  cases action with
  | assign place value =>
      rw [Action.toJson, Content.ofJson_obj]
      simp [Content.ofTagged, Action.ofTag?, Json.asPair, Except.map, pure_eq_ok]
  | fakeRead place =>
      rw [Action.toJson, Content.ofJson_obj]
      simp [Content.ofTagged, Action.ofTag?, Except.map, pure_eq_ok]
  | setDiscriminant place variant =>
      rw [Action.toJson, Content.ofJson_obj]
      simp [Content.ofTagged, Action.ofTag?, Json.asPair, Json.asInteger, Except.map, pure_eq_ok]
  | drop place =>
      rw [Action.toJson, Content.ofJson_obj]
      simp [Content.ofTagged, Action.ofTag?, Except.map, pure_eq_ok]
  | assert assertion =>
      rw [Action.toJson, Content.ofJson_obj]
      simp [Content.ofTagged, Action.ofTag?, Except.map, pure_eq_ok]
  | call made =>
      rw [Action.toJson, Content.ofJson_obj]
      simp [Content.ofTagged, Action.ofTag?, Except.map, pure_eq_ok]
  | panic => rfl
  | ret => rfl
  | brk depth => rfl
  | cont depth => rfl
  | nop => rfl

/-- The labels of a clause on integers are read back. -/
@[simp]
theorem Switch.integerLabels_ofList (labels : List Scalar) :
    Switch.integerLabels (Json.ofList Scalar.toJson labels) = .ok labels :=
  mapM_map_eq_ok Scalar.ofJson_toJson labels

/-- The labels of a clause on variants are read back. -/
@[simp]
theorem Switch.variantLabels_ofList (labels : List Int) :
    Switch.variantLabels (Json.ofList .int labels) = .ok labels := by
  have hlabel (label : Int) : Json.asInteger "variant id" (.int label) = .ok label := rfl
  exact mapM_map_eq_ok hlabel labels

mutual
/-- The canonical form of a statement is read back. -/
theorem Statement.ofJson_toJson : (statement : Statement) →
    Statement.ofJson statement.toJson = .ok statement
  | .mk span content => by
      have hcontent := Content.ofJson_toJson content
      rw [Statement.toJson, Statement.ofJson_eq]
      simp [Json.asObject, Json.member, Json.memberOrNull, Assoc.find?, hcontent, pure_eq_ok]

/-- The content of a statement is read back from its JSON form. -/
theorem Content.ofJson_toJson : (content : Content) → Content.ofJson content.toJson = .ok content
  | .action action => Content.ofJson_toJson_action action
  | .sequence first second => by
      have hfirst := Statement.ofJson_toJson first
      have hsecond := Statement.ofJson_toJson second
      rw [Content.toJson, Content.ofJson_obj]
      simp [Content.ofTagged, Action.ofTag?, Json.asPair, hfirst, hsecond, pure_eq_ok]
  | .switch switch => by
      have hswitch := Switch.ofJson_toJson switch
      rw [Content.toJson, Content.ofJson_obj]
      simp [Content.ofTagged, Action.ofTag?, hswitch, pure_eq_ok]
  | .loop body => by
      have hbody := Statement.ofJson_toJson body
      rw [Content.toJson, Content.ofJson_obj]
      simp [Content.ofTagged, Action.ofTag?, hbody, pure_eq_ok]

/-- A switch is read back from its JSON form. -/
theorem Switch.ofJson_toJson : (switch : Switch) → Switch.ofJson switch.toJson = .ok switch
  | .branch condition onTrue onFalse => by
      have htrue := Statement.ofJson_toJson onTrue
      have hfalse := Statement.ofJson_toJson onFalse
      rw [Switch.toJson, Switch.ofJson_obj]
      simp [Switch.ofTagged, Json.asTriple, htrue, hfalse, pure_eq_ok]
  | .integer operand type branches otherwise => by
      have hbranches := Switch.integerBranches_toJson branches
      have hotherwise := Statement.ofJson_toJson otherwise
      rw [Switch.toJson, Switch.ofJson_obj]
      simp [Switch.ofTagged, Json.asQuadruple, Json.asArray, hbranches, hotherwise, pure_eq_ok]
  | .variant place branches otherwise => by
      have hbranches := Switch.variantBranches_toJson branches
      have hotherwise := Statement.ofJson_toJson otherwise
      rw [Switch.toJson, Switch.ofJson_obj]
      simp [Switch.ofTagged, Json.asTriple, Json.asArray, hbranches, hotherwise, pure_eq_ok]

/-- The clauses on integers are read back one by one. -/
theorem Switch.integerBranches_toJson : (branches : List (List Scalar × Statement)) →
    Switch.integerBranches (Switch.integerBranchesToJson branches) = .ok branches
  | [] => rfl
  | (labels, body) :: rest => by
      rw [Switch.integerBranchesToJson, Switch.integerBranches, Switch.integerLabels_ofList,
        Statement.ofJson_toJson body, Switch.integerBranches_toJson rest]
      rfl

/-- The clauses on variants are read back one by one. -/
theorem Switch.variantBranches_toJson : (branches : List (List Int × Statement)) →
    Switch.variantBranches (Switch.variantBranchesToJson branches) = .ok branches
  | [] => rfl
  | (labels, body) :: rest => by
      rw [Switch.variantBranchesToJson, Switch.variantBranches, Switch.variantLabels_ofList,
        Statement.ofJson_toJson body, Switch.variantBranches_toJson rest]
      rfl
end

/-- The JSON forms of clauses on integers, one by one. -/
theorem Switch.integerBranchesToJson_eq_map (branches : List (List Scalar × Statement)) :
    Switch.integerBranchesToJson branches
      = branches.map fun branch => .arr [Json.ofList Scalar.toJson branch.1, branch.2.toJson] := by
  induction branches with
  | nil => rfl
  | cons branch rest ih => rw [Switch.integerBranchesToJson, List.map_cons, ih]

/-- The JSON forms of clauses on variants, one by one. -/
theorem Switch.variantBranchesToJson_eq_map (branches : List (List Int × Statement)) :
    Switch.variantBranchesToJson branches
      = branches.map fun branch => .arr [Json.ofList .int branch.1, branch.2.toJson] := by
  induction branches with
  | nil => rfl
  | cons branch rest ih => rw [Switch.variantBranchesToJson, List.map_cons, ih]

end CrateListing
