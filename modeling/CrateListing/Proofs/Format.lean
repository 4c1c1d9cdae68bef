import CrateListing.Statement.Decode
import Mathlib.Data.Option.Basic

/-!
# The format of a function's tree

The format says of each kind of node what its JSON form looks like.  It is a
table: for each kind the shape of a value, and for each part of the shape the
kind of the part.  A value of a kind has a canonical form, in which everything
that a reader may leave open is settled: members that are not read are dropped,
members that may be missing are there, a tag without a payload is a string, the
name of an integer type is in lower case, and an integer is written as one.

Main definitions:

- `Kind`, `Kind.form`: the kinds of nodes and their shapes.
- `canonical?`: the canonical form of a value, if the value is of a kind.
-/

namespace CrateListing

/-- The kinds of values in the tree of a function. -/
inductive Kind where
  | integer
  | optionalInteger
  | truth
  | text
  | optionalText
  | list (item : Kind)
  /-- An array with one item of each kind. -/
  | tuple (parts : List Kind)
  | region
  | integerType
  | builtinType
  | mutability
  | typeHead
  | type
  /-- An integer that may be written as a string. -/
  | numeral
  | scalar
  | constant
  | fieldOwner
  | projection
  | place
  | operand
  | unaryOperator
  | borrowKind
  | binaryOperator
  | aggregateKind
  | rvalue
  | builtinFunction
  | callee
  | call
  | assertion
  | position
  | span
  | statement
  | content
  | switch

/-- A member of a record. -/
structure Member where
  key : Text
  kind : Kind
  /-- What a missing member counts as; without it the member has to be there. -/
  absent : Option Json := none

/-- The shapes of values. -/
inductive Form where
  | integer
  | truth
  | text
  /-- A string among the given ones. -/
  | name (names : List Text)
  /-- The name of an integer type in any case. -/
  | integerType
  | numeral
  /-- An object with one member, whose key is the name of an integer type. -/
  | scalar
  | list (item : Kind)
  | tuple (parts : List Kind)
  | record (members : List Member)
  /-- A tag with a payload of its kind, or a tag without a payload. -/
  | tagged (tags : List (Text × Option Kind))

namespace Kind

/-- Whether `null` is a value of a kind. -/
def nullable : Kind → Bool
  | .optionalInteger | .optionalText | .span => true
  | _ => false

/-- The shape of the values of a kind, apart from `null`. -/
def form : Kind → Form
  | .integer | .optionalInteger => .integer
  | .truth => .truth
  | .text | .optionalText => .text
  | .list item => .list item
  | .tuple parts => .tuple parts
  | .region => .tagged [("Static", none), ("Erased", none), ("Var", some .integer)]
  | .integerType => .integerType
  | .builtinType => .name ["Box", "Vec", "Option"]
  | .mutability => .name ["Mut", "Shared"]
  | .typeHead =>
      .tagged [("Adt", some .integer), ("Tuple", none), ("Assumed", some .builtinType)]
  | .type =>
      .tagged [("Adt", some (.tuple [.typeHead, .list .region, .list .type])),
        ("TypeVar", some .integer), ("Bool", none), ("Char", none), ("Never", none),
        ("Integer", some .integerType), ("Str", none), ("Array", some .type),
        ("Slice", some .type), ("Ref", some (.tuple [.region, .type, .mutability]))]
  | .numeral => .numeral
  | .scalar => .scalar
  | .constant =>
      .tagged [("Scalar", some .scalar), ("Bool", some .truth), ("Char", some .text),
        ("String", some .text), ("Adt", some (.tuple [.optionalInteger, .list .constant])),
        ("Global", some .integer)]
  | .fieldOwner =>
      .tagged [("ProjAdt", some (.tuple [.integer, .optionalInteger])),
        ("ProjTuple", some .integer)]
  | .projection =>
      .tagged [("Deref", none), ("DerefBox", none),
        ("Field", some (.tuple [.fieldOwner, .integer]))]
  | .place =>
      .record [⟨"var_id", .integer, none⟩, ⟨"projection", .list .projection, some (.arr [])⟩]
  | .operand =>
      .tagged [("Copy", some .place), ("Move", some .place),
        ("Const", some (.tuple [.type, .constant]))]
  | .unaryOperator =>
      .tagged [("Not", none), ("Neg", none), ("Cast", some (.tuple [.integerType, .integerType]))]
  | .borrowKind => .name ["Shared", "Mut", "TwoPhaseMut", "Shallow"]
  | .binaryOperator =>
      .name ["BitXor", "BitAnd", "BitOr", "Eq", "Lt", "Le", "Ne", "Ge", "Gt", "Div", "Rem", "Add",
        "Sub", "Mul", "Shl", "Shr"]
  | .aggregateKind =>
      .tagged [("AggregatedTuple", none), ("AggregatedOption", some (.tuple [.integer, .type])),
        ("AggregatedAdt",
          some (.tuple [.integer, .optionalInteger, .list .region, .list .type]))]
  | .rvalue =>
      .tagged [("Use", some .operand), ("Ref", some (.tuple [.place, .borrowKind])),
        ("UnaryOp", some (.tuple [.unaryOperator, .operand])),
        ("BinaryOp", some (.tuple [.binaryOperator, .operand, .operand])),
        ("Discriminant", some .place),
        ("Aggregate", some (.tuple [.aggregateKind, .list .operand])), ("Global", some .integer)]
  | .builtinFunction =>
      .name ["Replace", "BoxNew", "BoxDeref", "BoxDerefMut", "BoxFree", "VecNew", "VecPush",
        "VecInsert", "VecLen", "VecIndex", "VecIndexMut"]
  | .callee => .tagged [("Regular", some .integer), ("Assumed", some .builtinFunction)]
  | .call =>
      .record [⟨"func", .callee, none⟩, ⟨"args", .list .operand, some (.arr [])⟩,
        ⟨"dest", .place, none⟩, ⟨"region_args", .list .region, some (.arr [])⟩,
        ⟨"type_args", .list .type, some (.arr [])⟩]
  | .assertion => .record [⟨"cond", .operand, none⟩, ⟨"expected", .truth, none⟩]
  | .position => .record [⟨"line", .integer, none⟩, ⟨"col", .integer, none⟩]
  | .span =>
      .record [⟨"beg", .position, none⟩, ⟨"end", .position, none⟩,
        ⟨"file", .optionalText, some .null⟩]
  | .statement => .record [⟨"content", .content, none⟩, ⟨"span", .span, some .null⟩]
  | .content =>
      .tagged [("Assign", some (.tuple [.place, .rvalue])), ("FakeRead", some .place),
        ("SetDiscriminant", some (.tuple [.place, .integer])), ("Drop", some .place),
        ("Assert", some .assertion), ("Call", some .call), ("Panic", none), ("Return", none),
        ("Break", some .integer), ("Continue", some .integer), ("Nop", none),
        ("Sequence", some (.tuple [.statement, .statement])), ("Switch", some .switch),
        ("Loop", some .statement)]
  | .switch =>
      .tagged [("If", some (.tuple [.operand, .statement, .statement])),
        ("SwitchInt", some (.tuple [.operand, .integerType,
          .list (.tuple [.list .scalar, .statement]), .statement])),
        ("Match", some (.tuple [.place, .list (.tuple [.list .integer, .statement]),
          .statement]))]

end Kind

/-! ## The canonical form of a value -/

mutual
/-- The canonical form of a value, if it is of a kind. -/
def canonical? (kind : Kind) : Json → Option Json
  | .null => if kind.nullable then some .null else none
  | .bool value =>
      match kind.form with
      | .truth => some (.bool value)
      | _ => none
  | .int value =>
      match kind.form with
      | .integer | .numeral => some (.int value)
      | _ => none
  | .real _ => none
  | .str text =>
      match kind.form with
      | .text => some (.str text)
      | .name names => if text ∈ names then some (.str text) else none
      | .integerType => (IntegerType.ofName? text).map fun type => .str type.name
      | .numeral => (Text.readInteger text).toOption.map .int
      | .tagged tags =>
          match Assoc.find? text tags with
          | some none => some (.str text)
          | _ => none
      | _ => none
  | .arr items =>
      match kind.form with
      | .list item => (canonicalItems? item items).map .arr
      | .tuple parts => (canonicalParts? parts items).map .arr
      | _ => none
  | .obj members =>
      match kind.form, members with
      | .record fields, members =>
          (fields.mapM fun field => canonicalMember? field members).map .obj
      | .scalar, [(name, payload)] => do
          let type ← IntegerType.ofName? name
          let value ← canonical? .numeral payload
          return .obj [(type.name, value)]
      | .tagged tags, [(tag, payload)] => do
          match ← Assoc.find? tag tags with
          | none => return .str tag
          | some part => return .obj [(tag, ← canonical? part payload)]
      | _, _ => none

/-- The canonical forms of items of one kind. -/
def canonicalItems? (kind : Kind) : List Json → Option (List Json)
  | [] => some []
  | item :: rest => do
      let first ← canonical? kind item
      let others ← canonicalItems? kind rest
      return first :: others

/-- The canonical forms of as many items as there are kinds. -/
def canonicalParts? (kinds : List Kind) : List Json → Option (List Json)
  | [] => if kinds.isEmpty then some [] else none
  | item :: rest =>
      match kinds with
      | [] => none
      | kind :: kinds => do
          let first ← canonical? kind item
          let others ← canonicalParts? kinds rest
          return first :: others

/-- The canonical form of a member of a record. -/
def canonicalMember? (field : Member) : List (Text × Json) → Option (Text × Json)
  | [] => field.absent.map fun value => (field.key, value)
  | (key, value) :: rest =>
      if key = field.key then (canonical? field.kind value).map fun found => (field.key, found)
      else canonicalMember? field rest
end

/-! ## Canonical forms by shape -/

/-- The canonical form of a record has the canonical forms of its members. -/
theorem canonical?_record {kind : Kind} {fields : List Member} (h : kind.form = .record fields)
    (members : List (Text × Json)) :
    canonical? kind (.obj members)
      = (fields.mapM fun field => canonicalMember? field members).map .obj := by
  conv => lhs; unfold canonical?
  rw [h]

/-- The canonical form of a tagged value is the tag alone or with that of the payload. -/
theorem canonical?_tagged {kind : Kind} {tags : List (Text × Option Kind)}
    (h : kind.form = .tagged tags) (tag : Text) (payload : Json) :
    canonical? kind (.obj [(tag, payload)])
      = (Assoc.find? tag tags).bind fun
        | none => some (.str tag)
        | some part => (canonical? part payload).map fun found => .obj [(tag, found)] := by
  conv => lhs; unfold canonical?
  rw [h]
  dsimp only
  cases Assoc.find? tag tags with
  | none => rfl
  | some part =>
      cases part with
      | none => rfl
      | some part => simp [Option.map_eq_bind]

/-- Only objects with one member are tagged. -/
theorem canonical?_tagged_eq_none {kind : Kind} {tags : List (Text × Option Kind)}
    (h : kind.form = .tagged tags) {members : List (Text × Json)}
    (hmembers : ∀ tag payload, members ≠ [(tag, payload)]) :
    canonical? kind (.obj members) = none := by
  unfold canonical?
  rw [h]
  split <;> simp_all

end CrateListing
