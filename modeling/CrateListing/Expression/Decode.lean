import CrateListing.Expression.Basic
import CrateListing.Constant.Decode
import CrateListing.Place.Decode

/-!
# Reading expressions

Operands, right-hand sides of assignments and calls from their JSON form.
-/

namespace CrateListing

/-- Reads an operand. -/
def Operand.ofJson (json : Json) : Except Rejection Operand := do
  let (tag, payload) ← json.asTagged "operand"
  if tag = "Copy" then return .copy (← Place.ofJson payload)
  else if tag = "Move" then return .move (← Place.ofJson payload)
  else if tag = "Const" then
    let (type, value) ← payload.asPair "Const"
    let type ← Ty.ofJson type
    return .const type (← Constant.ofJson value)
  else throw (.unknownTag "operand" tag)

/-- Reads an operator with one operand. -/
def UnaryOperator.ofJson (json : Json) : Except Rejection UnaryOperator := do
  let (tag, payload) ← json.asTagged "unary operator"
  if tag = "Not" then return .not
  else if tag = "Neg" then return .neg
  else if tag = "Cast" then
    let (source, target) ← payload.asPair "Cast"
    let source ← IntegerType.ofJson source
    return .cast source (← IntegerType.ofJson target)
  else throw (.unknownTag "unary operator" tag)

/-- The kinds of borrows by name. -/
def BorrowKind.table : List (Text × BorrowKind) :=
  [("Shared", .shared), ("Mut", .mutable), ("TwoPhaseMut", .twoPhase), ("Shallow", .shallow)]

/-- The operators with two operands by name. -/
def BinaryOperator.table : List (Text × BinaryOperator) :=
  [("BitXor", .bitXor), ("BitAnd", .bitAnd), ("BitOr", .bitOr), ("Eq", .eq), ("Lt", .lt),
   ("Le", .le), ("Ne", .ne), ("Ge", .ge), ("Gt", .gt), ("Div", .div), ("Rem", .rem),
   ("Add", .add), ("Sub", .sub), ("Mul", .mul), ("Shl", .shl), ("Shr", .shr)]

/-- Reads what an aggregate value is made as. -/
def AggregateKind.ofJson (json : Json) : Except Rejection AggregateKind := do
  let (tag, payload) ← json.asTagged "aggregate kind"
  if tag = "AggregatedTuple" then return .tuple
  else if tag = "AggregatedOption" then
    let (variant, type) ← payload.asPair "AggregatedOption"
    let variant ← variant.asInteger "variant id"
    return .option variant (← Ty.ofJson type)
  else if tag = "AggregatedAdt" then
    let (type, variant, regions, types) ← payload.asQuadruple "AggregatedAdt"
    let type ← type.asInteger "type declaration id"
    let variant ← variant.asInteger? "variant id"
    let regions ← Region.listOfJson "regions" regions
    return .adt type variant regions (← Ty.listOfJson "types" types)
  else throw (.unknownTag "aggregate kind" tag)

/-- Reads the right-hand side of an assignment. -/
def Rvalue.ofJson (json : Json) : Except Rejection Rvalue := do
  let (tag, payload) ← json.asTagged "rvalue"
  if tag = "Use" then return .use (← Operand.ofJson payload)
  else if tag = "Ref" then
    let (place, kind) ← payload.asPair "Ref"
    let place ← Place.ofJson place
    return .borrow place (← kind.asNamed "borrow kind" BorrowKind.table)
  else if tag = "UnaryOp" then
    let (operator, operand) ← payload.asPair "UnaryOp"
    let operator ← UnaryOperator.ofJson operator
    return .unary operator (← Operand.ofJson operand)
  else if tag = "BinaryOp" then
    let (operator, left, right) ← payload.asTriple "BinaryOp"
    let operator ← operator.asNamed "binary operator" BinaryOperator.table
    let left ← Operand.ofJson left
    return .binary operator left (← Operand.ofJson right)
  else if tag = "Discriminant" then return .discriminant (← Place.ofJson payload)
  else if tag = "Aggregate" then
    let (kind, operands) ← payload.asPair "Aggregate"
    let kind ← AggregateKind.ofJson kind
    let operands ← operands.asArray "operands"
    return .aggregate kind (← operands.mapM Operand.ofJson)
  else if tag = "Global" then return .global (← payload.asInteger "global id")
  else throw (.unknownTag "rvalue" tag)

/-- The library functions by name. -/
def BuiltinFunction.table : List (Text × BuiltinFunction) :=
  [("Replace", .replace), ("BoxNew", .boxNew), ("BoxDeref", .boxDeref),
   ("BoxDerefMut", .boxDerefMut), ("BoxFree", .boxFree), ("VecNew", .vecNew),
   ("VecPush", .vecPush), ("VecInsert", .vecInsert), ("VecLen", .vecLen),
   ("VecIndex", .vecIndex), ("VecIndexMut", .vecIndexMut)]

/-- Reads the function that a call names. -/
def Callee.ofJson (json : Json) : Except Rejection Callee := do
  let (tag, payload) ← json.asTagged "function id"
  if tag = "Regular" then return .declared (← payload.asInteger "function id")
  else if tag = "Assumed" then
    return .builtin (← payload.asNamed "assumed function" BuiltinFunction.table)
  else throw (.unknownTag "function id" tag)

/-- Reads a call. -/
def Call.ofJson (json : Json) : Except Rejection Call := do
  let members ← json.asObject "call"
  let callee ← Callee.ofJson (← Json.member "func" members)
  let arguments ← (← Json.itemsOf "args" members).mapM Operand.ofJson
  let target ← Place.ofJson (← Json.member "dest" members)
  let regions ← (← Json.itemsOf "region_args" members).mapM Region.ofJson
  let types ← Ty.allOfJson (← Json.itemsOf "type_args" members)
  return ⟨callee, arguments, target, regions, types⟩

/-- Reads an assertion; the expected outcome is looked at first. -/
def Assertion.ofJson (json : Json) : Except Rejection Assertion := do
  let members ← json.asObject "assertion"
  match ← Json.member "expected" members with
  | .bool expected => return ⟨← Operand.ofJson (← Json.member "cond" members), expected⟩
  | other => throw (.unmet .assertionOutcome other)

end CrateListing
