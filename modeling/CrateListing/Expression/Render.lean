import CrateListing.Ty.Render
import CrateListing.Constant.Render
import CrateListing.Place.Render

/-!
# The text of expressions

Operands, right-hand sides of assignments, assertions and calls.
-/

namespace CrateListing

/-- The text of an operand. -/
def Operand.render (scope : Scope) : Operand → Except InternalError Text
  | .copy place => do
      let shown ← place.render scope
      return "copy " ++ shown
  | .move place => do
      let shown ← place.render scope
      return "move " ++ shown
  | .const type value => do
      let shownValue ← value.render scope
      let shownType ← type.render scope
      return "const (" ++ shownValue ++ " : " ++ shownType ++ ")"

/-- What stands in front of a borrowed place. -/
def BorrowKind.mark : BorrowKind → Text
  | .shared => "&"
  | .mutable => "&mut "
  | .twoPhase => "&two-phase "
  | .shallow => "&shallow "

/-- The text of an operator with one operand. -/
def UnaryOperator.render : UnaryOperator → Text
  | .not => "¬"
  | .neg => "-"
  | .cast source target => "cast<" ++ source.name ++ "," ++ target.name ++ ">"

/-- Items between parentheses. -/
def parenthesized (items : List Text) : Text :=
  "(" ++ Text.intercalate ", " items ++ ")"

/-- Values with the names of their fields; surplus names or values are left out. -/
def namedFields (names values : List Text) : Text :=
  Text.intercalate " " ((names.zip values).map fun (name, value) => name ++ " = " ++ value ++ ";")

/-- The name of a struct or of a variant of an enumeration. -/
def aggregateName (scope : Scope) (type : Int) : Option Int → Except InternalError Text
  | none => scope.typeName type
  | some variant => do
      let name ← scope.typeName type
      let variantName ← scope.variantName type variant
      return name ++ "::" ++ variantName

/-- The text of an aggregate whose operands are already shown. -/
def AggregateKind.render (scope : Scope) (operands : List Text) :
    AggregateKind → Except InternalError Text
  | .tuple => .ok (parenthesized operands)
  | .option variant _ =>
      if variant = noneVariant then .ok "@Option::None"
      else .ok ("@Option::Some" ++ parenthesized operands)
  | .adt type variant _ _ => do
      let name ← aggregateName scope type variant
      match ← scope.fieldNames? type variant with
      | none => return if operands.isEmpty then name else name ++ parenthesized operands
      | some names => return name ++ " \x7b " ++ namedFields names operands ++ " \x7d"

/-- The text of the right-hand side of an assignment. -/
def Rvalue.render (scope : Scope) : Rvalue → Except InternalError Text
  | .use operand => operand.render scope
  | .borrow place kind => do
      let shown ← place.render scope
      return kind.mark ++ shown
  | .unary operator operand => do
      let shown ← operand.render scope
      return operator.render ++ " " ++ shown
  | .binary operator left right => do
      let shownLeft ← left.render scope
      let shownRight ← right.render scope
      return shownLeft ++ " " ++ operator.symbol ++ " " ++ shownRight
  | .discriminant place => do
      let shown ← place.render scope
      return "@discriminant(" ++ shown ++ ")"
  | .aggregate kind operands => do
      let shown ← operands.mapM (Operand.render scope)
      kind.render scope shown
  | .global id => scope.globalName id

/-- The text of an assertion. -/
def Assertion.render (scope : Scope) (assertion : Assertion) : Except InternalError Text := do
  let shown ← assertion.condition.render scope
  return "assert(" ++ shown ++ " == " ++ renderBool assertion.expected ++ ")"

/-- The path of a library function with the generic arguments of a call. -/
def BuiltinFunction.path (generics : Text) : BuiltinFunction → Text
  | .replace => "core::mem::replace" ++ generics
  | .boxNew => "alloc::boxed::Box" ++ generics ++ "::new"
  | .boxDeref => "core::ops::deref::Deref<Box" ++ generics ++ ">::deref"
  | .boxDerefMut => "core::ops::deref::DerefMut<Box" ++ generics ++ ">::deref_mut"
  | .boxFree => "alloc::alloc::box_free" ++ generics
  | .vecNew => "alloc::vec::Vec" ++ generics ++ "::new"
  | .vecPush => "alloc::vec::Vec" ++ generics ++ "::push"
  | .vecInsert => "alloc::vec::Vec" ++ generics ++ "::insert"
  | .vecLen => "alloc::vec::Vec" ++ generics ++ "::len"
  | .vecIndex => "core::ops::index::Index<alloc::vec::Vec" ++ generics ++ ">::index"
  | .vecIndexMut => "core::ops::index::IndexMut<alloc::vec::Vec" ++ generics ++ ">::index_mut"

/-- The text of a called function with the generic arguments of the call. -/
def Callee.render (scope : Scope) (generics : Text) : Callee → Except InternalError Text
  | .declared id => do
      let name ← scope.functionName id
      return name ++ generics
  | .builtin function => .ok (function.path generics)

/-- The text of a call. -/
def Call.render (scope : Scope) (call : Call) : Except InternalError Text := do
  let generics ← genericArgs scope call.regions call.types
  let name ← call.callee.render scope generics
  let arguments ← call.arguments.mapM (Operand.render scope)
  let target ← call.target.render scope
  return target ++ " := " ++ name ++ parenthesized arguments

end CrateListing
