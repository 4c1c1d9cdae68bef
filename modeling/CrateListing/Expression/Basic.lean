import CrateListing.Constant.Basic
import CrateListing.Place.Basic

/-!
# Expressions

Operands, right-hand sides of assignments, and calls.
-/

namespace CrateListing

/-- An operand. -/
inductive Operand where
  | copy (place : Place)
  | move (place : Place)
  | const (type : Ty) (value : Constant)
deriving Repr, BEq

/-- The ways to borrow a place. -/
inductive BorrowKind where
  | shared
  | mutable
  | twoPhase
  | shallow
deriving DecidableEq, Repr

/-- Operators with one operand. -/
inductive UnaryOperator where
  | not
  | neg
  | cast (source target : IntegerType)
deriving DecidableEq, Repr

/-- Operators with two operands. -/
inductive BinaryOperator where
  | bitXor
  | bitAnd
  | bitOr
  | eq
  | lt
  | le
  | ne
  | ge
  | gt
  | div
  | rem
  | add
  | sub
  | mul
  | shl
  | shr
deriving DecidableEq, Repr

/-- The text of an operator. -/
def BinaryOperator.symbol : BinaryOperator → Text
  | .bitXor => "^"
  | .bitAnd => "&"
  | .bitOr => "|"
  | .eq => "=="
  | .lt => "<"
  | .le => "<="
  | .ne => "!="
  | .ge => ">="
  | .gt => ">"
  | .div => "/"
  | .rem => "%"
  | .add => "+"
  | .sub => "-"
  | .mul => "*"
  | .shl => "<<"
  | .shr => ">>"

/-- What an aggregate value is made as. -/
inductive AggregateKind where
  | tuple
  | option (variant : Int) (type : Ty)
  | adt (type : Int) (variant : Option Int) (regions : List Region) (types : List Ty)
deriving Repr, BEq

/-- The variant of the built-in option type that holds nothing. -/
def noneVariant : Int := 0

/-- The right-hand side of an assignment. -/
inductive Rvalue where
  | use (operand : Operand)
  | borrow (place : Place) (kind : BorrowKind)
  | unary (operator : UnaryOperator) (operand : Operand)
  | binary (operator : BinaryOperator) (left right : Operand)
  | discriminant (place : Place)
  | aggregate (kind : AggregateKind) (operands : List Operand)
  | global (id : Int)
deriving Repr, BEq

/-- Library functions that are known without a declaration. -/
inductive BuiltinFunction where
  | replace
  | boxNew
  | boxDeref
  | boxDerefMut
  | boxFree
  | vecNew
  | vecPush
  | vecInsert
  | vecLen
  | vecIndex
  | vecIndexMut
deriving DecidableEq, Repr

/-- The function that a call names. -/
inductive Callee where
  | declared (id : Int)
  | builtin (function : BuiltinFunction)
deriving DecidableEq, Repr

/-- A call with the place of its result. -/
structure Call where
  callee : Callee
  arguments : List Operand
  target : Place
  regions : List Region
  types : List Ty
deriving Repr, BEq

/-- A condition that is checked when the program runs. -/
structure Assertion where
  condition : Operand
  expected : Bool
deriving Repr, BEq

end CrateListing
