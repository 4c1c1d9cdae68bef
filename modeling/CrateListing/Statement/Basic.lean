import CrateListing.Expression.Basic
import CrateListing.Span

/-!
# Statements

A body is a tree of statements.  Actions are its leaves; sequences, loops and
switches hold further statements.

Main definitions:

- `Action`, `Content`, `Switch`, `Statement`: the tree.
- `Statement.chain`: a list of statements as one statement.
- `Statement.eraseSpans`: the tree without source positions.
-/

namespace CrateListing

/-- A statement that holds no other statement. -/
inductive Action where
  | assign (place : Place) (value : Rvalue)
  | fakeRead (place : Place)
  | setDiscriminant (place : Place) (variant : Int)
  | drop (place : Place)
  | assert (assertion : Assertion)
  | call (call : Call)
  | panic
  | ret
  /-- Leaves a loop; the depth counts the inner loops that are left besides. -/
  | brk (depth : Int)
  /-- Goes on with the next round of a loop, counted in the same way. -/
  | cont (depth : Int)
  | nop
deriving Repr, BEq

mutual
/-- A statement with its place in the source. -/
inductive Statement where
  | mk (span : Option Span) (content : Content)
deriving Repr, BEq

/-- What a statement does. -/
inductive Content where
  | action (action : Action)
  | sequence (first second : Statement)
  | switch (switch : Switch)
  | loop (body : Statement)
deriving Repr, BEq

/-- A choice between statements. -/
inductive Switch where
  | branch (condition : Operand) (onTrue onFalse : Statement)
  | integer (operand : Operand) (type : IntegerType)
      (branches : List (List Scalar × Statement)) (otherwise : Statement)
  | variant (place : Place) (branches : List (List Int × Statement)) (otherwise : Statement)
deriving Repr, BEq
end

instance : Inhabited Statement :=
  ⟨.mk none (.action .nop)⟩

namespace Statement

/-- Where a statement was written. -/
def span : Statement → Option Span
  | .mk span _ => span

/-- What a statement does. -/
def content : Statement → Content
  | .mk _ content => content

/-- Statements one after the other, nested to the right; no statements make a `nop`. -/
def chain : List Statement → Statement
  | [] => .mk none (.action .nop)
  | [statement] => statement
  | first :: rest => .mk none (.sequence first (chain rest))

end Statement

/-! ## Trees without source positions -/

mutual
/-- The tree of a statement without source positions. -/
def Statement.eraseSpans : Statement → Statement
  | .mk _ content => .mk none content.eraseSpans

/-- The tree of a statement's content without source positions. -/
def Content.eraseSpans : Content → Content
  | .action action => .action action
  | .sequence first second => .sequence first.eraseSpans second.eraseSpans
  | .switch switch => .switch switch.eraseSpans
  | .loop body => .loop body.eraseSpans

/-- A choice without source positions. -/
def Switch.eraseSpans : Switch → Switch
  | .branch condition onTrue onFalse => .branch condition onTrue.eraseSpans onFalse.eraseSpans
  | .integer operand type branches otherwise =>
      .integer operand type (Switch.eraseIntegerBranches branches) otherwise.eraseSpans
  | .variant place branches otherwise =>
      .variant place (Switch.eraseVariantBranches branches) otherwise.eraseSpans

/-- Branches with integer labels without source positions. -/
def Switch.eraseIntegerBranches : List (List Scalar × Statement) → List (List Scalar × Statement)
  | [] => []
  | (labels, body) :: rest => (labels, body.eraseSpans) :: Switch.eraseIntegerBranches rest

/-- Branches with variant labels without source positions. -/
def Switch.eraseVariantBranches : List (List Int × Statement) → List (List Int × Statement)
  | [] => []
  | (labels, body) :: rest => (labels, body.eraseSpans) :: Switch.eraseVariantBranches rest
end

end CrateListing
