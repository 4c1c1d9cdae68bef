import CrateListing.Statement.Basic

/-!
# Rebuilding statements

A statement tree is rebuilt from its leaves upwards by a function that is given
every statement once, after the statements inside it.

Main definitions:

- `Statement.rebuildM`: the walk, for a function with effects.
- `Replacement`, `Statement.replace`: the walk for a table that replaces whole kinds of
  statements.
-/

namespace CrateListing

variable {m : Type → Type} [Monad m]

mutual
/-- Rebuilds a statement: first the statements inside it, from left to right, then itself.
Source positions are kept. -/
def Statement.rebuildM (f : Statement → m Statement) : Statement → m Statement
  | .mk span content => do
      let content ← Content.rebuildM f content
      f (.mk span content)

/-- Rebuilds the statements inside a statement. -/
def Content.rebuildM (f : Statement → m Statement) : Content → m Content
  | .action action => pure (.action action)
  | .sequence first second => do
      let first ← Statement.rebuildM f first
      let second ← Statement.rebuildM f second
      return .sequence first second
  | .switch switch => do
      let switch ← Switch.rebuildM f switch
      return .switch switch
  | .loop body => do
      let body ← Statement.rebuildM f body
      return .loop body

/-- Rebuilds the statements inside a choice: the branches in order, then the last resort. -/
def Switch.rebuildM (f : Statement → m Statement) : Switch → m Switch
  | .branch condition onTrue onFalse => do
      let onTrue ← Statement.rebuildM f onTrue
      let onFalse ← Statement.rebuildM f onFalse
      return .branch condition onTrue onFalse
  | .integer operand type branches otherwise => do
      let branches ← Switch.rebuildIntegerBranches f branches
      let otherwise ← Statement.rebuildM f otherwise
      return .integer operand type branches otherwise
  | .variant place branches otherwise => do
      let branches ← Switch.rebuildVariantBranches f branches
      let otherwise ← Statement.rebuildM f otherwise
      return .variant place branches otherwise

/-- Rebuilds the bodies of branches with integer labels. -/
def Switch.rebuildIntegerBranches (f : Statement → m Statement) :
    List (List Scalar × Statement) → m (List (List Scalar × Statement))
  | [] => pure []
  | (labels, body) :: rest => do
      let body ← Statement.rebuildM f body
      let rest ← Switch.rebuildIntegerBranches f rest
      return (labels, body) :: rest

/-- Rebuilds the bodies of branches with variant labels. -/
def Switch.rebuildVariantBranches (f : Statement → m Statement) :
    List (List Int × Statement) → m (List (List Int × Statement))
  | [] => pure []
  | (labels, body) :: rest => do
      let body ← Statement.rebuildM f body
      let rest ← Switch.rebuildVariantBranches f rest
      return (labels, body) :: rest
end

/-! ## Kinds of statements -/

/-- The kinds of statements. -/
inductive StatementKind where
  | assign
  | fakeRead
  | setDiscriminant
  | drop
  | assert
  | call
  | panic
  | ret
  | brk
  | cont
  | nop
  | sequence
  | switch
  | loop
deriving DecidableEq, Repr

/-- The kind of an action. -/
def Action.kind : Action → StatementKind
  | .assign .. => .assign
  | .fakeRead .. => .fakeRead
  | .setDiscriminant .. => .setDiscriminant
  | .drop .. => .drop
  | .assert .. => .assert
  | .call .. => .call
  | .panic => .panic
  | .ret => .ret
  | .brk .. => .brk
  | .cont .. => .cont
  | .nop => .nop

/-- The kind of what a statement does. -/
def Content.kind : Content → StatementKind
  | .action leaf => leaf.kind
  | .sequence .. => .sequence
  | .switch .. => .switch
  | .loop .. => .loop

/-- The kind of a statement. -/
def Statement.kind (statement : Statement) : StatementKind :=
  statement.content.kind

/-! ## Replacing kinds of statements -/

/-- An action that needs no operands and can stand for any statement. -/
inductive Filler where
  | panic
  | ret
  | nop
deriving DecidableEq, Repr

/-- The action of a filler. -/
def Filler.action : Filler → Action
  | .panic => .panic
  | .ret => .ret
  | .nop => .nop

/-- What is put in the place of statements of some kinds. -/
abbrev Replacement := StatementKind → Option Filler

/-- Replaces one statement, at its place in the source, when the table says so. -/
def Replacement.apply (table : Replacement) (statement : Statement) : Statement :=
  match table statement.kind with
  | some filler => .mk statement.span (.action filler.action)
  | none => statement

/-- Replaces one statement and notes the kind that it had. -/
def Replacement.applyNoting (table : Replacement) (statement : Statement) :
    StateM (List StatementKind) Statement := do
  modify (· ++ [statement.kind])
  return table.apply statement

namespace Statement

/-- Replaces statements throughout a tree. -/
def replace (table : Replacement) (statement : Statement) : Statement :=
  Id.run (statement.rebuildM fun inner => pure (table.apply inner))

/-- Replaces statements throughout a tree and lists the kinds in the order of the walk. -/
def replaceNoting (table : Replacement) (statement : Statement) :
    Statement × List StatementKind :=
  (statement.rebuildM table.applyNoting).run []

end Statement
end CrateListing
