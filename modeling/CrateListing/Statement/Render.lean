import CrateListing.Statement.Basic
import CrateListing.Expression.Render

/-!
# The text of statements

Every line of a statement starts with the indentation of its block, and each
nested block is indented by one more step.  A text has no line end at its front
or its end.
-/

namespace CrateListing

/-- The text of an action. -/
def Action.render (scope : Scope) : Action → Except InternalError Text
  | .assign place value => do
      let shownPlace ← place.render scope
      let shownValue ← value.render scope
      return shownPlace ++ " := " ++ shownValue
  | .fakeRead place => do
      let shown ← place.render scope
      return "fake_read " ++ shown
  | .setDiscriminant place variant => do
      let shown ← place.render scope
      return "set_discriminant(" ++ shown ++ ", " ++ Text.decimal variant ++ ")"
  | .drop place => do
      let shown ← place.render scope
      return "drop " ++ shown
  | .assert claim => claim.render scope
  | .call made => made.render scope
  | .panic => .ok "panic"
  | .ret => .ok "return"
  | .brk depth => .ok ("break " ++ Text.decimal depth)
  | .cont depth => .ok ("continue " ++ Text.decimal depth)
  | .nop => .ok "nop"

/-- A block: a heading, the inside, and the closing brace on a line of its own. -/
def block (indent heading inside : Text) : Text :=
  indent ++ heading ++ " \x7b\n" ++ inside ++ "\n" ++ indent ++ "\x7d"

/-- The labels of a branch, each behind a bar. -/
def labelText (labels : List Text) : Text :=
  Text.intercalate " " (labels.map ("| " ++ ·))

/-- A clause of a choice. -/
def clause (indent label body : Text) : Text :=
  block indent (label ++ " =>") body

/-- A choice with its clauses, the last of which is taken when no label fits. -/
def choice (indent step heading : Text) (clauses : List Text) (otherwise : Text) : Text :=
  block indent heading
    (Text.intercalate "\n" (clauses ++ [clause (indent ++ step) "_" otherwise]))

mutual
/-- The text of a statement. -/
def Statement.render (scope : Scope) (step indent : Text) :
    Statement → Except InternalError Text
  | .mk _ content => Content.render scope step indent content

/-- The text of what a statement does. -/
def Content.render (scope : Scope) (step indent : Text) :
    Content → Except InternalError Text
  | .action action => do
      let shown ← action.render scope
      return indent ++ shown
  | .sequence first second => do
      let shownFirst ← Statement.render scope step indent first
      let shownSecond ← Statement.render scope step indent second
      return shownFirst ++ ";\n" ++ shownSecond
  | .switch switch => Switch.render scope step indent switch
  | .loop body => do
      let inside ← Statement.render scope step (indent ++ step) body
      return block indent "loop" inside

/-- The text of a choice. -/
def Switch.render (scope : Scope) (step indent : Text) :
    Switch → Except InternalError Text
  | .branch condition onTrue onFalse => do
      let shown ← condition.render scope
      let whenTrue ← Statement.render scope step (indent ++ step) onTrue
      let whenFalse ← Statement.render scope step (indent ++ step) onFalse
      return block indent ("if (" ++ shown ++ ")") whenTrue ++ "\n" ++ block indent "else" whenFalse
  | .integer operand _ branches otherwise => do
      let shown ← operand.render scope
      let clauses ← Switch.renderIntegerBranches scope step (indent ++ step) branches
      let last ← Statement.render scope step (indent ++ step ++ step) otherwise
      return choice indent step ("switch (" ++ shown ++ ")") clauses last
  | .variant place branches otherwise => do
      let shown ← place.render scope
      let clauses ← Switch.renderVariantBranches scope step (indent ++ step) branches
      let last ← Statement.render scope step (indent ++ step ++ step) otherwise
      return choice indent step ("match (" ++ shown ++ ")") clauses last

/-- The clauses of branches with integer labels. -/
def Switch.renderIntegerBranches (scope : Scope) (step indent : Text) :
    List (List Scalar × Statement) → Except InternalError (List Text)
  | [] => .ok []
  | (labels, body) :: rest => do
      let shown ← Statement.render scope step (indent ++ step) body
      let clauses ← Switch.renderIntegerBranches scope step indent rest
      return clause indent (labelText (labels.map Scalar.render)) shown :: clauses

/-- The clauses of branches with variant labels. -/
def Switch.renderVariantBranches (scope : Scope) (step indent : Text) :
    List (List Int × Statement) → Except InternalError (List Text)
  | [] => .ok []
  | (labels, body) :: rest => do
      let shown ← Statement.render scope step (indent ++ step) body
      let clauses ← Switch.renderVariantBranches scope step indent rest
      return clause indent (labelText (labels.map Text.decimal)) shown :: clauses
end

end CrateListing
