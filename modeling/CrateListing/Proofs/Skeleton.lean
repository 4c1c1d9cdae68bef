import CrateListing.Proofs.Layout

/-!
# The skeleton of a statement

The skeleton of a statement is what its text shows of its structure.  Nested
sequences are one list of items, source positions and the types of integer labels
are gone, and leaves, conditions and places are there as they are shown.  The text
of a statement is the text of its skeleton.

Main definitions:

- `Skeleton.Item`, `Skeleton.Items`, `Skeleton.Clauses`: skeletons.
- `Statement.skeleton`: the skeleton of a statement.
- `Skeleton.Items.text`: the text of a skeleton.

Main results:

- Theorem `Statement.render_eq_skeleton`: the text of a statement is that of its skeleton.
-/

namespace CrateListing

open Outcome

namespace Skeleton

/-- What a choice with labels is made by. -/
inductive ChoiceKind where
  | integer
  | variant
deriving DecidableEq, Repr

/-- What stands in front of the subject of a choice. -/
def ChoiceKind.opening : ChoiceKind → Text
  | .integer => "switch ("
  | .variant => "match ("

mutual
/-- A leaf by its text, or a statement around other statements. -/
inductive Item where
  | leaf (text : Text)
  | loop (body : Items)
  | branch (condition : Text) (onTrue onFalse : Items)
  | choice (kind : ChoiceKind) (subject : Text) (clauses : Clauses)
deriving Repr, BEq

/-- Items one after the other, at least one. -/
inductive Items where
  | one (item : Item)
  | cons (item : Item) (rest : Items)
deriving Repr, BEq

/-- The clauses of a choice: branches with their labels, and the last resort. -/
inductive Clauses where
  | otherwise (body : Items)
  | cons (labels : List Int) (body : Items) (rest : Clauses)
deriving Repr, BEq
end

/-- Items in front of other items. -/
def Items.append : Items → Items → Items
  | .one item, below => .cons item below
  | .cons item rest, below => .cons item (rest.append below)

/-! ## The text of a skeleton -/

mutual
/-- The text of an item. -/
def Item.text (step indent : Text) : Item → Text
  | .leaf text => indent ++ text
  | .loop body => block indent "loop" (Items.text step (indent ++ step) body)
  | .branch condition onTrue onFalse =>
      block indent ("if (" ++ condition ++ ")") (Items.text step (indent ++ step) onTrue)
        ++ "\n" ++ block indent "else" (Items.text step (indent ++ step) onFalse)
  | .choice kind subject clauses =>
      block indent (kind.opening ++ subject ++ ")")
        (Clauses.text step (indent ++ step) clauses)

/-- The text of items, with a semicolon behind each of them but the last. -/
def Items.text (step indent : Text) : Items → Text
  | .one item => Item.text step indent item
  | .cons item rest => Item.text step indent item ++ ";\n" ++ Items.text step indent rest

/-- The text of clauses. -/
def Clauses.text (step indent : Text) : Clauses → Text
  | .otherwise body => clause indent "_" (Items.text step (indent ++ step) body)
  | .cons labels body rest =>
      clause indent (labelText (labels.map Text.decimal)) (Items.text step (indent ++ step) body)
        ++ "\n" ++ Clauses.text step indent rest
end

/-- The text of items in a row is that of the first ones above that of the others. -/
theorem Items.text_append (step indent : Text) : (above below : Items) →
    (above.append below).text step indent
      = above.text step indent ++ ";\n" ++ below.text step indent
  | .one item, below => by simp only [Items.append, Items.text]
  | .cons item rest, below => by
      simp only [Items.append, Items.text, Items.text_append step indent rest below,
        Text.append_assoc]

end Skeleton

/-! ## The skeleton of a statement -/

mutual
/-- The skeleton of a statement, if its leaves, conditions and places can be shown. -/
def Statement.skeleton (scope : Scope) : Statement → Except InternalError Skeleton.Items
  | .mk _ content => Content.skeleton scope content

/-- The skeleton of what a statement does. -/
def Content.skeleton (scope : Scope) : Content → Except InternalError Skeleton.Items
  | .action action => do
      let text ← action.render scope
      return .one (.leaf text)
  | .sequence first second => do
      let above ← Statement.skeleton scope first
      let below ← Statement.skeleton scope second
      return above.append below
  | .switch switch => do
      let item ← Switch.skeleton scope switch
      return .one item
  | .loop body => do
      let inside ← Statement.skeleton scope body
      return .one (.loop inside)

/-- The skeleton of a choice. -/
def Switch.skeleton (scope : Scope) : Switch → Except InternalError Skeleton.Item
  | .branch condition onTrue onFalse => do
      let shown ← condition.render scope
      let whenTrue ← Statement.skeleton scope onTrue
      let whenFalse ← Statement.skeleton scope onFalse
      return .branch shown whenTrue whenFalse
  | .integer operand _ branches otherwise => do
      let shown ← operand.render scope
      let clauses ← Switch.integerClauses scope (Statement.skeleton scope otherwise) branches
      return .choice .integer shown clauses
  | .variant place branches otherwise => do
      let shown ← place.render scope
      let clauses ← Switch.variantClauses scope (Statement.skeleton scope otherwise) branches
      return .choice .variant shown clauses

/-- The clauses of branches with integer labels, with the last resort behind them. -/
def Switch.integerClauses (scope : Scope) (last : Except InternalError Skeleton.Items) :
    List (List Scalar × Statement) → Except InternalError Skeleton.Clauses
  | [] => do
      let body ← last
      return .otherwise body
  | (labels, body) :: rest => do
      let inside ← Statement.skeleton scope body
      let more ← Switch.integerClauses scope last rest
      return .cons (labels.map Scalar.value) inside more

/-- The clauses of branches with variant labels, with the last resort behind them. -/
def Switch.variantClauses (scope : Scope) (last : Except InternalError Skeleton.Items) :
    List (List Int × Statement) → Except InternalError Skeleton.Clauses
  | [] => do
      let body ← last
      return .otherwise body
  | (labels, body) :: rest => do
      let inside ← Statement.skeleton scope body
      let more ← Switch.variantClauses scope last rest
      return .cons labels inside more
end

/-! ## The text of a statement is that of its skeleton -/

/-- The text of a choice is that of its skeleton when the texts of its clauses, below each other,
are that of the clauses of the skeleton. -/
theorem choice_eq_skeleton {step indent : Text} (kind : Skeleton.ChoiceKind)
    {subject last : Except InternalError Text} {texts : Except InternalError (List Text)}
    {clauses : Except InternalError Skeleton.Clauses}
    (hclauses : (do
        let shown ← texts
        let body ← last
        return Text.intercalate "\n" (shown ++ [clause (indent ++ step) "_" body]))
      = clauses.map (Skeleton.Clauses.text step (indent ++ step))) :
    (do
        let title ← subject
        let shown ← texts
        let body ← last
        return choice indent step (kind.opening ++ title ++ ")") shown body)
      = (do
          let title ← subject
          let found ← clauses
          return Skeleton.Item.choice kind title found).map (Skeleton.Item.text step indent) := by
  have hinside (title : Text) :
      (do
        let shown ← texts
        let body ← last
        return choice indent step (kind.opening ++ title ++ ")") shown body)
        = (do
            let inside ← clauses.map (Skeleton.Clauses.text step (indent ++ step))
            return block indent (kind.opening ++ title ++ ")") inside) := by
    rw [← hclauses]
    simp only [bind_assoc, pure_bind]
    rfl
  simp only [hinside]
  cases subject with
  | error error => rfl
  | ok title => cases clauses <;> rfl

/-- A clause stands in front of the others. -/
theorem clause_above {indent : Text} {texts : Except InternalError (List Text)}
    {last below : Except InternalError Text} (first : Text)
    (hbelow : (do
        let shown ← texts
        let body ← last
        return Text.intercalate "\n" (shown ++ [clause indent "_" body])) = below) :
    (do
        let shown ← texts
        let body ← last
        return Text.intercalate "\n" (first :: shown ++ [clause indent "_" body]))
      = below.map (first ++ "\n" ++ ·) := by
  rw [← hbelow]
  cases texts with
  | error error => rfl
  | ok shown =>
      cases last with
      | error error => rfl
      | ok body => simp only [ok_bind, pure_eq_ok, Except.map, intercalate_concat]

mutual
/-- The text of a statement is that of its skeleton, and they fail together. -/
theorem Statement.render_eq_skeleton (scope : Scope) (step indent : Text) :
    (statement : Statement) →
      statement.render scope step indent
        = (statement.skeleton scope).map (Skeleton.Items.text step indent)
  | .mk _ content => by
      rw [Statement.render, Statement.skeleton]
      exact Content.render_eq_skeleton scope step indent content

/-- The text of a content is that of its skeleton. -/
theorem Content.render_eq_skeleton (scope : Scope) (step indent : Text) :
    (content : Content) →
      content.render scope step indent
        = (content.skeleton scope).map (Skeleton.Items.text step indent)
  | .action action => by
      rw [Content.render, Content.skeleton]
      cases action.render scope <;> rfl
  | .sequence first second => by
      rw [Content.render, Content.skeleton, Statement.render_eq_skeleton scope step indent first,
        Statement.render_eq_skeleton scope step indent second]
      cases first.skeleton scope with
      | error error => rfl
      | ok above =>
          cases second.skeleton scope with
          | error error => rfl
          | ok below =>
              simp only [Except.map, ok_bind, pure_eq_ok, Skeleton.Items.text_append]
  | .switch switch => by
      rw [Content.render, Content.skeleton, Switch.render_eq_skeleton scope step indent switch]
      cases switch.skeleton scope <;> rfl
  | .loop body => by
      rw [Content.render, Content.skeleton,
        Statement.render_eq_skeleton scope step (indent ++ step) body]
      cases body.skeleton scope <;> rfl

/-- The text of a switch is that of its skeleton. -/
theorem Switch.render_eq_skeleton (scope : Scope) (step indent : Text) :
    (switch : Switch) →
      switch.render scope step indent
        = (switch.skeleton scope).map (Skeleton.Item.text step indent)
  | .branch condition onTrue onFalse => by
      rw [Switch.render, Switch.skeleton,
        Statement.render_eq_skeleton scope step (indent ++ step) onTrue,
        Statement.render_eq_skeleton scope step (indent ++ step) onFalse]
      cases condition.render scope with
      | error error => rfl
      | ok shown =>
          cases onTrue.skeleton scope with
          | error error => rfl
          | ok whenTrue => cases onFalse.skeleton scope <;> rfl
  | .integer operand type branches otherwise => by
      rw [Switch.render, Switch.skeleton]
      refine choice_eq_skeleton .integer ?_
      rw [Statement.render_eq_skeleton scope step (indent ++ step ++ step) otherwise]
      exact Switch.renderIntegerBranches_eq_skeleton scope step (indent ++ step) _ branches
  | .variant place branches otherwise => by
      rw [Switch.render, Switch.skeleton]
      refine choice_eq_skeleton .variant ?_
      rw [Statement.render_eq_skeleton scope step (indent ++ step ++ step) otherwise]
      exact Switch.renderVariantBranches_eq_skeleton scope step (indent ++ step) _ branches

/-- The texts of clauses on integers are those of their skeletons. -/
theorem Switch.renderIntegerBranches_eq_skeleton (scope : Scope) (step indent : Text)
    (last : Except InternalError Skeleton.Items) :
    (branches : List (List Scalar × Statement)) →
      (do
        let shown ← Switch.renderIntegerBranches scope step indent branches
        let body ← last.map (Skeleton.Items.text step (indent ++ step))
        return Text.intercalate "\n" (shown ++ [clause indent "_" body]))
        = (Switch.integerClauses scope last branches).map (Skeleton.Clauses.text step indent)
  | [] => by
      rw [Switch.renderIntegerBranches, Switch.integerClauses]
      cases last with
      | error error => rfl
      | ok body => simp [Except.map, pure_eq_ok, Skeleton.Clauses.text]
  | (labels, body) :: rest => by
      have hrest := Switch.renderIntegerBranches_eq_skeleton scope step indent last rest
      rw [Switch.renderIntegerBranches, Switch.integerClauses,
        Statement.render_eq_skeleton scope step (indent ++ step) body]
      cases body.skeleton scope with
      | error error => rfl
      | ok inside =>
          simp only [ok_bind, bind_assoc, pure_bind]
          refine (clause_above _ hrest).trans ?_
          have hlabels : (labels.map Scalar.value).map Text.decimal = labels.map Scalar.render :=
            List.map_map
          cases Switch.integerClauses scope last rest with
          | error error => rfl
          | ok more =>
              simp only [Except.map, ok_bind, pure_eq_ok, Skeleton.Clauses.text, hlabels]

/-- The texts of clauses on variants are those of their skeletons. -/
theorem Switch.renderVariantBranches_eq_skeleton (scope : Scope) (step indent : Text)
    (last : Except InternalError Skeleton.Items) :
    (branches : List (List Int × Statement)) →
      (do
        let shown ← Switch.renderVariantBranches scope step indent branches
        let body ← last.map (Skeleton.Items.text step (indent ++ step))
        return Text.intercalate "\n" (shown ++ [clause indent "_" body]))
        = (Switch.variantClauses scope last branches).map (Skeleton.Clauses.text step indent)
  | [] => by
      rw [Switch.renderVariantBranches, Switch.variantClauses]
      cases last with
      | error error => rfl
      | ok body => simp [Except.map, pure_eq_ok, Skeleton.Clauses.text]
  | (labels, body) :: rest => by
      have hrest := Switch.renderVariantBranches_eq_skeleton scope step indent last rest
      rw [Switch.renderVariantBranches, Switch.variantClauses,
        Statement.render_eq_skeleton scope step (indent ++ step) body]
      cases body.skeleton scope with
      | error error => rfl
      | ok inside =>
          simp only [ok_bind, bind_assoc, pure_bind]
          refine (clause_above _ hrest).trans ?_
          cases Switch.variantClauses scope last rest <;> rfl
end

end CrateListing
