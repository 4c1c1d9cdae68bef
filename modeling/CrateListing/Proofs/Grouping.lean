import CrateListing.Statement.Render
import CrateListing.Proofs.Outcome

/-!
# The grouping of statements

Statements stand one after the other, and a sequence can group them to the left or
to the right.  A flattened statement is a list in which no sequence is left, also
inside loops and choices.  The text of a statement is the text of this list: neither
the grouping nor the places in the source show.

Main definitions:

- `Statement.flatten`: the statements that stand one after the other in a statement.

Main results:

- Theorem `Statement.render_chain`: the text of a chain is that of its statements.
- Theorem `Statement.joined_flatten`: flattening keeps the text.
- Theorem `Statement.render_eraseSpans`: the places in the source do not show.
- Theorem `Statement.render_grouping`: statements with the same flattening have the same text.
-/

namespace CrateListing

open Outcome

/-! ## Flattened statements -/

mutual
/-- The statements that stand one after the other in a statement, without any grouping. -/
def Statement.flatten : Statement → List Statement
  | .mk span content => Content.flatten span content

/-- The statements that stand one after the other in what a statement at a place does. -/
def Content.flatten (span : Option Span) : Content → List Statement
  | .action leaf => [.mk span (.action leaf)]
  | .sequence first second => first.flatten ++ second.flatten
  | .switch choice => [.mk span (.switch choice.flatten)]
  | .loop body => [.mk span (.loop (.chain body.flatten))]

/-- A choice between statements without any grouping. -/
def Switch.flatten : Switch → Switch
  | .branch condition onTrue onFalse =>
      .branch condition (.chain onTrue.flatten) (.chain onFalse.flatten)
  | .integer operand type branches otherwise =>
      .integer operand type (Switch.flattenIntegerBranches branches) (.chain otherwise.flatten)
  | .variant place branches otherwise =>
      .variant place (Switch.flattenVariantBranches branches) (.chain otherwise.flatten)

/-- Branches with integer labels without any grouping. -/
def Switch.flattenIntegerBranches :
    List (List Scalar × Statement) → List (List Scalar × Statement)
  | [] => []
  | (labels, body) :: rest =>
      (labels, .chain body.flatten) :: Switch.flattenIntegerBranches rest

/-- Branches with variant labels without any grouping. -/
def Switch.flattenVariantBranches : List (List Int × Statement) → List (List Int × Statement)
  | [] => []
  | (labels, body) :: rest =>
      (labels, .chain body.flatten) :: Switch.flattenVariantBranches rest
end

mutual
/-- A statement has at least one part. -/
theorem Statement.flatten_ne_nil : (statement : Statement) → statement.flatten ≠ []
  | .mk span content => by
      rw [Statement.flatten]
      exact Content.flatten_ne_nil span content

/-- The content of a statement has at least one part. -/
theorem Content.flatten_ne_nil (span : Option Span) : (content : Content) →
    content.flatten span ≠ []
  | .action _ => List.cons_ne_nil _ _
  | .sequence first second => by
      rw [Content.flatten]
      exact List.append_ne_nil_of_left_ne_nil first.flatten_ne_nil second.flatten
  | .switch _ => by
      rw [Content.flatten]
      exact List.cons_ne_nil _ _
  | .loop _ => by
      rw [Content.flatten]
      exact List.cons_ne_nil _ _
end

/-! ## The text of flattened statements -/

section Text

variable (scope : Scope) (step indent : Text)

/-- The text of a chain is that of its statements, one after the other. -/
theorem Statement.render_chain {statements : List Statement} (h : statements ≠ []) :
    (chain statements).render scope step indent =
      joined ";\n" (Statement.render scope step indent) statements := by
  induction statements with
  | nil => exact absurd rfl h
  | cons first rest ih =>
      cases rest with
      | nil => exact (joined_singleton _ _ first).symm
      | cons second more =>
          have hrest : second :: more ≠ [] := List.cons_ne_nil second more
          rw [chain, Statement.render, Content.render, ih hrest, joined_cons _ _ first hrest]
          simp

mutual
/-- Flattening a statement keeps its text. -/
theorem Statement.joined_flatten (indent : Text) : (statement : Statement) →
    joined ";\n" (Statement.render scope step indent) statement.flatten =
      statement.render scope step indent
  | .mk span content => by
      rw [Statement.flatten, Content.joined_flatten indent span content, Statement.render]

/-- The text of a content is that of its parts, one below the other. -/
theorem Content.joined_flatten (indent : Text) (span : Option Span) : (content : Content) →
    joined ";\n" (Statement.render scope step indent) (content.flatten span) =
      content.render scope step indent
  | .action leaf => by
      rw [Content.flatten, joined_singleton, Statement.render]
  | .sequence first second => by
      rw [Content.flatten, joined_append _ _ first.flatten_ne_nil second.flatten_ne_nil,
        Statement.joined_flatten indent first, Statement.joined_flatten indent second,
        Content.render]
  | .switch choice => by
      rw [Content.flatten, joined_singleton, Statement.render, Content.render, Content.render,
        Switch.render_flatten indent choice]
  | .loop body => by
      rw [Content.flatten, joined_singleton, Statement.render, Content.render, Content.render,
        Statement.render_chain _ _ _ body.flatten_ne_nil, Statement.joined_flatten _ body]

/-- The text of a switch does not depend on how its branches are grouped. -/
theorem Switch.render_flatten (indent : Text) : (choice : Switch) →
    choice.flatten.render scope step indent = choice.render scope step indent
  | .branch condition onTrue onFalse => by
      rw [Switch.flatten, Switch.render, Switch.render,
        Statement.render_chain _ _ _ onTrue.flatten_ne_nil, Statement.joined_flatten _ onTrue,
        Statement.render_chain _ _ _ onFalse.flatten_ne_nil, Statement.joined_flatten _ onFalse]
  | .integer operand type branches otherwise => by
      rw [Switch.flatten, Switch.render, Switch.render,
        Switch.renderIntegerBranches_flatten _ branches,
        Statement.render_chain _ _ _ otherwise.flatten_ne_nil, Statement.joined_flatten _ otherwise]
  | .variant place branches otherwise => by
      rw [Switch.flatten, Switch.render, Switch.render,
        Switch.renderVariantBranches_flatten _ branches,
        Statement.render_chain _ _ _ otherwise.flatten_ne_nil, Statement.joined_flatten _ otherwise]

theorem Switch.renderIntegerBranches_flatten (indent : Text) :
    (branches : List (List Scalar × Statement)) →
      Switch.renderIntegerBranches scope step indent (Switch.flattenIntegerBranches branches) =
        Switch.renderIntegerBranches scope step indent branches
  | [] => by rw [Switch.flattenIntegerBranches]
  | (labels, body) :: rest => by
      rw [Switch.flattenIntegerBranches, Switch.renderIntegerBranches, Switch.renderIntegerBranches,
        Statement.render_chain _ _ _ body.flatten_ne_nil, Statement.joined_flatten _ body,
        Switch.renderIntegerBranches_flatten indent rest]

theorem Switch.renderVariantBranches_flatten (indent : Text) :
    (branches : List (List Int × Statement)) →
      Switch.renderVariantBranches scope step indent (Switch.flattenVariantBranches branches) =
        Switch.renderVariantBranches scope step indent branches
  | [] => by rw [Switch.flattenVariantBranches]
  | (labels, body) :: rest => by
      rw [Switch.flattenVariantBranches, Switch.renderVariantBranches, Switch.renderVariantBranches,
        Statement.render_chain _ _ _ body.flatten_ne_nil, Statement.joined_flatten _ body,
        Switch.renderVariantBranches_flatten indent rest]
end

/-! ## Places in the source -/

mutual
/-- The places of statements in the source do not show. -/
theorem Statement.render_eraseSpans (indent : Text) : (statement : Statement) →
    statement.eraseSpans.render scope step indent = statement.render scope step indent
  | .mk span content => by
      rw [Statement.eraseSpans, Statement.render, Statement.render,
        Content.render_eraseSpans indent content]

/-- The text of a content does not depend on spans. -/
theorem Content.render_eraseSpans (indent : Text) : (content : Content) →
    content.eraseSpans.render scope step indent = content.render scope step indent
  | .action leaf => by rw [Content.eraseSpans]
  | .sequence first second => by
      rw [Content.eraseSpans, Content.render, Content.render,
        Statement.render_eraseSpans indent first, Statement.render_eraseSpans indent second]
  | .switch choice => by
      rw [Content.eraseSpans, Content.render, Content.render,
        Switch.render_eraseSpans indent choice]
  | .loop body => by
      rw [Content.eraseSpans, Content.render, Content.render, Statement.render_eraseSpans _ body]

/-- The text of a switch does not depend on spans. -/
theorem Switch.render_eraseSpans (indent : Text) : (choice : Switch) →
    choice.eraseSpans.render scope step indent = choice.render scope step indent
  | .branch condition onTrue onFalse => by
      rw [Switch.eraseSpans, Switch.render, Switch.render, Statement.render_eraseSpans _ onTrue,
        Statement.render_eraseSpans _ onFalse]
  | .integer operand type branches otherwise => by
      rw [Switch.eraseSpans, Switch.render, Switch.render,
        Switch.renderIntegerBranches_eraseSpans _ branches, Statement.render_eraseSpans _ otherwise]
  | .variant place branches otherwise => by
      rw [Switch.eraseSpans, Switch.render, Switch.render,
        Switch.renderVariantBranches_eraseSpans _ branches, Statement.render_eraseSpans _ otherwise]

theorem Switch.renderIntegerBranches_eraseSpans (indent : Text) :
    (branches : List (List Scalar × Statement)) →
      Switch.renderIntegerBranches scope step indent (Switch.eraseIntegerBranches branches) =
        Switch.renderIntegerBranches scope step indent branches
  | [] => by rw [Switch.eraseIntegerBranches]
  | (labels, body) :: rest => by
      rw [Switch.eraseIntegerBranches, Switch.renderIntegerBranches, Switch.renderIntegerBranches,
        Statement.render_eraseSpans _ body, Switch.renderIntegerBranches_eraseSpans indent rest]

theorem Switch.renderVariantBranches_eraseSpans (indent : Text) :
    (branches : List (List Int × Statement)) →
      Switch.renderVariantBranches scope step indent (Switch.eraseVariantBranches branches) =
        Switch.renderVariantBranches scope step indent branches
  | [] => by rw [Switch.eraseVariantBranches]
  | (labels, body) :: rest => by
      rw [Switch.eraseVariantBranches, Switch.renderVariantBranches, Switch.renderVariantBranches,
        Statement.render_eraseSpans _ body, Switch.renderVariantBranches_eraseSpans indent rest]
end

/-! ## Statements that differ in their grouping -/

/-- Neither the grouping of statements nor their places in the source show, and statements in a
chain are shown one after the other. -/
theorem Statement.render_grouping :
    (∀ first second : Statement, first.eraseSpans.flatten = second.eraseSpans.flatten →
      first.render scope step indent = second.render scope step indent) ∧
    (chain []).render scope step indent = .ok (indent ++ "nop") ∧
    ∀ statements, statements ≠ [] →
      (chain statements).render scope step indent =
        (statements.mapM (Statement.render scope step indent)).map (Text.intercalate ";\n") := by
  refine ⟨fun first second h => ?_, rfl, fun statements h => ?_⟩
  · calc first.render scope step indent
      _ = first.eraseSpans.render scope step indent :=
        (first.render_eraseSpans scope step indent).symm
      _ = joined ";\n" (Statement.render scope step indent) first.eraseSpans.flatten :=
        (first.eraseSpans.joined_flatten scope step indent).symm
      _ = joined ";\n" (Statement.render scope step indent) second.eraseSpans.flatten := by rw [h]
      _ = second.eraseSpans.render scope step indent :=
        second.eraseSpans.joined_flatten scope step indent
      _ = second.render scope step indent := second.render_eraseSpans scope step indent
  · rw [Statement.render_chain scope step indent h]
    rfl

end Text

/-- A loop over three statements that are grouped to the left, with places in the source. -/
def Statement.leftGrouped : Statement :=
  .mk (some ⟨1, 0, 4, 1, none⟩) (.loop (.mk none (.sequence
    (.mk (some ⟨2, 2, 3, 8, none⟩) (.sequence (.mk none (.action .nop))
      (.mk (some ⟨3, 2, 3, 8, none⟩) (.action (.drop ⟨7, []⟩)))))
    (.mk none (.action .panic)))))

/-- The same loop with its statements grouped to the right, without places in the source. -/
def Statement.rightGrouped : Statement :=
  .mk none (.loop (.mk none (.sequence (.mk none (.action .nop))
    (.mk none (.sequence (.mk none (.action (.drop ⟨7, []⟩))) (.mk none (.action .panic)))))))

/-- The loop that is grouped to the left is shown as the other one, also behind a statement, and
fails as the other one where its local is unknown. -/
theorem Statement.render_leftGrouped :
    leftGrouped ≠ rightGrouped ∧
    leftGrouped.eraseSpans.flatten = rightGrouped.eraseSpans.flatten ∧
    leftGrouped.render { crate := {} } "  " "" = .error ⟨.unknownLocal 7, some ⟨none, none⟩⟩ ∧
    (chain [.mk none (.action .ret), leftGrouped]).render
        { crate := {}, locals := Table.ofItems Local.index [⟨7, some "x", .bool⟩] } "  " "" =
      .ok "return;\nloop \x7b\n  nop;\n  drop x;\n  panic\n\x7d" := by
  have hflatten : leftGrouped.eraseSpans.flatten = rightGrouped.eraseSpans.flatten := rfl
  refine ⟨nofun, hflatten, ?_, ?_⟩
  · exact (Statement.render_grouping { crate := {} } "  " "").1 leftGrouped rightGrouped hflatten
  · have hlaw := Statement.render_grouping
      { crate := {}, locals := Table.ofItems Local.index [⟨7, some "x", .bool⟩] } "  " ""
    have hsame := hlaw.1 leftGrouped rightGrouped hflatten
    have hchain := hlaw.2.2 [.mk none (.action .ret), leftGrouped] (List.cons_ne_nil _ _)
    rw [hchain, List.mapM_cons, List.mapM_cons, hsame]
    rfl

end CrateListing
