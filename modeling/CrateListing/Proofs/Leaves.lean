import CrateListing.Statement.Basic
import Mathlib.Data.List.Basic

/-!
# The leaves of a statement

The leaves of a statement are its actions, from left to right, each with its
place in the source.  A function on actions is applied to every leaf; everything
else in the tree stays as it is.

Main definitions:

- `Statement.leaves`: the leaves of a statement.
- `Statement.mapActions`: a function applied to every leaf.

Main results:

- Theorem `Statement.leaves_mapActions`: the leaves of the new tree are the new leaves.
- Theorem `Statement.mapActions_eq_self`: a tree whose leaves are kept is kept.
-/

namespace CrateListing

/-- An action with its place in the source. -/
structure Leaf where
  span : Option Span
  action : Action

/-- The leaf with another action. -/
def Leaf.mapAction (f : Action → Action) (leaf : Leaf) : Leaf :=
  { leaf with action := f leaf.action }

mutual
/-- The leaves of a statement, from left to right. -/
def Statement.leaves : Statement → List Leaf
  | .mk span content => Content.leaves span content

/-- The leaves of what a statement at a place does. -/
def Content.leaves (span : Option Span) : Content → List Leaf
  | .action action => [⟨span, action⟩]
  | .sequence first second => first.leaves ++ second.leaves
  | .switch switch => switch.leaves
  | .loop body => body.leaves

/-- The leaves of a choice: those of the branches in order, then those of the last resort. -/
def Switch.leaves : Switch → List Leaf
  | .branch _ onTrue onFalse => onTrue.leaves ++ onFalse.leaves
  | .integer _ _ branches otherwise => Switch.integerLeaves branches ++ otherwise.leaves
  | .variant _ branches otherwise => Switch.variantLeaves branches ++ otherwise.leaves

/-- The leaves of branches with integer labels. -/
def Switch.integerLeaves : List (List Scalar × Statement) → List Leaf
  | [] => []
  | (_, body) :: rest => body.leaves ++ Switch.integerLeaves rest

/-- The leaves of branches with variant labels. -/
def Switch.variantLeaves : List (List Int × Statement) → List Leaf
  | [] => []
  | (_, body) :: rest => body.leaves ++ Switch.variantLeaves rest
end

mutual
/-- The tree with a function applied to every leaf. -/
def Statement.mapActions (f : Action → Action) : Statement → Statement
  | .mk span content => .mk span (Content.mapActions f content)

/-- What a statement does, with a function applied to every leaf. -/
def Content.mapActions (f : Action → Action) : Content → Content
  | .action action => .action (f action)
  | .sequence first second => .sequence (first.mapActions f) (second.mapActions f)
  | .switch switch => .switch (switch.mapActions f)
  | .loop body => .loop (body.mapActions f)

/-- A choice with a function applied to every leaf. -/
def Switch.mapActions (f : Action → Action) : Switch → Switch
  | .branch condition onTrue onFalse =>
      .branch condition (onTrue.mapActions f) (onFalse.mapActions f)
  | .integer operand type branches otherwise =>
      .integer operand type (Switch.mapIntegerBranches f branches) (otherwise.mapActions f)
  | .variant place branches otherwise =>
      .variant place (Switch.mapVariantBranches f branches) (otherwise.mapActions f)

/-- Branches with integer labels with a function applied to every leaf. -/
def Switch.mapIntegerBranches (f : Action → Action) :
    List (List Scalar × Statement) → List (List Scalar × Statement)
  | [] => []
  | (labels, body) :: rest => (labels, body.mapActions f) :: Switch.mapIntegerBranches f rest

/-- Branches with variant labels with a function applied to every leaf. -/
def Switch.mapVariantBranches (f : Action → Action) :
    List (List Int × Statement) → List (List Int × Statement)
  | [] => []
  | (labels, body) :: rest => (labels, body.mapActions f) :: Switch.mapVariantBranches f rest
end

/-! ## The leaves of the new tree -/

mutual
/-- The leaves of the new tree are the new leaves. -/
theorem Statement.leaves_mapActions (f : Action → Action) : (statement : Statement) →
    (statement.mapActions f).leaves = statement.leaves.map (Leaf.mapAction f)
  | .mk span content => by
      rw [Statement.mapActions, Statement.leaves, Statement.leaves]
      exact Content.leaves_mapActions f span content

/-- The leaves of a rewritten content are the rewritten leaves. -/
theorem Content.leaves_mapActions (f : Action → Action) (span : Option Span) :
    (content : Content) →
      Content.leaves span (content.mapActions f)
        = (Content.leaves span content).map (Leaf.mapAction f)
  | .action action => rfl
  | .sequence first second => by
      rw [Content.mapActions, Content.leaves, Content.leaves, List.map_append,
        Statement.leaves_mapActions f first, Statement.leaves_mapActions f second]
  | .switch switch => by
      rw [Content.mapActions, Content.leaves, Content.leaves, Switch.leaves_mapActions f switch]
  | .loop body => by
      rw [Content.mapActions, Content.leaves, Content.leaves, Statement.leaves_mapActions f body]

/-- The leaves of a rewritten switch are the rewritten leaves. -/
theorem Switch.leaves_mapActions (f : Action → Action) : (switch : Switch) →
    (switch.mapActions f).leaves = switch.leaves.map (Leaf.mapAction f)
  | .branch condition onTrue onFalse => by
      rw [Switch.mapActions, Switch.leaves, Switch.leaves, List.map_append,
        Statement.leaves_mapActions f onTrue, Statement.leaves_mapActions f onFalse]
  | .integer operand type branches otherwise => by
      rw [Switch.mapActions, Switch.leaves, Switch.leaves, List.map_append,
        Switch.integerLeaves_mapActions f branches, Statement.leaves_mapActions f otherwise]
  | .variant place branches otherwise => by
      rw [Switch.mapActions, Switch.leaves, Switch.leaves, List.map_append,
        Switch.variantLeaves_mapActions f branches, Statement.leaves_mapActions f otherwise]

theorem Switch.integerLeaves_mapActions (f : Action → Action) :
    (branches : List (List Scalar × Statement)) →
      Switch.integerLeaves (Switch.mapIntegerBranches f branches)
        = (Switch.integerLeaves branches).map (Leaf.mapAction f)
  | [] => rfl
  | (labels, body) :: rest => by
      rw [Switch.mapIntegerBranches, Switch.integerLeaves, Switch.integerLeaves, List.map_append,
        Statement.leaves_mapActions f body, Switch.integerLeaves_mapActions f rest]

theorem Switch.variantLeaves_mapActions (f : Action → Action) :
    (branches : List (List Int × Statement)) →
      Switch.variantLeaves (Switch.mapVariantBranches f branches)
        = (Switch.variantLeaves branches).map (Leaf.mapAction f)
  | [] => rfl
  | (labels, body) :: rest => by
      rw [Switch.mapVariantBranches, Switch.variantLeaves, Switch.variantLeaves, List.map_append,
        Statement.leaves_mapActions f body, Switch.variantLeaves_mapActions f rest]
end

/-! ## Trees that are kept -/

mutual
/-- A tree whose leaves are kept is kept. -/
theorem Statement.mapActions_eq_self {f : Action → Action} : (statement : Statement) →
    (∀ leaf ∈ statement.leaves, f leaf.action = leaf.action) → statement.mapActions f = statement
  | .mk span content, h => by
      rw [Statement.leaves] at h
      rw [Statement.mapActions, Content.mapActions_eq_self content h]

/-- A content stays as it is when none of its leaves is changed. -/
theorem Content.mapActions_eq_self {f : Action → Action} {span : Option Span} :
    (content : Content) → (∀ leaf ∈ Content.leaves span content, f leaf.action = leaf.action) →
      content.mapActions f = content
  | .action action, h => by
      have haction : f action = action := h ⟨span, action⟩ List.mem_cons_self
      rw [Content.mapActions, haction]
  | .sequence first second, h => by
      rw [Content.leaves, List.forall_mem_append] at h
      rw [Content.mapActions, Statement.mapActions_eq_self first h.1,
        Statement.mapActions_eq_self second h.2]
  | .switch switch, h => by
      rw [Content.leaves] at h
      rw [Content.mapActions, Switch.mapActions_eq_self switch h]
  | .loop body, h => by
      rw [Content.leaves] at h
      rw [Content.mapActions, Statement.mapActions_eq_self body h]

/-- A switch stays as it is when none of its leaves is changed. -/
theorem Switch.mapActions_eq_self {f : Action → Action} : (switch : Switch) →
    (∀ leaf ∈ switch.leaves, f leaf.action = leaf.action) → switch.mapActions f = switch
  | .branch condition onTrue onFalse, h => by
      rw [Switch.leaves, List.forall_mem_append] at h
      rw [Switch.mapActions, Statement.mapActions_eq_self onTrue h.1,
        Statement.mapActions_eq_self onFalse h.2]
  | .integer operand type branches otherwise, h => by
      rw [Switch.leaves, List.forall_mem_append] at h
      rw [Switch.mapActions, Switch.mapIntegerBranches_eq_self branches h.1,
        Statement.mapActions_eq_self otherwise h.2]
  | .variant place branches otherwise, h => by
      rw [Switch.leaves, List.forall_mem_append] at h
      rw [Switch.mapActions, Switch.mapVariantBranches_eq_self branches h.1,
        Statement.mapActions_eq_self otherwise h.2]

theorem Switch.mapIntegerBranches_eq_self {f : Action → Action} :
    (branches : List (List Scalar × Statement)) →
      (∀ leaf ∈ Switch.integerLeaves branches, f leaf.action = leaf.action) →
        Switch.mapIntegerBranches f branches = branches
  | [], _ => rfl
  | (labels, body) :: rest, h => by
      rw [Switch.integerLeaves, List.forall_mem_append] at h
      rw [Switch.mapIntegerBranches, Statement.mapActions_eq_self body h.1,
        Switch.mapIntegerBranches_eq_self rest h.2]

theorem Switch.mapVariantBranches_eq_self {f : Action → Action} :
    (branches : List (List Int × Statement)) →
      (∀ leaf ∈ Switch.variantLeaves branches, f leaf.action = leaf.action) →
        Switch.mapVariantBranches f branches = branches
  | [], _ => rfl
  | (labels, body) :: rest, h => by
      rw [Switch.variantLeaves, List.forall_mem_append] at h
      rw [Switch.mapVariantBranches, Statement.mapActions_eq_self body h.1,
        Switch.mapVariantBranches_eq_self rest h.2]
end

end CrateListing
