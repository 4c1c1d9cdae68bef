import CrateListing.Proofs.Visits

/-!
# Replacing kinds of statements

A table of replacements puts fillers in the place of statements of some kinds.  A
filler holds no other statement, and whether a statement is replaced does not depend
on the statements inside it.  So what is done to a replaced tree can be done on the
way, although a second walk does not meet the statements inside a replaced one.

Main definitions:

- `Statement.rebuild`: the walk for a function without effects.
- `Replacement.andThen`: the table that stands for one table after another.

Main results:

- Theorem `Statement.rebuild_id`: a walk that changes nothing gives the tree back.
- Theorem `Statement.rebuild_replace`: a walk over a replaced tree is one walk over the tree.
- Theorem `Statement.functor_laws`: both laws for rebuilding, and tables that are composed.
-/

namespace CrateListing

/-! ## Tables one after the other -/

/-- The table that replaces by the first table, and what comes of that by the second one. -/
def Replacement.andThen (first second : Replacement) : Replacement := fun kind =>
  match first kind with
  | some filler => some ((second filler.action.kind).getD filler)
  | none => second kind

/-- A statement that the table does not name stays as it is. -/
theorem Replacement.apply_of_eq_none {table : Replacement} {statement : Statement}
    (h : table statement.kind = none) : table.apply statement = statement := by
  rw [Replacement.apply, h]

/-- A statement that the table names is replaced and keeps its span. -/
theorem Replacement.apply_of_eq_some {table : Replacement} {statement : Statement}
    {filler : Filler} (h : table statement.kind = some filler) :
    table.apply statement = .mk statement.span (.action filler.action) := by
  rw [Replacement.apply, h]

/-- A composed table does to each statement what its parts do one after the other. -/
theorem Replacement.apply_andThen (first second : Replacement) (statement : Statement) :
    (first.andThen second).apply statement = second.apply (first.apply statement) := by
  cases hfirst : first statement.kind with
  | none =>
      have hkind : first.andThen second statement.kind = second statement.kind := by
        rw [Replacement.andThen, hfirst]
      rw [apply_of_eq_none hfirst, Replacement.apply, Replacement.apply, hkind]
  | some filler =>
      have hkind : first.andThen second statement.kind
          = some ((second filler.action.kind).getD filler) := by
        rw [Replacement.andThen, hfirst]
      rw [apply_of_eq_some hfirst, apply_of_eq_some hkind]
      have hfiller : (Statement.mk statement.span (.action filler.action)).kind
          = filler.action.kind := rfl
      cases hsecond : second filler.action.kind with
      | none => exact (apply_of_eq_none (hfiller ▸ hsecond)).symm
      | some other => exact (apply_of_eq_some (hfiller ▸ hsecond)).symm

/-! ## Walks without effects -/

namespace Statement

/-- Rebuilds a statement by a function without effects. -/
def rebuild (f : Statement → Statement) (statement : Statement) : Statement :=
  Id.run (statement.rebuildM fun inner => pure (f inner))

/-- Replacing is rebuilding with the table at every statement. -/
theorem replace_eq_rebuild (table : Replacement) (statement : Statement) :
    statement.replace table = statement.rebuild table.apply :=
  rfl

/-- The statements inside a statement are rebuilt first, and then the statement. -/
theorem rebuild_eq_inner (f : Statement → Statement) (statement : Statement) :
    statement.rebuild f = f (statement.withInner (statement.inner.map (rebuild f))) := by
  rw [rebuild, rebuildM_eq_inner]
  simp only [Id.run_bind, List.idRun_mapM, Id.run_pure]
  rfl

/-- A statement without parts is rebuilt by the function alone. -/
theorem rebuild_action (f : Statement → Statement) (span : Option Span) (leaf : Action) :
    (mk span (.action leaf)).rebuild f = f (mk span (.action leaf)) :=
  rfl

/-- The kind of a statement does not depend on the statements inside it. -/
theorem kind_withInner (statement : Statement) (inside : List Statement) :
    (statement.withInner inside).kind = statement.kind := by
  obtain ⟨span, content⟩ := statement
  cases content with
  | action leaf => rfl
  | sequence first second => rfl
  | switch choice => cases choice <;> rfl
  | loop body => rfl

/-- Statements that are put inside a statement are rebuilt as its inside. -/
theorem rebuild_withInner (f : Statement → Statement) {statement : Statement}
    {inside : List Statement} (h : inside.length = statement.inner.length) :
    (statement.withInner inside).rebuild f = f (statement.withInner (inside.map (rebuild f))) := by
  have hfill := head_inner_fill (h.trans statement.length_inner) statement.span
  have hhead : (statement.withInner inside).head = statement.head := hfill.1
  have hinner : (statement.withInner inside).inner = inside := hfill.2
  have hspan : (statement.withInner inside).span = statement.span := rfl
  rw [rebuild_eq_inner, hinner, withInner, hspan, hhead]
  rfl

/-! ## The laws of rebuilding -/

/-- A walk that changes nothing gives the tree back. -/
theorem rebuild_id (statement : Statement) : statement.rebuild id = statement := by
  induction statement using inner_induction with
  | h statement ih =>
      have hinside : statement.inner.map (rebuild id) = statement.inner := by
        calc statement.inner.map (rebuild id)
          _ = statement.inner.map id := List.map_congr_left ih
          _ = statement.inner := List.map_id _
      rw [rebuild_eq_inner, hinside, withInner_inner]
      rfl

/-- A walk over a tree in which statements have been replaced is a walk over the tree that
replaces each statement first. -/
theorem rebuild_replace (table : Replacement) (f : Statement → Statement)
    (statement : Statement) :
    (statement.replace table).rebuild f
      = statement.rebuild fun inner => f (table.apply inner) := by
  induction statement using inner_induction with
  | h statement ih =>
      have hinside : (statement.inner.map (replace table)).map (rebuild f)
          = statement.inner.map (rebuild fun inner => f (table.apply inner)) := by
        rw [List.map_map]
        exact List.map_congr_left ih
      rw [replace_eq_rebuild, rebuild_eq_inner table.apply,
        rebuild_eq_inner fun inner => f (table.apply inner)]
      cases hkind : table statement.kind with
      | none =>
          have hkept (inside : List Statement) :
              table.apply (statement.withInner inside) = statement.withInner inside :=
            Replacement.apply_of_eq_none (by rw [kind_withInner, hkind])
          rw [hkept, hkept, rebuild_withInner f (List.length_map _), ← hinside]
          rfl
      | some filler =>
          -- The walk meets the filler alone, whatever was inside the statement.
          have hreplaced (inside : List Statement) :
              table.apply (statement.withInner inside)
                = mk statement.span (.action filler.action) :=
            Replacement.apply_of_eq_some (by rw [kind_withInner, hkind])
          rw [hreplaced, hreplaced, rebuild_action]

/-- Rebuilding by a function that changes nothing changes nothing, places in the source included,
and replacing by one table after another is one walk, in which both are applied to each statement
or their composed table is. -/
theorem functor_laws (first second : Replacement) (statement : Statement) :
    Id.run (statement.rebuildM pure) = statement ∧
    (statement.replace first).replace second
      = Id.run (statement.rebuildM fun inner => pure (second.apply (first.apply inner))) ∧
    (statement.replace first).replace second = statement.replace (first.andThen second) := by
  have hfused : (statement.replace first).replace second
      = statement.rebuild fun inner => second.apply (first.apply inner) :=
    statement.rebuild_replace first second.apply
  refine ⟨statement.rebuild_id, hfused, ?_⟩
  rw [hfused, replace_eq_rebuild]
  exact congrArg (fun f => statement.rebuild f)
    (funext fun inner => (first.apply_andThen second inner).symm)

end Statement

/-- In a loop over a choice, the first table replaces the loop inside and the second one the
filler in its place, so that what is inside does not matter. -/
example :
    let panicking : Replacement := fun kind => if kind = .loop then some .panic else none
    let returning : Replacement := fun kind => if kind = .panic then some .ret else none
    let choice : Statement := .mk none (.switch (.variant ⟨0, []⟩
      [([1], .mk none (.loop (.mk none (.action .panic))))] (.mk none (.action .nop))))
    choice.replace (panicking.andThen returning)
      = .mk none (.switch (.variant ⟨0, []⟩ [([1], .mk none (.action .ret))]
          (.mk none (.action .nop)))) :=
  rfl

end CrateListing
