import CrateListing.Statement.Rebuild
import CrateListing.Proofs.Outcome

/-!
# The visits of a walk

A walk rebuilds a statement with a function that may work on a state and may fail.
The calls of the function are listed with their arguments and outcomes: each
statement of the tree is visited once, after the statements inside it, and is given
to the function with what the function returned for these.  A call that fails is the
last one.

Main definitions:

- `Statement.head`, `Statement.inner`: a statement apart from the statements inside it, and these.
- `Statement.postorder`: the statements of a tree, each after those inside it.
- `Walk`: the calls of a walk over statements, and its outcome.
- `Performed`: calls of a function, one after the other.
- `noting`: a function with a log of its calls.

Main results:

- Theorem `Statement.rebuildM_eq_inner`: one step of a walk, for all kinds of statements.
- Theorem `walkable`: every function performs the calls of a walk.
- Theorem `Walk.run_rebuildM`: these calls are what rebuilding does.
- Theorem `Walk.exists_unvisited`: the calls follow the post-order.
- Theorem `Statement.rebuildM_visits`: the calls and the outcome of rebuilding a statement.
-/

namespace CrateListing

open Outcome

/-! ## A statement and the statements inside it -/

/-- A statement apart from its place in the source and the statements inside it. -/
inductive Head where
  | action (action : Action)
  | sequence
  | loop
  | branch (condition : Operand)
  | integer (operand : Operand) (type : IntegerType) (labels : List (List Scalar))
  | variant (place : Place) (labels : List (List Int))

namespace Head

/-- The number of statements inside a statement with a head. -/
def arity : Head → Nat
  | .action _ => 0
  | .sequence => 2
  | .loop => 1
  | .branch _ => 2
  | .integer _ _ labels => labels.length + 1
  | .variant _ labels => labels.length + 1

/-- A head with statements inside, as many as it has room for. -/
def fill (inside : List Statement) : Head → Content
  | .action leaf => .action leaf
  | .sequence => .sequence (inside.getD 0 default) (inside.getD 1 default)
  | .loop => .loop (inside.getD 0 default)
  | .branch condition => .switch (.branch condition (inside.getD 0 default) (inside.getD 1 default))
  | .integer operand type labels =>
      .switch (.integer operand type (labels.zip inside.dropLast) (inside.getLastD default))
  | .variant place labels =>
      .switch (.variant place (labels.zip inside.dropLast) (inside.getLastD default))

end Head

namespace Statement

/-- The kind of a statement with its operands and labels. -/
def head : Statement → Head
  | .mk _ (.action action) => .action action
  | .mk _ (.sequence _ _) => .sequence
  | .mk _ (.loop _) => .loop
  | .mk _ (.switch (.branch condition _ _)) => .branch condition
  | .mk _ (.switch (.integer operand type branches _)) =>
      .integer operand type (branches.map Prod.fst)
  | .mk _ (.switch (.variant place branches _)) => .variant place (branches.map Prod.fst)

/-- The statements inside a statement, from left to right. -/
def inner : Statement → List Statement
  | .mk _ (.action _) => []
  | .mk _ (.sequence first second) => [first, second]
  | .mk _ (.loop body) => [body]
  | .mk _ (.switch (.branch _ onTrue onFalse)) => [onTrue, onFalse]
  | .mk _ (.switch (.integer _ _ branches otherwise)) => branches.map Prod.snd ++ [otherwise]
  | .mk _ (.switch (.variant _ branches otherwise)) => branches.map Prod.snd ++ [otherwise]

/-- The statement with other statements inside it. -/
def withInner (statement : Statement) (inside : List Statement) : Statement :=
  .mk statement.span (statement.head.fill inside)

/-- The place in the source, the head and the statements inside make up a statement. -/
theorem withInner_inner (statement : Statement) :
    statement.withInner statement.inner = statement := by
  have hbranches {α : Type} (branches : List (α × Statement)) :
      (branches.map Prod.fst).zip (branches.map Prod.snd) = branches :=
    (List.zip_of_prod rfl rfl).symm
  obtain ⟨span, content⟩ := statement
  cases content with
  | action action => rfl
  | sequence first second => rfl
  | loop body => rfl
  | switch switch =>
      cases switch with
      | branch condition onTrue onFalse => rfl
      | integer operand type branches otherwise =>
          simp [withInner, head, inner, Head.fill, Statement.span, hbranches]
      | variant place branches otherwise =>
          simp [withInner, head, inner, Head.fill, Statement.span, hbranches]

/-- A statement has as many parts as the arity of its head. -/
theorem length_inner (statement : Statement) : statement.inner.length = statement.head.arity := by
  obtain ⟨span, content⟩ := statement
  cases content with
  | switch switch => cases switch <;> simp [inner, head, Head.arity]
  | _ => rfl

/-- Bodies with their labels, and the last resort behind them, are taken apart again. -/
theorem labels_bodies_of_length {α : Type} {labels : List α} {inside : List Statement}
    (h : inside.length = labels.length + 1) :
    (labels.zip inside.dropLast).map Prod.fst = labels ∧
      (labels.zip inside.dropLast).map Prod.snd ++ [inside.getLastD default] = inside := by
  have hlength : inside.dropLast.length = labels.length := by simp [h]
  have hne : inside ≠ [] := by
    rintro rfl
    cases h
  have hlast : inside.getLastD default = inside.getLast hne := by
    rw [List.getLastD_eq_getLast?, List.getLast?_eq_some_getLast hne, Option.getD_some]
  constructor
  · exact List.map_fst_zip (Nat.le_of_eq hlength.symm)
  · rw [List.map_snd_zip (Nat.le_of_eq hlength), hlast, List.dropLast_append_getLast]

/-- A head that is filled with as many statements as it has room for is taken apart again. -/
theorem head_inner_fill {head : Head} {inside : List Statement} (h : inside.length = head.arity)
    (span : Option Span) :
    (Statement.mk span (head.fill inside)).head = head ∧
      (Statement.mk span (head.fill inside)).inner = inside := by
  cases head with
  | action action =>
      obtain rfl := List.length_eq_zero_iff.1 h
      exact ⟨rfl, rfl⟩
  | sequence =>
      obtain ⟨first, second, rfl⟩ := List.length_eq_two.1 h
      exact ⟨rfl, rfl⟩
  | loop =>
      obtain ⟨body, rfl⟩ := List.length_eq_one_iff.1 h
      exact ⟨rfl, rfl⟩
  | branch condition =>
      obtain ⟨onTrue, onFalse, rfl⟩ := List.length_eq_two.1 h
      exact ⟨rfl, rfl⟩
  | integer operand type labels =>
      obtain ⟨hlabels, hinside⟩ := labels_bodies_of_length h
      exact ⟨congrArg (Head.integer operand type) hlabels, hinside⟩
  | variant place labels =>
      obtain ⟨hlabels, hinside⟩ := labels_bodies_of_length h
      exact ⟨congrArg (Head.variant place) hlabels, hinside⟩

/-! ## All statements of a tree -/

/-- The bodies of branches are smaller than the switch. -/
theorem sizeOf_lt_of_mem_bodies {α : Type} [SizeOf α] {branches : List (α × Statement)}
    {otherwise part : Statement} (h : part ∈ branches.map Prod.snd ++ [otherwise]) :
    sizeOf part < 1 + sizeOf branches + sizeOf otherwise := by
  rcases List.mem_append.1 h with h | h
  · obtain ⟨⟨labels, body⟩, hbranch, rfl⟩ := List.mem_map.1 h
    have hsize := List.sizeOf_lt_of_mem hbranch
    simp only [Prod.mk.sizeOf_spec] at hsize ⊢
    omega
  · rw [List.mem_singleton.1 h]
    omega

/-- A statement inside another one is smaller. -/
theorem sizeOf_lt_of_mem_inner {statement part : Statement} (h : part ∈ statement.inner) :
    sizeOf part < sizeOf statement := by
  obtain ⟨span, content⟩ := statement
  cases content with
  | action action => simp [inner] at h
  | sequence first second =>
      have hpart : part = first ∨ part = second := by simpa [inner] using h
      rcases hpart with rfl | rfl <;> simp <;> omega
  | loop body =>
      have hpart : part = body := by simpa [inner] using h
      simp [hpart]
      omega
  | switch switch =>
      cases switch with
      | branch condition onTrue onFalse =>
          have hpart : part = onTrue ∨ part = onFalse := by simpa [inner] using h
          rcases hpart with rfl | rfl <;> simp <;> omega
      | integer operand type branches otherwise =>
          have hsize := sizeOf_lt_of_mem_bodies h
          simp
          omega
      | variant place branches otherwise =>
          have hsize := sizeOf_lt_of_mem_bodies h
          simp
          omega

/-- What holds of a statement when it holds of the statements inside it holds of all statements. -/
theorem inner_induction {P : Statement → Prop}
    (h : ∀ statement, (∀ part ∈ statement.inner, P part) → P statement) (statement : Statement) :
    P statement :=
  h statement fun part hpart =>
    have := sizeOf_lt_of_mem_inner hpart
    inner_induction h part
termination_by sizeOf statement

/-- The statements of a tree, from left to right, each after those inside it. -/
def postorder (statement : Statement) : List Statement :=
  (statement.inner.attach.flatMap fun ⟨part, hpart⟩ =>
    have := sizeOf_lt_of_mem_inner hpart
    postorder part) ++ [statement]
termination_by sizeOf statement

/-- The parts of a statement come before the statement. -/
theorem postorder_eq (statement : Statement) :
    statement.postorder = statement.inner.flatMap postorder ++ [statement] := by
  rw [postorder]
  simp [List.flatMap_def]

/-- Everything about a statement but the statements inside it. -/
def shell (statement : Statement) : Option Span × Head :=
  (statement.span, statement.head)

end Statement

/-! ## One step of a walk -/

section Step

variable {m : Type → Type} [Monad m] [LawfulMonad m]

/-- The bodies of clauses on integers are rebuilt one after the other. -/
theorem Switch.rebuildIntegerBranches_eq_mapM (f : Statement → m Statement)
    (branches : List (List Scalar × Statement)) :
    Switch.rebuildIntegerBranches f branches = (do
      let bodies ← (branches.map Prod.snd).mapM (Statement.rebuildM f)
      return (branches.map Prod.fst).zip bodies) := by
  induction branches with
  | nil => simp [Switch.rebuildIntegerBranches]
  | cons branch rest ih =>
      obtain ⟨labels, body⟩ := branch
      simp [Switch.rebuildIntegerBranches, ih]

/-- The bodies of clauses on variants are rebuilt one after the other. -/
theorem Switch.rebuildVariantBranches_eq_mapM (f : Statement → m Statement)
    (branches : List (List Int × Statement)) :
    Switch.rebuildVariantBranches f branches = (do
      let bodies ← (branches.map Prod.snd).mapM (Statement.rebuildM f)
      return (branches.map Prod.fst).zip bodies) := by
  induction branches with
  | nil => simp [Switch.rebuildVariantBranches]
  | cons branch rest ih =>
      obtain ⟨labels, body⟩ := branch
      simp [Switch.rebuildVariantBranches, ih]

/-- A walk rebuilds the statements inside a statement from left to right, and then the
statement. -/
theorem Statement.rebuildM_eq_inner (f : Statement → m Statement) (statement : Statement) :
    statement.rebuildM f = (do
      let inside ← statement.inner.mapM (Statement.rebuildM f)
      f (statement.withInner inside)) := by
  obtain ⟨span, content⟩ := statement
  rw [Statement.rebuildM]
  cases content with
  | action action => simp [Content.rebuildM, inner, withInner, head, Statement.span, Head.fill]
  | sequence first second =>
      simp [Content.rebuildM, inner, withInner, head, Statement.span, Head.fill]
  | loop body => simp [Content.rebuildM, inner, withInner, head, Statement.span, Head.fill]
  | switch switch =>
      cases switch with
      | branch condition onTrue onFalse =>
          simp [Content.rebuildM, Switch.rebuildM, inner, withInner, head, Statement.span,
            Head.fill]
      | integer operand type branches otherwise =>
          simp [Content.rebuildM, Switch.rebuildM, Switch.rebuildIntegerBranches_eq_mapM, inner,
            withInner, head, Statement.span, Head.fill]
      | variant place branches otherwise =>
          simp [Content.rebuildM, Switch.rebuildM, Switch.rebuildVariantBranches_eq_mapM, inner,
            withInner, head, Statement.span, Head.fill]

end Step

/-! ## The visits of a walk -/

variable {σ ε : Type}

/-- A function on statements that works on a state and can fail. -/
abbrev Visitor (σ ε : Type) := Statement → ExceptT ε (StateM σ) Statement

/-- A call of a function on statements: what the function is given, and what comes of it. -/
structure Visit (ε : Type) where
  argument : Statement
  outcome : Except ε Statement

/-- A statement has the place and the head of another one, and given statements inside. -/
structure Statement.Refills (argument original : Statement) (inside : List Statement) : Prop where
  span : argument.span = original.span
  head : argument.head = original.head
  inner : argument.inner = inside

/-- The visits of a walk over statements, one after the other, and the outcome of the walk. -/
inductive Walk : List Statement → List (Visit ε) → Except ε (List Statement) → Prop where
  /-- There is nothing to visit. -/
  | nil : Walk [] [] (.ok [])
  /-- The statements inside the first one are visited, then the first one itself, with what was
  returned for them inside it, and then the rest. -/
  | next {statement argument result : Statement} {rest inside : List Statement}
      {visits more : List (Visit ε)} {outcome : Except ε (List Statement)}
      (hinside : Walk statement.inner visits (.ok inside))
      (hargument : argument.Refills statement inside) (hrest : Walk rest more outcome) :
      Walk (statement :: rest) (visits ++ ⟨argument, .ok result⟩ :: more)
        (outcome.map (result :: ·))
  /-- The visit of the first statement fails, and there are no further ones. -/
  | failed {statement argument : Statement} {rest inside : List Statement}
      {visits : List (Visit ε)} {error : ε} (hinside : Walk statement.inner visits (.ok inside))
      (hargument : argument.Refills statement inside) :
      Walk (statement :: rest) (visits ++ [⟨argument, .error error⟩]) (.error error)
  /-- The visit of a statement inside the first one fails, and there are no further ones. -/
  | failedInside {statement : Statement} {rest : List Statement} {visits : List (Visit ε)}
      {error : ε} (hinside : Walk statement.inner visits (.error error)) :
      Walk (statement :: rest) visits (.error error)

/-- Calls of a function, one after the other, which lead from one state to another. -/
inductive Performed (f : Visitor σ ε) : σ → List (Visit ε) → σ → Prop where
  | nil (state : σ) : Performed f state [] state
  | cons {state next last : σ} {argument : Statement} {outcome : Except ε Statement}
      {rest : List (Visit ε)} (hcall : (f argument).run.run state = (outcome, next))
      (hrest : Performed f next rest last) :
      Performed f state (⟨argument, outcome⟩ :: rest) last

/-- Visits that were performed one after the other were performed in a row. -/
theorem Performed.append {f : Visitor σ ε} {first middle last : σ} {visits more : List (Visit ε)}
    (hvisits : Performed f first visits middle) (hmore : Performed f middle more last) :
    Performed f first (visits ++ more) last := by
  induction hvisits with
  | nil state => exact hmore
  | cons hcall _ ih => exact .cons hcall (ih hmore)

/-- Visits that were performed in a row were performed one after the other. -/
theorem Performed.of_append {f : Visitor σ ε} {first last : σ} {visits more : List (Visit ε)}
    (h : Performed f first (visits ++ more) last) :
    ∃ middle, Performed f first visits middle ∧ Performed f middle more last := by
  induction visits generalizing first with
  | nil => exact ⟨first, .nil first, h⟩
  | cons visit rest ih =>
      cases h with
      | cons hcall hrest =>
          obtain ⟨middle, hvisits, hmore⟩ := ih hrest
          exact ⟨middle, .cons hcall hvisits, hmore⟩

/-! ## Every function performs a walk -/

/-- A walk gives one result for each statement. -/
theorem Walk.length_results {statements : List Statement} {visits : List (Visit ε)}
    {outcome : Except ε (List Statement)} (h : Walk statements visits outcome) :
    Gives outcome fun results => results.length = statements.length := by
  induction h with
  | nil => exact gives_ok rfl
  | next _ _ _ _ ih => exact ih.map fun results hresults => by simp [hresults]
  | failed _ _ _ => nofun
  | failedInside _ _ => nofun

/-- What was returned for the statements inside a statement fits into it. -/
theorem Walk.refills_withInner {statement : Statement} {inside : List Statement}
    {visits : List (Visit ε)} (h : Walk statement.inner visits (.ok inside)) :
    (statement.withInner inside).Refills statement inside := by
  have hlength := (h.length_results inside rfl).trans statement.length_inner
  have hfill := Statement.head_inner_fill hlength statement.span
  exact ⟨rfl, hfill.1, hfill.2⟩

/-- From every state a function performs the visits of a walk. -/
def Walkable (f : Visitor σ ε) (statements : List Statement) : Prop :=
  ∀ state, ∃ visits outcome last, Walk statements visits outcome ∧ Performed f state visits last

/-- A list is walkable when the parts of its first statement and the others are. -/
theorem Walkable.cons {f : Visitor σ ε} {statement : Statement} {rest : List Statement}
    (hinner : Walkable f statement.inner) (hrest : Walkable f rest) :
    Walkable f (statement :: rest) := by
  intro state
  obtain ⟨visits, inside, middle, hinside, hvisits⟩ := hinner state
  cases inside with
  | error error => exact ⟨visits, .error error, middle, .failedInside hinside, hvisits⟩
  | ok inside =>
      have hargument := hinside.refills_withInner
      rcases hcall : (f (statement.withInner inside)).run.run middle with ⟨outcome, next⟩
      cases outcome with
      | error error =>
          exact ⟨_, _, next, .failed hinside hargument, hvisits.append (.cons hcall (.nil next))⟩
      | ok result =>
          obtain ⟨more, outcome, last, hwalk, hmore⟩ := hrest next
          exact ⟨_, _, last, .next hinside hargument hwalk, hvisits.append (.cons hcall hmore)⟩

/-- Every list of statements is walkable. -/
theorem walkable (f : Visitor σ ε) (statements : List Statement) : Walkable f statements := by
  have hall : ∀ parts : List Statement, (∀ part ∈ parts, Walkable f part.inner) →
      Walkable f parts := by
    intro parts hparts
    induction parts with
    | nil => exact fun state => ⟨[], .ok [], state, .nil, .nil state⟩
    | cons part rest ih =>
        obtain ⟨hpart, hrest⟩ := List.forall_mem_cons.1 hparts
        exact hpart.cons (ih hrest)
  have hinner : ∀ statement : Statement, Walkable f statement.inner :=
    Statement.inner_induction fun statement ih => hall statement.inner ih
  exact hall statements fun part _ => hinner part

/-! ## A walk is what rebuilding does -/

section Run

variable {α β : Type} {x : ExceptT ε (StateM σ) α} {next : α → ExceptT ε (StateM σ) β}
  {state middle : σ}

/-- After a result a sequence goes on from the state that was reached. -/
theorem run_bind_of_ok {a : α} (h : x.run.run state = (.ok a, middle)) :
    (x >>= next).run.run state = (next a).run.run middle := by
  simp only [ExceptT.run_bind, StateT.run_bind, h]
  rfl

/-- After an error a sequence stops in the state that was reached. -/
theorem run_bind_of_error {error : ε} (h : x.run.run state = (.error error, middle)) :
    (x >>= next).run.run state = (.error error, middle) := by
  simp only [ExceptT.run_bind, StateT.run_bind, h]
  rfl

end Run

/-- A refilled statement is the original one with other parts. -/
theorem Statement.Refills.eq_withInner {argument original : Statement} {inside : List Statement}
    (h : argument.Refills original inside) : argument = original.withInner inside := by
  rw [← argument.withInner_inner, Statement.withInner, Statement.withInner, h.span, h.head,
    h.inner]

/-- The visits of a walk, performed by a function, are what rebuilding with it does. -/
theorem Walk.run_rebuildM {f : Visitor σ ε} {statements : List Statement}
    {visits : List (Visit ε)} {outcome : Except ε (List Statement)}
    (h : Walk statements visits outcome) {state last : σ}
    (hperformed : Performed f state visits last) :
    (statements.mapM (Statement.rebuildM f)).run.run state = (outcome, last) := by
  induction h generalizing state last with
  | nil =>
      cases hperformed
      rfl
  | @next _ _ _ _ _ _ _ outcome hinside hargument hrest ihinside ihrest =>
      obtain ⟨middle, hvisits, hmore⟩ := hperformed.of_append
      cases hmore with
      | cons hcall hmore =>
          rw [hargument.eq_withInner] at hcall
          rw [List.mapM_cons, Statement.rebuildM_eq_inner, bind_assoc,
            run_bind_of_ok (ihinside hvisits), run_bind_of_ok hcall]
          cases outcome with
          | ok results =>
              rw [run_bind_of_ok (ihrest hmore)]
              rfl
          | error error =>
              rw [run_bind_of_error (ihrest hmore)]
              rfl
  | failed hinside hargument ihinside =>
      obtain ⟨middle, hvisits, hmore⟩ := hperformed.of_append
      cases hmore with
      | cons hcall hmore =>
          cases hmore
          rw [hargument.eq_withInner] at hcall
          rw [List.mapM_cons, Statement.rebuildM_eq_inner, bind_assoc,
            run_bind_of_ok (ihinside hvisits), run_bind_of_error hcall]
  | failedInside hinside ihinside =>
      rw [List.mapM_cons, Statement.rebuildM_eq_inner, bind_assoc,
        run_bind_of_error (ihinside hperformed)]

/-- Rebuilding one statement gives what the walk over it gives. -/
theorem Walk.run_rebuildM_single {f : Visitor σ ε} {statement : Statement}
    {visits : List (Visit ε)} {outcome : Except ε Statement}
    (h : Walk [statement] visits (outcome.map ([·]))) {state last : σ}
    (hperformed : Performed f state visits last) :
    (statement.rebuildM f).run.run state = (outcome, last) := by
  have hrun := h.run_rebuildM hperformed
  rw [List.mapM_cons] at hrun
  rcases hsingle : (statement.rebuildM f).run.run state with ⟨result, next⟩
  cases result with
  | ok result =>
      rw [run_bind_of_ok hsingle] at hrun
      cases outcome <;> cases hrun
      rfl
  | error error =>
      rw [run_bind_of_error hsingle] at hrun
      cases outcome <;> cases hrun
      rfl

/-! ## The order and the end of the visits -/

/-- A refilled statement has the shell of the original one. -/
theorem Statement.Refills.shell_eq {argument original : Statement} {inside : List Statement}
    (h : argument.Refills original inside) : argument.shell = original.shell := by
  rw [Statement.shell, Statement.shell, h.span, h.head]

namespace Walk

variable {statements : List Statement} {visits : List (Visit ε)}
  {outcome : Except ε (List Statement)}

/-- The visits follow the post-order, and only a walk that fails leaves statements unvisited. -/
theorem exists_unvisited (h : Walk statements visits outcome) :
    ∃ unvisited, (statements.flatMap Statement.postorder).map Statement.shell =
        visits.map (fun visit => visit.argument.shell) ++ unvisited ∧
      (Succeeds outcome → unvisited = []) := by
  induction h with
  | nil => exact ⟨[], rfl, fun _ => rfl⟩
  | next hinside hargument hrest ihinside ihrest =>
      obtain ⟨skipped, hvisits, hall⟩ := ihinside
      obtain rfl := hall (succeeds_ok _)
      obtain ⟨unvisited, hmore, hend⟩ := ihrest
      refine ⟨unvisited, ?_, fun h => hend ((succeeds_map _ _).1 h)⟩
      simp [Statement.postorder_eq, hvisits, hmore, hargument.shell_eq]
  | @failed _ _ rest _ _ _ hinside hargument ihinside =>
      obtain ⟨skipped, hvisits, hall⟩ := ihinside
      obtain rfl := hall (succeeds_ok _)
      refine ⟨(rest.flatMap Statement.postorder).map Statement.shell, ?_, fun h => ?_⟩
      · simp [Statement.postorder_eq, hvisits, hargument.shell_eq]
      · exact absurd h (not_succeeds_error _)
  | @failedInside statement rest _ _ hinside ihinside =>
      obtain ⟨skipped, hvisits, -⟩ := ihinside
      refine ⟨skipped ++ statement.shell :: (rest.flatMap Statement.postorder).map Statement.shell,
        ?_, fun h => absurd h (not_succeeds_error _)⟩
      simp [Statement.postorder_eq, hvisits]

/-- No visit of a walk fails but the last one, and the walk fails with the error of that. -/
theorem fails_last (h : Walk statements visits outcome) :
    match outcome with
    | .ok _ => ∀ visit ∈ visits, Succeeds visit.outcome
    | .error error => ∃ before final, visits = before ++ [final] ∧ final.outcome = .error error ∧
        ∀ visit ∈ before, Succeeds visit.outcome := by
  induction h with
  | nil => simp
  | @next _ argument result _ _ visits _ outcome hinside hargument hrest ihinside ihrest =>
      cases outcome with
      | ok results => simpa [or_imp, forall_and] using ⟨ihinside, ihrest⟩
      | error error =>
          obtain ⟨before, final, rfl, hfinal, hbefore⟩ := ihrest
          refine ⟨visits ++ ⟨argument, .ok result⟩ :: before, final, by simp, hfinal, ?_⟩
          simpa [or_imp, forall_and] using ⟨ihinside, hbefore⟩
  | failed hinside hargument ihinside => exact ⟨_, _, rfl, rfl, ihinside⟩
  | failedInside hinside ihinside => exact ihinside

/-- The walk over one statement ends with the visit that decides its outcome. -/
theorem exists_final {statement : Statement} (h : Walk [statement] visits outcome) :
    ∃ before final, visits = before ++ [final] ∧ outcome = final.outcome.map ([·]) ∧
      ∀ visit ∈ before, Succeeds visit.outcome := by
  cases h with
  | next hinside hargument hrest =>
      cases hrest
      exact ⟨_, _, rfl, rfl, hinside.fails_last⟩
  | failed hinside hargument => exact ⟨_, _, rfl, rfl, hinside.fails_last⟩
  | failedInside hinside =>
      obtain ⟨before, final, rfl, hfinal, hbefore⟩ := hinside.fails_last
      exact ⟨before, final, rfl, by rw [hfinal]; rfl, hbefore⟩

end Walk

/-! ## Functions that note their calls -/

/-- The function, with a log of its calls beside its own state. -/
def noting (f : Visitor σ ε) : Visitor (σ × List (Visit ε)) ε := fun statement =>
  ExceptT.mk fun (state, log) =>
    let (outcome, next) := (f statement).run.run state
    (outcome, next, log ++ [⟨statement, outcome⟩])

/-- A visitor that takes notes does the same and notes each visit. -/
theorem run_noting (f : Visitor σ ε) (statement : Statement) (state : σ) (log : List (Visit ε)) :
    (noting f statement).run.run (state, log) =
      (((f statement).run.run state).1, ((f statement).run.run state).2,
        log ++ [⟨statement, ((f statement).run.run state).1⟩]) :=
  rfl

/-- The visits that were performed are the ones that were noted. -/
theorem Performed.noting {f : Visitor σ ε} {state last : σ} {visits : List (Visit ε)}
    (h : Performed f state visits last) (log : List (Visit ε)) :
    Performed (noting f) (state, log) visits (last, log ++ visits) := by
  induction h generalizing log with
  | nil state =>
      rw [List.append_nil]
      exact .nil (state, log)
  | @cons state next last argument outcome rest hcall hrest ih =>
      have hnoted : (CrateListing.noting f argument).run.run (state, log) =
          (outcome, next, log ++ [⟨argument, outcome⟩]) := by
        rw [run_noting, hcall]
      rw [List.append_cons]
      exact .cons hnoted (ih _)

/-- A walk over a statement calls the function for the statements of the tree in post-order, once
each, with what it returned for the statements inside, up to the first call that fails, and the
outcome is that of the last call. -/
theorem Statement.rebuildM_visits (f : Visitor σ ε) (statement : Statement) (state : σ) :
    ∃ before final last unvisited,
      (statement.rebuildM f).run.run state = (final.outcome, last) ∧
      (statement.rebuildM (noting f)).run.run (state, []) =
        (final.outcome, last, before ++ [final]) ∧
      Performed f state (before ++ [final]) last ∧
      Walk [statement] (before ++ [final]) (final.outcome.map ([·])) ∧
      (∀ visit ∈ before, Succeeds visit.outcome) ∧
      statement.postorder.map Statement.shell =
        (before ++ [final]).map (fun visit => visit.argument.shell) ++ unvisited ∧
      (Succeeds final.outcome → unvisited = []) := by
  obtain ⟨visits, outcome, last, hwalk, hperformed⟩ := walkable f [statement] state
  obtain ⟨before, final, rfl, rfl, hbefore⟩ := hwalk.exists_final
  obtain ⟨unvisited, hshells, hunvisited⟩ := hwalk.exists_unvisited
  refine ⟨before, final, last, unvisited, ?_, ?_, hperformed, hwalk, hbefore, ?_, ?_⟩
  · exact hwalk.run_rebuildM_single hperformed
  · exact hwalk.run_rebuildM_single (hperformed.noting [])
  · simpa using hshells
  · exact fun h => hunvisited ((succeeds_map _ _).2 h)

end CrateListing
