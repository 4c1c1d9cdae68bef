import CrateListing.NeverDrop
import CrateListing.Proofs.Leaves
import CrateListing.Proofs.Outcome
import CrateListing.Proofs.Tables

/-!
# The pass that removes drops of variables of type `!`

A walk that changes nothing but leaves is a check of the leaves, from left to
right, followed by a change of every leaf.  The pass is such a walk in every
function: it checks that dropped variables are declared, and replaces the drops
of variables of type `!`.

Main definitions:

- `dropsNever`: the actions that are replaced.
- `FunDecl.withoutNeverDrops`: a function without them.

Main results:

- Theorem `Statement.rebuildM_eq_mapActions`: a walk that changes nothing but leaves.
- Theorem `NeverDrop.rebuildM_discard`: what the pass does to a statement.
- Theorem `Crate.outcome_removeNeverDrops`: the crate that the pass gives.
-/

namespace CrateListing

open Outcome

/-! ## Walks that change nothing but leaves -/

section Walks

variable {m : Type → Type} [Monad m]

/-- A step that checks and changes leaves and lets all other statements pass. -/
structure ChangesLeaves (f : Statement → m Statement) (check : Leaf → m Unit)
    (change : Action → Action) : Prop where
  leaf : ∀ span action, f (.mk span (.action action)) = (do
    check ⟨span, action⟩
    return .mk span (.action (change action)))
  other : ∀ span content, (∀ action, content ≠ .action action) →
    f (.mk span content) = pure (.mk span content)

variable [LawfulMonad m] {f : Statement → m Statement} {check : Leaf → m Unit}
  {change : Action → Action}

mutual
/-- A walk that changes nothing but leaves checks the leaves from left to right and changes every
leaf. -/
theorem Statement.rebuildM_eq_mapActions (h : ChangesLeaves f check change) :
    (statement : Statement) →
    statement.rebuildM f = (do
      statement.leaves.forM check
      return statement.mapActions change)
  | .mk span (.action action) => by
      simp [Statement.rebuildM, Content.rebuildM, Statement.leaves, Content.leaves,
        Statement.mapActions, Content.mapActions, h.leaf]
  | .mk span (.sequence first second) => by
      simp [Statement.rebuildM, Content.rebuildM, Statement.leaves, Content.leaves,
        Statement.mapActions, Content.mapActions, h.other,
        Statement.rebuildM_eq_mapActions h first, Statement.rebuildM_eq_mapActions h second]
  | .mk span (.switch switch) => by
      simp [Statement.rebuildM, Content.rebuildM, Statement.leaves, Content.leaves,
        Statement.mapActions, Content.mapActions, h.other, Switch.rebuildM_eq_mapActions h switch]
  | .mk span (.loop body) => by
      simp [Statement.rebuildM, Content.rebuildM, Statement.leaves, Content.leaves,
        Statement.mapActions, Content.mapActions, h.other, Statement.rebuildM_eq_mapActions h body]

/-- A switch is rebuilt by checking its leaves and changing them. -/
theorem Switch.rebuildM_eq_mapActions (h : ChangesLeaves f check change) : (switch : Switch) →
    switch.rebuildM f = (do
      switch.leaves.forM check
      return switch.mapActions change)
  | .branch condition onTrue onFalse => by
      simp [Switch.rebuildM, Switch.leaves, Switch.mapActions,
        Statement.rebuildM_eq_mapActions h onTrue, Statement.rebuildM_eq_mapActions h onFalse]
  | .integer operand type branches otherwise => by
      simp [Switch.rebuildM, Switch.leaves, Switch.mapActions,
        Switch.rebuildIntegerBranches_eq h branches, Statement.rebuildM_eq_mapActions h otherwise]
  | .variant place branches otherwise => by
      simp [Switch.rebuildM, Switch.leaves, Switch.mapActions,
        Switch.rebuildVariantBranches_eq h branches, Statement.rebuildM_eq_mapActions h otherwise]

/-- Clauses on integers are rebuilt by checking their leaves and changing them. -/
theorem Switch.rebuildIntegerBranches_eq (h : ChangesLeaves f check change) :
    (branches : List (List Scalar × Statement)) →
    Switch.rebuildIntegerBranches f branches = (do
      (Switch.integerLeaves branches).forM check
      return Switch.mapIntegerBranches change branches)
  | [] => by simp [Switch.rebuildIntegerBranches, Switch.integerLeaves, Switch.mapIntegerBranches]
  | (labels, body) :: rest => by
      simp [Switch.rebuildIntegerBranches, Switch.integerLeaves, Switch.mapIntegerBranches,
        Statement.rebuildM_eq_mapActions h body, Switch.rebuildIntegerBranches_eq h rest]

/-- Clauses on variants are rebuilt by checking their leaves and changing them. -/
theorem Switch.rebuildVariantBranches_eq (h : ChangesLeaves f check change) :
    (branches : List (List Int × Statement)) →
    Switch.rebuildVariantBranches f branches = (do
      (Switch.variantLeaves branches).forM check
      return Switch.mapVariantBranches change branches)
  | [] => by simp [Switch.rebuildVariantBranches, Switch.variantLeaves, Switch.mapVariantBranches]
  | (labels, body) :: rest => by
      simp [Switch.rebuildVariantBranches, Switch.variantLeaves, Switch.mapVariantBranches,
        Statement.rebuildM_eq_mapActions h body, Switch.rebuildVariantBranches_eq h rest]
end

end Walks

/-! ## What is replaced and what is checked -/

/-- The local with an index; of several the last one counts. -/
def localWith? (locals : List Local) (index : Int) : Option Local :=
  locals.reverse.find? fun var => decide (var.index = index)

/-- Whether an action drops a whole variable of type `!`. -/
def dropsNever (locals : List Local) : Action → Bool
  | .drop ⟨root, []⟩ => (localWith? locals root).any fun var => var.type.isNever
  | _ => false

/-- A drop of a whole variable of type `!` does nothing. -/
def withoutNeverDrop (locals : List Local) (action : Action) : Action :=
  if dropsNever locals action then .nop else action

/-- A variable that is dropped as a whole has to be declared. -/
def checkDrop (locals : List Local) (leaf : Leaf) : Except InternalError Unit :=
  match leaf.action with
  | .drop ⟨root, []⟩ =>
      if (localWith? locals root).isSome then .ok ()
      else .error ⟨.unknownLocal root, some ⟨none, leaf.span⟩⟩
  | _ => .ok ()

/-- The body without drops of variables of type `!`. -/
def Body.withoutNeverDrops (body : Body) : Body :=
  { body with statement := body.statement.mapActions (withoutNeverDrop body.locals) }

/-- The function without drops of variables of type `!`. -/
def FunDecl.withoutNeverDrops (decl : FunDecl) : FunDecl :=
  { decl with body := decl.body.map Body.withoutNeverDrops }

/-- The crate without drops of variables of type `!`. -/
def Crate.withoutNeverDrops (crate : Crate) : Crate :=
  { crate with functions := crate.functions.mapValues FunDecl.withoutNeverDrops }

/-- Every variable that a function drops as a whole has to be declared. -/
def FunDecl.checkDrops (decl : FunDecl) : Except InternalError Unit :=
  match decl.body with
  | none => .ok ()
  | some body =>
      (body.statement.leaves.forM (checkDrop body.locals)).mapError fun error =>
        error.locate ⟨some decl.name.joined, decl.span⟩

/-! ## The pass is a check and a replacement -/

/-- The pass checks each leaf on its own and changes nothing else. -/
theorem NeverDrop.changesLeaves (locals : List Local) :
    ChangesLeaves (NeverDrop.discard (Table.ofItems Local.index locals)) (checkDrop locals)
      (withoutNeverDrop locals) where
  leaf := by
    intro span action
    cases action with
    | drop place =>
        obtain ⟨root, path⟩ := place
        cases path with
        | cons step path => rfl
        | nil =>
            have hfind := Table.find?_ofItems Local.index locals root
            rw [← localWith?.eq_1] at hfind
            cases hvar : localWith? locals root with
            | none =>
                simp [NeverDrop.discard, NeverDrop.isNeverDrop, checkDrop, hfind, hvar]
            | some var =>
                cases hnever : var.type.isNever <;>
                  simp [NeverDrop.discard, NeverDrop.isNeverDrop, checkDrop, withoutNeverDrop,
                    dropsNever, Statement.span, hfind, hvar, hnever, pure_eq_ok]
    | _ => rfl
  other := by
    intro span content hcontent
    cases content with
    | action action => exact absurd rfl (hcontent action)
    | _ => rfl

/-- The pass checks the leaves of a statement and replaces those that drop a variable of type
`!`. -/
theorem NeverDrop.rebuildM_discard (locals : List Local) (statement : Statement) :
    statement.rebuildM (NeverDrop.discard (Table.ofItems Local.index locals)) = (do
      statement.leaves.forM (checkDrop locals)
      return statement.mapActions (withoutNeverDrop locals)) :=
  Statement.rebuildM_eq_mapActions (NeverDrop.changesLeaves locals) statement

section Steps

variable {crate : Crate} {options : Options} {check : FunDecl → Except InternalError Unit}
  (hstep : ∀ decl, (NeverDrop.inFunction crate options decl).outcome = (do
    check decl
    return decl.withoutNeverDrops))

include hstep

/-- What the pass does with each function, it does with the functions in order. -/
theorem NeverDrop.outcome_inFunctions (entries : List (Int × FunDecl)) :
    (NeverDrop.inFunctions crate options entries).outcome = (do
      entries.forM fun entry => check entry.2
      return entries.map fun entry => (entry.1, entry.2.withoutNeverDrops)) := by
  induction entries with
  | nil => rfl
  | cons entry rest ih =>
      obtain ⟨id, decl⟩ := entry
      simp only [NeverDrop.inFunctions, Logged.outcome_bind, Logged.outcome_pure, hstep decl, ih,
        bind_assoc, pure_bind]
      exact (bind_assoc _ _ _).symm

/-- The pass checks all functions and gives the crate without drops of variables of type `!`. -/
theorem Crate.outcome_removeNeverDrops_of_step :
    (crate.removeNeverDrops options).outcome = (do
      crate.functions.entries.forM fun entry => check entry.2
      return crate.withoutNeverDrops) := by
  have hfunctions := NeverDrop.outcome_inFunctions hstep crate.functions.entries
  simp only [Crate.removeNeverDrops, Logged.outcome_bind, Logged.outcome_pure, hfunctions,
    bind_assoc, pure_bind, Table.ofEntries_map]
  rfl

end Steps

section Pass

variable {options : Options} (hlevel : options.logLevel.admits .debug = false)

include hlevel

/-- The pass on a function checks its drops and gives the function without them. -/
theorem NeverDrop.outcome_inFunction (crate : Crate) (decl : FunDecl) :
    (NeverDrop.inFunction crate options decl).outcome = (do
      decl.checkDrops
      return decl.withoutNeverDrops) := by
  obtain ⟨id, name, signature, body, span⟩ := decl
  cases body with
  | none => rfl
  | some body =>
      have hwalk := NeverDrop.rebuildM_discard body.locals body.statement
      have hbody : (NeverDrop.inBody crate options ⟨id, name, signature, some body, span⟩
          body).outcome = (do
            let statement ← body.statement.rebuildM
              (NeverDrop.discard (Table.ofItems Local.index body.locals))
            return ⟨id, name, signature, some { body with statement := statement }, span⟩) := by
        simp only [NeverDrop.inBody, hlevel]
        exact Logged.outcome_bind _ _
      simp only [NeverDrop.inFunction, Logged.mapError, hbody, hwalk, FunDecl.checkDrops]
      cases body.statement.leaves.forM (checkDrop body.locals) <;> rfl

/-- When no bodies are shown, only drops are checked. -/
theorem Crate.outcome_removeNeverDrops (crate : Crate) :
    (crate.removeNeverDrops options).outcome = (do
      crate.functions.entries.forM fun entry => entry.2.checkDrops
      return crate.withoutNeverDrops) :=
  Crate.outcome_removeNeverDrops_of_step (NeverDrop.outcome_inFunction hlevel crate)

end Pass

/-! ## What is left after the pass -/

/-- A rewritten statement drops nothing of type never. -/
theorem dropsNever_withoutNeverDrop (locals : List Local) (action : Action) :
    dropsNever locals (withoutNeverDrop locals action) = false := by
  rw [withoutNeverDrop]
  split_ifs with haction
  · rfl
  · simpa using haction

/-- A leaf that passes the check passes it again when it was rewritten. -/
theorem checkDrop_mapAction {locals : List Local} {leaf : Leaf}
    (h : checkDrop locals leaf = .ok ()) :
    checkDrop locals (leaf.mapAction (withoutNeverDrop locals)) = .ok () := by
  obtain ⟨span, action⟩ := leaf
  rw [Leaf.mapAction, withoutNeverDrop]
  split_ifs
  · rfl
  · exact h

/-- No drop of a variable of type `!` is left in a body. -/
theorem Body.dropsNever_withoutNeverDrops (body : Body) {leaf : Leaf}
    (hleaf : leaf ∈ body.withoutNeverDrops.statement.leaves) :
    dropsNever body.withoutNeverDrops.locals leaf.action = false := by
  rw [Body.withoutNeverDrops, Statement.leaves_mapActions] at hleaf
  obtain ⟨old, _, rfl⟩ := List.mem_map.1 hleaf
  exact dropsNever_withoutNeverDrop body.locals old.action

/-- A body without such drops stays as it is. -/
theorem Body.withoutNeverDrops_eq_self {body : Body}
    (h : ∀ leaf ∈ body.statement.leaves, dropsNever body.locals leaf.action = false) :
    body.withoutNeverDrops = body := by
  have hkept : ∀ leaf ∈ body.statement.leaves,
      withoutNeverDrop body.locals leaf.action = leaf.action := by
    intro leaf hleaf
    rw [withoutNeverDrop, h leaf hleaf]
    rfl
  rw [Body.withoutNeverDrops, Statement.mapActions_eq_self body.statement hkept]

/-- A function without such drops stays as it is. -/
theorem FunDecl.withoutNeverDrops_eq_self {decl : FunDecl}
    (h : ∀ body, decl.body = some body →
      ∀ leaf ∈ body.statement.leaves, dropsNever body.locals leaf.action = false) :
    decl.withoutNeverDrops = decl := by
  obtain ⟨id, name, signature, body, span⟩ := decl
  cases body with
  | none => rfl
  | some body =>
      have hbody := Body.withoutNeverDrops_eq_self (h body rfl)
      simp [FunDecl.withoutNeverDrops, hbody]

/-- Nowhere in a crate is a variable of type `!` dropped. -/
def Crate.NeverDropFree (crate : Crate) : Prop :=
  ∀ decl ∈ crate.functions.values, ∀ body, decl.body = some body →
    ∀ leaf ∈ body.statement.leaves, dropsNever body.locals leaf.action = false

/-- A crate without such drops stays as it is. -/
theorem Crate.withoutNeverDrops_eq_self {crate : Crate} (h : crate.NeverDropFree) :
    crate.withoutNeverDrops = crate := by
  have hfunctions : crate.functions.mapValues FunDecl.withoutNeverDrops = crate.functions := by
    refine Table.mapValues_eq_self fun entry hentry => ?_
    exact FunDecl.withoutNeverDrops_eq_self (h entry.2 (List.mem_map_of_mem hentry))
  rw [Crate.withoutNeverDrops, hfunctions]

/-- A rewritten crate has no such drops. -/
theorem Crate.neverDropFree_withoutNeverDrops (crate : Crate) :
    crate.withoutNeverDrops.NeverDropFree := by
  intro decl hdecl body hbody leaf hleaf
  obtain ⟨entry, hentry, rfl⟩ := List.mem_map.1 hdecl
  obtain ⟨old, _, rfl⟩ := List.mem_map.1 hentry
  obtain ⟨oldBody, _, rfl⟩ := Option.map_eq_some_iff.1 hbody
  exact Body.dropsNever_withoutNeverDrops oldBody hleaf

/-! ## The checks after the pass -/

/-- A function passes the check when each of its leaves does. -/
theorem FunDecl.checkDrops_eq_ok_iff (decl : FunDecl) :
    decl.checkDrops = .ok () ↔
      ∀ body, decl.body = some body →
        ∀ leaf ∈ body.statement.leaves, checkDrop body.locals leaf = .ok () := by
  rw [FunDecl.checkDrops]
  cases decl.body with
  | none => simp
  | some body =>
      rw [mapError_eq_ok_iff, forM_eq_ok_iff]
      simp

/-- The new function passes the checks that the old one passed. -/
theorem FunDecl.checkDrops_withoutNeverDrops {decl : FunDecl} (h : decl.checkDrops = .ok ()) :
    decl.withoutNeverDrops.checkDrops = .ok () := by
  rw [FunDecl.checkDrops_eq_ok_iff] at h ⊢
  intro body hbody leaf hleaf
  obtain ⟨old, hold, rfl⟩ := Option.map_eq_some_iff.1 hbody
  rw [Body.withoutNeverDrops, Statement.leaves_mapActions] at hleaf
  obtain ⟨oldLeaf, holdLeaf, rfl⟩ := List.mem_map.1 hleaf
  exact checkDrop_mapAction (h old hold oldLeaf holdLeaf)

/-! ## The pass on a crate -/

/-- The pass gives the crate in which exactly the drops of whole variables of type `!` are
replaced by `nop`.  None of them is left, a crate without them stays as it is, and a second pass
changes nothing. -/
theorem Crate.removeNeverDrops_spec {crate result : Crate} {options : Options}
    (hlevel : options.logLevel.admits .debug = false)
    (h : (crate.removeNeverDrops options).outcome = .ok result) :
    result.name = crate.name ∧ result.types = crate.types ∧ result.globals = crate.globals ∧
    result.functions.entries
      = (crate.functions.entries.map fun entry => (entry.1, entry.2.withoutNeverDrops)) ∧
    result.NeverDropFree ∧ (crate.NeverDropFree → result = crate) ∧
    (result.removeNeverDrops options).outcome = .ok result := by
  rw [Crate.outcome_removeNeverDrops hlevel] at h
  obtain ⟨⟨⟩, hchecks, hresult⟩ := bind_eq_ok_iff.1 h
  cases hresult
  refine ⟨rfl, rfl, rfl, rfl, Crate.neverDropFree_withoutNeverDrops crate,
    Crate.withoutNeverDrops_eq_self, ?_⟩
  have hagain := Crate.withoutNeverDrops_eq_self (Crate.neverDropFree_withoutNeverDrops crate)
  have hpassed : (crate.withoutNeverDrops.functions.entries.forM fun entry => entry.2.checkDrops)
      = .ok () := by
    rw [forM_eq_ok_iff] at hchecks ⊢
    intro entry hentry
    obtain ⟨old, hold, rfl⟩ := List.mem_map.1 hentry
    exact FunDecl.checkDrops_withoutNeverDrops (hchecks old hold)
  rw [Crate.outcome_removeNeverDrops hlevel, hpassed, ok_bind, hagain]
  rfl

/-- A function that drops its only local, which is of type `!`, is left with a `nop`. -/
theorem Crate.removeNeverDrops_of_one_drop :
    ∃ result, ((Crate.ofDeclarations none [] [] [⟨0, ["f"], ⟨[], .never, [], []⟩,
        some ⟨0, [⟨0, none, .never⟩], .mk none (.action (.drop ⟨0, []⟩))⟩, none⟩]).removeNeverDrops
          {}).outcome = .ok result ∧
      result.NeverDropFree ∧ (result.removeNeverDrops {}).outcome = .ok result := by
  refine Exists.imp (fun result hresult => ⟨hresult, ?_⟩) ⟨_, rfl⟩
  have hspec := Crate.removeNeverDrops_spec rfl hresult
  exact ⟨hspec.2.2.2.2.1, hspec.2.2.2.2.2.2⟩

end CrateListing
