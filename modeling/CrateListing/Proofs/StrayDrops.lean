import CrateListing.Proofs.NeverDropPass

/-!
# Drops of undeclared variables

Below the debug level the pass fails for one reason only: a function drops a whole
variable that is not among its locals.  These drops are listed in the order of the
pass, functions in the order of the crate and leaves from left to right; the pass
fails with the error of the first one, which is placed at the function and, as far
as known, at the statement.

Main definitions:

- `Crate.strayDrops`: the drops of undeclared variables, in order.
- `StrayDrop.error`: the error of such a drop.

Main results:

- Theorem `Crate.mem_strayDrops_iff`: which drops are listed.
- Theorem `Crate.outcome_removeNeverDrops_eq_firstError`: the first one decides the pass.
-/

namespace CrateListing

open Outcome

/-- A drop of a whole variable that is not among the locals of its function. -/
structure StrayDrop where
  decl : FunDecl
  /-- Where the statement was written. -/
  span : Option Span
  /-- The variable. -/
  root : Int

/-- The error of a drop: at the function, and at the statement or else where the function was
written. -/
def StrayDrop.error (drop : StrayDrop) : InternalError :=
  ⟨.unknownLocal drop.root, some ⟨some drop.decl.name.joined, drop.span.or drop.decl.span⟩⟩

/-! ## The drops in order -/

/-- The variable that a leaf drops as a whole, unless it is among the locals. -/
def Leaf.strayRoot? (locals : List Local) (leaf : Leaf) : Option Int :=
  match leaf.action with
  | .drop ⟨root, []⟩ => if root ∈ locals.map Local.index then none else some root
  | _ => none

/-- The drop of an undeclared variable that a leaf of a function is, if it is one. -/
def Leaf.strayDrop? (decl : FunDecl) (locals : List Local) (leaf : Leaf) : Option StrayDrop :=
  (leaf.strayRoot? locals).map fun root => ⟨decl, leaf.span, root⟩

/-- The drops of undeclared variables in a function, from left to right. -/
def FunDecl.strayDrops (decl : FunDecl) : List StrayDrop :=
  match decl.body with
  | none => []
  | some body => body.statement.leaves.filterMap (Leaf.strayDrop? decl body.locals)

/-- The drops of undeclared variables in a crate, function by function. -/
def Crate.strayDrops (crate : Crate) : List StrayDrop :=
  crate.functions.values.flatMap FunDecl.strayDrops

/-- A leaf is stray exactly when it drops a whole local that is not there. -/
theorem Leaf.strayRoot?_eq_some_iff {locals : List Local} {leaf : Leaf} {root : Int} :
    leaf.strayRoot? locals = some root ↔
      leaf.action = .drop ⟨root, []⟩ ∧ root ∉ locals.map Local.index := by
  obtain ⟨span, action⟩ := leaf
  cases action with
  | drop place =>
      obtain ⟨other, path⟩ := place
      cases path with
      | cons step path => simp [Leaf.strayRoot?]
      | nil =>
          dsimp only [Leaf.strayRoot?]
          split_ifs with hlocal
          · constructor
            · intro h
              cases h
            · rintro ⟨hdrop, hroot⟩
              cases hdrop
              exact absurd hlocal hroot
          · constructor
            · intro h
              cases h
              exact ⟨rfl, hlocal⟩
            · rintro ⟨hdrop, _⟩
              cases hdrop
              rfl
  | _ => simp [Leaf.strayRoot?]

/-- The listed drops are those of whole variables that are not among the locals, at any depth of
the body of a function. -/
theorem Crate.mem_strayDrops_iff {crate : Crate} {drop : StrayDrop} :
    drop ∈ crate.strayDrops ↔
      drop.decl ∈ crate.functions.values ∧ ∃ body, drop.decl.body = some body ∧
        ⟨drop.span, .drop ⟨drop.root, []⟩⟩ ∈ body.statement.leaves ∧
          drop.root ∉ body.locals.map Local.index := by
  obtain ⟨decl, span, root⟩ := drop
  rw [Crate.strayDrops, List.mem_flatMap]
  constructor
  · rintro ⟨found, hfound, hdrop⟩
    unfold FunDecl.strayDrops at hdrop
    cases hbody : found.body with
    | none => simp [hbody] at hdrop
    | some body =>
        simp only [hbody, List.mem_filterMap] at hdrop
        obtain ⟨⟨leafSpan, action⟩, hleaf, hdrop⟩ := hdrop
        obtain ⟨leafRoot, hroot, hdrop⟩ := Option.map_eq_some_iff.1 hdrop
        obtain ⟨haction, hlocal⟩ := Leaf.strayRoot?_eq_some_iff.1 hroot
        cases hdrop
        cases haction
        exact ⟨hfound, body, hbody, hleaf, hlocal⟩
  · rintro ⟨hdecl, body, hbody, hleaf, hlocal⟩
    refine ⟨decl, hdecl, ?_⟩
    dsimp only at hbody
    simp only [FunDecl.strayDrops, hbody, List.mem_filterMap]
    have hroot : Leaf.strayRoot? body.locals ⟨span, .drop ⟨root, []⟩⟩ = some root :=
      Leaf.strayRoot?_eq_some_iff.2 ⟨rfl, hlocal⟩
    exact ⟨_, hleaf, Option.map_eq_some_iff.2 ⟨root, hroot, rfl⟩⟩

/-! ## The checks of the pass find these drops -/

/-- A local is found exactly when one has the index. -/
theorem isSome_localWith?_iff (locals : List Local) (root : Int) :
    (localWith? locals root).isSome ↔ root ∈ locals.map Local.index := by
  simp [localWith?]

/-- The error of the check knows the statement only; the function adds its name, and its own place
where the statement has none. -/
theorem locate_unknownLocal (root : Int) (span : Option Span) (decl : FunDecl) :
    InternalError.locate ⟨.unknownLocal root, some ⟨none, span⟩⟩ ⟨some decl.name.joined, decl.span⟩
      = StrayDrop.error ⟨decl, span, root⟩ := by
  simp [InternalError.locate, InternalError.refine?, InternalError.chooseName, nonEmpty?,
    StrayDrop.error]

/-- The check of a leaf fails when the leaf is a drop of an undeclared variable. -/
theorem checkDrop_eq_firstError (decl : FunDecl) (locals : List Local) (leaf : Leaf) :
    (checkDrop locals leaf).mapError
        (fun error => error.locate ⟨some decl.name.joined, decl.span⟩)
      = firstError ((leaf.strayDrop? decl locals).toList.map StrayDrop.error) := by
  obtain ⟨span, action⟩ := leaf
  cases action with
  | drop place =>
      obtain ⟨root, path⟩ := place
      cases path with
      | cons step path => rfl
      | nil =>
          have hfound := isSome_localWith?_iff locals root
          dsimp only [checkDrop, Leaf.strayDrop?, Leaf.strayRoot?]
          by_cases hlocal : root ∈ locals.map Local.index
          · rw [if_pos (hfound.2 hlocal), if_pos hlocal]
            rfl
          · rw [if_neg (mt hfound.1 hlocal), if_neg hlocal]
            exact congrArg Except.error (locate_unknownLocal root span decl)
  | _ => rfl

/-- The check of a function fails at its first drop of an undeclared variable. -/
theorem FunDecl.checkDrops_eq_firstError (decl : FunDecl) :
    decl.checkDrops = firstError (decl.strayDrops.map StrayDrop.error) := by
  unfold FunDecl.checkDrops FunDecl.strayDrops
  cases decl.body with
  | none => rfl
  | some body =>
      dsimp only
      rw [mapError_forM, forM_eq_firstError (checkDrop_eq_firstError decl body.locals),
        List.filterMap_eq_flatMap_toList, List.map_flatMap]

/-- Below the debug level the first drop of an undeclared variable decides the pass. -/
theorem Crate.outcome_removeNeverDrops_eq_firstError {options : Options}
    (hlevel : options.logLevel.admits .debug = false) (crate : Crate) :
    (crate.removeNeverDrops options).outcome = (do
      firstError (crate.strayDrops.map StrayDrop.error)
      return crate.withoutNeverDrops) := by
  have hchecks := forM_eq_firstError (fun entry : Int × FunDecl => entry.2.checkDrops_eq_firstError)
    crate.functions.entries
  rw [Crate.outcome_removeNeverDrops hlevel, hchecks, Crate.strayDrops, Table.values, Assoc.values,
    List.flatMap_map, List.map_flatMap]

/-! ## When the pass fails -/

/-- The error of a stray drop names the local. -/
theorem StrayDrop.message_error (drop : StrayDrop) :
    drop.error.fault.message
      = "[ICE-0010] unknown local variable id " ++ Text.decimal drop.root := by
  have hwords : ("[ICE-0010] unknown local variable" ++ " id " : Text)
      = "[ICE-0010] unknown local variable id " := by decide
  rw [StrayDrop.error, Fault.message, Fault.lookup, hwords]

/-- Below the debug level the pass fails exactly when the body of a function drops, at any depth, a
whole variable that is not among its locals.  The error is that of the first such drop: it names
the variable, the function, and where the statement was written, or else the function. -/
theorem Crate.removeNeverDrops_fails_iff {options : Options}
    (hlevel : options.logLevel.admits .debug = false) (crate : Crate) :
    ((∃ error, (crate.removeNeverDrops options).outcome = .error error) ↔
      ∃ decl ∈ crate.functions.values, ∃ body, decl.body = some body ∧
        ∃ leaf ∈ body.statement.leaves, ∃ root, leaf.action = .drop ⟨root, []⟩ ∧
          ∀ var ∈ body.locals, var.index ≠ root) ∧
    ∀ error, (crate.removeNeverDrops options).outcome = .error error →
      ∃ drop, crate.strayDrops.head? = some drop ∧
        error.fault = .unknownLocal drop.root ∧
        error.fault.message = "[ICE-0010] unknown local variable id " ++ Text.decimal drop.root ∧
        error.location
          = some ⟨some drop.decl.name.joined, drop.span.or drop.decl.span⟩ := by
  have hfirst (error : InternalError) : (crate.removeNeverDrops options).outcome = .error error ↔
      ∃ drop, crate.strayDrops.head? = some drop ∧ drop.error = error := by
    rw [Crate.outcome_removeNeverDrops_eq_firstError hlevel, bind_eq_error_iff]
    simp [pure_eq_ok]
  constructor
  · simp only [hfirst]
    constructor
    · rintro ⟨_, drop, hdrop, _⟩
      obtain ⟨hdecl, body, hbody, hleaf, hlocal⟩ :=
        Crate.mem_strayDrops_iff.1 (List.mem_of_head? hdrop)
      refine ⟨drop.decl, hdecl, body, hbody, _, hleaf, drop.root, rfl, ?_⟩
      intro var hvar hindex
      exact hlocal (List.mem_map.2 ⟨var, hvar, hindex⟩)
    · rintro ⟨decl, hdecl, body, hbody, ⟨span, _⟩, hleaf, root, rfl, hlocal⟩
      have hmem : ⟨decl, span, root⟩ ∈ crate.strayDrops := by
        refine Crate.mem_strayDrops_iff.2 ⟨hdecl, body, hbody, hleaf, fun hroot => ?_⟩
        obtain ⟨var, hvar, hindex⟩ := List.mem_map.1 hroot
        exact hlocal var hvar hindex
      obtain ⟨drop, hdrop⟩ := Option.isSome_iff_exists.1
        (List.isSome_head?.2 (List.ne_nil_of_mem hmem))
      exact ⟨drop.error, drop, hdrop, rfl⟩
  · intro error herror
    obtain ⟨drop, hdrop, rfl⟩ := (hfirst error).1 herror
    exact ⟨drop, hdrop, rfl, drop.message_error, rfl⟩

/-- A function that drops, in a loop, a part of a variable that is not among its locals, and then
another such variable as a whole.  Only the function knows where it was written. -/
def Crate.droppingStrays : Crate :=
  Crate.ofDeclarations none [] []
    [⟨0, ["demo", "outside"], ⟨[], .never, [], []⟩, none, none⟩,
      ⟨1, ["demo", "inside"], ⟨[], .bool, [], []⟩,
        some ⟨0, [⟨0, none, .bool⟩], .mk none (.loop (.mk none (.sequence
          (.mk none (.action (.drop ⟨3, [.deref]⟩))) (.mk none (.action (.drop ⟨5, []⟩))))))⟩,
        some ⟨4, 1, 9, 2, some "demo.rs"⟩⟩]

/-- The variable that is dropped as a whole ends the pass, and the error is placed at the
function. -/
theorem Crate.removeNeverDrops_droppingStrays :
    ∃ error, (Crate.droppingStrays.removeNeverDrops {}).outcome = .error error ∧
      error.fault.message = "[ICE-0010] unknown local variable id 5" ∧
      error.location = some ⟨some "demo::inside", some ⟨4, 1, 9, 2, some "demo.rs"⟩⟩ := by
  have hfails := @Crate.removeNeverDrops_fails_iff {} rfl Crate.droppingStrays
  obtain ⟨error, herror⟩ := hfails.1.2 ⟨_, List.mem_cons_of_mem _ List.mem_cons_self, _, rfl, _,
    List.mem_cons_of_mem _ List.mem_cons_self, 5, rfl, by decide⟩
  obtain ⟨drop, hdrop, -, hmessage, hlocation⟩ := hfails.2 error herror
  cases hdrop
  exact ⟨error, herror, hmessage, hlocation⟩

end CrateListing
