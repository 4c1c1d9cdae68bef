import CrateListing.Proofs.NeverDropPass
import CrateListing.Proofs.Resolution

/-!
# The pass at different log levels

Below the debug level the pass checks that dropped variables are declared, and
nothing else.  At the debug level it shows every body first, which looks up all
that the body refers to.  A body that can be shown has no drop of an undeclared
variable, so there the text of the bodies is the only check that counts.

Main definitions:

- `Crate.checkDrops`, `Crate.checkShown`: the checks of the pass below and at the debug level.
- `Crate.BodiesResolve`: everything that a body refers to is declared.

Main results:

- Theorem `FunDecl.checkDrops_of_checkShown`: a body that can be shown drops declared variables.
- Theorem `Crate.outcome_removeNeverDrops_of_debug`: the pass at the debug level.
- Theorem `Crate.removeNeverDrops_agree_iff`: when two log levels give the same outcome.
-/

namespace CrateListing

open Outcome

/-! ## What the leaves of a statement refer to -/

mutual
/-- A statement refers to whatever one of its leaves refers to. -/
theorem Statement.mem_references_of_leaf {leaf : Leaf} {reference : Reference}
    (hreference : reference ∈ leaf.action.references) :
    (statement : Statement) → leaf ∈ statement.leaves → reference ∈ statement.references
  | .mk _ content, hleaf => Content.mem_references_of_leaf hreference content hleaf

/-- What a leaf refers to is referred to by the content it is in. -/
theorem Content.mem_references_of_leaf {leaf : Leaf} {reference : Reference}
    (hreference : reference ∈ leaf.action.references) {span : Option Span} :
    (content : Content) → leaf ∈ content.leaves span → reference ∈ content.references
  | .action action, hleaf => by
      rw [Content.leaves, List.mem_singleton] at hleaf
      rwa [hleaf] at hreference
  | .sequence first second, hleaf => by
      rw [Content.references, List.mem_append]
      rw [Content.leaves, List.mem_append] at hleaf
      exact hleaf.imp (Statement.mem_references_of_leaf hreference first)
        (Statement.mem_references_of_leaf hreference second)
  | .switch switch, hleaf => Switch.mem_references_of_leaf hreference switch hleaf
  | .loop body, hleaf => Statement.mem_references_of_leaf hreference body hleaf

/-- What a leaf refers to is referred to by the switch it is in. -/
theorem Switch.mem_references_of_leaf {leaf : Leaf} {reference : Reference}
    (hreference : reference ∈ leaf.action.references) :
    (switch : Switch) → leaf ∈ switch.leaves → reference ∈ switch.references
  | .branch condition onTrue onFalse, hleaf => by
      rw [Switch.references, List.mem_append, List.mem_append]
      rw [Switch.leaves, List.mem_append] at hleaf
      exact Or.inr (hleaf.imp (Statement.mem_references_of_leaf hreference onTrue)
        (Statement.mem_references_of_leaf hreference onFalse))
  | .integer operand type branches otherwise, hleaf => by
      rw [Switch.references, List.mem_append, List.mem_append]
      rw [Switch.leaves, List.mem_append] at hleaf
      exact Or.inr (hleaf.imp (Switch.mem_integerReferences_of_leaf hreference branches)
        (Statement.mem_references_of_leaf hreference otherwise))
  | .variant place branches otherwise, hleaf => by
      rw [Switch.references, List.mem_append, List.mem_append]
      rw [Switch.leaves, List.mem_append] at hleaf
      exact Or.inr (hleaf.imp (Switch.mem_variantReferences_of_leaf hreference branches)
        (Statement.mem_references_of_leaf hreference otherwise))

/-- What a leaf refers to is referred to by the clauses on integers it is in. -/
theorem Switch.mem_integerReferences_of_leaf {leaf : Leaf} {reference : Reference}
    (hreference : reference ∈ leaf.action.references) :
    (branches : List (List Scalar × Statement)) → leaf ∈ Switch.integerLeaves branches →
      reference ∈ Switch.integerReferences branches
  | [], hleaf => absurd hleaf List.not_mem_nil
  | (labels, body) :: rest, hleaf => by
      rw [Switch.integerReferences, List.mem_append]
      rw [Switch.integerLeaves, List.mem_append] at hleaf
      exact hleaf.imp (Statement.mem_references_of_leaf hreference body)
        (Switch.mem_integerReferences_of_leaf hreference rest)

/-- What a leaf refers to is referred to by the clauses on variants it is in. -/
theorem Switch.mem_variantReferences_of_leaf {leaf : Leaf} {reference : Reference}
    (hreference : reference ∈ leaf.action.references) :
    (branches : List (List Int × Statement)) → leaf ∈ Switch.variantLeaves branches →
      reference ∈ Switch.variantReferences branches
  | [], hleaf => absurd hleaf List.not_mem_nil
  | (labels, body) :: rest, hleaf => by
      rw [Switch.variantReferences, List.mem_append]
      rw [Switch.variantLeaves, List.mem_append] at hleaf
      exact hleaf.imp (Statement.mem_references_of_leaf hreference body)
        (Switch.mem_variantReferences_of_leaf hreference rest)
end

/-! ## The checks of the pass -/

/-- The body of a function has to be shown in the scope of the function. -/
def FunDecl.checkShown (crate : Crate) (step : Text) (decl : FunDecl) :
    Except InternalError Unit :=
  match decl.body with
  | none => .ok ()
  | some body =>
      ((body.statement.render (Scope.ofFunction crate decl) step "").map fun _ => ()).mapError
        fun error => error.locate ⟨some decl.name.joined, decl.span⟩

/-- The check of the pass below the debug level: dropped variables are declared. -/
def Crate.checkDrops (crate : Crate) : Except InternalError Unit :=
  crate.functions.entries.forM fun entry => entry.2.checkDrops

/-- The check of the pass at the debug level: bodies can be shown. -/
def Crate.checkShown (crate : Crate) (step : Text) : Except InternalError Unit :=
  crate.functions.entries.forM fun entry => entry.2.checkShown crate step

/-- Everything that the body of a function refers to is declared. -/
def Crate.BodiesResolve (crate : Crate) : Prop :=
  ∀ decl ∈ crate.functions.values, ∀ body, decl.body = some body →
    (Scope.ofFunction crate decl).ResolvesAll body.statement.references

/-- A function can be shown before the pass when all names in its body are found. -/
theorem FunDecl.checkShown_eq_ok_iff (crate : Crate) (step : Text) (decl : FunDecl) :
    decl.checkShown crate step = .ok () ↔
      ∀ body, decl.body = some body →
        (Scope.ofFunction crate decl).ResolvesAll body.statement.references := by
  rw [FunDecl.checkShown]
  cases decl.body with
  | none => simp
  | some body =>
      rw [mapError_eq_ok_iff, map_eq_ok_iff]
      simp [← Statement.succeeds_render_iff _ step "", Succeeds]

/-- A crate can be shown before the pass when all names in its bodies are found. -/
theorem Crate.checkShown_eq_ok_iff (crate : Crate) (step : Text) :
    crate.checkShown step = .ok () ↔ crate.BodiesResolve := by
  rw [Crate.checkShown, forM_eq_ok_iff, Crate.BodiesResolve, Table.values, Assoc.values,
    List.forall_mem_map]
  simp only [FunDecl.checkShown_eq_ok_iff]

/-- A body that can be shown drops declared variables only. -/
theorem FunDecl.checkDrops_of_checkShown (crate : Crate) (step : Text) (decl : FunDecl)
    (h : decl.checkShown crate step = .ok ()) : decl.checkDrops = .ok () := by
  rw [FunDecl.checkShown_eq_ok_iff] at h
  rw [FunDecl.checkDrops_eq_ok_iff]
  intro body hbody leaf hleaf
  have hresolves := h body hbody
  unfold checkDrop
  split
  · rename_i root haction
    have hreference : Reference.localVar root ∈ leaf.action.references := by
      simp [haction, Action.references, Place.references]
    have hlocal : (Scope.ofFunction crate decl).Resolves (.localVar root) :=
      hresolves _ (Statement.mem_references_of_leaf hreference body.statement hleaf)
    have hfound : (localWith? body.locals root).isSome := by
      rw [Scope.Resolves, Reference.Declared, ← Table.exists_find?_iff] at hlocal
      obtain ⟨var, hvar⟩ := hlocal
      simp only [Scope.ofFunction, Scope.localsOf, hbody, Table.find?_ofItems] at hvar
      rw [localWith?, hvar]
      rfl
    rw [if_pos hfound]
  · rfl

/-! ## The pass at the debug level -/

/-- The message with a body is there when the body can be shown. -/
theorem NeverDrop.outcome_announce (crate : Crate) (options : Options) (decl : FunDecl)
    (body : Body) :
    (NeverDrop.announce crate options decl body).outcome
      = (body.statement.render (Scope.ofFunction crate decl) options.indentStep "").map
          fun _ => () := by
  rw [NeverDrop.announce, Logged.outcome_bind]
  cases h : body.statement.render (Scope.ofFunction crate decl) options.indentStep "" <;>
    simp [Logged.ofExcept, Logged.note, Logged.emit, Except.map]

section Debug

variable {options : Options} (hlevel : options.logLevel.admits .debug = true)

include hlevel

/-- At the debug level a body is shown before it is rewritten. -/
theorem NeverDrop.outcome_inBody_of_debug (crate : Crate) (decl : FunDecl) (body : Body) :
    (NeverDrop.inBody crate options decl body).outcome = (do
      (body.statement.render (Scope.ofFunction crate decl) options.indentStep "").map fun _ => ()
      body.statement.leaves.forM (checkDrop body.locals)
      return { decl with body := some body.withoutNeverDrops }) := by
  simp only [NeverDrop.inBody, hlevel, if_true, Logged.outcome_bind, NeverDrop.outcome_announce,
    Logged.ofExcept, NeverDrop.rebuildM_discard, Logged.outcome_pure, bind_assoc, pure_bind]
  rfl

/-- At the debug level a function is rewritten exactly when its body can be shown. -/
theorem NeverDrop.outcome_inFunction_of_debug (crate : Crate) (decl : FunDecl) :
    (NeverDrop.inFunction crate options decl).outcome = (do
      decl.checkShown crate options.indentStep
      return decl.withoutNeverDrops) := by
  obtain ⟨id, name, signature, body, span⟩ := decl
  cases body with
  | none => rfl
  | some body =>
      have hdrops := FunDecl.checkDrops_of_checkShown crate options.indentStep
        ⟨id, name, signature, some body, span⟩
      simp only [FunDecl.checkDrops, FunDecl.checkShown, mapError_eq_ok_iff] at hdrops
      simp only [NeverDrop.inFunction, Logged.mapError, FunDecl.checkShown,
        NeverDrop.outcome_inBody_of_debug hlevel]
      cases hshown : body.statement.render
          (Scope.ofFunction crate ⟨id, name, signature, some body, span⟩) options.indentStep "" with
      | error error => rfl
      | ok text =>
          -- The checks of the drops are passed, as the body is shown.
          rw [hshown] at hdrops
          rw [hdrops rfl]
          rfl

/-- The pass at the debug level: bodies are checked by showing them. -/
theorem Crate.outcome_removeNeverDrops_of_debug (crate : Crate) :
    (crate.removeNeverDrops options).outcome = (do
      crate.checkShown options.indentStep
      return crate.withoutNeverDrops) :=
  Crate.outcome_removeNeverDrops_of_step (NeverDrop.outcome_inFunction_of_debug hlevel crate)

end Debug

/-! ## Two log levels -/

/-- A body with a drop of an undeclared variable cannot be shown. -/
theorem Crate.checkDrops_of_checkShown {crate : Crate} {step : Text}
    (h : crate.checkShown step = .ok ()) : crate.checkDrops = .ok () := by
  rw [Crate.checkShown, forM_eq_ok_iff] at h
  rw [Crate.checkDrops, forM_eq_ok_iff]
  intro entry hentry
  exact FunDecl.checkDrops_of_checkShown crate step entry.2 (h entry hentry)

/-- The options with another log. -/
def Options.withLog (options : Options) (level : Level) (stamped : Bool) : Options :=
  { options with logLevel := level, stampedLog := stamped }

/-- The check of the pass at a log level. -/
def Crate.passCheck (crate : Crate) (options : Options) : Except InternalError Unit :=
  if options.logLevel.admits .debug then crate.checkShown options.indentStep else crate.checkDrops

/-- The pass checks the crate and then gives it without such drops. -/
theorem Crate.outcome_removeNeverDrops_eq (crate : Crate) (options : Options) :
    (crate.removeNeverDrops options).outcome = (do
      crate.passCheck options
      return crate.withoutNeverDrops) := by
  rw [Crate.passCheck]
  split_ifs with hlevel
  · exact Crate.outcome_removeNeverDrops_of_debug hlevel crate
  · exact Crate.outcome_removeNeverDrops (by simpa using hlevel) crate

/-- Two logs give the same outcome of the pass exactly when both or none of them show bodies, or
when the first body that cannot be shown and the first drop of an undeclared variable are the same
error.  When the log shows bodies, a pass that would succeed fails exactly when something that a
body refers to is not declared, and a pass that would fail still fails. -/
theorem Crate.removeNeverDrops_agree_iff (crate : Crate) (options : Options) (level : Level)
    (stamped : Bool) :
    ((crate.removeNeverDrops (options.withLog level stamped)).outcome
        = (crate.removeNeverDrops options).outcome ↔
      level.admits .debug = options.logLevel.admits .debug ∨
        crate.checkShown options.indentStep = crate.checkDrops) ∧
    (options.logLevel.admits .debug = false → level.admits .debug = true →
      (∀ result, (crate.removeNeverDrops options).outcome = .ok result →
        ((crate.removeNeverDrops (options.withLog level stamped)).outcome = .ok result ↔
          crate.BodiesResolve)) ∧
      ∀ error, (crate.removeNeverDrops options).outcome = .error error →
        ∃ other, (crate.removeNeverDrops (options.withLog level stamped)).outcome
          = .error other) := by
  have hother : (options.withLog level stamped).logLevel = level := rfl
  have hstep : (options.withLog level stamped).indentStep = options.indentStep := rfl
  simp only [Crate.outcome_removeNeverDrops_eq, Crate.passCheck, hother, hstep]
  refine ⟨?_, fun hquiet hdebug => ⟨fun result hresult => ?_, fun error herror => ?_⟩⟩
  · rw [check_bind_inj]
    cases level.admits .debug <;> cases options.logLevel.admits .debug <;> simp [eq_comm]
  · rw [hdebug, ← crate.checkShown_eq_ok_iff options.indentStep]
    obtain ⟨⟨⟩, -, hresult⟩ := bind_eq_ok_iff.1 hresult
    cases hresult
    exact check_bind_eq_ok_iff
  · rw [hdebug]
    rw [hquiet] at herror
    cases hshown : crate.checkShown options.indentStep with
    | error other => exact ⟨other, rfl⟩
    | ok _ =>
        have hdrops := Crate.checkDrops_of_checkShown hshown
        simp [hdrops, pure_eq_ok] at herror

/-- A function that drops a variable which is not among its locals. -/
def Crate.withStrayDrop : Crate :=
  Crate.ofDeclarations none [] [] [⟨0, ["demo", "h"], ⟨[], .adt .tuple [] [], [], []⟩,
    some ⟨0, [⟨0, none, .adt .tuple [] []⟩],
      .mk (some ⟨4, 5, 4, 11, some "demo.rs"⟩) (.action (.drop ⟨5, []⟩))⟩, none⟩]

/-- A function that computes its result from a global which the crate does not declare. -/
def Crate.withStrayGlobal : Crate :=
  Crate.ofDeclarations none [] [] [⟨0, ["demo", "f"], ⟨[], .bool, [], []⟩,
    some ⟨0, [⟨0, none, .bool⟩], .mk none (.action (.assign ⟨0, []⟩ (.global 7)))⟩, none⟩]

/-- The log level decides where the drop of an undeclared variable is reported, and whether a body
with an undeclared global passes. -/
theorem Crate.removeNeverDrops_depends_on_level :
    (Crate.withStrayDrop.removeNeverDrops {}).outcome = .error ⟨.unknownLocal 5,
      some ⟨some "demo::h", some ⟨4, 5, 4, 11, some "demo.rs"⟩⟩⟩ ∧
    (Crate.withStrayDrop.removeNeverDrops (Options.withLog {} .debug false)).outcome
      = .error ⟨.unknownLocal 5, some ⟨some "demo::h", none⟩⟩ ∧
    (Crate.withStrayGlobal.removeNeverDrops {}).outcome = .ok Crate.withStrayGlobal ∧
    (Crate.withStrayGlobal.removeNeverDrops (Options.withLog {} .debug false)).outcome
      = .error ⟨.unknownGlobal 7, some ⟨some "demo::f", none⟩⟩ :=
  ⟨rfl, rfl, rfl, rfl⟩

end CrateListing
