import CrateListing.Proofs.Layout

/-!
# What a text depends on

The text of a part of the syntax depends on its scope only through the references
of that part: two scopes that show each of them in the same way give the same
text, or the same error.  Of the other declarations of a crate, a declaration
therefore shows nothing but the names of what it refers to and the fields and
variants of types.

Main definitions:

- `Scope.AgreesOn`: two scopes show a reference in the same way.
- `Crate.CoveredBy`: a crate has all declarations of another one, with the same names, fields
  and variants.

Main results:

- Theorem `Statement.lines_congr`: the lines of a statement in scopes that agree.
- Theorem `Declaration.renderIn_congr`: the text of a declaration in scopes that agree.
- Theorem `Scope.Resolves.agreesOn_withCrate`: which references are shown in the same way.
-/

namespace CrateListing

open Outcome

namespace Scope

/-! ## Scopes that agree -/

/-- Two scopes show a reference in the same way, or fail in the same way. -/
def AgreesOn (scope other : Scope) : Reference → Prop
  | .localVar id => scope.localName id = other.localName id
  | .regionParam id => scope.regionParamName id = other.regionParamName id
  | .typeParam id => scope.typeParamName id = other.typeParamName id
  | .type id => scope.typeName id = other.typeName id
  | .function id => scope.functionName id = other.functionName id
  | .global id => scope.globalName id = other.globalName id
  | .fields id variant =>
      scope.typeName id = other.typeName id ∧
        (∀ number, variant = some number →
          scope.variantName id number = other.variantName id number) ∧
        scope.fieldNames? id variant = other.fieldNames? id variant
  | .field id variant index =>
      scope.fieldName id variant index = other.fieldName id variant index ∧
        ∀ number, variant = some number →
          scope.variantName id number = other.variantName id number

/-- Two scopes show each of some references in the same way. -/
def AgreesOnAll (scope other : Scope) (references : List Reference) : Prop :=
  ∀ reference ∈ references, scope.AgreesOn other reference

/-- Scopes agree on a list of references when they agree on the first one and the others. -/
@[simp]
theorem agreesOnAll_cons (scope other : Scope) (reference : Reference) (rest : List Reference) :
    scope.AgreesOnAll other (reference :: rest) ↔
      scope.AgreesOn other reference ∧ scope.AgreesOnAll other rest := by
  simp [AgreesOnAll]

/-- Scopes agree on two lists of references when they agree on each. -/
@[simp]
theorem agreesOnAll_append (scope other : Scope) (first second : List Reference) :
    scope.AgreesOnAll other (first ++ second) ↔
      scope.AgreesOnAll other first ∧ scope.AgreesOnAll other second := by
  simp [AgreesOnAll, or_imp, forall_and]

/-- Parts that are each shown in the same way are shown in the same way one after the other. -/
theorem AgreesOnAll.mapM_congr {α β : Type} {scope other : Scope}
    {f g : α → Except InternalError β} {references : α → List Reference} {items : List α}
    (hitem : ∀ item, scope.AgreesOnAll other (references item) → f item = g item)
    (h : scope.AgreesOnAll other (items.flatMap references)) : items.mapM f = items.mapM g := by
  refine Outcome.mapM_congr fun item hmem => hitem item fun reference hreference => ?_
  exact h reference (List.mem_flatMap.2 ⟨item, hmem, hreference⟩)

end Scope

variable {scope other : Scope}

/-! ## Types -/

/-- The text of a region depends only on what it refers to. -/
theorem Region.render_congr (region : Region) (h : scope.AgreesOnAll other region.references) :
    region.render scope = region.render other := by
  cases region with
  | static => rfl
  | erased => rfl
  | var id => exact h (.regionParam id) List.mem_cons_self

/-- The texts of regions depend only on what they refer to. -/
theorem Region.mapM_render_congr {regions : List Region}
    (h : scope.AgreesOnAll other (Region.referencesOfAll regions)) :
    regions.mapM (Region.render scope) = regions.mapM (Region.render other) :=
  Scope.AgreesOnAll.mapM_congr Region.render_congr h

mutual
/-- A type is shown in the same way in scopes that agree on its references. -/
theorem Ty.render_congr :
    (ty : Ty) → scope.AgreesOnAll other ty.references → ty.render scope = ty.render other
  | .adt .tuple _ types, h => by
      rw [Ty.references] at h
      simp only [Ty.render, Ty.renderAll_congr types h]
  | .adt (.declared id) regions types, h => by
      simp only [Ty.references, Scope.agreesOnAll_cons, Scope.agreesOnAll_append] at h
      obtain ⟨hname, hregions, htypes⟩ := h
      have hname : scope.typeName id = other.typeName id := hname
      simp only [Ty.render, hname, Region.mapM_render_congr hregions,
        Ty.renderAll_congr types htypes]
  | .adt (.builtin ty) regions types, h => by
      rw [Ty.references, Scope.agreesOnAll_append] at h
      simp only [Ty.render, Region.mapM_render_congr h.1, Ty.renderAll_congr types h.2]
  | .var id, h => h (.typeParam id) (by simp [Ty.references])
  | .bool, _ => rfl
  | .char, _ => rfl
  | .never, _ => rfl
  | .integer _, _ => rfl
  | .str, _ => rfl
  | .array element, h => by
      rw [Ty.references] at h
      simp only [Ty.render, Ty.render_congr element h]
  | .slice element, h => by
      rw [Ty.references] at h
      simp only [Ty.render, Ty.render_congr element h]
  | .ref region target mutability, h => by
      rw [Ty.references, Scope.agreesOnAll_append] at h
      simp only [Ty.render, Region.render_congr region h.1, Ty.render_congr target h.2]

/-- The texts of types depend only on what they refer to. -/
theorem Ty.renderAll_congr :
    (types : List Ty) → scope.AgreesOnAll other (Ty.referencesOfAll types) →
      Ty.renderAll scope types = Ty.renderAll other types
  | [], _ => rfl
  | ty :: rest, h => by
      rw [Ty.referencesOfAll, Scope.agreesOnAll_append] at h
      simp only [Ty.renderAll, Ty.render_congr ty h.1, Ty.renderAll_congr rest h.2]
end

theorem genericArgs_congr {regions : List Region} {types : List Ty}
    (h : scope.AgreesOnAll other (genericReferences regions types)) :
    genericArgs scope regions types = genericArgs other regions types := by
  rw [genericReferences, Scope.agreesOnAll_append] at h
  simp only [genericArgs, Region.mapM_render_congr h.1, Ty.renderAll_congr types h.2]

/-! ## Places and expressions -/

theorem Projection.render_congr (inner : Text) (step : Projection)
    (h : scope.AgreesOnAll other step.references) :
    step.render scope inner = step.render other inner := by
  cases step with
  | deref => rfl
  | derefBox => rfl
  | field owner index =>
      cases owner with
      | tuple arity => rfl
      | adt type variant =>
          obtain ⟨hfield, hvariant⟩ := h (.field type variant index) List.mem_cons_self
          cases variant with
          | none => simp only [Projection.render, hfield]
          | some number => simp only [Projection.render, hfield, hvariant number rfl]

/-- The text of a path depends only on what it refers to. -/
theorem Place.renderPath_congr (inner : Text) {path : List Projection}
    (h : scope.AgreesOnAll other (path.flatMap Projection.references)) :
    Place.renderPath scope inner path = Place.renderPath other inner path := by
  induction path generalizing inner with
  | nil => rfl
  | cons step rest ih =>
      rw [List.flatMap_cons, Scope.agreesOnAll_append] at h
      rw [Place.renderPath, Place.renderPath, Projection.render_congr inner step h.1]
      exact bind_congr fun shown => ih shown h.2

theorem Place.render_congr (place : Place) (h : scope.AgreesOnAll other place.references) :
    place.render scope = place.render other := by
  rw [Place.references, Scope.agreesOnAll_cons] at h
  have hroot : scope.localName place.root = other.localName place.root := h.1
  rw [Place.render, Place.render, hroot]
  exact bind_congr fun root => Place.renderPath_congr root h.2

mutual
theorem Constant.render_congr :
    (constant : Constant) → scope.AgreesOnAll other constant.references →
      constant.render scope = constant.render other
  | .scalar _, _ => rfl
  | .bool _, _ => rfl
  | .char _, _ => rfl
  | .string _, _ => rfl
  | .adt _ fields, h => by
      rw [Constant.references] at h
      simp only [Constant.render, Constant.renderAll_congr fields h]
  | .global id, h => h (.global id) (by simp [Constant.references])

/-- The texts of constants depend only on what they refer to. -/
theorem Constant.renderAll_congr :
    (constants : List Constant) →
      scope.AgreesOnAll other (Constant.referencesOfAll constants) →
        Constant.renderAll scope constants = Constant.renderAll other constants
  | [], _ => rfl
  | constant :: rest, h => by
      rw [Constant.referencesOfAll, Scope.agreesOnAll_append] at h
      simp only [Constant.renderAll, Constant.render_congr constant h.1,
        Constant.renderAll_congr rest h.2]
end

theorem Operand.render_congr (operand : Operand)
    (h : scope.AgreesOnAll other operand.references) :
    operand.render scope = operand.render other := by
  cases operand with
  | copy place => simp only [Operand.render, Place.render_congr place h]
  | move place => simp only [Operand.render, Place.render_congr place h]
  | const type value =>
      rw [Operand.references, Scope.agreesOnAll_append] at h
      simp only [Operand.render, Constant.render_congr value h.1, Ty.render_congr type h.2]

/-- The texts of operands depend only on what they refer to. -/
theorem Operand.mapM_render_congr {operands : List Operand}
    (h : scope.AgreesOnAll other (operands.flatMap Operand.references)) :
    operands.mapM (Operand.render scope) = operands.mapM (Operand.render other) :=
  Scope.AgreesOnAll.mapM_congr Operand.render_congr h

theorem AggregateKind.render_congr (operands : List Text) (kind : AggregateKind)
    (h : scope.AgreesOnAll other kind.references) :
    kind.render scope operands = kind.render other operands := by
  cases kind with
  | tuple => rfl
  | option variant type => rfl
  | adt type variant regions types =>
      obtain ⟨htype, hvariant, hfields⟩ := h (.fields type variant) List.mem_cons_self
      have hname : aggregateName scope type variant = aggregateName other type variant := by
        cases variant with
        | none => exact htype
        | some number => simp only [aggregateName, htype, hvariant number rfl]
      simp only [AggregateKind.render, hname, hfields]

theorem Rvalue.render_congr (value : Rvalue) (h : scope.AgreesOnAll other value.references) :
    value.render scope = value.render other := by
  cases value with
  | use operand => exact Operand.render_congr operand h
  | borrow place kind => simp only [Rvalue.render, Place.render_congr place h]
  | unary operator operand => simp only [Rvalue.render, Operand.render_congr operand h]
  | binary operator left right =>
      rw [Rvalue.references, Scope.agreesOnAll_append] at h
      simp only [Rvalue.render, Operand.render_congr left h.1, Operand.render_congr right h.2]
  | discriminant place => simp only [Rvalue.render, Place.render_congr place h]
  | aggregate kind operands =>
      rw [Rvalue.references, Scope.agreesOnAll_append] at h
      rw [Rvalue.render, Rvalue.render, Operand.mapM_render_congr h.1]
      exact bind_congr fun shown => AggregateKind.render_congr shown kind h.2
  | global id => exact h (.global id) List.mem_cons_self

theorem Callee.render_congr (generics : Text) (callee : Callee)
    (h : scope.AgreesOnAll other callee.references) :
    callee.render scope generics = callee.render other generics := by
  cases callee with
  | declared id =>
      have hname : scope.functionName id = other.functionName id :=
        h (.function id) List.mem_cons_self
      simp only [Callee.render, hname]
  | builtin function => rfl

theorem Call.render_congr (call : Call) (h : scope.AgreesOnAll other call.references) :
    call.render scope = call.render other := by
  simp only [Call.references, Scope.agreesOnAll_append] at h
  obtain ⟨hgenerics, hcallee, harguments, htarget⟩ := h
  rw [Call.render, Call.render, genericArgs_congr hgenerics]
  refine bind_congr fun generics => ?_
  rw [Callee.render_congr generics call.callee hcallee, Operand.mapM_render_congr harguments,
    Place.render_congr call.target htarget]

/-! ## Statements -/

theorem Action.render_congr (action : Action) (h : scope.AgreesOnAll other action.references) :
    action.render scope = action.render other := by
  cases action with
  | assign place value =>
      rw [Action.references, Scope.agreesOnAll_append] at h
      simp only [Action.render, Place.render_congr place h.1, Rvalue.render_congr value h.2]
  | fakeRead place => simp only [Action.render, Place.render_congr place h]
  | setDiscriminant place variant => simp only [Action.render, Place.render_congr place h]
  | drop place => simp only [Action.render, Place.render_congr place h]
  | assert assertion =>
      simp only [Action.render, Assertion.render, Operand.render_congr assertion.condition h]
  | call made => exact Call.render_congr made h
  | panic => rfl
  | ret => rfl
  | brk depth => rfl
  | cont depth => rfl
  | nop => rfl

mutual
/-- A statement has the same lines in scopes that agree on its references. -/
theorem Statement.lines_congr :
    (statement : Statement) → scope.AgreesOnAll other statement.references →
      statement.lines scope = statement.lines other
  | .mk _ content, h => by
      rw [Statement.references] at h
      simp only [Statement.lines, Content.lines_congr content h]

/-- The lines of a content depend only on what it refers to. -/
theorem Content.lines_congr :
    (content : Content) → scope.AgreesOnAll other content.references →
      content.lines scope = content.lines other
  | .action action, h => by
      rw [Content.references] at h
      simp only [Content.lines, Action.render_congr action h]
  | .sequence first second, h => by
      rw [Content.references, Scope.agreesOnAll_append] at h
      simp only [Content.lines, Statement.lines_congr first h.1, Statement.lines_congr second h.2]
  | .switch switch, h => by
      rw [Content.references] at h
      simp only [Content.lines, Switch.lines_congr switch h]
  | .loop body, h => by
      rw [Content.references] at h
      simp only [Content.lines, Statement.lines_congr body h]

/-- The lines of a switch depend only on what it refers to. -/
theorem Switch.lines_congr :
    (switch : Switch) → scope.AgreesOnAll other switch.references →
      switch.lines scope = switch.lines other
  | .branch condition onTrue onFalse, h => by
      simp only [Switch.references, Scope.agreesOnAll_append] at h
      obtain ⟨hcondition, htrue, hfalse⟩ := h
      simp only [Switch.lines, Operand.render_congr condition hcondition,
        Statement.lines_congr onTrue htrue, Statement.lines_congr onFalse hfalse]
  | .integer operand type branches otherwise, h => by
      simp only [Switch.references, Scope.agreesOnAll_append] at h
      obtain ⟨hoperand, hbranches, hotherwise⟩ := h
      simp only [Switch.lines, Operand.render_congr operand hoperand,
        Switch.integerLines_congr branches hbranches, Statement.lines_congr otherwise hotherwise]
  | .variant place branches otherwise, h => by
      simp only [Switch.references, Scope.agreesOnAll_append] at h
      obtain ⟨hplace, hbranches, hotherwise⟩ := h
      simp only [Switch.lines, Place.render_congr place hplace,
        Switch.variantLines_congr branches hbranches, Statement.lines_congr otherwise hotherwise]

/-- The clauses of a switch on an integer depend only on what they refer to. -/
theorem Switch.integerLines_congr :
    (branches : List (List Scalar × Statement)) →
      scope.AgreesOnAll other (Switch.integerReferences branches) →
        Switch.integerLines scope branches = Switch.integerLines other branches
  | [], _ => rfl
  | (_, body) :: rest, h => by
      rw [Switch.integerReferences, Scope.agreesOnAll_append] at h
      simp only [Switch.integerLines, Statement.lines_congr body h.1,
        Switch.integerLines_congr rest h.2]

/-- The clauses of a switch on a variant depend only on what they refer to. -/
theorem Switch.variantLines_congr :
    (branches : List (List Int × Statement)) →
      scope.AgreesOnAll other (Switch.variantReferences branches) →
        Switch.variantLines scope branches = Switch.variantLines other branches
  | [], _ => rfl
  | (_, body) :: rest, h => by
      rw [Switch.variantReferences, Scope.agreesOnAll_append] at h
      simp only [Switch.variantLines, Statement.lines_congr body h.1,
        Switch.variantLines_congr rest h.2]
end

/-- The text of a statement depends only on what it refers to. -/
theorem Statement.render_congr (step indent : Text) (statement : Statement)
    (h : scope.AgreesOnAll other statement.references) :
    statement.render scope step indent = statement.render other step indent := by
  rw [Statement.render_eq_layout, Statement.render_eq_layout, Statement.lines_congr statement h]

/-! ## Declarations -/

theorem FieldDecl.render_congr (field : FieldDecl)
    (h : scope.AgreesOnAll other field.references) : field.render scope = field.render other := by
  rw [FieldDecl.render, FieldDecl.render, Ty.render_congr field.type h]

/-- The texts of fields depend only on what they refer to. -/
theorem FieldDecl.mapM_render_congr {fields : List FieldDecl}
    (h : scope.AgreesOnAll other (fields.flatMap FieldDecl.references)) :
    fields.mapM (FieldDecl.render scope) = fields.mapM (FieldDecl.render other) :=
  Scope.AgreesOnAll.mapM_congr FieldDecl.render_congr h

theorem Variant.render_congr (variant : Variant)
    (h : scope.AgreesOnAll other variant.references) :
    variant.render scope = variant.render other := by
  simp only [Variant.render, FieldDecl.mapM_render_congr h]

theorem TypeDecl.render_congr (step : Text) (decl : TypeDecl)
    (h : scope.AgreesOnAll other decl.references) :
    decl.render scope step = decl.render other step := by
  have hbody : decl.body.render scope step = decl.body.render other step := by
    unfold TypeDecl.references at h
    cases hcases : decl.body with
    | struct fields =>
        rw [hcases] at h
        simp only [TypeBody.render, FieldDecl.mapM_render_congr h]
    | enum variants =>
        rw [hcases] at h
        simp only [TypeBody.render, Scope.AgreesOnAll.mapM_congr Variant.render_congr h]
    | hidden => rfl
  rw [TypeDecl.render, TypeDecl.render, hbody]

theorem GlobalDecl.render_congr (indent : Text) (decl : GlobalDecl)
    (h : scope.AgreesOnAll other decl.references) :
    decl.render scope indent = decl.render other indent := by
  rw [GlobalDecl.references, Scope.agreesOnAll_append] at h
  have hfunction : scope.functionName decl.initializer = other.functionName decl.initializer :=
    h.2 (.function decl.initializer) List.mem_cons_self
  simp only [GlobalDecl.render, Ty.render_congr decl.type h.1, hfunction]

theorem renderParameter_congr (parameter : Local × Ty)
    (h : scope.AgreesOnAll other parameter.2.references) :
    renderParameter scope parameter = renderParameter other parameter := by
  simp only [renderParameter, Ty.render_congr parameter.2 h]

theorem Local.render_congr (indent : Text) (var : Local)
    (h : scope.AgreesOnAll other var.type.references) :
    var.render scope indent = var.render other indent := by
  simp only [Local.render, Ty.render_congr var.type h]

/-- The text of a function depends only on what it refers to. -/
theorem FunDecl.render_congr (step indent : Text) (decl : FunDecl)
    (h : scope.AgreesOnAll other decl.references) :
    decl.render scope step indent = decl.render other step indent := by
  unfold FunDecl.references at h
  rw [Scope.agreesOnAll_append] at h
  obtain ⟨houtput, hrest⟩ := h
  unfold FunDecl.render
  dsimp only
  rw [Ty.render_congr decl.signature.output houtput]
  refine bind_congr fun result => ?_
  cases hbody : decl.body with
  | none =>
      rw [hbody] at hrest
      simp only [Ty.renderAll_congr decl.signature.inputs hrest]
  | some body =>
      rw [hbody] at hrest
      simp only [Body.references, Scope.agreesOnAll_append] at hrest
      obtain ⟨hparameters, hlocals, hstatement⟩ := hrest
      simp only [Scope.AgreesOnAll.mapM_congr renderParameter_congr hparameters,
        Scope.AgreesOnAll.mapM_congr (Local.render_congr (indent ++ step)) hlocals,
        Statement.render_congr step (indent ++ step) body.statement hstatement]

/-- A declaration has the same text, or the same error, in crates in which its scopes agree on its
references. -/
theorem Declaration.renderIn_congr {crate larger : Crate} (step : Text) (decl : Declaration)
    (h : (decl.scope crate).AgreesOnAll (decl.scope larger) decl.references) :
    decl.renderIn crate step = decl.renderIn larger step := by
  cases decl with
  | type decl => exact TypeDecl.render_congr step decl h
  | global decl => exact GlobalDecl.render_congr "" decl h
  | function decl => exact FunDecl.render_congr step "" decl h

/-! ## Crates that cover each other -/

/-- A crate has every declaration of another one, under the same identifier and with the same name.
The fields and variants of types are the same; anything else may differ. -/
structure Crate.CoveredBy (crate larger : Crate) : Prop where
  functions : ∀ id decl, crate.functions.find? id = some decl →
    ∃ found, larger.functions.find? id = some found ∧ found.name = decl.name
  globals : ∀ id decl, crate.globals.find? id = some decl →
    ∃ found, larger.globals.find? id = some found ∧ found.name = decl.name
  types : ∀ id decl, crate.types.find? id = some decl →
    ∃ found, larger.types.find? id = some found ∧ found.name = decl.name ∧
      found.body = decl.body

namespace Scope

/-- A missing item is reported in the same way in another crate. -/
theorem require_withCrate {α : Type} (scope : Scope) (crate : Crate) (fault : Fault)
    (found : Option α) :
    ({ scope with crate := crate } : Scope).require fault found = scope.require fault found := by
  cases found <;> rfl

section SameType

variable {scope : Scope} {larger : Crate} {id : Int} {decl found : TypeDecl}
  (hdecl : scope.crate.types.find? id = some decl) (hfound : larger.types.find? id = some found)
  (hname : found.name = decl.name)

include hdecl hfound hname

/-- The name of a type that is declared alike is the same in the other crate. -/
theorem typeName_withCrate :
    scope.typeName id = ({ scope with crate := larger } : Scope).typeName id := by
  simp only [typeName, typeDecl, hdecl, hfound, require, ok_bind, hname]

variable (hbody : found.body = decl.body)

include hbody

/-- A variant of a type that is declared alike is the same in the other crate. -/
theorem variant_withCrate (number : Int) :
    scope.variant id number = ({ scope with crate := larger } : Scope).variant id number := by
  simp only [variant, typeDecl, hdecl, hfound, require_withCrate]
  simp only [require, ok_bind, hname, hbody]

/-- The fields of a type that is declared alike are the same in the other crate. -/
theorem fields_withCrate (variant : Option Int) :
    scope.fields id variant = ({ scope with crate := larger } : Scope).fields id variant := by
  cases variant with
  | some number => simp only [fields, variant_withCrate hdecl hfound hname hbody]
  | none =>
      simp only [fields, typeDecl, hdecl, hfound, require, ok_bind, hname, hbody]
      rfl

/-- The name of a field is the same in the other crate. -/
theorem fieldName_withCrate (variant : Option Int) (index : Int) :
    scope.fieldName id variant index
      = ({ scope with crate := larger } : Scope).fieldName id variant index := by
  simp only [fieldName, fields_withCrate hdecl hfound hname hbody, typeDecl, hdecl, hfound,
    require_withCrate]
  simp only [require, ok_bind, hname]

end SameType

/-- What a scope finds in its crate is shown in the same way in a crate that covers it. -/
theorem Resolves.agreesOn_withCrate {scope : Scope} {larger : Crate} {reference : Reference}
    (hresolves : scope.Resolves reference) (hcovered : scope.crate.CoveredBy larger) :
    scope.AgreesOn { scope with crate := larger } reference := by
  cases reference with
  | localVar id => rfl
  | regionParam id => rfl
  | typeParam id => rfl
  | type id =>
      obtain ⟨decl, hdecl⟩ := (Table.exists_find?_iff scope.crate.types id).2 hresolves
      obtain ⟨found, hfound, hname, _⟩ := hcovered.types id decl hdecl
      exact typeName_withCrate hdecl hfound hname
  | function id =>
      obtain ⟨decl, hdecl⟩ := (Table.exists_find?_iff scope.crate.functions id).2 hresolves
      obtain ⟨found, hfound, hname⟩ := hcovered.functions id decl hdecl
      simp only [AgreesOn, functionName, hdecl, hfound, require, ok_bind, hname]
  | global id =>
      obtain ⟨decl, hdecl⟩ := (Table.exists_find?_iff scope.crate.globals id).2 hresolves
      obtain ⟨found, hfound, hname⟩ := hcovered.globals id decl hdecl
      simp only [AgreesOn, globalName, hdecl, hfound, require, ok_bind, hname]
  | fields id variant =>
      obtain ⟨decl, hdecl, _⟩ := hresolves
      obtain ⟨found, hfound, hname, hbody⟩ := hcovered.types id decl hdecl
      refine ⟨typeName_withCrate hdecl hfound hname, fun number _ => ?_, ?_⟩
      · simp only [variantName, variant_withCrate hdecl hfound hname hbody]
      · simp only [fieldNames?, fields_withCrate hdecl hfound hname hbody]
  | field id variant index =>
      obtain ⟨decl, hdecl, _⟩ := hresolves
      obtain ⟨found, hfound, hname, hbody⟩ := hcovered.types id decl hdecl
      refine ⟨fieldName_withCrate hdecl hfound hname hbody variant index, fun number _ => ?_⟩
      simp only [variantName, variant_withCrate hdecl hfound hname hbody]

end Scope

/-- The scope of a declaration in another crate has the same binders. -/
theorem Declaration.scope_eq_withCrate (crate larger : Crate) (decl : Declaration) :
    decl.scope larger = { decl.scope crate with crate := larger } := by
  cases decl <;> rfl

theorem Declaration.crate_scope (crate : Crate) (decl : Declaration) :
    (decl.scope crate).crate = crate := by
  cases decl <;> rfl

/-- A declaration that can be listed has the same text in a crate that covers its own. -/
theorem Declaration.render_eq_of_coveredBy {crate larger : Crate} (h : crate.CoveredBy larger)
    {step : Text} {decl : Declaration} (hsucceeds : Succeeds (decl.render crate step)) :
    decl.render larger step = decl.render crate step := by
  rw [Declaration.render, succeeds_mapError, Declaration.succeeds_renderIn_iff] at hsucceeds
  have hagrees : (decl.scope crate).AgreesOnAll (decl.scope larger) decl.references := by
    intro reference hreference
    rw [decl.scope_eq_withCrate crate larger]
    refine (hsucceeds reference hreference).agreesOn_withCrate ?_
    rwa [decl.crate_scope crate]
  rw [Declaration.render, Declaration.render, Declaration.renderIn_congr step decl hagrees]

/-- The text of a declaration does not depend on anything but the declaration, the names of the
declarations that it may refer to, and the fields and variants of types.  Where all of these are
kept, the declaration is listed with the same text, whatever else the other crate has. -/
theorem Crate.renderOne_eq_of_coveredBy {crate larger : Crate} (h : crate.CoveredBy larger)
    (options : Options) {kind : DeclKind} {id : Int} {decl : Declaration}
    (hfind : crate.find? kind id = some decl) (hlarger : larger.find? kind id = some decl)
    {text : Text} (htext : crate.renderOne options kind id = .ok text) :
    larger.renderOne options kind id = .ok text := by
  simp only [Crate.renderOne, hfind, hlarger] at htext ⊢
  rw [Declaration.render_eq_of_coveredBy h ⟨text, htext⟩, htext]

/-- A function that calls the function with identifier 1. -/
def FunDecl.forwarding : FunDecl :=
  ⟨0, ["f"], ⟨[], .never, [], []⟩, some ⟨0, [⟨0, none, .never⟩],
    .mk none (.action (.call ⟨.declared 1, [], ⟨0, []⟩, [], []⟩))⟩, none⟩

/-- A function with identifier 1 that is defined elsewhere. -/
def FunDecl.elsewhere (output : Ty) : FunDecl :=
  ⟨1, ["g"], ⟨[], output, [], []⟩, none, none⟩

/-- The signature of a called function, the order of the functions, the name of the crate and
further declarations do not show. -/
theorem Crate.renderOne_forwarding :
    (Crate.ofDeclarations (some "c") [⟨4, ["T"], .hidden, [], [], none⟩] []
        [FunDecl.elsewhere .bool, FunDecl.forwarding]).renderOne {} .function 0
      = .ok "fn f() -> ! \x7b\n  var@0 : !;\n\n  var@0 := g()\n\x7d" := by
  have hcovered : (Crate.ofDeclarations none [] []
      [FunDecl.forwarding, FunDecl.elsewhere .never]).CoveredBy
        (Crate.ofDeclarations (some "c") [⟨4, ["T"], .hidden, [], [], none⟩] []
          [FunDecl.elsewhere .bool, FunDecl.forwarding]) := by
    refine ⟨fun id decl h => ?_, fun id decl h => (by cases h), fun id decl h => (by cases h)⟩
    have hmem : (id, decl) ∈ [(0, FunDecl.forwarding), (1, FunDecl.elsewhere .never)] :=
      Assoc.mem_of_find? h
    simp only [List.mem_cons, Prod.mk.injEq, List.not_mem_nil, or_false] at hmem
    rcases hmem with ⟨rfl, rfl⟩ | ⟨rfl, rfl⟩
    · exact ⟨FunDecl.forwarding, rfl, rfl⟩
    · exact ⟨FunDecl.elsewhere .bool, rfl, rfl⟩
  exact Crate.renderOne_eq_of_coveredBy hcovered {} rfl rfl rfl

end CrateListing
