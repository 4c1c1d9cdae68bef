import CrateListing.Proofs.Outcome
import CrateListing.Proofs.Tables
import CrateListing.Proofs.References

/-!
# Which declarations can be listed

A declaration is listed exactly when everything that it refers to is declared.
For each part of the syntax the listing succeeds in a scope exactly when the
scope resolves all references of that part; the scope of a declaration resolves
exactly what is declared for it.

Main results:

- Theorem `Scope.fields_eq_ok_iff`: which fields a scope finds.
- Theorem `Statement.succeeds_render_iff`: which statements can be shown in a scope.
- Theorem `Declaration.succeeds_render_iff`: which declarations of a crate can be listed.
-/

namespace CrateListing

open Outcome

/-- A scope finds what a reference stands for. -/
def Scope.Resolves (scope : Scope) (reference : Reference) : Prop :=
  reference.Declared scope.crate scope.locals.keys scope.regionParams.keys scope.typeParams.keys

namespace Scope

/-! ## Single look-ups -/

/-- What is required is given when it was found. -/
theorem require_eq_ok_iff {α : Type} (scope : Scope) (fault : Fault) (found : Option α)
    (item : α) : scope.require fault found = .ok item ↔ found = some item := by
  cases found with
  | none => simp [require]
  | some other => simp [require]

/-- What is required is given exactly when something was found. -/
theorem succeeds_require_iff {α : Type} (scope : Scope) (fault : Fault) (found : Option α) :
    Succeeds (scope.require fault found) ↔ ∃ item, found = some item := by
  simp [Succeeds, require_eq_ok_iff]

/-- What is shown of an item that is looked up has a property when every item that can be found
has it. -/
theorem gives_shown {α : Type} {scope : Scope} {fault : Fault} {found : Option α}
    {shown : α → Text} {P : Text → Prop} (h : ∀ item, found = some item → P (shown item)) :
    Gives (do
      let item ← scope.require fault found
      return shown item) P := by
  cases found with
  | none => nofun
  | some item => exact gives_ok (h item rfl)

/-- The name of a local is found exactly when the local resolves. -/
theorem succeeds_localName_iff (scope : Scope) (id : Int) :
    Succeeds (scope.localName id) ↔ scope.Resolves (.localVar id) := by
  rw [localName, succeeds_bind_pure, succeeds_require_iff, Table.exists_find?_iff]
  rfl

theorem succeeds_typeParamName_iff (scope : Scope) (id : Int) :
    Succeeds (scope.typeParamName id) ↔ scope.Resolves (.typeParam id) := by
  rw [typeParamName, succeeds_bind_pure, succeeds_require_iff, Table.exists_find?_iff]
  rfl

theorem succeeds_regionParamName_iff (scope : Scope) (id : Int) :
    Succeeds (scope.regionParamName id) ↔ scope.Resolves (.regionParam id) := by
  rw [regionParamName, succeeds_bind_pure, succeeds_require_iff, Table.exists_find?_iff]
  rfl

/-- A type declaration is the one that its table holds. -/
theorem typeDecl_eq_ok_iff (scope : Scope) (id : Int) (decl : TypeDecl) :
    scope.typeDecl id = .ok decl ↔ scope.crate.types.find? id = some decl :=
  require_eq_ok_iff scope _ _ decl

theorem succeeds_typeName_iff (scope : Scope) (id : Int) :
    Succeeds (scope.typeName id) ↔ scope.Resolves (.type id) := by
  rw [typeName, succeeds_bind_pure, typeDecl, succeeds_require_iff, Table.exists_find?_iff]
  rfl

theorem succeeds_functionName_iff (scope : Scope) (id : Int) :
    Succeeds (scope.functionName id) ↔ scope.Resolves (.function id) := by
  rw [functionName, succeeds_bind_pure, succeeds_require_iff, Table.exists_find?_iff]
  rfl

theorem succeeds_globalName_iff (scope : Scope) (id : Int) :
    Succeeds (scope.globalName id) ↔ scope.Resolves (.global id) := by
  rw [globalName, succeeds_bind_pure, succeeds_require_iff, Table.exists_find?_iff]
  rfl

/-! ## Variants and fields -/

/-- An index finds an item exactly when it lies within the list. -/
theorem nth?_eq_some_iff {α : Type} (items : List α) (index : Int) (item : α) :
    nth? items index = some item ↔
      ∃ (_ : 0 ≤ index) (hhigh : index < items.length),
        items.get ⟨index.toNat, by omega⟩ = item := by
  unfold nth?
  split
  · rename_i hlow
    rw [List.getElem?_eq_some_iff]
    constructor
    · rintro ⟨hlt, hget⟩
      exact ⟨hlow, by omega, hget⟩
    · rintro ⟨_, hhigh, hget⟩
      exact ⟨by omega, hget⟩
  · rename_i hlow
    constructor
    · intro h
      cases h
    · rintro ⟨hlow', _⟩
      exact absurd hlow' hlow

/-- There is an item at an index exactly when the index is in range. -/
theorem exists_nth?_iff {α : Type} (items : List α) (index : Int) :
    (∃ item, nth? items index = some item) ↔ 0 ≤ index ∧ index < items.length := by
  constructor
  · rintro ⟨item, h⟩
    obtain ⟨hlow, hhigh, _⟩ := (nth?_eq_some_iff items index item).1 h
    exact ⟨hlow, hhigh⟩
  · rintro ⟨hlow, hhigh⟩
    exact ⟨_, (nth?_eq_some_iff items index _).2 ⟨hlow, hhigh, rfl⟩⟩

/-- A variant is found in the declaration of its type. -/
theorem variant_eq_ok_iff (scope : Scope) (type index : Int) (found : Variant) :
    scope.variant type index = .ok found ↔
      ∃ owner, scope.crate.types.find? type = some owner ∧
        variantOf? owner.body index = some found := by
  simp only [variant, bind_eq_ok_iff, typeDecl_eq_ok_iff, require_eq_ok_iff]

/-- A variant that is found gives the fields of an existing variant. -/
theorem hasFields_some_iff (body : TypeBody) (index : Int) (fields : List FieldDecl) :
    body.HasFields (some index) fields ↔
      ∃ found, variantOf? body index = some found ∧ found.fields = fields := by
  constructor
  · rintro ⟨⟩
    rename_i variants hlow hhigh
    exact ⟨_, (nth?_eq_some_iff variants index _).2 ⟨hlow, hhigh, rfl⟩, rfl⟩
  · rintro ⟨found, hfound, rfl⟩
    cases body with
    | struct _ => cases hfound
    | hidden => cases hfound
    | enum variants =>
        obtain ⟨hlow, hhigh, rfl⟩ := (nth?_eq_some_iff variants index found).1 hfound
        exact .variant hlow hhigh

/-- The fields that a scope finds are those of an existing struct or variant. -/
theorem fields_eq_ok_iff (scope : Scope) (type : Int) (variant : Option Int)
    (fields : List FieldDecl) :
    scope.fields type variant = .ok fields ↔
      ∃ owner, scope.crate.types.find? type = some owner ∧
        owner.body.HasFields variant fields := by
  cases variant with
  | some index =>
      simp only [Scope.fields, bind_eq_ok_iff, variant_eq_ok_iff, pure_eq_ok, Except.ok.injEq,
        hasFields_some_iff]
      constructor
      · rintro ⟨found, ⟨owner, howner, hfound⟩, hfields⟩
        exact ⟨owner, howner, found, hfound, hfields⟩
      · rintro ⟨owner, howner, found, hfound, hfields⟩
        exact ⟨found, ⟨owner, howner, hfound⟩, hfields⟩
  | none =>
      simp only [Scope.fields, bind_eq_ok_iff, typeDecl_eq_ok_iff]
      refine exists_congr fun owner => and_congr_right fun _ => ?_
      constructor
      · intro h
        split at h
        · rename_i hbody
          cases h
          rw [hbody]
          exact .struct fields
        · cases h
      · intro h
        generalize owner.body = body at h ⊢
        cases h
        rfl

/-- Fields are found exactly when they resolve. -/
theorem succeeds_fields_iff (scope : Scope) (type : Int) (variant : Option Int) :
    Succeeds (scope.fields type variant) ↔ scope.Resolves (.fields type variant) := by
  simp only [Succeeds, fields_eq_ok_iff]
  constructor
  · rintro ⟨fields, owner, howner, hfields⟩
    exact ⟨owner, howner, fields, hfields⟩
  · rintro ⟨owner, howner, fields, hfields⟩
    exact ⟨fields, owner, howner, hfields⟩

/-- The names of fields are found exactly when the fields resolve. -/
theorem succeeds_fieldNames?_iff (scope : Scope) (type : Int) (variant : Option Int) :
    Succeeds (scope.fieldNames? type variant) ↔ scope.Resolves (.fields type variant) := by
  rw [fieldNames?, succeeds_bind_pure, succeeds_fields_iff]

/-- A struct or a variant that is found belongs to a type that is found. -/
theorem Resolves.type_of_fields {scope : Scope} {type : Int} {variant : Option Int}
    (h : scope.Resolves (.fields type variant)) : scope.Resolves (.type type) := by
  obtain ⟨owner, howner, _⟩ := h
  exact (Table.exists_find?_iff _ _).1 ⟨owner, howner⟩

/-- The variant of a field that is found has a name. -/
theorem Resolves.succeeds_variantName {scope : Scope} {type index : Int}
    (h : scope.Resolves (.fields type (some index))) :
    Succeeds (scope.variantName type index) := by
  obtain ⟨owner, howner, fields, hfields⟩ := h
  obtain ⟨found, hfound, _⟩ := (hasFields_some_iff owner.body index fields).1 hfields
  rw [variantName, succeeds_bind_pure]
  exact ⟨found, (variant_eq_ok_iff scope type index found).2 ⟨owner, howner, hfound⟩⟩

/-- A field resolves only when the fields of its owner do. -/
theorem Resolves.fields_of_field {scope : Scope} {type index : Int} {variant : Option Int}
    (h : scope.Resolves (.field type variant index)) : scope.Resolves (.fields type variant) := by
  obtain ⟨owner, howner, fields, hfields, _⟩ := h
  exact ⟨owner, howner, fields, hfields⟩

/-- The name of a field is found exactly when the field resolves. -/
theorem succeeds_fieldName_iff (scope : Scope) (type : Int) (variant : Option Int) (index : Int) :
    Succeeds (scope.fieldName type variant index) ↔
      scope.Resolves (.field type variant index) := by
  constructor
  · rintro ⟨text, htext⟩
    obtain ⟨decl, _, htext⟩ := bind_eq_ok_iff.1 htext
    obtain ⟨fields, hfields, htext⟩ := bind_eq_ok_iff.1 htext
    obtain ⟨field, hfield, _⟩ := bind_eq_ok_iff.1 htext
    obtain ⟨owner, howner, hfields⟩ := (fields_eq_ok_iff scope type variant fields).1 hfields
    have hnth := (require_eq_ok_iff scope _ _ field).1 hfield
    exact ⟨owner, howner, fields, hfields, (exists_nth?_iff fields index).1 ⟨field, hnth⟩⟩
  · rintro ⟨owner, howner, fields, hfields, hindex⟩
    obtain ⟨field, hfield⟩ := (exists_nth?_iff fields index).2 hindex
    have hdecl := (typeDecl_eq_ok_iff scope type owner).2 howner
    have hok := (fields_eq_ok_iff scope type variant fields).2 ⟨owner, howner, hfields⟩
    rw [fieldName, hdecl, ok_bind, hok, ok_bind, hfield]
    refine (succeeds_bind_iff_first fun shown _ => ?_).2
      ((succeeds_require_iff scope _ _).2 ⟨field, rfl⟩)
    cases shown.name <;> simp

/-! ## All references of a part of the syntax -/

/-- A scope finds what each of some references stands for. -/
def ResolvesAll (scope : Scope) (references : List Reference) : Prop :=
  ∀ reference ∈ references, scope.Resolves reference

@[simp]
theorem resolvesAll_nil (scope : Scope) : scope.ResolvesAll [] := by
  simp [ResolvesAll]

/-- A list of references resolves when the first one and the others do. -/
@[simp]
theorem resolvesAll_cons (scope : Scope) (reference : Reference) (rest : List Reference) :
    scope.ResolvesAll (reference :: rest) ↔ scope.Resolves reference ∧ scope.ResolvesAll rest := by
  simp [ResolvesAll]

/-- Two lists of references resolve when each does. -/
@[simp]
theorem resolvesAll_append (scope : Scope) (first second : List Reference) :
    scope.ResolvesAll (first ++ second) ↔ scope.ResolvesAll first ∧ scope.ResolvesAll second := by
  simp [ResolvesAll, or_imp, forall_and]

/-- The references of items resolve when those of each item do. -/
theorem resolvesAll_flatMap {α : Type} (scope : Scope) (items : List α)
    (references : α → List Reference) :
    scope.ResolvesAll (items.flatMap references) ↔
      ∀ item ∈ items, scope.ResolvesAll (references item) := by
  simp only [ResolvesAll, List.mem_flatMap]
  constructor
  · intro h item hitem reference hreference
    exact h reference ⟨item, hitem, hreference⟩
  · rintro h reference ⟨item, hitem, hreference⟩
    exact h item hitem reference hreference

/-- A list of parts is shown exactly when the references of all parts are resolved. -/
theorem succeeds_mapM_iff_resolvesAll {α β : Type} {scope : Scope}
    {render : α → Except InternalError β} {references : α → List Reference} {items : List α}
    (hrender : ∀ item ∈ items, Succeeds (render item) ↔ scope.ResolvesAll (references item)) :
    Succeeds (items.mapM render) ↔ scope.ResolvesAll (items.flatMap references) := by
  rw [succeeds_mapM_iff, resolvesAll_flatMap]
  exact forall₂_congr hrender

end Scope

/-! ## Types -/

theorem Region.succeeds_render_iff (scope : Scope) (region : Region) :
    Succeeds (region.render scope) ↔ scope.ResolvesAll region.references := by
  cases region with
  | static => simp [Region.render, Region.references]
  | erased => simp [Region.render, Region.references]
  | var id =>
      rw [Region.render, Scope.succeeds_regionParamName_iff]
      simp [Region.references]

/-- Regions have texts exactly when their references resolve. -/
theorem Region.succeeds_mapM_render_iff (scope : Scope) (regions : List Region) :
    Succeeds (regions.mapM (Region.render scope)) ↔
      scope.ResolvesAll (Region.referencesOfAll regions) :=
  Scope.succeeds_mapM_iff_resolvesAll fun region _ => Region.succeeds_render_iff scope region

mutual
/-- A type is shown exactly when its references are resolved. -/
theorem Ty.succeeds_render_iff (scope : Scope) :
    (ty : Ty) → (Succeeds (ty.render scope) ↔ scope.ResolvesAll ty.references)
  | .adt .tuple _ types => by
      rw [Ty.render, succeeds_bind_pure, Ty.references]
      exact Ty.succeeds_renderAll_iff scope types
  | .adt (.declared id) regions types => by
      have htypes := Ty.succeeds_renderAll_iff scope types
      have hregions := Region.succeeds_mapM_render_iff scope regions
      simp only [Ty.render, Ty.references, Scope.resolvesAll_cons, Scope.resolvesAll_append,
        ← Scope.succeeds_typeName_iff, ← hregions, ← htypes]
      exact succeeds_bind_iff fun _ _ => succeeds_bind_iff fun _ _ => succeeds_bind_pure _ _
  | .adt (.builtin ty) regions types => by
      have htypes := Ty.succeeds_renderAll_iff scope types
      have hregions := Region.succeeds_mapM_render_iff scope regions
      simp only [Ty.render, Ty.references, Scope.resolvesAll_append, ← hregions, ← htypes]
      exact succeeds_bind_iff fun _ _ => succeeds_bind_pure _ _
  | .var id => by
      rw [Ty.render, Scope.succeeds_typeParamName_iff]
      simp [Ty.references]
  | .bool => by simp [Ty.render, Ty.references]
  | .char => by simp [Ty.render, Ty.references]
  | .never => by simp [Ty.render, Ty.references]
  | .integer _ => by simp [Ty.render, Ty.references]
  | .str => by simp [Ty.render, Ty.references]
  | .array element => by
      rw [Ty.render, succeeds_bind_pure, Ty.references]
      exact Ty.succeeds_render_iff scope element
  | .slice element => by
      rw [Ty.render, succeeds_bind_pure, Ty.references]
      exact Ty.succeeds_render_iff scope element
  | .ref region target _ => by
      have htarget := Ty.succeeds_render_iff scope target
      simp only [Ty.render, Ty.references, Scope.resolvesAll_append, ← htarget,
        ← Region.succeeds_render_iff]
      exact succeeds_bind_iff fun _ _ => succeeds_bind_pure _ _

/-- Types are shown exactly when the references of all of them are resolved. -/
theorem Ty.succeeds_renderAll_iff (scope : Scope) :
    (types : List Ty) →
      (Succeeds (Ty.renderAll scope types) ↔ scope.ResolvesAll (Ty.referencesOfAll types))
  | [] => by simp [Ty.renderAll, Ty.referencesOfAll]
  | ty :: rest => by
      have hfirst := Ty.succeeds_render_iff scope ty
      have hrest := Ty.succeeds_renderAll_iff scope rest
      simp only [Ty.renderAll, Ty.referencesOfAll, Scope.resolvesAll_append, ← hfirst, ← hrest]
      exact succeeds_bind_iff fun _ _ => succeeds_bind_pure _ _
end

/-- Generic arguments have a text exactly when their references resolve. -/
theorem succeeds_genericArgs_iff (scope : Scope) (regions : List Region) (types : List Ty) :
    Succeeds (genericArgs scope regions types) ↔
      scope.ResolvesAll (genericReferences regions types) := by
  simp only [genericArgs, genericReferences, Scope.resolvesAll_append,
    ← Region.succeeds_mapM_render_iff, ← Ty.succeeds_renderAll_iff]
  exact succeeds_bind_iff fun _ _ => succeeds_bind_pure _ _

/-! ## Places and expressions -/

theorem Projection.succeeds_render_iff (scope : Scope) (inner : Text) (step : Projection) :
    Succeeds (step.render scope inner) ↔ scope.ResolvesAll step.references := by
  cases step with
  | deref => simp [Projection.render, Projection.references]
  | derefBox => simp [Projection.render, Projection.references]
  | field owner index =>
      cases owner with
      | tuple arity => simp [Projection.render, Projection.references]
      | adt type variant =>
          simp only [Projection.references, Scope.resolvesAll_cons, Scope.resolvesAll_nil,
            and_true, ← Scope.succeeds_fieldName_iff]
          cases variant with
          | none => rw [Projection.render, succeeds_bind_pure]
          | some variant =>
              -- The variant has a name as soon as one of its fields is found.
              refine succeeds_bind_iff_first fun field hfield => ?_
              have hresolved := (Scope.succeeds_fieldName_iff scope type (some variant) index).1
                ⟨field, hfield⟩
              rw [succeeds_bind_pure]
              exact hresolved.fields_of_field.succeeds_variantName

/-- A path has a text exactly when its references resolve. -/
theorem Place.succeeds_renderPath_iff (scope : Scope) (inner : Text) (path : List Projection) :
    Succeeds (Place.renderPath scope inner path) ↔
      scope.ResolvesAll (path.flatMap Projection.references) := by
  induction path generalizing inner with
  | nil => simp [Place.renderPath]
  | cons step rest ih =>
      rw [Place.renderPath, List.flatMap_cons, Scope.resolvesAll_append,
        ← Projection.succeeds_render_iff scope inner step]
      exact succeeds_bind_iff fun shown _ => ih shown

/-- A place is shown exactly when its local and the fields on its path are found. -/
theorem Place.succeeds_render_iff (scope : Scope) (place : Place) :
    Succeeds (place.render scope) ↔ scope.ResolvesAll place.references := by
  rw [Place.render, Place.references, Scope.resolvesAll_cons, ← Scope.succeeds_localName_iff]
  exact succeeds_bind_iff fun root _ => Place.succeeds_renderPath_iff scope root place.path

mutual
/-- A constant is shown exactly when the globals in it are found. -/
theorem Constant.succeeds_render_iff (scope : Scope) :
    (constant : Constant) →
      (Succeeds (constant.render scope) ↔ scope.ResolvesAll constant.references)
  | .scalar _ => by simp [Constant.render, Constant.references]
  | .bool _ => by simp [Constant.render, Constant.references]
  | .char _ => by simp [Constant.render, Constant.references]
  | .string _ => by simp [Constant.render, Constant.references]
  | .adt _ fields => by
      rw [Constant.render, succeeds_bind_pure, Constant.references]
      exact Constant.succeeds_renderAll_iff scope fields
  | .global id => by
      rw [Constant.render, Scope.succeeds_globalName_iff]
      simp [Constant.references]

/-- Constants have texts exactly when their references resolve. -/
theorem Constant.succeeds_renderAll_iff (scope : Scope) :
    (constants : List Constant) →
      (Succeeds (Constant.renderAll scope constants) ↔
        scope.ResolvesAll (Constant.referencesOfAll constants))
  | [] => by simp [Constant.renderAll, Constant.referencesOfAll]
  | constant :: rest => by
      have hfirst := Constant.succeeds_render_iff scope constant
      have hrest := Constant.succeeds_renderAll_iff scope rest
      simp only [Constant.renderAll, Constant.referencesOfAll, Scope.resolvesAll_append,
        ← hfirst, ← hrest]
      exact succeeds_bind_iff fun _ _ => succeeds_bind_pure _ _
end

theorem Operand.succeeds_render_iff (scope : Scope) (operand : Operand) :
    Succeeds (operand.render scope) ↔ scope.ResolvesAll operand.references := by
  cases operand with
  | copy place =>
      rw [Operand.render, succeeds_bind_pure, Operand.references, Place.succeeds_render_iff]
  | move place =>
      rw [Operand.render, succeeds_bind_pure, Operand.references, Place.succeeds_render_iff]
  | const type value =>
      simp only [Operand.render, Operand.references, Scope.resolvesAll_append,
        ← Constant.succeeds_render_iff, ← Ty.succeeds_render_iff]
      exact succeeds_bind_iff fun _ _ => succeeds_bind_pure _ _

/-- Operands have texts exactly when their references resolve. -/
theorem Operand.succeeds_mapM_render_iff (scope : Scope) (operands : List Operand) :
    Succeeds (operands.mapM (Operand.render scope)) ↔
      scope.ResolvesAll (operands.flatMap Operand.references) :=
  Scope.succeeds_mapM_iff_resolvesAll fun operand _ => Operand.succeeds_render_iff scope operand

/-- A struct or a variant that is found has a name. -/
theorem Scope.Resolves.succeeds_aggregateName {scope : Scope} {type : Int} {variant : Option Int}
    (h : scope.Resolves (.fields type variant)) :
    Succeeds (aggregateName scope type variant) := by
  have htype : Succeeds (scope.typeName type) :=
    (Scope.succeeds_typeName_iff scope type).2 h.type_of_fields
  cases variant with
  | none => exact htype
  | some index =>
      refine (succeeds_bind_iff fun _ _ => ?_).2 ⟨htype, h.succeeds_variantName⟩
      exact succeeds_bind_pure _ _

theorem AggregateKind.succeeds_render_iff (scope : Scope) (operands : List Text)
    (kind : AggregateKind) :
    Succeeds (kind.render scope operands) ↔ scope.ResolvesAll kind.references := by
  cases kind with
  | tuple => simp [AggregateKind.render, AggregateKind.references]
  | option variant _ =>
      by_cases hnone : variant = noneVariant
      · simp [AggregateKind.render, AggregateKind.references, hnone]
      · simp [AggregateKind.render, AggregateKind.references, hnone]
  | adt type variant regions types =>
      refine (succeeds_bind_iff (P := scope.Resolves (.fields type variant))
        fun name _ => ?_).trans ?_
      · -- Whatever the names of the fields are, the text is put together without a look-up.
        refine (succeeds_bind_iff_first fun names _ => ?_).trans
          (Scope.succeeds_fieldNames?_iff scope type variant)
        cases names <;> simp
      · simp only [AggregateKind.references, Scope.resolvesAll_cons, Scope.resolvesAll_nil,
          and_true]
        exact and_iff_right_of_imp Scope.Resolves.succeeds_aggregateName

theorem Rvalue.succeeds_render_iff (scope : Scope) (value : Rvalue) :
    Succeeds (value.render scope) ↔ scope.ResolvesAll value.references := by
  cases value with
  | use operand => exact Operand.succeeds_render_iff scope operand
  | borrow place kind =>
      rw [Rvalue.render, succeeds_bind_pure, Rvalue.references, Place.succeeds_render_iff]
  | unary operator operand =>
      rw [Rvalue.render, succeeds_bind_pure, Rvalue.references, Operand.succeeds_render_iff]
  | binary operator left right =>
      simp only [Rvalue.render, Rvalue.references, Scope.resolvesAll_append,
        ← Operand.succeeds_render_iff]
      exact succeeds_bind_iff fun _ _ => succeeds_bind_pure _ _
  | discriminant place =>
      rw [Rvalue.render, succeeds_bind_pure, Rvalue.references, Place.succeeds_render_iff]
  | aggregate kind operands =>
      rw [Rvalue.render, Rvalue.references, Scope.resolvesAll_append,
        ← Operand.succeeds_mapM_render_iff]
      exact succeeds_bind_iff fun shown _ => AggregateKind.succeeds_render_iff scope shown kind
  | global id =>
      rw [Rvalue.render, Scope.succeeds_globalName_iff]
      simp [Rvalue.references]

theorem Callee.succeeds_render_iff (scope : Scope) (generics : Text) (callee : Callee) :
    Succeeds (callee.render scope generics) ↔ scope.ResolvesAll callee.references := by
  cases callee with
  | declared id =>
      rw [Callee.render, succeeds_bind_pure, Scope.succeeds_functionName_iff]
      simp [Callee.references]
  | builtin function => simp [Callee.render, Callee.references]

theorem Call.succeeds_render_iff (scope : Scope) (call : Call) :
    Succeeds (call.render scope) ↔ scope.ResolvesAll call.references := by
  simp only [Call.render, Call.references, Scope.resolvesAll_append, ← succeeds_genericArgs_iff,
    ← Operand.succeeds_mapM_render_iff, ← Place.succeeds_render_iff]
  refine succeeds_bind_iff fun generics _ => ?_
  rw [← Callee.succeeds_render_iff scope generics]
  exact succeeds_bind_iff fun _ _ => succeeds_bind_iff fun _ _ => succeeds_bind_pure _ _

/-! ## Statements -/

theorem Action.succeeds_render_iff (scope : Scope) (action : Action) :
    Succeeds (action.render scope) ↔ scope.ResolvesAll action.references := by
  cases action with
  | assign place value =>
      simp only [Action.render, Action.references, Scope.resolvesAll_append,
        ← Place.succeeds_render_iff, ← Rvalue.succeeds_render_iff]
      exact succeeds_bind_iff fun _ _ => succeeds_bind_pure _ _
  | fakeRead place =>
      rw [Action.render, succeeds_bind_pure, Action.references, Place.succeeds_render_iff]
  | setDiscriminant place variant =>
      rw [Action.render, succeeds_bind_pure, Action.references, Place.succeeds_render_iff]
  | drop place =>
      rw [Action.render, succeeds_bind_pure, Action.references, Place.succeeds_render_iff]
  | assert assertion =>
      rw [Action.render, Assertion.render, succeeds_bind_pure, Action.references,
        Operand.succeeds_render_iff]
  | call made => exact Call.succeeds_render_iff scope made
  | panic => simp [Action.render, Action.references]
  | ret => simp [Action.render, Action.references]
  | brk depth => simp [Action.render, Action.references]
  | cont depth => simp [Action.render, Action.references]
  | nop => simp [Action.render, Action.references]

mutual
/-- A statement is shown exactly when its references are resolved, whatever the indentation. -/
theorem Statement.succeeds_render_iff (scope : Scope) (step indent : Text) :
    (statement : Statement) →
      (Succeeds (statement.render scope step indent) ↔ scope.ResolvesAll statement.references)
  | .mk _ content => by
      rw [Statement.render, Statement.references]
      exact Content.succeeds_render_iff scope step indent content

/-- A content has a text exactly when its references resolve. -/
theorem Content.succeeds_render_iff (scope : Scope) (step indent : Text) :
    (content : Content) →
      (Succeeds (content.render scope step indent) ↔ scope.ResolvesAll content.references)
  | .action action => by
      rw [Content.render, succeeds_bind_pure, Content.references, Action.succeeds_render_iff]
  | .sequence first second => by
      have hfirst := Statement.succeeds_render_iff scope step indent first
      have hsecond := Statement.succeeds_render_iff scope step indent second
      simp only [Content.render, Content.references, Scope.resolvesAll_append, ← hfirst, ← hsecond]
      exact succeeds_bind_iff fun _ _ => succeeds_bind_pure _ _
  | .switch switch => by
      rw [Content.render, Content.references]
      exact Switch.succeeds_render_iff scope step indent switch
  | .loop body => by
      rw [Content.render, succeeds_bind_pure, Content.references]
      exact Statement.succeeds_render_iff scope step (indent ++ step) body

/-- A switch has a text exactly when its references resolve. -/
theorem Switch.succeeds_render_iff (scope : Scope) (step indent : Text) :
    (switch : Switch) →
      (Succeeds (switch.render scope step indent) ↔ scope.ResolvesAll switch.references)
  | .branch condition onTrue onFalse => by
      have htrue := Statement.succeeds_render_iff scope step (indent ++ step) onTrue
      have hfalse := Statement.succeeds_render_iff scope step (indent ++ step) onFalse
      simp only [Switch.render, Switch.references, Scope.resolvesAll_append,
        ← Operand.succeeds_render_iff, ← htrue, ← hfalse]
      exact succeeds_bind_iff fun _ _ => succeeds_bind_iff fun _ _ => succeeds_bind_pure _ _
  | .integer operand _ branches otherwise => by
      have hbranches :=
        Switch.succeeds_renderIntegerBranches_iff scope step (indent ++ step) branches
      have hlast := Statement.succeeds_render_iff scope step (indent ++ step ++ step) otherwise
      simp only [Switch.render, Switch.references, Scope.resolvesAll_append,
        ← Operand.succeeds_render_iff, ← hbranches, ← hlast]
      exact succeeds_bind_iff fun _ _ => succeeds_bind_iff fun _ _ => succeeds_bind_pure _ _
  | .variant place branches otherwise => by
      have hbranches :=
        Switch.succeeds_renderVariantBranches_iff scope step (indent ++ step) branches
      have hlast := Statement.succeeds_render_iff scope step (indent ++ step ++ step) otherwise
      simp only [Switch.render, Switch.references, Scope.resolvesAll_append,
        ← Place.succeeds_render_iff, ← hbranches, ← hlast]
      exact succeeds_bind_iff fun _ _ => succeeds_bind_iff fun _ _ => succeeds_bind_pure _ _

/-- Clauses on integers have texts exactly when their references resolve. -/
theorem Switch.succeeds_renderIntegerBranches_iff (scope : Scope) (step indent : Text) :
    (branches : List (List Scalar × Statement)) →
      (Succeeds (Switch.renderIntegerBranches scope step indent branches) ↔
        scope.ResolvesAll (Switch.integerReferences branches))
  | [] => by simp [Switch.renderIntegerBranches, Switch.integerReferences]
  | (_, body) :: rest => by
      have hbody := Statement.succeeds_render_iff scope step (indent ++ step) body
      have hrest := Switch.succeeds_renderIntegerBranches_iff scope step indent rest
      simp only [Switch.renderIntegerBranches, Switch.integerReferences, Scope.resolvesAll_append,
        ← hbody, ← hrest]
      exact succeeds_bind_iff fun _ _ => succeeds_bind_pure _ _

/-- Clauses on variants have texts exactly when their references resolve. -/
theorem Switch.succeeds_renderVariantBranches_iff (scope : Scope) (step indent : Text) :
    (branches : List (List Int × Statement)) →
      (Succeeds (Switch.renderVariantBranches scope step indent branches) ↔
        scope.ResolvesAll (Switch.variantReferences branches))
  | [] => by simp [Switch.renderVariantBranches, Switch.variantReferences]
  | (_, body) :: rest => by
      have hbody := Statement.succeeds_render_iff scope step (indent ++ step) body
      have hrest := Switch.succeeds_renderVariantBranches_iff scope step indent rest
      simp only [Switch.renderVariantBranches, Switch.variantReferences, Scope.resolvesAll_append,
        ← hbody, ← hrest]
      exact succeeds_bind_iff fun _ _ => succeeds_bind_pure _ _
end

/-! ## Declarations -/

theorem FieldDecl.succeeds_render_iff (scope : Scope) (field : FieldDecl) :
    Succeeds (field.render scope) ↔ scope.ResolvesAll field.references := by
  refine (succeeds_bind_iff_first fun shown _ => ?_).trans
    (Ty.succeeds_render_iff scope field.type)
  cases field.name <;> simp

/-- Fields have texts exactly when their references resolve. -/
theorem FieldDecl.succeeds_mapM_render_iff (scope : Scope) (fields : List FieldDecl) :
    Succeeds (fields.mapM (FieldDecl.render scope)) ↔
      scope.ResolvesAll (fields.flatMap FieldDecl.references) :=
  Scope.succeeds_mapM_iff_resolvesAll fun field _ => FieldDecl.succeeds_render_iff scope field

theorem Variant.succeeds_render_iff (scope : Scope) (variant : Variant) :
    Succeeds (variant.render scope) ↔ scope.ResolvesAll variant.references := by
  rw [Variant.render, Variant.references]
  split
  · rename_i hempty
    rw [List.isEmpty_iff.1 hempty]
    simp
  · rw [succeeds_bind_pure, FieldDecl.succeeds_mapM_render_iff]

/-- A type declaration has a text exactly when its references resolve. -/
theorem TypeDecl.succeeds_render_iff (scope : Scope) (step : Text) (decl : TypeDecl) :
    Succeeds (decl.render scope step) ↔ scope.ResolvesAll decl.references := by
  rw [TypeDecl.render, succeeds_bind_pure]
  unfold TypeBody.render TypeDecl.references
  cases decl.body with
  | struct fields =>
      dsimp only
      split
      · rename_i hempty
        rw [List.isEmpty_iff.1 hempty]
        simp
      · rw [succeeds_bind_pure, FieldDecl.succeeds_mapM_render_iff]
  | enum variants =>
      dsimp only
      split
      · rename_i hempty
        rw [List.isEmpty_iff.1 hempty]
        simp
      · rw [succeeds_bind_pure]
        exact Scope.succeeds_mapM_iff_resolvesAll fun variant _ =>
          Variant.succeeds_render_iff scope variant
  | hidden => simp

theorem GlobalDecl.succeeds_render_iff (scope : Scope) (indent : Text) (decl : GlobalDecl) :
    Succeeds (decl.render scope indent) ↔ scope.ResolvesAll decl.references := by
  simp only [GlobalDecl.render, GlobalDecl.references, Scope.resolvesAll_append,
    Scope.resolvesAll_cons, Scope.resolvesAll_nil, and_true, ← Ty.succeeds_render_iff,
    ← Scope.succeeds_functionName_iff]
  exact succeeds_bind_iff fun _ _ => succeeds_bind_pure _ _

/-- A function has a text exactly when its references resolve. -/
theorem FunDecl.succeeds_render_iff (scope : Scope) (step indent : Text) (decl : FunDecl) :
    Succeeds (decl.render scope step indent) ↔ scope.ResolvesAll decl.references := by
  rw [FunDecl.references, Scope.resolvesAll_append, ← Ty.succeeds_render_iff]
  refine succeeds_bind_iff fun result _ => ?_
  cases decl.body with
  | none =>
      dsimp only
      rw [succeeds_bind_pure, Ty.succeeds_renderAll_iff]
  | some body =>
      have hparameters : Succeeds
          ((body.parameters.zip decl.signature.inputs).mapM (renderParameter scope)) ↔
          scope.ResolvesAll ((body.parameters.zip decl.signature.inputs).flatMap
            fun parameter => parameter.2.references) := by
        refine Scope.succeeds_mapM_iff_resolvesAll fun parameter _ => ?_
        rw [renderParameter, succeeds_bind_pure, Ty.succeeds_render_iff]
      have hlocals : Succeeds (body.locals.mapM (Local.render scope (indent ++ step))) ↔
          scope.ResolvesAll (body.locals.flatMap fun var => var.type.references) := by
        refine Scope.succeeds_mapM_iff_resolvesAll fun var _ => ?_
        rw [Local.render, succeeds_bind_pure, Ty.succeeds_render_iff]
      simp only [Body.references, Scope.resolvesAll_append, ← hparameters, ← hlocals,
        ← Statement.succeeds_render_iff scope step (indent ++ step)]
      exact succeeds_bind_iff fun _ _ => succeeds_bind_iff fun _ _ => succeeds_bind_pure _ _

/-! ## Scopes of declarations -/

/-- The scope in which a declaration is listed. -/
def Declaration.scope (crate : Crate) : Declaration → Scope
  | .type decl => Scope.ofType crate decl
  | .global decl => Scope.ofGlobal crate decl
  | .function decl => Scope.ofFunction crate decl

/-- A declaration has a text exactly when its references resolve in its scope. -/
theorem Declaration.succeeds_renderIn_iff (crate : Crate) (step : Text) (decl : Declaration) :
    Succeeds (decl.renderIn crate step) ↔ (decl.scope crate).ResolvesAll decl.references := by
  cases decl with
  | type decl => exact TypeDecl.succeeds_render_iff _ step decl
  | global decl => exact GlobalDecl.succeeds_render_iff _ "" decl
  | function decl => exact FunDecl.succeeds_render_iff _ step "" decl

/-- Only which identifiers are in scope matters, not their order or how often they occur. -/
theorem Reference.declared_congr (crate : Crate)
    {locals locals' regions regions' types types' : List Int}
    (hlocals : ∀ id, id ∈ locals ↔ id ∈ locals') (hregions : ∀ id, id ∈ regions ↔ id ∈ regions')
    (htypes : ∀ id, id ∈ types ↔ id ∈ types') (reference : Reference) :
    reference.Declared crate locals regions types ↔
      reference.Declared crate locals' regions' types' := by
  cases reference with
  | localVar id => exact hlocals id
  | regionParam id => exact hregions id
  | typeParam id => exact htypes id
  | type id => rfl
  | function id => rfl
  | global id => rfl
  | fields id variant => rfl
  | field id variant index => rfl

/-- The scope of a declaration has just the locals and parameters of the declaration. -/
theorem Declaration.resolves_scope_iff (crate : Crate) (decl : Declaration)
    (reference : Reference) :
    (decl.scope crate).Resolves reference ↔
      reference.Declared crate (decl.locals.map Local.index)
        (decl.regionParams.map RegionParam.index) (decl.typeParams.map TypeParam.index) := by
  cases decl with
  | type decl =>
      exact Reference.declared_congr crate (fun _ => Iff.rfl)
        (Table.mem_keys_ofItems RegionParam.index decl.regionParams)
        (Table.mem_keys_ofItems TypeParam.index decl.typeParams) reference
  | global decl =>
      exact Reference.declared_congr crate (fun _ => Iff.rfl) (fun _ => Iff.rfl)
        (fun _ => Iff.rfl) reference
  | function decl =>
      have hlocals : ∀ id, id ∈ (Scope.localsOf decl).keys ↔
          id ∈ (Declaration.function decl).locals.map Local.index := by
        intro id
        cases hbody : decl.body with
        | none =>
            simp only [Scope.localsOf, Declaration.locals, hbody, Option.map_none, Option.getD_none]
            rfl
        | some body =>
            simp only [Scope.localsOf, Declaration.locals, hbody, Option.map_some, Option.getD_some]
            exact Table.mem_keys_ofItems Local.index body.locals id
      exact Reference.declared_congr crate hlocals
        (Table.mem_keys_ofItems RegionParam.index decl.signature.regionParams)
        (Table.mem_keys_ofItems TypeParam.index decl.signature.typeParams) reference

/-- A declaration is shown exactly when it is well scoped. -/
theorem Declaration.succeeds_render_iff (crate : Crate) (step : Text) (decl : Declaration) :
    Succeeds (decl.render crate step) ↔ decl.WellScoped crate := by
  rw [Declaration.render, succeeds_mapError, Declaration.succeeds_renderIn_iff]
  exact forall₂_congr fun reference _ => Declaration.resolves_scope_iff crate decl reference

/-- The listing of one declaration gives a text exactly when the crate has the declaration and
everything that it refers to is declared: in the crate, or among its own locals and generic
parameters. -/
theorem Crate.renderOne_succeeds_iff_wellScoped (crate : Crate) (options : Options)
    (kind : DeclKind) (id : Int) :
    (∃ text, crate.renderOne options kind id = .ok text) ↔
      ∃ decl, crate.find? kind id = some decl ∧ decl.WellScoped crate := by
  unfold Crate.renderOne
  cases hfind : crate.find? kind id with
  | none => simp
  | some decl =>
      simp only [Option.some.injEq, exists_eq_left']
      exact Declaration.succeeds_render_iff crate options.indentStep decl

end CrateListing
