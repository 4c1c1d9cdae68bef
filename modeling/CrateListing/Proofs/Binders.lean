import CrateListing.Proofs.Resolution

/-!
# Binders and their uses

A declaration shows its locals and generic parameters where it binds them: in the
angle brackets behind its name, in the list of its parameters, and in the lines in
front of its body.  Where they are used, they are looked up by their indices in the
scope of the declaration.  Both show the same names when no index is bound twice;
otherwise the last binder with an index is the one that its uses show.

Main definitions:

- `IsLast`: an item behind which no other item with its index stands.
- `Scope.ShowsLast`: uses show the last binders with their indices.
- `Declaration.DistinctBinders`: no index is bound twice.
- `FunDecl.ShownByUses`, `TypeDecl.ShownByUses`: declarations whose binders are shown as uses are.

Main results:

- Theorem `Table.find?_ofItems_eq_some_iff`: the last item with an index is the one that is found.
- Theorem `Declaration.showsLast_scope`: uses in a declaration show its last binders.
- Theorem `binders_shown_as_uses`: binders are shown in the way of their uses.
-/

namespace CrateListing

open Outcome

/-! ## The last item with an index -/

section Last

variable {α : Type} {index : α → Int} {items : List α} {item : α}

/-- An item behind which no other item with its index stands. -/
def IsLast (index : α → Int) (items : List α) (item : α) : Prop :=
  ∃ before after, items = before ++ item :: after ∧ ∀ other ∈ after, index other ≠ index item

/-- When no index occurs twice, every item is the last one with its index. -/
theorem isLast_of_nodup (hnodup : (items.map index).Nodup) (h : item ∈ items) :
    IsLast index items item := by
  obtain ⟨before, after, rfl⟩ := List.append_of_mem h
  refine ⟨before, after, rfl, fun other hother heq => ?_⟩
  rw [List.map_append, List.map_cons] at hnodup
  have htail := (List.nodup_cons.1 (List.nodup_append.1 hnodup).2.1).1
  exact htail (List.mem_map.2 ⟨other, hother, heq⟩)

/-- A table of items finds the last item with an index. -/
theorem Table.find?_ofItems_eq_some_iff {key : Int} :
    (Table.ofItems index items).find? key = some item ↔
      IsLast index items item ∧ index item = key := by
  rw [Table.find?_ofItems, List.find?_eq_some_iff_append]
  constructor
  · rintro ⟨hkey, after, before, hitems, hafter⟩
    have hkey : index item = key := by simpa using hkey
    refine ⟨⟨before.reverse, after.reverse, ?_, fun other hother heq => ?_⟩, hkey⟩
    · have hreverse := congrArg List.reverse hitems
      simpa using hreverse
    · have hne := hafter other (List.mem_reverse.1 hother)
      simp [heq, hkey] at hne
  · rintro ⟨⟨before, after, rfl, hafter⟩, rfl⟩
    refine ⟨by simp, after.reverse, before.reverse, by simp, fun other hother => ?_⟩
    simpa using hafter other (List.mem_reverse.1 hother)

/-- What is shown of an item that is looked up is what is shown of the last item with its index. -/
theorem Scope.shown_eq_ok_iff {scope : Scope} {fault : Fault} {shown : α → Text} {key : Int}
    {text : Text} :
    (do
      let item ← scope.require fault ((Table.ofItems index items).find? key)
      return shown item) = .ok text ↔
      ∃ item, IsLast index items item ∧ index item = key ∧ shown item = text := by
  simp only [bind_eq_ok_iff, Scope.require_eq_ok_iff, Table.find?_ofItems_eq_some_iff, pure_eq_ok,
    Except.ok.injEq, and_assoc]

end Last

/-! ## Uses in a declaration -/

/-- The last binder with an index is the one that its uses show: of a local the places without
projections, of a parameter the region or the type that stands for it. -/
structure Scope.ShowsLast (scope : Scope) (locals : List Local) (regionParams : List RegionParam)
    (typeParams : List TypeParam) : Prop where
  place : ∀ id text, (Place.mk id []).render scope = .ok text ↔
    ∃ var, IsLast Local.index locals var ∧ var.index = id ∧ var.shown = text
  region : ∀ id text, (Region.var id).render scope = .ok text ↔
    ∃ param, IsLast RegionParam.index regionParams param ∧ param.index = id ∧ param.shown = text
  type : ∀ id text, (Ty.var id).render scope = .ok text ↔
    ∃ param, IsLast TypeParam.index typeParams param ∧ param.index = id ∧ param.name = text

/-- A place without projections is shown as its local is. -/
theorem Place.render_bare (scope : Scope) (id : Int) :
    (Place.mk id []).render scope = scope.localName id := by
  show (scope.localName id >>= fun root => Except.ok root) = scope.localName id
  cases scope.localName id <;> rfl

/-- A scope with the tables of some binders. -/
theorem Scope.showsLast_of_ofItems {scope : Scope} {locals : List Local}
    {regionParams : List RegionParam} {typeParams : List TypeParam}
    (hlocals : scope.locals = Table.ofItems Local.index locals)
    (hregions : scope.regionParams = Table.ofItems RegionParam.index regionParams)
    (htypes : scope.typeParams = Table.ofItems TypeParam.index typeParams) :
    scope.ShowsLast locals regionParams typeParams where
  place id text := by
    rw [Place.render_bare, Scope.localName, hlocals]
    exact Scope.shown_eq_ok_iff
  region id text := by
    rw [Region.render, Scope.regionParamName, hregions]
    exact Scope.shown_eq_ok_iff
  type id text := by
    rw [Ty.render, Scope.typeParamName, htypes]
    exact Scope.shown_eq_ok_iff

/-- Uses in a declaration show its last binders. -/
theorem Declaration.showsLast_scope (crate : Crate) (decl : Declaration) :
    (decl.scope crate).ShowsLast decl.locals decl.regionParams decl.typeParams := by
  cases decl with
  | type decl => exact Scope.showsLast_of_ofItems rfl rfl rfl
  | global decl => exact Scope.showsLast_of_ofItems rfl rfl rfl
  | function decl =>
      refine Scope.showsLast_of_ofItems ?_ rfl rfl
      show Scope.localsOf decl = Table.ofItems Local.index ((decl.body.map Body.locals).getD [])
      rw [Scope.localsOf]
      cases decl.body <;> rfl

/-! ## Distinct binders -/

/-- No index is bound twice. -/
structure Declaration.DistinctBinders (decl : Declaration) : Prop where
  locals : (decl.locals.map Local.index).Nodup
  regionParams : (decl.regionParams.map RegionParam.index).Nodup
  typeParams : (decl.typeParams.map TypeParam.index).Nodup

/-- Generic parameters as generic arguments. -/
def genericUses (scope : Scope) (regionParams : List RegionParam) (typeParams : List TypeParam) :
    Except InternalError Text :=
  genericArgs scope (regionParams.map fun param => .var param.index)
    (typeParams.map fun param => .var param.index)

/-- A local as a place, with a type. -/
def Local.typedUse (scope : Scope) (var : Local) (type : Ty) : Except InternalError Text := do
  let name ← (Place.mk var.index []).render scope
  let shown ← type.render scope
  return name ++ " : " ++ shown

/-- Types are shown one after the other. -/
theorem Ty.renderAll_eq_mapM (scope : Scope) (types : List Ty) :
    Ty.renderAll scope types = types.mapM (Ty.render scope) := by
  induction types with
  | nil => rfl
  | cons ty rest ih =>
      rw [Ty.renderAll, List.mapM_cons, ih]

section Distinct

variable {crate : Crate} {decl : Declaration} (h : decl.DistinctBinders)

include h

/-- A local that is used as a place is shown as in its binder. -/
theorem Declaration.DistinctBinders.place {var : Local} (hvar : var ∈ decl.locals) :
    (Place.mk var.index []).render (decl.scope crate) = .ok var.shown :=
  ((decl.showsLast_scope crate).place _ _).2 ⟨var, isLast_of_nodup h.locals hvar, rfl, rfl⟩

/-- A region parameter that is used is shown as in its binder. -/
theorem Declaration.DistinctBinders.region {param : RegionParam}
    (hparam : param ∈ decl.regionParams) :
    (Region.var param.index).render (decl.scope crate) = .ok param.shown :=
  ((decl.showsLast_scope crate).region _ _).2
    ⟨param, isLast_of_nodup h.regionParams hparam, rfl, rfl⟩

/-- A type parameter that is used is shown as in its binder. -/
theorem Declaration.DistinctBinders.type {param : TypeParam} (hparam : param ∈ decl.typeParams) :
    (Ty.var param.index).render (decl.scope crate) = .ok param.name :=
  ((decl.showsLast_scope crate).type _ _).2 ⟨param, isLast_of_nodup h.typeParams hparam, rfl, rfl⟩

/-- Generic parameters are shown as generic arguments are. -/
theorem Declaration.DistinctBinders.genericUses_eq :
    genericUses (decl.scope crate) decl.regionParams decl.typeParams
      = .ok (genericParams decl.regionParams decl.typeParams) := by
  have hregions : (decl.regionParams.map fun param => Region.var param.index).mapM
      (Region.render (decl.scope crate)) = .ok (decl.regionParams.map RegionParam.shown) :=
    mapM_map_of_eq_ok fun param hparam => h.region hparam
  have htypes : Ty.renderAll (decl.scope crate)
      (decl.typeParams.map fun param => Ty.var param.index)
        = .ok (decl.typeParams.map TypeParam.name) := by
    rw [Ty.renderAll_eq_mapM]
    exact mapM_map_of_eq_ok fun param hparam => h.type hparam
  rw [genericUses, genericArgs, hregions, ok_bind, htypes, ok_bind]
  rfl

/-- A local with a type is shown where it is bound as it is where it is used. -/
theorem Declaration.DistinctBinders.typedUse_eq {var : Local} (hvar : var ∈ decl.locals)
    (type : Ty) :
    var.typedUse (decl.scope crate) type = renderParameter (decl.scope crate) (var, type) := by
  rw [Local.typedUse, h.place hvar, ok_bind]
  rfl

end Distinct

/-- The line of a local is the local with its type. -/
theorem Local.render_eq_parameter (scope : Scope) (indent : Text) (var : Local) :
    var.render scope indent
      = (renderParameter scope (var, var.type)).map fun shown => indent ++ shown ++ ";\n" := by
  rw [Local.render, renderParameter]
  cases var.type.render scope <;> simp [Except.map, pure_eq_ok, Text.append_assoc]

/-- The parameters are locals. -/
theorem Body.mem_locals_of_mem_parameters {body : Body} {var : Local}
    (h : var ∈ body.parameters) : var ∈ body.locals := by
  rw [Body.parameters] at h
  exact List.mem_of_mem_take (List.mem_of_mem_drop h)

/-! ## Functions -/

/-- The text of a function with a body whose binders are shown as uses are: the generic parameters
as arguments, and the locals as places, both in the list of parameters and in front of the body. -/
def FunDecl.ShownByUses (scope : Scope) (step indent : Text) (decl : FunDecl) (body : Body)
    (text : Text) : Prop :=
  ∃ generics result parameters locals statement,
    genericUses scope decl.signature.regionParams decl.signature.typeParams = .ok generics ∧
    decl.signature.output.render scope = .ok result ∧
    (body.parameters.zip decl.signature.inputs).mapM
      (fun parameter => parameter.1.typedUse scope parameter.2) = .ok parameters ∧
    body.locals.mapM (fun var => var.typedUse scope var.type) = .ok locals ∧
    body.statement.render scope step (indent ++ step) = .ok statement ∧
    text = block indent
      ("fn " ++ decl.name.joined ++ generics ++ parenthesized parameters ++ " -> " ++ result)
      (Text.join (locals.map fun shown => indent ++ step ++ shown ++ ";\n")
        ++ (if locals.isEmpty then ("" : Text) else "\n") ++ statement)

section Functions

variable {crate : Crate} {decl : FunDecl} {body : Body} (hbody : decl.body = some body)
  (h : (Declaration.function decl).DistinctBinders)

include hbody h

/-- A local with a type is shown as in the list of parameters. -/
theorem FunDecl.typedUse_eq_parameter {var : Local} (hvar : var ∈ body.locals) (type : Ty) :
    var.typedUse (Scope.ofFunction crate decl) type
      = renderParameter (Scope.ofFunction crate decl) (var, type) :=
  h.typedUse_eq (by simpa [Declaration.locals, hbody] using hvar) type

/-- The list of parameters. -/
theorem FunDecl.mapM_renderParameter :
    (body.parameters.zip decl.signature.inputs).mapM
        (renderParameter (Scope.ofFunction crate decl))
      = (body.parameters.zip decl.signature.inputs).mapM fun parameter =>
          parameter.1.typedUse (Scope.ofFunction crate decl) parameter.2 := by
  refine mapM_congr fun parameter hparameter => ?_
  have hvar := Body.mem_locals_of_mem_parameters (List.of_mem_zip hparameter).1
  exact (FunDecl.typedUse_eq_parameter hbody h hvar parameter.2).symm

/-- The lines in front of the body. -/
theorem FunDecl.mapM_render_locals (indent : Text) :
    body.locals.mapM (Local.render (Scope.ofFunction crate decl) indent)
      = (body.locals.mapM fun var =>
          Local.typedUse (Scope.ofFunction crate decl) var var.type).map
            (List.map fun shown => indent ++ shown ++ ";\n") := by
  rw [map_mapM]
  refine mapM_congr fun var hvar => ?_
  rw [Local.render_eq_parameter, FunDecl.typedUse_eq_parameter hbody h hvar]

/-- The text of a function with distinct binders is the one with the binders shown as uses. -/
theorem FunDecl.render_eq_ok_iff_shownByUses (step indent text : Text) :
    decl.render (Scope.ofFunction crate decl) step indent = .ok text ↔
      decl.ShownByUses (Scope.ofFunction crate decl) step indent body text := by
  have hgenerics : genericUses (Scope.ofFunction crate decl) decl.signature.regionParams
      decl.signature.typeParams
        = .ok (genericParams decl.signature.regionParams decl.signature.typeParams) :=
    h.genericUses_eq
  simp only [FunDecl.render, hbody, FunDecl.ShownByUses, bind_eq_ok_iff, pure_eq_ok,
    FunDecl.mapM_render_locals hbody h, FunDecl.mapM_renderParameter hbody h, hgenerics,
    map_eq_ok_iff, Except.ok.injEq]
  constructor
  · rintro ⟨result, hresult, parameters, hparameters, _, ⟨locals, hlocals, rfl⟩, statement,
      hstatement, rfl⟩
    exact ⟨_, result, parameters, locals, statement, rfl, hresult, hparameters, hlocals,
      hstatement, by simp [Text.append_assoc]⟩
  · rintro ⟨_, result, parameters, locals, statement, rfl, hresult, hparameters, hlocals,
      hstatement, rfl⟩
    exact ⟨result, hresult, parameters, hparameters, _, ⟨locals, hlocals, rfl⟩, statement,
      hstatement, by simp [Text.append_assoc]⟩

end Functions

/-! ## Types -/

/-- The text of a type whose generic parameters are shown as arguments. -/
def TypeDecl.ShownByUses (scope : Scope) (step : Text) (decl : TypeDecl) (text : Text) : Prop :=
  ∃ generics inside,
    genericUses scope decl.regionParams decl.typeParams = .ok generics ∧
    decl.body.render scope step = .ok inside ∧
    text = decl.body.keyword ++ decl.name.joined ++ generics ++ inside

/-- The text of a type with distinct parameters is the one with the parameters shown as uses. -/
theorem TypeDecl.render_eq_ok_iff_shownByUses {crate : Crate} {decl : TypeDecl}
    (h : (Declaration.type decl).DistinctBinders) (step text : Text) :
    decl.render (Scope.ofType crate decl) step = .ok text ↔
      decl.ShownByUses (Scope.ofType crate decl) step text := by
  have hgenerics : genericUses (Scope.ofType crate decl) decl.regionParams decl.typeParams
      = .ok (genericParams decl.regionParams decl.typeParams) := h.genericUses_eq
  rw [TypeDecl.render, bind_eq_ok_iff, TypeDecl.ShownByUses, hgenerics]
  constructor
  · rintro ⟨inside, hinside, ⟨⟩⟩
    exact ⟨_, inside, rfl, hinside, rfl⟩
  · rintro ⟨_, inside, ⟨⟩, hinside, rfl⟩
    exact ⟨inside, hinside, rfl⟩

/-! ## Binders and uses -/

/-- Wherever a local or a generic parameter is used in a declaration, the last binder with its index
is shown.  When no index is bound twice, this is what is shown of each binder, and the texts of
functions with bodies and of types are those with all binders shown in the way of uses. -/
theorem binders_shown_as_uses (crate : Crate) :
    (∀ decl : Declaration,
      (decl.scope crate).ShowsLast decl.locals decl.regionParams decl.typeParams) ∧
    (∀ decl : Declaration, decl.DistinctBinders →
      (∀ var ∈ decl.locals, (Place.mk var.index []).render (decl.scope crate) = .ok var.shown) ∧
      (∀ param ∈ decl.regionParams,
        (Region.var param.index).render (decl.scope crate) = .ok param.shown) ∧
      ∀ param ∈ decl.typeParams,
        (Ty.var param.index).render (decl.scope crate) = .ok param.name) ∧
    (∀ (decl : FunDecl) (body : Body), decl.body = some body →
      (Declaration.function decl).DistinctBinders → ∀ step indent text,
        decl.render (Scope.ofFunction crate decl) step indent = .ok text ↔
          decl.ShownByUses (Scope.ofFunction crate decl) step indent body text) ∧
    ∀ decl : TypeDecl, (Declaration.type decl).DistinctBinders → ∀ step text,
      decl.render (Scope.ofType crate decl) step = .ok text ↔
        decl.ShownByUses (Scope.ofType crate decl) step text := by
  refine ⟨fun decl => decl.showsLast_scope crate, fun decl h => ⟨?_, ?_, ?_⟩, ?_, ?_⟩
  · exact fun var hvar => h.place hvar
  · exact fun param hparam => h.region hparam
  · exact fun param hparam => h.type hparam
  · exact fun decl body hbody h => FunDecl.render_eq_ok_iff_shownByUses hbody h
  · exact fun decl h => TypeDecl.render_eq_ok_iff_shownByUses h

/-- A body that reads through a reference, with a local that has no name. -/
def Body.readingReference : Body :=
  ⟨1, [⟨0, none, .var 0⟩, ⟨1, some "x", .ref (.var 1) (.var 0) .shared⟩],
    .mk none (.action (.assign ⟨0, []⟩ (.use (.copy ⟨1, [.deref]⟩))))⟩

/-- A function with this body, and with a region parameter that has no name. -/
def FunDecl.readingReference : FunDecl :=
  ⟨0, ["read"], ⟨[.ref (.var 1) (.var 0) .shared], .var 0, [⟨1, none⟩], [⟨0, "T"⟩]⟩,
    some Body.readingReference, none⟩

/-- A type with two parameters for one index. -/
def TypeDecl.withRepeatedParam : TypeDecl :=
  ⟨0, ["Twice"], .struct [⟨some "value", .var 0⟩], [], [⟨0, "T"⟩, ⟨0, "U"⟩], none⟩

/-- The binders of a function are shown by its uses, also those without names; a field shows the
second parameter with its index. -/
theorem binders_shown_of_readingReference :
    (Declaration.function FunDecl.readingReference).DistinctBinders ∧
    FunDecl.readingReference.ShownByUses (Scope.ofFunction {} FunDecl.readingReference) "  " ""
      Body.readingReference
      ("fn read<'_1, T>(x : &'_1 T) -> T \x7b\n  var@0 : T;\n  x : &'_1 T;\n\n"
        ++ "  var@0 := copy *(x)\n\x7d") ∧
    (Region.var 1).render (Scope.ofFunction {} FunDecl.readingReference) = .ok "'_1" ∧
    (Ty.var 0).render (Scope.ofType {} TypeDecl.withRepeatedParam) = .ok "U" := by
  obtain ⟨hlast, hdistinct, hfunction, -⟩ := binders_shown_as_uses {}
  have hbinders : (Declaration.function FunDecl.readingReference).DistinctBinders :=
    ⟨by decide, by decide, by decide⟩
  refine ⟨hbinders, (hfunction _ _ rfl hbinders _ _ _).1 rfl, ?_, ?_⟩
  · exact (hdistinct _ hbinders).2.1 ⟨1, none⟩ List.mem_cons_self
  · exact ((hlast (.type TypeDecl.withRepeatedParam)).type 0 "U").2
      ⟨⟨0, "U"⟩, ⟨[⟨0, "T"⟩], [], rfl, List.forall_mem_nil _⟩, rfl, rfl⟩

end CrateListing
