import CrateListing.Proofs.Resolution
import CrateListing.Proofs.TypeForms

/-!
# Types with the same text

When the names in a scope differ from each other and from the words of the
language, the form of a type can be read back: each word stands for one type
constructor, and each name of a region for one region.  What comes back is the type
without the region arguments of its tuples, which are not shown.  So different types
have different texts.

Main definitions:

- `TypeWord`: what a word in a type stands for.
- `TypeForm.toTy?`: the type that a form is read as.
- `Scope.TellsTypesApart`: the names in a scope differ from each other and can be read.
- `Ty.withoutTupleRegions`: a type without the region arguments of its tuples.

Main results:

- Theorem `Ty.readsAs_form`: the form of a type is read as the type.
- Theorem `Ty.render_eq_iff`: types with the same text are the same.
-/

namespace CrateListing

open Outcome

/-! ## What words stand for -/

/-- What a word in a type stands for. -/
inductive TypeWord where
  | bool
  | char
  | never
  | str
  | integer (ty : IntegerType)
  | builtin (ty : BuiltinType)
  | declared (id : Int)
  | param (id : Int)
deriving DecidableEq, Repr

/-- The type that a word with generic arguments stands for. -/
def TypeWord.type (regions : List Region) (types : List Ty) : TypeWord → Ty
  | .bool => .bool
  | .char => .char
  | .never => .never
  | .str => .str
  | .integer ty => .integer ty
  | .builtin ty => .adt (.builtin ty) regions types
  | .declared id => .adt (.declared id) regions types
  | .param id => .var id

/-- The words that have a fixed meaning. -/
def reservedTypeWords : List (Text × TypeWord) :=
  ([("bool", .bool), ("char", .char), ("!", .never), ("str", .str)] : List (Text × TypeWord))
    ++ IntegerType.all.map (fun ty => (ty.name, .integer ty))
    ++ [BuiltinType.box, .vec, .option].map fun ty => (ty.name, .builtin ty)

/-- The names that have a fixed meaning in types. -/
def reservedTypeNames : List Text :=
  ["bool", "char", "!", "str", "isize", "i8", "i16", "i32", "i64", "i128", "usize", "u8", "u16",
    "u32", "u64", "u128", "Box", "Vec", "Option"]

namespace Scope

/-- The names of the declared types and of the type parameters. -/
def typeNames (scope : Scope) : List Text :=
  scope.crate.types.values.map (fun decl => decl.name.joined)
    ++ scope.typeParams.values.map TypeParam.name

/-- The names of the region parameters. -/
def regionNames (scope : Scope) : List Text :=
  scope.regionParams.values.map RegionParam.shown

/-- What the words in types stand for. -/
def typeWords (scope : Scope) : List (Text × TypeWord) :=
  reservedTypeWords
    ++ (scope.crate.types.entries.map (fun entry => (entry.2.name.joined, .declared entry.1))
      ++ scope.typeParams.entries.map (fun entry => (entry.2.name, .param entry.1)))

/-- What the names of regions stand for. -/
def regionWords (scope : Scope) : List (Text × Region) :=
  ("'static", .static) :: ("'_", .erased)
    :: scope.regionParams.entries.map (fun entry => (entry.2.shown, .var entry.1))

/-- The names in types differ from each other and from the words of the language, and can be told
from what is around them. -/
structure TellsTypesApart (scope : Scope) : Prop where
  typeWord : ∀ name ∈ scope.typeNames, IsTypeWord name
  typesDiffer : (reservedTypeNames ++ scope.typeNames).Nodup
  regionWord : ∀ name ∈ scope.regionNames, IsRegionWord name
  regionsDiffer : (("'static" : Text) :: "'_" :: scope.regionNames).Nodup

/-- The words for types are the reserved names and the names in the scope. -/
theorem keys_typeWords (scope : Scope) :
    Assoc.keys scope.typeWords = reservedTypeNames ++ scope.typeNames := by
  have hreserved : Assoc.keys reservedTypeWords = reservedTypeNames := by
    rfl
  simp [typeWords, typeNames, Assoc.keys, ← hreserved, Table.values, Assoc.values,
    Function.comp_def]

/-- The words for regions are the reserved names and the names in the scope. -/
theorem keys_regionWords (scope : Scope) :
    Assoc.keys scope.regionWords = ("'static" : Text) :: "'_" :: scope.regionNames := by
  simp [regionWords, regionNames, Assoc.keys, Table.values, Assoc.values, Function.comp_def]

/-- A word can be told from what is around it, and stands for one thing only. -/
structure ReadsWord (scope : Scope) (word : TypeWord) (name : Text) : Prop where
  legible : IsTypeWord name
  found : Assoc.find? name scope.typeWords = some word

/-- The name of a region can be told from what is around it, and stands for one region only. -/
structure ReadsRegion (scope : Scope) (region : Region) (name : Text) : Prop where
  legible : IsRegionWord name
  found : Assoc.find? name scope.regionWords = some region

namespace TellsTypesApart

variable {scope : Scope} (h : scope.TellsTypesApart)

include h

/-- A word for a type is read as what it stands for. -/
theorem readsWord {name : Text} {word : TypeWord} (hmem : (name, word) ∈ scope.typeWords) :
    scope.ReadsWord word name := by
  have hkeys := scope.keys_typeWords
  have hnodup : (Assoc.keys scope.typeWords).Nodup := hkeys ▸ h.typesDiffer
  refine ⟨?_, Assoc.find?_of_mem hnodup hmem⟩
  have hname : name ∈ reservedTypeNames ++ scope.typeNames :=
    hkeys ▸ List.mem_map_of_mem hmem
  have hreserved : ∀ reserved ∈ reservedTypeNames, IsTypeWord reserved := by
    decide
  rcases List.mem_append.1 hname with hname | hname
  · exact hreserved name hname
  · exact h.typeWord name hname

/-- The name of a type is read as the type with its identifier. -/
theorem readsTypeName (id : Int) :
    Gives (scope.typeName id) (scope.ReadsWord (.declared id)) := by
  refine gives_shown fun decl hdecl => h.readsWord ?_
  have hentry : (id, decl) ∈ scope.crate.types.entries := Assoc.mem_of_find? hdecl
  exact List.mem_append_right _ (List.mem_append_left _ (List.mem_map_of_mem hentry))

/-- The name of a type parameter is read as the parameter with its index. -/
theorem readsTypeParamName (id : Int) :
    Gives (scope.typeParamName id) (scope.ReadsWord (.param id)) := by
  refine gives_shown fun param hparam => h.readsWord ?_
  have hentry : (id, param) ∈ scope.typeParams.entries := Assoc.mem_of_find? hparam
  exact List.mem_append_right _ (List.mem_append_right _ (List.mem_map_of_mem hentry))

/-- The text of a region is read as the region. -/
theorem readsRegion (region : Region) :
    Gives (region.render scope) (scope.ReadsRegion region) := by
  have hkeys := scope.keys_regionWords
  have hnodup : (Assoc.keys scope.regionWords).Nodup := hkeys ▸ h.regionsDiffer
  cases region with
  | static => exact gives_ok ⟨by decide, by simp [regionWords, Assoc.find?]⟩
  | erased => exact gives_ok ⟨by decide, by simp [regionWords, Assoc.find?]⟩
  | var id =>
      refine gives_shown fun param hparam => ?_
      have hentry : (id, param) ∈ scope.regionParams.entries := Assoc.mem_of_find? hparam
      have hname : param.shown ∈ scope.regionNames :=
        List.mem_map_of_mem (List.mem_map_of_mem hentry)
      refine ⟨h.regionWord _ hname, Assoc.find?_of_mem hnodup ?_⟩
      exact List.mem_cons_of_mem _ (List.mem_cons_of_mem _ (List.mem_map_of_mem hentry))

end TellsTypesApart

end Scope

/-! ## Reading types back -/

mutual
/-- The type that a form is read as. -/
def TypeForm.toTy? (scope : Scope) : TypeForm → Option Ty
  | .word name regions arguments => do
      let word ← Assoc.find? name scope.typeWords
      let regions ← regions.mapM fun region => Assoc.find? region scope.regionWords
      let types ← TypeForm.toTys? scope arguments
      return word.type regions types
  | .tuple items => do
      let types ← TypeForm.toTys? scope items
      return .adt .tuple [] types
  | .array element => do
      let ty ← element.toTy? scope
      return .array ty
  | .slice element => do
      let ty ← element.toTy? scope
      return .slice ty
  | .ref region mutability target => do
      let region ← Assoc.find? region scope.regionWords
      let ty ← target.toTy? scope
      return .ref region ty mutability

/-- The types that forms are read as, one after the other. -/
def TypeForm.toTys? (scope : Scope) : List TypeForm → Option (List Ty)
  | [] => some []
  | form :: rest => do
      let ty ← form.toTy? scope
      let types ← TypeForm.toTys? scope rest
      return ty :: types
end

mutual
/-- A type without the region arguments of its tuples. -/
def Ty.withoutTupleRegions : Ty → Ty
  | .adt .tuple _ types => .adt .tuple [] (Ty.withoutTupleRegionsAll types)
  | .adt (.declared id) regions types =>
      .adt (.declared id) regions (Ty.withoutTupleRegionsAll types)
  | .adt (.builtin ty) regions types => .adt (.builtin ty) regions (Ty.withoutTupleRegionsAll types)
  | .var id => .var id
  | .bool => .bool
  | .char => .char
  | .never => .never
  | .integer ty => .integer ty
  | .str => .str
  | .array element => .array element.withoutTupleRegions
  | .slice element => .slice element.withoutTupleRegions
  | .ref region target mutability => .ref region target.withoutTupleRegions mutability

/-- Types without the region arguments of their tuples. -/
def Ty.withoutTupleRegionsAll : List Ty → List Ty
  | [] => []
  | ty :: rest => ty.withoutTupleRegions :: Ty.withoutTupleRegionsAll rest
end

/-- The names of regions can be read, and stand for regions. -/
structure Scope.ReadsRegions (scope : Scope) (regions : List Region) (names : List Text) :
    Prop where
  legible : ∀ name ∈ names, IsRegionWord name
  found : names.mapM (fun name => Assoc.find? name scope.regionWords) = some regions

/-- A form can be read, and is read as a type. -/
structure TypeForm.ReadsAs (scope : Scope) (ty : Ty) (form : TypeForm) : Prop where
  legible : form.Legible
  read : form.toTy? scope = some ty

/-- Forms can be read, and are read as types. -/
structure TypeForm.AllReadAs (scope : Scope) (types : List Ty) (forms : List TypeForm) :
    Prop where
  legible : ∀ form ∈ forms, form.Legible
  read : TypeForm.toTys? scope forms = some types

section Reading

variable {scope : Scope}

/-- A word with generic arguments is read as its type. -/
theorem TypeForm.readsAs_word {name : Text} {regionNames : List Text}
    {arguments : List TypeForm} {word : TypeWord} {regions : List Region} {types : List Ty}
    (hword : scope.ReadsWord word name) (hregions : scope.ReadsRegions regions regionNames)
    (harguments : TypeForm.AllReadAs scope types arguments) :
    (TypeForm.word name regionNames arguments).ReadsAs scope (word.type regions types) := by
  refine ⟨.word hword.legible hregions.legible harguments.legible, ?_⟩
  simp [TypeForm.toTy?, hword.found, hregions.found, harguments.read]

/-- A word without generic arguments is read as its type. -/
theorem TypeForm.readsAs_word_nil {name : Text} {word : TypeWord}
    (hword : scope.ReadsWord word name) :
    (TypeForm.word name [] []).ReadsAs scope (word.type [] []) :=
  TypeForm.readsAs_word hword ⟨nofun, rfl⟩ ⟨nofun, by simp [TypeForm.toTys?]⟩

variable (hscope : scope.TellsTypesApart)

include hscope

/-- A reserved word is read as its type. -/
theorem TypeForm.readsAs_reserved {name : Text} {word : TypeWord}
    (hmem : (name, word) ∈ reservedTypeWords) :
    (TypeForm.word name [] []).ReadsAs scope (word.type [] []) :=
  TypeForm.readsAs_word_nil (hscope.readsWord (List.mem_append_left _ hmem))

/-- The texts of regions are read as the regions. -/
theorem Region.reads_mapM_render (regions : List Region) :
    Gives (regions.mapM (Region.render scope)) (scope.ReadsRegions regions) := by
  induction regions with
  | nil => exact gives_ok ⟨nofun, rfl⟩
  | cons region rest ih =>
      rw [List.mapM_cons]
      refine (hscope.readsRegion region).bind fun name hname => ?_
      refine ih.bind_pure fun names hnames =>
        ⟨List.forall_mem_cons.2 ⟨hname.legible, hnames.legible⟩, ?_⟩
      simp [List.mapM_cons, hname.found, hnames.found]

omit hscope

mutual
/-- The form of a type is read as the type. -/
theorem Ty.readsAs_form (hscope : scope.TellsTypesApart) :
    (ty : Ty) → Gives (ty.form scope) (TypeForm.ReadsAs scope ty.withoutTupleRegions)
  | .adt .tuple _ types => by
      rw [Ty.form, Ty.withoutTupleRegions]
      refine (Ty.readAs_forms hscope types).bind_pure fun items hitems =>
        ⟨.tuple hitems.legible, ?_⟩
      simp [TypeForm.toTy?, hitems.read]
  | .adt (.declared id) regions types => by
      rw [Ty.form, Ty.withoutTupleRegions]
      refine (hscope.readsTypeName id).bind fun name hname => ?_
      refine (Region.reads_mapM_render hscope regions).bind fun names hnames => ?_
      exact (Ty.readAs_forms hscope types).bind_pure fun arguments harguments =>
        TypeForm.readsAs_word hname hnames harguments
  | .adt (.builtin ty) regions types => by
      rw [Ty.form, Ty.withoutTupleRegions]
      have hmem : (ty.name, TypeWord.builtin ty) ∈ reservedTypeWords := by
        cases ty <;> decide
      have hname := hscope.readsWord (List.mem_append_left _ hmem)
      refine (Region.reads_mapM_render hscope regions).bind fun names hnames => ?_
      exact (Ty.readAs_forms hscope types).bind_pure fun arguments harguments =>
        TypeForm.readsAs_word hname hnames harguments
  | .var id => by
      rw [Ty.form, Ty.withoutTupleRegions]
      exact (hscope.readsTypeParamName id).bind_pure fun name hname =>
        TypeForm.readsAs_word_nil hname
  | .bool => by
      rw [Ty.form, Ty.withoutTupleRegions]
      exact gives_ok (TypeForm.readsAs_reserved hscope (by decide : (_, TypeWord.bool) ∈ _))
  | .char => by
      rw [Ty.form, Ty.withoutTupleRegions]
      exact gives_ok (TypeForm.readsAs_reserved hscope (by decide : (_, TypeWord.char) ∈ _))
  | .never => by
      rw [Ty.form, Ty.withoutTupleRegions]
      exact gives_ok (TypeForm.readsAs_reserved hscope (by decide : (_, TypeWord.never) ∈ _))
  | .integer ty => by
      rw [Ty.form, Ty.withoutTupleRegions]
      have hmem : (ty.name, TypeWord.integer ty) ∈ reservedTypeWords := by
        cases ty <;> decide
      exact gives_ok (TypeForm.readsAs_reserved hscope hmem)
  | .str => by
      rw [Ty.form, Ty.withoutTupleRegions]
      exact gives_ok (TypeForm.readsAs_reserved hscope (by decide : (_, TypeWord.str) ∈ _))
  | .array element => by
      rw [Ty.form, Ty.withoutTupleRegions]
      refine (Ty.readsAs_form hscope element).bind_pure fun form hform =>
        ⟨.array hform.legible, ?_⟩
      simp [TypeForm.toTy?, hform.read]
  | .slice element => by
      rw [Ty.form, Ty.withoutTupleRegions]
      refine (Ty.readsAs_form hscope element).bind_pure fun form hform =>
        ⟨.slice hform.legible, ?_⟩
      simp [TypeForm.toTy?, hform.read]
  | .ref region target mutability => by
      rw [Ty.form, Ty.withoutTupleRegions]
      refine (hscope.readsRegion region).bind fun name hname => ?_
      refine (Ty.readsAs_form hscope target).bind_pure fun form hform =>
        ⟨.ref hname.legible hform.legible, ?_⟩
      simp [TypeForm.toTy?, hname.found, hform.read]

/-- The forms of types are read as the types without the regions of tuples. -/
theorem Ty.readAs_forms (hscope : scope.TellsTypesApart) :
    (types : List Ty) → Gives (Ty.forms scope types)
      (TypeForm.AllReadAs scope (Ty.withoutTupleRegionsAll types))
  | [] => by
      rw [Ty.forms, Ty.withoutTupleRegionsAll]
      exact gives_ok ⟨nofun, by simp [TypeForm.toTys?]⟩
  | ty :: rest => by
      rw [Ty.forms, Ty.withoutTupleRegionsAll]
      refine (Ty.readsAs_form hscope ty).bind fun form hform => ?_
      refine (Ty.readAs_forms hscope rest).bind_pure fun more hmore =>
        ⟨List.forall_mem_cons.2 ⟨hform.legible, hmore.legible⟩, ?_⟩
      simp [TypeForm.toTys?, hform.read, hmore.read]
end

/-! ## Types with the same text -/

mutual
/-- The region arguments of tuples are not shown. -/
theorem Ty.form_withoutTupleRegions (scope : Scope) :
    (ty : Ty) → ty.withoutTupleRegions.form scope = ty.form scope
  | .adt .tuple _ types => by
      rw [Ty.withoutTupleRegions, Ty.form, Ty.form, Ty.forms_withoutTupleRegionsAll]
  | .adt (.declared id) regions types => by
      rw [Ty.withoutTupleRegions, Ty.form, Ty.form, Ty.forms_withoutTupleRegionsAll]
  | .adt (.builtin ty) regions types => by
      rw [Ty.withoutTupleRegions, Ty.form, Ty.form, Ty.forms_withoutTupleRegionsAll]
  | .var id => by rw [Ty.withoutTupleRegions]
  | .bool => by rw [Ty.withoutTupleRegions]
  | .char => by rw [Ty.withoutTupleRegions]
  | .never => by rw [Ty.withoutTupleRegions]
  | .integer ty => by rw [Ty.withoutTupleRegions]
  | .str => by rw [Ty.withoutTupleRegions]
  | .array element => by
      rw [Ty.withoutTupleRegions, Ty.form, Ty.form, Ty.form_withoutTupleRegions scope element]
  | .slice element => by
      rw [Ty.withoutTupleRegions, Ty.form, Ty.form, Ty.form_withoutTupleRegions scope element]
  | .ref region target mutability => by
      rw [Ty.withoutTupleRegions, Ty.form, Ty.form, Ty.form_withoutTupleRegions scope target]

/-- The regions of tuples do not show in the forms of types. -/
theorem Ty.forms_withoutTupleRegionsAll (scope : Scope) :
    (types : List Ty) → Ty.forms scope (Ty.withoutTupleRegionsAll types) = Ty.forms scope types
  | [] => by rw [Ty.withoutTupleRegionsAll]
  | ty :: rest => by
      rw [Ty.withoutTupleRegionsAll, Ty.forms, Ty.forms, Ty.form_withoutTupleRegions scope ty,
        Ty.forms_withoutTupleRegionsAll scope rest]
end

/-- The regions of tuples do not show in the text of a type. -/
theorem Ty.render_withoutTupleRegions (scope : Scope) (ty : Ty) :
    ty.withoutTupleRegions.render scope = ty.render scope := by
  rw [Ty.render_eq_form, Ty.form_withoutTupleRegions, ← Ty.render_eq_form]

/-- A type that can be shown has the same text as another one exactly when they are the same up to
the region arguments of tuples, provided that the names in scope can be told apart. -/
theorem Ty.render_eq_iff {first second : Ty} (hscope : scope.TellsTypesApart)
    (hfirst : Succeeds (first.render scope)) :
    first.render scope = second.render scope ↔
      first.withoutTupleRegions = second.withoutTupleRegions := by
  constructor
  · intro h
    obtain ⟨text, htext⟩ := hfirst
    have hother : second.render scope = .ok text := h ▸ htext
    rw [Ty.render_eq_form, map_eq_ok_iff] at htext hother
    obtain ⟨form, hform, hformText⟩ := htext
    obtain ⟨other, hotherForm, hotherText⟩ := hother
    have hreads := Ty.readsAs_form hscope first form hform
    have hotherReads := Ty.readsAs_form hscope second other hotherForm
    have hforms : form = other :=
      hreads.legible.text_inj hotherReads.legible (hformText.trans hotherText.symm)
    rw [← hforms] at hotherReads
    exact Option.some.inj (hreads.read.symm.trans hotherReads.read)
  · intro h
    calc
      first.render scope = first.withoutTupleRegions.render scope :=
        (Ty.render_withoutTupleRegions scope first).symm
      _ = second.withoutTupleRegions.render scope := by rw [h]
      _ = second.render scope := Ty.render_withoutTupleRegions scope second

end Reading

/-- A scope with a declared type and a parameter of each kind. -/
def Scope.generic : Scope where
  crate := Crate.ofDeclarations none [⟨0, ["m", "S"], .hidden, [], [], none⟩] [] []
  regionParams := Table.ofItems RegionParam.index [⟨0, some "'a"⟩]
  typeParams := Table.ofItems TypeParam.index [⟨0, "T"⟩]

/-- Two references with the text `&'a mut (m::S<'a, [T; ?]>)`, and two without a common text. -/
theorem Ty.render_eq_of_generic :
    Scope.generic.TellsTypesApart ∧
    (Ty.ref (.var 0) (.adt .tuple [.static] [.adt (.declared 0) [.var 0] [.array (.var 0)]])
        .mutable).withoutTupleRegions
      = (Ty.ref (.var 0) (.adt .tuple [] [.adt (.declared 0) [.var 0] [.array (.var 0)]])
        .mutable).withoutTupleRegions ∧
    (Ty.ref .erased (.slice (.var 0)) .shared).render Scope.generic
      ≠ (Ty.ref .erased (.array (.var 0)) .shared).render Scope.generic := by
  have hscope : Scope.generic.TellsTypesApart :=
    ⟨by decide, by decide, by decide, by decide⟩
  refine ⟨hscope, (Ty.render_eq_iff hscope ⟨"&'a mut (m::S<'a, [T; ?]>)", rfl⟩).1 rfl, fun h => ?_⟩
  have hsame := (Ty.render_eq_iff hscope ⟨"&'_ [T]", rfl⟩).1 h
  simp [Ty.withoutTupleRegions] at hsame

end CrateListing
