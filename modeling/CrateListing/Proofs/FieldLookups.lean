import CrateListing.Proofs.Resolution

/-!
# Looking up variants and fields

Three look-ups go into a declared type: the name of a variant, the names of all
fields of a struct or a variant, and how one of these fields is shown.  Each of
them checks on its own that the type is of the right sort and that the variant is
there, and the last one that the field is.  An identifier can be any integer; a
negative one finds nothing.

The checks agree, so that what the listing looks up second is there whenever what
it looked up first was: the variant behind a field of a place, and the fields
behind the variant of an aggregate.

Main definitions:

- `Crate.DeclaresFields`: the fields of a declared struct or variant.

Main results:

- Theorem `Scope.fieldNames?_eq_ok_iff`: when the fields are known by their names.
- Theorem `Scope.fieldName_eq_ok_iff`: how a field is shown.
- Theorem `Scope.succeeds_variantName_iff`: which variants have a name.
- Theorem `Scope.fieldLookups_agree`: the three look-ups, and what the listing relies on.
-/

namespace CrateListing

open Outcome

/-! ## Declared fields -/

/-- The fields of a declared struct, when no variant is given, or of an existing variant of a
declared enumeration. -/
def Crate.DeclaresFields (crate : Crate) (type : Int) (variant : Option Int)
    (fields : List FieldDecl) : Prop :=
  ∃ owner, crate.types.find? type = some owner ∧ owner.body.HasFields variant fields

/-- A variant has fields exactly when the type is an enumeration that has the variant. -/
theorem TypeBody.exists_hasFields_some_iff (body : TypeBody) (index : Int) :
    (∃ fields, body.HasFields (some index) fields) ↔
      ∃ variants, body = .enum variants ∧ 0 ≤ index ∧ index < variants.length := by
  constructor
  · rintro ⟨fields, hfields⟩
    cases hfields with
    | variant hlow hhigh => exact ⟨_, rfl, hlow, hhigh⟩
  · rintro ⟨variants, rfl, hlow, hhigh⟩
    exact ⟨_, .variant hlow hhigh⟩

namespace Scope

variable {scope : Scope} {type : Int} {variant : Option Int} {fields : List FieldDecl}

/-- The fields of a type or a variant are found exactly when they are declared. -/
theorem resolves_fields_iff :
    scope.Resolves (.fields type variant) ↔
      ∃ fields, scope.crate.DeclaresFields type variant fields := by
  constructor
  · rintro ⟨owner, howner, fields, hfields⟩
    exact ⟨fields, owner, howner, hfields⟩
  · rintro ⟨fields, owner, howner, hfields⟩
    exact ⟨owner, howner, fields, hfields⟩

/-- A field is found exactly when it is declared and its index is in range. -/
theorem resolves_field_iff {index : Int} :
    scope.Resolves (.field type variant index) ↔
      ∃ fields, scope.crate.DeclaresFields type variant fields ∧
        0 ≤ index ∧ index < fields.length := by
  constructor
  · rintro ⟨owner, howner, fields, hfields, hindex⟩
    exact ⟨fields, ⟨owner, howner, hfields⟩, hindex⟩
  · rintro ⟨fields, ⟨owner, howner, hfields⟩, hindex⟩
    exact ⟨owner, howner, fields, hfields, hindex⟩

/-! ## The names of all fields -/

/-- All fields have names exactly when the names are theirs. -/
theorem mapM_name_eq_some_iff {names : List Text} :
    fields.mapM FieldDecl.name = some names ↔ fields.map FieldDecl.name = names.map some := by
  induction fields generalizing names with
  | nil => cases names <;> simp
  | cons field rest ih =>
      cases hname : field.name with
      | none => cases names <;> simp [hname]
      | some name => cases names <;> simp [hname, Option.bind_eq_some_iff, ih, and_comm]

/-- Some name is missing exactly when there is a field without one. -/
theorem mapM_name_eq_none_iff :
    fields.mapM FieldDecl.name = none ↔ ∃ field ∈ fields, field.name = none := by
  induction fields with
  | nil => simp
  | cons field rest ih =>
      cases hname : field.name with
      | none => simp [hname]
      | some name =>
          rw [List.mapM_cons, hname, List.exists_mem_cons_iff, hname, ← ih]
          cases rest.mapM FieldDecl.name <;> simp

/-- The fields are known by their names when there are fields and all of them have names. -/
theorem allNames?_eq_some_iff {names : List Text} :
    allNames? fields = some names ↔ fields ≠ [] ∧ fields.map FieldDecl.name = names.map some := by
  rw [allNames?, ← mapM_name_eq_some_iff]
  cases fields <;> simp

/-- There are no names to show without fields or with a field that has none. -/
theorem allNames?_eq_none_iff :
    allNames? fields = none ↔ fields = [] ∨ ∃ field ∈ fields, field.name = none := by
  rw [allNames?, ← mapM_name_eq_none_iff]
  cases fields <;> simp

/-- The names of the fields are those of the declared fields. -/
theorem fieldNames?_eq_ok_iff {found : Option (List Text)} :
    scope.fieldNames? type variant = .ok found ↔
      ∃ fields, scope.crate.DeclaresFields type variant fields ∧ allNames? fields = found := by
  simp only [fieldNames?, bind_eq_ok_iff, fields_eq_ok_iff, pure_eq_ok, Except.ok.injEq]
  rfl

/-- The names of fields that are declared. -/
theorem fieldNames?_of_declares (h : scope.crate.DeclaresFields type variant fields) :
    scope.fieldNames? type variant = .ok (allNames? fields) :=
  fieldNames?_eq_ok_iff.2 ⟨fields, h, rfl⟩

/-! ## One field -/

/-- A field is shown by its name, or by its position when it has none. -/
theorem fieldName_eq_ok_iff {index : Int} {text : Text} :
    scope.fieldName type variant index = .ok text ↔
      ∃ fields, scope.crate.DeclaresFields type variant fields ∧
        ∃ field, nth? fields index = some field ∧ field.name.getD (Text.decimal index) = text := by
  have hshown : scope.fieldName type variant index = (do
      let decl ← scope.typeDecl type
      let fields ← scope.fields type variant
      let field ← scope.require (.unknownField decl.name.joined index) (nth? fields index)
      return field.name.getD (Text.decimal index)) := by
    refine bind_congr fun decl => bind_congr fun fields => bind_congr fun field => ?_
    cases field.name <;> rfl
  simp only [hshown, bind_eq_ok_iff, typeDecl_eq_ok_iff, fields_eq_ok_iff, require_eq_ok_iff,
    pure_eq_ok, Except.ok.injEq]
  constructor
  · rintro ⟨_, -, fields, hfields, field, hfield, htext⟩
    exact ⟨fields, hfields, field, hfield, htext⟩
  · rintro ⟨fields, ⟨owner, howner, hfields⟩, field, hfield, htext⟩
    exact ⟨owner, howner, fields, ⟨owner, howner, hfields⟩, field, hfield, htext⟩

/-- The name of a field, or its index where it has none. -/
theorem fieldName_of_lt (h : scope.crate.DeclaresFields type variant fields) {i : Nat}
    (hi : i < fields.length) :
    scope.fieldName type variant i = .ok (fields[i].name.getD (Text.decimal i)) := by
  have hnth : nth? fields (i : Int) = some fields[i] := by
    simp [nth?, hi]
  exact fieldName_eq_ok_iff.2 ⟨fields, h, fields[i], hnth, rfl⟩

/-- A field is shown by its name when all fields are known by their names. -/
theorem fieldName_of_fieldNames? (h : scope.crate.DeclaresFields type variant fields)
    {names : List Text} (hnames : scope.fieldNames? type variant = .ok (some names)) :
    names.length = fields.length ∧
      ∀ (i : Nat) (hi : i < names.length), scope.fieldName type variant i = .ok names[i] := by
  rw [fieldNames?_of_declares h, Except.ok.injEq] at hnames
  have hall := (allNames?_eq_some_iff.1 hnames).2
  have hlength : names.length = fields.length := by
    simpa using (congrArg List.length hall).symm
  refine ⟨hlength, fun i hi => ?_⟩
  have hname : fields[i].name = some names[i] := by
    have hget := congrArg (fun found => found[i]?) hall
    simpa [hi, hlength ▸ hi] using hget
  rw [fieldName_of_lt h (hlength ▸ hi), hname, Option.getD_some]

/-! ## The name of a variant -/

/-- A variant has a name exactly when its fields are declared. -/
theorem succeeds_variantName_iff (scope : Scope) (type index : Int) :
    Succeeds (scope.variantName type index) ↔ scope.Resolves (.fields type (some index)) := by
  refine ⟨?_, Resolves.succeeds_variantName⟩
  rw [variantName, succeeds_bind_pure]
  rintro ⟨found, hfound⟩
  obtain ⟨owner, howner, hvariant⟩ := (variant_eq_ok_iff scope type index found).1 hfound
  have hfields := (hasFields_some_iff owner.body index found.fields).2 ⟨found, hvariant, rfl⟩
  exact ⟨owner, howner, found.fields, hfields⟩

/-- Where the name of a variant is found, the names of its fields are. -/
theorem succeeds_fieldNames?_of_variantName {chosen : Int}
    (h : Succeeds (scope.variantName type chosen)) :
    Succeeds (scope.fieldNames? type (some chosen)) := by
  rw [succeeds_fieldNames?_iff, ← succeeds_variantName_iff]
  exact h

/-- Where the name of a field is found, that of its variant is. -/
theorem succeeds_variantName_of_fieldName {chosen index : Int}
    (h : Succeeds (scope.fieldName type (some chosen) index)) :
    Succeeds (scope.variantName type chosen) := by
  rw [succeeds_fieldName_iff] at h
  exact h.fields_of_field.succeeds_variantName

/-! ## What is looked up second -/

/-- Only the field of a place can be looked up in vain, not the variant that it belongs to. -/
theorem render_field_eq_error_iff {chosen index : Int} {inner : Text} {error : InternalError} :
    (Projection.field (.adt type (some chosen)) index).render scope inner = .error error ↔
      scope.fieldName type (some chosen) index = .error error := by
  refine bind_eq_error_iff_first fun field hfield => ?_
  rw [succeeds_bind_pure]
  exact succeeds_variantName_of_fieldName ⟨field, hfield⟩

/-- Only the name of a variant can be looked up in vain, not the fields that it has. -/
theorem render_aggregate_eq_error_iff {chosen : Int} {regions : List Region} {types : List Ty}
    {operands : List Text} {error : InternalError} :
    (AggregateKind.adt type (some chosen) regions types).render scope operands = .error error ↔
      aggregateName scope type (some chosen) = .error error := by
  refine bind_eq_error_iff_first fun name hname => ?_
  obtain ⟨typeName, -, hname⟩ := bind_eq_ok_iff.1 hname
  obtain ⟨variantName, hvariant, -⟩ := bind_eq_ok_iff.1 hname
  obtain ⟨found, hfound⟩ := succeeds_fieldNames?_of_variantName ⟨variantName, hvariant⟩
  rw [hfound, ok_bind]
  cases found <;> simp

/-! ## The look-ups agree -/

/-- The fields of a declared struct or variant are found, each of them by an index in their range,
and so is the name of a variant.  The names of all fields are those of the fields in order, and when
there are none for existing fields, some field has no name and is shown by its position.  So a
variant is there when one of its fields was found, and its fields are there when its name was. -/
theorem fieldLookups_agree (scope : Scope) (type : Int) (variant : Option Int) :
    (Succeeds (scope.fieldNames? type variant) ↔
      ∃ fields, scope.crate.DeclaresFields type variant fields) ∧
    (∀ index, Succeeds (scope.fieldName type variant index) ↔
      ∃ fields, scope.crate.DeclaresFields type variant fields ∧
        0 ≤ index ∧ index < fields.length) ∧
    (∀ index, Succeeds (scope.variantName type index) ↔
      ∃ owner variants, scope.crate.types.find? type = some owner ∧
        owner.body = .enum variants ∧ 0 ≤ index ∧ index < variants.length) ∧
    (∀ fields, scope.crate.DeclaresFields type variant fields →
      (∀ names, scope.fieldNames? type variant = .ok (some names) →
        names.length = fields.length ∧
          ∀ (i : Nat) (hi : i < names.length), scope.fieldName type variant i = .ok names[i]) ∧
      (scope.fieldNames? type variant = .ok none → fields ≠ [] →
        (∃ field ∈ fields, field.name = none) ∧
          ∀ (i : Nat) (hi : i < fields.length),
            scope.fieldName type variant i = .ok (fields[i].name.getD (Text.decimal i)))) ∧
    (∀ chosen index,
      (Succeeds (scope.fieldName type (some chosen) index) →
        Succeeds (scope.variantName type chosen)) ∧
      ∀ inner error,
        (Projection.field (.adt type (some chosen)) index).render scope inner = .error error ↔
          scope.fieldName type (some chosen) index = .error error) ∧
    ∀ chosen,
      (Succeeds (scope.variantName type chosen) →
        Succeeds (scope.fieldNames? type (some chosen))) ∧
      ∀ regions types operands error,
        (AggregateKind.adt type (some chosen) regions types).render scope operands = .error error ↔
          aggregateName scope type (some chosen) = .error error := by
  refine ⟨?_, fun index => ?_, fun index => ?_, fun fields hfields => ⟨fun names hnames => ?_,
    fun hnone hne => ⟨?_, fun i hi => fieldName_of_lt hfields hi⟩⟩, fun chosen index =>
    ⟨succeeds_variantName_of_fieldName, fun _ _ => render_field_eq_error_iff⟩, fun chosen =>
    ⟨succeeds_fieldNames?_of_variantName, fun _ _ _ _ => render_aggregate_eq_error_iff⟩⟩
  · rw [succeeds_fieldNames?_iff, resolves_fields_iff]
  · rw [succeeds_fieldName_iff, resolves_field_iff]
  · rw [succeeds_variantName_iff]
    simp only [Resolves, Reference.Declared, TypeBody.exists_hasFields_some_iff, exists_and_left]
  · exact fieldName_of_fieldNames? hfields hnames
  · rw [fieldNames?_of_declares hfields, Except.ok.injEq] at hnone
    exact (allNames?_eq_none_iff.1 hnone).resolve_left hne

end Scope

/-- The scope of a crate with an enumeration: a variant whose fields have names, one in which a
name is missing, and one without fields. -/
def Scope.withShapes : Scope :=
  { crate := Crate.ofDeclarations none
      [⟨3, ["Shape"], .enum [⟨"Point", [⟨some "x", .bool⟩, ⟨some "y", .bool⟩]⟩,
        ⟨"Tagged", [⟨some "tag", .char⟩, ⟨none, .bool⟩]⟩, ⟨"Empty", []⟩], [], [], none⟩] [] [] }

/-- Where a name is missing, all fields lose theirs, except when they are shown one by one.  There
is no variant before the first one. -/
theorem Scope.fieldLookups_withShapes :
    (withShapes.fieldNames? 3 (some 0) = .ok (some ["x", "y"]) ∧
      withShapes.fieldName 3 (some 0) 1 = .ok "y") ∧
    (withShapes.crate.DeclaresFields 3 (some 1) [⟨some "tag", .char⟩, ⟨none, .bool⟩] ∧
      withShapes.fieldNames? 3 (some 1) = .ok none ∧
      withShapes.fieldName 3 (some 1) 0 = .ok "tag" ∧
      withShapes.fieldName 3 (some 1) 1 = .ok "1" ∧ Succeeds (withShapes.variantName 3 1)) ∧
    (Succeeds (withShapes.variantName 3 2) ∧ Succeeds (withShapes.fieldNames? 3 (some 2))) ∧
    ¬ Succeeds (withShapes.variantName 3 (-1)) := by
  obtain ⟨-, -, hvariant, hnamed, -, hfields⟩ := fieldLookups_agree withShapes 3 (some 0)
  obtain ⟨-, hfield, -, hmixed, hsecond, -⟩ := fieldLookups_agree withShapes 3 (some 1)
  have hpoint : withShapes.crate.DeclaresFields 3 (some 0)
      [⟨some "x", .bool⟩, ⟨some "y", .bool⟩] := ⟨_, rfl, .variant (by decide) (by decide)⟩
  have htagged : withShapes.crate.DeclaresFields 3 (some 1)
      [⟨some "tag", .char⟩, ⟨none, .bool⟩] := ⟨_, rfl, .variant (by decide) (by decide)⟩
  have hempty : Succeeds (withShapes.variantName 3 2) :=
    (hvariant 2).2 ⟨_, _, rfl, rfl, by decide, by decide⟩
  have hshown := ((hmixed _ htagged).2 rfl (by simp)).2
  refine ⟨⟨rfl, ((hnamed _ hpoint).1 _ rfl).2 1 (by decide)⟩,
    ⟨htagged, rfl, hshown 0 (by decide), hshown 1 (by decide), (hsecond 1 1).1 ?_⟩,
    ⟨hempty, (hfields 2).1 hempty⟩, ?_⟩
  · exact (hfield 1).2 ⟨_, htagged, by decide, by decide⟩
  · rw [hvariant]
    rintro ⟨-, -, -, -, hlow, -⟩
    exact absurd hlow (by decide)

end CrateListing
