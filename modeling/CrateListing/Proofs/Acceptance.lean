import CrateListing.Proofs.Shapes

/-!
# What is accepted

A value is read exactly when it is of the kind that is asked for, and what is
read is the node whose JSON form is the canonical form of the value.  The kinds
are gone through one by one.  Types, constants and statements hold nodes of
their own kind: one more layer fits when the layers below it do.

Main results:

- Theorems `Ty.readsBelow`, `Rvalue.readsBelow` and `Statement.readsBelow_all`: the readers of
  nodes fit their kinds.
- Theorem `Kind.rejectsMisfits`: what has no canonical form.
- Theorem `ReadsBelow.eq_ok_iff`: what a reader that fits its kind accepts, and what it gives.
-/

namespace CrateListing

open Outcome

variable {α β : Type}

/-! ## Types -/

/-- The name of an integer type is looked up in the table of names. -/
theorem IntegerType.toOption_ofName (name : Text) :
    (IntegerType.ofName name).toOption = IntegerType.ofName? name := by
  rw [IntegerType.ofName]
  cases IntegerType.ofName? name <;> rfl

/-- An integer type is read from its name. -/
theorem IntegerType.readsBelow (bound : Nat) :
    ReadsBelow bound .integerType IntegerType.ofJson IntegerType.toJson := by
  intro json _
  cases json with
  | str text =>
      rw [IntegerType.ofJson, Json.asString, ok_bind, IntegerType.toOption_ofName]
      rfl
  | _ => rfl

/-- A region is read from its tag, with an index for a variable. -/
theorem Region.readsBelow (bound : Nat) :
    ReadsBelow bound .region Region.ofJson Region.toJson := by
  refine ReadsBelow.mono (readsBelow_tagged "region" rfl rfl rfl ?_ ⟨?_, ?_, ?_⟩ ?_)
  · intro json
    unfold Region.ofJson
    cases json.asTagged "region" <;> rfl
  · exact readsTag_bare .static (fun _ => rfl) rfl
  · exact readsTag_bare .erased (fun _ => rfl) rfl
  · exact readsTag_part .var (readsBelow_integer bound "region id") (fun _ => rfl) fun _ => rfl
  · intro tag payload htag
    simp_all [Region.ofJson, Json.asTagged]

theorem BuiltinType.readsBelow (bound : Nat) (what : Text) :
    ReadsBelow bound .builtinType (Json.asNamed what BuiltinType.table)
      fun type => .str type.name :=
  readsBelow_named what rfl rfl rfl (by decide)

theorem Mutability.readsBelow (bound : Nat) (what : Text) :
    ReadsBelow bound .mutability (Json.asNamed what Mutability.table)
      fun mutability => .str mutability.tag :=
  readsBelow_named what rfl rfl rfl (by decide)

/-- The head of a type application is read from its tag. -/
theorem TypeHead.readsBelow (bound : Nat) :
    ReadsBelow bound .typeHead TypeHead.ofJson TypeHead.toJson := by
  refine ReadsBelow.mono (readsBelow_tagged "type id" rfl rfl rfl ?_ ⟨?_, ?_, ?_⟩ ?_)
  · intro json
    unfold TypeHead.ofJson
    cases json.asTagged "type id" <;> rfl
  · exact readsTag_part .declared (readsBelow_integer bound "type declaration id") (fun _ => rfl)
      fun _ => rfl
  · exact readsTag_bare .tuple (fun _ => rfl) rfl
  · exact readsTag_part .builtin (BuiltinType.readsBelow bound "assumed type") (fun _ => rfl)
      fun _ => rfl
  · intro tag payload htag
    simp_all [TypeHead.ofJson, Json.asTagged]

/-- One more layer of a type. -/
theorem Ty.readsBelow_succ {bound : Nat} (h : ReadsBelow bound .type Ty.ofJson Ty.toJson) :
    ReadsBelow (bound + 1) .type Ty.ofJson Ty.toJson := by
  refine readsBelow_tagged "type" rfl rfl rfl ?_ ⟨?_, ?_, ?_, ?_, ?_, ?_, ?_, ?_, ?_, ?_⟩ ?_
  · intro json
    simp only [Ty.ofJson_obj]
    exact Ty.ofJson_eq json
  · refine readsTag_triple "Adt" .adt (TypeHead.readsBelow bound)
      ((Region.readsBelow bound).list "regions") (h.list "types") ?_ ?_
    · intro payload
      simp [Ty.ofJson_obj, Ty.ofTagged, Region.listOfJson, Ty.listOfJson, Ty.allOfJson_eq_mapM]
    · intro head regions types
      rw [Ty.toJson, Ty.allToJson_eq_map, Json.ofList, Json.ofList]
  · exact readsTag_part .var (readsBelow_integer bound "type variable id") (Ty.ofJson_obj _)
      fun _ => rfl
  · exact readsTag_bare .bool (Ty.ofJson_obj _) rfl
  · exact readsTag_bare .char (Ty.ofJson_obj _) rfl
  · exact readsTag_bare .never (Ty.ofJson_obj _) rfl
  · exact readsTag_part .integer (IntegerType.readsBelow bound) (Ty.ofJson_obj _) fun _ => rfl
  · exact readsTag_bare .str (Ty.ofJson_obj _) rfl
  · exact readsTag_part .array h (Ty.ofJson_obj _) fun _ => rfl
  · exact readsTag_part .slice h (Ty.ofJson_obj _) fun _ => rfl
  · exact readsTag_triple "Ref" .ref (Region.readsBelow bound) h
      (Mutability.readsBelow bound "reference kind") (Ty.ofJson_obj _) fun _ _ _ => rfl
  · intro tag payload htag
    simp_all [Ty.ofJson_obj, Ty.ofTagged, Ty.ofSimpleTag]

/-- The reader of types fits its kind, by induction on the bound. -/
theorem Ty.readsBelow (bound : Nat) : ReadsBelow bound .type Ty.ofJson Ty.toJson := by
  induction bound with
  | zero => exact fun json hjson => absurd hjson (Nat.not_lt_zero _)
  | succ bound ih => exact Ty.readsBelow_succ ih

/-! ## Constants -/

/-- The canonical form of the value of a scalar is the integer that is read. -/
theorem Scalar.canonical?_numeral (json : Json) :
    canonical? .numeral json = (Scalar.valueOfJson json).toOption.map .int := by
  cases json with
  | str text =>
      have hstr : canonical? .numeral (.str text) = (Text.readInteger text).toOption.map .int := rfl
      rw [hstr, Scalar.valueOfJson]
      cases Text.readInteger text <;> rfl
  | _ => rfl

/-- A scalar is read whatever the case of its type is and whether its value is a string. -/
theorem Scalar.readsBelow (bound : Nat) :
    ReadsBelow bound .scalar Scalar.ofJson Scalar.toJson := by
  intro json _
  unfold Scalar.ofJson Json.asTagged
  split
  · simp [canonical?, Kind.form, Scalar.valueOfJson, Json.asInteger]
  · rename_i tag payload _
    have hobj : canonical? .scalar (.obj [(tag, payload)]) = (do
        let type ← IntegerType.ofName? tag
        let value ← canonical? .numeral payload
        return .obj [(type.name, value)]) := rfl
    simp [hobj, Scalar.canonical?_numeral, IntegerType.toOption_ofName, Scalar.toJson,
      Option.map_eq_bind, Option.bind_assoc, Function.comp_def]
  · rename_i hstr hobj
    cases json with
    | obj members =>
        unfold canonical?
        split <;> simp_all [Kind.form]
    | str text => exact absurd rfl (hstr text)
    | _ => rfl

/-- One more layer of a constant. -/
theorem Constant.readsBelow_succ {bound : Nat}
    (h : ReadsBelow bound .constant Constant.ofJson Constant.toJson) :
    ReadsBelow (bound + 1) .constant Constant.ofJson Constant.toJson := by
  refine readsBelow_tagged "constant value" rfl rfl rfl ?_ ⟨?_, ?_, ?_, ?_, ?_, ?_⟩ ?_
  · intro json
    simp only [Constant.ofJson_obj]
    exact Constant.ofJson_eq json
  · exact readsTag_part .scalar (Scalar.readsBelow bound) (Constant.ofJson_obj _) fun _ => rfl
  · intro payload _
    rw [Constant.ofJson_obj]
    cases payload <;> rfl
  · exact readsTag_part .char (readsBelow_text bound "character") (Constant.ofJson_obj _)
      fun _ => rfl
  · exact readsTag_part .string (readsBelow_text bound "string") (Constant.ofJson_obj _)
      fun _ => rfl
  · refine readsTag_pair "constant Adt" .adt (readsBelow_optionalInteger bound "variant id")
      (h.list "constant fields") ?_ ?_
    · intro payload
      simp [Constant.ofJson_obj, Constant.ofTagged, Constant.allOfJson_eq_mapM]
    · intro variant fields
      rw [Constant.toJson, Constant.allToJson_eq_map, Json.ofList]
  · exact readsTag_part .global (readsBelow_integer bound "global id") (Constant.ofJson_obj _)
      fun _ => rfl
  · intro tag payload htag
    simp_all [Constant.ofJson_obj, Constant.ofTagged, Constant.ofSimpleTag]

theorem Constant.readsBelow (bound : Nat) :
    ReadsBelow bound .constant Constant.ofJson Constant.toJson := by
  induction bound with
  | zero => exact fun json hjson => absurd hjson (Nat.not_lt_zero _)
  | succ bound ih => exact Constant.readsBelow_succ ih

/-! ## Places -/

/-- The owner of a field is read from its tag. -/
theorem FieldOwner.readsBelow (bound : Nat) :
    ReadsBelow bound .fieldOwner FieldOwner.ofJson FieldOwner.toJson := by
  refine ReadsBelow.mono (readsBelow_tagged "field projection kind" rfl rfl rfl ?_ ⟨?_, ?_⟩ ?_)
  · intro json
    unfold FieldOwner.ofJson
    cases json.asTagged "field projection kind" <;> rfl
  · exact readsTag_pair "ProjAdt" .adt (readsBelow_integer bound "type declaration id")
      (readsBelow_optionalInteger bound "variant id") (fun _ => rfl) fun _ _ => rfl
  · exact readsTag_part .tuple (readsBelow_integer bound "tuple arity") (fun _ => rfl) fun _ => rfl
  · intro tag payload htag
    simp_all [FieldOwner.ofJson, Json.asTagged]

theorem Projection.readsBelow (bound : Nat) :
    ReadsBelow bound .projection Projection.ofJson Projection.toJson := by
  refine ReadsBelow.mono (readsBelow_tagged "projection element" rfl rfl rfl ?_ ⟨?_, ?_, ?_⟩ ?_)
  · intro json
    unfold Projection.ofJson
    cases json.asTagged "projection element" <;> rfl
  · exact readsTag_bare .deref (fun _ => rfl) rfl
  · exact readsTag_bare .derefBox (fun _ => rfl) rfl
  · exact readsTag_pair "Field" .field (FieldOwner.readsBelow bound)
      (readsBelow_integer bound "field id") (fun _ => rfl) fun _ _ => rfl
  · intro tag payload htag
    simp_all [Projection.ofJson, Json.asTagged]

/-- A place is read from its root and its path. -/
theorem Place.readsBelow (bound : Nat) : ReadsBelow bound .place Place.ofJson Place.toJson := by
  refine readsBelow_record "place" rfl rfl ?_ ?_
  · intro json
    unfold Place.ofJson
    cases json.asObject "place" <;> rfl
  · intro members hmembers
    have hroot := (readsBelow_integer bound "var_id").member "var_id" (Nat.le_of_lt hmembers)
    have hpath := (Projection.readsBelow bound).items "projection" (Nat.le_of_lt hmembers)
    simp [hroot, hpath, Place.ofJson, Json.asObject, Place.toJson, Option.map_eq_bind,
      Option.bind_assoc, Function.comp_def]

/-! ## Expressions -/

theorem Operand.readsBelow (bound : Nat) :
    ReadsBelow bound .operand Operand.ofJson Operand.toJson := by
  refine ReadsBelow.mono (readsBelow_tagged "operand" rfl rfl rfl ?_ ⟨?_, ?_, ?_⟩ ?_)
  · intro json
    unfold Operand.ofJson
    cases json.asTagged "operand" <;> rfl
  · exact readsTag_part .copy (Place.readsBelow bound) (fun _ => rfl) fun _ => rfl
  · exact readsTag_part .move (Place.readsBelow bound) (fun _ => rfl) fun _ => rfl
  · exact readsTag_pair "Const" .const (Ty.readsBelow bound) (Constant.readsBelow bound)
      (fun _ => rfl) fun _ _ => rfl
  · intro tag payload htag
    simp_all [Operand.ofJson, Json.asTagged]

/-- A unary operator is read from its tag, with two types for a cast. -/
theorem UnaryOperator.readsBelow (bound : Nat) :
    ReadsBelow bound .unaryOperator UnaryOperator.ofJson UnaryOperator.toJson := by
  refine ReadsBelow.mono (readsBelow_tagged "unary operator" rfl rfl rfl ?_ ⟨?_, ?_, ?_⟩ ?_)
  · intro json
    unfold UnaryOperator.ofJson
    cases json.asTagged "unary operator" <;> rfl
  · exact readsTag_bare .not (fun _ => rfl) rfl
  · exact readsTag_bare .neg (fun _ => rfl) rfl
  · exact readsTag_pair "Cast" .cast (IntegerType.readsBelow bound) (IntegerType.readsBelow bound)
      (fun _ => rfl) fun _ _ => rfl
  · intro tag payload htag
    simp_all [UnaryOperator.ofJson, Json.asTagged]

theorem BorrowKind.readsBelow (bound : Nat) (what : Text) :
    ReadsBelow bound .borrowKind (Json.asNamed what BorrowKind.table) fun kind => .str kind.tag :=
  readsBelow_named what rfl rfl rfl (by decide)

theorem BinaryOperator.readsBelow (bound : Nat) (what : Text) :
    ReadsBelow bound .binaryOperator (Json.asNamed what BinaryOperator.table)
      fun operator => .str operator.tag :=
  readsBelow_named what rfl rfl rfl (by decide)

theorem AggregateKind.readsBelow (bound : Nat) :
    ReadsBelow bound .aggregateKind AggregateKind.ofJson AggregateKind.toJson := by
  refine ReadsBelow.mono (readsBelow_tagged "aggregate kind" rfl rfl rfl ?_ ⟨?_, ?_, ?_⟩ ?_)
  · intro json
    unfold AggregateKind.ofJson
    cases json.asTagged "aggregate kind" <;> rfl
  · exact readsTag_bare .tuple (fun _ => rfl) rfl
  · exact readsTag_pair "AggregatedOption" .option (readsBelow_integer bound "variant id")
      (Ty.readsBelow bound) (fun _ => rfl) fun _ _ => rfl
  · refine readsTag_quadruple "AggregatedAdt" .adt (readsBelow_integer bound "type declaration id")
      (readsBelow_optionalInteger bound "variant id") ((Region.readsBelow bound).list "regions")
      ((Ty.readsBelow bound).list "types") ?_ fun _ _ _ _ => rfl
    intro payload
    simp [AggregateKind.ofJson, Json.asTagged, Region.listOfJson, Ty.listOfJson,
      Ty.allOfJson_eq_mapM]
  · intro tag payload htag
    simp_all [AggregateKind.ofJson, Json.asTagged]

/-- The reader of right-hand sides fits its kind. -/
theorem Rvalue.readsBelow (bound : Nat) :
    ReadsBelow bound .rvalue Rvalue.ofJson Rvalue.toJson := by
  refine ReadsBelow.mono
    (readsBelow_tagged "rvalue" rfl rfl rfl ?_ ⟨?_, ?_, ?_, ?_, ?_, ?_, ?_⟩ ?_)
  · intro json
    unfold Rvalue.ofJson
    cases json.asTagged "rvalue" <;> rfl
  · exact readsTag_part .use (Operand.readsBelow bound) (fun _ => rfl) fun _ => rfl
  · exact readsTag_pair "Ref" .borrow (Place.readsBelow bound)
      (BorrowKind.readsBelow bound "borrow kind") (fun _ => rfl) fun _ _ => rfl
  · exact readsTag_pair "UnaryOp" .unary (UnaryOperator.readsBelow bound)
      (Operand.readsBelow bound) (fun _ => rfl) fun _ _ => rfl
  · exact readsTag_triple "BinaryOp" .binary (BinaryOperator.readsBelow bound "binary operator")
      (Operand.readsBelow bound) (Operand.readsBelow bound) (fun _ => rfl) fun _ _ _ => rfl
  · exact readsTag_part .discriminant (Place.readsBelow bound) (fun _ => rfl) fun _ => rfl
  · refine readsTag_pair "Aggregate" .aggregate (AggregateKind.readsBelow bound)
      ((Operand.readsBelow bound).list "operands") ?_ fun _ _ => rfl
    intro payload
    simp [Rvalue.ofJson, Json.asTagged]
  · exact readsTag_part .global (readsBelow_integer bound "global id") (fun _ => rfl) fun _ => rfl
  · intro tag payload htag
    simp_all [Rvalue.ofJson, Json.asTagged]

theorem BuiltinFunction.readsBelow (bound : Nat) (what : Text) :
    ReadsBelow bound .builtinFunction (Json.asNamed what BuiltinFunction.table)
      fun function => .str function.tag :=
  readsBelow_named what rfl rfl rfl (by decide)

theorem Callee.readsBelow (bound : Nat) :
    ReadsBelow bound .callee Callee.ofJson Callee.toJson := by
  refine ReadsBelow.mono (readsBelow_tagged "function id" rfl rfl rfl ?_ ⟨?_, ?_⟩ ?_)
  · intro json
    unfold Callee.ofJson
    cases json.asTagged "function id" <;> rfl
  · exact readsTag_part .declared (readsBelow_integer bound "function id") (fun _ => rfl)
      fun _ => rfl
  · exact readsTag_part .builtin (BuiltinFunction.readsBelow bound "assumed function")
      (fun _ => rfl) fun _ => rfl
  · intro tag payload htag
    simp_all [Callee.ofJson, Json.asTagged]

theorem Call.readsBelow (bound : Nat) : ReadsBelow bound .call Call.ofJson Call.toJson := by
  refine readsBelow_record "call" rfl rfl ?_ ?_
  · intro json
    unfold Call.ofJson
    cases json.asObject "call" <;> rfl
  · intro members hmembers
    have hsize := Nat.le_of_lt hmembers
    have hcallee := (Callee.readsBelow bound).member "func" hsize
    have harguments := (Operand.readsBelow bound).items "args" hsize
    have htarget := (Place.readsBelow bound).member "dest" hsize
    have hregions := (Region.readsBelow bound).items "region_args" hsize
    have htypes := (Ty.readsBelow bound).items "type_args" hsize
    simp [hcallee, harguments, htarget, hregions, htypes, Call.ofJson, Json.asObject,
      Ty.allOfJson_eq_mapM, Call.toJson, Option.map_eq_bind, Option.bind_assoc, Function.comp_def]

theorem Assertion.readsBelow (bound : Nat) :
    ReadsBelow bound .assertion Assertion.ofJson Assertion.toJson := by
  refine readsBelow_record "assertion" rfl rfl ?_ ?_
  · intro json
    unfold Assertion.ofJson
    cases json.asObject "assertion" <;> rfl
  · intro members hmembers
    have hcondition := (Operand.readsBelow bound).member "cond" (Nat.le_of_lt hmembers)
    have hexpected := canonicalMember?_eq ⟨"expected", .truth, none⟩ members
    have hmember := Json.member.eq_1 "expected" members
    -- The expected outcome is looked at first, but nothing is read when either part is missing.
    cases hfind : Assoc.find? ("expected" : Text) members with
    | none => simp [hexpected, hmember, hfind, Assertion.ofJson, Json.asObject]
    | some value =>
        cases value with
        | bool expected =>
            simp [hcondition, hexpected, hmember, hfind, canonical?, Kind.form, Assertion.ofJson,
              Json.asObject, Assertion.toJson, Option.map_eq_bind, Option.bind_assoc,
              Function.comp_def]
        | obj inner =>
            have hinner : canonical? .truth (.obj inner) = none := rfl
            simp [hexpected, hmember, hfind, hinner, Assertion.ofJson, Json.asObject]
        | _ =>
            simp [hexpected, hmember, hfind, canonical?, Kind.form, Kind.nullable, Assertion.ofJson,
              Json.asObject]

/-! ## Spans -/

/-- A position is read from its line and its column. -/
theorem Span.readsBelow_position (bound : Nat) (what : Text) :
    ReadsBelow bound .position (fun json => do Span.positionOfMembers (← json.asObject what))
      fun position => Span.positionToJson position.1 position.2 := by
  refine readsBelow_record what rfl rfl ?_ ?_
  · intro json
    cases json <;> rfl
  · intro members hmembers
    have hsize := Nat.le_of_lt hmembers
    have hline := (readsBelow_integer bound "line").member "line" hsize
    have hcolumn := (readsBelow_integer bound "column").member "col" hsize
    simp [hline, hcolumn, Span.positionOfMembers, Json.asObject, Span.positionToJson,
      Option.map_eq_bind, Option.bind_assoc]

/-- The reader of spans fits its kind; a missing span is read from a null. -/
theorem Span.readsBelow (bound : Nat) :
    ReadsBelow bound .span Span.ofJson? (Json.ofOption Span.toJson) := by
  intro json hjson
  cases json with
  | obj members =>
      have hsize := Nat.le_of_lt hjson
      have hstart := (Span.readsBelow_position bound "span start").member "beg" hsize
      have hstop := (Span.readsBelow_position bound "span end").member "end" hsize
      have hfile := (readsBelow_optionalText bound "file").memberOrNull "file" rfl hsize
      have hfields : Kind.span.form = .record [⟨"beg", .position, none⟩, ⟨"end", .position, none⟩,
        ⟨"file", .optionalText, some .null⟩] := rfl
      have hobject : (Json.obj members).asObject "span" = .ok members := rfl
      simp only [canonical?_record hfields, List.mapM_cons, List.mapM_nil, hstart, hstop, hfile,
        Span.ofJson?, hobject, ok_bind, toOption_bind, toOption_fmap, bind_pure_comp,
        Option.pure_def, Option.bind_eq_bind, Option.bind_some, Option.bind_assoc,
        Option.map_eq_bind, Function.comp_def]
      -- Both objects are taken apart before the first position is read.
      refine Option.bind_congr fun start _ => ?_
      refine Option.bind_congr fun startMembers _ => ?_
      cases Span.positionOfMembers startMembers <;> simp [Json.ofOption, Span.toJson]
  | _ => rfl

/-! ## Statements -/

/-- A branch is read from its labels and its body. -/
theorem Switch.readsBelow_branch {bound : Nat} {kind : Kind}
    {readLabels : Json → Except Rejection (List α)} {encode : List α → Json}
    (hlabels : ReadsBelow bound kind readLabels encode)
    (hbody : ReadsBelow bound .statement Statement.ofJson Statement.toJson) :
    ReadsBelow bound (.tuple [kind, .statement]) (Switch.branchOfJson readLabels)
      fun branch => .arr [encode branch.1, branch.2.toJson] := by
  intro json hjson
  simp [canonical?_pair "branch" hlabels hbody hjson, Switch.branchOfJson, Option.map_eq_bind,
    Option.bind_assoc]

section Layers

variable {bound : Nat} (hstatement : ReadsBelow bound .statement Statement.ofJson Statement.toJson)

include hstatement

/-- One more layer of a choice. -/
theorem Switch.readsBelow_succ : ReadsBelow (bound + 1) .switch Switch.ofJson Switch.toJson := by
  refine readsBelow_tagged "switch" rfl rfl rfl ?_ ⟨?_, ?_, ?_⟩ ?_
  · intro json
    simp only [Switch.ofJson_obj]
    exact Switch.ofJson_eq json
  · exact readsTag_triple "If" .branch (Operand.readsBelow bound) hstatement hstatement
      (Switch.ofJson_obj _) fun _ _ _ => rfl
  · have hlabels : ReadsBelow bound (.list .scalar) Switch.integerLabels
        (Json.ofList Scalar.toJson) := (Scalar.readsBelow bound).list "branch labels"
    have hbranch := Switch.readsBelow_branch hlabels hstatement
    refine readsTag_quadruple "SwitchInt" .integer (Operand.readsBelow bound)
      (IntegerType.readsBelow bound) (hbranch.list "branches") hstatement ?_ ?_
    · intro payload
      simp [Switch.ofJson_obj, Switch.ofTagged, Switch.integerBranches_eq_mapM]
    · intro operand type branches otherwise
      rw [Switch.toJson, Switch.integerBranchesToJson_eq_map]
      rfl
  · have hlabels : ReadsBelow bound (.list .integer) Switch.variantLabels (Json.ofList .int) :=
      (readsBelow_integer bound "variant id").list "branch labels"
    have hbranch := Switch.readsBelow_branch hlabels hstatement
    refine readsTag_triple "Match" .variant (Place.readsBelow bound) (hbranch.list "branches")
      hstatement ?_ ?_
    · intro payload
      simp [Switch.ofJson_obj, Switch.ofTagged, Switch.variantBranches_eq_mapM]
    · intro place branches otherwise
      rw [Switch.toJson, Switch.variantBranchesToJson_eq_map]
      rfl
  · intro tag payload htag
    simp_all [Switch.ofJson_obj, Switch.ofTagged]

/-- One more layer of what a statement does. -/
theorem Content.readsBelow_succ (hswitch : ReadsBelow bound .switch Switch.ofJson Switch.toJson) :
    ReadsBelow (bound + 1) .content Content.ofJson Content.toJson := by
  refine readsBelow_tagged "statement" rfl rfl rfl ?_
    ⟨?_, ?_, ?_, ?_, ?_, ?_, ?_, ?_, ?_, ?_, ?_, ?_, ?_, ?_⟩ ?_
  · intro json
    simp only [Content.ofJson_obj]
    exact Content.ofJson_eq json
  · refine readsTag_pair "Assign" (fun place value => .action (.assign place value))
      (Place.readsBelow bound) (Rvalue.readsBelow bound) ?_ fun _ _ => rfl
    intro payload
    simp [Content.ofJson_obj, Content.ofTagged, Action.ofTag?, map_eq_fmap]
  · refine readsTag_part (fun place => .action (.fakeRead place)) (Place.readsBelow bound) ?_
      fun _ => rfl
    intro payload
    simp [Content.ofJson_obj, Content.ofTagged, Action.ofTag?, map_eq_fmap]
  · refine readsTag_pair "SetDiscriminant"
      (fun place variant => .action (.setDiscriminant place variant)) (Place.readsBelow bound)
      (readsBelow_integer bound "variant id") ?_ fun _ _ => rfl
    intro payload
    simp [Content.ofJson_obj, Content.ofTagged, Action.ofTag?, map_eq_fmap]
  · refine readsTag_part (fun place => .action (.drop place)) (Place.readsBelow bound) ?_
      fun _ => rfl
    intro payload
    simp [Content.ofJson_obj, Content.ofTagged, Action.ofTag?, map_eq_fmap]
  · refine readsTag_part (fun assertion => .action (.assert assertion))
      (Assertion.readsBelow bound) ?_ fun _ => rfl
    intro payload
    simp [Content.ofJson_obj, Content.ofTagged, Action.ofTag?, map_eq_fmap]
  · refine readsTag_part (fun made => .action (.call made)) (Call.readsBelow bound) ?_
      fun _ => rfl
    intro payload
    simp [Content.ofJson_obj, Content.ofTagged, Action.ofTag?, map_eq_fmap]
  · exact readsTag_bare (.action .panic) (Content.ofJson_obj _) rfl
  · exact readsTag_bare (.action .ret) (Content.ofJson_obj _) rfl
  · refine readsTag_part (fun depth => .action (.brk depth))
      (readsBelow_integer bound "break depth") ?_ fun _ => rfl
    intro payload
    simp [Content.ofJson_obj, Content.ofTagged, Action.ofTag?, map_eq_fmap]
  · refine readsTag_part (fun depth => .action (.cont depth))
      (readsBelow_integer bound "continue depth") ?_ fun _ => rfl
    intro payload
    simp [Content.ofJson_obj, Content.ofTagged, Action.ofTag?, map_eq_fmap]
  · exact readsTag_bare (.action .nop) (Content.ofJson_obj _) rfl
  · exact readsTag_pair "Sequence" .sequence hstatement hstatement (Content.ofJson_obj _)
      fun _ _ => rfl
  · exact readsTag_part .switch hswitch (Content.ofJson_obj _) fun _ => rfl
  · exact readsTag_part .loop hstatement (Content.ofJson_obj _) fun _ => rfl
  · intro tag payload htag
    simp_all [Content.ofJson_obj, Content.ofTagged, Action.ofTag?]

end Layers

/-- One more layer of a statement. -/
theorem Statement.readsBelow_succ {bound : Nat}
    (hcontent : ReadsBelow bound .content Content.ofJson Content.toJson) :
    ReadsBelow (bound + 1) .statement Statement.ofJson Statement.toJson := by
  refine readsBelow_record "statement" rfl rfl ?_ ?_
  · intro json
    cases json <;> rfl
  · intro members hmembers
    have hsize := Nat.le_of_lt_succ hmembers
    have hdoes := hcontent.member "content" hsize
    have hspan := (Span.readsBelow bound).memberOrNull "span" rfl hsize
    simp [hdoes, hspan, Statement.ofJson_eq, Json.asObject, Statement.toJson, Option.map_eq_bind,
      Option.bind_assoc]

/-- Statements, what they do and choices hold each other, so their bounds are raised together. -/
theorem Statement.readsBelow_all (bound : Nat) :
    ReadsBelow bound .statement Statement.ofJson Statement.toJson ∧
      ReadsBelow bound .content Content.ofJson Content.toJson ∧
      ReadsBelow bound .switch Switch.ofJson Switch.toJson := by
  induction bound with
  | zero =>
      refine ⟨?_, ?_, ?_⟩ <;> exact fun json hjson => absurd hjson (Nat.not_lt_zero _)
  | succ bound ih =>
      obtain ⟨hstatement, hcontent, hswitch⟩ := ih
      exact ⟨Statement.readsBelow_succ hcontent, Content.readsBelow_succ hstatement hswitch,
        Switch.readsBelow_succ hstatement⟩

/-! ## What the readers accept -/

/-- A reader that fits a kind and reads canonical forms back accepts exactly the values of the
kind. -/
theorem ReadsBelow.eq_ok_iff {kind : Kind} {decode : Json → Except Rejection α} {encode : α → Json}
    (h : ∀ bound, ReadsBelow bound kind decode encode)
    (hback : ∀ value, decode (encode value) = .ok value) (json : Json) (value : α) :
    decode json = .ok value ↔ canonical? kind json = some (encode value) := by
  rw [h (sizeOf json + 1) json (Nat.lt_succ_self _)]
  constructor
  · intro hdecode
    rw [hdecode]
    rfl
  · intro hencode
    cases hdecode : decode json with
    | error e => simp [hdecode] at hencode
    | ok found =>
        -- Two nodes with one canonical form are the same node, since the form is read back.
        have hsame : encode found = encode value := by simpa [hdecode] using hencode
        have hfound := hback found
        rw [hsame, hback value] at hfound
        exact hfound.symm

/-- A list has no result when one of its items has none. -/
theorem mapM_eq_none_of_mem {f : α → Option β} {items : List α} {item : α} (hitem : item ∈ items)
    (h : f item = none) : items.mapM f = none := by
  induction items with
  | nil => exact absurd hitem List.not_mem_nil
  | cons first rest ih =>
      rcases List.mem_cons.1 hitem with rfl | hrest
      · simp [List.mapM_cons, h]
      · simp [List.mapM_cons, ih hrest]

/-- What has no canonical form, whatever the kind. -/
structure Kind.RejectsMisfits (kind : Kind) : Prop where
  /-- Truth values and numbers with a fraction or an exponent are no integers. -/
  integer : kind.form = .integer ∨ kind.form = .numeral →
    (∀ value, canonical? kind (.bool value) = none) ∧ ∀ value, canonical? kind (.real value) = none
  /-- Only an array is a list. -/
  list : ∀ json, (∀ items, json ≠ .arr items) → canonical? (.list kind) json = none
  /-- A tuple has as many items as parts. -/
  tuple : ∀ parts items, items.length ≠ parts.length → canonical? (.tuple parts) (.arr items) = none
  /-- A tag that has a payload does not stand alone. -/
  bareTag : ∀ tags tag part, kind.form = .tagged tags → Assoc.find? tag tags = some (some part) →
    canonical? kind (.str tag) = none
  /-- Other tags do not occur. -/
  unknownTag : ∀ tags tag, kind.form = .tagged tags → Assoc.find? tag tags = none →
    canonical? kind (.str tag) = none ∧ ∀ payload, canonical? kind (.obj [(tag, payload)]) = none
  /-- A member that nothing stands in for has to be there. -/
  missingMember : ∀ fields, kind.form = .record fields → ∀ field ∈ fields, field.absent = none →
    ∀ members, Assoc.find? field.key members = none → canonical? kind (.obj members) = none

/-- Every kind rejects the values that are misfits in its shape. -/
theorem Kind.rejectsMisfits (kind : Kind) : kind.RejectsMisfits where
  integer := by
    rintro (hform | hform) <;> exact ⟨by simp [canonical?, hform], by simp [canonical?]⟩
  list := by
    intro json hjson
    cases json with
    | arr items => exact absurd rfl (hjson items)
    | _ => rfl
  tuple := by
    intro parts items hlength
    refine canonical?_tuple_eq_none fun others hothers => ?_
    cases hothers
    exact hlength
  bareTag := by
    intro tags tag part hform hfind
    simp [canonical?, hform, hfind]
  unknownTag := by
    intro tags tag hform hfind
    refine ⟨by simp [canonical?, hform, hfind], fun payload => ?_⟩
    rw [canonical?_tagged hform, hfind]
    rfl
  missingMember := by
    intro fields hform field hfield habsent members hmissing
    rw [canonical?_record hform, Option.map_eq_none_iff]
    have hmember : canonicalMember? field members = none := by
      rw [canonicalMember?_eq, hmissing]
      simp [habsent]
    exact mapM_eq_none_of_mem hfield hmember

/-- Each reader of nodes accepts exactly the values that have a canonical form of its kind, and
gives the node that the canonical form is of.  No misfit has a canonical form. -/
theorem ofJson_eq_ok_iff_canonical (json : Json) :
    ((∀ statement, Statement.ofJson json = .ok statement ↔
      canonical? .statement json = some statement.toJson) ∧
    (∀ content, Content.ofJson json = .ok content ↔
      canonical? .content json = some content.toJson) ∧
    (∀ switch, Switch.ofJson json = .ok switch ↔ canonical? .switch json = some switch.toJson) ∧
    (∀ value, Rvalue.ofJson json = .ok value ↔ canonical? .rvalue json = some value.toJson) ∧
    (∀ operand, Operand.ofJson json = .ok operand ↔
      canonical? .operand json = some operand.toJson) ∧
    (∀ place, Place.ofJson json = .ok place ↔ canonical? .place json = some place.toJson) ∧
    (∀ constant, Constant.ofJson json = .ok constant ↔
      canonical? .constant json = some constant.toJson) ∧
    (∀ call, Call.ofJson json = .ok call ↔ canonical? .call json = some call.toJson) ∧
    (∀ type, Ty.ofJson json = .ok type ↔ canonical? .type json = some type.toJson)) ∧
    ∀ kind : Kind, kind.RejectsMisfits := by
  refine ⟨⟨?_, ?_, ?_, ?_, ?_, ?_, ?_, ?_, ?_⟩, Kind.rejectsMisfits⟩
  · exact ReadsBelow.eq_ok_iff (fun bound => (Statement.readsBelow_all bound).1)
      Statement.ofJson_toJson json
  · exact ReadsBelow.eq_ok_iff (fun bound => (Statement.readsBelow_all bound).2.1)
      Content.ofJson_toJson json
  · exact ReadsBelow.eq_ok_iff (fun bound => (Statement.readsBelow_all bound).2.2)
      Switch.ofJson_toJson json
  · exact ReadsBelow.eq_ok_iff Rvalue.readsBelow Rvalue.ofJson_toJson json
  · exact ReadsBelow.eq_ok_iff Operand.readsBelow Operand.ofJson_toJson json
  · exact ReadsBelow.eq_ok_iff Place.readsBelow Place.ofJson_toJson json
  · exact ReadsBelow.eq_ok_iff Constant.readsBelow Constant.ofJson_toJson json
  · exact ReadsBelow.eq_ok_iff Call.readsBelow Call.ofJson_toJson json
  · exact ReadsBelow.eq_ok_iff Ty.readsBelow Ty.ofJson_toJson json

/-- Members that are not read and the payload of a bare tag do not matter. -/
theorem Statement.ofJson_of_unread_members :
    Statement.ofJson (.obj [("line", .int 3), ("content", .obj [("Nop", .bool true)])])
      = .ok (.mk none (.action .nop)) :=
  ((ofJson_eq_ok_iff_canonical _).1.1 _).2 rfl

end CrateListing
