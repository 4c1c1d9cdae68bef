import CrateListing.Proofs.Reordering

/-!
# The order of keys does not matter

Values that are equal up to the order of keys are read alike: they give the same
node, or they are rejected for the same fault.  This is shown reader by reader,
and for types, constants and statements by induction on a bound of the values.
A crate is rejected for the first of its faults, in an order that the file does
not choose.

Main definitions:

- `Crate.faults`: the faults of the parts of a crate, in the order in which it is read.
- `FirstFault`: a reading is rejected for the first of some faults.

Main results:

- Theorems `Ty.alikeBelow`, `Constant.alikeBelow`, `Statement.alikeBelow` and so on: the readers
  treat values alike.
- Theorem `Crate.firstFault_ofJson`: which fault is reported.
- Theorem `Crate.ofJson_of_reordered`: whole crates.
-/

namespace CrateListing

open Outcome

variable {bound : Nat}

/-! ## Types -/

/-- A region is read alike from values that differ in the order of keys. -/
theorem Region.alikeBelow : AlikeBelow bound Region.ofJson := by
  intro json other h
  refine h.succ.tagged "region" fun tag payload payload' hpayload => ?_
  dsimp only
  split_ifs
  · exact .pure _
  · exact .pure _
  · exact (alikeBelow_integer _ _ _ hpayload).bind_pure _
  · exact .unknownTag _ _

/-- A list of regions is read alike. -/
theorem Region.alikeBelow_list (what : Text) : AlikeBelow bound (Region.listOfJson what) := by
  intro json other h
  exact (h.succ.array what).bind fun _ _ hitems => Region.alikeBelow.all hitems

/-- A name has no keys, so that it is looked up alike. -/
theorem IntegerType.alike_ofName (name : Text) :
    ReadAlike Eq (IntegerType.ofName name) (IntegerType.ofName name) := by
  unfold IntegerType.ofName
  split
  · exact .pure _
  · exact .unknownTag _ _

/-- An integer type is read alike. -/
theorem IntegerType.alikeBelow : AlikeBelow bound IntegerType.ofJson := by
  intro json other h
  exact (alikeBelow_string _ _ _ h).bind_eq IntegerType.alike_ofName

/-- The head of a type application is read alike. -/
theorem TypeHead.alikeBelow : AlikeBelow bound TypeHead.ofJson := by
  intro json other h
  refine h.succ.tagged "type id" fun tag payload payload' hpayload => ?_
  dsimp only
  split_ifs
  · exact (alikeBelow_integer _ _ _ hpayload).bind_pure _
  · exact .pure _
  · exact (alikeBelow_named _ _ _ _ hpayload).bind_pure _
  · exact .unknownTag _ _

/-- A type that is only a tag is read alike. -/
theorem Ty.alikeBelow_simpleTag (tag : Text) : AlikeBelow bound (Ty.ofSimpleTag tag) := by
  intro payload payload' hpayload
  unfold Ty.ofSimpleTag
  split_ifs
  · exact (alikeBelow_integer _ _ _ hpayload).bind_pure _
  · exact .pure _
  · exact .pure _
  · exact .pure _
  · exact (IntegerType.alikeBelow _ _ hpayload).bind_pure _
  · exact .pure _
  · exact .unknownTag _ _

/-- The types in a list are read alike when each type is. -/
theorem Ty.alikeBelow_all (hty : AlikeBelow bound Ty.ofJson) {items others : List Json}
    (hitems : List.Forall₂ (Json.SameBelow bound) items others) :
    ReadAlike Eq (Ty.allOfJson items) (Ty.allOfJson others) := by
  rw [Ty.allOfJson_eq_mapM, Ty.allOfJson_eq_mapM]
  exact hty.all hitems

/-- A list of types is read alike when each type is. -/
theorem Ty.alikeBelow_list (hty : AlikeBelow bound Ty.ofJson) (what : Text) :
    AlikeBelow bound (Ty.listOfJson what) := by
  intro json other h
  exact (h.succ.array what).bind fun _ _ hitems => Ty.alikeBelow_all hty hitems

/-- A type is read alike, by induction on the bound. -/
theorem Ty.alikeBelow : AlikeBelow bound Ty.ofJson := by
  induction bound with
  | zero => exact .zero _
  | succ bound ih =>
      intro json other h
      rw [Ty.ofJson_eq, Ty.ofJson_eq]
      refine h.tagged "type" fun tag payload payload' hpayload => ?_
      unfold Ty.ofTagged
      split_ifs
      · exact hpayload.readTriple "Adt" TypeHead.alikeBelow (Region.alikeBelow_list _)
          (Ty.alikeBelow_list ih _) _
      · exact (ih _ _ hpayload).bind_pure _
      · exact (ih _ _ hpayload).bind_pure _
      · exact hpayload.readTriple "Ref" Region.alikeBelow ih (alikeBelow_named _ _) _
      · exact Ty.alikeBelow_simpleTag tag _ _ hpayload

/-! ## Constants and places -/

/-- The value of a scalar is read alike. -/
theorem Scalar.alikeBelow_value : AlikeBelow bound Scalar.valueOfJson := by
  intro json other h
  have hinteger := alikeBelow_integer "scalar value" json other h
  cases h.reordered with
  | str text =>
      dsimp only [Scalar.valueOfJson]
      cases Text.readInteger text with
      | ok value => exact .pure value
      | error fault => exact .unmet _ h.reordered
  | _ => exact hinteger

/-- A scalar is read alike. -/
theorem Scalar.alikeBelow : AlikeBelow bound Scalar.ofJson := by
  intro json other h
  refine h.succ.tagged "scalar value" fun tag payload payload' hpayload => ?_
  refine (IntegerType.alike_ofName tag).bind_eq fun type => ?_
  exact (Scalar.alikeBelow_value _ _ hpayload).bind_pure _

/-- A constant with a payload that is no constant is read alike. -/
theorem Constant.alikeBelow_simpleTag (tag : Text) :
    AlikeBelow bound (Constant.ofSimpleTag tag) := by
  intro payload payload' hpayload
  unfold Constant.ofSimpleTag
  split_ifs
  · exact (Scalar.alikeBelow _ _ hpayload).bind_pure _
  · cases hpayload.reordered with
    | bool value => exact .pure _
    | _ => exact .unmet _ hpayload.reordered
  · exact (alikeBelow_string _ _ _ hpayload).bind_pure _
  · exact (alikeBelow_string _ _ _ hpayload).bind_pure _
  · exact (alikeBelow_integer _ _ _ hpayload).bind_pure _
  · exact .unknownTag _ _

/-- A constant is read alike, by induction on the bound. -/
theorem Constant.alikeBelow : AlikeBelow bound Constant.ofJson := by
  induction bound with
  | zero => exact .zero _
  | succ bound ih =>
      intro json other h
      rw [Constant.ofJson_eq, Constant.ofJson_eq]
      refine h.tagged "constant value" fun tag payload payload' hpayload => ?_
      unfold Constant.ofTagged
      split_ifs
      · refine hpayload.succ.pair "constant Adt" fun hvariant hfields => ?_
        refine (alikeBelow_integer? _ _ _ hvariant).bind_eq fun variant => ?_
        refine (hfields.succ.array _).bind fun _ _ hitems => ?_
        rw [Constant.allOfJson_eq_mapM, Constant.allOfJson_eq_mapM]
        exact (ih.all hitems).bind_pure _
      · exact Constant.alikeBelow_simpleTag tag _ _ hpayload

theorem FieldOwner.alikeBelow : AlikeBelow bound FieldOwner.ofJson := by
  intro json other h
  refine h.succ.tagged "field projection kind" fun tag payload payload' hpayload => ?_
  dsimp only
  split_ifs
  · exact hpayload.readPair "ProjAdt" (alikeBelow_integer _) (alikeBelow_integer? _) _
  · exact (alikeBelow_integer _ _ _ hpayload).bind_pure _
  · exact .unknownTag _ _

theorem Projection.alikeBelow : AlikeBelow bound Projection.ofJson := by
  intro json other h
  refine h.succ.tagged "projection element" fun tag payload payload' hpayload => ?_
  dsimp only
  split_ifs
  · exact .pure _
  · exact .pure _
  · exact hpayload.readPair "Field" FieldOwner.alikeBelow (alikeBelow_integer _) _
  · exact .unknownTag _ _

theorem Place.alikeBelow : AlikeBelow bound Place.ofJson := by
  intro json other h
  refine (h.succ.object "place").bind fun members others hmembers => ?_
  refine hmembers.read "var_id" (alikeBelow_integer _) fun root => ?_
  exact hmembers.readItems "projection" Projection.alikeBelow fun path => .pure _

/-! ## Expressions -/

theorem Operand.alikeBelow : AlikeBelow bound Operand.ofJson := by
  intro json other h
  refine h.succ.tagged "operand" fun tag payload payload' hpayload => ?_
  dsimp only
  split_ifs
  · exact (Place.alikeBelow _ _ hpayload).bind_pure _
  · exact (Place.alikeBelow _ _ hpayload).bind_pure _
  · exact hpayload.readPair "Const" Ty.alikeBelow Constant.alikeBelow _
  · exact .unknownTag _ _

theorem UnaryOperator.alikeBelow : AlikeBelow bound UnaryOperator.ofJson := by
  intro json other h
  refine h.succ.tagged "unary operator" fun tag payload payload' hpayload => ?_
  dsimp only
  split_ifs
  · exact .pure _
  · exact .pure _
  · exact hpayload.readPair "Cast" IntegerType.alikeBelow IntegerType.alikeBelow _
  · exact .unknownTag _ _

theorem AggregateKind.alikeBelow : AlikeBelow bound AggregateKind.ofJson := by
  intro json other h
  refine h.succ.tagged "aggregate kind" fun tag payload payload' hpayload => ?_
  dsimp only
  split_ifs
  · exact .pure _
  · exact hpayload.readPair "AggregatedOption" (alikeBelow_integer _) Ty.alikeBelow _
  · refine hpayload.succ.quadruple "AggregatedAdt" fun htype hvariant hregions htypes => ?_
    refine (alikeBelow_integer _ _ _ htype).bind_eq fun type => ?_
    refine (alikeBelow_integer? _ _ _ hvariant).bind_eq fun variant => ?_
    refine (Region.alikeBelow_list _ _ _ hregions).bind_eq fun regions => ?_
    exact (Ty.alikeBelow_list Ty.alikeBelow _ _ _ htypes).bind_pure _
  · exact .unknownTag _ _

theorem Rvalue.alikeBelow : AlikeBelow bound Rvalue.ofJson := by
  intro json other h
  refine h.succ.tagged "rvalue" fun tag payload payload' hpayload => ?_
  dsimp only
  split_ifs
  · exact (Operand.alikeBelow _ _ hpayload).bind_pure _
  · exact hpayload.readPair "Ref" Place.alikeBelow (alikeBelow_named _ _) _
  · exact hpayload.readPair "UnaryOp" UnaryOperator.alikeBelow Operand.alikeBelow _
  · exact hpayload.readTriple "BinaryOp" (alikeBelow_named _ _) Operand.alikeBelow
      Operand.alikeBelow _
  · exact (Place.alikeBelow _ _ hpayload).bind_pure _
  · refine hpayload.succ.pair "Aggregate" fun hkind hoperands => ?_
    refine (AggregateKind.alikeBelow _ _ hkind).bind_eq fun kind => ?_
    refine (hoperands.succ.array _).bind fun _ _ hitems => ?_
    exact (Operand.alikeBelow.all hitems).bind_pure _
  · exact (alikeBelow_integer _ _ _ hpayload).bind_pure _
  · exact .unknownTag _ _

theorem Callee.alikeBelow : AlikeBelow bound Callee.ofJson := by
  intro json other h
  refine h.succ.tagged "function id" fun tag payload payload' hpayload => ?_
  dsimp only
  split_ifs
  · exact (alikeBelow_integer _ _ _ hpayload).bind_pure _
  · exact (alikeBelow_named _ _ _ _ hpayload).bind_pure _
  · exact .unknownTag _ _

theorem Call.alikeBelow : AlikeBelow bound Call.ofJson := by
  intro json other h
  refine (h.succ.object "call").bind fun members others hmembers => ?_
  refine hmembers.read "func" Callee.alikeBelow fun callee => ?_
  refine hmembers.readItems "args" Operand.alikeBelow fun arguments => ?_
  refine hmembers.read "dest" Place.alikeBelow fun target => ?_
  refine hmembers.readItems "region_args" Region.alikeBelow fun regions => ?_
  refine (hmembers.items "type_args").bind fun _ _ hitems => ?_
  exact (Ty.alikeBelow_all Ty.alikeBelow hitems).bind_pure _

/-- The expected outcome is looked at before the condition. -/
theorem Assertion.alikeBelow : AlikeBelow bound Assertion.ofJson := by
  intro json other h
  refine (h.succ.object "assertion").bind fun members others hmembers => ?_
  refine (hmembers.member "expected").bind fun value value' hvalue => ?_
  cases hvalue.reordered with
  | bool expected => exact hmembers.read "cond" Operand.alikeBelow fun condition => .pure _
  | _ => exact .unmet _ hvalue.reordered

/-! ## Statements -/

/-- A position is read alike from its members. -/
theorem Span.alike_position {members others : List (Text × Json)}
    (h : MembersBelow bound members others) :
    ReadAlike Eq (Span.positionOfMembers members) (Span.positionOfMembers others) := by
  refine h.read "line" (alikeBelow_integer _) fun line => ?_
  exact h.read "col" (alikeBelow_integer _) fun column => .pure _

/-- A span, which is read from its parts unless it is missing. -/
theorem Span.alikeBelow : AlikeBelow bound Span.ofJson? := by
  intro json other h
  cases h.reordered with
  | null => exact .pure none
  | obj =>
      refine (h.succ.object "span").bind fun members others hmembers => ?_
      refine (hmembers.member "beg").bind fun _ _ hstart => ?_
      refine (hstart.succ.object "span start").bind fun start start' hstart => ?_
      refine (hmembers.member "end").bind fun _ _ hstop => ?_
      refine (hstop.succ.object "span end").bind fun stop stop' hstop => ?_
      refine (Span.alike_position hstart).bind_eq fun first => ?_
      refine (Span.alike_position hstop).bind_eq fun last => ?_
      exact hmembers.readOrNull "file" (alikeBelow_string? _) fun file => .pure _
  | _ => exact .unmet _ h.reordered

/-- One tag of a table of tags. -/
theorem ReadAlike.orElse {α : Type} {tag known : Text} {first other : Except Rejection α}
    {rest rest' : Option (Except Rejection α)} (hread : ReadAlike Eq first other)
    (hrest : Option.Rel (ReadAlike Eq) rest rest') :
    Option.Rel (ReadAlike Eq) (if tag = known then some first else rest)
      (if tag = known then some other else rest') := by
  by_cases htag : tag = known
  · simpa only [htag, if_true] using Option.Rel.some hread
  · simpa only [htag, if_false] using hrest

/-- A tag stands for an action or not, whatever the payload is; the action is read alike. -/
theorem Action.alike_ofTag? (tag : Text) {payload payload' : Json}
    (hpayload : payload.SameBelow bound payload') :
    Option.Rel (ReadAlike Eq) (Action.ofTag? tag payload) (Action.ofTag? tag payload') := by
  have hplace := Place.alikeBelow _ _ hpayload
  have hdepth := fun what => alikeBelow_integer what _ _ hpayload
  refine ReadAlike.orElse (hpayload.readPair "Assign" Place.alikeBelow Rvalue.alikeBelow _) ?_
  refine ReadAlike.orElse (hplace.bind_pure _) ?_
  refine ReadAlike.orElse
    (hpayload.readPair "SetDiscriminant" Place.alikeBelow (alikeBelow_integer _) _) ?_
  refine ReadAlike.orElse (hplace.bind_pure _) ?_
  refine ReadAlike.orElse ((Assertion.alikeBelow _ _ hpayload).bind_pure _) ?_
  refine ReadAlike.orElse ((Call.alikeBelow _ _ hpayload).bind_pure _) ?_
  refine ReadAlike.orElse (.pure _) ?_
  refine ReadAlike.orElse (.pure _) ?_
  refine ReadAlike.orElse ((hdepth _).bind_pure _) ?_
  refine ReadAlike.orElse ((hdepth _).bind_pure _) ?_
  exact ReadAlike.orElse (.pure _) .none

/-- The labels of a clause on integers are read alike. -/
theorem Switch.alikeBelow_integerLabels : AlikeBelow bound Switch.integerLabels := by
  intro json other h
  exact (h.succ.array _).bind fun _ _ hitems => Scalar.alikeBelow.all hitems

/-- The labels of a clause on variants are read alike. -/
theorem Switch.alikeBelow_variantLabels : AlikeBelow bound Switch.variantLabels := by
  intro json other h
  exact (h.succ.array _).bind fun _ _ hitems => (alikeBelow_integer _).all hitems

/-! A statement is smaller than the one that it is part of, so what is shown of statements below a
bound carries over to the statements, contents and choices that are built from them. -/

section Parts

variable (hstatement : AlikeBelow bound Statement.ofJson)

include hstatement

/-- A clause is read alike when its labels and the statements in it are. -/
theorem Switch.alikeBelow_branch {α : Type} {readLabels : Json → Except Rejection (List α)}
    (hlabels : AlikeBelow bound readLabels) :
    AlikeBelow bound (Switch.branchOfJson readLabels) := by
  intro json other h
  exact h.readPair "branch" hlabels hstatement _

/-- A switch is read alike when the smaller statements in it are. -/
theorem Switch.alikeBelow_succ : AlikeBelow (bound + 1) Switch.ofJson := by
  intro json other h
  rw [Switch.ofJson_eq, Switch.ofJson_eq]
  refine h.tagged "switch" fun tag payload payload' hpayload => ?_
  unfold Switch.ofTagged
  split_ifs
  · exact hpayload.readTriple "If" Operand.alikeBelow hstatement hstatement _
  · refine hpayload.succ.quadruple "SwitchInt" fun hoperand htype hbranches hotherwise => ?_
    refine (Operand.alikeBelow _ _ hoperand).bind_eq fun operand => ?_
    refine (IntegerType.alikeBelow _ _ htype).bind_eq fun type => ?_
    refine (hbranches.succ.array _).bind fun _ _ hitems => ?_
    rw [Switch.integerBranches_eq_mapM, Switch.integerBranches_eq_mapM]
    have hbranch := Switch.alikeBelow_branch hstatement Switch.alikeBelow_integerLabels
    refine (hbranch.all hitems).bind_eq fun branches => ?_
    exact (hstatement _ _ hotherwise).bind_pure _
  · refine hpayload.succ.triple "Match" fun hplace hbranches hotherwise => ?_
    refine (Place.alikeBelow _ _ hplace).bind_eq fun place => ?_
    refine (hbranches.succ.array _).bind fun _ _ hitems => ?_
    rw [Switch.variantBranches_eq_mapM, Switch.variantBranches_eq_mapM]
    have hbranch := Switch.alikeBelow_branch hstatement Switch.alikeBelow_variantLabels
    refine (hbranch.all hitems).bind_eq fun branches => ?_
    exact (hstatement _ _ hotherwise).bind_pure _
  · exact .unknownTag _ _

/-- A content is read alike when the smaller statements in it are. -/
theorem Content.alikeBelow_succ (hswitch : AlikeBelow bound Switch.ofJson) :
    AlikeBelow (bound + 1) Content.ofJson := by
  intro json other h
  rw [Content.ofJson_eq, Content.ofJson_eq]
  refine h.tagged "statement" fun tag payload payload' hpayload => ?_
  have haction := Action.alike_ofTag? tag hpayload
  unfold Content.ofTagged
  dsimp only
  generalize Action.ofTag? tag payload = action at haction ⊢
  generalize Action.ofTag? tag payload' = action' at haction ⊢
  cases haction with
  | some hread => exact hread.map _
  | none =>
      dsimp only
      split_ifs
      · exact hpayload.readPair "Sequence" hstatement hstatement _
      · exact (hswitch _ _ hpayload).bind_pure _
      · exact (hstatement _ _ hpayload).bind_pure _
      · exact .unknownTag _ _

end Parts

/-- A statement is read alike when its content is. -/
theorem Statement.alikeBelow_succ (hcontent : AlikeBelow bound Content.ofJson) :
    AlikeBelow (bound + 1) Statement.ofJson := by
  intro json other h
  rw [Statement.ofJson_eq, Statement.ofJson_eq]
  refine (h.object "statement").bind fun members others hmembers => ?_
  refine hmembers.read "content" hcontent fun content => ?_
  exact hmembers.readOrNull "span" Span.alikeBelow fun span => .pure _

/-- Statements, what they do and the choices in them, by induction on the bound. -/
theorem Statement.alikeBelow_all (bound : Nat) :
    AlikeBelow bound Statement.ofJson ∧ AlikeBelow bound Content.ofJson ∧
      AlikeBelow bound Switch.ofJson := by
  induction bound with
  | zero => exact ⟨.zero _, .zero _, .zero _⟩
  | succ bound ih =>
      obtain ⟨hstatement, hcontent, hswitch⟩ := ih
      exact ⟨Statement.alikeBelow_succ hcontent, Content.alikeBelow_succ hstatement hswitch,
        Switch.alikeBelow_succ hstatement⟩

/-- A statement is read alike, whatever its size. -/
theorem Statement.alikeBelow : AlikeBelow bound Statement.ofJson :=
  (Statement.alikeBelow_all bound).1

/-! ## Declarations -/

theorem Name.alikeBelow : AlikeBelow bound Name.ofJson := by
  intro json other h
  exact (h.succ.array _).bind fun _ _ hitems => (alikeBelow_string _).all hitems

theorem RegionParam.alikeBelow : AlikeBelow bound RegionParam.ofJson := by
  intro json other h
  refine (h.succ.object "region parameter").bind fun members others hmembers => ?_
  refine hmembers.read "index" (alikeBelow_integer _) fun index => ?_
  exact hmembers.readOrNull "name" (alikeBelow_string? _) fun name => .pure _

theorem TypeParam.alikeBelow : AlikeBelow bound TypeParam.ofJson := by
  intro json other h
  refine (h.succ.object "type parameter").bind fun members others hmembers => ?_
  refine hmembers.read "index" (alikeBelow_integer _) fun index => ?_
  exact hmembers.read "name" (alikeBelow_string _) fun name => .pure _

section Params

variable {members others : List (Text × Json)}

/-- The region parameters of a declaration are read alike from its members. -/
theorem RegionParam.alike_ofMembers (h : MembersBelow bound members others) :
    ReadAlike Eq (RegionParam.ofMembers members) (RegionParam.ofMembers others) :=
  (h.items _).bind fun _ _ hitems => RegionParam.alikeBelow.all hitems

/-- The type parameters of a declaration are read alike from its members. -/
theorem TypeParam.alike_ofMembers (h : MembersBelow bound members others) :
    ReadAlike Eq (TypeParam.ofMembers members) (TypeParam.ofMembers others) :=
  (h.items _).bind fun _ _ hitems => TypeParam.alikeBelow.all hitems

end Params

theorem FieldDecl.alikeBelow : AlikeBelow bound FieldDecl.ofJson := by
  intro json other h
  refine (h.succ.object "field").bind fun members others hmembers => ?_
  refine hmembers.readOrNull "name" (alikeBelow_string? _) fun name => ?_
  exact hmembers.read "ty" Ty.alikeBelow fun type => .pure _

theorem Variant.alikeBelow : AlikeBelow bound Variant.ofJson := by
  intro json other h
  refine (h.succ.object "variant").bind fun members others hmembers => ?_
  refine hmembers.readItems "fields" FieldDecl.alikeBelow fun fields => ?_
  exact hmembers.read "name" (alikeBelow_string _) fun name => .pure _

/-- The body of a type is read alike. -/
theorem TypeBody.alikeBelow : AlikeBelow bound TypeBody.ofJson := by
  intro json other h
  refine h.succ.tagged "type declaration kind" fun tag payload payload' hpayload => ?_
  dsimp only
  split_ifs
  · refine (hpayload.succ.array _).bind fun _ _ hitems => ?_
    exact (FieldDecl.alikeBelow.all hitems).bind_pure _
  · refine (hpayload.succ.array _).bind fun _ _ hitems => ?_
    exact (Variant.alikeBelow.all hitems).bind_pure _
  · exact .pure _
  · exact .unknownTag _ _

theorem TypeDecl.alikeBelow : AlikeBelow bound TypeDecl.ofJson := by
  intro json other h
  refine (h.succ.object "type declaration").bind fun members others hmembers => ?_
  refine hmembers.read "def_id" (alikeBelow_integer _) fun id => ?_
  refine hmembers.read "name" Name.alikeBelow fun name => ?_
  refine hmembers.read "kind" TypeBody.alikeBelow fun body => ?_
  refine (RegionParam.alike_ofMembers hmembers).bind_eq fun regionParams => ?_
  refine (TypeParam.alike_ofMembers hmembers).bind_eq fun typeParams => ?_
  exact hmembers.readOrNull "span" Span.alikeBelow fun span => .pure _

theorem GlobalDecl.alikeBelow : AlikeBelow bound GlobalDecl.ofJson := by
  intro json other h
  refine (h.succ.object "global declaration").bind fun members others hmembers => ?_
  refine hmembers.read "def_id" (alikeBelow_integer _) fun id => ?_
  refine hmembers.read "name" Name.alikeBelow fun name => ?_
  refine hmembers.read "ty" Ty.alikeBelow fun type => ?_
  refine hmembers.read "body_id" (alikeBelow_integer _) fun initializer => ?_
  exact hmembers.readOrNull "span" Span.alikeBelow fun span => .pure _

theorem Local.alikeBelow : AlikeBelow bound Local.ofJson := by
  intro json other h
  refine (h.succ.object "local").bind fun members others hmembers => ?_
  refine hmembers.read "index" (alikeBelow_integer _) fun index => ?_
  refine hmembers.readOrNull "name" (alikeBelow_string? _) fun name => ?_
  exact hmembers.read "ty" Ty.alikeBelow fun type => .pure _

theorem Signature.alikeBelow : AlikeBelow bound Signature.ofJson := by
  intro json other h
  refine (h.succ.object "signature").bind fun members others hmembers => ?_
  refine hmembers.read "inputs" (Ty.alikeBelow_list Ty.alikeBelow _) fun inputs => ?_
  refine hmembers.read "output" Ty.alikeBelow fun output => ?_
  refine (RegionParam.alike_ofMembers hmembers).bind_eq fun regionParams => ?_
  exact (TypeParam.alike_ofMembers hmembers).bind_pure _

theorem Body.alikeBelow : AlikeBelow bound Body.ofJson := by
  intro json other h
  refine (h.succ.object "function body").bind fun members others hmembers => ?_
  refine hmembers.read "arg_count" (alikeBelow_integer _) fun argCount => ?_
  refine (hmembers.member "locals").bind fun _ _ hlocals => ?_
  refine (hlocals.succ.array _).bind fun _ _ hitems => ?_
  refine (Local.alikeBelow.all hitems).bind_eq fun locals => ?_
  exact hmembers.read "body" Statement.alikeBelow fun statement => .pure _

/-- The body of a function is read alike, also when there is none. -/
theorem Body.alikeBelow_optional : AlikeBelow bound Body.ofJson? := by
  intro json other h
  have hbody := (Body.alikeBelow json other h).map some
  cases h.reordered with
  | null => exact .pure none
  | _ => exact hbody

/-- A function is read alike. -/
theorem FunDecl.alikeBelow : AlikeBelow bound FunDecl.ofJson := by
  intro json other h
  refine (h.succ.object "function declaration").bind fun members others hmembers => ?_
  refine hmembers.read "def_id" (alikeBelow_integer _) fun id => ?_
  refine hmembers.read "name" Name.alikeBelow fun name => ?_
  refine hmembers.read "signature" Signature.alikeBelow fun signature => ?_
  refine hmembers.readOrNull "body" Body.alikeBelow_optional fun body => ?_
  exact hmembers.readOrNull "span" Span.alikeBelow fun span => .pure _

/-! ## Crates -/

/-- The name of a crate is read alike. -/
theorem Crate.alikeBelow_name : AlikeBelow bound Crate.nameOfJson := by
  intro json other h
  cases h.reordered with
  | null => exact .pure none
  | str name => exact .pure (some name)
  | _ => exact .unmet _ h.reordered

/-- A crate is read alike from values that differ in the order of keys. -/
theorem Crate.alikeBelow : AlikeBelow bound fun json => (Crate.ofJson json).outcome := by
  intro json other h
  dsimp only
  rw [Crate.outcome_ofJson, Crate.outcome_ofJson]
  refine (h.succ.object "crate").bind fun members others hmembers => ?_
  refine hmembers.readOrNull "name" Crate.alikeBelow_name fun name => ?_
  refine hmembers.readItems "types" TypeDecl.alikeBelow fun types => ?_
  refine hmembers.readItems "globals" GlobalDecl.alikeBelow fun globals => ?_
  exact hmembers.readItems "functions" FunDecl.alikeBelow fun functions => .pure _

/-! ## Which fault is reported -/

section Faults

variable {α β : Type}

/-- The fault of a reading, if it has one. -/
def faultOf : Except Rejection α → List Rejection
  | .ok _ => []
  | .error rejection => [rejection]

/-- The faults of one section of a crate, item by item. -/
def Crate.sectionFaults (key : Text) (decode : Json → Except Rejection α)
    (members : List (Text × Json)) : List Rejection :=
  match Json.itemsOf key members with
  | .ok items => items.flatMap fun item => faultOf (decode item)
  | .error rejection => [rejection]

/-- The faults of the name of a crate and of its types, globals and functions, in this order. -/
def Crate.faults (json : Json) : List Rejection :=
  match json.asObject "crate" with
  | .ok members =>
      faultOf (Crate.nameOfJson (Json.memberOrNull "name" members))
        ++ (Crate.sectionFaults "types" TypeDecl.ofJson members
        ++ (Crate.sectionFaults "globals" GlobalDecl.ofJson members
        ++ Crate.sectionFaults "functions" FunDecl.ofJson members))
  | .error rejection => [rejection]

/-- A reading is rejected for the first of some faults, and succeeds when there is none. -/
def FirstFault (reading : Except Rejection α) (faults : List Rejection) : Prop :=
  ∀ rejection, reading = .error rejection ↔ faults.head? = some rejection

namespace FirstFault

/-- The fault of a reading is the first of its faults. -/
theorem faultOf (reading : Except Rejection α) : FirstFault reading (faultOf reading) := by
  intro rejection
  cases reading <;> simp [CrateListing.faultOf]

/-- The faults of the first part come before the faults of the second part. -/
theorem bind {reading : Except Rejection α} {next : α → Except Rejection β}
    {faults rest : List Rejection} (h : FirstFault reading faults)
    (hnext : ∀ a, FirstFault (next a) rest) : FirstFault (reading >>= next) (faults ++ rest) := by
  intro rejection
  cases reading with
  | error fault =>
      have hhead : faults.head? = some fault := (h fault).1 rfl
      simp [List.head?_append, hhead, error_bind]
  | ok a =>
      have hnone : faults = [] := by
        rw [← List.head?_eq_none_iff, Option.eq_none_iff_forall_ne_some]
        intro fault hfault
        cases (h fault).2 hfault
      rw [hnone, List.nil_append]
      exact hnext a rejection

/-- A reading whose result is only rewritten has the same first fault. -/
theorem bind_pure {reading : Except Rejection α} {faults : List Rejection}
    (h : FirstFault reading faults) (f : α → β) :
    FirstFault (reading >>= fun a => pure (f a)) faults := by
  have hrest : ∀ a, FirstFault (pure (f a) : Except Rejection β) [] := fun a =>
    faultOf (.ok (f a))
  simpa using h.bind hrest

/-- The items of a list are read one after the other. -/
theorem mapM (decode : Json → Except Rejection α) (items : List Json) :
    FirstFault (items.mapM decode)
      (items.flatMap fun item => CrateListing.faultOf (decode item)) := by
  induction items with
  | nil => exact faultOf (.ok [])
  | cons item rest ih =>
      rw [List.mapM_cons, List.flatMap_cons]
      exact (faultOf (decode item)).bind fun first => ih.bind_pure (first :: ·)

/-- A section is read, and then the rest. -/
theorem bind_section (key : Text) (decode : Json → Except Rejection α)
    (members : List (Text × Json)) {next : List α → Except Rejection β} {rest : List Rejection}
    (hnext : ∀ values, FirstFault (next values) rest) :
    FirstFault (Json.itemsOf key members >>= fun items => items.mapM decode >>= next)
      (Crate.sectionFaults key decode members ++ rest) := by
  unfold Crate.sectionFaults
  cases Json.itemsOf key members with
  | ok items => exact (mapM decode items).bind hnext
  | error rejection => exact (faultOf (.error rejection : Except Rejection (List α))).bind hnext

end FirstFault

/-- A crate is rejected for the first fault in the order of its sections. -/
theorem Crate.firstFault_ofJson (json : Json) :
    FirstFault (Crate.ofJson json).outcome (Crate.faults json) := by
  rw [Crate.outcome_ofJson]
  unfold Crate.faults
  cases json.asObject "crate" with
  | error rejection => exact .faultOf (.error rejection)
  | ok members =>
      rw [ok_bind]
      refine (FirstFault.faultOf _).bind fun name => ?_
      refine .bind_section "types" TypeDecl.ofJson members fun types => ?_
      refine .bind_section "globals" GlobalDecl.ofJson members fun globals => ?_
      rw [← List.append_nil (Crate.sectionFaults "functions" FunDecl.ofJson members)]
      exact .bind_section "functions" FunDecl.ofJson members fun functions => .faultOf (.ok _)

/-! Reordering keys changes no fault but the value that it shows. -/

/-- Readings that are alike have the same fault, or none. -/
theorem ReadAlike.faultOf {R : α → β → Prop} {first : Except Rejection α}
    {other : Except Rejection β} (h : ReadAlike R first other) :
    List.Forall₂ Rejection.SameFault (CrateListing.faultOf first) (CrateListing.faultOf other) := by
  cases h with
  | ok => exact .nil
  | error hfault => exact .cons hfault .nil

/-- The faults in lists of items that are read alike are the same, in the same order. -/
theorem AlikeBelow.faults {decode : Json → Except Rejection α} (h : AlikeBelow bound decode)
    {items others : List Json} (hitems : List.Forall₂ (Json.SameBelow bound) items others) :
    List.Forall₂ Rejection.SameFault (items.flatMap fun item => faultOf (decode item))
      (others.flatMap fun item => faultOf (decode item)) := by
  induction hitems with
  | nil => exact .nil
  | cons hitem _ ih =>
      rw [List.flatMap_cons, List.flatMap_cons]
      exact List.rel_append (h _ _ hitem).faultOf ih

/-- The faults in a section are the same, in the same order. -/
theorem MembersBelow.sectionFaults {members others : List (Text × Json)}
    (h : MembersBelow bound members others) (key : Text) {decode : Json → Except Rejection α}
    (hdecode : AlikeBelow bound decode) :
    List.Forall₂ Rejection.SameFault (Crate.sectionFaults key decode members)
      (Crate.sectionFaults key decode others) := by
  have hitems := h.items key
  unfold Crate.sectionFaults
  generalize Json.itemsOf key members = items at hitems ⊢
  generalize Json.itemsOf key others = items' at hitems ⊢
  cases hitems with
  | ok hitems => exact hdecode.faults hitems
  | error hfault => exact .cons hfault .nil

/-- The faults are the same, in the same order, whatever the order of keys. -/
theorem Crate.faults_sameFault {json other : Json} (h : json.SameBelow bound other) :
    List.Forall₂ Rejection.SameFault (Crate.faults json) (Crate.faults other) := by
  have hobject := h.succ.object "crate"
  unfold Crate.faults
  generalize json.asObject "crate" = object at hobject ⊢
  generalize other.asObject "crate" = object' at hobject ⊢
  cases hobject with
  | error hfault => exact .cons hfault .nil
  | ok hmembers =>
      have hname := Crate.alikeBelow_name _ _ (hmembers.orNull "name")
      refine List.rel_append hname.faultOf ?_
      refine List.rel_append (hmembers.sectionFaults "types" TypeDecl.alikeBelow) ?_
      refine List.rel_append (hmembers.sectionFaults "globals" GlobalDecl.alikeBelow) ?_
      exact hmembers.sectionFaults "functions" FunDecl.alikeBelow

end Faults

/-- Values that are equal up to the order of keys are read as the same crate, or both are rejected
with the same wording, up to the order of keys in the value that is shown.  The fault that is
reported is the first one in the order name, types, globals, functions, each section item by item;
reordering keys changes neither the faults nor their order. -/
theorem Crate.ofJson_of_reordered {json other : Json} (h : json.Reordered other) :
    ((∃ crate, (Crate.ofJson json).outcome = .ok crate ∧ (Crate.ofJson other).outcome = .ok crate) ∨
      ∃ rejection rejection' wording, (Crate.ofJson json).outcome = .error rejection ∧
        (Crate.ofJson other).outcome = .error rejection' ∧
        rejection.message = wording ++ Rejection.gotText rejection.found ∧
        rejection'.message = wording ++ Rejection.gotText rejection'.found ∧
        rejection.found.Reordered rejection'.found) ∧
    (∀ rejection, (Crate.ofJson json).outcome = .error rejection ↔
      (Crate.faults json).head? = some rejection) ∧
    (∀ rejection, (Crate.ofJson other).outcome = .error rejection ↔
      (Crate.faults other).head? = some rejection) ∧
    List.Forall₂ Rejection.SameFault (Crate.faults json) (Crate.faults other) := by
  have hbelow : json.SameBelow (sizeOf json + 1) other := ⟨h, Nat.lt_succ_self _⟩
  refine ⟨?_, Crate.firstFault_ofJson json, Crate.firstFault_ofJson other,
    Crate.faults_sameFault hbelow⟩
  have halike := Crate.alikeBelow json other hbelow
  dsimp only at halike
  generalize (Crate.ofJson json).outcome = outcome at halike ⊢
  generalize (Crate.ofJson other).outcome = outcome' at halike ⊢
  cases halike with
  | ok hcrate =>
      subst hcrate
      exact .inl ⟨_, rfl, rfl⟩
  | @error rejection rejection' hfault =>
      refine .inr ⟨rejection, rejection', rejection.headline, rfl, rfl, rejection.message_eq, ?_,
        hfault.found⟩
      rw [hfault.headline]
      exact rejection'.message_eq

/-- A crate with a type whose kind is missing. -/
def Json.withoutKind : Json :=
  .obj [("name", .str "demo"),
    ("types", .arr [.obj [("def_id", .int 0), ("name", .arr [.str "T"])]])]

/-- The same crate with its keys in another order. -/
def Json.withoutKindSwapped : Json :=
  .obj [("types", .arr [.obj [("name", .arr [.str "T"]), ("def_id", .int 0)]]),
    ("name", .str "demo")]

/-- Two members change places. -/
theorem Json.Reordered.swap {key key' : Text} {value value' other other' : Json}
    (hkey : key ≠ key') (h : value.Reordered other) (h' : value'.Reordered other') :
    Json.Reordered (.obj [(key, value), (key', value')]) (.obj [(key', other'), (key, other)]) :=
  @Json.Reordered.obj _ [(key, other), (key', other')] _ (by simpa [Assoc.keys] using hkey) rfl
    (.cons h (.cons h' .nil)) (.swap _ _ [])

/-- The two documents differ in the order of keys only. -/
theorem Json.withoutKind_reordered : Json.withoutKind.Reordered Json.withoutKindSwapped := by
  have hname : Json.Reordered (.arr [.str "T"]) (.arr [.str "T"]) := .arr (.cons (.str "T") .nil)
  exact .swap (by decide) (.str "demo")
    (.arr (.cons (.swap (by decide) (.int 0) hname) .nil))

/-- A type without a kind is rejected in both orders of keys, with messages that differ only in the
value that they show. -/
theorem Crate.ofJson_withoutKind :
    Json.withoutKind.Reordered Json.withoutKindSwapped ∧
    ∃ rejection rejection' wording, (Crate.ofJson .withoutKind).outcome = .error rejection ∧
      (Crate.ofJson .withoutKindSwapped).outcome = .error rejection' ∧
      rejection.message = wording ++ Rejection.gotText rejection.found ∧
      rejection'.message = wording ++ Rejection.gotText rejection'.found ∧
      rejection.found.Reordered rejection'.found := by
  refine ⟨Json.withoutKind_reordered, ?_⟩
  obtain ⟨⟨crate, hcrate, _⟩ | hrejected, _⟩ :=
    Crate.ofJson_of_reordered Json.withoutKind_reordered
  · cases hcrate
  · exact hrejected

end CrateListing
