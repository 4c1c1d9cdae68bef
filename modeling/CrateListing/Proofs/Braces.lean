import CrateListing.Proofs.Composition
import CrateListing.Proofs.Listing
import CrateListing.Proofs.Resolution
import Mathlib.Data.List.Infix

/-!
# Balanced braces

Braces come from loops, choices, functions, structs and aggregates.  Wherever the
names, the strings and the characters of a crate have none, the braces of its
listing are well nested: each part opens its braces before it closes them, and
closes all of them.

Main definitions:

- `Balanced`: the braces of a text are well nested.
- `Crate.WithoutBraces`: no name, string or character of a crate has a brace.

Main results:

- Theorem `composes_balanced`: texts that are put together from balanced texts are balanced.
- Theorem `Statement.balanced_render`: the text of a statement is balanced.
- Theorem `braces_balance`: so are the texts of declarations and of crates.
-/

namespace CrateListing

open Outcome

/-! ## Balanced texts -/

/-- A text without braces. -/
def BraceFree (text : Text) : Prop :=
  ∀ c ∈ text.toList, c ∉ [.char '\x7b', .char '\x7d']

instance (text : Text) : Decidable (BraceFree text) :=
  inferInstanceAs (Decidable (∀ c ∈ text.toList, c ∉ [.char '\x7b', .char '\x7d']))

/-- The braces of a text are well nested. -/
structure Balanced (text : Text) : Prop where
  /-- Up to any place in the text, there are at least as many braces opened as closed. -/
  opened : ∀ front, front <+: text.toList → front.count (.char '\x7d') ≤ front.count (.char '\x7b')
  closed : text.toList.count (.char '\x7b') = text.toList.count (.char '\x7d')

instance (text : Text) : Decidable (Balanced text) :=
  decidable_of_iff
    ((∀ front ∈ text.toList.inits, front.count (.char '\x7d') ≤ front.count (.char '\x7b')) ∧
      text.toList.count (.char '\x7b') = text.toList.count (.char '\x7d'))
    ⟨fun h => ⟨fun front hfront => h.1 front ((List.mem_inits _ _).2 hfront), h.2⟩,
      fun h => ⟨fun front hfront => h.opened front ((List.mem_inits _ _).1 hfront), h.closed⟩⟩

/-- A text without braces is balanced. -/
theorem BraceFree.balanced {text : Text} (h : BraceFree text) : Balanced text := by
  have hcount : ∀ front, front <+: text.toList →
      front.count (.char '\x7b') = 0 ∧ front.count (.char '\x7d') = 0 := by
    intro front hfront
    constructor
    · exact List.count_eq_zero.2 fun hmem => h _ (hfront.subset hmem) (by decide)
    · exact List.count_eq_zero.2 fun hmem => h _ (hfront.subset hmem) (by decide)
  constructor
  · intro front hfront
    obtain ⟨hopen, hclose⟩ := hcount front hfront
    rw [hopen, hclose]
  · obtain ⟨hopen, hclose⟩ := hcount text.toList (List.prefix_refl _)
    rw [hopen, hclose]

/-- Balanced texts one behind the other are balanced. -/
theorem Balanced.append {first second : Text} (hfirst : Balanced first)
    (hsecond : Balanced second) : Balanced (first ++ second) := by
  constructor
  · intro front hfront
    rw [Text.toList_append] at hfront
    rcases List.prefix_or_prefix_of_prefix hfront (List.prefix_append _ _) with h | ⟨rest, rfl⟩
    · exact hfirst.opened front h
    · have hrest := hsecond.opened rest ((List.prefix_append_right_inj _).1 hfront)
      have hclosed := hfirst.closed
      rw [List.count_append, List.count_append]
      omega
  · rw [Text.toList_append, List.count_append, List.count_append, hfirst.closed, hsecond.closed]

/-- A balanced text between braces is balanced. -/
theorem Balanced.braced {inside : Text} (h : Balanced inside) :
    Balanced ("\x7b" ++ inside ++ "\x7d") := by
  have hlist : ("\x7b" ++ inside ++ "\x7d").toList
      = .char '\x7b' :: (inside.toList ++ [.char '\x7d']) := by
    simp
  have hclosed := h.closed
  constructor
  · intro front hfront
    rw [hlist, List.prefix_cons_iff] at hfront
    rcases hfront with rfl | ⟨rest, rfl, hrest⟩
    · decide
    · rcases List.prefix_concat_iff.1 hrest with rfl | hrest
      · simp [hclosed]
      · have hopened := h.opened rest hrest
        simp
        omega
  · rw [hlist]
    simp [hclosed]

/-- Texts that are put together from balanced texts are balanced. -/
theorem composes_balanced : Composes Balanced where
  unmarked h := BraceFree.balanced fun c hc hbrace => h c hc (List.mem_cons_of_mem _ hbrace)
  append := Balanced.append
  braced := Balanced.braced

/-- A word of the syntax has no braces, which is found out by looking at it. -/
theorem balanced_word {word : Text} (hword : BraceFree word := by decide +kernel) :
    Balanced word :=
  hword.balanced

/-- Balanced texts are joined to a balanced one. -/
theorem balanced_join {texts : List Text} (h : ∀ text ∈ texts, Balanced text) :
    Balanced (Text.join texts) := by
  induction texts with
  | nil => exact balanced_word
  | cons text rest ih =>
      obtain ⟨htext, hrest⟩ := List.forall_mem_cons.1 h
      rw [Text.join_cons]
      exact htext.append (ih hrest)

/-- Whatever else is in a text, its literals have no more braces than the text. -/
theorem BraceFree.writtenAs {text : Text} (h : BraceFree text) : WrittenAs Balanced text := by
  refine composes_balanced.writtenAs (BraceFree.balanced fun c hc => ?_)
  rw [Text.toList_ofList] at hc
  rcases Json.mem_escapeAll hc with hc | hc
  · have halphabet : BraceFree (Text.ofList Json.escapeAlphabet) := by decide
    exact halphabet c (by rwa [Text.toList_ofList])
  · exact h c hc.1

/-! ## Blocks and choices -/

section Blocks

variable {indent step heading inside : Text} (hindent : Balanced indent)

include hindent

/-- A block is balanced when its heading and its inside are. -/
theorem balanced_block (hheading : Balanced heading) (hinside : Balanced inside) :
    Balanced (block indent heading inside) := by
  have hbraced : Balanced ("\x7b" ++ ("\n" ++ inside ++ "\n" ++ indent) ++ "\x7d") :=
    (((Balanced.append balanced_word hinside).append balanced_word).append hindent).braced
  have hopening : (" \x7b\n" : Text) = " " ++ ("\x7b" ++ "\n") := by decide
  have hwhole := ((hindent.append hheading).append (balanced_word : Balanced " ")).append hbraced
  simpa only [block, hopening, Text.append_assoc] using hwhole

/-- A clause is balanced when its label and its body are. -/
theorem balanced_clause {label body : Text} (hlabel : Balanced label) (hbody : Balanced body) :
    Balanced (clause indent label body) :=
  balanced_block hindent (hlabel.append balanced_word) hbody

/-- A choice is balanced when its parts are. -/
theorem balanced_choice (hstep : Balanced step) (hheading : Balanced heading)
    {clauses : List Text} (hclauses : ∀ text ∈ clauses, Balanced text) {otherwise : Text}
    (hotherwise : Balanced otherwise) :
    Balanced (choice indent step heading clauses otherwise) := by
  have hlast := balanced_clause (hindent.append hstep) (balanced_word : Balanced "_") hotherwise
  refine balanced_block hindent hheading (composes_balanced.intercalate balanced_word ?_)
  exact List.forall_mem_append.2 ⟨hclauses, List.forall_mem_singleton.2 hlast⟩

end Blocks

/-- The labels of a clause are balanced when each of them is. -/
theorem balanced_labelText {labels : List Text} (h : ∀ label ∈ labels, Balanced label) :
    Balanced (labelText labels) := by
  refine composes_balanced.intercalate balanced_word fun text htext => ?_
  obtain ⟨label, hlabel, rfl⟩ := List.mem_map.1 htext
  exact Balanced.append balanced_word (h label hlabel)

/-! ## Crates without braces in their names and literals -/

mutual
/-- The strings and characters in a statement. -/
def Statement.literals : Statement → List Text
  | .mk _ content => content.literals

/-- The strings and characters in what a statement does. -/
def Content.literals : Content → List Text
  | .action leaf => leaf.literals
  | .sequence first second => first.literals ++ second.literals
  | .switch choice => choice.literals
  | .loop body => body.literals

/-- The strings and characters in a choice. -/
def Switch.literals : Switch → List Text
  | .branch condition onTrue onFalse =>
      condition.literals ++ (onTrue.literals ++ onFalse.literals)
  | .integer operand _ branches otherwise =>
      operand.literals ++ (Switch.integerLiterals branches ++ otherwise.literals)
  | .variant _ branches otherwise => Switch.variantLiterals branches ++ otherwise.literals

/-- The strings and characters in branches with integer labels. -/
def Switch.integerLiterals : List (List Scalar × Statement) → List Text
  | [] => []
  | (_, body) :: rest => body.literals ++ Switch.integerLiterals rest

/-- The strings and characters in branches with variant labels. -/
def Switch.variantLiterals : List (List Int × Statement) → List Text
  | [] => []
  | (_, body) :: rest => body.literals ++ Switch.variantLiterals rest
end

/-- The name of a field, if it has one. -/
def FieldDecl.names (field : FieldDecl) : List Text :=
  field.name.toList

/-- The name of a variant and those of its fields. -/
def Variant.names (variant : Variant) : List Text :=
  variant.name :: variant.fields.flatMap FieldDecl.names

/-- The names of the fields or variants of a type. -/
def TypeBody.names : TypeBody → List Text
  | .struct fields => fields.flatMap FieldDecl.names
  | .enum variants => variants.flatMap Variant.names
  | .hidden => []

namespace Declaration

/-- The names of the fields or variants that a declaration introduces. -/
def memberNames : Declaration → List Text
  | .type decl => decl.body.names
  | .global _ => []
  | .function _ => []

/-- The names that a declaration introduces: the parts of its own, and those of its fields, its
variants, its locals and its generic parameters. -/
def names (decl : Declaration) : List Text :=
  decl.name ++ (decl.memberNames ++ (decl.locals.flatMap (fun var => var.name.toList)
    ++ (decl.regionParams.flatMap (fun param => param.name.toList)
      ++ decl.typeParams.map TypeParam.name)))

/-- The strings and characters in the body of a declaration. -/
def literals : Declaration → List Text
  | .type _ => []
  | .global _ => []
  | .function decl => (decl.body.map fun body => body.statement.literals).getD []

/-- No name, string or character of a declaration has a brace. -/
def WithoutBraces (decl : Declaration) : Prop :=
  ∀ text ∈ decl.names ++ decl.literals, BraceFree text

instance (decl : Declaration) : Decidable decl.WithoutBraces :=
  List.decidableBAll BraceFree (decl.names ++ decl.literals)

end Declaration

/-- No name, string or character of a crate has a brace. -/
def Crate.WithoutBraces (crate : Crate) : Prop :=
  ∀ decl ∈ crate.declarations, decl.WithoutBraces

instance (crate : Crate) : Decidable crate.WithoutBraces :=
  List.decidableBAll Declaration.WithoutBraces crate.declarations

/-- No name that can be used in a scope has a brace, and nothing else in its crate has one. -/
structure Scope.WithoutBraces (scope : Scope) : Prop where
  crate : scope.crate.WithoutBraces
  locals : ∀ id var, scope.locals.find? id = some var → ∀ name ∈ var.name, BraceFree name
  regionParams : ∀ id param, scope.regionParams.find? id = some param →
    ∀ name ∈ param.name, BraceFree name
  typeParams : ∀ id param, scope.typeParams.find? id = some param → BraceFree param.name

/-! ## Names that are found in a scope -/

/-- A qualified name is balanced when its parts have no braces. -/
theorem balanced_joined {name : Name} (h : ∀ part ∈ name, BraceFree part) :
    Balanced name.joined :=
  composes_balanced.intercalate balanced_word fun part hpart => (h part hpart).balanced

/-- A local is shown without braces of its own. -/
theorem Local.balanced_shown {var : Local} (h : ∀ name ∈ var.name, BraceFree name) :
    Balanced var.shown := by
  unfold Local.shown
  split
  · rename_i name hname
    exact (h name hname).balanced
  · exact composes_balanced.after (composes_balanced.unmarked (unmarked_decimal _))

/-- A region parameter is shown without braces of its own. -/
theorem RegionParam.balanced_shown {param : RegionParam} (h : ∀ name ∈ param.name, BraceFree name) :
    Balanced param.shown := by
  unfold RegionParam.shown
  split
  · rename_i name hname
    exact (h name hname).balanced
  · exact composes_balanced.after (composes_balanced.unmarked (unmarked_decimal _))

/-- The names of fields are among the names of the type that they belong to. -/
theorem TypeBody.names_of_hasFields {body : TypeBody} {variant : Option Int}
    {fields : List FieldDecl} (h : body.HasFields variant fields) :
    ∀ name ∈ fields.flatMap FieldDecl.names, name ∈ body.names := by
  intro name hname
  cases h with
  | struct fields => exact hname
  | variant hlow hhigh =>
      exact List.mem_flatMap.2 ⟨_, List.get_mem _ _, List.mem_cons_of_mem _ hname⟩

/-- The name of a variant is one of the names in its type. -/
theorem TypeBody.name_mem_of_variantOf? {body : TypeBody} {index : Int} {variant : Variant}
    (h : Scope.variantOf? body index = some variant) : variant.name ∈ body.names := by
  cases body with
  | struct fields => cases h
  | hidden => cases h
  | enum variants =>
      obtain ⟨hlow, hhigh, rfl⟩ := (Scope.nth?_eq_some_iff variants index variant).1 h
      exact List.mem_flatMap.2 ⟨_, List.get_mem _ _, List.mem_cons_self⟩

/-- When all fields have names, these are the names of the fields. -/
theorem FieldDecl.mem_names_of_mapM {fields : List FieldDecl} {names : List Text}
    (h : fields.mapM FieldDecl.name = some names) :
    ∀ name ∈ names, name ∈ fields.flatMap FieldDecl.names := by
  induction fields generalizing names with
  | nil =>
      cases h
      simp
  | cons field rest ih =>
      simp only [List.mapM_cons, Option.bind_eq_bind, Option.bind_eq_some_iff, Option.pure_def,
        Option.some.injEq] at h
      obtain ⟨first, hfirst, others, hothers, rfl⟩ := h
      have hnames : field.names = [first] := by simp [FieldDecl.names, hfirst]
      rw [List.flatMap_cons, hnames, List.singleton_append, List.forall_mem_cons]
      exact ⟨List.mem_cons_self, fun name hname => List.mem_cons_of_mem _ (ih hothers name hname)⟩

namespace Declaration.WithoutBraces

/-- The qualified name of the declaration is balanced. -/
theorem joined {decl : Declaration} (h : decl.WithoutBraces) : Balanced decl.name.joined :=
  balanced_joined fun part hpart =>
    h part (List.mem_append_left _ (List.mem_append_left _ hpart))

/-- The names of fields and variants have no braces. -/
theorem member {decl : Declaration} (h : decl.WithoutBraces) :
    ∀ name ∈ decl.memberNames, BraceFree name := by
  intro name hname
  exact h name (by simp [names, hname])

/-- The texts of literals have no braces. -/
theorem literal {decl : Declaration} (h : decl.WithoutBraces) :
    ∀ text ∈ decl.literals, BraceFree text := by
  intro text htext
  exact h text (List.mem_append_right _ htext)

/-- The names of locals have no braces. -/
theorem localName {decl : Declaration} (h : decl.WithoutBraces) {var : Local}
    (hvar : var ∈ decl.locals) : ∀ name ∈ var.name, BraceFree name := by
  intro name hname
  have hmem : name ∈ decl.locals.flatMap fun var => var.name.toList :=
    List.mem_flatMap.2 ⟨var, hvar, Option.mem_toList.2 hname⟩
  exact h name (by simp only [names, List.mem_append, hmem, true_or, or_true])

theorem regionParamName {decl : Declaration} (h : decl.WithoutBraces) {param : RegionParam}
    (hparam : param ∈ decl.regionParams) : ∀ name ∈ param.name, BraceFree name := by
  intro name hname
  have hmem : name ∈ decl.regionParams.flatMap fun param => param.name.toList :=
    List.mem_flatMap.2 ⟨param, hparam, Option.mem_toList.2 hname⟩
  exact h name (by simp only [names, List.mem_append, hmem, true_or, or_true])

theorem typeParamName {decl : Declaration} (h : decl.WithoutBraces) {param : TypeParam}
    (hparam : param ∈ decl.typeParams) : BraceFree param.name := by
  have hmem : param.name ∈ decl.typeParams.map TypeParam.name := List.mem_map_of_mem hparam
  exact h param.name (by simp only [names, List.mem_append, hmem, true_or, or_true])

end Declaration.WithoutBraces

namespace Scope.WithoutBraces

variable {scope : Scope} (h : scope.WithoutBraces)

include h

/-- A declaration of the crate is without braces. -/
theorem found {kind : DeclKind} {id : Int} {decl : Declaration}
    (hfind : scope.crate.find? kind id = some decl) : decl.WithoutBraces :=
  h.crate decl (Crate.mem_declarations_of_find? hfind)

/-- A type of the crate is without braces. -/
theorem foundType {id : Int} {decl : TypeDecl} (hfind : scope.crate.types.find? id = some decl) :
    (Declaration.type decl).WithoutBraces := by
  have hdecl : scope.crate.find? .type id = some (.type decl) := by simp [Crate.find?, hfind]
  exact h.found hdecl

/-- What is shown of a local is balanced. -/
theorem gives_localName (id : Int) : Gives (scope.localName id) Balanced :=
  gives_shown fun var hvar => Local.balanced_shown (h.locals id var hvar)

theorem gives_regionParamName (id : Int) : Gives (scope.regionParamName id) Balanced :=
  gives_shown fun param hparam => RegionParam.balanced_shown (h.regionParams id param hparam)

theorem gives_typeParamName (id : Int) : Gives (scope.typeParamName id) Balanced :=
  gives_shown fun param hparam => (h.typeParams id param hparam).balanced

theorem gives_typeName (id : Int) : Gives (scope.typeName id) Balanced :=
  gives_shown fun _ hfind => (h.foundType hfind).joined

theorem gives_functionName (id : Int) : Gives (scope.functionName id) Balanced := by
  refine gives_shown fun decl hfind => ?_
  have hfound : scope.crate.find? .function id = some (.function decl) := by
    simp [Crate.find?, hfind]
  exact (h.found hfound).joined

theorem gives_globalName (id : Int) : Gives (scope.globalName id) Balanced := by
  refine gives_shown fun decl hfind => ?_
  have hfound : scope.crate.find? .global id = some (.global decl) := by
    simp [Crate.find?, hfind]
  exact (h.found hfound).joined

theorem gives_variantName (type index : Int) : Gives (scope.variantName type index) Balanced := by
  intro name hname
  obtain ⟨variant, hvariant, hshown⟩ := bind_eq_ok_iff.1 hname
  cases hshown
  obtain ⟨owner, howner, hfound⟩ := (variant_eq_ok_iff scope type index variant).1 hvariant
  exact ((h.foundType howner).member _ (TypeBody.name_mem_of_variantOf? hfound)).balanced

/-- The fields that a scope finds have no braces in their names. -/
theorem gives_fields (type : Int) (variant : Option Int) :
    Gives (scope.fields type variant) fun fields =>
      ∀ name ∈ fields.flatMap FieldDecl.names, BraceFree name := by
  intro fields hfields name hname
  obtain ⟨owner, howner, hbody⟩ := (fields_eq_ok_iff scope type variant fields).1 hfields
  exact (h.foundType howner).member name (TypeBody.names_of_hasFields hbody name hname)

theorem gives_fieldName (type : Int) (variant : Option Int) (index : Int) :
    Gives (scope.fieldName type variant index) Balanced := by
  intro name hname
  obtain ⟨owner, -, hname⟩ := bind_eq_ok_iff.1 hname
  obtain ⟨fields, hfields, hname⟩ := bind_eq_ok_iff.1 hname
  obtain ⟨field, hfield, hname⟩ := bind_eq_ok_iff.1 hname
  have hnth := (require_eq_ok_iff scope _ _ field).1 hfield
  obtain ⟨hlow, hhigh, rfl⟩ := (nth?_eq_some_iff fields index field).1 hnth
  split at hname
  · rename_i found hfound
    cases hname
    refine (h.gives_fields type variant fields hfields name ?_).balanced
    exact List.mem_flatMap.2 ⟨_, List.get_mem _ _, Option.mem_toList.2 hfound⟩
  · cases hname
    exact composes_balanced.unmarked (unmarked_decimal index)

/-- The names of the fields of a type or a variant are balanced. -/
theorem balanced_of_fieldNames? {type : Int} {variant : Option Int} {names : List Text}
    (hnames : scope.fieldNames? type variant = .ok (some names)) :
    ∀ name ∈ names, Balanced name := by
  intro name hname
  obtain ⟨fields, hfields, hall⟩ := bind_eq_ok_iff.1 hnames
  have hmapM : allNames? fields = some names := Except.ok.inj hall
  rw [allNames?] at hmapM
  split at hmapM
  · cases hmapM
  · have hmem := FieldDecl.mem_names_of_mapM hmapM name hname
    exact (h.gives_fields type variant fields hfields name hmem).balanced

/-- All names that references are shown by are balanced. -/
theorem showsOnly (reference : Reference) : scope.ShowsOnly Balanced reference := by
  intro name hname
  cases reference with
  | localVar id => exact h.gives_localName id name hname
  | regionParam id => exact h.gives_regionParamName id name hname
  | typeParam id => exact h.gives_typeParamName id name hname
  | type id => exact h.gives_typeName id name hname
  | function id => exact h.gives_functionName id name hname
  | global id => exact h.gives_globalName id name hname
  | fields id variant =>
      rcases hname with hname | ⟨number, -, hname⟩ | ⟨names, hnames, hmem⟩
      · exact h.gives_typeName id name hname
      · exact h.gives_variantName id number name hname
      · exact h.balanced_of_fieldNames? hnames name hmem
  | field id variant index =>
      rcases hname with hname | ⟨number, -, hname⟩
      · exact h.gives_fieldName id variant index name hname
      · exact h.gives_variantName id number name hname

end Scope.WithoutBraces

/-- A scope of a crate without braces has none when its declaration has none. -/
theorem Declaration.withoutBraces_scope {crate : Crate} (hcrate : crate.WithoutBraces)
    {decl : Declaration} (hdecl : decl.WithoutBraces) : (decl.scope crate).WithoutBraces := by
  have hregionParam : ∀ id param, (Table.ofItems RegionParam.index decl.regionParams).find? id =
      some param → ∀ name ∈ param.name, BraceFree name :=
    fun _ _ hfind => hdecl.regionParamName (Table.mem_of_find?_ofItems hfind)
  have htypeParam : ∀ id param, (Table.ofItems TypeParam.index decl.typeParams).find? id =
      some param → BraceFree param.name :=
    fun _ _ hfind => hdecl.typeParamName (Table.mem_of_find?_ofItems hfind)
  have hlocal : ∀ id var, (Table.ofItems Local.index decl.locals).find? id = some var →
      ∀ name ∈ var.name, BraceFree name :=
    fun _ _ hfind => hdecl.localName (Table.mem_of_find?_ofItems hfind)
  cases decl with
  | type decl => exact ⟨hcrate, hlocal, hregionParam, htypeParam⟩
  | global decl => exact ⟨hcrate, hlocal, hregionParam, htypeParam⟩
  | function decl =>
      obtain ⟨id, name, signature, body, span⟩ := decl
      cases body <;> exact ⟨hcrate, hlocal, hregionParam, htypeParam⟩

/-! ## Statements -/

section Parts

variable {scope : Scope} (hscope : scope.WithoutBraces)

include hscope

/-- The text of a type is balanced. -/
theorem Ty.balanced_render (type : Ty) : Gives (type.render scope) Balanced :=
  Ty.gives_render composes_balanced type fun reference _ => hscope.showsOnly reference

theorem Place.balanced_render (place : Place) : Gives (place.render scope) Balanced :=
  Place.gives_render composes_balanced fun reference _ => hscope.showsOnly reference

/-- The text of an operand is balanced. -/
theorem Operand.balanced_render {operand : Operand}
    (hliterals : ∀ text ∈ operand.literals, BraceFree text) :
    Gives (operand.render scope) Balanced :=
  Operand.gives_render composes_balanced (fun reference _ => hscope.showsOnly reference)
    fun text htext => (hliterals text htext).writtenAs

/-- The text of a statement without parts is balanced. -/
theorem Action.balanced_render {action : Action}
    (hliterals : ∀ text ∈ action.literals, BraceFree text) :
    Gives (action.render scope) Balanced :=
  Action.gives_render composes_balanced (fun reference _ => hscope.showsOnly reference)
    fun text htext => (hliterals text htext).writtenAs

end Parts

/-- Integers as the labels of a clause are balanced. -/
theorem balanced_labelText_decimal (labels : List Int) :
    Balanced (labelText (labels.map Text.decimal)) := by
  refine balanced_labelText fun text htext => ?_
  obtain ⟨label, -, rfl⟩ := List.mem_map.1 htext
  exact composes_balanced.unmarked (unmarked_decimal label)

section Statements

variable {scope : Scope} {step : Text}

mutual
/-- The text of a statement is balanced. -/
theorem Statement.balanced_render (hscope : scope.WithoutBraces) (hstep : Balanced step)
    {indent : Text} (hindent : Balanced indent) :
    (statement : Statement) → (∀ text ∈ statement.literals, BraceFree text) →
      Gives (statement.render scope step indent) Balanced
  | .mk _ content, h => by
      rw [Statement.literals] at h
      rw [Statement.render]
      exact Content.balanced_render hscope hstep hindent content h

/-- The text of the content of a statement is balanced. -/
theorem Content.balanced_render (hscope : scope.WithoutBraces) (hstep : Balanced step)
    {indent : Text} (hindent : Balanced indent) :
    (content : Content) → (∀ text ∈ content.literals, BraceFree text) →
      Gives (content.render scope step indent) Balanced
  | .action leaf, h => by
      rw [Content.literals] at h
      rw [Content.render]
      exact (Action.balanced_render hscope h).bind_pure fun shown hshown => hindent.append hshown
  | .sequence first second, h => by
      rw [Content.literals, List.forall_mem_append] at h
      rw [Content.render]
      refine (Statement.balanced_render hscope hstep hindent first h.1).bind fun above habove => ?_
      refine (Statement.balanced_render hscope hstep hindent second h.2).bind_pure
        fun below hbelow => ?_
      exact (habove.append balanced_word).append hbelow
  | .switch choice, h => by
      rw [Content.literals] at h
      rw [Content.render]
      exact Switch.balanced_render hscope hstep hindent choice h
  | .loop body, h => by
      rw [Content.literals] at h
      rw [Content.render]
      refine (Statement.balanced_render hscope hstep (hindent.append hstep) body h).bind_pure
        fun inside hinside => ?_
      exact balanced_block hindent balanced_word hinside

/-- The text of a switch is balanced. -/
theorem Switch.balanced_render (hscope : scope.WithoutBraces) (hstep : Balanced step)
    {indent : Text} (hindent : Balanced indent) :
    (choice : Switch) → (∀ text ∈ choice.literals, BraceFree text) →
      Gives (choice.render scope step indent) Balanced
  | .branch condition onTrue onFalse, h => by
      rw [Switch.literals, List.forall_mem_append, List.forall_mem_append] at h
      obtain ⟨hcondition, htrue, hfalse⟩ := h
      have hinner := hindent.append hstep
      rw [Switch.render]
      refine (Operand.balanced_render hscope hcondition).bind fun shown hshown => ?_
      refine (Statement.balanced_render hscope hstep hinner onTrue htrue).bind
        fun whenTrue hwhenTrue => ?_
      refine (Statement.balanced_render hscope hstep hinner onFalse hfalse).bind_pure
        fun whenFalse hwhenFalse => ?_
      have hheading : Balanced ("if (" ++ shown ++ ")") :=
        composes_balanced.before (composes_balanced.after hshown)
      exact ((balanced_block hindent hheading hwhenTrue).append balanced_word).append
        (balanced_block hindent balanced_word hwhenFalse)
  | .integer operand _ branches otherwise, h => by
      rw [Switch.literals, List.forall_mem_append, List.forall_mem_append] at h
      obtain ⟨hoperand, hbranches, hotherwise⟩ := h
      have hinner := hindent.append hstep
      rw [Switch.render]
      refine (Operand.balanced_render hscope hoperand).bind fun shown hshown => ?_
      refine (Switch.balanced_renderIntegerBranches hscope hstep hinner branches hbranches).bind
        fun clauses hclauses => ?_
      refine (Statement.balanced_render hscope hstep (hinner.append hstep) otherwise
        hotherwise).bind_pure fun last hlast => ?_
      exact balanced_choice hindent hstep
        (composes_balanced.before (composes_balanced.after hshown)) hclauses hlast
  | .variant place branches otherwise, h => by
      rw [Switch.literals, List.forall_mem_append] at h
      obtain ⟨hbranches, hotherwise⟩ := h
      have hinner := hindent.append hstep
      rw [Switch.render]
      refine (Place.balanced_render hscope place).bind fun shown hshown => ?_
      refine (Switch.balanced_renderVariantBranches hscope hstep hinner branches hbranches).bind
        fun clauses hclauses => ?_
      refine (Statement.balanced_render hscope hstep (hinner.append hstep) otherwise
        hotherwise).bind_pure fun last hlast => ?_
      exact balanced_choice hindent hstep
        (composes_balanced.before (composes_balanced.after hshown)) hclauses hlast

/-- The clauses of a switch on an integer are balanced. -/
theorem Switch.balanced_renderIntegerBranches (hscope : scope.WithoutBraces)
    (hstep : Balanced step) {indent : Text} (hindent : Balanced indent) :
    (branches : List (List Scalar × Statement)) →
      (∀ text ∈ Switch.integerLiterals branches, BraceFree text) →
        Gives (Switch.renderIntegerBranches scope step indent branches) fun clauses =>
          ∀ text ∈ clauses, Balanced text
  | [], _ => gives_ok (by simp)
  | (labels, body) :: rest, h => by
      rw [Switch.integerLiterals, List.forall_mem_append] at h
      rw [Switch.renderIntegerBranches]
      refine (Statement.balanced_render hscope hstep (hindent.append hstep) body h.1).bind
        fun shown hshown => ?_
      refine (Switch.balanced_renderIntegerBranches hscope hstep hindent rest h.2).bind_pure
        fun clauses hclauses => ?_
      have hlabel := balanced_labelText_decimal (labels.map Scalar.value)
      rw [List.map_map] at hlabel
      exact List.forall_mem_cons.2 ⟨balanced_clause hindent hlabel hshown, hclauses⟩

/-- The clauses of a switch on a variant are balanced. -/
theorem Switch.balanced_renderVariantBranches (hscope : scope.WithoutBraces)
    (hstep : Balanced step) {indent : Text} (hindent : Balanced indent) :
    (branches : List (List Int × Statement)) →
      (∀ text ∈ Switch.variantLiterals branches, BraceFree text) →
        Gives (Switch.renderVariantBranches scope step indent branches) fun clauses =>
          ∀ text ∈ clauses, Balanced text
  | [], _ => gives_ok (by simp)
  | (labels, body) :: rest, h => by
      rw [Switch.variantLiterals, List.forall_mem_append] at h
      rw [Switch.renderVariantBranches]
      refine (Statement.balanced_render hscope hstep (hindent.append hstep) body h.1).bind
        fun shown hshown => ?_
      refine (Switch.balanced_renderVariantBranches hscope hstep hindent rest h.2).bind_pure
        fun clauses hclauses => ?_
      have hlabel := balanced_labelText_decimal labels
      exact List.forall_mem_cons.2 ⟨balanced_clause hindent hlabel hshown, hclauses⟩
end

end Statements

/-! ## Declarations -/

/-- The generic parameters of a declaration are balanced. -/
theorem balanced_genericParams {regions : List RegionParam} {types : List TypeParam}
    (hregions : ∀ param ∈ regions, ∀ name ∈ param.name, BraceFree name)
    (htypes : ∀ param ∈ types, BraceFree param.name) : Balanced (genericParams regions types) := by
  refine composes_balanced.angled (List.forall_mem_append.2 ⟨?_, ?_⟩)
  · intro text htext
    obtain ⟨param, hparam, rfl⟩ := List.mem_map.1 htext
    exact RegionParam.balanced_shown (hregions param hparam)
  · intro text htext
    obtain ⟨param, hparam, rfl⟩ := List.mem_map.1 htext
    exact (htypes param hparam).balanced

/-- The name of a declaration with its generic parameters. -/
theorem Declaration.WithoutBraces.balanced_heading {decl : Declaration} (h : decl.WithoutBraces) :
    Balanced (decl.name.joined ++ genericParams decl.regionParams decl.typeParams) :=
  h.joined.append
    (balanced_genericParams (fun _ => h.regionParamName) (fun _ => h.typeParamName))

section Declarations

variable {scope : Scope} (hscope : scope.WithoutBraces) {step indent : Text}

include hscope

theorem FieldDecl.balanced_render {field : FieldDecl} (h : ∀ name ∈ field.names, BraceFree name) :
    Gives (field.render scope) Balanced := by
  refine (Ty.balanced_render hscope field.type).bind fun shown hshown => ?_
  split
  · exact gives_pure hshown
  · rename_i name hname
    have hname := h name (by simp [FieldDecl.names, hname])
    exact gives_pure (composes_balanced.separated hname.balanced hshown)

/-- The texts of fields are balanced. -/
theorem FieldDecl.balanced_mapM_render {fields : List FieldDecl}
    (h : ∀ name ∈ fields.flatMap FieldDecl.names, BraceFree name) :
    Gives (fields.mapM (FieldDecl.render scope)) fun shown => ∀ text ∈ shown, Balanced text :=
  gives_mapM fun field hfield => FieldDecl.balanced_render hscope fun name hname =>
    h name (List.mem_flatMap.2 ⟨field, hfield, hname⟩)

theorem Variant.balanced_render {variant : Variant} (h : ∀ name ∈ variant.names, BraceFree name) :
    Gives (variant.render scope) Balanced := by
  obtain ⟨hname, hfields⟩ := List.forall_mem_cons.1 h
  rw [Variant.render]
  split
  · exact gives_ok hname.balanced
  · refine (FieldDecl.balanced_mapM_render hscope hfields).bind_pure fun shown hshown => ?_
    exact hname.balanced.append (composes_balanced.parenthesized hshown)

/-- What stands behind the heading of a type is balanced. -/
theorem TypeBody.balanced_render (hstep : Balanced step) {body : TypeBody}
    (h : ∀ name ∈ body.names, BraceFree name) : Gives (body.render scope step) Balanced := by
  cases body with
  | hidden => exact gives_ok balanced_word
  | struct fields =>
      rw [TypeBody.render]
      split
      · exact gives_ok (by decide)
      · refine (FieldDecl.balanced_mapM_render hscope h).bind_pure fun shown hshown => ?_
        have hlines :
            Balanced (Text.join (shown.map fun field => "\n" ++ step ++ field ++ ",")) := by
          refine balanced_join fun line hline => ?_
          obtain ⟨field, hfield, rfl⟩ := List.mem_map.1 hline
          have hindented := Balanced.append (balanced_word : Balanced "\n") hstep
          exact (hindented.append (hshown field hfield)).append balanced_word
        have hbraced : Balanced ("\x7b" ++ (_ ++ "\n") ++ "\x7d") :=
          (hlines.append balanced_word).braced
        have hend : ("\n\x7d" : Text) = "\n" ++ "\x7d" := by decide
        have hstart : (" =\n\x7b" : Text) = " =\n" ++ "\x7b" := by decide
        have hwhole := (balanced_word : Balanced " =\n").append hbraced
        simpa only [hstart, hend, Text.append_assoc] using hwhole
  | enum variants =>
      rw [TypeBody.render]
      split
      · exact gives_ok balanced_word
      · have hvariants : Gives (variants.mapM (Variant.render scope))
            fun shown => ∀ text ∈ shown, Balanced text :=
          gives_mapM fun variant hvariant => Variant.balanced_render hscope fun name hname =>
            h name (List.mem_flatMap.2 ⟨variant, hvariant, hname⟩)
        refine hvariants.bind_pure fun shown hshown => ?_
        refine (balanced_word : Balanced " =\n").append
          (composes_balanced.intercalate balanced_word fun line hline => ?_)
        obtain ⟨text, htext, rfl⟩ := List.mem_map.1 hline
        exact composes_balanced.after (hshown text htext)

/-- The text of a type declaration is balanced. -/
theorem TypeDecl.balanced_render (hstep : Balanced step) {decl : TypeDecl}
    (h : (Declaration.type decl).WithoutBraces) : Gives (decl.render scope step) Balanced := by
  have hmember : ∀ text ∈ decl.body.names, BraceFree text := h.member
  have hname : Balanced (decl.name.joined ++ genericParams decl.regionParams decl.typeParams) :=
    h.balanced_heading
  have hkeyword : Balanced decl.body.keyword := by
    unfold TypeBody.keyword
    split <;> exact balanced_word
  refine (TypeBody.balanced_render hscope hstep hmember).bind_pure fun inside hinside => ?_
  have hwhole := (hkeyword.append hname).append hinside
  simpa only [Text.append_assoc] using hwhole

/-- The text of a global is balanced. -/
theorem GlobalDecl.balanced_render (hindent : Balanced indent) {decl : GlobalDecl}
    (h : (Declaration.global decl).WithoutBraces) : Gives (decl.render scope indent) Balanced := by
  refine (Ty.balanced_render hscope decl.type).bind fun type htype => ?_
  refine (hscope.gives_functionName decl.initializer).bind_pure fun function hfunction => ?_
  have hname : Balanced decl.name.joined := h.joined
  have hopening := (hindent.append (balanced_word : Balanced "global ")).append hname
  exact composes_balanced.separated (composes_balanced.separated hopening htype) hfunction

theorem Local.balanced_render (hindent : Balanced indent) {var : Local}
    (h : ∀ name ∈ var.name, BraceFree name) : Gives (var.render scope indent) Balanced := by
  refine (Ty.balanced_render hscope var.type).bind_pure fun type htype => ?_
  have hshown := Local.balanced_shown h
  exact (composes_balanced.separated (hindent.append hshown) htype).append balanced_word

/-- The text of a parameter is balanced. -/
theorem balanced_renderParameter {parameter : Local × Ty}
    (h : ∀ name ∈ parameter.1.name, BraceFree name) :
    Gives (renderParameter scope parameter) Balanced :=
  (Ty.balanced_render hscope parameter.2).bind_pure fun _ htype =>
    composes_balanced.separated (Local.balanced_shown h) htype

/-- The text of a function is balanced. -/
theorem FunDecl.balanced_render (hstep : Balanced step) (hindent : Balanced indent)
    {decl : FunDecl} (h : (Declaration.function decl).WithoutBraces) :
    Gives (decl.render scope step indent) Balanced := by
  obtain ⟨id, name, signature, body, span⟩ := decl
  have hname :
      Balanced (name.joined ++ genericParams signature.regionParams signature.typeParams) :=
    h.balanced_heading
  refine (Ty.balanced_render hscope signature.output).bind fun result hresult => ?_
  cases body with
  | none =>
      have hinputs : Gives (Ty.renderAll scope signature.inputs) fun shown =>
          ∀ text ∈ shown, Balanced text :=
        Ty.gives_renderAll composes_balanced signature.inputs
          fun reference _ => hscope.showsOnly reference
      refine hinputs.bind_pure fun shown hshown => ?_
      have hopening := (hindent.append (balanced_word : Balanced "opaque fn ")).append hname
      have hlist := composes_balanced.parenthesized hshown
      simpa only [Text.append_assoc] using
        composes_balanced.separated (hopening.append hlist) hresult
  | some body =>
      have hlocal : ∀ var ∈ body.locals, ∀ text ∈ var.name, BraceFree text := fun _ => h.localName
      have hstatement : ∀ text ∈ body.statement.literals, BraceFree text := h.literal
      have hinner := hindent.append hstep
      have hparameters : Gives ((body.parameters.zip signature.inputs).mapM (renderParameter scope))
          fun shown => ∀ text ∈ shown, Balanced text :=
        gives_mapM fun parameter hparameter => balanced_renderParameter hscope <|
          hlocal parameter.1 <| List.mem_of_mem_take <| List.mem_of_mem_drop <|
            (List.of_mem_zip hparameter).1
      have hlocals : Gives (body.locals.mapM (Local.render scope (indent ++ step)))
          fun shown => ∀ text ∈ shown, Balanced text :=
        gives_mapM fun var hvar => Local.balanced_render hscope hinner (hlocal var hvar)
      refine hparameters.bind fun shownParameters hshownParameters => ?_
      refine hlocals.bind fun shownLocals hshownLocals => ?_
      refine (Statement.balanced_render hscope hstep hinner body.statement hstatement).bind_pure
        fun statement hstatement => ?_
      have hlist := composes_balanced.parenthesized hshownParameters
      have hblank : Balanced (if shownLocals.isEmpty then ("" : Text) else "\n") := by
        split <;> exact balanced_word
      have hinside := ((balanced_join hshownLocals).append hblank).append hstatement
      have hopening := (composes_balanced.after hname (by decide : Unmarked "fn ")).append hlist
      have hheading := composes_balanced.separated hopening hresult (by decide : Unmarked " -> ")
      simp only [Text.append_assoc] at hheading
      simpa only [Text.append_assoc] using balanced_block hindent hheading hinside

end Declarations

/-! ## Crates -/

section Crates

variable {crate : Crate} (hcrate : crate.WithoutBraces)

include hcrate

/-- The text of a declaration is balanced. -/
theorem Declaration.balanced_render {step : Text} (hstep : Balanced step) {decl : Declaration}
    (h : decl.WithoutBraces) : Gives (decl.render crate step) Balanced := by
  have hscope := Declaration.withoutBraces_scope hcrate h
  have hrender : Gives (decl.renderIn crate step) Balanced := by
    cases decl with
    | type decl => exact TypeDecl.balanced_render hscope hstep h
    | global decl => exact GlobalDecl.balanced_render hscope balanced_word h
    | function decl => exact FunDecl.balanced_render hscope hstep balanced_word h
  exact fun text htext => hrender text (mapError_eq_ok_iff.1 htext)

/-- The text of one declaration of a crate is balanced. -/
theorem Crate.balanced_renderOne {options : Options} (hstep : Balanced options.indentStep)
    (kind : DeclKind) (id : Int) : Gives (crate.renderOne options kind id) Balanced := by
  rw [Crate.renderOne]
  cases hfind : crate.find? kind id with
  | none =>
      intro text htext
      cases htext
  | some decl =>
      exact Declaration.balanced_render hcrate hstep
        (hcrate decl (Crate.mem_declarations_of_find? hfind))

/-- The listing of a crate is balanced, whether it leaves failures out or not. -/
theorem Crate.balanced_render {options : Options} (hstep : Balanced options.indentStep) :
    Gives (crate.render options).outcome Balanced := by
  have hdecl : ∀ outcome ∈ crate.outcomes options, Gives outcome Balanced := by
    rw [crate.outcomes_eq_map]
    intro outcome houtcome
    obtain ⟨decl, hmem, rfl⟩ := List.mem_map.1 houtcome
    exact Declaration.balanced_render hcrate hstep (hcrate decl hmem)
  cases hkeep : options.keepGoing with
  | false =>
      rw [crate.outcome_render_of_stopping hkeep]
      have htexts : Gives ((crate.outcomes options).mapM id) fun texts =>
          ∀ text ∈ texts, Balanced text := gives_mapM hdecl
      exact htexts.map fun texts htexts => composes_balanced.intercalate balanced_word htexts
  | true =>
      rw [crate.outcome_render_of_keepGoing hkeep]
      refine gives_ok (composes_balanced.intercalate balanced_word fun text htext => ?_)
      obtain ⟨outcome, houtcome, htext⟩ := List.mem_filterMap.1 htext
      exact hdecl outcome houtcome text (toOption_eq_some_iff.1 htext)

end Crates

/-- The braces of what is shown are well nested as long as no name, string or character has a brace
and the indentation has none: in the text of any statement or declaration in any scope, of the
declarations of a crate by their identifiers, and of a whole crate. -/
theorem braces_balance {step indent : Text} (hstep : BraceFree step)
    (hindent : BraceFree indent) :
    (∀ scope : Scope, scope.WithoutBraces →
      (∀ statement : Statement, (∀ text ∈ statement.literals, BraceFree text) →
        Gives (statement.render scope step indent) Balanced) ∧
      (∀ decl : TypeDecl, (Declaration.type decl).WithoutBraces →
        Gives (decl.render scope step) Balanced) ∧
      (∀ decl : GlobalDecl, (Declaration.global decl).WithoutBraces →
        Gives (decl.render scope indent) Balanced) ∧
      (∀ decl : FunDecl, (Declaration.function decl).WithoutBraces →
        Gives (decl.render scope step indent) Balanced)) ∧
    (∀ crate : Crate, crate.WithoutBraces →
      (∀ decl ∈ crate.declarations, (decl.scope crate).WithoutBraces) ∧
      ∀ options : Options, options.indentStep = step →
        (∀ kind id, Gives (crate.renderOne options kind id) Balanced) ∧
        Gives (crate.render options).outcome Balanced) := by
  have hstep := hstep.balanced
  have hindent := hindent.balanced
  refine ⟨fun scope hscope => ⟨?_, ?_, ?_, ?_⟩, fun crate hcrate => ⟨?_, ?_⟩⟩
  · exact fun statement h => Statement.balanced_render hscope hstep hindent statement h
  · exact fun decl h => TypeDecl.balanced_render hscope hstep h
  · exact fun decl h => GlobalDecl.balanced_render hscope hindent h
  · exact fun decl h => FunDecl.balanced_render hscope hstep hindent h
  · exact fun decl hmem => Declaration.withoutBraces_scope hcrate (hcrate decl hmem)
  · rintro options rfl
    exact ⟨Crate.balanced_renderOne hcrate hstep, Crate.balanced_render hcrate hstep⟩

/-- A function that makes an aggregate in a loop. -/
def FunDecl.looping : FunDecl :=
  ⟨1, ["f"], ⟨[], .never, [], []⟩,
    some ⟨0, [⟨0, some "r", .adt (.declared 0) [] []⟩],
      .mk none (.loop (.mk none (.action (.assign ⟨0, []⟩ (.aggregate (.adt 0 none [] [])
        [.const .str (.adt (some 1) [.string "a\n"])])))))⟩, none⟩

/-- A crate with a struct and this function. -/
def Crate.looping : Crate :=
  Crate.ofDeclarations none [⟨0, ["S"], .struct [⟨some "x", .bool⟩], [], [], none⟩] []
    [FunDecl.looping]

/-- The braces of the listing are balanced, and so are those of a choice in the scope of the
function. -/
theorem braces_balance_looping :
    Crate.looping.WithoutBraces ∧
    Balanced ("struct S =\n\x7b\n  x : bool,\n\x7d\n\nfn f() -> ! \x7b\n  r : S;\n\n  loop \x7b\n"
      ++ "    r := S \x7b x = const (variant@1 \x7b\"a\\n\"\x7d : str); \x7d\n  \x7d\n\x7d") ∧
    Balanced
      "match (r) \x7b\n  | 1 => \x7b\n    return\n  \x7d\n  _ => \x7b\n    nop\n  \x7d\n\x7d" := by
  have hcrate : Crate.looping.WithoutBraces := by decide
  have hlaw := @braces_balance "  " "" (by decide) (by decide)
  obtain ⟨hscopes, hoptions⟩ := hlaw.2 Crate.looping hcrate
  have hmem : Declaration.function FunDecl.looping ∈ Crate.looping.declarations :=
    List.mem_cons_of_mem _ List.mem_cons_self
  have hchoice := (hlaw.1 _ (hscopes _ hmem)).1
    (.mk none (.switch (.variant ⟨0, []⟩ [([1], .mk none (.action .ret))]
      (.mk none (.action .nop))))) (by decide)
  refine ⟨hcrate, (hoptions {} rfl).2 _ ?_, hchoice _ ?_⟩
  · decide +kernel
  · rfl

end CrateListing
