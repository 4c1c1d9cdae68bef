import CrateListing.Proofs.Outcome
import CrateListing.Proofs.References
import Mathlib.Tactic.IntervalCases

/-!
# Texts that are put together

Everything below a statement is shown by texts that are put together from names,
literals, numerals and words of the language.  A property that such texts inherit
from their parts holds of them all as soon as it holds of the names and literals.

Main definitions:

- `Composes`: a property that texts inherit from their parts.
- `Scope.Shows`: the names that a reference is shown by.
- `Action.literals`: the strings and characters that are written out in an action.

Main results:

- Theorem `Json.mem_escapeAll`: what is written in a literal.
- Theorems `Ty.gives_render`, `Constant.gives_render`, `Action.gives_render`: the texts of types,
  constants and actions have every such property.
-/

namespace CrateListing

open Outcome

/-! ## Properties that texts inherit -/

/-- A text without line ends and braces. -/
def Unmarked (text : Text) : Prop :=
  ∀ c ∈ text.toList, c ∉ [.char '\n', .char '\x7b', .char '\x7d']

instance (text : Text) : Decidable (Unmarked text) :=
  inferInstanceAs (Decidable (∀ c ∈ text.toList, c ∉ [.char '\n', .char '\x7b', .char '\x7d']))

/-- A property that texts inherit from their parts, and braces from what they enclose. -/
structure Composes (P : Text → Prop) : Prop where
  unmarked : ∀ {text}, Unmarked text → P text
  append : ∀ {first second}, P first → P second → P (first ++ second)
  braced : ∀ {inside}, P inside → P ("\x7b" ++ inside ++ "\x7d")

namespace Composes

variable {P : Text → Prop} (hP : Composes P) {items : List Text}

include hP

/-- A word of the language. -/
theorem word {word : Text} (hword : Unmarked word := by decide +kernel) : P word :=
  hP.unmarked hword

/-- A text behind a word. -/
theorem after {text word : Text} (h : P text) (hword : Unmarked word := by decide +kernel) :
    P (word ++ text) :=
  hP.append (hP.unmarked hword) h

/-- A text in front of a word. -/
theorem before {text word : Text} (h : P text) (hword : Unmarked word := by decide +kernel) :
    P (text ++ word) :=
  hP.append h (hP.unmarked hword)

/-- Two texts with a word between them. -/
theorem separated {first second word : Text} (hfirst : P first) (hsecond : P second)
    (hword : Unmarked word := by decide +kernel) : P (first ++ word ++ second) :=
  hP.append (hP.before hfirst hword) hsecond

/-- Texts with the property still have it with a separator between them. -/
theorem intercalate {separator : Text} (hseparator : P separator)
    (hitems : ∀ item ∈ items, P item) : P (Text.intercalate separator items) := by
  induction items with
  | nil => exact hP.unmarked (by simp [Unmarked])
  | cons item rest ih =>
      obtain ⟨hitem, hrest⟩ := List.forall_mem_cons.1 hitems
      by_cases hnil : rest = []
      · rw [hnil, Text.intercalate_singleton]
        exact hitem
      · rw [Text.intercalate_cons_of_ne_nil hnil]
        exact hP.append (hP.append hitem hseparator) (ih hrest)

/-- A list with commas is composed of its items. -/
theorem commaSeparated (hitems : ∀ item ∈ items, P item) : P (Text.intercalate ", " items) :=
  hP.intercalate hP.word hitems

/-- A list in angle brackets is composed of its items. -/
theorem angled (hitems : ∀ item ∈ items, P item) : P (angled items) := by
  have hinside := hP.commaSeparated hitems
  unfold CrateListing.angled
  split
  · exact hP.word
  · exact hP.before (hP.after hinside)

/-- A list in parentheses is composed of its items. -/
theorem parenthesized (hitems : ∀ item ∈ items, P item) : P (parenthesized items) :=
  hP.before (hP.after (hP.commaSeparated hitems))

/-- A list of fields with values is composed of the names and the values. -/
theorem namedFields {names values : List Text} (hnames : ∀ name ∈ names, P name)
    (hvalues : ∀ value ∈ values, P value) : P (namedFields names values) := by
  refine hP.intercalate hP.word fun item hitem => ?_
  obtain ⟨⟨name, value⟩, hpair, rfl⟩ := List.mem_map.1 hitem
  have hname := hnames name (List.of_mem_zip hpair).1
  have hvalue := hvalues value (List.of_mem_zip hpair).2
  exact hP.before (hP.separated hname hvalue)

end Composes

/-! ## Numerals and words of the language -/

/-- A numeral has only a sign and ASCII digits in it. -/
theorem Text.mem_decimal {n : Int} {c : CodePoint} (h : c ∈ (decimal n).toList) :
    c = '-' ∨ c.isDigit = true := by
  have hnatural (m : Nat) (hmem : c ∈ (natural m).toList) : c.isDigit = true := by
    rw [toList_natural] at hmem
    exact isDigit_of_mem_toDigits hmem
  cases n with
  | ofNat m => exact Or.inr (hnatural m h)
  | negSucc m =>
      rw [decimal, Text.toList_append, List.mem_append] at h
      rcases h with h | h
      · exact Or.inl (by simpa using h)
      · exact Or.inr (hnatural (m + 1) h)

/-- Nothing but a sign and ASCII digits is in a numeral. -/
theorem Text.notMem_decimal {c : CodePoint} (hsign : c ≠ '-') (hdigit : c.isDigit = false)
    (n : Int) : c ∉ (decimal n).toList := by
  intro h
  rcases mem_decimal h with h | h
  · exact hsign h
  · exact absurd h (by simp [hdigit])

/-- A numeral is unmarked. -/
theorem unmarked_decimal (n : Int) : Unmarked (Text.decimal n) := by
  intro c hc hmark
  simp only [List.mem_cons, List.not_mem_nil, or_false] at hmark
  rcases hmark with rfl | rfl | rfl <;>
    exact Text.notMem_decimal (by decide) (by decide) n hc

/-- The name of an integer type is unmarked. -/
theorem IntegerType.unmarked_name (ty : IntegerType) : Unmarked ty.name := by
  cases ty <;> decide

theorem BuiltinType.unmarked_name (ty : BuiltinType) : Unmarked ty.name := by
  cases ty <;> decide

theorem Mutability.unmarked_word (mutability : Mutability) : Unmarked mutability.word := by
  cases mutability <;> decide

theorem BorrowKind.unmarked_mark (kind : BorrowKind) : Unmarked kind.mark := by
  cases kind <;> decide

theorem BinaryOperator.unmarked_symbol (operator : BinaryOperator) : Unmarked operator.symbol := by
  cases operator <;> decide

theorem unmarked_renderBool (value : Bool) : Unmarked (renderBool value) := by
  cases value <;> decide

section Words

variable {P : Text → Prop} (hP : Composes P)

include hP

/-- The text of a unary operator has the property. -/
theorem UnaryOperator.composes_render (operator : UnaryOperator) : P operator.render := by
  cases operator with
  | not => exact hP.word
  | neg => exact hP.word
  | cast source target =>
      have hsource := hP.unmarked source.unmarked_name
      have htarget := hP.unmarked target.unmarked_name
      exact hP.before (hP.separated (hP.after hsource) htarget)

/-- The path of a built-in function is composed of its generic arguments. -/
theorem BuiltinFunction.composes_path {generics : Text} (h : P generics)
    (function : BuiltinFunction) : P (function.path generics) := by
  cases function with
  | replace => exact hP.after h
  | boxFree => exact hP.after h
  | _ => exact hP.before (hP.after h)

/-- The mark of a variant by its index has the property. -/
theorem composes_variantMark (variant : Option Int) : P (variantMark variant) := by
  cases variant with
  | none => exact hP.word
  | some variant => exact hP.before (hP.after (hP.unmarked (unmarked_decimal variant)))

end Words

/-! ## Literals -/

namespace Json

/-- The characters that escapes are written with. -/
def escapeAlphabet : List CodePoint :=
  ['\\', '"', 'n', 'r', 't', 'u', '0', '1', '2', '3', '4', '5', '6', '7', '8', '9', 'a', 'b', 'c',
    'd', 'e', 'f']

/-- Hexadecimal digits are in the alphabet of escapes. -/
theorem mem_escapeAlphabet_of_hexDigits {width n : Nat} {c : CodePoint}
    (h : c ∈ Text.hexDigits width n) : c ∈ escapeAlphabet := by
  induction width generalizing n with
  | zero => simp [Text.hexDigits] at h
  | succ width ih =>
      rcases List.mem_append.1 h with h | h
      · exact ih h
      · rw [List.mem_singleton.1 h]
        have hdigit : n % 16 < 16 := Nat.mod_lt n (by decide)
        generalize n % 16 = digit at hdigit
        interval_cases digit <;> decide

/-- The escape of a code unit is written in the alphabet of escapes. -/
theorem mem_escapeAlphabet_of_escapeUnit {unit : Nat} {c : CodePoint} (h : c ∈ escapeUnit unit) :
    c ∈ escapeAlphabet := by
  rcases List.mem_cons.1 h with rfl | h
  · decide
  · rcases List.mem_cons.1 h with rfl | h
    · decide
    · exact mem_escapeAlphabet_of_hexDigits h

/-- The letter of a short escape is in the alphabet of escapes. -/
theorem mem_escapeAlphabet_of_shortEscape? {c letter : CodePoint}
    (h : shortEscape? c = some letter) : letter ∈ escapeAlphabet := by
  unfold shortEscape? at h
  split_ifs at h <;> cases h <;> decide

/-- A character is written as an escape, or stands for itself when it is no control character. -/
theorem mem_escape {c d : CodePoint} (h : d ∈ escape isText c) :
    d ∈ escapeAlphabet ∨ d = c ∧ isText c = true := by
  unfold escape at h
  split at h
  · rename_i letter hletter
    left
    rcases List.mem_cons.1 h with rfl | h
    · decide
    · rw [List.mem_singleton.1 h]
      exact mem_escapeAlphabet_of_shortEscape? hletter
  · split at h
    · rename_i hplain
      exact Or.inr ⟨List.mem_singleton.1 h, hplain⟩
    · left
      unfold escapeUnits at h
      dsimp only at h
      split at h
      · exact mem_escapeAlphabet_of_escapeUnit h
      · rcases List.mem_append.1 h with h | h
        · exact mem_escapeAlphabet_of_escapeUnit h
        · exact mem_escapeAlphabet_of_escapeUnit h

/-- A literal has escapes and the characters of its text in it. -/
theorem mem_escapeAll {text : Text} {c : CodePoint} (h : c ∈ escapeAll isText text) :
    c ∈ escapeAlphabet ∨ c ∈ text.toList ∧ isText c = true := by
  obtain ⟨d, hd, hc⟩ := List.mem_flatMap.1 h
  rcases mem_escape hc with hc | ⟨rfl, htext⟩
  · exact Or.inl hc
  · exact Or.inr ⟨hd, htext⟩

end Json

/-! ## Names that references are shown by -/

/-- A reference is shown by a name, among others that it may be shown by. -/
def Scope.Shows (scope : Scope) (name : Text) : Reference → Prop
  | .localVar id => scope.localName id = .ok name
  | .regionParam id => scope.regionParamName id = .ok name
  | .typeParam id => scope.typeParamName id = .ok name
  | .type id => scope.typeName id = .ok name
  | .function id => scope.functionName id = .ok name
  | .global id => scope.globalName id = .ok name
  | .fields id variant =>
      scope.typeName id = .ok name ∨
        (∃ number, variant = some number ∧ scope.variantName id number = .ok name) ∨
        ∃ names, scope.fieldNames? id variant = .ok (some names) ∧ name ∈ names
  | .field id variant index =>
      scope.fieldName id variant index = .ok name ∨
        ∃ number, variant = some number ∧ scope.variantName id number = .ok name

/-- Every name that a reference is shown by has a property. -/
def Scope.ShowsOnly (scope : Scope) (P : Text → Prop) (reference : Reference) : Prop :=
  ∀ name, scope.Shows name reference → P name

/-! ## Strings and characters that are written out -/

mutual
/-- The strings and characters in a constant. -/
def Constant.literals : Constant → List Text
  | .scalar _ => []
  | .bool _ => []
  | .char text => [text]
  | .string text => [text]
  | .adt _ fields => Constant.literalsOfAll fields
  | .global _ => []

/-- The strings and characters in constants, one after the other. -/
def Constant.literalsOfAll : List Constant → List Text
  | [] => []
  | constant :: rest => constant.literals ++ Constant.literalsOfAll rest
end

/-- The strings and characters in an operand. -/
def Operand.literals : Operand → List Text
  | .copy _ => []
  | .move _ => []
  | .const _ value => value.literals

/-- The strings and characters in the right-hand side of an assignment. -/
def Rvalue.literals : Rvalue → List Text
  | .use operand => operand.literals
  | .borrow _ _ => []
  | .unary _ operand => operand.literals
  | .binary _ left right => left.literals ++ right.literals
  | .discriminant _ => []
  | .aggregate _ operands => operands.flatMap Operand.literals
  | .global _ => []

/-- The strings and characters in an action. -/
def Action.literals : Action → List Text
  | .assign _ value => value.literals
  | .fakeRead _ => []
  | .setDiscriminant _ _ => []
  | .drop _ => []
  | .assert assertion => assertion.condition.literals
  | .call made => made.arguments.flatMap Operand.literals
  | .panic => []
  | .ret => []
  | .brk _ => []
  | .cont _ => []
  | .nop => []

/-- A text that is written out, as a string or as a character, with a property. -/
def WrittenAs (P : Text → Prop) (text : Text) : Prop :=
  P (stringLiteral text) ∧ P (charLiteral text)

/-- A string literal is its escaped text between quotes. -/
theorem stringLiteral_eq (text : Text) :
    stringLiteral text = "\"" ++ Text.ofList (Json.escapeAll Json.isText text) ++ "\"" := by
  rw [stringLiteral, Json.quote, ← Text.toList_inj]
  simp

/-- A literal is written with the property when its escaped text has it. -/
theorem Composes.writtenAs {P : Text → Prop} (hP : Composes P) {text : Text}
    (h : P (Text.ofList (Json.escapeAll Json.isText text))) : WrittenAs P text := by
  constructor
  · rw [stringLiteral_eq]
    exact hP.before (hP.after h)
  · unfold charLiteral
    split
    · exact hP.word
    · exact hP.before (hP.after h)

section Parts

variable {P : Text → Prop} {scope : Scope}

/-! ## Types -/

/-- The text of a region is composed of the names that it refers to. -/
theorem Region.gives_render (hP : Composes P) {region : Region}
    (h : ∀ reference ∈ region.references, scope.ShowsOnly P reference) :
    Gives (region.render scope) P := by
  cases region with
  | static => exact gives_ok hP.word
  | erased => exact gives_ok hP.word
  | var id => exact h (.regionParam id) (by simp [Region.references])

/-- The texts of regions are composed of the names that they refer to. -/
theorem Region.gives_mapM_render (hP : Composes P) {regions : List Region}
    (h : ∀ reference ∈ Region.referencesOfAll regions, scope.ShowsOnly P reference) :
    Gives (regions.mapM (Region.render scope)) fun shown => ∀ text ∈ shown, P text := by
  refine gives_mapM fun region hregion => Region.gives_render hP fun reference hreference => ?_
  exact h reference (List.mem_flatMap.2 ⟨region, hregion, hreference⟩)

mutual
/-- The text of a type has every property that texts inherit. -/
theorem Ty.gives_render (hP : Composes P) :
    (ty : Ty) → (∀ reference ∈ ty.references, scope.ShowsOnly P reference) →
      Gives (ty.render scope) P
  | .adt .tuple _ types, h => by
      rw [Ty.render]
      rw [Ty.references] at h
      refine (Ty.gives_renderAll hP types h).bind_pure fun shown hshown => ?_
      exact hP.parenthesized hshown
  | .adt (.declared id) regions types, h => by
      rw [Ty.references, List.forall_mem_cons, List.forall_mem_append] at h
      obtain ⟨hhead, hregions, htypes⟩ := h
      rw [Ty.render]
      refine Gives.bind hhead fun name hname => ?_
      refine (Region.gives_mapM_render hP hregions).bind fun shownRegions hshownRegions => ?_
      refine (Ty.gives_renderAll hP types htypes).bind_pure fun shownTypes hshownTypes => ?_
      exact hP.append hname (hP.angled (List.forall_mem_append.2 ⟨hshownRegions, hshownTypes⟩))
  | .adt (.builtin ty) regions types, h => by
      rw [Ty.references, List.forall_mem_append] at h
      obtain ⟨hregions, htypes⟩ := h
      rw [Ty.render]
      refine (Region.gives_mapM_render hP hregions).bind fun shownRegions hshownRegions => ?_
      refine (Ty.gives_renderAll hP types htypes).bind_pure fun shownTypes hshownTypes => ?_
      exact hP.append (hP.unmarked ty.unmarked_name)
        (hP.angled (List.forall_mem_append.2 ⟨hshownRegions, hshownTypes⟩))
  | .var id, h => h (.typeParam id) (by simp [Ty.references])
  | .bool, _ => gives_ok hP.word
  | .char, _ => gives_ok hP.word
  | .never, _ => gives_ok hP.word
  | .integer ty, _ => gives_ok (hP.unmarked ty.unmarked_name)
  | .str, _ => gives_ok hP.word
  | .array element, h => by
      rw [Ty.references] at h
      rw [Ty.render]
      exact (Ty.gives_render hP element h).bind_pure fun shown hshown => hP.before (hP.after hshown)
  | .slice element, h => by
      rw [Ty.references] at h
      rw [Ty.render]
      exact (Ty.gives_render hP element h).bind_pure fun shown hshown => hP.before (hP.after hshown)
  | .ref region target mutability, h => by
      rw [Ty.references, List.forall_mem_append] at h
      rw [Ty.render]
      have hword := hP.unmarked mutability.unmarked_word
      refine (Region.gives_render hP h.1).bind fun shownRegion hregion => ?_
      refine (Ty.gives_render hP target h.2).bind_pure fun shownTarget htarget => ?_
      exact hP.append (hP.append (hP.before (hP.after hregion)) hword) htarget

/-- The texts of types are composed of the names that they refer to. -/
theorem Ty.gives_renderAll (hP : Composes P) :
    (types : List Ty) →
      (∀ reference ∈ Ty.referencesOfAll types, scope.ShowsOnly P reference) →
        Gives (Ty.renderAll scope types) fun shown => ∀ text ∈ shown, P text
  | [], _ => gives_ok (by simp)
  | ty :: rest, h => by
      rw [Ty.referencesOfAll, List.forall_mem_append] at h
      rw [Ty.renderAll]
      refine (Ty.gives_render hP ty h.1).bind fun shown hshown => ?_
      refine (Ty.gives_renderAll hP rest h.2).bind_pure fun more hmore => ?_
      exact List.forall_mem_cons.2 ⟨hshown, hmore⟩
end

/-- Generic arguments are composed of the names that they refer to. -/
theorem gives_genericArgs (hP : Composes P) {regions : List Region} {types : List Ty}
    (h : ∀ reference ∈ genericReferences regions types, scope.ShowsOnly P reference) :
    Gives (genericArgs scope regions types) P := by
  rw [genericReferences, List.forall_mem_append] at h
  refine (Region.gives_mapM_render hP h.1).bind fun shownRegions hregions => ?_
  refine (Ty.gives_renderAll hP types h.2).bind_pure fun shownTypes htypes => ?_
  exact hP.angled (List.forall_mem_append.2 ⟨hregions, htypes⟩)

/-! ## Places and expressions -/

/-- The text of a projection is composed of the place inside and the names it refers to. -/
theorem Projection.gives_render (hP : Composes P) {inner : Text} (hinner : P inner)
    {step : Projection}
    (h : ∀ reference ∈ step.references, scope.ShowsOnly P reference) :
    Gives (step.render scope inner) P := by
  cases step with
  | deref => exact gives_ok (hP.before (hP.after hinner))
  | derefBox => exact gives_ok (hP.before (hP.after hinner))
  | field owner index =>
      cases owner with
      | tuple arity =>
          have hindex := hP.unmarked (unmarked_decimal index)
          exact gives_ok (hP.separated (hP.after hinner) hindex)
      | adt type variant =>
          have hnames := h (.field type variant index) (by simp [Projection.references])
          have hfield : Gives (scope.fieldName type variant index) P :=
            fun name hname => hnames name (Or.inl hname)
          cases variant with
          | none =>
              exact hfield.bind_pure fun field hfield => hP.separated (hP.after hinner) hfield
          | some number =>
              have hvariant : Gives (scope.variantName type number) P :=
                fun name hname => hnames name (Or.inr ⟨number, rfl, hname⟩)
              refine hfield.bind fun field hfield => ?_
              refine hvariant.bind_pure fun variantName hvariantName => ?_
              exact hP.separated (hP.separated (hP.after hinner) hvariantName) hfield

/-- The text of a path is composed of the place inside and the names it refers to. -/
theorem Place.gives_renderPath (hP : Composes P) {inner : Text} (hinner : P inner)
    {path : List Projection}
    (h : ∀ reference ∈ path.flatMap Projection.references, scope.ShowsOnly P reference) :
    Gives (Place.renderPath scope inner path) P := by
  induction path generalizing inner with
  | nil => exact gives_ok hinner
  | cons step rest ih =>
      rw [List.flatMap_cons, List.forall_mem_append] at h
      exact (Projection.gives_render hP hinner h.1).bind fun shown hshown => ih hshown h.2

/-- The text of a place is composed of the names that it refers to. -/
theorem Place.gives_render (hP : Composes P) {place : Place}
    (h : ∀ reference ∈ place.references, scope.ShowsOnly P reference) :
    Gives (place.render scope) P := by
  rw [Place.references, List.forall_mem_cons] at h
  exact Gives.bind h.1 fun root hroot => Place.gives_renderPath hP hroot h.2

mutual
/-- The text of a constant has every property that texts inherit. -/
theorem Constant.gives_render (hP : Composes P) :
    (constant : Constant) → (∀ reference ∈ constant.references, scope.ShowsOnly P reference) →
      (∀ text ∈ constant.literals, WrittenAs P text) → Gives (constant.render scope) P
  | .scalar value, _, _ => gives_ok (hP.unmarked (unmarked_decimal value.value))
  | .bool value, _, _ => gives_ok (hP.unmarked (unmarked_renderBool value))
  | .char text, _, hliterals =>
      gives_ok (hliterals text (by simp [Constant.literals])).2
  | .string text, _, hliterals =>
      gives_ok (hliterals text (by simp [Constant.literals])).1
  | .adt variant fields, h, hliterals => by
      rw [Constant.references] at h
      rw [Constant.literals] at hliterals
      rw [Constant.render]
      refine (Constant.gives_renderAll hP fields h hliterals).bind_pure fun shown hshown => ?_
      have hbraced := hP.append (composes_variantMark hP variant)
        (hP.braced (hP.commaSeparated hshown))
      simpa only [Text.append_assoc] using hbraced
  | .global id, h, _ => h (.global id) (by simp [Constant.references])

/-- The texts of constants are composed of names and literals. -/
theorem Constant.gives_renderAll (hP : Composes P) :
    (constants : List Constant) →
      (∀ reference ∈ Constant.referencesOfAll constants, scope.ShowsOnly P reference) →
        (∀ text ∈ Constant.literalsOfAll constants, WrittenAs P text) →
          Gives (Constant.renderAll scope constants) fun shown => ∀ text ∈ shown, P text
  | [], _, _ => gives_ok (by simp)
  | constant :: rest, h, hliterals => by
      rw [Constant.referencesOfAll, List.forall_mem_append] at h
      rw [Constant.literalsOfAll, List.forall_mem_append] at hliterals
      rw [Constant.renderAll]
      refine (Constant.gives_render hP constant h.1 hliterals.1).bind fun shown hshown => ?_
      refine (Constant.gives_renderAll hP rest h.2 hliterals.2).bind_pure fun more hmore => ?_
      exact List.forall_mem_cons.2 ⟨hshown, hmore⟩
end

theorem Operand.gives_render (hP : Composes P) {operand : Operand}
    (h : ∀ reference ∈ operand.references, scope.ShowsOnly P reference)
    (hliterals : ∀ text ∈ operand.literals, WrittenAs P text) :
    Gives (operand.render scope) P := by
  cases operand with
  | copy place =>
      exact (Place.gives_render hP h).bind_pure fun shown hshown => hP.after hshown
  | move place =>
      exact (Place.gives_render hP h).bind_pure fun shown hshown => hP.after hshown
  | const type value =>
      rw [Operand.references, List.forall_mem_append] at h
      refine (Constant.gives_render hP value h.1 hliterals).bind fun shownValue hvalue => ?_
      refine (Ty.gives_render hP type h.2).bind_pure fun shownType htype => ?_
      exact hP.before (hP.separated (hP.after hvalue) htype)

/-- The texts of operands are composed of names and literals. -/
theorem Operand.gives_mapM_render (hP : Composes P) {operands : List Operand}
    (h : ∀ reference ∈ operands.flatMap Operand.references, scope.ShowsOnly P reference)
    (hliterals : ∀ text ∈ operands.flatMap Operand.literals, WrittenAs P text) :
    Gives (operands.mapM (Operand.render scope)) fun shown => ∀ text ∈ shown, P text := by
  refine gives_mapM fun operand hoperand => Operand.gives_render hP ?_ ?_
  · exact fun reference hreference =>
      h reference (List.mem_flatMap.2 ⟨operand, hoperand, hreference⟩)
  · exact fun text htext => hliterals text (List.mem_flatMap.2 ⟨operand, hoperand, htext⟩)

/-- The name of an aggregate is composed of the names of its type and variant. -/
theorem gives_aggregateName (hP : Composes P) {type : Int} {variant : Option Int}
    (h : scope.ShowsOnly P (.fields type variant)) :
    Gives (aggregateName scope type variant) P := by
  have htype : Gives (scope.typeName type) P := fun name hname => h name (Or.inl hname)
  cases variant with
  | none => exact htype
  | some number =>
      have hvariant : Gives (scope.variantName type number) P :=
        fun name hname => h name (Or.inr (Or.inl ⟨number, rfl, hname⟩))
      refine htype.bind fun name hname => ?_
      refine hvariant.bind_pure fun variantName hvariantName => ?_
      exact hP.separated hname hvariantName

theorem AggregateKind.gives_render (hP : Composes P) {operands : List Text}
    (hoperands : ∀ operand ∈ operands, P operand) {kind : AggregateKind}
    (h : ∀ reference ∈ kind.references, scope.ShowsOnly P reference) :
    Gives (kind.render scope operands) P := by
  have hlist := hP.parenthesized hoperands
  cases kind with
  | tuple => exact gives_ok hlist
  | option variant _ =>
      rw [AggregateKind.render]
      split
      · exact gives_ok hP.word
      · exact gives_ok (hP.after hlist)
  | adt type variant regions types =>
      have hnames := h (.fields type variant) (by simp [AggregateKind.references])
      have hfields : Gives (scope.fieldNames? type variant)
          fun found => ∀ names, found = some names → ∀ name ∈ names, P name := by
        rintro found hfound names rfl name hmem
        exact hnames name (Or.inr (Or.inr ⟨names, hfound, hmem⟩))
      refine (gives_aggregateName hP hnames).bind fun name hname => ?_
      refine hfields.bind fun found hfound => ?_
      cases found with
      | none =>
          refine gives_pure ?_
          split
          · exact hname
          · exact hP.append hname hlist
      | some names =>
          have hinside := hP.namedFields (hfound names rfl) hoperands
          have hbraced : P ("\x7b" ++ (" " ++ namedFields names operands ++ " ") ++ "\x7d") :=
            hP.braced (hP.before (hP.after hinside))
          have hopening : (" \x7b " : Text) = " " ++ ("\x7b" ++ " ") := by decide
          have hclosing : (" \x7d" : Text) = " " ++ "\x7d" := by decide
          refine gives_pure ?_
          simpa only [hopening, hclosing, Text.append_assoc] using hP.separated hname hbraced

theorem Rvalue.gives_render (hP : Composes P) {value : Rvalue}
    (h : ∀ reference ∈ value.references, scope.ShowsOnly P reference)
    (hliterals : ∀ text ∈ value.literals, WrittenAs P text) :
    Gives (value.render scope) P := by
  cases value with
  | use operand => exact Operand.gives_render hP h hliterals
  | borrow place kind =>
      refine (Place.gives_render hP h).bind_pure fun shown hshown => ?_
      exact hP.append (hP.unmarked kind.unmarked_mark) hshown
  | unary operator operand =>
      have hoperator := operator.composes_render hP
      refine (Operand.gives_render hP h hliterals).bind_pure fun shown hshown => ?_
      exact hP.separated hoperator hshown
  | binary operator left right =>
      rw [Rvalue.references, List.forall_mem_append] at h
      rw [Rvalue.literals, List.forall_mem_append] at hliterals
      have hsymbol := hP.unmarked operator.unmarked_symbol
      refine (Operand.gives_render hP h.1 hliterals.1).bind fun shownLeft hleft => ?_
      refine (Operand.gives_render hP h.2 hliterals.2).bind_pure fun shownRight hright => ?_
      exact hP.separated (hP.separated hleft hsymbol) hright
  | discriminant place =>
      exact (Place.gives_render hP h).bind_pure fun shown hshown => hP.before (hP.after hshown)
  | aggregate kind operands =>
      rw [Rvalue.references, List.forall_mem_append] at h
      exact (Operand.gives_mapM_render hP h.1 hliterals).bind fun shown hshown =>
        AggregateKind.gives_render hP hshown h.2
  | global id => exact h (.global id) (by simp [Rvalue.references])

theorem Callee.gives_render (hP : Composes P) {generics : Text} (hgenerics : P generics)
    {callee : Callee}
    (h : ∀ reference ∈ callee.references, scope.ShowsOnly P reference) :
    Gives (callee.render scope generics) P := by
  cases callee with
  | declared id =>
      have hname : Gives (scope.functionName id) P :=
        h (.function id) (by simp [Callee.references])
      exact hname.bind_pure fun name hname => hP.append hname hgenerics
  | builtin function => exact gives_ok (function.composes_path hP hgenerics)

theorem Call.gives_render (hP : Composes P) {call : Call}
    (h : ∀ reference ∈ call.references, scope.ShowsOnly P reference)
    (hliterals : ∀ text ∈ call.arguments.flatMap Operand.literals, WrittenAs P text) :
    Gives (call.render scope) P := by
  simp only [Call.references, List.forall_mem_append] at h
  obtain ⟨hgenerics, hcallee, harguments, htarget⟩ := h
  refine (gives_genericArgs hP hgenerics).bind fun generics hgenerics => ?_
  refine (Callee.gives_render hP hgenerics hcallee).bind fun name hname => ?_
  refine (Operand.gives_mapM_render hP harguments hliterals).bind fun arguments harguments => ?_
  refine (Place.gives_render hP htarget).bind_pure fun target htarget => ?_
  exact hP.append (hP.separated htarget hname) (hP.parenthesized harguments)

/-! ## Actions -/

/-- The text of an action has every property that texts inherit. -/
theorem Action.gives_render (hP : Composes P) {action : Action}
    (h : ∀ reference ∈ action.references, scope.ShowsOnly P reference)
    (hliterals : ∀ text ∈ action.literals, WrittenAs P text) :
    Gives (action.render scope) P := by
  cases action with
  | assign place value =>
      rw [Action.references, List.forall_mem_append] at h
      refine (Place.gives_render hP h.1).bind fun shownPlace hplace => ?_
      refine (Rvalue.gives_render hP h.2 hliterals).bind_pure fun shownValue hvalue => ?_
      exact hP.separated hplace hvalue
  | fakeRead place =>
      exact (Place.gives_render hP h).bind_pure fun shown hshown => hP.after hshown
  | setDiscriminant place variant =>
      have hvariant := hP.unmarked (unmarked_decimal variant)
      refine (Place.gives_render hP h).bind_pure fun shown hshown => ?_
      exact hP.before (hP.separated (hP.after hshown) hvariant)
  | drop place =>
      exact (Place.gives_render hP h).bind_pure fun shown hshown => hP.after hshown
  | assert assertion =>
      have hexpected := hP.unmarked (unmarked_renderBool assertion.expected)
      refine (Operand.gives_render hP h hliterals).bind_pure fun shown hshown => ?_
      exact hP.before (hP.separated (hP.after hshown) hexpected)
  | call made => exact Call.gives_render hP h hliterals
  | panic => exact gives_ok hP.word
  | ret => exact gives_ok hP.word
  | brk depth =>
      exact gives_ok (hP.after (hP.unmarked (unmarked_decimal depth)))
  | cont depth =>
      exact gives_ok (hP.after (hP.unmarked (unmarked_decimal depth)))
  | nop => exact gives_ok hP.word

end Parts

end CrateListing
