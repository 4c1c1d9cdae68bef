import CrateListing.Proofs.Composition
import CrateListing.Proofs.Delimiters

/-!
# Reading types

The text of a type is that of its form: a word with generic arguments, a tuple, an
array, a slice or a reference.  A text that starts with the text of a form starts
with the text of no other one, as long as what follows starts with a character
that can follow a type.  This needs that words have no delimiters and no quotes,
and that the names of regions start with a quote.

Main definitions:

- `TypeForm`: a type as it is shown.
- `TypeForm.Legible`: the words and regions in a form can be told from what is around them.

Main results:

- Theorem `Ty.render_eq_form`: the text of a type is that of its form.
- Theorem `TypeForm.Legible.readsBack`: a text determines its form, and where it ends.
-/

namespace CrateListing

open Outcome

/-! ## Forms of types -/

/-- A type as it is shown. -/
inductive TypeForm where
  /-- A word, with generic arguments between angle brackets when there are any. -/
  | word (name : Text) (regions : List Text) (arguments : List TypeForm)
  | tuple (items : List TypeForm)
  | array (element : TypeForm)
  | slice (element : TypeForm)
  | ref (region : Text) (mutability : Mutability) (target : TypeForm)
deriving Repr

mutual
/-- The text of a form. -/
def TypeForm.text : TypeForm → Text
  | .word name regions arguments => name ++ angled (regions ++ TypeForm.texts arguments)
  | .tuple items => "(" ++ Text.intercalate ", " (TypeForm.texts items) ++ ")"
  | .array element => "[" ++ element.text ++ "; ?]"
  | .slice element => "[" ++ element.text ++ "]"
  | .ref region mutability target => "&" ++ region ++ " " ++ mutability.word ++ target.text

/-- The texts of forms, one after the other. -/
def TypeForm.texts : List TypeForm → List Text
  | [] => []
  | form :: rest => form.text :: TypeForm.texts rest
end

mutual
/-- The form of a type.  The region arguments of a tuple are not shown. -/
def Ty.form (scope : Scope) : Ty → Except InternalError TypeForm
  | .adt .tuple _ types => do
      let items ← Ty.forms scope types
      return .tuple items
  | .adt (.declared id) regions types => do
      let name ← scope.typeName id
      let shownRegions ← regions.mapM (Region.render scope)
      let arguments ← Ty.forms scope types
      return .word name shownRegions arguments
  | .adt (.builtin ty) regions types => do
      let shownRegions ← regions.mapM (Region.render scope)
      let arguments ← Ty.forms scope types
      return .word ty.name shownRegions arguments
  | .var id => do
      let name ← scope.typeParamName id
      return .word name [] []
  | .bool => .ok (.word "bool" [] [])
  | .char => .ok (.word "char" [] [])
  | .never => .ok (.word "!" [] [])
  | .integer ty => .ok (.word ty.name [] [])
  | .str => .ok (.word "str" [] [])
  | .array element => do
      let shown ← Ty.form scope element
      return .array shown
  | .slice element => do
      let shown ← Ty.form scope element
      return .slice shown
  | .ref region target mutability => do
      let shownRegion ← region.render scope
      let shownTarget ← Ty.form scope target
      return .ref shownRegion mutability shownTarget

/-- The forms of types, one after the other. -/
def Ty.forms (scope : Scope) : List Ty → Except InternalError (List TypeForm)
  | [] => .ok []
  | ty :: rest => do
      let form ← Ty.form scope ty
      let more ← Ty.forms scope rest
      return form :: more
end

/-- The texts of forms, one by one. -/
theorem TypeForm.texts_eq_map (forms : List TypeForm) :
    TypeForm.texts forms = forms.map TypeForm.text := by
  induction forms with
  | nil => simp only [texts, List.map_nil]
  | cons form rest ih => simp only [texts, List.map_cons, ih]

/-- The text of a word without arguments. -/
@[simp]
theorem TypeForm.text_word_nil (name : Text) : (word name [] []).text = name := by
  simp [text, texts, angled]

mutual
/-- The text of a type is that of its form. -/
theorem Ty.render_eq_form (scope : Scope) :
    (ty : Ty) → ty.render scope = (ty.form scope).map TypeForm.text
  | .adt .tuple _ types => by
      rw [Ty.render, Ty.form, Ty.renderAll_eq_forms]
      cases Ty.forms scope types <;> simp [Except.map, pure_eq_ok, TypeForm.text]
  | .adt (.declared id) regions types => by
      rw [Ty.render, Ty.form, Ty.renderAll_eq_forms]
      cases scope.typeName id <;> cases regions.mapM (Region.render scope) <;>
        cases Ty.forms scope types <;> simp [Except.map, pure_eq_ok, TypeForm.text]
  | .adt (.builtin ty) regions types => by
      rw [Ty.render, Ty.form, Ty.renderAll_eq_forms]
      cases regions.mapM (Region.render scope) <;> cases Ty.forms scope types <;>
        simp [Except.map, pure_eq_ok, TypeForm.text]
  | .var id => by
      rw [Ty.render, Ty.form]
      cases scope.typeParamName id <;> simp [Except.map, pure_eq_ok]
  | .bool => by simp [Ty.render, Ty.form, Except.map]
  | .char => by simp [Ty.render, Ty.form, Except.map]
  | .never => by simp [Ty.render, Ty.form, Except.map]
  | .integer ty => by simp [Ty.render, Ty.form, Except.map]
  | .str => by simp [Ty.render, Ty.form, Except.map]
  | .array element => by
      rw [Ty.render, Ty.form, Ty.render_eq_form scope element]
      cases Ty.form scope element <;> simp [Except.map, pure_eq_ok, TypeForm.text]
  | .slice element => by
      rw [Ty.render, Ty.form, Ty.render_eq_form scope element]
      cases Ty.form scope element <;> simp [Except.map, pure_eq_ok, TypeForm.text]
  | .ref region target mutability => by
      rw [Ty.render, Ty.form, Ty.render_eq_form scope target]
      cases region.render scope <;> cases Ty.form scope target <;>
        simp [Except.map, pure_eq_ok, TypeForm.text]

/-- The texts of types are those of their forms. -/
theorem Ty.renderAll_eq_forms (scope : Scope) :
    (types : List Ty) → Ty.renderAll scope types = (Ty.forms scope types).map TypeForm.texts
  | [] => by simp [Ty.renderAll, Ty.forms, Except.map, TypeForm.texts]
  | ty :: rest => by
      rw [Ty.renderAll, Ty.forms, Ty.render_eq_form scope ty, Ty.renderAll_eq_forms scope rest]
      cases Ty.form scope ty <;> cases Ty.forms scope rest <;>
        simp [Except.map, pure_eq_ok, TypeForm.texts]
end

/-! ## Words and delimiters -/

/-- The characters that stand between the words of a type. -/
def typeDelimiters : List CodePoint :=
  [.char ' ', .char ',', .char ';', .char '<', .char '>', .char '(', .char ')', .char '[',
    .char ']', .char '&']

/-- The characters that can follow a type inside of another one. -/
def typeEnds : List CodePoint :=
  [.char ',', .char ';', .char '>', .char ')', .char ']']

/-- A word that a type can be shown by. -/
def IsTypeWord (name : Text) : Prop :=
  name ≠ "" ∧ ∀ c ∈ name.toList, c ≠ '\'' ∧ c ∉ typeDelimiters

instance (name : Text) : Decidable (IsTypeWord name) :=
  inferInstanceAs (Decidable (name ≠ "" ∧ ∀ c ∈ name.toList, c ≠ '\'' ∧ c ∉ typeDelimiters))

/-- A word that a region can be shown by. -/
def IsRegionWord (name : Text) : Prop :=
  name.toList.head? = some (.char '\'') ∧ ∀ c ∈ name.toList, c ∉ typeDelimiters

instance (name : Text) : Decidable (IsRegionWord name) :=
  inferInstanceAs (Decidable (name.toList.head? = some (.char '\'') ∧
    ∀ c ∈ name.toList, c ∉ typeDelimiters))

/-- The words and regions in a form can be told from what is around them. -/
inductive TypeForm.Legible : TypeForm → Prop where
  | word {name : Text} {regions : List Text} {arguments : List TypeForm}
      (hname : IsTypeWord name) (hregions : ∀ region ∈ regions, IsRegionWord region)
      (harguments : ∀ form ∈ arguments, form.Legible) : Legible (.word name regions arguments)
  | tuple {items : List TypeForm} (hitems : ∀ form ∈ items, form.Legible) : Legible (.tuple items)
  | array {element : TypeForm} (helement : element.Legible) : Legible (.array element)
  | slice {element : TypeForm} (helement : element.Legible) : Legible (.slice element)
  | ref {region : Text} {mutability : Mutability} {target : TypeForm}
      (hregion : IsRegionWord region) (htarget : target.Legible) :
      Legible (.ref region mutability target)

/-- A text that can follow a type. -/
abbrev Follows (text : Text) : Prop :=
  Opens (· ∈ typeEnds) text

/-- An opening angle bracket and what ends a type are delimiters. -/
theorem mem_typeDelimiters : ∀ c ∈ .char '<' :: typeEnds, c ∈ typeDelimiters := by
  simp [typeEnds, typeDelimiters]

/-- What follows a type begins with a delimiter. -/
theorem Follows.opens {text : Text} (h : Follows text) : Opens (· ∈ typeDelimiters) text :=
  h.mono fun c hc => mem_typeDelimiters c (List.mem_cons_of_mem (.char '<') hc)

/-- A list in angle brackets begins with its bracket, or with what follows when it is empty. -/
theorem opens_angled (items : List Text) {rest : Text} (hrest : Follows rest) :
    Opens (· ∈ .char '<' :: typeEnds) (angled items ++ rest) := by
  unfold angled
  split
  · rw [Text.empty_append]
    exact hrest.mono fun c hc => List.mem_cons_of_mem (.char '<') hc
  · simp [Opens]

/-! ## First characters -/

/-- The delimiter that a form starts with, unless it starts with a word. -/
def TypeForm.opening : TypeForm → Option CodePoint
  | .word _ _ _ => none
  | .tuple _ => some '('
  | .array _ => some '['
  | .slice _ => some '['
  | .ref _ _ _ => some '&'

/-- Forms start with what neither a region starts with nor can follow a type. -/
theorem TypeForm.Legible.exists_head {form : TypeForm} (h : form.Legible) (rest : Text) :
    ∃ c, (form.text ++ rest).toList.head? = some c ∧ c ∉ .char '\'' :: typeEnds ∧
      form.opening = if c ∈ typeDelimiters then some c else none := by
  cases h with
  | @word name regions arguments hname _ _ =>
      obtain ⟨c, tail, hchars⟩ : ∃ c tail, name.toList = c :: tail :=
        List.exists_cons_of_ne_nil (by simpa using hname.1)
      obtain ⟨hquote, hdelimiter⟩ := hname.2 c (by simp [hchars])
      refine ⟨c, by simp [text, hchars], ?_, by simp [opening, hdelimiter]⟩
      simp only [List.mem_cons, not_or]
      refine ⟨hquote, fun hc => hdelimiter ?_⟩
      exact mem_typeDelimiters c (List.mem_cons_of_mem (.char '<') hc)
  | tuple _ => exact ⟨'(', by simp [text], by decide, rfl⟩
  | array _ => exact ⟨'[', by simp [text], by decide, rfl⟩
  | slice _ => exact ⟨'[', by simp [text], by decide, rfl⟩
  | ref _ _ => exact ⟨'&', by simp [text], by decide, rfl⟩

/-- Forms whose texts begin in the same way have the same opening. -/
theorem TypeForm.Legible.opening_eq {form other : TypeForm} {rest more : Text}
    (hform : form.Legible) (hother : other.Legible) (h : form.text ++ rest = other.text ++ more) :
    form.opening = other.opening := by
  obtain ⟨c, hc, -, hopening⟩ := hform.exists_head rest
  obtain ⟨d, hd, -, hotherOpening⟩ := hother.exists_head more
  rw [h, hd] at hc
  cases hc
  rw [hopening, hotherOpening]

/-! ## Lists of items -/

/-- The text of an item determines it, and where it ends. -/
def ReadsBack {ι : Type} (text : ι → Text) (item other : ι) : Prop :=
  ∀ {rest more : Text}, Follows rest → Follows more → text item ++ rest = text other ++ more →
    item = other ∧ rest = more

/-- Further items, each behind a comma, up to the closing of the list. -/
def separated (closer : Text) : List Text → Text
  | [] => closer
  | item :: rest => ", " ++ item ++ separated closer rest

/-- A list with commas is its first item and the separated others. -/
theorem intercalate_eq_separated (closer tail item : Text) (rest : List Text) :
    Text.intercalate ", " (item :: rest) ++ closer ++ tail
      = item ++ (separated closer rest ++ tail) := by
  induction rest generalizing item with
  | nil => simp [separated, Text.append_assoc]
  | cons next others ih =>
      rw [Text.intercalate_cons_cons]
      calc
        item ++ ", " ++ Text.intercalate ", " (next :: others) ++ closer ++ tail
            = item ++ ", " ++ (Text.intercalate ", " (next :: others) ++ closer ++ tail) := by
          simp only [Text.append_assoc]
        _ = item ++ ", " ++ (next ++ (separated closer others ++ tail)) := by rw [ih next]
        _ = item ++ (separated closer (next :: others) ++ tail) := by
          simp only [separated, Text.append_assoc]

section Lists

variable {ι : Type} {text : ι → Text} {closer rest more : Text}
  (hcloser : closer ∈ ([">", ")"] : List Text))

include hcloser

/-- The items behind the first one follow it as a type is followed. -/
theorem follows_separated (items : List Text) : Follows (separated closer items ++ rest) := by
  cases items with
  | nil =>
      simp only [List.mem_cons, List.not_mem_nil, or_false] at hcloser
      rcases hcloser with rfl | rfl <;> simp [separated, Opens, typeEnds]
  | cons item items => simp [separated, Opens, typeEnds]

/-- What closes a list is no comma. -/
theorem closer_ne_comma {tail : Text} : closer ++ rest ≠ ", " ++ tail := by
  intro h
  have hheads := congrArg (·.toList.head?) h
  simp only [List.mem_cons, List.not_mem_nil, or_false] at hcloser
  rcases hcloser with rfl | rfl <;> simp at hheads

/-- Further items can be read one after the other. -/
theorem separated_append_inj {items others : List ι}
    (hread : ∀ item ∈ items, ∀ other ∈ others, ReadsBack text item other)
    (h : separated closer (items.map text) ++ rest = separated closer (others.map text) ++ more) :
    items = others ∧ rest = more := by
  induction items generalizing others with
  | nil =>
      cases others with
      | nil => exact ⟨rfl, (Text.append_right_inj closer).1 h⟩
      | cons other others =>
          simp only [List.map_nil, List.map_cons, separated, Text.append_assoc] at h
          exact absurd h (closer_ne_comma hcloser)
  | cons item items ih =>
      cases others with
      | nil =>
          simp only [List.map_nil, List.map_cons, separated, Text.append_assoc] at h
          exact absurd h.symm (closer_ne_comma hcloser)
      | cons other others =>
          simp only [List.map_cons, separated, Text.append_assoc, Text.append_right_inj] at h
          obtain ⟨hitem, htail⟩ := hread item List.mem_cons_self other List.mem_cons_self
            (follows_separated hcloser _) (follows_separated hcloser _) h
          obtain ⟨hitems, hrest⟩ := ih (fun item hitem other hother =>
            hread item (List.mem_cons_of_mem _ hitem) other (List.mem_cons_of_mem _ hother)) htail
          exact ⟨by rw [hitem, hitems], hrest⟩

/-- The items of a list can be read one after the other, up to the closing of the list. -/
theorem intercalate_append_inj {items others : List ι}
    (hitems : ∀ item ∈ items, ∀ tail, ¬ Follows (text item ++ tail))
    (hothers : ∀ other ∈ others, ∀ tail, ¬ Follows (text other ++ tail))
    (hread : ∀ item ∈ items, ∀ other ∈ others, ReadsBack text item other)
    (h : Text.intercalate ", " (items.map text) ++ closer ++ rest
      = Text.intercalate ", " (others.map text) ++ closer ++ more) :
    items = others ∧ rest = more := by
  have hclosed (tail : Text) : Follows (Text.intercalate ", " [] ++ closer ++ tail) := by
    simpa [separated] using follows_separated hcloser []
  cases items with
  | nil =>
      cases others with
      | nil => exact ⟨rfl, (Text.append_right_inj _).1 h⟩
      | cons other others =>
          rw [List.map_cons, intercalate_eq_separated] at h
          exact absurd (h ▸ hclosed rest) (hothers other List.mem_cons_self _)
  | cons item items =>
      cases others with
      | nil =>
          rw [List.map_cons, intercalate_eq_separated] at h
          exact absurd (h ▸ hclosed more) (hitems item List.mem_cons_self _)
      | cons other others =>
          rw [List.map_cons, List.map_cons, intercalate_eq_separated, intercalate_eq_separated] at h
          obtain ⟨hitem, htail⟩ := hread item List.mem_cons_self other List.mem_cons_self
            (follows_separated hcloser _) (follows_separated hcloser _) h
          obtain ⟨hrests, hmore⟩ := separated_append_inj hcloser (fun item hitem other hother =>
            hread item (List.mem_cons_of_mem _ hitem) other (List.mem_cons_of_mem _ hother)) htail
          exact ⟨by rw [hitem, hrests], hmore⟩

end Lists

/-- Items between angle brackets can be read, and it can be seen when there are none. -/
theorem angled_append_inj {ι : Type} {text : ι → Text} {items others : List ι}
    {rest more : Text} (hitems : ∀ item ∈ items, ∀ tail, ¬ Follows (text item ++ tail))
    (hothers : ∀ other ∈ others, ∀ tail, ¬ Follows (text other ++ tail))
    (hread : ∀ item ∈ items, ∀ other ∈ others, ReadsBack text item other)
    (hrest : Follows rest) (hmore : Follows more)
    (h : angled (items.map text) ++ rest = angled (others.map text) ++ more) :
    items = others ∧ rest = more := by
  have hbracket {tail : Text} : ¬ Follows ("<" ++ tail) := by
    simp [Opens, typeEnds]
  cases items with
  | nil =>
      cases others with
      | nil => exact ⟨rfl, (Text.append_right_inj _).1 h⟩
      | cons other others =>
          simp only [List.map_nil, List.map_cons, angled, List.isEmpty_nil, List.isEmpty_cons,
            if_true, Bool.false_eq_true, if_false, Text.empty_append, Text.append_assoc] at h
          exact absurd (h ▸ hrest) hbracket
  | cons item items =>
      cases others with
      | nil =>
          simp only [List.map_nil, List.map_cons, angled, List.isEmpty_nil, List.isEmpty_cons,
            if_true, Bool.false_eq_true, if_false, Text.empty_append, Text.append_assoc] at h
          exact absurd (h ▸ hmore) hbracket
      | cons other others =>
          simp only [List.map_cons, angled, List.isEmpty_cons, Bool.false_eq_true, if_false,
            Text.append_assoc, Text.append_right_inj] at h
          simp only [← Text.append_assoc] at h
          exact intercalate_append_inj (by decide) hitems hothers hread h

/-! ## Regions and generic arguments -/

/-- A legible form does not look like what follows a type. -/
theorem TypeForm.Legible.not_follows {form : TypeForm} (h : form.Legible) (rest : Text) :
    ¬ Follows (form.text ++ rest) := by
  obtain ⟨c, hc, hnot, -⟩ := h.exists_head rest
  exact fun hfollows => hnot (List.mem_cons_of_mem _ (hfollows c hc))

/-- The name of a region begins with an apostrophe. -/
theorem IsRegionWord.head_append {name : Text} (h : IsRegionWord name) (rest : Text) :
    (name ++ rest).toList.head? = some (.char '\'') := by
  rw [Text.toList_append, List.head?_append, h.1, Option.some_or]

/-- The name of a region does not look like what follows a type. -/
theorem IsRegionWord.not_follows {name : Text} (h : IsRegionWord name) (rest : Text) :
    ¬ Follows (name ++ rest) := by
  intro hfollows
  exact absurd (hfollows '\'' (h.head_append rest)) (by decide)

/-- The name of a region does not look like a type. -/
theorem IsRegionWord.ne_text {name rest more : Text} {form : TypeForm} (h : IsRegionWord name)
    (hform : form.Legible) : name ++ rest ≠ form.text ++ more := by
  intro heq
  obtain ⟨c, hc, hnot, -⟩ := hform.exists_head more
  rw [← heq, h.head_append rest] at hc
  cases hc
  exact hnot List.mem_cons_self

/-- The name of a region ends where a delimiter begins. -/
theorem IsRegionWord.append_inj {name other rest more : Text} (hname : IsRegionWord name)
    (hother : IsRegionWord other) (hrest : Opens (· ∈ typeDelimiters) rest)
    (hmore : Opens (· ∈ typeDelimiters) more) (h : name ++ rest = other ++ more) :
    name = other ∧ rest = more :=
  append_inj_of_opens hname.2 hother.2 hrest hmore h

/-- The name of a type ends where a delimiter begins. -/
theorem IsTypeWord.append_inj {name other rest more : Text} (hname : IsTypeWord name)
    (hother : IsTypeWord other) (hrest : Opens (· ∈ typeDelimiters) rest)
    (hmore : Opens (· ∈ typeDelimiters) more) (h : name ++ rest = other ++ more) :
    name = other ∧ rest = more :=
  append_inj_of_opens (fun c hc => (hname.2 c hc).2) (fun c hc => (hother.2 c hc).2) hrest hmore h

section Arguments

/-- Generic arguments in the order in which they are shown: regions, then types. -/
def genericItems (regions : List Text) (arguments : List TypeForm) : List (Text ⊕ TypeForm) :=
  regions.map Sum.inl ++ arguments.map Sum.inr

/-- The text of a generic argument. -/
def genericText : Text ⊕ TypeForm → Text :=
  Sum.elim id TypeForm.text

variable {regions others : List Text} {arguments otherArguments : List TypeForm}

/-- The texts of generic arguments are those of the regions and those of the types. -/
theorem map_genericText (regions : List Text) (arguments : List TypeForm) :
    (genericItems regions arguments).map genericText = regions ++ TypeForm.texts arguments := by
  simp [genericItems, genericText, TypeForm.texts_eq_map, Function.comp_def]

/-- Generic arguments can be taken apart into regions and types. -/
theorem genericItems_inj (h : genericItems regions arguments = genericItems others otherArguments) :
    regions = others ∧ arguments = otherArguments := by
  constructor
  · simpa [genericItems, List.filterMap_map, Function.comp_def] using
      congrArg (List.filterMap Sum.getLeft?) h
  · simpa [genericItems, List.filterMap_map, Function.comp_def] using
      congrArg (List.filterMap Sum.getRight?) h

/-- Something holds of all generic arguments when it does of regions and types. -/
theorem forall_mem_genericItems {P : Text ⊕ TypeForm → Prop} :
    (∀ item ∈ genericItems regions arguments, P item) ↔
      (∀ region ∈ regions, P (.inl region)) ∧ ∀ form ∈ arguments, P (.inr form) := by
  simp only [genericItems, List.forall_mem_append, List.forall_mem_map]

variable (hregions : ∀ region ∈ regions, IsRegionWord region)
  (harguments : ∀ form ∈ arguments, form.Legible)

include hregions harguments

/-- A generic argument does not look like what follows a type. -/
theorem not_follows_genericItems :
    ∀ item ∈ genericItems regions arguments, ∀ tail, ¬ Follows (genericText item ++ tail) :=
  forall_mem_genericItems.2 ⟨fun region hregion => (hregions region hregion).not_follows,
    fun form hform => (harguments form hform).not_follows⟩

/-- Regions and types can be told apart, and each of them can be read. -/
theorem readsBack_genericItems (hothers : ∀ region ∈ others, IsRegionWord region)
    (hotherArguments : ∀ form ∈ otherArguments, form.Legible)
    (hread : ∀ form ∈ arguments, ∀ other ∈ otherArguments, ReadsBack TypeForm.text form other) :
    ∀ item ∈ genericItems regions arguments, ∀ other ∈ genericItems others otherArguments,
      ReadsBack genericText item other := by
  refine forall_mem_genericItems.2 ⟨fun region hregion => ?_, fun form hform => ?_⟩
  · refine forall_mem_genericItems.2 ⟨fun other hother => ?_, fun other hother => ?_⟩
    · intro rest more hrest hmore h
      obtain ⟨hnames, hrests⟩ := (hregions region hregion).append_inj (hothers other hother)
        hrest.opens hmore.opens h
      exact ⟨congrArg Sum.inl hnames, hrests⟩
    · intro rest more _ _ h
      exact absurd h ((hregions region hregion).ne_text (hotherArguments other hother))
  · refine forall_mem_genericItems.2 ⟨fun other hother => ?_, fun other hother => ?_⟩
    · intro rest more _ _ h
      exact absurd h.symm ((hothers other hother).ne_text (harguments form hform))
    · intro rest more hrest hmore h
      obtain ⟨hforms, hrests⟩ := hread form hform other hother hrest hmore h
      exact ⟨congrArg Sum.inr hforms, hrests⟩

end Arguments

/-- What a mutable reference is marked with is not the start of a type. -/
theorem TypeForm.Legible.ne_mut {form : TypeForm} {rest tail : Text} (h : form.Legible)
    (hrest : Follows rest) : form.text ++ rest ≠ "mut " ++ tail := by
  intro heq
  obtain ⟨c, hc, -, hopening⟩ := h.exists_head rest
  have hm : c = 'm' := by
    rw [heq] at hc
    simpa using hc.symm
  subst hm
  cases h with
  | @word name regions arguments hname _ _ =>
      have hsplit : name ++ (angled (regions ++ texts arguments) ++ rest)
          = "mut" ++ (" " ++ tail) := by
        rw [← Text.append_assoc, ← Text.append_assoc]
        exact heq
      have hopens := opens_angled (regions ++ texts arguments) hrest
      obtain ⟨-, hblank⟩ := hname.append_inj (by decide) (hopens.mono mem_typeDelimiters)
        (by simp [Opens, typeDelimiters]) hsplit
      rw [hblank] at hopens
      exact absurd (hopens ' ' (by simp)) (by decide)
  | tuple _ => cases hopening
  | array _ => cases hopening
  | slice _ => cases hopening
  | ref _ _ => cases hopening

/-- A mutability can be told from the type that is referred to. -/
theorem Mutability.word_append_inj {mutability other : Mutability} {target otherTarget : TypeForm}
    {rest more : Text} (htarget : target.Legible) (hother : otherTarget.Legible)
    (hrest : Follows rest) (hmore : Follows more)
    (h : mutability.word ++ (target.text ++ rest) = other.word ++ (otherTarget.text ++ more)) :
    mutability = other ∧ target.text ++ rest = otherTarget.text ++ more := by
  cases mutability with
  | mutable =>
      cases other with
      | mutable => exact ⟨rfl, (Text.append_right_inj "mut ").1 h⟩
      | shared =>
          rw [word, word, Text.empty_append] at h
          exact absurd h.symm (hother.ne_mut hmore)
  | shared =>
      cases other with
      | mutable =>
          rw [word, word, Text.empty_append] at h
          exact absurd h (htarget.ne_mut hrest)
      | shared => exact ⟨rfl, (Text.append_right_inj "").1 h⟩

/-! ## Reading forms -/

namespace TypeForm

/-- The text of a form determines it, and where it ends. -/
def ReadsBack (form : TypeForm) : Prop :=
  ∀ {other : TypeForm}, other.Legible → CrateListing.ReadsBack text form other

/-- A name with generic arguments is read back when its arguments are. -/
theorem readsBack_word {name : Text} {regions : List Text} {arguments : List TypeForm}
    (hname : IsTypeWord name) (hregions : ∀ region ∈ regions, IsRegionWord region)
    (harguments : ∀ form ∈ arguments, form.Legible) (hread : ∀ form ∈ arguments, form.ReadsBack) :
    (word name regions arguments).ReadsBack := by
  intro other hother rest more hrest hmore heq
  have hopening := (Legible.word hname hregions harguments).opening_eq hother heq
  cases hother with
  | @word otherName others otherArguments hotherName hothers hotherArguments =>
      simp only [text, Text.append_assoc, ← map_genericText] at heq
      obtain ⟨hnames, hangled⟩ := hname.append_inj hotherName
        ((opens_angled _ hrest).mono mem_typeDelimiters)
        ((opens_angled _ hmore).mono mem_typeDelimiters) heq
      have hitemsRead := readsBack_genericItems hregions harguments hothers hotherArguments
        fun form hform other hother => hread form hform (hotherArguments other hother)
      obtain ⟨hitems, hrests⟩ := angled_append_inj (not_follows_genericItems hregions harguments)
        (not_follows_genericItems hothers hotherArguments) hitemsRead hrest hmore hangled
      obtain ⟨hregionsEq, hargumentsEq⟩ := genericItems_inj hitems
      exact ⟨by rw [hnames, hregionsEq, hargumentsEq], hrests⟩
  | tuple _ => cases hopening
  | array _ => cases hopening
  | slice _ => cases hopening
  | ref _ _ => cases hopening

/-- A tuple is read back when its items are. -/
theorem readsBack_tuple {items : List TypeForm} (hitems : ∀ form ∈ items, form.Legible)
    (hread : ∀ form ∈ items, form.ReadsBack) : (tuple items).ReadsBack := by
  intro other hother rest more hrest hmore heq
  have hopening := (Legible.tuple hitems).opening_eq hother heq
  cases hother with
  | word _ _ _ => cases hopening
  | @tuple others hothers =>
      simp only [text, texts_eq_map, Text.append_assoc, Text.append_right_inj] at heq
      simp only [← Text.append_assoc] at heq
      obtain ⟨hforms, hrests⟩ := intercalate_append_inj (by decide)
        (fun form hform => (hitems form hform).not_follows)
        (fun form hform => (hothers form hform).not_follows)
        (fun form hform other hother => hread form hform (hothers other hother)) heq
      exact ⟨congrArg tuple hforms, hrests⟩
  | array _ => cases hopening
  | slice _ => cases hopening
  | ref _ _ => cases hopening

-- Arrays and slices start alike and are told apart by what follows the element.

/-- What closes an array follows a type. -/
theorem follows_array_closing (rest : Text) : Follows ("; ?]" ++ rest) := by
  simp [Opens, typeEnds]

theorem follows_slice_closing (rest : Text) : Follows ("]" ++ rest) := by
  simp [Opens, typeEnds]

/-- An array and a slice are closed differently. -/
theorem array_closing_ne_slice_closing {rest more : Text} : "; ?]" ++ rest ≠ "]" ++ more := by
  intro h
  have hheads := congrArg (·.toList.head?) h
  simp at hheads

/-- An array is read back when its elements are. -/
theorem readsBack_array {element : TypeForm} (helement : element.Legible)
    (hread : element.ReadsBack) : (array element).ReadsBack := by
  intro other hother rest more hrest hmore heq
  have hopening := (Legible.array helement).opening_eq hother heq
  cases hother with
  | word _ _ _ => cases hopening
  | tuple _ => cases hopening
  | array hother =>
      simp only [text, Text.append_assoc, Text.append_right_inj] at heq
      obtain ⟨helements, hclosings⟩ := hread hother (follows_array_closing rest)
        (follows_array_closing more) heq
      exact ⟨congrArg array helements, (Text.append_right_inj _).1 hclosings⟩
  | slice hother =>
      simp only [text, Text.append_assoc, Text.append_right_inj] at heq
      obtain ⟨-, hclosings⟩ := hread hother (follows_array_closing rest)
        (follows_slice_closing more) heq
      exact absurd hclosings array_closing_ne_slice_closing
  | ref _ _ => cases hopening

theorem readsBack_slice {element : TypeForm} (helement : element.Legible)
    (hread : element.ReadsBack) : (slice element).ReadsBack := by
  intro other hother rest more hrest hmore heq
  have hopening := (Legible.slice helement).opening_eq hother heq
  cases hother with
  | word _ _ _ => cases hopening
  | tuple _ => cases hopening
  | array hother =>
      simp only [text, Text.append_assoc, Text.append_right_inj] at heq
      obtain ⟨-, hclosings⟩ := hread hother (follows_slice_closing rest)
        (follows_array_closing more) heq
      exact absurd hclosings.symm array_closing_ne_slice_closing
  | slice hother =>
      simp only [text, Text.append_assoc, Text.append_right_inj] at heq
      obtain ⟨helements, hclosings⟩ := hread hother (follows_slice_closing rest)
        (follows_slice_closing more) heq
      exact ⟨congrArg slice helements, (Text.append_right_inj _).1 hclosings⟩
  | ref _ _ => cases hopening

/-- A reference is read back when what it refers to is. -/
theorem readsBack_ref {region : Text} {mutability : Mutability} {target : TypeForm}
    (hregion : IsRegionWord region) (htarget : target.Legible) (hread : target.ReadsBack) :
    (ref region mutability target).ReadsBack := by
  intro other hother rest more hrest hmore heq
  have hopening := (Legible.ref hregion htarget).opening_eq hother heq
  cases hother with
  | word _ _ _ => cases hopening
  | tuple _ => cases hopening
  | array _ => cases hopening
  | slice _ => cases hopening
  | @ref otherRegion otherMutability otherTarget hotherRegion hotherTarget =>
      simp only [text, Text.append_assoc, Text.append_right_inj] at heq
      obtain ⟨hregions, htargets⟩ := hregion.append_inj hotherRegion
        (by simp [Opens, typeDelimiters]) (by simp [Opens, typeDelimiters]) heq
      rw [Text.append_right_inj] at htargets
      obtain ⟨hmutabilities, hforms⟩ :=
        Mutability.word_append_inj htarget hotherTarget hrest hmore htargets
      obtain ⟨hsame, hrests⟩ := hread hotherTarget hrest hmore hforms
      exact ⟨by rw [hregions, hmutabilities, hsame], hrests⟩

/-- A text determines its form, and where it ends. -/
theorem Legible.readsBack {form : TypeForm} (h : form.Legible) : form.ReadsBack := by
  induction h with
  | word hname hregions harguments ih => exact readsBack_word hname hregions harguments ih
  | tuple hitems ih => exact readsBack_tuple hitems ih
  | array helement ih => exact readsBack_array helement ih
  | slice helement ih => exact readsBack_slice helement ih
  | ref hregion htarget ih => exact readsBack_ref hregion htarget ih

/-- Different forms have different texts. -/
theorem Legible.text_inj {form other : TypeForm} (hform : form.Legible) (hother : other.Legible)
    (h : form.text = other.text) : form = other := by
  have hend : Follows "" := by simp [Opens]
  exact (hform.readsBack hother hend hend (congrArg (fun text : Text => text ++ "") h)).1

end TypeForm

end CrateListing
