import CrateListing.Crate.Decode
import CrateListing.Proofs.Outcome

/-!
# Reading node by node

The readers of types, constants and statements call each other on the parts of a
value.  Here each of them is put in the form that the other readers have: first
the shape of the value is read, and then its parts, each by its own reader.

Main results:

- Theorems `Ty.ofJson_eq`, `Constant.ofJson_eq`, `Content.ofJson_eq` and `Switch.ofJson_eq`: a
  tag and its payload are read.
- Theorem `Statement.ofJson_eq`: the members of an object are read.
- Theorems `Ty.allOfJson_eq_mapM`, `Constant.allOfJson_eq_mapM` and
  `Switch.integerBranches_eq_mapM`: the items of an array are read.
- Theorem `Crate.outcome_ofJson`: the parts of a crate in the order in which they are read.
-/

namespace CrateListing

open Outcome

/-! ## Types -/

/-- Reads a type from its tag and its payload. -/
def Ty.ofTagged (tag : Text) (payload : Json) : Except Rejection Ty := do
  if tag = "Adt" then
    let (head, regions, types) ← payload.asTriple "Adt"
    let head ← TypeHead.ofJson head
    let regions ← Region.listOfJson "regions" regions
    return .adt head regions (← Ty.listOfJson "types" types)
  else if tag = "Array" then return .array (← Ty.ofJson payload)
  else if tag = "Slice" then return .slice (← Ty.ofJson payload)
  else if tag = "Ref" then
    let (region, target, kind) ← payload.asTriple "Ref"
    let region ← Region.ofJson region
    let target ← Ty.ofJson target
    return .ref region target (← kind.asNamed "reference kind" Mutability.table)
  else Ty.ofSimpleTag tag payload

/-- An object with one member is a type with a tag and a payload. -/
theorem Ty.ofJson_obj (tag : Text) (payload : Json) :
    Ty.ofJson (.obj [(tag, payload)]) = Ty.ofTagged tag payload := by
  unfold Ty.ofJson Ty.ofTagged
  split_ifs
  · unfold Json.asTriple
    split
    · rename_i types
      cases types <;> rfl
    · simp
  · rfl
  · rfl
  · unfold Json.asTriple
    split <;> simp
  · rfl

/-- A text is a type with a tag and no payload. -/
theorem Ty.ofJson_str (tag : Text) : Ty.ofJson (.str tag) = Ty.ofTagged tag .null := by
  rw [Ty.ofJson]
  by_cases hadt : tag = "Adt"
  · subst hadt
    rfl
  by_cases href : tag = "Ref"
  · subst href
    rfl
  by_cases harray : tag = "Array"
  · subst harray
    rfl
  by_cases hslice : tag = "Slice"
  · subst hslice
    rfl
  simp [Ty.ofBareTag, Ty.ofTagged, hadt, href, harray, hslice]

/-- A type is read from its tag and its payload. -/
theorem Ty.ofJson_eq (json : Json) :
    Ty.ofJson json = (do
      let found ← json.asTagged "type"
      Ty.ofTagged found.1 found.2) := by
  unfold Json.asTagged
  split
  · exact Ty.ofJson_str _
  · exact Ty.ofJson_obj _ _
  · rw [Ty.ofJson, error_bind] <;> assumption

/-- The types in a list are read one after the other. -/
theorem Ty.allOfJson_eq_mapM (items : List Json) : Ty.allOfJson items = items.mapM Ty.ofJson := by
  induction items with
  | nil => rfl
  | cons item rest ih => rw [Ty.allOfJson, List.mapM_cons, ih]

/-! ## Constants -/

/-- Reads a constant from its tag and its payload. -/
def Constant.ofTagged (tag : Text) (payload : Json) : Except Rejection Constant := do
  if tag = "Adt" then
    let (variant, fields) ← payload.asPair "constant Adt"
    let variant ← variant.asInteger? "variant id"
    let fields ← fields.asArray "constant fields"
    return .adt variant (← Constant.allOfJson fields)
  else Constant.ofSimpleTag tag payload

/-- An object with one member is a constant with a tag and a payload. -/
theorem Constant.ofJson_obj (tag : Text) (payload : Json) :
    Constant.ofJson (.obj [(tag, payload)]) = Constant.ofTagged tag payload := by
  unfold Constant.ofJson Constant.ofTagged
  split_ifs
  · unfold Json.asPair
    split
    · rename_i fields
      cases fields <;> rfl
    · simp
  · rfl

/-- A text is a constant with a tag and no payload. -/
theorem Constant.ofJson_str (tag : Text) :
    Constant.ofJson (.str tag) = Constant.ofTagged tag .null := by
  rw [Constant.ofJson]
  by_cases hadt : tag = "Adt"
  · subst hadt
    rfl
  simp [Constant.ofBareTag, Constant.ofTagged, hadt]

/-- A constant is read from its tag and its payload. -/
theorem Constant.ofJson_eq (json : Json) :
    Constant.ofJson json = (do
      let found ← json.asTagged "constant value"
      Constant.ofTagged found.1 found.2) := by
  unfold Json.asTagged
  split
  · exact Constant.ofJson_str _
  · exact Constant.ofJson_obj _ _
  · rw [Constant.ofJson, error_bind] <;> assumption

/-- The constants in a list are read one after the other. -/
theorem Constant.allOfJson_eq_mapM (items : List Json) :
    Constant.allOfJson items = items.mapM Constant.ofJson := by
  induction items with
  | nil => rfl
  | cons item rest ih => rw [Constant.allOfJson, List.mapM_cons, ih]

/-! ## Choices -/

/-- Reads a branch: its labels and its statement. -/
def Switch.branchOfJson {α : Type} (readLabels : Json → Except Rejection (List α)) (json : Json) :
    Except Rejection (List α × Statement) := do
  let (labels, body) ← json.asPair "branch"
  let labels ← readLabels labels
  return (labels, ← Statement.ofJson body)

/-- The clauses on integers are read one after the other. -/
theorem Switch.integerBranches_eq_mapM (items : List Json) :
    Switch.integerBranches items = items.mapM (Switch.branchOfJson Switch.integerLabels) := by
  induction items with
  | nil => rfl
  | cons item rest ih =>
      rw [List.mapM_cons, ← ih, Switch.branchOfJson]
      unfold Json.asPair
      split
      · rw [Switch.integerBranches]
        simp only [ok_bind, bind_assoc, pure_bind]
      · rw [Switch.integerBranches] <;> [rfl; assumption]

/-- The clauses on variants are read one after the other. -/
theorem Switch.variantBranches_eq_mapM (items : List Json) :
    Switch.variantBranches items = items.mapM (Switch.branchOfJson Switch.variantLabels) := by
  induction items with
  | nil => rfl
  | cons item rest ih =>
      rw [List.mapM_cons, ← ih, Switch.branchOfJson]
      unfold Json.asPair
      split
      · rw [Switch.variantBranches]
        simp only [ok_bind, bind_assoc, pure_bind]
      · rw [Switch.variantBranches] <;> [rfl; assumption]

/-- Reads a choice from its tag and its payload. -/
def Switch.ofTagged (tag : Text) (payload : Json) : Except Rejection Switch := do
  if tag = "If" then
    let (condition, onTrue, onFalse) ← payload.asTriple "If"
    let condition ← Operand.ofJson condition
    let onTrue ← Statement.ofJson onTrue
    return .branch condition onTrue (← Statement.ofJson onFalse)
  else if tag = "SwitchInt" then
    let (operand, type, branches, otherwise) ← payload.asQuadruple "SwitchInt"
    let operand ← Operand.ofJson operand
    let type ← IntegerType.ofJson type
    let branches ← Switch.integerBranches (← branches.asArray "branches")
    return .integer operand type branches (← Statement.ofJson otherwise)
  else if tag = "Match" then
    let (place, branches, otherwise) ← payload.asTriple "Match"
    let place ← Place.ofJson place
    let branches ← Switch.variantBranches (← branches.asArray "branches")
    return .variant place branches (← Statement.ofJson otherwise)
  else throw (.unknownTag "switch" tag)

/-- An object with one member is a switch with a tag and a payload. -/
theorem Switch.ofJson_obj (tag : Text) (payload : Json) :
    Switch.ofJson (.obj [(tag, payload)]) = Switch.ofTagged tag payload := by
  unfold Switch.ofJson Switch.ofTagged Switch.misfit
  split_ifs
  · unfold Json.asTriple
    split <;> simp
  · unfold Json.asQuadruple
    split
    · rename_i branches _
      cases branches <;> rfl
    · simp
  · unfold Json.asTriple
    split
    · rename_i branches _
      cases branches <;> rfl
    · simp
  · rfl

/-- A text is a switch with a tag and no payload. -/
theorem Switch.ofJson_str (tag : Text) :
    Switch.ofJson (.str tag) = Switch.ofTagged tag .null := by
  unfold Switch.ofJson Switch.ofTagged Switch.misfit
  split_ifs <;> rfl

/-- A choice is read from its tag and its payload. -/
theorem Switch.ofJson_eq (json : Json) :
    Switch.ofJson json = (do
      let found ← json.asTagged "switch"
      Switch.ofTagged found.1 found.2) := by
  unfold Json.asTagged
  split
  · exact Switch.ofJson_str _
  · exact Switch.ofJson_obj _ _
  · rw [Switch.ofJson, error_bind] <;> assumption

/-! ## Statements -/

/-- Reads what a statement does from its tag and its payload. -/
def Content.ofTagged (tag : Text) (payload : Json) : Except Rejection Content := do
  match Action.ofTag? tag payload with
  | some read => read.map .action
  | none =>
      if tag = "Sequence" then
        let (first, second) ← payload.asPair "Sequence"
        let first ← Statement.ofJson first
        return .sequence first (← Statement.ofJson second)
      else if tag = "Switch" then return .switch (← Switch.ofJson payload)
      else if tag = "Loop" then return .loop (← Statement.ofJson payload)
      else throw (.unknownTag "statement" tag)

/-- An object with one member is a content with a tag and a payload. -/
theorem Content.ofJson_obj (tag : Text) (payload : Json) :
    Content.ofJson (.obj [(tag, payload)]) = Content.ofTagged tag payload := by
  unfold Content.ofJson Content.ofTagged Content.misfit
  cases Action.ofTag? tag payload with
  | some read => rfl
  | none =>
      simp only
      split_ifs
      · unfold Json.asPair
        split <;> simp
      · rfl
      · rfl
      · rfl

/-- A text is a content with a tag and no payload. -/
theorem Content.ofJson_str (tag : Text) :
    Content.ofJson (.str tag) = Content.ofTagged tag .null := by
  unfold Content.ofJson Content.ofTagged Content.misfit
  cases Action.ofTag? tag .null with
  | some read => rfl
  | none =>
      simp only
      split_ifs <;> rfl

/-- What a statement does is read from its tag and its payload. -/
theorem Content.ofJson_eq (json : Json) :
    Content.ofJson json = (do
      let found ← json.asTagged "statement"
      Content.ofTagged found.1 found.2) := by
  unfold Json.asTagged
  split
  · exact Content.ofJson_str _
  · exact Content.ofJson_obj _ _
  · rw [Content.ofJson, error_bind] <;> assumption

/-- The content of a statement is read from its member, which has to be there. -/
theorem Content.ofMembers_eq (whole : Json) (members : List (Text × Json)) :
    Content.ofMembers whole members =
      match Assoc.find? ("content" : Text) members with
      | some value => Content.ofJson value
      | none => .error (.unmet (.member "content") whole) := by
  induction members with
  | nil => rfl
  | cons member rest ih =>
      obtain ⟨key, value⟩ := member
      rw [Content.ofMembers, Assoc.find?]
      by_cases hkey : key = "content"
      · simp [hkey]
      · simp [hkey, ih]

/-- A statement is read from the members of its object. -/
theorem Statement.ofJson_eq (json : Json) :
    Statement.ofJson json = (do
      let members ← json.asObject "statement"
      let content ← Content.ofJson (← Json.member "content" members)
      let span ← Span.ofJson? (Json.memberOrNull "span" members)
      return .mk span content) := by
  cases json with
  | obj members =>
      rw [Statement.ofJson, Content.ofMembers_eq, Json.asObject, ok_bind]
      unfold Json.member
      cases Assoc.find? ("content" : Text) members <;> rfl
  | null => rfl
  | bool value => rfl
  | int value => rfl
  | real value => rfl
  | str value => rfl
  | arr items => rfl

/-! ## Crates -/

/-- The outcome of reading one section of a crate. -/
theorem Crate.outcome_sectionOfJson {α : Type} (key word : Text)
    (decode : Json → Except Rejection α) (members : List (Text × Json)) :
    (Crate.sectionOfJson key word decode members).outcome = (do
      let items ← Json.itemsOf key members
      items.mapM decode) := by
  simp only [Crate.sectionOfJson, Logged.outcome_bind, Logged.ofExcept, Logged.outcome_pure]
  refine bind_congr fun items => ?_
  cases items.mapM decode <;> rfl

/-- The outcome of reading a crate: its name, then its types, globals and functions. -/
theorem Crate.outcome_ofJson (json : Json) :
    (Crate.ofJson json).outcome = (do
      let members ← json.asObject "crate"
      let name ← Crate.nameOfJson (Json.memberOrNull "name" members)
      let types ← (← Json.itemsOf "types" members).mapM TypeDecl.ofJson
      let globals ← (← Json.itemsOf "globals" members).mapM GlobalDecl.ofJson
      let functions ← (← Json.itemsOf "functions" members).mapM FunDecl.ofJson
      return Crate.ofDeclarations name types globals functions) := by
  simp only [Crate.ofJson, Logged.outcome_bind, Logged.ofExcept, Logged.outcome_pure,
    Crate.outcome_sectionOfJson, bind_assoc, pure_eq_ok]

end CrateListing
