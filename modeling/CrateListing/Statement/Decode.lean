import CrateListing.Statement.Basic
import CrateListing.Expression.Decode

/-!
# Reading statements

Spans and statements from their JSON form.
-/

namespace CrateListing

/-! ## Spans -/

/-- Reads a position: its line and its column. -/
def Span.positionOfMembers (members : List (Text × Json)) : Except Rejection (Int × Int) := do
  let line ← (← Json.member "line" members).asInteger "line"
  let column ← (← Json.member "col" members).asInteger "column"
  return (line, column)

/-- Reads a span, which may be missing. -/
def Span.ofJson? : Json → Except Rejection (Option Span)
  | .null => .ok none
  | json => do
      let members ← json.asObject "span"
      let start ← (← Json.member "beg" members).asObject "span start"
      let stop ← (← Json.member "end" members).asObject "span end"
      let (startLine, startColumn) ← Span.positionOfMembers start
      let (endLine, endColumn) ← Span.positionOfMembers stop
      let file ← (Json.memberOrNull "file" members).asString? "file"
      return some ⟨startLine, startColumn, endLine, endColumn, file⟩

/-! ## Statements -/

/-- The action that a tag stands for, unless the tag stands for another kind of statement. -/
def Action.ofTag? (tag : Text) (payload : Json) : Option (Except Rejection Action) :=
  if tag = "Assign" then some do
    let (place, value) ← payload.asPair "Assign"
    let place ← Place.ofJson place
    return .assign place (← Rvalue.ofJson value)
  else if tag = "FakeRead" then some do return .fakeRead (← Place.ofJson payload)
  else if tag = "SetDiscriminant" then some do
    let (place, variant) ← payload.asPair "SetDiscriminant"
    let place ← Place.ofJson place
    return .setDiscriminant place (← variant.asInteger "variant id")
  else if tag = "Drop" then some do return .drop (← Place.ofJson payload)
  else if tag = "Assert" then some do return .assert (← Assertion.ofJson payload)
  else if tag = "Call" then some do return .call (← Call.ofJson payload)
  else if tag = "Panic" then some (.ok .panic)
  else if tag = "Return" then some (.ok .ret)
  else if tag = "Break" then some do return .brk (← payload.asInteger "break depth")
  else if tag = "Continue" then some do return .cont (← payload.asInteger "continue depth")
  else if tag = "Nop" then some (.ok .nop)
  else none

/-- Why a tagged value is not a statement that holds other statements, given that it is none. -/
def Content.misfit (tag : Text) (payload : Json) : Rejection :=
  if tag = "Sequence" then Json.misfit 2 "Sequence" payload
  else if tag = "Switch" then .unmet (.tagged "switch") payload
  else if tag = "Loop" then .unmet (.object "statement") payload
  else .unknownTag "statement" tag

/-- Why a tagged value is not a choice, given that it is none. -/
def Switch.misfit (tag : Text) (payload : Json) : Rejection :=
  if tag = "If" then Json.misfit 3 "If" payload
  else if tag = "SwitchInt" then Json.misfit 4 "SwitchInt" payload
  else if tag = "Match" then Json.misfit 3 "Match" payload
  else .unknownTag "switch" tag

/-- Reads the integer labels of a branch. -/
def Switch.integerLabels (json : Json) : Except Rejection (List Scalar) := do
  let items ← json.asArray "branch labels"
  items.mapM Scalar.ofJson

/-- Reads the variant labels of a branch. -/
def Switch.variantLabels (json : Json) : Except Rejection (List Int) := do
  let items ← json.asArray "branch labels"
  items.mapM (Json.asInteger "variant id")

mutual
/-- Reads a statement. -/
def Statement.ofJson : Json → Except Rejection Statement
  | .obj members => do
      let content ← Content.ofMembers (.obj members) members
      let span ← Span.ofJson? (Json.memberOrNull "span" members)
      return .mk span content
  | other => .error (.unmet (.object "statement") other)

/-- Reads what a statement does from the members of its object. -/
def Content.ofMembers (whole : Json) : List (Text × Json) → Except Rejection Content
  | [] => .error (.unmet (.member "content") whole)
  | (key, value) :: rest =>
      if key = "content" then Content.ofJson value else Content.ofMembers whole rest

/-- Reads what a statement does. -/
def Content.ofJson : Json → Except Rejection Content
  | .str tag =>
      match Action.ofTag? tag .null with
      | some action => action.map .action
      | none => .error (Content.misfit tag .null)
  | .obj [(tag, payload)] =>
      match Action.ofTag? tag payload with
      | some action => action.map .action
      | none =>
          if tag = "Sequence" then
            match payload with
            | .arr [first, second] => do
                let first ← Statement.ofJson first
                return .sequence first (← Statement.ofJson second)
            | other => .error (Content.misfit tag other)
          else if tag = "Switch" then do return .switch (← Switch.ofJson payload)
          else if tag = "Loop" then do return .loop (← Statement.ofJson payload)
          else .error (Content.misfit tag payload)
  | other => .error (.unmet (.tagged "statement") other)

/-- Reads a choice. -/
def Switch.ofJson : Json → Except Rejection Switch
  | .str tag => .error (Switch.misfit tag .null)
  | .obj [(tag, payload)] =>
      if tag = "If" then
        match payload with
        | .arr [condition, onTrue, onFalse] => do
            let condition ← Operand.ofJson condition
            let onTrue ← Statement.ofJson onTrue
            return .branch condition onTrue (← Statement.ofJson onFalse)
        | other => .error (Switch.misfit tag other)
      else if tag = "SwitchInt" then
        match payload with
        | .arr [operand, type, branches, otherwise] => do
            let operand ← Operand.ofJson operand
            let type ← IntegerType.ofJson type
            match branches with
            | .arr items =>
                let branches ← Switch.integerBranches items
                return .integer operand type branches (← Statement.ofJson otherwise)
            | other => throw (.unmet (.array "branches") other)
        | other => .error (Switch.misfit tag other)
      else if tag = "Match" then
        match payload with
        | .arr [place, branches, otherwise] => do
            let place ← Place.ofJson place
            match branches with
            | .arr items =>
                let branches ← Switch.variantBranches items
                return .variant place branches (← Statement.ofJson otherwise)
            | other => throw (.unmet (.array "branches") other)
        | other => .error (Switch.misfit tag other)
      else .error (Switch.misfit tag payload)
  | other => .error (.unmet (.tagged "switch") other)

/-- Reads branches with integer labels. -/
def Switch.integerBranches : List Json → Except Rejection (List (List Scalar × Statement))
  | [] => .ok []
  | .arr [labels, body] :: rest => do
      let labels ← Switch.integerLabels labels
      let body ← Statement.ofJson body
      let more ← Switch.integerBranches rest
      return (labels, body) :: more
  | other :: _ => .error (Json.misfit 2 "branch" other)

/-- Reads branches with variant labels. -/
def Switch.variantBranches : List Json → Except Rejection (List (List Int × Statement))
  | [] => .ok []
  | .arr [labels, body] :: rest => do
      let labels ← Switch.variantLabels labels
      let body ← Statement.ofJson body
      let more ← Switch.variantBranches rest
      return (labels, body) :: more
  | other :: _ => .error (Json.misfit 2 "branch" other)
end

end CrateListing
