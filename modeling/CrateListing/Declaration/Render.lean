import CrateListing.Options
import CrateListing.Statement.Render

/-!
# The text of declarations

A type shows its fields or variants, a global the function that computes it,
and a function its signature, its locals and its body.
-/

namespace CrateListing

/-! ## Types -/

/-- The text of a field. -/
def FieldDecl.render (scope : Scope) (field : FieldDecl) : Except InternalError Text := do
  let shown ← field.type.render scope
  match field.name with
  | none => return shown
  | some name => return name ++ " : " ++ shown

/-- The text of a variant. -/
def Variant.render (scope : Scope) (variant : Variant) : Except InternalError Text :=
  if variant.fields.isEmpty then .ok variant.name
  else do
    let shown ← variant.fields.mapM (FieldDecl.render scope)
    return variant.name ++ parenthesized shown

/-- The word in front of the name of a type. -/
def TypeBody.keyword : TypeBody → Text
  | .struct _ => "struct "
  | .enum _ => "enum "
  | .hidden => "opaque type "

/-- What stands behind the name and the generic parameters of a type. -/
def TypeBody.render (scope : Scope) (step : Text) : TypeBody → Except InternalError Text
  | .struct fields =>
      if fields.isEmpty then .ok " = \x7b\x7d"
      else do
        let shown ← fields.mapM (FieldDecl.render scope)
        return " =\n\x7b" ++ Text.join (shown.map fun field => "\n" ++ step ++ field ++ ",")
          ++ "\n\x7d"
  | .enum variants =>
      if variants.isEmpty then .ok " = !"
      else do
        let shown ← variants.mapM (Variant.render scope)
        return " =\n" ++ Text.intercalate "\n" (shown.map ("|  " ++ ·))
  | .hidden => .ok ""

/-- The text of a type declaration, for instance

```text
struct Pair<T> =
{
  fst : T,
  snd : T,
}

enum List<T> =
|  Cons(T, Box<List<T>>)
|  Nil
```
-/
def TypeDecl.render (scope : Scope) (step : Text) (decl : TypeDecl) :
    Except InternalError Text := do
  let inside ← decl.body.render scope step
  return decl.body.keyword ++ decl.name.joined
    ++ genericParams decl.regionParams decl.typeParams ++ inside

/-! ## Globals -/

/-- The text of a global. -/
def GlobalDecl.render (scope : Scope) (indent : Text) (decl : GlobalDecl) :
    Except InternalError Text := do
  let type ← decl.type.render scope
  let function ← scope.functionName decl.initializer
  return indent ++ "global " ++ decl.name.joined ++ " : " ++ type ++ " = " ++ function

/-! ## Functions -/

/-- The parameters of a function: the locals behind the return slot.  A negative end of the range
counts from the end of the locals. -/
def Body.parameters (body : Body) : List Local :=
  let stop := body.argCount + 1
  let stop := if stop < 0 then stop + body.locals.length else stop
  (body.locals.take stop.toNat).drop 1

/-- A parameter with the type from the signature. -/
def renderParameter (scope : Scope) (parameter : Local × Ty) : Except InternalError Text := do
  let type ← parameter.2.render scope
  return parameter.1.shown ++ " : " ++ type

/-- The line of a local. -/
def Local.render (scope : Scope) (indent : Text) (var : Local) : Except InternalError Text := do
  let type ← var.type.render scope
  return indent ++ var.shown ++ " : " ++ type ++ ";\n"

/-- The text of a function, for instance

```text
fn id<T>(x : T) -> T {
  var@0 : T;
  x : T;

  var@0 := move x;
  return
}
```
-/
def FunDecl.render (scope : Scope) (step indent : Text) (decl : FunDecl) :
    Except InternalError Text := do
  let signature := decl.signature
  let name := decl.name.joined ++ genericParams signature.regionParams signature.typeParams
  let result ← signature.output.render scope
  match decl.body with
  | none =>
      let inputs ← Ty.renderAll scope signature.inputs
      return indent ++ "opaque fn " ++ name ++ parenthesized inputs ++ " -> " ++ result
  | some body =>
      let parameters ← (body.parameters.zip signature.inputs).mapM (renderParameter scope)
      let locals ← body.locals.mapM (Local.render scope (indent ++ step))
      let statement ← body.statement.render scope step (indent ++ step)
      return block indent ("fn " ++ name ++ parenthesized parameters ++ " -> " ++ result)
        (Text.join locals ++ (if locals.isEmpty then ("" : Text) else "\n") ++ statement)

/-! ## Declarations of any kind -/

/-- The text of a declaration in its own scope. -/
def Declaration.renderIn (crate : Crate) (step : Text) :
    Declaration → Except InternalError Text
  | .type decl => decl.render (Scope.ofType crate decl) step
  | .global decl => decl.render (Scope.ofGlobal crate decl) ""
  | .function decl => decl.render (Scope.ofFunction crate decl) step ""

/-- The text of a declaration; an error is placed at the declaration. -/
def Declaration.render (crate : Crate) (step : Text) (decl : Declaration) :
    Except InternalError Text :=
  (decl.renderIn crate step).mapError fun error =>
    error.locate ⟨some decl.name.joined, decl.span⟩

end CrateListing
