import CrateListing.Crate.Render
import CrateListing.Statement.Rebuild

/-!
# Drops of variables of type `!`

A variable of type `!` never holds a value, so dropping it does nothing.  This
pass replaces such drops by `nop` in every function of a crate.

Main definitions:

- `NeverDrop.discard`: what happens to one statement.
- `Crate.removeNeverDrops`: the pass.
-/

namespace CrateListing
namespace NeverDrop

/-- Whether a statement drops a whole variable of type `!`.  The variable has to be declared. -/
def isNeverDrop (locals : Table Local) : Statement → Except InternalError Bool
  | .mk span (.action (.drop ⟨root, []⟩)) =>
      match locals.find? root with
      | some var => .ok var.type.isNever
      | none => .error ⟨.unknownLocal root, some ⟨none, span⟩⟩
  | _ => .ok false

/-- Replaces a statement that drops a variable of type `!`. -/
def discard (locals : Table Local) (statement : Statement) : Except InternalError Statement := do
  if ← isNeverDrop locals statement then return .mk statement.span (.action .nop)
  else return statement

/-- The message with the body of a function before the pass. -/
def announce (crate : Crate) (options : Options) (decl : FunDecl) (body : Body) :
    Logged InternalError Unit := do
  let text ← Logged.ofExcept
    (body.statement.render (Scope.ofFunction crate decl) options.indentStep "")
  Logged.note .debug
    ("# About to remove drops of variables with type ! in decl: " ++ decl.name.joined ++ ":\n"
      ++ text)

/-- The pass on the body of a function.  The body is shown first when such messages are wanted. -/
def inBody (crate : Crate) (options : Options) (decl : FunDecl) (body : Body) :
    Logged InternalError FunDecl := do
  if options.logLevel.admits .debug then announce crate options decl body
  let statement ← Logged.ofExcept
    (body.statement.rebuildM (discard (Table.ofItems Local.index body.locals)))
  return { decl with body := some { body with statement := statement } }

/-- The pass on a function; an error is placed at the function. -/
def inFunction (crate : Crate) (options : Options) (decl : FunDecl) :
    Logged InternalError FunDecl :=
  match decl.body with
  | none => pure decl
  | some body =>
      (inBody crate options decl body).mapError fun error =>
        error.locate ⟨some decl.name.joined, decl.span⟩

/-- The pass on functions, one after the other. -/
def inFunctions (crate : Crate) (options : Options) :
    List (Int × FunDecl) → Logged InternalError (List (Int × FunDecl))
  | [] => pure []
  | (id, decl) :: rest => do
      let decl ← inFunction crate options decl
      let rest ← inFunctions crate options rest
      return (id, decl) :: rest

end NeverDrop

/-- The crate without drops of variables of type `!`. -/
def Crate.removeNeverDrops (crate : Crate) (options : Options) : Logged InternalError Crate := do
  Logged.emit (Log.stage "Removing drops of variables of type !" "")
  let functions ← NeverDrop.inFunctions crate options crate.functions.entries
  return { crate with functions := Table.ofEntries functions }

end CrateListing
