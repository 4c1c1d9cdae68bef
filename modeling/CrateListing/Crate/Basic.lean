import CrateListing.Declaration.Basic
import CrateListing.Table

/-!
# Crates

A crate is a table of declarations of each kind.  The tables are indexed by the
identifiers of the declarations and keep the order in which these first
appeared; of several declarations with one identifier the last one counts.
-/

namespace CrateListing

/-- A crate. -/
structure Crate where
  name : Option Text := none
  types : Table TypeDecl := Table.empty
  globals : Table GlobalDecl := Table.empty
  functions : Table FunDecl := Table.empty
deriving Repr

namespace Crate

/-- The crate with the given declarations. -/
def ofDeclarations (name : Option Text) (types : List TypeDecl) (globals : List GlobalDecl)
    (functions : List FunDecl) : Crate :=
  { name := name
    types := Table.ofItems TypeDecl.id types
    globals := Table.ofItems GlobalDecl.id globals
    functions := Table.ofItems FunDecl.id functions }

/-- The number of declarations. -/
def size (crate : Crate) : Nat :=
  crate.types.size + crate.functions.size + crate.globals.size

/-- The declarations of one kind, in order. -/
def ofKind (crate : Crate) : DeclKind → List Declaration
  | .type => crate.types.values.map .type
  | .global => crate.globals.values.map .global
  | .function => crate.functions.values.map .function

/-- All declarations: types, then globals, then functions. -/
def declarations (crate : Crate) : List Declaration :=
  crate.ofKind .type ++ crate.ofKind .global ++ crate.ofKind .function

/-- The declaration of a kind with an identifier. -/
def find? (crate : Crate) (kind : DeclKind) (id : Int) : Option Declaration :=
  match kind with
  | .type => (crate.types.find? id).map .type
  | .global => (crate.globals.find? id).map .global
  | .function => (crate.functions.find? id).map .function

/-- The first declaration of a kind with a qualified name. -/
def findNamed? (crate : Crate) (kind : DeclKind) (name : Text) : Option Declaration :=
  (crate.ofKind kind).find? fun decl => decl.name.joined = name

/-- How the crate is called; a crate without a name is anonymous. -/
def shownName (crate : Crate) : Text :=
  match crate.name with
  | none => "<anonymous>"
  | some name => if name.isEmpty then "<anonymous>" else name

end Crate
end CrateListing
