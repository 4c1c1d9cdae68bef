import CrateListing.Declaration.Render

/-!
# The listing of a crate

All declarations of a crate, or one of them.

Main definitions:

- `Crate.renderOne`: one declaration by its identifier.
- `Crate.render`: all declarations, with the messages on the way.
- `Crate.symbols`: the declarations by name and identifier.
-/

namespace CrateListing

/-- The fault of an identifier without a declaration of a kind. -/
def DeclKind.unknown : DeclKind → Int → Fault
  | .type => .unknownType
  | .global => .unknownGlobal
  | .function => .unknownFunction

/-- The mark of a function that is defined outside of the crate. -/
def Declaration.mark : Declaration → Text
  | .function decl => if decl.isExternal then " (opaque)" else ""
  | _ => ""

namespace Crate

/-- The text of the declaration with an identifier. -/
def renderOne (crate : Crate) (options : Options) (kind : DeclKind) (id : Int) :
    Except InternalError Text :=
  match crate.find? kind id with
  | none => .error ⟨kind.unknown id, none⟩
  | some decl => decl.render crate options.indentStep

/-- The text of a declaration of the listing.  There is none when the declaration fails and
failures are left out, in which case the failure is noted. -/
def renderEntry (crate : Crate) (options : Options) (decl : Declaration) :
    Logged InternalError (Option Text) := do
  Logged.note .debug ("Printing '" ++ decl.name.joined ++ "'")
  match decl.render crate options.indentStep with
  | .ok text => return some text
  | .error error =>
      if options.keepGoing then
        Logged.note .error error.format
        return none
      else Logged.fail error

/-- The texts of the declarations of the listing. -/
def renderEntries (crate : Crate) (options : Options) :
    List Declaration → Logged InternalError (List Text)
  | [] => pure []
  | decl :: rest => do
      let text ← crate.renderEntry options decl
      let texts ← crate.renderEntries options rest
      return text.toList ++ texts

/-- The number of declarations in words. -/
def sizeText (crate : Crate) : Text :=
  Text.natural crate.size ++ " declaration(s)"

/-- The listing: the declarations in order, with blank lines between them. -/
def render (crate : Crate) (options : Options) : Logged InternalError Text := do
  Logged.note .info ("Printing crate '" ++ crate.shownName ++ "' (" ++ crate.sizeText ++ ")")
  let texts ← crate.renderEntries options crate.declarations
  return Text.intercalate "\n\n" texts

/-! ## The symbol table -/

/-- A text with blanks behind it up to a width. -/
def padRight (width : Nat) (text : Text) : Text :=
  text ++ Text.ofList (List.replicate (width - text.length) ' ')

/-- The line of a declaration in the symbol table. -/
def symbolLine (decl : Declaration) : Text :=
  "    " ++ padRight 4 (Text.decimal decl.id) ++ " " ++ decl.name.joined ++ decl.mark

/-- The lines of a group of the symbol table. -/
def symbolGroup (heading : Text) (decls : List Declaration) : List Text :=
  ("  " ++ heading ++ ":") :: if decls.isEmpty then ["    <none>"] else decls.map symbolLine

/-- The symbol table. -/
def symbols (crate : Crate) : Text :=
  Text.intercalate "\n"
    (("=== crate " ++ crate.shownName ++ " ===")
      :: (symbolGroup "types" (crate.ofKind .type)
        ++ symbolGroup "globals" (crate.ofKind .global)
        ++ symbolGroup "functions" (crate.ofKind .function)))

end Crate
end CrateListing
