import CrateListing.Crate.Basic
import CrateListing.Declaration.Decode
import CrateListing.Log

/-!
# Reading crates

A crate is an object with a name and the lists of its types, globals and
functions; each of these may be missing.
-/

namespace CrateListing
namespace Crate

/-- Reads the name of a crate, which may be missing. -/
def nameOfJson : Json → Except Rejection (Option Text)
  | .null => .ok none
  | .str name => .ok (some name)
  | other => .error (.unmet .crateName other)

/-- Reads one section of a crate and tells how many declarations it has. -/
def sectionOfJson {α : Type} (key word : Text) (decode : Json → Except Rejection α)
    (members : List (Text × Json)) : Logged Rejection (List α) := do
  let items ← Logged.ofExcept (Json.itemsOf key members)
  let decls ← Logged.ofExcept (items.mapM decode)
  Logged.note .debug ("Loaded " ++ Text.natural decls.length ++ " " ++ word ++ " declaration(s)")
  return decls

/-- Reads a crate. -/
def ofJson (json : Json) : Logged Rejection Crate := do
  let members ← Logged.ofExcept (json.asObject "crate")
  let name ← Logged.ofExcept (nameOfJson (Json.memberOrNull "name" members))
  let types ← sectionOfJson "types" "type" TypeDecl.ofJson members
  let globals ← sectionOfJson "globals" "global" GlobalDecl.ofJson members
  let functions ← sectionOfJson "functions" "function" FunDecl.ofJson members
  return ofDeclarations name types globals functions

end Crate
end CrateListing
