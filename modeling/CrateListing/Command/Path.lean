import CrateListing.Text.Encode

/-!
# File paths

A path is a root and the names on the way from it.  Empty names and `.` add
nothing; `..` is kept, since a name before it may be a link.  The operating
system is asked for the bytes of a path.
-/

namespace CrateListing

/-- A file path. -/
structure Path where
  /-- Empty for a path from the working directory, otherwise one or two slashes. -/
  root : Text
  names : List Text
deriving DecidableEq, Repr

/-- A path as the operating system gets it. -/
structure RawPath where
  bytes : List UInt8
deriving DecidableEq, Repr

/-- Why the operating system cannot be asked for a path. -/
inductive PathFault where
  | unencodable (fault : Text.EncodeFault)
  /-- The path has a NUL character in it. -/
  | nullByte
deriving DecidableEq, Repr

/-- The wording of the reason. -/
def PathFault.message : PathFault → Text
  | .unencodable fault => fault.message
  | .nullByte => "embedded null byte"

namespace Path

/-- The root of a path: exactly two slashes at the front are kept apart from one. -/
def rootOf (text : Text) : Text :=
  match (text.toList.takeWhile (· = .char '/')).length with
  | 0 => ""
  | 2 => "//"
  | _ => "/"

/-- Reads a path. -/
def parse (text : Text) : Path where
  root := rootOf text
  names := (text.split '/').filter fun name => name ≠ "" ∧ name ≠ "."

/-- The text of a path; the working directory itself is `.`. -/
def shown (path : Path) : Text :=
  if path.root = "" ∧ path.names.isEmpty then "."
  else path.root ++ Text.intercalate "/" path.names

/-- What the operating system is asked for. -/
def encode (path : Path) : Except PathFault RawPath :=
  match path.shown.encodeName with
  | .error fault => .error (.unencodable fault)
  | .ok bytes => if bytes.contains 0 then .error .nullByte else .ok ⟨bytes⟩

end Path
end CrateListing
