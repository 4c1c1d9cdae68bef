import CrateListing.Crate.Decode
import CrateListing.Crate.Render

/-!
# Crate files

From the bytes of a file to a crate.  A file holds UTF-8 text; line ends are
normalised before the text is read as JSON.
-/

namespace CrateListing

/-- Why the bytes of a file cannot be had. -/
inductive ReadError where
  /-- There is no such file. -/
  | missing
  /-- The operating system refuses, for the reason it gives. -/
  | refused (reason : Text)
deriving DecidableEq, Repr

/-- Why a crate file is not loaded. -/
inductive LoadFailure where
  | unreadable (error : ReadError)
  | rejected (error : LoadError)
  /-- The file has an integer literal with too many digits. -/
  | tooManyDigits (digits : Nat)
deriving Repr

namespace Crate

/-- The JSON value in a file. -/
def jsonOfBytes (path : Text) (bytes : List UInt8) : Except LoadFailure Json :=
  match Text.decodeUtf8 bytes with
  | .error fault => .error (.rejected ⟨.notUtf8 fault, some path⟩)
  | .ok text =>
      match Json.parse (Text.normalizeNewlines text) with
      | .ok json => .ok json
      | .error (.complaint what line column) =>
          .error (.rejected ⟨.notJson what line column, some path⟩)
      | .error (.tooManyDigits digits) => .error (.tooManyDigits digits)

/-- Loads a crate from what reading its file gave. -/
def load (path : Text) (content : Except ReadError (List UInt8)) : Logged LoadFailure Crate := do
  Logged.emit (Log.stage "Loading crate" path)
  let bytes ← Logged.ofExcept (content.mapError .unreadable)
  let json ← Logged.ofExcept (jsonOfBytes path bytes)
  let crate ← (ofJson json).mapError fun rejection => .rejected ⟨rejection, some path⟩
  Logged.note .info ("Loaded " ++ crate.sizeText ++ " from " ++ path)
  return crate

end Crate
end CrateListing
