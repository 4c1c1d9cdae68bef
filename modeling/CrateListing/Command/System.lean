import CrateListing.Command.Path
import CrateListing.Crate.File

/-!
# The system around a run

What a run can do outside of itself: read a file and write one.  The system may
refuse either for reasons of its own.  A write that is refused leaves everything
as it was.  Memory for the indentation is all that a run can run out of; nesting
is not limited.
-/

namespace CrateListing

/-- A system whose files are in a state of the given type. -/
structure System (σ : Type) where
  /-- The contents of a file. -/
  read : σ → RawPath → Except ReadError (List UInt8)
  /-- The state in which a file has the given contents and nothing else was changed, or the reason
  why the file cannot be written. -/
  write : σ → RawPath → List UInt8 → Except Text σ
  /-- Whether there is memory for so many spaces in a row. -/
  hasRoom : Nat → Bool

end CrateListing
