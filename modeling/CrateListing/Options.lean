import CrateListing.Log

/-!
# Options

What the user may choose about a listing.
-/

namespace CrateListing

/-- Choices for a listing. -/
structure Options where
  /-- What a nested block is indented by. -/
  indentStep : Text := "  "
  /-- Whether a declaration that cannot be shown is left out instead of ending the listing. -/
  keepGoing : Bool := false
  /-- Whether messages carry the time and their level. -/
  stampedLog : Bool := false
  /-- The least important messages that are shown. -/
  logLevel : Level := .warning
deriving DecidableEq, Repr

/-- Why there is no indentation of a wanted width. -/
inductive IndentError where
  /-- The width is not given. -/
  | missing
  /-- The width does not fit into a machine word. -/
  | outOfRange
  /-- There is no room for so many spaces. -/
  | tooLong
deriving DecidableEq, Repr

/-- The wording of the reason; there is none for a lack of room. -/
def IndentError.message : IndentError → Text
  | .missing => "can't multiply sequence by non-int of type 'list'"
  | .outOfRange => "cannot fit 'int' into an index-sized integer"
  | .tooLong => ""

namespace Options

/-- How the log is shown. -/
def logStyle (options : Options) : Log.Style :=
  ⟨options.logLevel, options.stampedLog⟩

/-- The level of a log for a number of requests for more messages. -/
def levelOfVerbosity (verbosity : Int) : Level :=
  if verbosity ≥ 3 then .debug else if verbosity ≥ 1 then .info else .error

/-- The first number that is too large for a machine word with a sign. -/
def wordEnd : Int := Int.pow 2 63

/-- A step of so many spaces; a negative number counts as none.  `hasRoom` tells for how many
spaces there is memory. -/
def spaces (hasRoom : Nat → Bool) : Option Int → Except IndentError Text
  | none => .error .missing
  | some count =>
      if count < -wordEnd ∨ wordEnd ≤ count then .error .outOfRange
      else if 0 < count ∧ hasRoom count.toNat = false then .error .tooLong
      else .ok (Text.ofList (List.replicate count.toNat ' '))

/-- The options that stand for command line flags. -/
def ofFlags (hasRoom : Nat → Bool) (verbosity : Int) (indent : Option Int)
    (keepGoing stampedLog : Bool) : Except IndentError Options := do
  let step ← spaces hasRoom indent
  return { indentStep := step
           keepGoing := keepGoing
           stampedLog := stampedLog
           logLevel := levelOfVerbosity verbosity }

end Options
end CrateListing
