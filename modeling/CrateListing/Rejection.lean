import CrateListing.Json.Writer
import CrateListing.Json.Reader
import CrateListing.Text.Utf8

/-!
# Rejections

Why a file is not accepted as a crate.

Main definitions:

- `Expectation`: what a JSON value was expected to be.
- `Rejection`: the reasons, with one wording each.
- `LoadError`: a reason together with the file.
-/

namespace CrateListing

/-- What a JSON value was expected to be. -/
inductive Expectation where
  | object (what : Text)
  | array (what : Text)
  | elements (count : Nat) (what : Text)
  | integer (what : Text)
  | string (what : Text)
  | tagged (what : Text)
  | boolean
  | assertionOutcome
  | crateName
  | integerLiteral (text : Text)
  /-- An object with this member. -/
  | member (key : Text)
deriving DecidableEq, Repr

/-- The wording of an expectation that was not met. -/
def Expectation.message : Expectation → Text
  | .object what => "expected an object for " ++ what
  | .array what => "expected an array for " ++ what
  | .elements count what => "expected " ++ Text.natural count ++ " element(s) for " ++ what
  | .integer what => "expected an integer for " ++ what
  | .string what => "expected a string for " ++ what
  | .tagged what => "expected a tagged " ++ what
  | .boolean => "expected a boolean"
  | .assertionOutcome => "assertion 'expected' must be a boolean"
  | .crateName => "crate name must be a string"
  | .integerLiteral text => "invalid integer literal '" ++ text ++ "'"
  | .member key => "missing field '" ++ key ++ "'"

/-- Why a file is not accepted as a crate. -/
inductive Rejection where
  | unmet (wanted : Expectation) (got : Json)
  | unknownTag (what tag : Text)
  | notJson (what : Json.Complaint) (line column : Nat)
  | notUtf8 (fault : Text.Utf8Fault)
deriving Repr

namespace Rejection

/-- A text that is cut off when it is longer than sixty characters. -/
def abridged (text : Text) : Text :=
  if text.length > 60 then Text.ofList (text.toList.take 57) ++ "..." else text

/-- What was found instead; nothing is said about `null`. -/
def gotText : Json → Text
  | .null => ""
  | got => ", got " ++ abridged got.write

/-- The wording of a reason. -/
def message : Rejection → Text
  | .unmet wanted got => "[JSN-0020] " ++ wanted.message ++ gotText got
  | .unknownTag what tag => "[JSN-0030] unknown " ++ what ++ " '" ++ tag ++ "'"
  | .notJson what line column =>
      "[JSN-0010] invalid JSON at " ++ Text.natural line ++ ":" ++ Text.natural column ++ ": "
        ++ what.message
  | .notUtf8 fault =>
      "[JSN-0010] invalid UTF-8 at byte " ++ Text.natural fault.offset ++ ": "
        ++ fault.reason.message

end Rejection

/-- A rejection and the file that it concerns. -/
structure LoadError where
  rejection : Rejection
  file : Option Text
deriving Repr

/-- The line shown to the user. -/
def LoadError.format (error : LoadError) : Text :=
  match error.file with
  | none => "error: " ++ error.rejection.message
  | some file =>
      if file.isEmpty then "error: " ++ error.rejection.message
      else file ++ ": error: " ++ error.rejection.message

end CrateListing
