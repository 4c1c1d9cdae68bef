import CrateListing.Span
import CrateListing.Text.Numeral

/-!
# Internal errors

A listing fails when a declaration refers to something that the crate does not
declare.  The error carries what was looked up in vain and, as far as known,
where.

Main definitions:

- `Fault`, `InternalError`: what failed, and where.
- `InternalError.refine?`, `InternalError.locate`: adding what is known about the place.
- `InternalError.format`: the line shown to the user.
-/

namespace CrateListing

/-- What was looked up in vain. -/
inductive Fault where
  | unknownLocal (id : Int)
  | unknownTypeParam (id : Int)
  | unknownRegionParam (id : Int)
  | unknownType (id : Int)
  | unknownFunction (id : Int)
  | unknownGlobal (id : Int)
  | unknownVariant (owner : Text) (id : Int)
  /-- A field of a type that is not a struct was asked for without a variant. -/
  | notStruct (owner : Text) (id : Int)
  | unknownField (owner : Text) (id : Int)
  /-- A fault described in words. -/
  | described (text : Text)
deriving DecidableEq, Repr

namespace Fault

/-- What was looked up, and its identifier. -/
def lookup (what : Text) (id : Int) : Text :=
  what ++ " id " ++ Text.decimal id

/-- The wording of a fault. -/
def message : Fault → Text
  | .unknownLocal id => lookup "[ICE-0010] unknown local variable" id
  | .unknownTypeParam id => lookup "[ICE-0020] unknown type parameter" id
  | .unknownRegionParam id => lookup "[ICE-0030] unknown region parameter" id
  | .unknownType id => lookup "[ICE-0040] unknown type declaration" id
  | .unknownFunction id => lookup "[ICE-0050] unknown function declaration" id
  | .unknownGlobal id => lookup "[ICE-0060] unknown global declaration" id
  | .unknownVariant owner id => lookup ("[ICE-0070] unknown variant of '" ++ owner ++ "'") id
  | .notStruct owner id =>
      lookup ("[ICE-0080] field projection without variant on non-struct '" ++ owner ++ "'") id
  | .unknownField owner id => lookup ("[ICE-0080] unknown field of '" ++ owner ++ "'") id
  | .described text => text

end Fault

/-- Where an error arose, as far as known. -/
structure Location where
  declName : Option Text
  span : Option Span
deriving DecidableEq, Repr

/-- An error in a crate that was found while working on it. -/
structure InternalError where
  fault : Fault
  location : Option Location
deriving DecidableEq, Repr

/-- A name that is there and not empty. -/
def nonEmpty? (name : Option Text) : Option Text :=
  name.filter fun text => !text.isEmpty

namespace InternalError

/-- The first name, unless it is missing or empty and the second one stands in. -/
def chooseName (known new : Option Text) : Option Text :=
  match nonEmpty? known with
  | some name => some name
  | none => new

/-- Adds what is known about the place; a part that is already known stays.  There is no result
when nothing is added. -/
def refine? (error : InternalError) (location : Location) : Option InternalError :=
  match error.location with
  | none => some { error with location := some location }
  | some known =>
      let declName := chooseName known.declName location.declName
      let span := known.span.or location.span
      if declName = known.declName ∧ (known.span.isSome ∨ location.span.isNone) then none
      else some { error with location := some ⟨declName, span⟩ }

/-- The error with what is known about its place. -/
def locate (error : InternalError) (location : Location) : InternalError :=
  (error.refine? location).getD error

/-- Whether one text occurs inside another. -/
def occursIn (part : List CodePoint) : List CodePoint → Bool
  | [] => part.isEmpty
  | c :: rest => part.isPrefixOf (c :: rest) || occursIn part rest

/-- The message with an error code, added where the message has none. -/
def codedMessage (error : InternalError) : Text :=
  let message := error.fault.message
  if occursIn ("[ICE-" : Text).toList message.toList then message else "[ICE-9999] " ++ message

/-- The place in the source, when its file is known. -/
def spanText : Option Span → Text
  | none => ""
  | some span =>
      match nonEmpty? span.file with
      | none => ""
      | some file =>
          file ++ ":" ++ Text.decimal span.startLine ++ ":" ++ Text.decimal span.startColumn ++ ": "

/-- The declaration, when its name is known. -/
def declText (declName : Option Text) : Text :=
  match nonEmpty? declName with
  | none => ""
  | some name => "in '" ++ name ++ "': "

/-- What is shown of a place. -/
def locationText : Option Location → Text
  | none => ""
  | some location => spanText location.span ++ declText location.declName

/-- The line shown to the user. -/
def format (error : InternalError) : Text :=
  locationText error.location ++ "internal printer error: " ++ error.codedMessage

end InternalError
end CrateListing
