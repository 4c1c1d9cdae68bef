import CrateListing.Json.Value
import CrateListing.Text.Numeral
import CrateListing.Text.Newline

/-!
# Reading JSON

The JSON grammar, with the names `NaN`, `Infinity` and `-Infinity` allowed as
numbers.  Of several members with one key the last value counts, at the first
position.

A reader returns what it read together with the text that is left.  A complaint
points at the place where the text starts that could not be read.

Main definitions:

- `readString`: a string literal behind its opening quote.
- `readNumber`: an integer or a number with a fraction or an exponent.
- `readValue`: a value of any kind.
- `parse`: a whole document.
-/

namespace CrateListing
namespace Json

/-- What is wrong with a JSON text. -/
inductive Complaint where
  | value
  | propertyName
  | colon
  | comma
  | extraData
  | unterminatedString
  | controlCharacter
  | escape
  | unicodeEscape
  | byteOrderMark
deriving DecidableEq, Repr

/-- The wording of a complaint. -/
def Complaint.message : Complaint → Text
  | .value => "Expecting value"
  | .propertyName => "Expecting property name enclosed in double quotes"
  | .colon => "Expecting ':' delimiter"
  | .comma => "Expecting ',' delimiter"
  | .extraData => "Extra data"
  | .unterminatedString => "Unterminated string starting at"
  | .controlCharacter => "Invalid control character at"
  | .escape => "Invalid \\escape"
  | .unicodeEscape => "Invalid \\uXXXX escape"
  | .byteOrderMark => "Unexpected UTF-8 BOM (decode using utf-8-sig)"

/-- Why reading stopped inside a text. -/
inductive Stop where
  /-- The text from the faulty place on. -/
  | complaint (what : Complaint) (rest : List CodePoint)
  /-- An integer literal has more digits than are read. -/
  | tooManyDigits (digits : Nat)
deriving DecidableEq, Repr

/-- Space, tab, line feed and carriage return may surround every token. -/
def isSpace (c : CodePoint) : Bool :=
  c = ' ' || c = '\t' || c = '\n' || c = '\r'

/-- The text without the space at its front. -/
def skipSpace (text : List CodePoint) : List CodePoint :=
  text.dropWhile isSpace

/-! ## Strings -/

/-- The value of a hexadecimal digit. -/
def hexValue? (c : CodePoint) : Option Nat :=
  if '0' ≤ c ∧ c ≤ '9' then some (c.toNat - 0x30)
  else if 'a' ≤ c ∧ c ≤ 'f' then some (c.toNat - 0x57)
  else if 'A' ≤ c ∧ c ≤ 'F' then some (c.toNat - 0x37)
  else none

/-- The code unit with the given hexadecimal digits. -/
def unit? (a b c d : CodePoint) : Option Nat := do
  let a ← hexValue? a
  let b ← hexValue? b
  let c ← hexValue? c
  let d ← hexValue? d
  return ((a * 16 + b) * 16 + c) * 16 + d

/-- The code unit at the front of a text.  A literal never ends right behind an escape, so some
text has to follow. -/
def leadingUnit? : List CodePoint → Option Nat
  | a :: b :: c :: d :: _ :: _ => unit? a b c d
  | _ => none

/-- A first half of a surrogate pair. -/
def isHighSurrogate (unit : Nat) : Bool :=
  decide (0xd800 ≤ unit) && decide (unit ≤ 0xdbff)

/-- A second half of a surrogate pair. -/
def isLowSurrogate (unit : Nat) : Bool :=
  decide (0xdc00 ≤ unit) && decide (unit ≤ 0xdfff)

/-- The code point of a surrogate pair. -/
def joinSurrogates (high low : Nat) : Nat :=
  0x10000 + (high - 0xd800) * 0x400 + (low - 0xdc00)

/-- The character behind a short escape. -/
def unescape? (letter : CodePoint) : Option CodePoint :=
  if letter = '"' ∨ letter = '\\' ∨ letter = '/' then some letter
  else if letter = 'b' then some '\x08'
  else if letter = 'f' then some '\x0c'
  else if letter = 'n' then some '\n'
  else if letter = 'r' then some '\r'
  else if letter = 't' then some '\t'
  else none

/-- What an escape behind a backslash reads as: a code point and how many code points it takes.
Half of a surrogate pair without the other half stands for itself.
`opening` is the text from the opening quote of the literal on and `backslash` the text from the
backslash on. -/
def readEscape (opening backslash : List CodePoint) : List CodePoint → Except Stop (CodePoint × Nat)
  | [] => .error (.complaint .unterminatedString opening)
  | letter :: rest =>
      if letter ≠ 'u' then
        match unescape? letter with
        | some c => .ok (c, 1)
        | none => .error (.complaint .escape backslash)
      else
        match leadingUnit? rest with
        | none => .error (.complaint .unicodeEscape (letter :: rest))
        | some unit =>
            match isHighSurrogate unit, rest.drop 4 with
            | true, .char '\\' :: .char 'u' :: second =>
                match leadingUnit? second with
                | none => .error (.complaint .unicodeEscape ('u' :: second))
                | some low =>
                    if isLowSurrogate low then .ok (.ofNat (joinSurrogates unit low), 11)
                    else .ok (.ofNat unit, 5)
            | _, _ => .ok (.ofNat unit, 5)

/-- The code points of a string literal and what follows its closing quote.  `opening` is the text
from the opening quote on, and `skip` the number of code points that an escape has used up. -/
def readString (opening : List CodePoint) : (skip : Nat) → List CodePoint →
    Except Stop (List CodePoint × List CodePoint)
  | _, [] => .error (.complaint .unterminatedString opening)
  | skip + 1, _ :: rest => readString opening skip rest
  | 0, c :: rest =>
      if c = '"' then .ok ([], rest)
      else if c.toNat < 0x20 then .error (.complaint .controlCharacter (c :: rest))
      else if c = '\\' then do
        let (meant, length) ← readEscape opening (c :: rest) rest
        let (chars, after) ← readString opening length rest
        return (meant :: chars, after)
      else do
        let (chars, after) ← readString opening 0 rest
        return (c :: chars, after)

/-! ## Numbers -/

/-- The number with the given ASCII digits. -/
def digitsValue (digits : List CodePoint) : Nat :=
  Text.ofDigits (digits.map fun c => c.toNat - 0x30)

/-- The digits before the point: a zero alone, or digits that do not start with zero. -/
def splitWhole : List CodePoint → List CodePoint × List CodePoint
  | .char '0' :: rest => (['0'], rest)
  | text => (text.takeWhile CodePoint.isDigit, text.dropWhile CodePoint.isDigit)

/-- The digits behind a point, if there are any. -/
def splitFraction : List CodePoint → List CodePoint × List CodePoint
  | .char '.' :: rest =>
      if (rest.takeWhile CodePoint.isDigit).isEmpty then ([], '.' :: rest)
      else (rest.takeWhile CodePoint.isDigit, rest.dropWhile CodePoint.isDigit)
  | text => ([], text)

/-- The value of an exponent part, if there is one. -/
def splitExponent (text : List CodePoint) : Option Int × List CodePoint :=
  match text with
  | mark :: rest =>
      if mark ≠ 'e' ∧ mark ≠ 'E' then (none, text)
      else
        let (negative, body) := Text.splitSign rest
        let digits := body.takeWhile CodePoint.isDigit
        if digits.isEmpty then (none, text)
        else
          let value : Int := digitsValue digits
          (some (if negative then -value else value), body.dropWhile CodePoint.isDigit)
  | [] => (none, text)

/-- A number, and what follows it.  Without fraction and exponent it is an integer. -/
def readNumber (text : List CodePoint) : Except Stop (Json × List CodePoint) :=
  let (negative, body) :=
    match text with
    | .char '-' :: rest => (true, rest)
    | _ => (false, text)
  let (whole, afterWhole) := splitWhole body
  if whole.isEmpty then .error (.complaint .value text)
  else
    let (fraction, afterFraction) := splitFraction afterWhole
    let (exponent, rest) := splitExponent afterFraction
    if fraction.isEmpty ∧ exponent = none then
      if whole.length > Text.digitLimit then .error (.tooManyDigits whole.length)
      else
        let value : Int := digitsValue whole
        .ok (.int (if negative then -value else value), rest)
    else
      let scale : Int := exponent.getD 0 - (fraction.length : Int)
      .ok (.real (Binary64.ofDecimal negative (digitsValue (whole ++ fraction)) scale), rest)

/-! ## Values -/

/-- What a text may start with that is neither a string, an array nor an object, and what it
means. -/
def words : List (Text × Json) :=
  [("null", .null), ("true", .bool true), ("false", .bool false), ("NaN", .real .nan),
   ("Infinity", .real (.infinite false)), ("-Infinity", .real (.infinite true))]

/-- A name or a number. -/
def readWord (text : List CodePoint) : Except Stop (Json × List CodePoint) :=
  match words.find? fun word => word.1.toList.isPrefixOf text with
  | some (word, meaning) => .ok (meaning, text.drop word.length)
  | none => readNumber text

mutual
/-- A value at the front of a text.  The first argument bounds the number of steps. -/
def readValue : Nat → List CodePoint → Except Stop (Json × List CodePoint)
  | 0, text => .error (.complaint .value text)
  | steps + 1, text =>
      match text with
      | .char '"' :: rest => do
          let (chars, after) ← readString text 0 rest
          return (.str (Text.ofList chars), after)
      | .char '[' :: rest =>
          match skipSpace rest with
          | .char ']' :: after => .ok (.arr [], after)
          | inside => do
              let (items, after) ← readItems steps inside
              return (.arr items, after)
      | .char '\x7b' :: rest =>
          match skipSpace rest with
          | .char '\x7d' :: after => .ok (.obj [], after)
          | inside => do
              let (members, after) ← readMembers steps inside
              return (.obj (Assoc.ofList members), after)
      | _ => readWord text

/-- The items of an array up to its closing bracket. -/
def readItems : Nat → List CodePoint → Except Stop (List Json × List CodePoint)
  | 0, text => .error (.complaint .value text)
  | steps + 1, text => do
      let (item, afterItem) ← readValue steps text
      match skipSpace afterItem with
      | .char ']' :: after => return ([item], after)
      | .char ',' :: more =>
          let (items, after) ← readItems steps (skipSpace more)
          return (item :: items, after)
      | rest => throw (.complaint .comma rest)

/-- The members of an object up to its closing brace. -/
def readMembers : Nat → List CodePoint → Except Stop (List (Text × Json) × List CodePoint)
  | 0, text => .error (.complaint .value text)
  | steps + 1, text =>
      match text with
      | .char '"' :: rest => do
          let (chars, afterKey) ← readString text 0 rest
          match skipSpace afterKey with
          | .char ':' :: afterColon =>
              let (value, afterValue) ← readValue steps (skipSpace afterColon)
              let member := (Text.ofList chars, value)
              match skipSpace afterValue with
              | .char '\x7d' :: after => return ([member], after)
              | .char ',' :: more =>
                  let (members, after) ← readMembers steps (skipSpace more)
                  return (member :: members, after)
              | rest => throw (.complaint .comma rest)
          | rest => throw (.complaint .colon rest)
      | _ => .error (.complaint .propertyName text)
end

/-! ## Documents -/

/-- Why a text is not a JSON document. -/
inductive ParseError where
  | complaint (what : Complaint) (line column : Nat)
  | tooManyDigits (digits : Nat)
deriving DecidableEq, Repr

/-- Turns the place where reading stopped into a line and a column. -/
def Stop.toParseError (text : List CodePoint) : Stop → ParseError
  | .complaint what rest =>
      let (line, column) := Text.lineColumn (text.take (text.length - rest.length))
      .complaint what line column
  | .tooManyDigits digits => .tooManyDigits digits

/-- The value of a document: one value with nothing but space around it.  Every step of the
reader uses up a character or is followed by one that does, which bounds their number. -/
def read (text : List CodePoint) : Except Stop Json := do
  if text.head? = some (.char '\ufeff') then throw (.complaint .byteOrderMark text)
  let (value, after) ← readValue (2 * text.length + 2) (skipSpace text)
  let rest := skipSpace after
  if rest.isEmpty then return value
  else throw (.complaint .extraData rest)

/-- The value of a document, or what is wrong with it and where. -/
def parse (text : List CodePoint) : Except ParseError Json :=
  (read text).mapError (Stop.toParseError text)

end Json
end CrateListing
