import CrateListing.Text.Printable
import CrateListing.Text.Basic

/-!
# Quoted words

A word shown inside a message is put in quotes so that its ends can be seen.
Apostrophes are used unless the word has an apostrophe and no double quote.
Backslashes, the chosen quote and unprintable characters are written as
escapes.
-/

namespace CrateListing
namespace Text

/-- One lower-case hexadecimal digit. -/
def hexDigit (n : Nat) : CodePoint :=
  if n < 10 then Char.ofNat (0x30 + n) else Char.ofNat (0x57 + n)

/-- The `width` lowest hexadecimal digits of a number. -/
def hexDigits : (width : Nat) → Nat → List CodePoint
  | 0, _ => []
  | width + 1, n => hexDigits width (n / 16) ++ [hexDigit (n % 16)]

/-- The mark put around a word. -/
def quoteMark (word : List CodePoint) : CodePoint :=
  if word.contains '\x27' && !word.contains '"' then '"' else '\x27'

/-- One character of a quoted word. -/
def quoteChar (mark c : CodePoint) : List CodePoint :=
  if c = mark || c = '\\' then ['\\', c]
  else if c = '\t' then ['\\', 't']
  else if c = '\n' then ['\\', 'n']
  else if c = '\r' then ['\\', 'r']
  else if isPrintable c then [c]
  else if c.toNat < 0x100 then '\\' :: 'x' :: hexDigits 2 c.toNat
  else if c.toNat < 0x10000 then '\\' :: 'u' :: hexDigits 4 c.toNat
  else '\\' :: 'U' :: hexDigits 8 c.toNat

/-- A word between quotes. -/
def quoted (word : Text) : Text :=
  let mark := quoteMark word.toList
  Text.ofList (mark :: word.toList.flatMap (quoteChar mark) ++ [mark])

end Text
end CrateListing
