import CrateListing.Text.Quoted

/-!
# String literals

A string literal of the JSON format.  Quotes, backslashes and control characters
are written as escapes; which of the other characters stand for themselves is
the writer's choice, and the rest are written by their UTF-16 code units.
-/

namespace CrateListing
namespace Json

/-- One UTF-16 code unit. -/
def escapeUnit (unit : Nat) : List CodePoint :=
  '\\' :: 'u' :: Text.hexDigits 4 unit

/-- A character by its one or two UTF-16 code units. -/
def escapeUnits (c : CodePoint) : List CodePoint :=
  let code := c.toNat
  if code < 0x10000 then escapeUnit code
  else
    escapeUnit (0xd800 + (code - 0x10000) / 0x400)
      ++ escapeUnit (0xdc00 + (code - 0x10000) % 0x400)

/-- The letter of a short escape. -/
def shortEscape? (c : CodePoint) : Option CodePoint :=
  if c = '"' then some '"'
  else if c = '\\' then some '\\'
  else if c = '\n' then some 'n'
  else if c = '\r' then some 'r'
  else if c = '\t' then some 't'
  else if c = '\x0c' then some 'f'
  else if c = '\x08' then some 'b'
  else none

/-- One character inside a literal; `plain` tells which characters stand for themselves. -/
def escape (plain : CodePoint → Bool) (c : CodePoint) : List CodePoint :=
  match shortEscape? c with
  | some letter => ['\\', letter]
  | none => if plain c then [c] else escapeUnits c

/-- The printable ASCII characters. -/
def isAscii (c : CodePoint) : Bool :=
  decide (0x20 ≤ c.toNat) && decide (c.toNat ≤ 0x7e)

/-- Every character that is not a C0 control. -/
def isText (c : CodePoint) : Bool :=
  decide (0x20 ≤ c.toNat)

/-- The inside of a literal. -/
def escapeAll (plain : CodePoint → Bool) (text : Text) : List CodePoint :=
  text.toList.flatMap (escape plain)

/-- A literal with its quotes. -/
def quote (plain : CodePoint → Bool) (text : Text) : Text :=
  Text.ofList (.char '"' :: escapeAll plain text ++ [.char '"'])

end Json
end CrateListing
