import CrateListing.Text.Numeral

/-!
# Encoding texts

The bytes of a text are its UTF-8 encoding, in which a surrogate has no place.
A text that holds one cannot be printed or written to a file.  There are two ways
around this: in the names of files some surrogates stand for bytes that are no
UTF-8, and in messages surrogates are written as escapes.

Main definitions:

- `Text.encode`: the bytes of a text.
- `Text.encodeName`: the bytes of the name of a file.
- `Text.escapeSurrogates`: a text that can always be encoded.
-/

namespace CrateListing

/-- Half a surrogate pair. -/
def CodePoint.isSurrogate : CodePoint → Bool
  | char _ => false
  | surrogate _ => true

namespace Text

/-- Why a text cannot be encoded: surrogates in a row. -/
structure EncodeFault where
  /-- The number of code points in front of them. -/
  start : Nat
  first : CodePoint
  count : Nat
deriving DecidableEq, Repr

/-- The wording of the reason. -/
def EncodeFault.message (fault : EncodeFault) : Text :=
  if fault.count = 1 then
    "'utf-8' codec can't encode character '\\u" ++ ofList (hexDigits 4 fault.first.toNat)
      ++ "' in position " ++ natural fault.start ++ ": surrogates not allowed"
  else
    "'utf-8' codec can't encode characters in position " ++ natural fault.start ++ "-"
      ++ natural (fault.start + fault.count - 1) ++ ": surrogates not allowed"

/-- The bytes of code points from the given position on.  Some surrogates may stand for a byte. -/
def encodeFrom (byteOf? : Fin 0x800 → Option UInt8) :
    (position : Nat) → List CodePoint → Except EncodeFault (List UInt8)
  | _, [] => .ok []
  | position, .char c :: rest =>
      (encodeFrom byteOf? (position + 1) rest).map (String.utf8EncodeChar c ++ ·)
  | position, .surrogate offset :: rest =>
      match byteOf? offset with
      | some byte => (encodeFrom byteOf? (position + 1) rest).map (byte :: ·)
      | none =>
          .error ⟨position, .surrogate offset, (rest.takeWhile CodePoint.isSurrogate).length + 1⟩

/-- The bytes of a text. -/
def encode (text : Text) : Except EncodeFault (List UInt8) :=
  encodeFrom (fun _ => none) 0 text.toList

/-- The byte from 0x80 on that a surrogate from U+DC80 on stands for. -/
def byteOfSurrogate? (offset : Fin 0x800) : Option UInt8 :=
  if 0x480 ≤ offset.val ∧ offset.val < 0x500 then some (UInt8.ofNat (offset.val - 0x400)) else none

/-- The bytes of the name of a file. -/
def encodeName (name : Text) : Except EncodeFault (List UInt8) :=
  encodeFrom byteOfSurrogate? 0 name.toList

/-- A code point, or the escape that stands for it. -/
def escapeSurrogate (c : CodePoint) : List CodePoint :=
  if c.isSurrogate then '\\' :: 'u' :: hexDigits 4 c.toNat else [c]

/-- The text with escapes for its surrogates, which is how messages are shown. -/
def escapeSurrogates (text : Text) : Text :=
  ofList (text.toList.flatMap escapeSurrogate)

end Text
end CrateListing
