import CrateListing.Text.Basic

/-!
# UTF-8

Decoding of a byte sequence, one byte at a time.  A fault is reported at the
first byte of the sequence that cannot be decoded, with the reason.

Main definitions:

- `Sequence`: a character of several bytes of which some have been read.
- `Sequence.ofLead?`: what a first byte announces.
- `decodeUtf8`: the characters of a byte sequence.
-/

namespace CrateListing
namespace Text

/-- Why bytes are not UTF-8. -/
inductive Utf8Reason where
  | invalidStart
  | invalidContinuation
  | unexpectedEnd
deriving DecidableEq, Repr

/-- The wording of a reason. -/
def Utf8Reason.message : Utf8Reason → Text
  | .invalidStart => "invalid start byte"
  | .invalidContinuation => "invalid continuation byte"
  | .unexpectedEnd => "unexpected end of data"

/-- A place where decoding stopped. -/
structure Utf8Fault where
  offset : Nat
  reason : Utf8Reason
deriving DecidableEq, Repr

/-- A character of several bytes of which some have been read. -/
structure Sequence where
  /-- The offset of the first byte. -/
  start : Nat
  /-- The bits read so far. -/
  bits : Nat
  /-- The least value that the next byte may have. -/
  low : Nat
  /-- The greatest value that the next byte may have. -/
  high : Nat
  /-- How many bytes follow the next one. -/
  more : Nat

/-- What the first byte of a sequence of two, three or four bytes announces.  The ranges of the
second byte leave out overlong forms, surrogates and code points above U+10FFFF. -/
def Sequence.ofLead? (start b : Nat) : Option Sequence :=
  if 0xc2 ≤ b ∧ b ≤ 0xdf then some ⟨start, b - 0xc0, 0x80, 0xbf, 0⟩
  else if b = 0xe0 then some ⟨start, 0, 0xa0, 0xbf, 1⟩
  else if b = 0xed then some ⟨start, 0xd, 0x80, 0x9f, 1⟩
  else if 0xe1 ≤ b ∧ b ≤ 0xef then some ⟨start, b - 0xe0, 0x80, 0xbf, 1⟩
  else if b = 0xf0 then some ⟨start, 0, 0x90, 0xbf, 2⟩
  else if 0xf1 ≤ b ∧ b ≤ 0xf3 then some ⟨start, b - 0xf0, 0x80, 0xbf, 2⟩
  else if b = 0xf4 then some ⟨start, 4, 0x80, 0x8f, 2⟩
  else none

/-- Decodes bytes from the given offset on, in the middle of a sequence or between two. -/
def decodeUtf8From :
    (offset : Nat) → Option Sequence → List UInt8 → Except Utf8Fault (List CodePoint)
  | _, none, [] => .ok []
  | _, some pending, [] => .error ⟨pending.start, .unexpectedEnd⟩
  | offset, none, b :: rest =>
      if b.toNat < 0x80 then
        (decodeUtf8From (offset + 1) none rest).map (.char (Char.ofNat b.toNat) :: ·)
      else
        match Sequence.ofLead? offset b.toNat with
        | none => .error ⟨offset, .invalidStart⟩
        | some pending => decodeUtf8From (offset + 1) (some pending) rest
  | offset, some pending, b :: rest =>
      let bits := 64 * pending.bits + b.toNat % 64
      if b.toNat < pending.low ∨ pending.high < b.toNat then
        .error ⟨pending.start, .invalidContinuation⟩
      else
        match pending.more with
        | 0 => (decodeUtf8From (offset + 1) none rest).map (.char (Char.ofNat bits) :: ·)
        | more + 1 =>
            decodeUtf8From (offset + 1) (some ⟨pending.start, bits, 0x80, 0xbf, more⟩) rest

/-- The characters of a byte sequence. -/
def decodeUtf8 (bytes : List UInt8) : Except Utf8Fault (List CodePoint) :=
  decodeUtf8From 0 none bytes

end Text
end CrateListing
