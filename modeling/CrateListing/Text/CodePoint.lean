/-!
# Code points

A text is a sequence of code points.  Beside the characters, these are the
surrogates, two of which stand for one character in UTF-16.  An escape in a
string literal can name half of such a pair, and so can the bytes of a file name
that are not UTF-8; a text may hold it, but there is no way to write it down.
-/

namespace CrateListing

/-- A code point. -/
inductive CodePoint where
  | char (c : Char)
  /-- Half of a surrogate pair, by its distance from the first one. -/
  | surrogate (offset : Fin 0x800)
deriving DecidableEq, Repr

namespace CodePoint

instance : Coe Char CodePoint :=
  ⟨char⟩

instance : Inhabited CodePoint :=
  ⟨char default⟩

/-- The number of a code point. -/
def toNat : CodePoint → Nat
  | char c => c.toNat
  | surrogate offset => 0xd800 + offset.val

/-- The code point with a number. -/
def ofNat (code : Nat) : CodePoint :=
  if h : 0xd800 ≤ code ∧ code < 0xe000 then surrogate ⟨code - 0xd800, by omega⟩
  else char (Char.ofNat code)

instance : LE CodePoint :=
  ⟨fun c d => c.toNat ≤ d.toNat⟩

instance (c d : CodePoint) : Decidable (c ≤ d) :=
  inferInstanceAs (Decidable (c.toNat ≤ d.toNat))

/-- An ASCII digit. -/
def isDigit (c : CodePoint) : Bool :=
  decide ('0' ≤ c) && decide (c ≤ '9')

/-- The lower-case letter of an ASCII letter; other code points stay. -/
def toLower : CodePoint → CodePoint
  | char c => char c.toLower
  | surrogate offset => surrogate offset

/-! ## Numbers of code points -/

/-- A character has its own number. -/
@[simp]
theorem toNat_char (c : Char) : (char c).toNat = c.toNat :=
  rfl

/-- The numbers of the ASCII digits. -/
theorem isDigit_iff {c : CodePoint} : c.isDigit = true ↔ 0x30 ≤ c.toNat ∧ c.toNat ≤ 0x39 := by
  rw [isDigit, Bool.and_eq_true, decide_eq_true_eq, decide_eq_true_eq]
  rfl

/-- Different characters are different code points. -/
theorem char_injective : Function.Injective char :=
  fun _ _ => char.inj

/-- No character has the number of a surrogate. -/
theorem not_surrogate_toNat (c : Char) : ¬ (0xd800 ≤ c.toNat ∧ c.toNat < 0xe000) := by
  have hvalid : c.toNat < 0xd800 ∨ 0xdfff < c.toNat ∧ c.toNat < 0x110000 := c.valid
  omega

/-- A code point is found again by its number. -/
@[simp]
theorem ofNat_toNat (c : CodePoint) : ofNat c.toNat = c := by
  cases c with
  | char c => rw [toNat_char, ofNat, dif_neg (not_surrogate_toNat c), Char.ofNat_toNat]
  | surrogate offset =>
      have hrange : 0xd800 ≤ 0xd800 + offset.val ∧ 0xd800 + offset.val < 0xe000 := by omega
      simp [toNat, ofNat, hrange]

/-- Code points with the same number are the same. -/
theorem toNat_inj {c d : CodePoint} : c.toNat = d.toNat ↔ c = d :=
  ⟨fun h => by rw [← ofNat_toNat c, h, ofNat_toNat], congrArg toNat⟩

end CodePoint
end CrateListing
