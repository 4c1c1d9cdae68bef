import CrateListing.Proofs.Outcome
import CrateListing.Text.Encode

/-!
# Texts that can be encoded

A text can be encoded exactly when it has no surrogates in it.  Messages, in
which surrogates are written as escapes, can always be shown.

Main definitions:

- `Text.IsEncodable`: a text of characters.

Main results:

- Theorem `Text.succeeds_encode_iff`: which texts can be encoded.
- Theorem `Text.isEncodable_escapeSurrogates`: messages can be encoded.
-/

namespace CrateListing

open Outcome

namespace Text

/-- A text of characters, without surrogates. -/
def IsEncodable (text : Text) : Prop :=
  ∀ c ∈ text.toList, c.isSurrogate = false

instance (text : Text) : Decidable (IsEncodable text) :=
  decidable_of_iff (text.toList.all (fun c => !c.isSurrogate) = true) (by simp [IsEncodable])

/-- The text of a string has no surrogates. -/
theorem isEncodable_ofString (string : String) : IsEncodable string := by
  intro c hc
  obtain ⟨d, -, rfl⟩ := List.mem_map.1 hc
  rfl

/-- Two texts have no surrogates when neither has. -/
theorem isEncodable_append_iff {text other : Text} :
    IsEncodable (text ++ other) ↔ IsEncodable text ∧ IsEncodable other :=
  List.forall_mem_append

/-- Code points are encoded when there is no surrogate that stands for no byte. -/
theorem succeeds_encodeFrom_iff (byteOf? : Fin 0x800 → Option UInt8) (position : Nat)
    (list : List CodePoint) :
    Succeeds (encodeFrom byteOf? position list) ↔
      ∀ offset, .surrogate offset ∈ list → (byteOf? offset).isSome = true := by
  induction list generalizing position with
  | nil => simp [encodeFrom]
  | cons c rest ih =>
      cases c with
      | char c => simp [encodeFrom, succeeds_map, ih]
      | surrogate offset =>
          rw [encodeFrom]
          cases hbyte : byteOf? offset with
          | none =>
              simp only [not_succeeds_error, false_iff]
              intro hall
              have hsome := hall offset List.mem_cons_self
              rw [hbyte] at hsome
              cases hsome
          | some byte =>
              rw [succeeds_map, ih]
              simp [hbyte]

/-- The texts that can be encoded are those without surrogates. -/
theorem succeeds_encode_iff {text : Text} : Succeeds text.encode ↔ IsEncodable text := by
  rw [encode, succeeds_encodeFrom_iff]
  constructor
  · intro h c hc
    cases c with
    | char c => rfl
    | surrogate offset => exact absurd (h offset hc) Bool.false_ne_true
  · intro h offset hoffset
    exact absurd (h _ hoffset) (by simp [CodePoint.isSurrogate])

/-- A hexadecimal digit is no surrogate. -/
theorem isSurrogate_of_mem_hexDigits {width n : Nat} {c : CodePoint} (h : c ∈ hexDigits width n) :
    c.isSurrogate = false := by
  induction width generalizing n with
  | zero => cases h
  | succ width ih =>
      rw [hexDigits, List.mem_append, List.mem_singleton] at h
      rcases h with hfront | rfl
      · exact ih hfront
      · rw [hexDigit]
        split_ifs <;> rfl

/-- A message can be shown, whatever is in it. -/
theorem isEncodable_escapeSurrogates (text : Text) : IsEncodable text.escapeSurrogates := by
  intro c hc
  obtain ⟨d, -, hd⟩ := List.mem_flatMap.1 hc
  rw [escapeSurrogate] at hd
  by_cases hsurrogate : d.isSurrogate = true
  · rw [if_pos hsurrogate, List.mem_cons, List.mem_cons] at hd
    rcases hd with rfl | rfl | hdigits
    · rfl
    · rfl
    · exact isSurrogate_of_mem_hexDigits hdigits
  · rw [if_neg hsurrogate, List.mem_singleton] at hd
    rw [hd]
    simpa using hsurrogate

end Text
end CrateListing
