import CrateListing.Constant.Render
import CrateListing.Json.Reader
import CrateListing.Proofs.OneLine
import Mathlib.Tactic.IntervalCases

/-!
# Reading literals

The inside of a literal is written character by character.  A character stands for
itself or is written as an escape, and where it ends can be told from what is
written: an escape starts with a backslash, and what is behind the backslash reads as
one character.  So a string literal is read back, whatever stands behind it, and a
literal of one character ends where it is seen to end.  The escape of an apostrophe is
no escape of strings, and is told from them by its second character.

Main definitions:

- `Json.Written`: a character and how it is written in a literal.

Main results:

- Theorem `Json.written_escape`: every character is written in this way.
- Theorem `Json.Written.append_inj`: a written character determines the character.
- Theorem `Json.readString_escapeAll`: a string literal is read back, and what is behind it.
- Theorem `literals_faithful`: string and character literals determine what they stand for.
-/

namespace CrateListing

open Outcome

namespace Json

/-! ## Code units by their digits -/

/-- A hexadecimal digit is read back. -/
theorem hexValue?_hexDigit {n : Nat} (h : n < 16) : hexValue? (Text.hexDigit n) = some n := by
  interval_cases n <;> rfl

/-- Four digits are read as the code unit that they are the digits of. -/
theorem leadingUnit?_hexDigits {unit : Nat} (h : unit < 0x10000) {rest : List CodePoint}
    (hrest : rest ≠ []) : leadingUnit? (Text.hexDigits 4 unit ++ rest) = some unit := by
  obtain ⟨next, more, rfl⟩ := List.exists_cons_of_ne_nil hrest
  have hdigit (n : Nat) : hexValue? (Text.hexDigit (n % 16)) = some (n % 16) :=
    hexValue?_hexDigit (Nat.mod_lt n (by decide))
  have hvalue : ((unit / 16 / 16 / 16 % 16 * 16 + unit / 16 / 16 % 16) * 16 + unit / 16 % 16) * 16
      + unit % 16 = unit := by omega
  simp [Text.hexDigits, leadingUnit?, unit?, hdigit, hvalue]

/-! ## Written characters -/

/-- A character and how it is written in a literal: by itself, or by an escape that is read as the
character wherever it stands. -/
inductive Written (c : CodePoint) : List CodePoint → Prop where
  | plain (hquote : c ≠ '"') (hbackslash : c ≠ '\\') (htext : isText c = true) : Written c [c]
  | escaped {body : List CodePoint}
      (hread : ∀ opening backslash rest, rest ≠ [] →
        readEscape opening backslash (body ++ rest) = .ok (c, body.length)) :
      Written c (.char '\\' :: body)

/-- The letter of a short escape is read as the character. -/
theorem unescape?_of_shortEscape? {c letter : CodePoint} (h : shortEscape? c = some letter) :
    letter ≠ 'u' ∧ unescape? letter = some c := by
  unfold shortEscape? at h
  split_ifs at h <;> cases h <;> subst c <;> decide

/-- A short escape is written for the character that it stands for. -/
theorem written_shortEscape {c letter : CodePoint} (h : shortEscape? c = some letter) :
    Written c ['\\', letter] := by
  obtain ⟨hletter, hmeant⟩ := unescape?_of_shortEscape? h
  refine .escaped fun opening backslash rest _ => ?_
  simp [readEscape, hletter, hmeant]

/-- A control character is written by its code unit, which is no half of a surrogate pair. -/
theorem written_escapeUnit {c : CodePoint} (h : c.toNat < 0x20) :
    Written c (escapeUnit c.toNat) := by
  refine .escaped fun opening backslash rest hrest => ?_
  have hunit := leadingUnit?_hexDigits (Nat.lt_trans h (by decide)) hrest
  have hhigh : isHighSurrogate c.toNat = false := by
    simp only [isHighSurrogate, Bool.and_eq_false_iff, decide_eq_false_iff_not]
    omega
  have hlength : (Text.hexDigits 4 c.toNat).length = 4 := rfl
  simp [readEscape, hunit, hhigh, hlength]

/-- Every character is written by itself or by an escape. -/
theorem written_escape (c : CodePoint) : Written c (escape isText c) := by
  unfold escape
  split
  · rename_i letter hletter
    exact written_shortEscape hletter
  · rename_i hshort
    split
    · rename_i htext
      have hplain : c ≠ '"' ∧ c ≠ '\\' := by
        constructor
        · rintro rfl
          cases hshort
        · rintro rfl
          cases hshort
      exact .plain hplain.1 hplain.2 htext
    · rename_i htext
      have hcontrol : c.toNat < 0x20 := by
        simpa [isText] using htext
      rw [escapeUnits]
      simp only [show c.toNat < 0x10000 by omega, if_true]
      exact written_escapeUnit hcontrol

/-- The first written character of a text, and what is behind it. -/
theorem Written.append_inj {c d : CodePoint} {text other rest more : List CodePoint}
    (hc : Written c text) (hd : Written d other) (hrest : rest ≠ []) (hmore : more ≠ [])
    (h : text ++ rest = other ++ more) : c = d ∧ rest = more := by
  cases hc with
  | plain hquote hbackslash htext =>
      cases hd with
      | plain => simpa using h
      | escaped hread => exact absurd (List.cons.inj h).1 hbackslash
  | @escaped body hread =>
      cases hd with
      | plain hquote hbackslash htext => exact absurd (List.cons.inj h).1.symm hbackslash
      | @escaped inside hother =>
          have hbodies : body ++ rest = inside ++ more := (List.cons.inj h).2
          have hchars : (c, body.length) = (d, inside.length) := by
            have hsame := hread [] [] rest hrest
            rw [hbodies, hother [] [] more hmore] at hsame
            exact (Except.ok.inj hsame).symm
          obtain ⟨hchar, hlength⟩ := Prod.mk.inj hchars
          exact ⟨hchar, (List.append_inj hbodies hlength).2⟩

/-! ## String literals -/

/-- What an escape has used up is passed over. -/
theorem readString_skip (opening text rest : List CodePoint) :
    readString opening text.length (text ++ rest) = readString opening 0 rest := by
  induction text with
  | nil => rfl
  | cons c text ih => exact ih

/-- A written character is read first. -/
theorem Written.readString {c : CodePoint} {text : List CodePoint} (h : Written c text)
    (opening : List CodePoint) {rest : List CodePoint} (hrest : rest ≠ []) :
    readString opening 0 (text ++ rest) = (do
      let (chars, after) ← readString opening 0 rest
      return (c :: chars, after)) := by
  cases h with
  | plain hquote hbackslash htext =>
      have hcontrol : ¬ c.toNat < 0x20 := by simpa [isText] using htext
      rw [List.singleton_append, Json.readString, if_neg hquote, if_neg hcontrol,
        if_neg hbackslash]
  | @escaped body hread =>
      have hescape := hread opening (.char '\\' :: (body ++ rest)) rest hrest
      rw [List.cons_append, Json.readString, if_neg (by decide), if_neg (by decide), if_pos rfl,
        hescape, ok_bind]
      simp only [readString_skip]

/-- A literal is read back from behind its opening quote, and what stands behind it is left. -/
theorem readString_escapeAll (opening rest : List CodePoint) (text : Text) :
    readString opening 0 (escapeAll isText text ++ .char '"' :: rest)
      = .ok (text.toList, rest) := by
  have hchars (chars : List CodePoint) :
      readString opening 0 (chars.flatMap (escape isText) ++ .char '"' :: rest)
        = .ok (chars, rest) := by
    induction chars with
    | nil => rfl
    | cons c chars ih =>
        rw [List.flatMap_cons, List.append_assoc,
          (written_escape c).readString opening (by simp), ih]
        rfl
  exact hchars text.toList

/-- Different texts have different escaped texts, since they are read back. -/
theorem escapeAll_injective : Function.Injective (escapeAll isText) := by
  intro text other h
  have hread := readString_escapeAll [] [] text
  rw [h, readString_escapeAll [] [] other] at hread
  exact Text.toList_inj.1 (Prod.mk.inj (Except.ok.inj hread)).1.symm

/-- The escape of an apostrophe is in no string literal. -/
theorem escapeAll_ne_apostrophe (text : Text) :
    escapeAll isText text ≠ [.char '\\', .char '\''] := by
  intro h
  have hread := readString_escapeAll [] [] text
  rw [h] at hread
  cases hread

end Json

/-- A string literal has its escaped characters between quotes. -/
theorem toList_stringLiteral (text : Text) :
    (stringLiteral text).toList
      = .char '"' :: (Json.escapeAll Json.isText text ++ [.char '"']) := by
  rw [stringLiteral, Json.quote, Text.toList_ofList, List.cons_append]

/-- A string literal is a JSON document for its string. -/
theorem parse_stringLiteral (text : Text) :
    Json.parse (stringLiteral text).toList = .ok (.str text) := by
  have hread := Json.readString_escapeAll (stringLiteral text).toList [] text
  rw [toList_stringLiteral] at hread ⊢
  have hvalue (steps : Nat) :
      Json.readValue (steps + 1) (.char '"' :: (Json.escapeAll Json.isText text ++ [.char '"']))
        = .ok (.str text, []) := by
    rw [Json.readValue, hread, ok_bind]
    simp [pure_eq_ok]
  have hspace : Json.skipSpace (.char '"' :: (Json.escapeAll Json.isText text ++ [.char '"']))
      = .char '"' :: (Json.escapeAll Json.isText text ++ [.char '"']) := rfl
  rw [Json.parse, Json.read, hspace, hvalue]
  rfl

/-- A string literal determines its string, and where it ends. -/
theorem stringLiteral_append_inj {text other rest more : Text}
    (h : stringLiteral text ++ rest = stringLiteral other ++ more) :
    text = other ∧ rest = more := by
  have hlist : Json.escapeAll Json.isText text ++ .char '"' :: rest.toList
      = Json.escapeAll Json.isText other ++ .char '"' :: more.toList := by
    have hwhole := congrArg Text.toList h
    simpa [toList_stringLiteral] using hwhole
  have hread := Json.readString_escapeAll [] rest.toList text
  rw [hlist, Json.readString_escapeAll [] more.toList other] at hread
  obtain ⟨htext, hrest⟩ := Prod.mk.inj (Except.ok.inj hread)
  exact ⟨Text.toList_inj.1 htext.symm, Text.toList_inj.1 hrest.symm⟩

/-! ## Character literals -/

/-- A character literal has its escaped character between apostrophes. -/
theorem toList_charLiteral (text : Text) :
    (charLiteral text).toList = .char '\'' ::
      ((if text = "'" then [.char '\\', .char '\''] else Json.escapeAll Json.isText text)
        ++ [.char '\'']) := by
  unfold charLiteral
  split <;> simp

/-- A character literal determines its text, which may be of any length. -/
theorem charLiteral_injective : Function.Injective charLiteral := by
  intro text other h
  have hlist := congrArg Text.toList h
  rw [toList_charLiteral, toList_charLiteral] at hlist
  have hinside := List.append_cancel_right (List.cons.inj hlist).2
  split_ifs at hinside with htext hother hother
  · rw [htext, hother]
  · exact absurd hinside.symm (Json.escapeAll_ne_apostrophe other)
  · exact absurd hinside (Json.escapeAll_ne_apostrophe text)
  · exact Json.escapeAll_injective hinside

/-- A written character does not start like the escape of an apostrophe. -/
theorem Json.Written.ne_apostrophe {c : CodePoint} {text : List CodePoint} (h : Written c text)
    {rest more : List CodePoint} (hrest : rest ≠ []) :
    text ++ rest ≠ .char '\\' :: .char '\'' :: more := by
  intro heq
  cases h with
  | plain hquote hbackslash htext => exact hbackslash (List.cons.inj heq).1
  | @escaped body hread =>
      have hbody : body ++ rest = .char '\'' :: more := (List.cons.inj heq).2
      have hsame := hread [] [] rest hrest
      rw [hbody] at hsame
      cases hsame

/-- The literal of one character determines the character, and where it ends. -/
theorem charLiteral_append_inj {text other rest more : Text} (htext : text.length = 1)
    (hother : other.length = 1) (h : charLiteral text ++ rest = charLiteral other ++ more) :
    text = other ∧ rest = more := by
  rw [← Text.length_toList, List.length_eq_one_iff] at htext hother
  obtain ⟨c, hc⟩ := htext
  obtain ⟨d, hd⟩ := hother
  have hlist := congrArg Text.toList h
  simp only [Text.toList_append, toList_charLiteral, List.cons_append, List.append_assoc,
    List.nil_append] at hlist
  have hinside := (List.cons.inj hlist).2
  have hwritten : Json.Written c (Json.escapeAll Json.isText text) := by
    simpa [Json.escapeAll, hc] using Json.written_escape c
  have hotherWritten : Json.Written d (Json.escapeAll Json.isText other) := by
    simpa [Json.escapeAll, hd] using Json.written_escape d
  split_ifs at hinside with happ hotherApp hotherApp
  · refine ⟨happ.trans hotherApp.symm, Text.toList_inj.1 ?_⟩
    simpa using hinside
  · exact absurd hinside.symm (hotherWritten.ne_apostrophe (by simp))
  · exact absurd hinside (hwritten.ne_apostrophe (by simp))
  · obtain ⟨rfl, hrest⟩ := hwritten.append_inj hotherWritten (by simp) (by simp) hinside
    exact ⟨Text.toList_inj.1 (hc.trans hd.symm), Text.toList_inj.1 (List.cons.inj hrest).2⟩

/-! ## Control characters -/

/-- No control character is left in a literal. -/
theorem isText_of_mem_literal {text : Text} {c : CodePoint}
    (h : c ∈ (stringLiteral text).toList ∨ c ∈ (charLiteral text).toList) :
    Json.isText c = true := by
  rcases h with h | h
  · rw [toList_stringLiteral, List.mem_cons, List.mem_append, List.mem_singleton] at h
    rcases h with rfl | h | rfl
    · decide
    · exact Json.isText_of_mem_escapeAll h
    · decide
  · rw [toList_charLiteral, List.mem_cons, List.mem_append, List.mem_singleton] at h
    rcases h with rfl | h | rfl
    · decide
    · split_ifs at h with happ
      · have hmarks : ∀ d ∈ [.char '\\', .char '\''], Json.isText d = true :=
          List.all_eq_true.1 (by decide)
        exact hmarks c h
      · exact Json.isText_of_mem_escapeAll h
    · decide

/-! ## Literals determine what they stand for -/

/-- A string literal determines its string and where it ends, and is read back as JSON; a character
literal determines its text, and where it ends if the text is one character; and no control
character is left in either of them. -/
theorem literals_faithful :
    (∀ text other rest more : Text,
      stringLiteral text ++ rest = stringLiteral other ++ more → text = other ∧ rest = more) ∧
    (∀ text : Text, Json.parse (stringLiteral text).toList = .ok (.str text)) ∧
    (∀ text other : Text, charLiteral text = charLiteral other → text = other) ∧
    (∀ text other rest more : Text, text.length = 1 → other.length = 1 →
      charLiteral text ++ rest = charLiteral other ++ more → text = other ∧ rest = more) ∧
    ∀ (text : Text) (c : CodePoint),
      c ∈ (stringLiteral text).toList ∨ c ∈ (charLiteral text).toList → 0x20 ≤ c.toNat := by
  refine ⟨?_, parse_stringLiteral, ?_, ?_, ?_⟩
  · intro text other rest more h
    exact stringLiteral_append_inj h
  · intro text other h
    exact charLiteral_injective h
  · intro text other rest more htext hother h
    exact charLiteral_append_inj htext hother h
  · intro text c h
    simpa [Json.isText] using isText_of_mem_literal h

/-- A backslash at the end of a literal is no part of the mark behind it: with the quotes and the
apostrophes that follow, literals are told apart. -/
theorem literals_of_marks :
    (stringLiteral (Text.singleton '\\') ++ "\"" = stringLiteral "\\" ++ Text.singleton '"' ∧
      Text.singleton '\\' = "\\" ∧ "\"" = Text.singleton '"') ∧
    stringLiteral "\\" ++ "\"" ≠ stringLiteral "\\\"" ++ "" ∧
    Json.parse ("\"'\\u0001\\\\\"" : Text).toList = .ok (.str "'\x01\\") ∧
    charLiteral "'" ≠ charLiteral "\\'" ∧
    (("'" : Text).length = 1 ∧ ("\\" : Text).length = 1 ∧
      charLiteral "'" ++ "'" ≠ charLiteral "\\" ++ "''") ∧
    (.char 'n' ∈ (stringLiteral "\n").toList ∧ 0x20 ≤ 'n'.toNat) := by
  obtain ⟨hstring, hparse, hchar, hcharEnd, htext⟩ := literals_faithful
  have hsame : stringLiteral (Text.singleton '\\') ++ "\""
      = stringLiteral "\\" ++ Text.singleton '"' := rfl
  have hmem : .char 'n' ∈ (stringLiteral "\n").toList := by decide
  refine ⟨⟨hsame, hstring _ _ _ _ hsame⟩, ?_, hparse "'\x01\\", ?_, ⟨rfl, rfl, ?_⟩,
    hmem, htext "\n" 'n' (Or.inl hmem)⟩
  · intro h
    exact absurd (hstring _ _ _ _ h).1 (by decide)
  · intro h
    exact absurd (hchar _ _ h) (by decide)
  · intro h
    exact absurd (hcharEnd _ _ _ _ rfl rfl h).1 (by decide)

end CrateListing
