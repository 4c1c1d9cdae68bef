import CrateListing.Constant.Render
import CrateListing.Proofs.Selectors
import CrateListing.Proofs.UniqueReading
import Mathlib.Data.Nat.Digits.Lemmas

/-!
# Integer literals and numerals

An integer literal is read through a permissive grammar: blanks around it, a sign,
decimal digits of any script with single underscores between them.  The grammar is
stated here on its own, and a literal is read exactly when the grammar gives it a
value.  The canonical numeral of an integer is a literal of it, so that a scalar is
read from its number and from its numeral alike, and from whatever literal it was
read, its text is the canonical numeral, which is read as the same scalar again.

Main definitions:

- `Text.DigitRun`, `Text.IntegerLiteral`: the grammar of literals, with what they stand for.
- `Text.WithinLimit`: an integer with no more digits than a literal may have.
- `Text.Canonical`: the canonical numeral of an integer.
- `Json.Denotes`: the integer that the payload of a scalar stands for.

Main results:

- Theorem `Text.readInteger_eq_ok_iff`: which literals are read, and as what.
- Theorem `Text.canonical_iff`: an integer has one canonical numeral.
- Theorem `Scalar.encodings_agree`: scalars from numbers, from literals and from their own texts.
-/

namespace CrateListing

open Outcome

namespace Text

/-! ## Literals -/

/-- Decimal digits of any script with single underscores between them, and the values of the
digits. -/
inductive DigitRun : List CodePoint → List Nat → Prop where
  | last {c : CodePoint} {value : Nat} (h : digitValue? c = some value) : DigitRun [c] [value]
  | next {c : CodePoint} {value : Nat} {rest : List CodePoint} {values : List Nat}
      (h : digitValue? c = some value) (hrest : DigitRun rest values) :
      DigitRun (c :: rest) (value :: values)
  | separated {c : CodePoint} {value : Nat} {rest : List CodePoint} {values : List Nat}
      (h : digitValue? c = some value) (hrest : DigitRun rest values) :
      DigitRun (c :: .char '_' :: rest) (value :: values)

/-- What may stand in front of the digits, and the sign that it gives. -/
inductive SignMark : List CodePoint → Int → Prop where
  | none : SignMark [] 1
  | plus : SignMark [.char '+'] 1
  | minus : SignMark [.char '-'] (-1)

/-- A text is a literal for an integer: digits, not more than are read, behind a sign and between
blanks. -/
inductive IntegerLiteral (text : Text) (n : Int) : Prop where
  | intro {before mark run after : List CodePoint} {sign : Int} {values : List Nat}
      (htext : text.toList = before ++ (mark ++ (run ++ after)))
      (hbefore : ∀ c ∈ before, isBlank c = true) (hmark : SignMark mark sign)
      (hrun : DigitRun run values) (hlimit : values.length ≤ digitLimit)
      (hafter : ∀ c ∈ after, isBlank c = true)
      (hvalue : n = sign * (Nat.ofDigits 10 values.reverse : Nat))

/-- The value of digits in the terms of the library, which begins with the last one. -/
theorem ofDigits_eq (values : List Nat) : ofDigits values = Nat.ofDigits 10 values.reverse := by
  rw [ofDigits, Nat.ofDigits_eq_foldr, List.foldr_reverse]
  simp only [Nat.cast_id, Nat.add_comm]

/-- Decimal digits stand for less than the power of ten with their number. -/
theorem ofDigits_lt {values : List Nat} (h : ∀ value ∈ values, value < 10) :
    ofDigits values < 10 ^ values.length := by
  rw [ofDigits_eq, ← List.length_reverse]
  exact Nat.ofDigits_lt_base_pow_length (by decide) fun value hvalue =>
    h value (List.mem_reverse.1 hvalue)

/-! ## Runs of digits -/

/-- An underscore is no digit. -/
theorem digitValue?_underscore : digitValue? '_' = none := by
  decide

/-- A digit is no underscore. -/
theorem ne_underscore {c : CodePoint} {value : Nat} (h : digitValue? c = some value) : c ≠ '_' := by
  rintro rfl
  rw [digitValue?_underscore] at h
  cases h

namespace DigitRun

variable {run : List CodePoint} {values : List Nat}

/-- A run of digits begins with a digit. -/
theorem exists_head (h : DigitRun run values) : ∃ c rest, run = c :: rest ∧ isDecimal c = true := by
  cases h with
  | last h => exact ⟨_, _, rfl, by rw [isDecimal, h, Option.isSome_some]⟩
  | next h => exact ⟨_, _, rfl, by rw [isDecimal, h, Option.isSome_some]⟩
  | separated h => exact ⟨_, _, rfl, by rw [isDecimal, h, Option.isSome_some]⟩

/-- A run of digits has only characters of literals in it. -/
theorem isNumeralChar_of_mem (h : DigitRun run values) : ∀ c ∈ run, isNumeralChar c = true := by
  have hdigit {c : CodePoint} {value : Nat} (h : digitValue? c = some value) :
      isNumeralChar c = true := by
    simp [isNumeralChar, isDecimal, h]
  induction h with
  | last h => simpa using hdigit h
  | next h _ ih => exact List.forall_mem_cons.2 ⟨hdigit h, ih⟩
  | separated h _ ih =>
      exact List.forall_mem_cons.2 ⟨hdigit h, List.forall_mem_cons.2 ⟨by decide, ih⟩⟩

/-- The values of a run of digits are those of its digits. -/
theorem filterMap_eq (h : DigitRun run values) : run.filterMap digitValue? = values := by
  induction h with
  | last h => simp [h]
  | next h _ ih => rw [List.filterMap_cons_some h, ih]
  | separated h _ ih =>
      rw [List.filterMap_cons_some h, List.filterMap_cons_none digitValue?_underscore, ih]

/-- The underscores in a run of digits stand between digits. -/
theorem separates (h : DigitRun run values) (afterDigit : Bool) :
    underscoresSeparate afterDigit run = true := by
  induction h generalizing afterDigit with
  | last h => simp [underscoresSeparate, ne_underscore h]
  | next h _ ih => simp [underscoresSeparate, ne_underscore h, ih]
  | separated h _ ih => simp [underscoresSeparate, ne_underscore h, ih]

/-- The values of digits are less than ten. -/
theorem lt_ten (h : DigitRun run values) : ∀ value ∈ values, value < 10 := by
  have hdigit {c : CodePoint} {value : Nat} (h : digitValue? c = some value) : value < 10 := by
    obtain ⟨first, hfirst, rfl⟩ := Option.map_eq_some_iff.1 h
    have hrange := List.find?_some hfirst
    simp only [Bool.and_eq_true, decide_eq_true_eq] at hrange
    omega
  induction h with
  | last h => simpa using hdigit h
  | next h _ ih => exact List.forall_mem_cons.2 ⟨hdigit h, ih⟩
  | separated h _ ih => exact List.forall_mem_cons.2 ⟨hdigit h, ih⟩

end DigitRun

/-- Characters of a literal with digits where they have to be make a run of digits.  Behind a digit
the text may end, go on with a digit, or go on with an underscore. -/
theorem digitRun_of_separates {run : List CodePoint} (hchars : ∀ c ∈ run, isNumeralChar c = true) :
    (underscoresSeparate false run = true → DigitRun run (run.filterMap digitValue?)) ∧
    (underscoresSeparate true run = true → run = [] ∨
      DigitRun run (run.filterMap digitValue?) ∨
      ∃ rest, run = .char '_' :: rest ∧ DigitRun rest (rest.filterMap digitValue?)) := by
  induction run with
  | nil => exact ⟨fun h => absurd h Bool.false_ne_true, fun _ => Or.inl rfl⟩
  | cons c rest ih =>
      obtain ⟨hc, hrest⟩ := List.forall_mem_cons.1 hchars
      obtain ⟨hfirst, hbehind⟩ := ih hrest
      by_cases hunderscore : c = '_'
      · subst hunderscore
        simp only [underscoresSeparate, if_true, Bool.false_and, Bool.true_and]
        exact ⟨fun h => absurd h Bool.false_ne_true, fun h => Or.inr (Or.inr ⟨rest, rfl, hfirst h⟩)⟩
      · obtain ⟨value, hvalue⟩ : ∃ value, digitValue? c = some value := by
          simpa [isNumeralChar, hunderscore, isDecimal, Option.isSome_iff_exists] using hc
        have hrun (h : underscoresSeparate true rest = true) :
            DigitRun (c :: rest) ((c :: rest).filterMap digitValue?) := by
          rw [List.filterMap_cons_some hvalue]
          obtain rfl | hmore | ⟨more, rfl, hmore⟩ := hbehind h
          · exact .last hvalue
          · exact .next hvalue hmore
          · rw [List.filterMap_cons_none digitValue?_underscore]
            exact .separated hvalue hmore
        simp only [underscoresSeparate, if_neg hunderscore]
        exact ⟨hrun, fun h => Or.inr (Or.inl (hrun h))⟩

/-! ## Reading literals -/

/-- A blank is no character of a literal. -/
theorem isNumeralChar_of_isBlank {c : CodePoint} (h : isBlank c = true) :
    isNumeralChar c = false := by
  rw [isNumeralChar, Bool.or_eq_false_iff, decide_eq_false_iff_not]
  constructor
  · rintro rfl
    exact absurd h (by decide)
  · rw [Bool.eq_false_iff]
    intro hdecimal
    rw [isBlank_of_showsDigit (showsDigit_of_isDecimal hdecimal)] at h
    cases h

/-- The sign that is split off is the mark in front of the rest. -/
theorem signMark_of_splitSign {text body : List CodePoint} {negative : Bool}
    (h : splitSign text = (negative, body)) :
    ∃ mark sign, SignMark mark sign ∧ text = mark ++ body ∧
      ∀ value : Int, (if negative then -value else value) = sign * value := by
  by_cases hminus : ∃ rest, text = .char '-' :: rest
  · obtain ⟨rest, rfl⟩ := hminus
    cases h
    exact ⟨[.char '-'], -1, .minus, rfl, by simp⟩
  by_cases hplus : ∃ rest, text = .char '+' :: rest
  · obtain ⟨rest, rfl⟩ := hplus
    cases h
    exact ⟨[.char '+'], 1, .plus, rfl, by simp⟩
  rw [splitSign.eq_3 text (not_exists.1 hminus) (not_exists.1 hplus)] at h
  cases h
  exact ⟨[], 1, .none, rfl, by simp⟩

/-- A mark in front of digits is split off. -/
theorem splitSign_of_signMark {mark run : List CodePoint} {sign : Int} {values : List Nat}
    (h : SignMark mark sign) (hrun : DigitRun run values) (after : List CodePoint) :
    ∃ negative, splitSign (mark ++ (run ++ after)) = (negative, run ++ after) ∧
      ∀ value : Int, (if negative then -value else value) = sign * value := by
  cases h with
  | none =>
      obtain ⟨c, rest, rfl, hc⟩ := hrun.exists_head
      refine ⟨false, splitSign.eq_3 _ ?_ ?_, by simp⟩
      · rintro _ ⟨⟩
        exact absurd hc (by decide)
      · rintro _ ⟨⟩
        exact absurd hc (by decide)
  | plus => exact ⟨false, rfl, by simp⟩
  | minus => exact ⟨true, rfl, by simp⟩

/-- Neither a sign nor a digit is a blank that could be dropped. -/
theorem dropBlanks_of_signMark {mark run : List CodePoint} {sign : Int} {values : List Nat}
    (h : SignMark mark sign) (hrun : DigitRun run values) (after : List CodePoint) :
    dropBlanks (mark ++ (run ++ after)) = mark ++ (run ++ after) := by
  cases h with
  | none =>
      obtain ⟨c, rest, rfl, hc⟩ := hrun.exists_head
      rw [List.nil_append, List.cons_append, dropBlanks, List.dropWhile_cons_of_neg]
      simp [isBlank_of_showsDigit (showsDigit_of_isDecimal hc)]
  | plus => rfl
  | minus => rfl

/-- The digits of a literal end where the blanks behind them begin. -/
theorem takeWhile_of_digitRun {run after : List CodePoint} {values : List Nat}
    (hrun : DigitRun run values) (hafter : ∀ c ∈ after, isBlank c = true) :
    (run ++ after).takeWhile isNumeralChar = run ∧
      (run ++ after).dropWhile isNumeralChar = after := by
  have hstop : ∀ c ∈ after, isNumeralChar c = false := fun c hc =>
    isNumeralChar_of_isBlank (hafter c hc)
  rw [List.takeWhile_append_of_pos hrun.isNumeralChar_of_mem,
    List.dropWhile_append_of_pos hrun.isNumeralChar_of_mem]
  cases after with
  | nil => simp
  | cons c rest => simp [hstop c List.mem_cons_self]

/-- What is read of a literal once its sign was split off. -/
theorem readInteger_of_splitSign {text : Text} {body : List CodePoint} {negative : Bool}
    {sign : Int} (h : splitSign (dropBlanks text.toList) = (negative, body))
    (hsign : ∀ value : Int, (if negative then -value else value) = sign * value) :
    readInteger text =
      if !underscoresSeparate false (body.takeWhile isNumeralChar) then .error (.malformed text)
      else if ((body.takeWhile isNumeralChar).filterMap digitValue?).length > digitLimit then
        .error (.tooLong ((body.takeWhile isNumeralChar).filterMap digitValue?).length)
      else if !(dropBlanks (body.dropWhile isNumeralChar)).isEmpty then .error (.malformed text)
      else .ok (sign * ofDigits ((body.takeWhile isNumeralChar).filterMap digitValue?)) := by
  simp only [readInteger, h, hsign]

/-- A text is read as an integer exactly when it is a literal for it. -/
theorem readInteger_eq_ok_iff {text : Text} {n : Int} :
    readInteger text = .ok n ↔ IntegerLiteral text n := by
  constructor
  · intro h
    obtain ⟨negative, body, hsplit⟩ :
        ∃ negative body, splitSign (dropBlanks text.toList) = (negative, body) := ⟨_, _, rfl⟩
    obtain ⟨mark, sign, hmark, hbody, hsign⟩ := signMark_of_splitSign hsplit
    -- The pieces that are cut off while reading are the parts of the literal.
    rw [readInteger_of_splitSign hsplit hsign] at h
    split_ifs at h with hseparates hlimit hafter
    rw [Bool.not_eq_true', Bool.not_eq_false] at hseparates
    rw [Bool.not_eq_true, Bool.not_eq_false', List.isEmpty_iff, dropBlanks,
      List.dropWhile_eq_nil_iff] at hafter
    have hchars : ∀ c ∈ body.takeWhile isNumeralChar, isNumeralChar c = true := fun c hc =>
      List.mem_takeWhile_imp hc
    have hbefore : ∀ c ∈ text.toList.takeWhile isBlank, isBlank c = true := fun c hc =>
      List.mem_takeWhile_imp hc
    refine ⟨?_, hbefore, hmark, (digitRun_of_separates hchars).1 hseparates, not_lt.1 hlimit,
      hafter, ?_⟩
    · rw [List.takeWhile_append_dropWhile, ← hbody, dropBlanks, List.takeWhile_append_dropWhile]
    · rw [← ofDigits_eq]
      exact (Except.ok.inj h).symm
  · rintro @⟨before, mark, run, after, sign, values, htext, hbefore, hmark, hrun, hlimit, hafter,
      rfl⟩
    have hblanks : dropBlanks text.toList = mark ++ (run ++ after) := by
      rw [htext, dropBlanks, List.dropWhile_append_of_pos hbefore]
      exact dropBlanks_of_signMark hmark hrun after
    obtain ⟨negative, hsplit, hsign⟩ := splitSign_of_signMark hmark hrun after
    rw [← hblanks] at hsplit
    obtain ⟨htake, hdrop⟩ := takeWhile_of_digitRun hrun hafter
    have hend : dropBlanks after = [] := List.dropWhile_eq_nil_iff.2 hafter
    rw [readInteger_of_splitSign hsplit hsign, htake, hdrop, hrun.filterMap_eq,
      hrun.separates false, hend, ofDigits_eq, if_neg (by simp), if_neg (not_lt.2 hlimit),
      if_neg (by simp)]

/-! ## Numerals -/

/-- An integer with no more digits than a literal may have. -/
def WithinLimit (n : Int) : Prop :=
  (Nat.toDigits 10 n.natAbs).length ≤ digitLimit

/-- The integers within the limit are those below a power of ten. -/
theorem withinLimit_iff {n : Int} : WithinLimit n ↔ n.natAbs < 10 ^ digitLimit :=
  Nat.length_toDigits_le_iff (by decide) (by decide)

/-- An integer with few enough digits is within the limit. -/
theorem withinLimit_of_length {n : Int} {values : List Nat} (h : ∀ value ∈ values, value < 10)
    (hlimit : values.length ≤ digitLimit) (hvalue : n.natAbs = ofDigits values) :
    WithinLimit n := by
  rw [withinLimit_iff, hvalue]
  calc
    ofDigits values < 10 ^ values.length := ofDigits_lt h
    _ ≤ 10 ^ digitLimit := Nat.pow_le_pow_right (by decide) hlimit

/-- A literal stands for an integer within the limit. -/
theorem IntegerLiteral.withinLimit {text : Text} {n : Int} (h : IntegerLiteral text n) :
    WithinLimit n := by
  obtain @⟨before, mark, run, after, sign, values, -, -, hmark, hrun, hlimit, -, rfl⟩ := h
  have hsign : sign.natAbs = 1 := by cases hmark <;> rfl
  refine withinLimit_of_length hrun.lt_ten hlimit ?_
  rw [Int.natAbs_mul, hsign, Int.natAbs_natCast, one_mul, ofDigits_eq]

/-- The signs and the digits of a numeral. -/
theorem toList_decimal (n : Int) :
    (decimal n).toList
      = (if n < 0 then [.char '-'] else []) ++ (Nat.toDigits 10 n.natAbs).map .char := by
  cases n with
  | ofNat n => simp [decimal]
  | negSucc n => simp [decimal]

/-- The value of an ASCII digit. -/
theorem digitValue?_of_isDigit {c : CodePoint} (h : c.isDigit = true) :
    digitValue? c = some (c.toNat - 0x30) := by
  have hzeros : zeros = 0x30 :: zeros.tail := rfl
  have hrange := CodePoint.isDigit_iff.1 h
  rw [digitValue?, hzeros, List.find?_cons_of_pos (by simpa using hrange), Option.map_some]

/-- ASCII digits are a run of digits. -/
theorem digitRun_of_isDigit {run : List CodePoint} (hne : run ≠ [])
    (h : ∀ c ∈ run, c.isDigit = true) : DigitRun run (run.map fun c => c.toNat - 0x30) := by
  induction run with
  | nil => exact absurd rfl hne
  | cons c rest ih =>
      obtain ⟨hc, hrest⟩ := List.forall_mem_cons.1 h
      have hvalue := digitValue?_of_isDigit hc
      cases rest with
      | nil => exact .last hvalue
      | cons d more => exact .next hvalue (ih (List.cons_ne_nil d more) hrest)

/-- The number that ASCII digits stand for. -/
def numberOf (digits : List CodePoint) : Nat :=
  Nat.ofDigits 10 (digits.map fun c => c.toNat - 0x30).reverse

/-- Digits that are characters stand for the number that the library gives them. -/
theorem numberOf_map_char (digits : List Char) :
    numberOf (digits.map .char) = Nat.ofDigitChars 10 digits 0 := by
  rw [numberOf, ← ofDigits_eq, ofDigits, List.map_map, List.foldl_map, Nat.ofDigitChars_eq_foldl]
  rfl

/-- ASCII digits are characters. -/
theorem exists_chars_of_isDigit {digits : List CodePoint} (h : ∀ c ∈ digits, c.isDigit = true) :
    ∃ chars : List Char, digits = chars.map .char ∧
      ∀ c ∈ chars, (c : CodePoint).isDigit = true := by
  induction digits with
  | nil => exact ⟨[], rfl, List.forall_mem_nil _⟩
  | cons c rest ih =>
      obtain ⟨hc, hrest⟩ := List.forall_mem_cons.1 h
      obtain ⟨chars, rfl, hchars⟩ := ih hrest
      cases c with
      | char c => exact ⟨c :: chars, rfl, List.forall_mem_cons.2 ⟨hc, hchars⟩⟩
      | surrogate offset =>
          have hrange := CodePoint.isDigit_iff.1 hc
          rw [CodePoint.toNat] at hrange
          omega

/-- The numeral of an integer is a literal for it. -/
theorem integerLiteral_decimal {n : Int} (h : WithinLimit n) : IntegerLiteral (decimal n) n := by
  obtain ⟨mark, sign, hmark, heq, hsign⟩ : ∃ mark sign, SignMark mark sign ∧
      (decimal n).toList = mark ++ (Nat.toDigits 10 n.natAbs).map .char ∧
      n = sign * n.natAbs := by
    rw [toList_decimal]
    split_ifs with hneg
    · exact ⟨_, _, .minus, rfl, by omega⟩
    · exact ⟨_, _, .none, rfl, by omega⟩
  have hne : (Nat.toDigits 10 n.natAbs).map CodePoint.char ≠ [] := by
    simp
  have hrun := digitRun_of_isDigit hne fun c => isDigit_of_mem_toDigits
  have hblank : ∀ c ∈ [], isBlank c = true := List.forall_mem_nil _
  refine ⟨?_, hblank, hmark, hrun, ?_, hblank, ?_⟩
  · rw [List.nil_append, List.append_nil, heq]
  · rw [List.length_map, List.length_map]
    exact h
  · rw [← numberOf, numberOf_map_char, Nat.ofDigitChars_ten_toDigits]
    exact hsign

/-- The text that stands for an integer in the canonical way: a minus sign exactly in front of a
negative integer, and ASCII digits that have no zero at their front unless they are one zero. -/
inductive Canonical (text : Text) (n : Int) : Prop where
  | intro {digits : List CodePoint}
      (htext : text.toList = (if n < 0 then [.char '-'] else []) ++ digits) (hne : digits ≠ [])
      (hdigits : ∀ c ∈ digits, c.isDigit = true)
      (hzero : digits.head? = some (.char '0') → digits = [.char '0'])
      (hvalue : numberOf digits = n.natAbs)

/-- An ASCII digit is the numeral of its value. -/
theorem toDigits_of_isDigit {c : Char} (h : (c : CodePoint).isDigit = true) :
    Nat.toDigits 10 (c.toNat - '0'.toNat) = [c] := by
  have hrange : '0'.toNat ≤ c.toNat ∧ c.toNat ≤ '0'.toNat + 9 := CodePoint.isDigit_iff.1 h
  have hlt : c.toNat - '0'.toNat < 10 := by omega
  rw [Nat.toDigits_of_lt_base hlt, List.cons_eq_cons, ← Char.toNat_inj,
    Nat.toNat_digitChar_of_lt_ten hlt]
  exact ⟨Nat.add_sub_cancel' hrange.1, rfl⟩

/-- Digits without a zero at their front are those of the numeral of their number. -/
theorem toDigits_ofDigitChars {digits : List Char} (hne : digits ≠ [])
    (hdigits : ∀ c ∈ digits, (c : CodePoint).isDigit = true)
    (hzero : digits.head? = some '0' → digits = ['0']) :
    Nat.toDigits 10 (Nat.ofDigitChars 10 digits 0) = digits := by
  -- By induction from the last digit on, since a numeral grows at its end.
  induction digits using List.reverseRecOn with
  | nil => exact absurd rfl hne
  | append_singleton front c ih =>
      obtain ⟨hfront, hc⟩ := List.forall_mem_append.1 hdigits
      have hdigit := hc c (List.mem_singleton_self c)
      have hlast : Nat.toDigits 10 (c.toNat - '0'.toNat) = [c] := toDigits_of_isDigit hdigit
      have hrange : '0'.toNat ≤ c.toNat ∧ c.toNat ≤ '0'.toNat + 9 := CodePoint.isDigit_iff.1 hdigit
      rw [Nat.ofDigitChars_append, Nat.ofDigitChars_cons, Nat.ofDigitChars_nil]
      cases hchars : front with
      | nil => simpa [Nat.ofDigitChars_nil] using hlast
      | cons d rest =>
          have hhead : front.head? ≠ some '0' := by
            intro hhead
            have := hzero (by rw [List.head?_append, hhead]; rfl)
            simp [hchars] at this
          have hnumeral := ih (by simp [hchars]) hfront (absurd · hhead)
          have hpos : 0 < Nat.ofDigitChars 10 front 0 := by
            rw [Nat.pos_iff_ne_zero]
            intro hvalue
            rw [hvalue, Nat.toDigits_zero] at hnumeral
            exact hhead (by rw [← hnumeral]; rfl)
          rw [← hchars, ← Nat.toDigits_append_toDigits (by decide) hpos (by omega), hnumeral, hlast]

/-- No numeral but that of zero has a zero at its front. -/
theorem eq_zero_of_head?_toDigits {n : Nat} (h : (Nat.toDigits 10 n).head? = some '0') : n = 0 := by
  induction n using Nat.strongRecOn with
  | ind n ih =>
      -- A numeral of several digits has the front of the numeral of a tenth.
      rcases Nat.lt_or_ge n 10 with hlt | hge
      · rw [Nat.toDigits_of_lt_base hlt, List.head?_cons, Option.some.injEq, ← Char.toNat_inj,
          Nat.toNat_digitChar_of_lt_ten hlt] at h
        exact Nat.add_eq_left.1 h
      · have hpos : 0 < n / 10 := by omega
        have hlast : n % 10 < 10 := Nat.mod_lt n (by decide)
        have hdigits := Nat.toDigits_append_toDigits (by decide) hpos hlast
        rw [Nat.div_add_mod] at hdigits
        rw [← hdigits, List.head?_append_of_ne_nil _ Nat.toDigits_ne_nil] at h
        exact absurd (ih (n / 10) (by omega) h) hpos.ne'

/-- An integer has one canonical text. -/
theorem canonical_iff {text : Text} {n : Int} : Canonical text n ↔ text = decimal n := by
  rw [← Text.toList_inj, toList_decimal]
  constructor
  · rintro @⟨digits, htext, hne, hdigits, hzero, hvalue⟩
    obtain ⟨chars, rfl, hchars⟩ := exists_chars_of_isDigit hdigits
    have hfront : chars.head? = some '0' → chars = ['0'] := by
      intro hhead
      have hmapped := hzero (by rw [List.head?_map, hhead, Option.map_some])
      exact (List.map_inj_right CodePoint.char_injective).1 hmapped
    rw [numberOf_map_char] at hvalue
    rw [htext, ← hvalue, toDigits_ofDigitChars (by simpa using hne) hchars hfront]
  · intro htext
    refine ⟨htext, by simp, fun c => isDigit_of_mem_toDigits,
      fun hhead => ?_, ?_⟩
    · rw [List.head?_map, Option.map_eq_some_iff] at hhead
      obtain ⟨c, hhead, hzero⟩ := hhead
      obtain rfl := CodePoint.char_injective hzero
      rw [eq_zero_of_head?_toDigits hhead, Nat.toDigits_zero]
      rfl
    · rw [numberOf_map_char, Nat.ofDigitChars_ten_toDigits]

end Text

/-! ## Scalars -/

/-- The payload of a scalar stands for an integer: it is the integer or a literal for it. -/
inductive Json.Denotes : Json → Int → Prop where
  | number {n : Int} (h : Text.WithinLimit n) : Denotes (.int n) n
  | literal {text : Text} {n : Int} (h : Text.IntegerLiteral text n) : Denotes (.str text) n

/-- What a payload denotes is within the limit. -/
theorem Json.Denotes.withinLimit {payload : Json} {n : Int} (h : payload.Denotes n) :
    Text.WithinLimit n := by
  cases h with
  | number h => exact h
  | literal h => exact h.withinLimit

/-- A payload denotes one integer at most. -/
theorem Json.Denotes.unique {payload : Json} {n m : Int} (hn : payload.Denotes n)
    (hm : payload.Denotes m) : n = m := by
  cases hn with
  | number _ =>
      cases hm
      rfl
  | literal hn =>
      cases hm with
      | literal hm =>
          rw [← Text.readInteger_eq_ok_iff] at hn hm
          exact Except.ok.inj (hn.symm.trans hm)

/-- A payload that can be in a file: an integer has no more digits than a literal may have. -/
def Json.IsPayload (payload : Json) : Prop :=
  ∀ n, payload = .int n → Text.WithinLimit n

/-- What denotes an integer can be a payload in a file. -/
theorem Json.Denotes.isPayload {payload : Json} {n : Int} (h : payload.Denotes n) :
    payload.IsPayload := by
  rintro m rfl
  cases h with
  | number h => exact h

namespace Scalar

/-- The value of a payload is the integer that it denotes. -/
theorem valueOfJson_eq_ok_iff {payload : Json} (hpayload : payload.IsPayload) {n : Int} :
    valueOfJson payload = .ok n ↔ payload.Denotes n := by
  constructor
  · intro h
    cases payload with
    | int m =>
        obtain rfl : m = n := Except.ok.inj h
        exact .number (hpayload m rfl)
    | str text =>
        rw [valueOfJson] at h
        cases hread : Text.readInteger text with
        | error e =>
            rw [hread] at h
            cases h
        | ok m =>
            rw [hread] at h
            obtain rfl : m = n := Except.ok.inj h
            exact .literal (Text.readInteger_eq_ok_iff.1 hread)
    | _ => cases h
  · rintro (_ | h)
    · rfl
    · rw [valueOfJson, Text.readInteger_eq_ok_iff.2 h]

/-- A scalar is given by the name of its type and a payload for its value. -/
theorem ofJson_eq_ok_iff {tag : Text} {payload : Json} (hpayload : payload.IsPayload)
    {scalar : Scalar} :
    ofJson (.obj [(tag, payload)]) = .ok scalar ↔
      IntegerType.ofName? tag = some scalar.type ∧ payload.Denotes scalar.value := by
  rw [← valueOfJson_eq_ok_iff hpayload, ofJson, Json.asTagged, ok_bind]
  cases htag : IntegerType.ofName? tag with
  | none => simp [IntegerType.ofName, htag]
  | some type =>
      have hname : IntegerType.ofName tag = .ok type := by rw [IntegerType.ofName, htag]
      simp only [hname, ok_bind, bind_eq_ok_iff, pure_eq_ok, Except.ok.injEq, Option.some.injEq]
      constructor
      · rintro ⟨value, hvalue, rfl⟩
        exact ⟨rfl, hvalue⟩
      · rintro ⟨rfl, hvalue⟩
        exact ⟨scalar.value, hvalue, rfl⟩

/-- A scalar is read from any payload that denotes its value. -/
theorem ofJson_of_denotes {tag : Text} {type : IntegerType}
    (htag : IntegerType.ofName? tag = some type) {payload : Json} {n : Int}
    (h : payload.Denotes n) : ofJson (.obj [(tag, payload)]) = .ok ⟨n, type⟩ :=
  (ofJson_eq_ok_iff h.isPayload).2 ⟨htag, h⟩

/-- The numeral of an integer denotes it. -/
theorem denotes_decimal {n : Int} (h : Text.WithinLimit n) :
    (Json.str (Text.decimal n)).Denotes n :=
  .literal (Text.integerLiteral_decimal h)

/-- Scalars have the same text exactly when they have the same value. -/
theorem render_inj_iff {scalar other : Scalar} :
    scalar.render = other.render ↔ scalar.value = other.value :=
  Text.decimal_injective.eq_iff

/-- Numbers and literals give the same scalars.  Under the name of an integer type:
an integer and its numeral are read as the same scalar;
a payload is read exactly when it denotes an integer, and as this integer;
what is read is shown as the canonical text of the integer, which is read as the same scalar again;
and two payloads that are read are shown alike exactly when they denote the same integer. -/
theorem encodings_agree {tag : Text} {type : IntegerType}
    (htag : IntegerType.ofName? tag = some type) :
    (∀ n, Text.WithinLimit n →
      ofJson (.obj [(tag, .int n)]) = .ok ⟨n, type⟩ ∧
      ofJson (.obj [(tag, .str (Text.decimal n))]) = .ok ⟨n, type⟩) ∧
    (∀ payload scalar, payload.IsPayload →
      (ofJson (.obj [(tag, payload)]) = .ok scalar ↔
        type = scalar.type ∧ payload.Denotes scalar.value)) ∧
    (∀ payload scalar, payload.IsPayload → ofJson (.obj [(tag, payload)]) = .ok scalar →
      (∀ text, Text.Canonical text scalar.value ↔ text = scalar.render) ∧
      ofJson (.obj [(tag, .str scalar.render)]) = .ok scalar) ∧
    ∀ payload scalar otherTag other otherScalar, payload.IsPayload → other.IsPayload →
      ofJson (.obj [(tag, payload)]) = .ok scalar →
      ofJson (.obj [(otherTag, other)]) = .ok otherScalar →
      (scalar.render = otherScalar.render ↔ ∃ n, payload.Denotes n ∧ other.Denotes n) := by
  refine ⟨fun n hn => ⟨?_, ?_⟩, fun payload scalar hpayload => ?_, ?_, ?_⟩
  · exact ofJson_of_denotes htag (.number hn)
  · exact ofJson_of_denotes htag (denotes_decimal hn)
  · rw [ofJson_eq_ok_iff hpayload, htag, Option.some.injEq]
  · intro payload scalar hpayload h
    obtain ⟨hscalar, hdenotes⟩ := (ofJson_eq_ok_iff hpayload).1 h
    refine ⟨fun text => Text.canonical_iff, ?_⟩
    exact ofJson_of_denotes hscalar (denotes_decimal hdenotes.withinLimit)
  · intro payload scalar otherTag other otherScalar hpayload hother h hread
    obtain ⟨-, hdenotes⟩ := (ofJson_eq_ok_iff hpayload).1 h
    obtain ⟨-, hagain⟩ := (ofJson_eq_ok_iff hother).1 hread
    rw [render_inj_iff]
    constructor
    · intro heq
      exact ⟨scalar.value, hdenotes, heq ▸ hagain⟩
    · rintro ⟨n, hn, hsame⟩
      rw [hdenotes.unique hn, hagain.unique hsame]

/-- A literal with a blank, a leading zero, an underscore and a digit of another script stands for
the same scalar as a number, also under another spelling of the type. -/
theorem encodings_agree_of_literal :
    IntegerType.ofName? "I128" = some .i128 ∧
    ofJson (.obj [("I128", .str "\t-0_٣ ")]) = .ok ⟨-3, .i128⟩ ∧
    ofJson (.obj [("i128", .int (-3))]) = .ok ⟨-3, .i128⟩ ∧
    ofJson (.obj [("I128", .str (Scalar.render ⟨-3, .i128⟩))]) = .ok ⟨-3, .i128⟩ ∧
    Text.Canonical "-3" (-3) ∧
    ∃ n, (Json.str "\t-0_٣ ").Denotes n ∧ (Json.int (-3)).Denotes n := by
  have htag : IntegerType.ofName? "I128" = some .i128 := by decide
  have hother : IntegerType.ofName? "i128" = some .i128 := by decide
  have hliteral : (Json.str "\t-0_٣ ").Denotes (-3) :=
    .literal (Text.readInteger_eq_ok_iff.1 (by decide))
  obtain ⟨-, hiff, hshown, halike⟩ := encodings_agree htag
  obtain ⟨hnumber, -, -, -⟩ := encodings_agree hother
  have hread := (hiff _ ⟨-3, .i128⟩ hliteral.isPayload).2 ⟨rfl, hliteral⟩
  have hint := (hnumber (-3) hliteral.withinLimit).1
  obtain ⟨hcanonical, hagain⟩ := hshown _ _ hliteral.isPayload hread
  have hpayload : (Json.int (-3)).IsPayload := (Json.Denotes.number hliteral.withinLimit).isPayload
  exact ⟨htag, hread, hint, hagain, (hcanonical "-3").2 (by decide),
    (halike _ _ _ _ _ hliteral.isPayload hpayload hread hint).1 rfl⟩

end Scalar
end CrateListing
