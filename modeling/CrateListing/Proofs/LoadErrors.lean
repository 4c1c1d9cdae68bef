import CrateListing.Crate.File
import CrateListing.Proofs.Outcome
import Mathlib.Data.List.TakeWhile

/-!
# How loading a file fails

A file that is no crate is reported: loading fails with the file and a message
under one of three codes, wherever the fault lies, in the bytes, in the JSON text
or in the value.  One fault is not reported.  The reader stops at an integer
literal with more digits than the limit, and this failure is passed on as it is.

The reader of a value hands the rest of its text to the next reader.  So it is
shown of every reader that it leaves the end of its text and that a literal with
too many digits is a part of its text; the readers of values, items and members
call each other, and the induction is on the number of steps.

Main definitions:

- `Json.LongRun`: a text has more digits in a row than an integer literal may have.
- `Json.Within`: what a reader leaves, and what it has met, is part of its text.
- `Crate.Reports`: loading gives a crate or reports a fault of the file.

Main results:

- Theorem `Json.longRun_of_read`: where a document with too many digits has them.
- Theorem `Crate.load_reports_iff`: which files are loaded or reported.
- Theorem `Crate.not_reports_of_ones`: a file that is neither.
-/

namespace CrateListing

open Outcome

variable {α β : Type}

namespace Json

/-! ## What a reader does to its text -/

/-- A text has a run of digits that is too long for an integer literal. -/
def LongRun (text : List CodePoint) (count : Nat) : Prop :=
  Text.digitLimit < count ∧
    ∃ digits, digits <:+: text ∧ digits.length = count ∧ ∀ c ∈ digits, c.isDigit = true

/-- A long run of digits in a part of a text is one in the text. -/
theorem LongRun.of_suffix {text rest : List CodePoint} {count : Nat} (hrun : LongRun rest count)
    (h : rest <:+ text) : LongRun text count := by
  obtain ⟨hlimit, digits, hdigits, hlength, hall⟩ := hrun
  exact ⟨hlimit, digits, hdigits.trans h.isInfix, hlength, hall⟩

/-- What a reader leaves is the end of its text, and when it meets too many digits, the text has
that many digits in a row. -/
inductive Within (text : List CodePoint) : Except Stop (α × List CodePoint) → Prop where
  | ok {a : α} {rest : List CodePoint} (h : rest <:+ text) : Within text (.ok (a, rest))
  | complaint {what : Complaint} {place : List CodePoint} :
      Within text (.error (.complaint what place))
  | tooManyDigits {count : Nat} (h : LongRun text count) :
      Within text (.error (.tooManyDigits count))

namespace Within

/-- A reading within the end of a text is one within the text. -/
theorem of_suffix {text rest : List CodePoint} {reading : Except Stop (α × List CodePoint)}
    (hreading : Within rest reading) (h : rest <:+ text) : Within text reading := by
  cases hreading with
  | ok hrest => exact .ok (hrest.trans h)
  | complaint => exact .complaint
  | tooManyDigits hrun => exact .tooManyDigits (hrun.of_suffix h)

/-- A second reader continues where the first one stopped. -/
theorem bind {text : List CodePoint} {first : Except Stop (α × List CodePoint)}
    {next : α × List CodePoint → Except Stop (β × List CodePoint)} (h : Within text first)
    (hnext : ∀ a rest, Within rest (next (a, rest))) : Within text (first >>= next) := by
  cases h with
  | ok hrest => exact (hnext _ _).of_suffix hrest
  | complaint => exact .complaint
  | tooManyDigits hrun => exact .tooManyDigits hrun

/-- A reading whose value is only rewritten stays within the text. -/
theorem map {text : List CodePoint} {first : Except Stop (α × List CodePoint)}
    (h : Within text first) (f : α → β) :
    Within text (first >>= fun found => pure (f found.1, found.2)) :=
  h.bind fun _ rest => .ok (List.suffix_refl rest)

end Within

/-- What is left behind blanks is an end of the text. -/
theorem skipSpace_suffix (text : List CodePoint) : skipSpace text <:+ text :=
  List.dropWhile_suffix isSpace

/-- Space may follow a delimiter. -/
theorem skipSpace_suffix_cons (c : CodePoint) (text : List CodePoint) :
    skipSpace text <:+ c :: text :=
  (skipSpace_suffix text).trans (List.suffix_cons c text)

/-! ## Strings -/

/-- An escape may be faulty, but has no number. -/
theorem readEscape_cases (opening backslash text : List CodePoint) :
    (∃ found, readEscape opening backslash text = .ok found) ∨
      ∃ what place, readEscape opening backslash text = .error (.complaint what place) := by
  fun_cases readEscape opening backslash text <;> simp

/-- A string is read within the text. -/
theorem within_readString (opening : List CodePoint) (skip : Nat) (text : List CodePoint) :
    Within text (readString opening skip text) := by
  fun_induction readString opening skip text with
  | case1 => exact .complaint
  | case2 skip c rest ih => exact ih.of_suffix (List.suffix_cons c rest)
  | case3 rest => exact .ok (List.suffix_cons _ rest)
  | case4 c rest => exact .complaint
  | case5 rest hquote hcontrol ih =>
      obtain ⟨⟨meant, length⟩, hescape⟩ | ⟨what, place, hescape⟩ :=
        readEscape_cases opening (.char '\\' :: rest) rest
      · rw [hescape, ok_bind]
        exact ((ih length).map _).of_suffix (List.suffix_cons _ rest)
      · rw [hescape]
        exact .complaint
  | case6 c rest hquote hcontrol hescape ih =>
      exact (ih.map _).of_suffix (List.suffix_cons c rest)

/-! ## Numbers -/

/-- The whole part of a number and what is behind it make up the text. -/
theorem splitWhole_append (text : List CodePoint) :
    (splitWhole text).1 ++ (splitWhole text).2 = text := by
  fun_cases splitWhole text with
  | case1 rest => rfl
  | case2 => exact List.takeWhile_append_dropWhile

/-- The whole part of a number has only digits in it. -/
theorem isDigit_of_mem_splitWhole {text : List CodePoint} {c : CodePoint}
    (h : c ∈ (splitWhole text).1) : c.isDigit = true := by
  revert h
  fun_cases splitWhole text with
  | case1 rest =>
      intro h
      rw [List.mem_singleton.1 h]
      rfl
  | case2 => exact fun h => List.mem_takeWhile_imp h

/-- What is left behind a fraction is an end of the text. -/
theorem splitFraction_suffix (text : List CodePoint) : (splitFraction text).2 <:+ text := by
  fun_cases splitFraction text with
  | case1 rest => exact List.suffix_refl _
  | case2 rest => exact (List.dropWhile_suffix _).trans (List.suffix_cons _ rest)
  | case3 => exact List.suffix_refl _

/-- What is left behind a sign is an end of the text. -/
theorem splitSign_suffix (text : List CodePoint) : (Text.splitSign text).2 <:+ text := by
  fun_cases Text.splitSign text with
  | case1 rest => exact List.suffix_cons _ rest
  | case2 rest => exact List.suffix_cons _ rest
  | case3 => exact List.suffix_refl _

/-- What is left behind an exponent is an end of the text. -/
theorem splitExponent_suffix (text : List CodePoint) : (splitExponent text).2 <:+ text := by
  fun_cases splitExponent text with
  | case1 mark rest => exact List.suffix_refl _
  | case2 mark rest => exact List.suffix_refl _
  | case3 mark rest _ negative body hsign =>
      have hbody : body <:+ rest := by simpa [hsign] using splitSign_suffix rest
      have hdigits := List.dropWhile_suffix CodePoint.isDigit (l := body)
      exact (hdigits.trans hbody).trans (List.suffix_cons mark rest)
  | case4 => exact List.suffix_refl _

/-- What stands behind the sign of a number. -/
theorem unsigned_suffix {text body : List CodePoint} {negative : Bool}
    (h : (match text with
      | .char '-' :: rest => (true, rest)
      | _ => (false, text)) = (negative, body)) : body <:+ text := by
  split at h
  · cases h
    exact List.suffix_cons _ _
  · cases h
    exact List.suffix_refl _

/-- What stands behind a number. -/
theorem afterNumber_suffix {body whole afterWhole fraction afterFraction rest : List CodePoint}
    {exponent : Option Int} (hwhole : splitWhole body = (whole, afterWhole))
    (hfraction : splitFraction afterWhole = (fraction, afterFraction))
    (hexponent : splitExponent afterFraction = (exponent, rest)) : rest <:+ body := by
  have hrest : rest <:+ afterFraction := by
    simpa [hexponent] using splitExponent_suffix afterFraction
  have hafter : afterFraction <:+ afterWhole := by
    simpa [hfraction] using splitFraction_suffix afterWhole
  have hbody : afterWhole <:+ body := ⟨whole, by simpa [hwhole] using splitWhole_append body⟩
  exact (hrest.trans hafter).trans hbody

/-- The digits of a number stand in a row at its front. -/
theorem longRun_splitWhole {body whole afterWhole : List CodePoint}
    (hwhole : splitWhole body = (whole, afterWhole)) (hlimit : Text.digitLimit < whole.length) :
    LongRun body whole.length := by
  have hbody : whole <+: body := ⟨afterWhole, by simpa [hwhole] using splitWhole_append body⟩
  refine ⟨hlimit, whole, hbody.isInfix, rfl, fun c hc => ?_⟩
  exact isDigit_of_mem_splitWhole (by rwa [hwhole])

/-- A number is read within the text. -/
theorem within_readNumber (text : List CodePoint) : Within text (readNumber text) := by
  fun_cases readNumber text with
  | case1 => exact .complaint
  | case2 negative body hsign whole afterWhole hwhole _ _ _ _ _ _ _ _ hlimit =>
      exact .tooManyDigits ((longRun_splitWhole hwhole hlimit).of_suffix (unsigned_suffix hsign))
  | case3 negative body hsign whole afterWhole hwhole _ fraction _ hfraction exponent rest
      hexponent =>
      exact .ok ((afterNumber_suffix hwhole hfraction hexponent).trans (unsigned_suffix hsign))
  | case4 negative body hsign whole afterWhole hwhole _ fraction _ hfraction exponent rest
      hexponent =>
      exact .ok ((afterNumber_suffix hwhole hfraction hexponent).trans (unsigned_suffix hsign))

/-! ## Values -/

/-- A word is read within the text. -/
theorem within_readWord (text : List CodePoint) : Within text (readWord text) := by
  unfold readWord
  split
  · exact .ok (List.drop_suffix _ _)
  · exact within_readNumber text

/-- The items of an array are read within the text when its values are. -/
theorem within_readItems_succ {steps : Nat} (hvalue : ∀ text, Within text (readValue steps text))
    (hitems : ∀ text, Within text (readItems steps text)) (text : List CodePoint) :
    Within text (readItems (steps + 1) text) := by
  unfold readItems
  refine (hvalue text).bind fun item rest => Within.of_suffix ?_ (skipSpace_suffix rest)
  dsimp only
  generalize skipSpace rest = found
  split
  · exact .ok (List.suffix_cons _ _)
  · rename_i more
    exact ((hitems (skipSpace more)).map (item :: ·)).of_suffix (skipSpace_suffix_cons ',' more)
  · exact .complaint

/-- The members of an object are read within the text when its values are. -/
theorem within_readMembers_succ {steps : Nat} (hvalue : ∀ text, Within text (readValue steps text))
    (hmembers : ∀ text, Within text (readMembers steps text)) (text : List CodePoint) :
    Within text (readMembers (steps + 1) text) := by
  unfold readMembers
  split
  · rename_i opening
    refine ((within_readString _ 0 opening).bind fun chars afterKey => ?_).of_suffix
      (List.suffix_cons _ _)
    -- A colon has to follow the key, and behind the value a comma or the closing brace.
    refine Within.of_suffix ?_ (skipSpace_suffix afterKey)
    dsimp only
    generalize skipSpace afterKey = found
    split
    · rename_i afterColon
      refine ((hvalue (skipSpace afterColon)).bind fun value afterValue => ?_).of_suffix
        (skipSpace_suffix_cons ':' afterColon)
      refine Within.of_suffix ?_ (skipSpace_suffix afterValue)
      dsimp only
      generalize skipSpace afterValue = found
      split
      · exact .ok (List.suffix_cons _ _)
      · rename_i more
        exact ((hmembers (skipSpace more)).map (_ :: ·)).of_suffix (skipSpace_suffix_cons ',' more)
      · exact .complaint
    · exact .complaint
  · exact .complaint

/-- A value is read within the text when the items and the members in it are. -/
theorem within_readValue_succ {steps : Nat} (hitems : ∀ text, Within text (readItems steps text))
    (hmembers : ∀ text, Within text (readMembers steps text)) (text : List CodePoint) :
    Within text (readValue (steps + 1) text) := by
  unfold readValue
  split
  · rename_i rest
    have hstring := (within_readString (.char '"' :: rest) 0 rest).map fun chars =>
      str (Text.ofList chars)
    exact hstring.of_suffix (List.suffix_cons _ rest)
  · rename_i rest
    refine Within.of_suffix ?_ (skipSpace_suffix_cons _ rest)
    generalize skipSpace rest = inside
    split
    · exact .ok (List.suffix_cons _ _)
    · exact (hitems inside).map Json.arr
  · rename_i rest
    refine Within.of_suffix ?_ (skipSpace_suffix_cons _ rest)
    generalize skipSpace rest = inside
    split
    · exact .ok (List.suffix_cons _ _)
    · exact (hmembers inside).map fun members => obj (Assoc.ofList members)
  · exact within_readWord text

/-- Values, items and members, by induction on the number of steps. -/
theorem within_read_all (steps : Nat) :
    (∀ text, Within text (readValue steps text)) ∧ (∀ text, Within text (readItems steps text)) ∧
      ∀ text, Within text (readMembers steps text) := by
  induction steps with
  | zero => exact ⟨fun _ => .complaint, fun _ => .complaint, fun _ => .complaint⟩
  | succ steps ih =>
      obtain ⟨hvalue, hitems, hmembers⟩ := ih
      exact ⟨within_readValue_succ hitems hmembers, within_readItems_succ hvalue hitems,
        within_readMembers_succ hvalue hmembers⟩

/-- A value is read within the text. -/
theorem within_readValue (steps : Nat) (text : List CodePoint) :
    Within text (readValue steps text) :=
  (within_read_all steps).1 text

/-- A document is refused for too many digits only when it has that many digits in a row. -/
theorem longRun_of_read {text : List CodePoint} {count : Nat}
    (h : read text = .error (.tooManyDigits count)) : LongRun text count := by
  have hread := (within_readValue (2 * text.length + 2) (skipSpace text)).of_suffix
    (skipSpace_suffix text)
  unfold read at h
  split_ifs at h
  · cases h
  · generalize readValue (2 * text.length + 2) (skipSpace text) = reading at h hread
    cases hread with
    | ok hrest =>
        simp only [ok_bind] at h
        split_ifs at h <;> cases h
    | complaint => cases h
    | tooManyDigits hrun =>
        cases h
        exact hrun

end Json

/-! ## Line ends -/

namespace Text

/-- Up to the first line end a text stays as it is. -/
theorem prefix_of_normalizeNewlines {run text : List CodePoint} (hrun : .char '\n' ∉ run)
    (h : run <+: normalizeNewlines text) : run <+: text := by
  induction text using normalizeNewlines.induct generalizing run with
  | case1 => exact h
  | case2 rest ih =>
      rw [normalizeNewlines] at h
      cases run with
      | nil => exact List.nil_prefix
      | cons first more =>
          obtain ⟨rfl, _⟩ := List.cons_prefix_cons.1 h
          exact absurd List.mem_cons_self hrun
  | case3 c rest hc ih =>
      rw [normalizeNewlines.eq_3 c rest hc] at h
      cases run with
      | nil => exact List.nil_prefix
      | cons first more =>
          obtain ⟨hfirst, hmore⟩ := List.cons_prefix_cons.1 h
          obtain ⟨hne, hnot⟩ := List.ne_and_not_mem_of_not_mem_cons hrun
          have hcarriage : c ≠ '\r' := fun heq => hne (by rw [hfirst, if_pos heq])
          rw [if_neg hcarriage] at hfirst
          exact List.cons_prefix_cons.2 ⟨hfirst, ih hnot hmore⟩

/-- Characters in a row, none of which ends a line, are in a row in the file. -/
theorem infix_of_normalizeNewlines {run text : List CodePoint} (hrun : .char '\n' ∉ run)
    (h : run <:+: normalizeNewlines text) : run <:+: text := by
  induction text using normalizeNewlines.induct with
  | case1 => exact h
  | case2 rest ih =>
      have hrest : rest <:+ .char '\r' :: .char '\n' :: rest :=
        (List.suffix_cons _ rest).trans (List.suffix_cons _ _)
      rw [normalizeNewlines, List.infix_cons_iff, ← normalizeNewlines] at h
      rcases h with hfront | hinside
      · exact (prefix_of_normalizeNewlines hrun hfront).isInfix
      · exact (ih hinside).trans hrest.isInfix
  | case3 c rest hc ih =>
      rw [normalizeNewlines.eq_3 c rest hc, List.infix_cons_iff, ← normalizeNewlines.eq_3 c rest hc]
        at h
      rcases h with hfront | hinside
      · exact (prefix_of_normalizeNewlines hrun hfront).isInfix
      · exact (ih hinside).trans (List.suffix_cons c rest).isInfix

end Text

/-- A long run of digits is there before line ends are normalised. -/
theorem Json.LongRun.of_normalizeNewlines {text : List CodePoint} {count : Nat}
    (h : Json.LongRun (Text.normalizeNewlines text) count) : Json.LongRun text count := by
  obtain ⟨hlimit, digits, hdigits, hlength, hall⟩ := h
  have hnewline : .char '\n' ∉ digits := fun hmem => absurd (hall _ hmem) (by decide)
  exact ⟨hlimit, digits, Text.infix_of_normalizeNewlines hnewline hdigits, hlength, hall⟩

/-! ## Files -/

/-- The codes of the messages for the user. -/
def Rejection.codes : List Text :=
  ["[JSN-0010]", "[JSN-0020]", "[JSN-0030]"]

/-- The message of a rejection begins with one of the codes. -/
theorem Rejection.exists_code (rejection : Rejection) :
    ∃ code ∈ Rejection.codes, ∃ rest, rejection.message = code ++ rest := by
  cases rejection with
  | unmet wanted got =>
      have hcode : ("[JSN-0020] " : Text) = "[JSN-0020]" ++ " " := by decide
      refine ⟨"[JSN-0020]", by decide, " " ++ (wanted.message ++ gotText got), ?_⟩
      change "[JSN-0020] " ++ wanted.message ++ gotText got = _
      rw [hcode, Text.append_assoc, Text.append_assoc]
  | unknownTag what tag =>
      have hcode : ("[JSN-0030] unknown " : Text) = "[JSN-0030]" ++ " unknown " := by decide
      refine ⟨"[JSN-0030]", by decide, " unknown " ++ what ++ " '" ++ tag ++ "'", ?_⟩
      change "[JSN-0030] unknown " ++ what ++ " '" ++ tag ++ "'" = _
      simp only [hcode, Text.append_assoc]
  | notJson what line column =>
      have hcode : ("[JSN-0010] invalid JSON at " : Text)
          = "[JSN-0010]" ++ " invalid JSON at " := by decide
      refine ⟨"[JSN-0010]", by decide, " invalid JSON at " ++ Text.natural line ++ ":"
        ++ Text.natural column ++ ": " ++ what.message, ?_⟩
      change "[JSN-0010] invalid JSON at " ++ Text.natural line ++ ":" ++ Text.natural column
        ++ ": " ++ what.message = _
      simp only [hcode, Text.append_assoc]
  | notUtf8 fault =>
      have hcode : ("[JSN-0010] invalid UTF-8 at byte " : Text)
          = "[JSN-0010]" ++ " invalid UTF-8 at byte " := by decide
      refine ⟨"[JSN-0010]", by decide, " invalid UTF-8 at byte " ++ Text.natural fault.offset
        ++ ": " ++ fault.reason.message, ?_⟩
      change "[JSN-0010] invalid UTF-8 at byte " ++ Text.natural fault.offset ++ ": "
        ++ fault.reason.message = _
      simp only [hcode, Text.append_assoc]

namespace Crate

/-- Loading gives a crate, or it reports a fault of the file under one of the codes. -/
def Reports (path : Text) (outcome : Except LoadFailure Crate) : Prop :=
  (∃ crate, outcome = .ok crate) ∨
    ∃ rejection, outcome = .error (.rejected ⟨rejection, some path⟩) ∧
      ∃ code ∈ Rejection.codes, ∃ rest, rejection.message = code ++ rest

/-- A rejection is reported with the path of the file. -/
theorem reports_rejected (path : Text) (rejection : Rejection) :
    Reports path (.error (.rejected ⟨rejection, some path⟩)) :=
  .inr ⟨rejection, rfl, rejection.exists_code⟩

/-- A number with too many digits is not reported. -/
theorem not_reports_tooManyDigits (path : Text) (count : Nat) :
    ¬ Reports path (.error (.tooManyDigits count)) := by
  rintro (⟨crate, hcrate⟩ | ⟨rejection, hrejection, _⟩)
  · cases hcrate
  · cases hrejection

/-- The outcome of loading a file whose bytes are at hand. -/
theorem outcome_load (path : Text) (bytes : List UInt8) :
    (load path (.ok bytes)).outcome = (do
      let json ← jsonOfBytes path bytes
      (ofJson json).outcome.mapError fun rejection => .rejected ⟨rejection, some path⟩) := by
  rw [load, Logged.outcome_emit_bind, Logged.outcome_bind]
  simp only [Logged.outcome_bind, Logged.ofExcept, Except.mapError, ok_bind]
  refine bind_congr fun json => ?_
  unfold Logged.mapError
  cases (ofJson json).outcome <;> rfl

/-- A file whose value is at hand is loaded, or what is wrong with the value is reported. -/
theorem reports_of_jsonOfBytes {path : Text} {bytes : List UInt8} {json : Json}
    (h : jsonOfBytes path bytes = .ok json) : Reports path (load path (.ok bytes)).outcome := by
  rw [outcome_load, h, ok_bind]
  cases (ofJson json).outcome with
  | ok crate => exact .inl ⟨crate, rfl⟩
  | error rejection => exact reports_rejected path rejection

/-- A text with an integer literal of too many digits is not reported. -/
theorem outcome_load_of_tooManyDigits {path : Text} {bytes : List UInt8} {text : List CodePoint}
    {count : Nat} (htext : Text.decodeUtf8 bytes = .ok text)
    (h : Json.read (Text.normalizeNewlines text) = .error (.tooManyDigits count)) :
    (load path (.ok bytes)).outcome = .error (.tooManyDigits count) := by
  have hparse : Json.parse (Text.normalizeNewlines text) = .error (.tooManyDigits count) := by
    rw [Json.parse, h]
    rfl
  have hjson : jsonOfBytes path bytes = .error (.tooManyDigits count) := by
    simp only [jsonOfBytes, htext, hparse]
  rw [outcome_load, hjson, error_bind]

/-- A load reports unless the file has a number with too many digits. -/
theorem reports_of_read {path : Text} {bytes : List UInt8}
    (h : ∀ text count, Text.decodeUtf8 bytes = .ok text →
      Json.read (Text.normalizeNewlines text) ≠ .error (.tooManyDigits count)) :
    Reports path (load path (.ok bytes)).outcome := by
  cases htext : Text.decodeUtf8 bytes with
  | error fault =>
      have hjson : jsonOfBytes path bytes = .error (.rejected ⟨.notUtf8 fault, some path⟩) := by
        simp only [jsonOfBytes, htext]
      rw [outcome_load, hjson, error_bind]
      exact reports_rejected path _
  | ok text =>
      cases hread : Json.read (Text.normalizeNewlines text) with
      | ok json =>
          have hjson : jsonOfBytes path bytes = .ok json := by
            simp only [jsonOfBytes, htext, Json.parse, hread, Except.mapError]
          exact reports_of_jsonOfBytes hjson
      | error stop =>
          cases stop with
          | tooManyDigits count => exact absurd hread (h text count htext)
          | complaint what rest =>
              obtain ⟨line, column, hplace⟩ : ∃ line column,
                  Json.Stop.toParseError (Text.normalizeNewlines text) (.complaint what rest)
                    = .complaint what line column := ⟨_, _, rfl⟩
              have hjson : jsonOfBytes path bytes
                  = .error (.rejected ⟨.notJson what line column, some path⟩) := by
                simp only [jsonOfBytes, htext, Json.parse, hread, Except.mapError, hplace]
              rw [outcome_load, hjson, error_bind]
              exact reports_rejected path _

/-- Loading a file gives a crate or reports a fault of the file, except for a text in which the
reader meets an integer literal of too many digits.  Then the file has that many digits in a row,
more than the limit, and loading fails without a report. -/
theorem load_reports_iff (path : Text) (bytes : List UInt8) :
    (Reports path (load path (.ok bytes)).outcome ↔
      ∀ text count, Text.decodeUtf8 bytes = .ok text →
        Json.read (Text.normalizeNewlines text) ≠ .error (.tooManyDigits count)) ∧
    ∀ text count, Text.decodeUtf8 bytes = .ok text →
      Json.read (Text.normalizeNewlines text) = .error (.tooManyDigits count) →
        (load path (.ok bytes)).outcome = .error (.tooManyDigits count) ∧
          Json.LongRun text count := by
  refine ⟨⟨fun hreports text count htext hread => ?_, reports_of_read⟩,
    fun text count htext hread => ⟨outcome_load_of_tooManyDigits htext hread, ?_⟩⟩
  · rw [outcome_load_of_tooManyDigits htext hread] at hreports
    exact not_reports_tooManyDigits path count hreports
  · exact (Json.longRun_of_read hread).of_normalizeNewlines

end Crate

/-! ## A file with too many digits -/

/-- Bytes of the digit one are decoded to this digit. -/
theorem Text.decodeUtf8From_ones (offset count : Nat) :
    Text.decodeUtf8From offset none (List.replicate count 49)
      = .ok (List.replicate count (.char '1')) := by
  induction count generalizing offset with
  | zero => rfl
  | succ count ih =>
      rw [List.replicate_succ, List.replicate_succ, Text.decodeUtf8From, ih]
      rfl

/-- Digits have no line ends that could be normalised. -/
theorem Text.normalizeNewlines_ones (count : Nat) :
    Text.normalizeNewlines (List.replicate count (.char '1'))
      = List.replicate count (.char '1') := by
  induction count with
  | zero => rfl
  | succ count ih =>
      rw [List.replicate_succ, Text.normalizeNewlines.eq_3 _ _ (by simp), ih]
      rfl

/-- Digits one are the whole part of a number. -/
theorem Json.splitWhole_ones (count : Nat) :
    Json.splitWhole (.char '1' :: List.replicate count (.char '1'))
      = (.char '1' :: List.replicate count (.char '1'), []) := by
  have hdigit : ∀ c ∈ CodePoint.char '1' :: List.replicate count (.char '1'),
      c.isDigit = true := fun c hc => by
    rw [← List.replicate_succ] at hc
    rw [List.eq_of_mem_replicate hc]
    rfl
  have hsplit : Json.splitWhole (.char '1' :: List.replicate count (.char '1'))
      = ((CodePoint.char '1' :: List.replicate count (.char '1')).takeWhile CodePoint.isDigit,
        (CodePoint.char '1' :: List.replicate count (.char '1')).dropWhile CodePoint.isDigit) := rfl
  rw [hsplit, List.takeWhile_eq_self_iff.2 hdigit, List.dropWhile_eq_nil_iff.2 hdigit]

/-- A document that is one integer literal of too many digits. -/
theorem Json.read_ones {count : Nat} (h : Text.digitLimit < count + 1) :
    Json.read (.char '1' :: List.replicate count (.char '1'))
      = .error (.tooManyDigits (count + 1)) := by
  have hnumber : Json.readNumber (.char '1' :: List.replicate count (.char '1'))
      = .error (.tooManyDigits (count + 1)) := by
    simp [Json.readNumber, Json.splitWhole_ones, Json.splitFraction, Json.splitExponent, h]
  have hvalue (steps : Nat) :
      Json.readValue (steps + 1) (.char '1' :: List.replicate count (.char '1'))
        = Json.readNumber (.char '1' :: List.replicate count (.char '1')) := rfl
  have hspace : Json.skipSpace (.char '1' :: List.replicate count (.char '1'))
      = .char '1' :: List.replicate count (.char '1') := rfl
  unfold Json.read
  rw [hspace, hvalue, hnumber]
  rfl

namespace Crate

/-- A file with one digit more than the limit is not reported. -/
theorem not_reports_of_ones :
    ¬ Reports "demo.llbc" (load "demo.llbc" (.ok (List.replicate 4301 49))).outcome := by
  have hread : Json.read (Text.normalizeNewlines (List.replicate 4301 (.char '1')))
      = .error (.tooManyDigits 4301) := by
    rw [Text.normalizeNewlines_ones, List.replicate_succ]
    exact @Json.read_ones 4300 (by decide)
  rw [outcome_load_of_tooManyDigits (Text.decodeUtf8From_ones 0 4301) hread]
  exact not_reports_tooManyDigits _ _

end Crate

end CrateListing
