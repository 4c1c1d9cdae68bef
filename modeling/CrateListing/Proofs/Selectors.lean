import CrateListing.Proofs.Runs
import Mathlib.Data.List.TakeWhile

/-!
# Selectors

A selector in which every character shows a digit is read as an integer.  Not
every such text is an integer literal: superscripts and circled digits show a
digit and are no decimal digits, and a literal has a limited number of digits.
With a selector of this kind a run is broken off where it would have to say that
there is no such declaration.  A run is also broken off when its indentation
cannot be made or its text cannot be encoded.

Main definitions:

- `Text.Selects`: a text that can be used as a selector.
- `Invocation.DeliveryEnds`: delivering a text comes to an end.

Main results:

- Theorem `Text.readInteger_of_decimal`: the integer that a text of decimal digits stands for.
- Theorem `Text.succeeds_readInteger_iff`: which texts that show digits are integer literals.
- Theorem `Crate.succeeds_select_iff`: which selectors lead to an answer.
- Theorem `Invocation.execute_one_ends_iff`: when a run for one declaration comes to its end.
- Theorem `Invocation.aborted_of_superscript`: a run that does not.
-/

namespace CrateListing

open Outcome

/-! ## Digits and other characters -/

namespace Text

/-- No code point is in both of two tables when no range of one meets a range of the other. -/
theorem Ranges.not_holds_of_apart {ranges others : Ranges}
    (hapart : ∀ range ∈ ranges, ∀ other ∈ others, range.2 < other.1 ∨ other.2 < range.1)
    {code : Nat} (h : ranges.holds code = true) : others.holds code = false := by
  obtain ⟨range, hrange, hlow, hhigh⟩ := (ranges.holds_iff code).1 h
  rw [Bool.eq_false_iff]
  intro hothers
  obtain ⟨other, hother, hlow', hhigh'⟩ := (others.holds_iff code).1 hothers
  rcases hapart range hrange other hother with hlt | hlt
  · omega
  · omega

/-- The characters that show a digit. -/
def digitRanges : Ranges :=
  zeros.map (fun first => (first, first + 9)) ++ digitShapeRanges

/-- A character that shows a digit is in the table of such characters. -/
theorem holds_digitRanges {c : CodePoint} (h : showsDigit c = true) :
    digitRanges.holds c.toNat = true := by
  rw [showsDigit, Bool.or_eq_true] at h
  rw [digitRanges, Ranges.holds, List.any_append, Bool.or_eq_true]
  refine h.imp (fun hdecimal => ?_) id
  rw [isDecimal, digitValue?, Option.isSome_map, List.find?_isSome] at hdecimal
  rw [List.any_map, List.any_eq_true]
  exact hdecimal

/-- A character that shows a digit is no blank. -/
theorem isBlank_of_showsDigit {c : CodePoint} (h : showsDigit c = true) : isBlank c = false :=
  Ranges.not_holds_of_apart (by decide) (holds_digitRanges h)

/-- A character that shows a digit is one of a literal only as a decimal digit. -/
theorem isNumeralChar_of_showsDigit {c : CodePoint} (h : showsDigit c = true) :
    isNumeralChar c = isDecimal c := by
  have hunderscore : c ≠ '_' := by
    rintro rfl
    exact absurd h (by decide)
  simp [isNumeralChar, hunderscore]

/-- A character that shows a digit is no blank that could be dropped. -/
theorem dropBlanks_of_showsDigit {text : List CodePoint} (h : ∀ c ∈ text, showsDigit c = true) :
    dropBlanks text = text := by
  cases text with
  | nil => rfl
  | cons c rest =>
      rw [dropBlanks, List.dropWhile_cons_of_neg]
      simp [isBlank_of_showsDigit (h c List.mem_cons_self)]

/-- A text that shows digits has no sign. -/
theorem splitSign_of_showsDigit {text : List CodePoint} (h : ∀ c ∈ text, showsDigit c = true) :
    splitSign text = (false, text) := by
  have hminus : ∀ rest, text ≠ .char '-' :: rest := by
    rintro rest rfl
    exact absurd (h '-' List.mem_cons_self) (by decide)
  have hplus : ∀ rest, text ≠ .char '+' :: rest := by
    rintro rest rfl
    exact absurd (h '+' List.mem_cons_self) (by decide)
  exact splitSign.eq_3 text hminus hplus

/-- A text without underscores has none in a wrong place. -/
theorem underscoresSeparate_of_digits {text : List CodePoint} (h : .char '_' ∉ text) :
    underscoresSeparate true text = true := by
  induction text with
  | nil => rfl
  | cons c rest ih =>
      obtain ⟨hc, hrest⟩ := List.ne_and_not_mem_of_not_mem_cons h
      rw [underscoresSeparate, if_neg hc.symm]
      exact ih hrest

/-- Each decimal digit has a value. -/
theorem length_filterMap_digitValue? {text : List CodePoint} (h : ∀ c ∈ text, isDecimal c = true) :
    (text.filterMap digitValue?).length = text.length := by
  induction text with
  | nil => rfl
  | cons c rest ih =>
      obtain ⟨value, hvalue⟩ := Option.isSome_iff_exists.1 (h c List.mem_cons_self)
      rw [List.filterMap_cons_some hvalue, List.length_cons, List.length_cons,
        ih fun d hd => h d (List.mem_cons_of_mem c hd)]

/-! ## Texts of digits as integers -/

/-- A decimal digit shows a digit. -/
theorem showsDigit_of_isDecimal {c : CodePoint} (h : isDecimal c = true) : showsDigit c = true := by
  rw [showsDigit, h, Bool.true_or]

/-- A text of decimal digits stands for an integer unless it is too long. -/
theorem readInteger_of_decimal {text : Text} (hne : text.toList ≠ [])
    (h : ∀ c ∈ text.toList, isDecimal c = true) :
    readInteger text
      = if text.length > digitLimit then .error (.tooLong text.length)
        else .ok (ofDigits (text.toList.filterMap digitValue?)) := by
  have hshows : ∀ c ∈ text.toList, showsDigit c = true := fun c hc =>
    showsDigit_of_isDecimal (h c hc)
  have hnumeral : ∀ c ∈ text.toList, isNumeralChar c = true := fun c hc => by
    rw [isNumeralChar_of_showsDigit (hshows c hc), h c hc]
  have hunderscore : .char '_' ∉ text.toList := fun hmem => absurd (h '_' hmem) (by decide)
  have hseparate : underscoresSeparate false text.toList = true := by
    cases hchars : text.toList with
    | nil => exact absurd hchars hne
    | cons c rest =>
        rw [hchars] at hunderscore
        obtain ⟨hc, hrest⟩ := List.ne_and_not_mem_of_not_mem_cons hunderscore
        rw [underscoresSeparate, if_neg hc.symm, underscoresSeparate_of_digits hrest]
  rw [readInteger, dropBlanks_of_showsDigit hshows, splitSign_of_showsDigit hshows]
  simp only [List.takeWhile_eq_self_iff.2 hnumeral, List.dropWhile_eq_nil_iff.2 hnumeral,
    hseparate, length_filterMap_digitValue? h, Text.length_toList]
  rfl

/-- A text that shows digits and goes on with something else than decimal digits is no integer
literal. -/
theorem not_succeeds_readInteger {text : Text}
    (hshows : ∀ c ∈ text.toList, showsDigit c = true)
    (h : ¬ ∀ c ∈ text.toList, isDecimal c = true) : ¬ Succeeds (readInteger text) := by
  -- What is left behind the decimal digits shows digits as well, so that it is not blank.
  have hrest : ∀ c ∈ text.toList.dropWhile isNumeralChar, showsDigit c = true := fun c hc =>
    hshows c ((List.dropWhile_suffix _).subset hc)
  have hleft : (text.toList.dropWhile isNumeralChar).isEmpty = false := by
    rw [List.isEmpty_eq_false_iff, Ne, List.dropWhile_eq_nil_iff]
    intro hnumeral
    refine h fun c hc => ?_
    rw [← isNumeralChar_of_showsDigit (hshows c hc)]
    exact hnumeral c hc
  rw [readInteger, dropBlanks_of_showsDigit hshows, splitSign_of_showsDigit hshows]
  simp only [dropBlanks_of_showsDigit hrest, hleft, Bool.not_false, if_true]
  split_ifs
  · exact not_succeeds_error _
  · exact not_succeeds_error _
  · exact not_succeeds_error _

/-- A text that can be used as a selector: if all its characters show digits, they are decimal
digits, and not more than an integer literal may have. -/
def Selects (text : Text) : Prop :=
  allShowDigits text = true →
    (∀ c ∈ text.toList, isDecimal c = true) ∧ text.length ≤ digitLimit

/-- The texts that show digits and are integer literals. -/
theorem succeeds_readInteger_iff {text : Text} (h : allShowDigits text = true) :
    Succeeds (readInteger text) ↔
      (∀ c ∈ text.toList, isDecimal c = true) ∧ text.length ≤ digitLimit := by
  rw [allShowDigits, Bool.and_eq_true, List.all_eq_true] at h
  obtain ⟨hne, hshows⟩ := h
  have hchars : text.toList ≠ [] := by simpa [Text.isEmpty_eq_false_iff] using hne
  by_cases hdecimal : ∀ c ∈ text.toList, isDecimal c = true
  · rw [readInteger_of_decimal hchars hdecimal]
    split_ifs with hlong
    · simp only [not_succeeds_error, false_iff, not_and, not_le]
      exact fun _ => hlong
    · simp only [succeeds_ok, true_iff]
      exact ⟨hdecimal, not_lt.1 hlong⟩
  · simp [not_succeeds_readInteger hshows hdecimal, hdecimal]

end Text

/-! ## Selections -/

/-- A selection has an answer exactly for a text that can be used as a selector. -/
theorem Crate.succeeds_select_iff (crate : Crate) (kind : DeclKind) (selector : Text) :
    Succeeds (crate.select kind selector) ↔ Text.Selects selector := by
  rw [Crate.select, Text.Selects]
  split_ifs with hdigits
  · rw [succeeds_map, Text.succeeds_readInteger_iff hdigits]
    exact ⟨fun h _ => h, fun h => h hdigits⟩
  · simp [hdigits]

/-- What is selected is a declaration of the crate. -/
theorem Crate.mem_ofKind_of_select {crate : Crate} {kind : DeclKind} {selector : Text}
    {decl : Declaration} (h : crate.select kind selector = .ok (some decl)) :
    decl ∈ crate.ofKind kind := by
  rw [Crate.select] at h
  split_ifs at h
  · obtain ⟨id, -, hfind⟩ := map_eq_ok_iff.1 h
    exact Crate.mem_ofKind_of_find? hfind
  · cases hfound : crate.findNamed? kind selector with
    | none =>
        rw [hfound] at h
        cases h
    | some found =>
        rw [hfound] at h
        cases h
        exact List.mem_of_find?_eq_some hfound

/-! ## Runs for one declaration -/

namespace Invocation

variable {α σ : Type} {invocation : Invocation} {system : System σ} {state : σ}

/-- A computation that is broken off. -/
def Aborts (x : Logged Ending α) : Prop :=
  ∃ reason, x.outcome = .error (.aborted reason)

/-- Giving up is not breaking off. -/
theorem not_aborts_orGiveUp (x : Logged InternalError α) : ¬ Aborts (orGiveUp x) := by
  rintro ⟨reason, hreason⟩
  rw [orGiveUp, Logged.outcome_andThen] at hreason
  cases hx : x.outcome with
  | ok a =>
      rw [hx] at hreason
      cases hreason
  | error error =>
      rw [hx] at hreason
      cases hreason

/-- The pass does not break a run off. -/
theorem not_aborts_prepare (invocation : Invocation) (options : Options) (crate : Crate) :
    ¬ Aborts (invocation.prepare options crate) := by
  rw [prepare]
  split_ifs
  · exact not_aborts_orGiveUp _
  · rintro ⟨reason, hreason⟩
    cases hreason

/-- One declaration is shown, or it is said why not, unless the selector cannot be used. -/
theorem aborts_showOne_iff (options : Options) (crate : Crate) (kind : DeclKind)
    (selector : Text) :
    Aborts (showOne options crate kind selector) ↔ ¬ Text.Selects selector := by
  rw [← Crate.succeeds_select_iff crate kind, showOne]
  cases crate.select kind selector with
  | error error => simp [Aborts, Logged.fail]
  | ok found =>
      cases found with
      | none => simp [Aborts]
      | some decl => simp [not_aborts_orGiveUp]

/-- Once the crate is loaded, the text of one declaration is made or it is said why not, unless
there is no indentation or the selector is needed and cannot be used. -/
theorem aborts_make_iff {kind : DeclKind} {selector : Text} {loaded : Crate}
    (htask : invocation.task = .one kind (some selector))
    (hload : invocation.Loads system state loaded) :
    Aborts (invocation.make system state) ↔
      ¬ Succeeds (invocation.options system.hasRoom) ∨
        (∃ options crate, invocation.options system.hasRoom = .ok options ∧
          invocation.WorksOn system state options crate) ∧ ¬ Text.Selects selector := by
  have hcrate := (outcome_loadCrate_eq_ok_iff invocation system state loaded).2 hload
  have hworks (options : Options) (crate : Crate) :
      invocation.WorksOn system state options crate ↔
        (invocation.prepare options loaded).outcome = .ok crate := by
    rw [outcome_prepare_eq_ok_iff]
    refine ⟨fun ⟨other, hother, hrewritten⟩ => ?_, fun h => ⟨loaded, hload, h⟩⟩
    rw [Loads, hload] at hother
    cases hother
    exact hrewritten
  unfold Aborts
  simp only [make, produce, Logged.outcome_bind, Logged.ofExcept, hcrate, htask, perform, ok_bind,
    hworks]
  cases invocation.options system.hasRoom with
  | error error => simp [Except.mapError]
  | ok options =>
      simp only [Except.mapError, ok_bind, succeeds_ok, not_true_eq_false, false_or,
        Except.ok.injEq]
      cases hprepare : (invocation.prepare options loaded).outcome with
      | error ending =>
          have hstatus : ∀ reason, ending ≠ .aborted reason := by
            rintro reason rfl
            exact not_aborts_prepare invocation options loaded ⟨reason, hprepare⟩
          simp [hstatus, hprepare]
      | ok crate =>
          have hshow := aborts_showOne_iff options crate kind selector
          simp only [Aborts] at hshow
          simp [hshow, hprepare]

/-- Delivering a text comes to an end: the text can be shown, or, if there is a file for it, the
file can have its name, and the text can be written or the system refuses even to empty the file. -/
def DeliveryEnds (invocation : Invocation) (system : System σ) (state : σ) (text : Text) : Prop :=
  match invocation.target? with
  | none => text.IsEncodable
  | some target => ∃ path, (Path.parse target).encode = .ok path ∧
      (text.IsEncodable ∨ ¬ Succeeds (system.write state path []))

/-- An attempt to deliver a text is broken off unless delivering it comes to an end. -/
theorem Delivery.aborts_iff {text : Text} {result : Result σ}
    (h : invocation.Delivery system state text result) :
    (∃ reason, result.ending = .aborted reason) ↔ ¬ invocation.DeliveryEnds system state text := by
  rw [DeliveryEnds, ← succeeds_bytesOf_iff]
  cases h with
  | shown htarget hbytes => simp [htarget, hbytes]
  | unshowable htarget hfault => simp [htarget, hfault]
  | written htarget hpath hbytes hwrite => simp [htarget, hpath, hbytes]
  | refused htarget hpath hwrite =>
      cases hbytes : bytesOf text with
      | ok bytes => simp [htarget, hpath]
      | error fault =>
          rw [hbytes, Except.toOption, Option.getD_none] at hwrite
          simp [htarget, hpath, hwrite]
  | emptied htarget hpath hfault hwrite => simp [htarget, hpath, hfault, hwrite]
  | unusable htarget hpath => simp [htarget, hpath]

/-- A run is broken off while its text is made or while it is delivered. -/
theorem ending_aborted_iff (invocation : Invocation) (system : System σ) (state : σ) :
    (∃ reason, (invocation.execute system state).ending = .aborted reason) ↔
      Aborts (invocation.make system state) ∨
        ∃ text, invocation.Renders system state text ∧
          ¬ invocation.DeliveryEnds system state text := by
  simp only [← outcome_make_eq_ok_iff, Aborts]
  cases houtcome : (invocation.make system state).outcome with
  | error ending => simp [execute_of_error houtcome]
  | ok text =>
      rw [execute_of_ok houtcome]
      simp [(delivery_deliver invocation system state text).aborts_iff]

/-- A run that is not broken off ends with status 0 or 1. -/
theorem ending_status_iff (invocation : Invocation) (system : System σ) (state : σ) :
    ((invocation.execute system state).ending = .status 0 ∨
        (invocation.execute system state).ending = .status 1) ↔
      ¬ ∃ reason, (invocation.execute system state).ending = .aborted reason := by
  cases houtcome : (invocation.make system state).outcome with
  | error ending =>
      rw [execute_of_error houtcome]
      cases ending with
      | aborted reason => simp
      | status code => simp [(explained_make invocation system state code houtcome).1]
  | ok text =>
      have hdelivery := delivery_deliver invocation system state text
      rw [execute_of_ok houtcome]
      generalize invocation.deliver system state text = result at hdelivery
      cases hdelivery <;> simp

/-- A run for one declaration of a crate that can be loaded comes to its end, with status 0 or 1,
exactly when its indentation can be made, its selector can be used as soon as there is a crate to
select from, and delivering its text comes to an end as soon as there is a text.  A selector that
can be used leads to a declaration of the crate or to none. -/
theorem execute_one_ends_iff {kind : DeclKind} {selector : Text} {loaded : Crate}
    (htask : invocation.task = .one kind (some selector))
    (hload : invocation.Loads system state loaded) :
    (((invocation.execute system state).ending = .status 0 ∨
        (invocation.execute system state).ending = .status 1) ↔
      Succeeds (invocation.options system.hasRoom) ∧
      (∀ options crate, invocation.options system.hasRoom = .ok options →
        invocation.WorksOn system state options crate → Text.Selects selector) ∧
      ∀ text, invocation.Renders system state text →
        invocation.DeliveryEnds system state text) ∧
    ∀ crate : Crate, (Succeeds (crate.select kind selector) ↔ Text.Selects selector) ∧
      ∀ decl, crate.select kind selector = .ok (some decl) → decl ∈ crate.ofKind kind := by
  refine ⟨?_, fun crate => ⟨crate.succeeds_select_iff kind selector, fun decl =>
    Crate.mem_ofKind_of_select⟩⟩
  rw [ending_status_iff, ending_aborted_iff, aborts_make_iff htask hload]
  constructor
  · intro h
    refine ⟨?_, fun options crate hoptions hcrate => ?_, fun text htext => ?_⟩
    · by_contra hindent
      exact h (.inl (.inl hindent))
    · by_contra hselector
      exact h (.inl (.inr ⟨⟨options, crate, hoptions, hcrate⟩, hselector⟩))
    · by_contra hdelivery
      exact h (.inr ⟨text, htext, hdelivery⟩)
  · rintro ⟨hindent, hselector, hdelivery⟩
      ((hnone | ⟨⟨options, crate, hoptions, hcrate⟩, hunusable⟩) | ⟨text, htext, hbroken⟩)
    · exact hnone hindent
    · exact hunusable (hselector options crate hoptions hcrate)
    · exact hbroken (hdelivery text htext)

/-- A run for one declaration. -/
def forOne (kind : DeclKind) (selector : Text) : Invocation :=
  ⟨.one kind (some selector), "demo.llbc", {}⟩

/-- The file with the type is loaded, whatever is asked for. -/
theorem exists_loads_forOne (kind : DeclKind) (selector : Text) :
    ∃ loaded, (forOne kind selector).Loads Disk.plainSystem Disk.withTypeFile loaded := by
  have hok : (Crate.load (Path.parse "demo.llbc").shown
      ((forOne .type "").content Disk.plainSystem Disk.withTypeFile)).outcome.isOk = true := by
    decide +kernel
  exact succeeds_of_isOk hok

/-- A decimal digit of another script can be used, here for the type with the identifier 0. -/
theorem ends_of_other_script :
    ∃ loaded, (forOne .type "٠").Loads Disk.plainSystem Disk.withTypeFile loaded ∧
      (((forOne .type "٠").execute Disk.plainSystem Disk.withTypeFile).ending = .status 0 ∨
        ((forOne .type "٠").execute Disk.plainSystem Disk.withTypeFile).ending = .status 1) := by
  obtain ⟨loaded, hloaded⟩ := exists_loads_forOne .type "٠"
  have hselects : Text.Selects "٠" := fun _ => ⟨List.all_eq_true.1 (by decide), by decide⟩
  have hmade : (((forOne .type "٠").make Disk.plainSystem Disk.withTypeFile).outcome.toOption.all
      fun text => decide text.IsEncodable) = true := by decide +kernel
  refine ⟨loaded, hloaded, (execute_one_ends_iff rfl hloaded).1.2 ⟨⟨_, rfl⟩, ?_, ?_⟩⟩
  · exact fun _ _ _ _ => hselects
  · intro text htext
    rw [← outcome_make_eq_ok_iff] at htext
    rw [htext] at hmade
    have hencodable : text.IsEncodable := of_decide_eq_true hmade
    exact hencodable

/-- The text of a type whose name is half a surrogate pair is made, but it cannot be shown. -/
example :
    ((forOne .type "0").execute Disk.plainSystem (Disk.withCrateFile
        ("\x7b\"types\": [\x7b\"def_id\": 0, \"name\": [\"\\ud800\"], "
          ++ "\"kind\": \"Opaque\"\x7d]\x7d"))).ending
      = .aborted (.unencodable ⟨12, .surrogate 0, 1⟩) := by
  decide +kernel

/-- A superscript shows a digit and breaks the run off, though the crate can be loaded. -/
theorem aborted_of_superscript :
    (∃ loaded, (forOne .function "²").Loads Disk.plainSystem Disk.withTypeFile loaded) ∧
      ((forOne .function "²").execute Disk.plainSystem Disk.withTypeFile).ending
        = .aborted (.numeral (.malformed "²")) :=
  ⟨exists_loads_forOne .function "²", by decide +kernel⟩

end Invocation
end CrateListing
