import CrateListing.Proofs.Composition

/-!
# Texts on one line

The text of everything below a statement stays on one line as long as the names
in it do.  Numbers, keywords and punctuation have no line end, and the literals
of strings and characters write every control character as an escape.

Main results:

- Theorem `Json.isText_of_mem_escapeAll`: no control character is left in a literal.
- Theorem `composes_oneLine`: texts that are put together from texts on one line are on one line.
- Theorems `Place.oneLine_render`, `Operand.oneLine_render`, `Action.oneLine_render`: the texts of
  places, operands and actions.
-/

namespace CrateListing

open Outcome

/-- A text without a line end. -/
def OneLine (text : Text) : Prop :=
  .char '\n' ∉ text.toList

instance (text : Text) : Decidable (OneLine text) :=
  inferInstanceAs (Decidable (.char '\n' ∉ text.toList))

/-! ## Texts that are put together -/

/-- Two texts are one line when both of them are. -/
@[simp]
theorem oneLine_append (first second : Text) :
    OneLine (first ++ second) ↔ OneLine first ∧ OneLine second := by
  simp [OneLine, not_or]

/-- An unmarked text is one line. -/
theorem Unmarked.oneLine {text : Text} (h : Unmarked text) : OneLine text := by
  intro hmem
  exact h '\n' hmem (by decide)

/-- Texts that are put together from texts on one line are on one line. -/
theorem composes_oneLine : Composes OneLine where
  unmarked := Unmarked.oneLine
  append hfirst hsecond := (oneLine_append _ _).2 ⟨hfirst, hsecond⟩
  braced hinside := by simp +decide [hinside]

/-- Texts on one line stay on one line behind each other. -/
theorem oneLine_intercalate {separator : Text} {items : List Text}
    (hseparator : OneLine separator) (hitems : ∀ item ∈ items, OneLine item) :
    OneLine (Text.intercalate separator items) :=
  composes_oneLine.intercalate hseparator hitems

/-- A numeral is one line. -/
theorem oneLine_decimal (n : Int) : OneLine (Text.decimal n) :=
  (unmarked_decimal n).oneLine

/-! ## Literals -/

/-- No control character is left in a literal. -/
theorem Json.isText_of_mem_escapeAll {text : Text} {c : CodePoint} (h : c ∈ escapeAll isText text) :
    isText c = true := by
  have halphabet : escapeAlphabet.all isText = true := by decide
  rcases mem_escapeAll h with h | h
  · exact List.all_eq_true.1 halphabet c h
  · exact h.2

/-- Whatever is in a text, its literals are on one line. -/
theorem writtenAs_oneLine (text : Text) : WrittenAs OneLine text := by
  refine composes_oneLine.writtenAs fun hmem => ?_
  rw [Text.toList_ofList] at hmem
  exact absurd (Json.isText_of_mem_escapeAll hmem) (by decide)

/-! ## Names -/

/-- Every name that a reference is shown by is on one line. -/
def Scope.ShowsOneLine (scope : Scope) (reference : Reference) : Prop :=
  ∀ name, scope.Shows name reference → OneLine name

/-! ## Places, operands and actions -/

section Parts

variable {scope : Scope}

/-- A place is shown on one line. -/
theorem Place.oneLine_render {place : Place}
    (h : ∀ reference ∈ place.references, scope.ShowsOneLine reference) :
    Gives (place.render scope) OneLine :=
  Place.gives_render composes_oneLine h

/-- An operand is shown on one line, whatever is in its strings and characters. -/
theorem Operand.oneLine_render {operand : Operand}
    (h : ∀ reference ∈ operand.references, scope.ShowsOneLine reference) :
    Gives (operand.render scope) OneLine :=
  Operand.gives_render composes_oneLine h fun text _ => writtenAs_oneLine text

/-- An action is shown on one line. -/
theorem Action.oneLine_render {action : Action}
    (h : ∀ reference ∈ action.references, scope.ShowsOneLine reference) :
    Gives (action.render scope) OneLine :=
  Action.gives_render composes_oneLine h fun text _ => writtenAs_oneLine text

end Parts

end CrateListing
