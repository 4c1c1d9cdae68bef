import CrateListing.Text.Basic
import Mathlib.Data.List.TakeWhile

/-!
# Texts up to a delimiter

A text is split where the first character of a kind stands, or the last one.  When
the part in front of the place, or behind it, has no such character, the text
determines both parts.

Main definitions:

- `Opens`: a text that is empty or starts with a character of a kind.

Main results:

- Theorem `append_inj_of_opens`: two texts that are the same are the same up to the first delimiter.
- Theorem `append_cons_inj_of_notMem_tail`: and so they are from the last one on.
-/

namespace CrateListing

/-! ## The first delimiter -/

/-- Lists are taken apart where the first item of a kind stands. -/
theorem append_inj_of_head? {α : Type} {P : α → Prop} {front other rest more : List α}
    (hfront : ∀ a ∈ front, ¬ P a) (hother : ∀ a ∈ other, ¬ P a) (hrest : ∀ a ∈ rest.head?, P a)
    (hmore : ∀ a ∈ more.head?, P a) (h : front ++ rest = other ++ more) :
    front = other ∧ rest = more := by
  classical
  have hread : ∀ {items tail : List α}, (∀ a ∈ items, ¬ P a) → (∀ a ∈ tail.head?, P a) →
      (items ++ tail).takeWhile (fun a => decide (¬ P a)) = items := by
    intro items tail hitems htail
    rw [List.takeWhile_append_of_pos (by simpa using hitems)]
    cases tail with
    | nil => simp
    | cons a tail => simp [htail a rfl]
  have hfronts : front = other := by
    rw [← hread hfront hrest, h, hread hother hmore]
  subst hfronts
  exact ⟨rfl, List.append_cancel_left h⟩

/-- A text that is empty or starts with a character of a kind. -/
def Opens (P : CodePoint → Prop) (text : Text) : Prop :=
  ∀ d ∈ text.toList.head?, P d

/-- A text that opens with one character of a class opens with one of a larger class. -/
theorem Opens.mono {P Q : CodePoint → Prop} {text : Text} (h : Opens P text)
    (hPQ : ∀ c, P c → Q c) : Opens Q text :=
  fun c hc => hPQ c (h c hc)

/-- Two texts without delimiters are the same when they are the same up to one. -/
theorem append_inj_of_opens {P : CodePoint → Prop} {first second rest other : Text}
    (hfirst : ∀ c ∈ first.toList, ¬ P c) (hsecond : ∀ c ∈ second.toList, ¬ P c)
    (hrest : Opens P rest) (hother : Opens P other) (h : first ++ rest = second ++ other) :
    first = second ∧ rest = other := by
  have hchars : first.toList ++ rest.toList = second.toList ++ other.toList := by
    rw [← Text.toList_append, ← Text.toList_append, h]
  obtain ⟨hfronts, hrests⟩ := append_inj_of_head? hfirst hsecond hrest hother hchars
  exact ⟨Text.toList_inj.1 hfronts, Text.toList_inj.1 hrests⟩

/-! ## The last delimiter -/

/-- Lists are taken apart where a delimiter stands for the last time. -/
theorem append_cons_inj_of_notMem_tail {α : Type} {a : α} {front other rest more : List α}
    (hrest : a ∉ rest) (hmore : a ∉ more) (h : front ++ a :: rest = other ++ a :: more) :
    front = other ∧ rest = more := by
  have hreversed : rest.reverse ++ a :: front.reverse = more.reverse ++ a :: other.reverse := by
    simpa using congrArg List.reverse h
  have hbefore {items : List α} (hitems : a ∉ items) : ∀ b ∈ items.reverse, ¬ b = a := by
    rintro b hb rfl
    exact hitems (List.mem_reverse.1 hb)
  obtain ⟨htails, hfronts⟩ := append_inj_of_head? (hbefore hrest) (hbefore hmore)
    (by simp) (by simp) hreversed
  exact ⟨List.reverse_inj.1 (List.cons.inj hfronts).2, List.reverse_inj.1 htails⟩

end CrateListing
