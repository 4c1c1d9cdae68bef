import CrateListing.Text.Basic
import Mathlib.Data.List.Basic

/-!
# Outcomes of computations that can fail

A computation that can fail is built from parts that run one after the other.
The lemmas here take such a computation apart: when it succeeds, each of its
parts succeeds, and when each part succeeds whatever the earlier ones gave, the
whole succeeds.

Main results:

- Theorem `Outcome.bind_eq_ok_iff`: the result of a sequence of two parts.
- Theorem `Outcome.succeeds_bind_iff`: a sequence succeeds exactly when both parts do.
- Theorem `Outcome.succeeds_mapM_iff`: a list succeeds exactly when each item does.
- Theorem `Outcome.Related.bind`: sequences whose parts go together go together.
- Theorem `Outcome.joined_append`: joined texts in front of other joined texts.
-/

namespace CrateListing
namespace Outcome

variable {ε ε' α β γ δ : Type}

/-- A computation that gives a result. -/
def Succeeds (outcome : Except ε α) : Prop :=
  ∃ result, outcome = .ok result

/-! ## One part after the other -/

@[simp]
theorem ok_bind (a : α) (next : α → Except ε β) : (Except.ok a >>= next) = next a :=
  rfl

@[simp]
theorem error_bind (e : ε) (next : α → Except ε β) :
    (Except.error e >>= next) = Except.error e :=
  rfl

theorem pure_eq_ok (a : α) : (pure a : Except ε α) = .ok a :=
  rfl

/-- A sequence gives a result exactly when its second part gives it after the first part. -/
theorem bind_eq_ok_iff {first : Except ε α} {next : α → Except ε β} {result : β} :
    (first >>= next) = .ok result ↔ ∃ a, first = .ok a ∧ next a = .ok result := by
  cases first with
  | error e => simp
  | ok a => simp

/-- A sequence fails exactly when one of its parts does. -/
theorem bind_eq_error_iff {first : Except ε α} {next : α → Except ε β} {e : ε} :
    (first >>= next) = .error e ↔ first = .error e ∨ ∃ a, first = .ok a ∧ next a = .error e := by
  cases first with
  | error e => simp
  | ok a => simp

/-- A sequence whose second part cannot fail fails exactly as its first part does. -/
theorem bind_eq_error_iff_first {first : Except ε α} {next : α → Except ε β} {e : ε}
    (hnext : ∀ a, first = .ok a → Succeeds (next a)) :
    (first >>= next) = .error e ↔ first = .error e := by
  cases first with
  | error e => simp
  | ok a =>
      obtain ⟨result, hresult⟩ := hnext a rfl
      simp [hresult]

/-- A check followed by a fixed result succeeds exactly when the check is passed. -/
theorem check_bind_eq_ok_iff {check : Except ε Unit} {result : α} :
    (check >>= fun _ => (pure result : Except ε α)) = .ok result ↔ check = .ok () := by
  cases check <;> simp [pure_eq_ok]

/-- Checks followed by one and the same result are told apart by their outcomes. -/
theorem check_bind_inj {check other : Except ε Unit} {result : α} :
    (check >>= fun _ => (pure result : Except ε α)) = (other >>= fun _ => pure result) ↔
      check = other := by
  cases check <;> cases other <;> simp [pure_eq_ok]

theorem map_eq_fmap (f : α → β) (outcome : Except ε α) : outcome.map f = f <$> outcome :=
  rfl

/-- A result that is only reshaped comes from the same computation. -/
theorem map_eq_ok_iff {f : α → β} {outcome : Except ε α} {result : β} :
    outcome.map f = .ok result ↔ ∃ a, outcome = .ok a ∧ f a = result := by
  cases outcome with
  | error e => simp [Except.map]
  | ok a => simp [Except.map]

/-- Another description of failures does not change what succeeds. -/
theorem mapError_eq_ok_iff {f : ε → ε'} {outcome : Except ε α} {result : α} :
    outcome.mapError f = .ok result ↔ outcome = .ok result := by
  cases outcome with
  | error e => simp [Except.mapError]
  | ok a => simp [Except.mapError]

/-! ## Success of the parts and of the whole -/

@[simp]
theorem succeeds_ok (a : α) : Succeeds (.ok a : Except ε α) :=
  ⟨a, rfl⟩

@[simp]
theorem succeeds_pure (a : α) : Succeeds (pure a : Except ε α) :=
  ⟨a, rfl⟩

@[simp]
theorem not_succeeds_error (e : ε) : ¬ Succeeds (.error e : Except ε α) := by
  rintro ⟨a, h⟩
  cases h

/-- What does not succeed ends with an error. -/
theorem not_succeeds_iff {outcome : Except ε α} :
    ¬ Succeeds outcome ↔ ∃ e, outcome = .error e := by
  cases outcome with
  | error e => simp
  | ok a => simp

/-- A computation that was seen to give a result succeeds. -/
theorem succeeds_of_isOk {outcome : Except ε α} (h : outcome.isOk = true) : Succeeds outcome := by
  cases outcome with
  | error e => cases h
  | ok a => exact succeeds_ok a

/-- Whether the second part succeeds must not depend on what the first part gave. -/
theorem succeeds_bind_iff {first : Except ε α} {next : α → Except ε β} {P : Prop}
    (hnext : ∀ a, first = .ok a → (Succeeds (next a) ↔ P)) :
    Succeeds (first >>= next) ↔ Succeeds first ∧ P := by
  cases first with
  | error e => simp
  | ok a => simp [hnext a rfl]

/-- A second part that cannot fail does not matter for success. -/
theorem succeeds_bind_iff_first {first : Except ε α} {next : α → Except ε β}
    (hnext : ∀ a, first = .ok a → Succeeds (next a)) :
    Succeeds (first >>= next) ↔ Succeeds first := by
  rw [succeeds_bind_iff fun a ha => iff_true_intro (hnext a ha), and_true]

/-- A computation whose result is only rewritten succeeds as before. -/
@[simp]
theorem succeeds_bind_pure (first : Except ε α) (f : α → β) :
    Succeeds (first >>= fun a => pure (f a)) ↔ Succeeds first :=
  succeeds_bind_iff_first fun a _ => succeeds_pure (f a)

/-- A computation whose result is mapped succeeds as before. -/
@[simp]
theorem succeeds_map (f : α → β) (outcome : Except ε α) :
    Succeeds (outcome.map f) ↔ Succeeds outcome := by
  cases outcome with
  | error e => simp [Except.map]
  | ok a => simp [Except.map]

/-- A computation whose errors are mapped succeeds as before. -/
@[simp]
theorem succeeds_mapError (f : ε → ε') (outcome : Except ε α) :
    Succeeds (outcome.mapError f) ↔ Succeeds outcome := by
  cases outcome with
  | error e => simp [Except.mapError]
  | ok a => simp [Except.mapError]

/-! ## What a computation gives -/

/-- Every result of a computation has a property. -/
def Gives (outcome : Except ε α) (P : α → Prop) : Prop :=
  ∀ result, outcome = .ok result → P result

theorem gives_ok {P : α → Prop} {a : α} (h : P a) : Gives (.ok a : Except ε α) P := by
  intro result hresult
  cases hresult
  exact h

/-- An error gives every property, since there is no result. -/
theorem gives_error {P : α → Prop} (e : ε) : Gives (.error e : Except ε α) P := by
  intro result hresult
  cases hresult

theorem gives_pure {P : α → Prop} {a : α} (h : P a) : Gives (pure a : Except ε α) P :=
  gives_ok h

/-- What the first part gives may be used for the second part. -/
theorem Gives.bind {P : α → Prop} {Q : β → Prop} {first : Except ε α} {next : α → Except ε β}
    (hfirst : Gives first P) (hnext : ∀ a, P a → Gives (next a) Q) : Gives (first >>= next) Q := by
  intro result hresult
  obtain ⟨a, ha, hresult⟩ := bind_eq_ok_iff.1 hresult
  exact hnext a (hfirst a ha) result hresult

/-- The first part does not matter for what the second part gives. -/
theorem gives_bind {Q : β → Prop} {first : Except ε α} {next : α → Except ε β}
    (hnext : ∀ a, Gives (next a) Q) : Gives (first >>= next) Q := by
  intro result hresult
  obtain ⟨a, -, hresult⟩ := bind_eq_ok_iff.1 hresult
  exact hnext a result hresult

/-- The computation is followed by a step that cannot fail. -/
theorem Gives.bind_pure {P : α → Prop} {Q : β → Prop} {first : Except ε α} {f : α → β}
    (hfirst : Gives first P) (hf : ∀ a, P a → Q (f a)) :
    Gives (first >>= fun a => pure (f a)) Q :=
  hfirst.bind fun a ha => gives_pure (hf a ha)

/-- The result of the computation is only reshaped. -/
theorem Gives.map {P : α → Prop} {Q : β → Prop} {outcome : Except ε α} {f : α → β}
    (h : Gives outcome P) (hf : ∀ a, P a → Q (f a)) : Gives (outcome.map f) Q := by
  intro result hresult
  obtain ⟨a, ha, rfl⟩ := map_eq_ok_iff.1 hresult
  exact hf a (h a ha)

/-! ## Computations that go together -/

/-- Two computations give results that stand in a relation, or fail with the same error. -/
inductive Related (R : α → β → Prop) : Except ε α → Except ε β → Prop where
  | ok {a : α} {b : β} (h : R a b) : Related R (.ok a) (.ok b)
  | error (e : ε) : Related R (.error e) (.error e)

/-- An outcome goes together with itself when each result does. -/
theorem Related.refl {R : α → α → Prop} (hR : ∀ a, R a a) (outcome : Except ε α) :
    Related R outcome outcome := by
  cases outcome with
  | error e => exact .error e
  | ok a => exact .ok (hR a)

/-- What the first parts give may be used for the second parts. -/
theorem Related.bind {R : α → β → Prop} {S : γ → δ → Prop} {first : Except ε α}
    {other : Except ε β} {next : α → Except ε γ} {following : β → Except ε δ}
    (h : Related R first other) (hnext : ∀ a b, R a b → Related S (next a) (following b)) :
    Related S (first >>= next) (other >>= following) := by
  cases h with
  | ok hR => exact hnext _ _ hR
  | error e => exact .error e

/-- Outcomes that go together still do when their errors are mapped. -/
theorem Related.mapError {R : α → β → Prop} {first : Except ε α} {other : Except ε β}
    (h : Related R first other) (f : ε → ε') :
    Related R (first.mapError f) (other.mapError f) := by
  cases h with
  | ok hR => exact .ok hR
  | error e => exact .error (f e)

/-- Outcomes that go together have the same errors. -/
theorem Related.eq_error_iff {R : α → β → Prop} {first : Except ε α} {other : Except ε β}
    (h : Related R first other) (e : ε) : other = .error e ↔ first = .error e := by
  cases h <;> simp

/-- The results of outcomes that go together go together. -/
theorem Related.of_eq_ok {R : α → β → Prop} {first : Except ε α} {other : Except ε β} {a : α}
    {b : β} (h : Related R first other) (hfirst : first = .ok a) (hother : other = .ok b) :
    R a b := by
  cases h with
  | error e => cases hfirst
  | ok hR =>
      cases hfirst
      cases hother
      exact hR

/-! ## Outcomes without their errors -/

@[simp]
theorem toOption_ok (a : α) : (.ok a : Except ε α).toOption = some a :=
  rfl

@[simp]
theorem toOption_error (e : ε) : (.error e : Except ε α).toOption = none :=
  rfl

@[simp]
theorem toOption_pure (a : α) : (pure a : Except ε α).toOption = some a :=
  rfl

@[simp]
theorem toOption_throw (e : ε) : (throw e : Except ε α).toOption = none :=
  rfl

/-- An outcome has a result exactly when it succeeds with it. -/
theorem toOption_eq_some_iff {outcome : Except ε α} {a : α} :
    outcome.toOption = some a ↔ outcome = .ok a := by
  cases outcome with
  | error e => simp
  | ok b => simp

/-- An outcome has no result exactly when it is an error. -/
theorem toOption_eq_none_iff {outcome : Except ε α} :
    outcome.toOption = none ↔ ∃ e, outcome = .error e := by
  cases outcome with
  | error e => simp
  | ok a => simp

/-- The result of a sequence, without the reasons for failures. -/
@[simp]
theorem toOption_bind (first : Except ε α) (next : α → Except ε β) :
    (first >>= next).toOption = first.toOption.bind fun a => (next a).toOption := by
  cases first <;> rfl

@[simp]
theorem toOption_map (f : α → β) (outcome : Except ε α) :
    (outcome.map f).toOption = outcome.toOption.map f := by
  cases outcome <;> rfl

@[simp]
theorem toOption_fmap (f : α → β) (outcome : Except ε α) :
    (f <$> outcome).toOption = outcome.toOption.map f := by
  cases outcome <;> rfl

/-! ## Results and errors of several computations -/

/-- The results that there are, in order. -/
def results (outcomes : List (Except ε α)) : List α :=
  outcomes.filterMap Except.toOption

/-- The error of a computation that fails. -/
def error? : Except ε α → Option ε
  | .ok _ => none
  | .error e => some e

/-- The errors that there are, in order. -/
def errors (outcomes : List (Except ε α)) : List ε :=
  outcomes.filterMap error?

/-- A list of results is the result of the list. -/
theorem mapM_id_map_ok (items : List α) :
    (items.map Except.ok).mapM id = (.ok items : Except ε (List α)) := by
  induction items with
  | nil => rfl
  | cons item rest ih =>
      rw [List.map_cons, List.mapM_cons, ih]
      rfl

/-- The first error is the outcome of the whole list. -/
theorem mapM_id_first_error (items : List α) (e : ε) (rest : List (Except ε α)) :
    (items.map Except.ok ++ Except.error e :: rest).mapM id = .error e := by
  induction items with
  | nil => rfl
  | cons item others ih =>
      rw [List.map_cons, List.cons_append, List.mapM_cons, ih]
      rfl

/-! ## Lists -/

/-- A list is worked through exactly when each of its items is. -/
theorem succeeds_mapM_iff (f : α → Except ε β) (items : List α) :
    Succeeds (items.mapM f) ↔ ∀ item ∈ items, Succeeds (f item) := by
  induction items with
  | nil => simp
  | cons item rest ih =>
      rw [List.mapM_cons, List.forall_mem_cons]
      exact succeeds_bind_iff fun _ _ => (succeeds_bind_pure _ _).trans ih

/-- A list gives the same when each of its items does. -/
theorem mapM_congr {f g : α → Except ε β} {items : List α} (h : ∀ item ∈ items, f item = g item) :
    items.mapM f = items.mapM g := by
  induction items with
  | nil => rfl
  | cons item rest ih =>
      obtain ⟨hitem, hrest⟩ := List.forall_mem_cons.1 h
      rw [List.mapM_cons, List.mapM_cons, hitem, ih hrest]

/-- Items that are all worked through give their results in order. -/
theorem mapM_map_of_eq_ok {f : β → Except ε γ} {make : α → β} {result : α → γ} {items : List α}
    (h : ∀ item ∈ items, f (make item) = .ok (result item)) :
    (items.map make).mapM f = .ok (items.map result) := by
  induction items with
  | nil => rfl
  | cons item rest ih =>
      obtain ⟨hitem, hrest⟩ := List.forall_mem_cons.1 h
      rw [List.map_cons, List.mapM_cons, hitem, ok_bind, ih hrest, ok_bind, pure_eq_ok,
        List.map_cons]

/-- Results that are only reshaped can be reshaped in the end. -/
theorem map_mapM (g : β → γ) (f : α → Except ε β) (items : List α) :
    (items.mapM f).map (List.map g) = items.mapM fun item => (f item).map g := by
  induction items with
  | nil => rfl
  | cons item rest ih =>
      rw [List.mapM_cons, List.mapM_cons, ← ih]
      cases f item with
      | error e => rfl
      | ok result => cases rest.mapM f <;> rfl

/-- Checks are passed exactly when each of them is. -/
theorem forM_eq_ok_iff {check : α → Except ε Unit} {items : List α} :
    items.forM check = .ok () ↔ ∀ item ∈ items, check item = .ok () := by
  induction items with
  | nil => simp [pure_eq_ok]
  | cons item rest ih =>
      have hcons : (item :: rest).forM check = (do
          check item
          rest.forM check) := rfl
      rw [hcons, List.forall_mem_cons, bind_eq_ok_iff, ← ih]
      constructor
      · rintro ⟨⟨⟩, hitem, hrest⟩
        exact ⟨hitem, hrest⟩
      · rintro ⟨hitem, hrest⟩
        exact ⟨(), hitem, hrest⟩

/-- The errors of checks can be mapped one by one. -/
theorem mapError_forM (f : ε → ε') (check : α → Except ε Unit) (items : List α) :
    (items.forM check).mapError f = items.forM fun item => (check item).mapError f := by
  induction items with
  | nil => rfl
  | cons item rest ih =>
      show (check item >>= fun _ => rest.forM check).mapError f =
        ((check item).mapError f >>= fun _ => rest.forM fun item => (check item).mapError f)
      rw [← ih]
      cases check item <;> rfl

/-- The first of several errors, if there is one. -/
def firstError : List ε → Except ε Unit
  | [] => .ok ()
  | e :: _ => .error e

/-- The error that is raised is the first one found. -/
@[simp]
theorem firstError_eq_error_iff {found : List ε} {e : ε} :
    firstError found = .error e ↔ found.head? = some e := by
  cases found <;> simp [firstError]

/-- The errors of one list are raised before those of the next. -/
theorem firstError_append (found others : List ε) :
    firstError (found ++ others) = (do
      firstError found
      firstError others) := by
  cases found <;> rfl

/-- Checks one after the other fail with the first error that any of them finds. -/
theorem forM_eq_firstError {check : α → Except ε Unit} {found : α → List ε}
    (h : ∀ item, check item = firstError (found item)) (items : List α) :
    items.forM check = firstError (items.flatMap found) := by
  induction items with
  | nil => rfl
  | cons item rest ih =>
      rw [List.flatMap_cons, firstError_append, ← ih, ← h item]
      rfl

/-- The results of a list are those of its items, one by one. -/
theorem forall₂_of_mapM {f : α → Except ε β} {items : List α} {results : List β}
    (h : items.mapM f = .ok results) :
    List.Forall₂ (fun item result => f item = .ok result) items results := by
  induction items generalizing results with
  | nil =>
      cases h
      exact .nil
  | cons item rest ih =>
      rw [List.mapM_cons, bind_eq_ok_iff] at h
      obtain ⟨first, hfirst, h⟩ := h
      obtain ⟨others, hothers, h⟩ := bind_eq_ok_iff.1 h
      cases h
      exact .cons hfirst (ih hothers)

/-- Two lists give the same results exactly when their items do, one after the other. -/
theorem exists_mapM_eq_iff {f : α → Except ε β} {items others : List α} :
    (∃ results, items.mapM f = .ok results ∧ others.mapM f = .ok results) ↔
      List.Forall₂ (fun item other => ∃ result, f item = .ok result ∧ f other = .ok result)
        items others := by
  constructor
  · rintro ⟨results, hitems, hothers⟩
    have hall := forall₂_of_mapM hitems
    have hothers' := forall₂_of_mapM hothers
    clear hitems hothers
    induction hall generalizing others with
    | nil =>
        cases hothers'
        exact .nil
    | @cons item result items results hitem _ ih =>
        cases hothers' with
        | cons hother hrest => exact .cons ⟨result, hitem, hother⟩ (ih hrest)
  · intro hall
    induction hall with
    | nil => exact ⟨[], rfl, rfl⟩
    | cons hfirst _ ih =>
        obtain ⟨result, hitem, hother⟩ := hfirst
        obtain ⟨results, hitems, hothers⟩ := ih
        refine ⟨result :: results, ?_, ?_⟩
        · rw [List.mapM_cons, hitem, ok_bind, hitems, ok_bind, pure_eq_ok]
        · rw [List.mapM_cons, hother, ok_bind, hothers, ok_bind, pure_eq_ok]

/-- Every result of a list comes from one of its items. -/
theorem exists_of_mem_mapM {f : α → Except ε β} {items : List α} {results : List β}
    (h : items.mapM f = .ok results) {result : β} (hmem : result ∈ results) :
    ∃ item ∈ items, f item = .ok result := by
  have hall := forall₂_of_mapM h
  clear h
  induction hall with
  | nil => simp at hmem
  | @cons item first items others hfirst _ ih =>
      rcases List.mem_cons.1 hmem with rfl | hmem
      · exact ⟨item, List.mem_cons_self, hfirst⟩
      · obtain ⟨found, hfound, hok⟩ := ih hmem
        exact ⟨found, List.mem_cons_of_mem item hfound, hok⟩

/-- A list gives only what its items give. -/
theorem gives_mapM {P : β → Prop} {f : α → Except ε β} {items : List α}
    (h : ∀ item ∈ items, Gives (f item) P) :
    Gives (items.mapM f) fun results => ∀ result ∈ results, P result := by
  intro results hresults result hmem
  obtain ⟨item, hitem, hok⟩ := exists_of_mem_mapM hresults hmem
  exact h item hitem result hok

/-! ## Joined texts -/

/-- The texts of a list's items with a separator between them. -/
def joined (separator : Text) (f : α → Except ε Text) (items : List α) : Except ε Text := do
  let texts ← items.mapM f
  return Text.intercalate separator texts

section Joined

variable (separator : Text) (f : α → Except ε Text)

/-- A single item is joined to its own text. -/
theorem joined_singleton (item : α) : joined separator f [item] = f item := by
  cases hitem : f item with
  | error e => simp [joined, hitem]
  | ok text => simp [joined, hitem, pure_eq_ok]

/-- An item in front of other items. -/
theorem joined_cons (item : α) {rest : List α} (hrest : rest ≠ []) :
    joined separator f (item :: rest) = (do
      let first ← f item
      let others ← joined separator f rest
      return first ++ separator ++ others) := by
  simp only [joined, List.mapM_cons, bind_assoc, pure_bind]
  refine bind_congr fun first => ?_
  cases hothers : rest.mapM f with
  | error e => rfl
  | ok others =>
      have hne : others ≠ [] := by
        rintro rfl
        cases forall₂_of_mapM hothers
        exact hrest rfl
      rw [ok_bind, ok_bind, Text.intercalate_cons_of_ne_nil hne]

/-- Items in front of other items. -/
theorem joined_append {first second : List α} (hfirst : first ≠ []) (hsecond : second ≠ []) :
    joined separator f (first ++ second) = (do
      let shownFirst ← joined separator f first
      let shownSecond ← joined separator f second
      return shownFirst ++ separator ++ shownSecond) := by
  induction first with
  | nil => exact absurd rfl hfirst
  | cons item rest ih =>
      by_cases hrest : rest = []
      · subst hrest
        rw [List.singleton_append, joined_cons separator f item hsecond, joined_singleton]
      · have hboth : rest ++ second ≠ [] := List.append_ne_nil_of_left_ne_nil hrest second
        rw [List.cons_append, joined_cons separator f item hboth, ih hrest,
          joined_cons separator f item hrest]
        simp only [bind_assoc, pure_bind, Text.append_assoc]

end Joined

end Outcome
end CrateListing
