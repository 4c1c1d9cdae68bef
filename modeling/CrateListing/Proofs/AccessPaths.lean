import CrateListing.Place.Render
import CrateListing.Proofs.Composition
import CrateListing.Proofs.Delimiters
import Mathlib.Data.List.Induction

/-!
# Reading access paths

The text of a place is built from the inside out, so it is read from the outside in.
The first character tells which step is the outermost one, and what a field is named
stands behind the last closing parenthesis.  A variant is named behind a blank that
no closing parenthesis follows, and the text of a place ends with no such blank.  So
the text determines the name of the local and all the steps, when the names have
neither blanks nor parentheses.

Main definitions:

- `PathStep`, `Projection.step`: a step of a path as it is shown.
- `Settled`: behind every blank in a text there is a closing parenthesis.
- `Place.SameAccess`: places with the same steps from locals of the same name.

Main results:

- Theorem `Place.render_eq_access`: the text of a place is that of its steps.
- Theorem `PathStep.around_inj`: the outermost step, and what it is around, can be read.
- Theorem `Place.render_eq_iff_sameAccess`: places with the same text have the same steps.
-/

namespace CrateListing

open Outcome

/-! ## Steps as they are shown -/

/-- A step of a path as it is shown. -/
inductive PathStep where
  | deref
  | derefBox
  /-- A field, of a variant when one is named. -/
  | field (name : Text) (variant : Option Text)
deriving DecidableEq, Repr

/-- The text of a place as a variant, when one is named. -/
def asVariant (inner : Text) : Option Text → Text
  | none => inner
  | some variant => inner ++ " as " ++ variant

/-- The text of a step around the text of a place. -/
def PathStep.around (inner : Text) : PathStep → Text
  | .deref => "*(" ++ inner ++ ")"
  | .derefBox => "deref_box(" ++ inner ++ ")"
  | .field name variant => "(" ++ asVariant inner variant ++ ")." ++ name

/-- The step that a projection is shown as. -/
def Projection.step (scope : Scope) : Projection → Except InternalError PathStep
  | .deref => .ok .deref
  | .derefBox => .ok .derefBox
  | .field (.tuple _) index => .ok (.field (Text.decimal index) none)
  | .field (.adt type none) index => do
      let field ← scope.fieldName type none index
      return .field field none
  | .field (.adt type (some variant)) index => do
      let field ← scope.fieldName type (some variant) index
      let variantName ← scope.variantName type variant
      return .field field (some variantName)

/-- The name of the local of a place, and the steps from it. -/
def Place.access (scope : Scope) (place : Place) :
    Except InternalError (Text × List PathStep) := do
  let root ← scope.localName place.root
  let steps ← place.path.mapM (Projection.step scope)
  return (root, steps)

section Access

variable {scope : Scope}

/-- A projection is shown as its step around the text of the place. -/
theorem Projection.render_eq_step (inner : Text) (projection : Projection) :
    projection.render scope inner = (projection.step scope).map (PathStep.around inner) := by
  cases projection with
  | deref => rfl
  | derefBox => rfl
  | field owner index =>
      cases owner with
      | tuple arity => rfl
      | adt type variant =>
          cases variant with
          | none =>
              rw [Projection.render, Projection.step]
              cases scope.fieldName type none index <;> rfl
          | some number =>
              rw [Projection.render, Projection.step]
              cases scope.fieldName type (some number) index with
              | error error => rfl
              | ok field =>
                  have hopening (variant : Text) :
                      "(" ++ inner ++ " as " ++ variant ++ ")." ++ field
                        = PathStep.around inner (.field field (some variant)) := by
                    simp only [PathStep.around, asVariant, Text.append_assoc]
                  simp only [ok_bind, hopening]
                  cases scope.variantName type number <;> rfl

/-- A path is shown as its steps around the root, the first one innermost. -/
theorem Place.renderPath_eq_steps (inner : Text) (path : List Projection) :
    Place.renderPath scope inner path =
      (path.mapM (Projection.step scope)).map (List.foldl PathStep.around inner) := by
  induction path generalizing inner with
  | nil => rfl
  | cons projection rest ih =>
      rw [Place.renderPath, Projection.render_eq_step, List.mapM_cons]
      cases projection.step scope with
      | error error => rfl
      | ok step =>
          simp only [Except.map, ok_bind, ih]
          cases rest.mapM (Projection.step scope) <;> rfl

/-- The text of a place is that of its steps around the name of its local. -/
theorem Place.render_eq_access (place : Place) :
    place.render scope =
      (place.access scope).map fun access => access.2.foldl PathStep.around access.1 := by
  rw [Place.render, Place.access]
  cases scope.localName place.root with
  | error error => rfl
  | ok root =>
      rw [ok_bind, ok_bind, Place.renderPath_eq_steps]
      cases place.path.mapM (Projection.step scope) <;> rfl

end Access

/-! ## Names without blanks and parentheses -/

/-- A text without blanks and parentheses. -/
def Bare (text : Text) : Prop :=
  ∀ c ∈ text.toList, c ∉ [.char ' ', .char '(', .char ')']

instance (text : Text) : Decidable (Bare text) :=
  inferInstanceAs (Decidable (∀ c ∈ text.toList, c ∉ [.char ' ', .char '(', .char ')']))

namespace Bare

variable {text : Text} (h : Bare text)

include h

/-- There is no blank in a bare text. -/
theorem blank_notMem : .char ' ' ∉ text.toList :=
  fun hmem => h ' ' hmem (by decide)

/-- There is no opening parenthesis in a bare text. -/
theorem opening_notMem : .char '(' ∉ text.toList :=
  fun hmem => h '(' hmem (by decide)

/-- There is no closing parenthesis in a bare text. -/
theorem closing_notMem : .char ')' ∉ text.toList :=
  fun hmem => h ')' hmem (by decide)

end Bare

/-- A numeral is bare. -/
theorem bare_decimal (n : Int) : Bare (Text.decimal n) := by
  intro c hc hmark
  simp only [List.mem_cons, List.not_mem_nil, or_false] at hmark
  rcases hmark with rfl | rfl | rfl <;>
    exact Text.notMem_decimal (by decide) (by decide) n hc

/-- The names in a step have no blanks and no parentheses. -/
def PathStep.IsBare : PathStep → Prop
  | .deref => True
  | .derefBox => True
  | .field name variant => Bare name ∧ ∀ variantName, variant = some variantName → Bare variantName

/-- The step of a projection is bare when the names that it refers to are. -/
theorem Projection.bare_step {scope : Scope} {projection : Projection}
    (h : ∀ reference ∈ projection.references, scope.ShowsOnly Bare reference) :
    Gives (projection.step scope) PathStep.IsBare := by
  cases projection with
  | deref => exact gives_ok trivial
  | derefBox => exact gives_ok trivial
  | field owner index =>
      cases owner with
      | tuple arity => exact gives_ok ⟨bare_decimal index, nofun⟩
      | adt type variant =>
          have hnames := h (.field type variant index) (by simp [Projection.references])
          have hfield : Gives (scope.fieldName type variant index) Bare :=
            fun name hname => hnames name (Or.inl hname)
          cases variant with
          | none => exact hfield.bind_pure fun field hfield => ⟨hfield, nofun⟩
          | some number =>
              have hvariant : Gives (scope.variantName type number) Bare :=
                fun name hname => hnames name (Or.inr ⟨number, rfl, hname⟩)
              refine hfield.bind fun field hfield => ?_
              refine hvariant.bind_pure fun variantName hvariantName => ⟨hfield, ?_⟩
              rintro _ ⟨⟩
              exact hvariantName

/-- The root and the steps of a place are bare when the names that it refers to are. -/
theorem Place.bare_access {scope : Scope} {place : Place}
    (h : ∀ reference ∈ place.references, scope.ShowsOnly Bare reference) :
    Gives (place.access scope) fun access =>
      Bare access.1 ∧ ∀ step ∈ access.2, step.IsBare := by
  rw [Place.references, List.forall_mem_cons] at h
  obtain ⟨hroot, hpath⟩ := h
  have hsteps : Gives (place.path.mapM (Projection.step scope)) fun steps =>
      ∀ step ∈ steps, step.IsBare := by
    refine gives_mapM fun projection hmem => Projection.bare_step fun reference hreference => ?_
    exact hpath reference (List.mem_flatMap.2 ⟨projection, hmem, hreference⟩)
  exact Gives.bind hroot fun root hroot => hsteps.bind_pure fun steps hsteps => ⟨hroot, hsteps⟩

/-! ## The outermost step -/

/-- Behind every blank in a text there is a closing parenthesis. -/
def Settled (text : Text) : Prop :=
  ∀ front back, text.toList = front ++ .char ' ' :: back → .char ')' ∈ back

/-- A bare text is settled, since there is no blank in it. -/
theorem Bare.settled {text : Text} (h : Bare text) : Settled text := by
  intro front back hsplit
  have hblank : .char ' ' ∈ text.toList := by
    rw [hsplit]
    exact List.mem_append_right front List.mem_cons_self
  exact absurd hblank h.blank_notMem

/-- A text is settled when no blank stands behind its last closing parenthesis. -/
theorem settled_of_closing {front tail : Text} (h : .char ' ' ∉ tail.toList) :
    Settled (front ++ ")" ++ tail) := by
  intro before back hsplit
  have hlist : front.toList ++ .char ')' :: tail.toList = before ++ .char ' ' :: back := by
    simpa using hsplit
  rcases List.append_eq_append_iff.1 hlist with ⟨middle, -, hback⟩ | ⟨middle, -, hback⟩
  · -- The blank would stand behind the parenthesis.
    cases middle with
    | nil => exact absurd (List.cons.inj hback).1 (by decide)
    | cons c middle =>
        have htail : tail.toList = middle ++ .char ' ' :: back := (List.cons.inj hback).2
        rw [htail] at h
        exact absurd (List.mem_append_right middle List.mem_cons_self) h
  · cases middle with
    | nil => exact absurd (List.cons.inj hback).1 (by decide)
    | cons c middle =>
        have htail : back = middle ++ .char ')' :: tail.toList := (List.cons.inj hback).2
        rw [htail]
        exact List.mem_append_right middle List.mem_cons_self

/-- A bare step leaves a settled text, since it closes its parenthesis behind the inner text. -/
theorem PathStep.settled_around {step : PathStep} (h : step.IsBare) (inner : Text) :
    Settled (step.around inner) := by
  have hclosed (front : Text) : Settled (front ++ ")") := by
    have hsettled : Settled (front ++ ")" ++ "") := settled_of_closing (by decide)
    rwa [Text.append_empty] at hsettled
  cases step with
  | deref => exact hclosed ("*(" ++ inner)
  | derefBox => exact hclosed ("deref_box(" ++ inner)
  | field name variant =>
      have htail : .char ' ' ∉ ("." ++ name).toList := by
        simpa using h.1.blank_notMem
      have hsettled : Settled ("(" ++ asVariant inner variant ++ ")" ++ ("." ++ name)) :=
        settled_of_closing htail
      have htext : "(" ++ asVariant inner variant ++ ")" ++ ("." ++ name)
          = "(" ++ asVariant inner variant ++ ")." ++ name := by
        apply Text.toList_inj.1
        simp
      rwa [htext] at hsettled

/-- The variant that a place is taken as can be read, and so can the place. -/
theorem asVariant_inj {inner more : Text} {variant other : Option Text}
    (hinner : Settled inner) (hmore : Settled more)
    (hvariant : ∀ name, variant = some name → Bare name)
    (hother : ∀ name, other = some name → Bare name)
    (h : asVariant inner variant = asVariant more other) : inner = more ∧ variant = other := by
  -- A settled text does not end with a blank and a name.
  have hunsettled {text front name : Text} (htext : Settled text) (hname : Bare name)
      (heq : text = front ++ " as " ++ name) : False := by
    refine hname.closing_notMem
      (htext (front.toList ++ [.char ' ', .char 'a', .char 's']) name.toList ?_)
    simp [heq]
  cases variant with
  | none =>
      cases other with
      | none => exact ⟨h, rfl⟩
      | some name => exact (hunsettled hinner (hother name rfl) h).elim
  | some name =>
      cases other with
      | none => exact (hunsettled hmore (hvariant name rfl) h.symm).elim
      | some otherName =>
          have hchars :
              (inner.toList ++ [.char ' ', .char 'a', .char 's']) ++ .char ' ' :: name.toList
                = (more.toList ++ [.char ' ', .char 'a', .char 's'])
                  ++ .char ' ' :: otherName.toList := by
            simpa [asVariant] using congrArg Text.toList h
          obtain ⟨hfronts, hnames⟩ := append_cons_inj_of_notMem_tail
            (hvariant name rfl).blank_notMem (hother otherName rfl).blank_notMem hchars
          have hinners : inner = more := Text.toList_inj.1 (List.append_cancel_right hfronts)
          exact ⟨hinners, congrArg some (Text.toList_inj.1 hnames)⟩

/-- The first character of a step around a place. -/
def PathStep.initial : PathStep → CodePoint
  | .deref => '*'
  | .derefBox => 'd'
  | .field _ _ => '('

/-- The text of a step begins with the initial of the step. -/
theorem PathStep.head_around (step : PathStep) (inner : Text) :
    (step.around inner).toList.head? = some step.initial := by
  cases step <;> simp [PathStep.around, PathStep.initial]

/-- Steps whose texts are the same have the same initial. -/
theorem PathStep.initial_eq {step other : PathStep} {inner more : Text}
    (h : step.around inner = other.around more) : step.initial = other.initial := by
  have hheads : some step.initial = some other.initial := by
    rw [← head_around step inner, ← head_around other more, h]
  exact Option.some.inj hheads

/-- The name of a field stands behind the last closing parenthesis, so that it can be told from what
is inside. -/
theorem PathStep.field_around_inj {name otherName inner more : Text}
    {variant other : Option Text} (hname : Bare name) (hotherName : Bare otherName)
    (h : (field name variant).around inner = (field otherName other).around more) :
    name = otherName ∧ asVariant inner variant = asVariant more other := by
  have hchars :
      (.char '(' :: (asVariant inner variant).toList) ++ .char ')' :: .char '.' :: name.toList
        = (.char '(' :: (asVariant more other).toList)
          ++ .char ')' :: .char '.' :: otherName.toList := by
    simpa [PathStep.around] using congrArg Text.toList h
  have hnotMem {text : Text} (htext : Bare text) : .char ')' ∉ .char '.' :: text.toList := by
    simpa using htext.closing_notMem
  obtain ⟨hfronts, hnames⟩ :=
    append_cons_inj_of_notMem_tail (hnotMem hname) (hnotMem hotherName) hchars
  have hplaces : (asVariant inner variant).toList = (asVariant more other).toList :=
    (List.cons.inj hfronts).2
  exact ⟨Text.toList_inj.1 (List.cons.inj hnames).2, Text.toList_inj.1 hplaces⟩

/-- The outermost step can be read, and so can the place that it is around. -/
theorem PathStep.around_inj {step other : PathStep} {inner more : Text} (hstep : step.IsBare)
    (hother : other.IsBare) (hinner : Settled inner) (hmore : Settled more)
    (h : step.around inner = other.around more) : step = other ∧ inner = more := by
  have hinitial := initial_eq h
  cases step with
  | deref =>
      cases other with
      | deref =>
          have hopened : "*(" ++ inner = "*(" ++ more := (Text.append_left_inj ")").1 h
          exact ⟨rfl, (Text.append_right_inj "*(").1 hopened⟩
      | derefBox => exact absurd hinitial (by decide)
      | field name variant => exact absurd hinitial (by simp [initial])
  | derefBox =>
      cases other with
      | deref => exact absurd hinitial (by decide)
      | derefBox =>
          have hopened : "deref_box(" ++ inner = "deref_box(" ++ more :=
            (Text.append_left_inj ")").1 h
          exact ⟨rfl, (Text.append_right_inj "deref_box(").1 hopened⟩
      | field name variant => exact absurd hinitial (by simp [initial])
  | field name variant =>
      cases other with
      | deref => exact absurd hinitial (by simp [initial])
      | derefBox => exact absurd hinitial (by simp [initial])
      | field otherName otherVariant =>
          obtain ⟨hnames, hplaces⟩ := field_around_inj hstep.1 hother.1 h
          obtain ⟨hinners, hvariants⟩ := asVariant_inj hinner hmore hstep.2 hother.2 hplaces
          exact ⟨by rw [hnames, hvariants], hinners⟩

/-! ## All steps -/

/-- Every step opens a parenthesis. -/
theorem PathStep.opening_mem_around (step : PathStep) (inner : Text) :
    .char '(' ∈ (step.around inner).toList := by
  cases step <;> simp [PathStep.around]

/-- Bare steps around a bare root leave a settled text. -/
theorem settled_foldl_around {root : Text} {steps : List PathStep} (hroot : Bare root)
    (hsteps : ∀ step ∈ steps, step.IsBare) : Settled (steps.foldl PathStep.around root) := by
  rcases List.eq_nil_or_concat steps with rfl | ⟨inside, step, rfl⟩
  · exact hroot.settled
  · rw [List.concat_eq_append, List.foldl_append]
    exact PathStep.settled_around (hsteps step (by simp)) _

/-- A name without parentheses is not the text of a path with a step. -/
theorem ne_foldl_around {root other : Text} {steps : List PathStep} {step : PathStep}
    (hroot : Bare root) : root ≠ (steps ++ [step]).foldl PathStep.around other := by
  intro h
  have hmem : .char '(' ∈ root.toList := by
    rw [h, List.foldl_append]
    exact step.opening_mem_around (steps.foldl PathStep.around other)
  exact hroot.opening_notMem hmem

/-- The steps can be read one after the other, from the outermost one to the local. -/
theorem foldl_around_inj {root other : Text} {steps others : List PathStep} (hroot : Bare root)
    (hother : Bare other) (hsteps : ∀ step ∈ steps, step.IsBare)
    (hothers : ∀ step ∈ others, step.IsBare)
    (h : steps.foldl PathStep.around root = others.foldl PathStep.around other) :
    root = other ∧ steps = others := by
  induction steps using List.reverseRecOn generalizing others with
  | nil =>
      rcases List.eq_nil_or_concat others with rfl | ⟨inside, step, rfl⟩
      · exact ⟨h, rfl⟩
      · rw [List.concat_eq_append] at h
        exact absurd h (ne_foldl_around hroot)
  | append_singleton steps step ih =>
      rcases List.eq_nil_or_concat others with rfl | ⟨inside, otherStep, rfl⟩
      · exact absurd h.symm (ne_foldl_around hother)
      · rw [List.concat_eq_append] at h hothers ⊢
        have hbefore : ∀ step ∈ steps, step.IsBare :=
          fun earlier hmem => hsteps earlier (List.mem_append_left [step] hmem)
        have hinside : ∀ step ∈ inside, step.IsBare :=
          fun earlier hmem => hothers earlier (List.mem_append_left [otherStep] hmem)
        rw [List.foldl_append, List.foldl_append] at h
        obtain ⟨hlast, hinner⟩ := PathStep.around_inj (hsteps step (by simp))
          (hothers otherStep (by simp)) (settled_foldl_around hroot hbefore)
          (settled_foldl_around hother hinside) h
        obtain ⟨hroots, hsame⟩ := ih hbefore hinside hinner
        exact ⟨hroots, by rw [hsame, hlast]⟩

/-! ## Places with the same text -/

/-- Two projections are shown as the same step. -/
def Projection.SameStep (scope : Scope) (first second : Projection) : Prop :=
  ∃ step, first.step scope = .ok step ∧ second.step scope = .ok step

/-- Two places go through the same steps, one after the other, from locals of the same name. -/
structure Place.SameAccess (scope : Scope) (first second : Place) : Prop where
  root : ∃ name, scope.localName first.root = .ok name ∧ scope.localName second.root = .ok name
  path : List.Forall₂ (Projection.SameStep scope) first.path second.path

section SameAccess

variable {scope : Scope} {first second : Place}

/-- What a place accesses: the name of its root and the steps of its path. -/
theorem Place.access_eq_ok_iff {place : Place} {root : Text} {steps : List PathStep} :
    place.access scope = .ok (root, steps) ↔
      scope.localName place.root = .ok root ∧
        place.path.mapM (Projection.step scope) = .ok steps := by
  simp [Place.access, bind_eq_ok_iff, pure_eq_ok]

/-- Two places access the same when they do so through the same root and steps. -/
theorem Place.sameAccess_iff :
    Place.SameAccess scope first second ↔
      ∃ access, first.access scope = .ok access ∧ second.access scope = .ok access := by
  constructor
  · rintro ⟨⟨root, hfirst, hsecond⟩, hpath⟩
    obtain ⟨steps, hsteps, hothers⟩ := exists_mapM_eq_iff.2 hpath
    refine ⟨(root, steps), ?_, ?_⟩
    · exact access_eq_ok_iff.2 ⟨hfirst, hsteps⟩
    · exact access_eq_ok_iff.2 ⟨hsecond, hothers⟩
  · rintro ⟨⟨root, steps⟩, hfirst, hsecond⟩
    obtain ⟨hroot, hsteps⟩ := access_eq_ok_iff.1 hfirst
    obtain ⟨hother, hothers⟩ := access_eq_ok_iff.1 hsecond
    exact ⟨⟨root, hroot, hother⟩, exists_mapM_eq_iff.1 ⟨steps, hsteps, hothers⟩⟩

/-- Two places are shown by the same text exactly when their locals have the same name and their
projections are shown as the same steps, provided that the names in them have no blanks and no
parentheses. -/
theorem Place.render_eq_iff_sameAccess
    (hfirst : ∀ reference ∈ first.references, scope.ShowsOnly Bare reference)
    (hsecond : ∀ reference ∈ second.references, scope.ShowsOnly Bare reference) :
    (∃ text, first.render scope = .ok text ∧ second.render scope = .ok text) ↔
      Place.SameAccess scope first second := by
  rw [sameAccess_iff]
  constructor
  · rintro ⟨text, htext, hother⟩
    rw [render_eq_access, map_eq_ok_iff] at htext hother
    obtain ⟨⟨root, steps⟩, haccess, rfl⟩ := htext
    obtain ⟨⟨otherRoot, others⟩, hotherAccess, hsame⟩ := hother
    obtain ⟨hroot, hsteps⟩ := bare_access hfirst _ haccess
    obtain ⟨hotherRoot, hothers⟩ := bare_access hsecond _ hotherAccess
    obtain ⟨rfl, rfl⟩ := foldl_around_inj hroot hotherRoot hsteps hothers hsame.symm
    exact ⟨(root, steps), haccess, hotherAccess⟩
  · rintro ⟨access, haccess, hother⟩
    refine ⟨access.2.foldl PathStep.around access.1, ?_, ?_⟩
    · rw [render_eq_access, haccess]
      rfl
    · rw [render_eq_access, hother]
      rfl

end SameAccess

/-- A scope with an enumeration and a struct, whose fields have no names. -/
def Scope.wrapping : Scope where
  crate := Crate.ofDeclarations none
    [⟨0, ["E"], .enum [⟨"Some", [⟨none, .bool⟩]⟩], [], [], none⟩,
      ⟨1, ["S"], .struct [⟨none, .bool⟩], [], [], none⟩] [] []
  locals := Table.ofItems Local.index [⟨0, some "x", .bool⟩]

/-- The field of a tuple and the field of a struct without names are one and the same step. -/
theorem Place.sameAccess_of_wrapping :
    Place.SameAccess Scope.wrapping
      ⟨0, [.deref, .field (.adt 0 (some 0)) 0, .field (.tuple 2) 0]⟩
      ⟨0, [.deref, .field (.adt 0 (some 0)) 0, .field (.adt 1 none) 0]⟩ := by
  have hlocal : Scope.wrapping.ShowsOnly Bare (.localVar 0) := by
    rintro _ ⟨⟩
    decide
  have hvariant : Scope.wrapping.ShowsOnly Bare (.field 0 (some 0) 0) := by
    rintro name (⟨⟨⟩⟩ | ⟨_, ⟨⟩, ⟨⟩⟩) <;> decide
  have hfield : Scope.wrapping.ShowsOnly Bare (.field 1 none 0) := by
    rintro name (⟨⟨⟩⟩ | ⟨_, ⟨⟩, _⟩)
    decide
  refine (Place.render_eq_iff_sameAccess ?_ ?_).1 ⟨"((*(x) as Some).0).0", rfl, rfl⟩
  · simp [Place.references, Projection.references, hlocal, hvariant]
  · simp [Place.references, Projection.references, hlocal, hvariant, hfield]

end CrateListing
