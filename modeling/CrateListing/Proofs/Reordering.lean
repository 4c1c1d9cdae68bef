import CrateListing.Proofs.Shapes
import Mathlib.Data.List.Forall2

/-!
# Values up to the order of keys

Two JSON values are equal up to the order of keys when one becomes the other by
permuting the members of objects, at any depth.  Whatever is read from both
should be the same, or be rejected for the same reason; the rejections may then
show values that are again equal up to the order of keys.  Here this is shown of
the shapes that values are built from: their parts are equal up to the order of
keys and smaller than the values.

Main definitions:

- `Json.Reordered`: values that are equal up to the order of keys.
- `Rejection.SameFault`: rejections that are the same but for the value that they show.
- `AlikeBelow`: a reader treats values below a bound alike.

Main results:

- Theorem `Assoc.find?_perm`: the order of entries with distinct keys does not matter.
- Theorems `Json.SameBelow.tagged`, `Json.SameBelow.readPair` and `Json.SameBelow.object`: what is
  read from the parts of values.
- Theorems `MembersBelow.read`, `MembersBelow.readOrNull` and `MembersBelow.readItems`: a member is
  read before the rest.
-/

namespace CrateListing

open Outcome

variable {α β γ : Type}

/-! ## Values and rejections -/

/-- Values that are equal up to the order of keys, at any depth.  No key occurs twice in an
object. -/
inductive Json.Reordered : Json → Json → Prop where
  | null : Reordered .null .null
  | bool (value : Bool) : Reordered (.bool value) (.bool value)
  | int (value : Int) : Reordered (.int value) (.int value)
  | real (value : Binary64) : Reordered (.real value) (.real value)
  | str (value : Text) : Reordered (.str value) (.str value)
  | arr {items others : List Json} (hitems : List.Forall₂ Reordered items others) :
      Reordered (.arr items) (.arr others)
  /-- The members keep their keys, their values are reordered, and then they change places. -/
  | obj {members middle others : List (Text × Json)} (hnodup : (Assoc.keys members).Nodup)
      (hkeys : Assoc.keys members = Assoc.keys middle)
      (hvalues : List.Forall₂ Reordered (Assoc.values members) (Assoc.values middle))
      (hplaces : middle.Perm others) : Reordered (.obj members) (.obj others)

namespace Rejection

/-- The wording of a rejection without the value that was found. -/
def headline : Rejection → Text
  | .unmet wanted _ => "[JSN-0020] " ++ wanted.message
  | other => other.message

/-- The value that was found, or `null` when the rejection shows none. -/
def found : Rejection → Json
  | .unmet _ got => got
  | _ => .null

/-- A message is its headline and the value that was found. -/
theorem message_eq (rejection : Rejection) :
    rejection.message = rejection.headline ++ gotText rejection.found := by
  cases rejection with
  | unmet wanted got => rfl
  | _ => exact Text.append_empty.symm

/-- Rejections that are the same but for the order of keys in the values that they show. -/
structure SameFault (rejection other : Rejection) : Prop where
  headline : rejection.headline = other.headline
  found : Json.Reordered rejection.found other.found

end Rejection

/-! ## Outcomes that are alike -/

/-- Both readings give results in a relation, or both are rejected for the same fault. -/
inductive ReadAlike (R : α → β → Prop) : Except Rejection α → Except Rejection β → Prop where
  | ok {a : α} {b : β} (h : R a b) : ReadAlike R (.ok a) (.ok b)
  | error {rejection other : Rejection} (h : rejection.SameFault other) :
      ReadAlike R (.error rejection) (.error other)

namespace ReadAlike

/-- One result is read alike. -/
theorem pure (a : α) : ReadAlike Eq (Pure.pure a : Except Rejection α) (Pure.pure a) :=
  .ok rfl

/-- A value that does not meet an expectation. -/
theorem unmet {R : α → β → Prop} (wanted : Expectation) {json other : Json}
    (h : json.Reordered other) :
    ReadAlike R (.error (.unmet wanted json)) (.error (.unmet wanted other)) :=
  .error ⟨rfl, h⟩

/-- A tag that is not known. -/
theorem unknownTag {R : α → β → Prop} (what tag : Text) :
    ReadAlike R (.error (.unknownTag what tag)) (.error (.unknownTag what tag)) :=
  .error ⟨rfl, .null⟩

/-- What the first parts give may be used for the second parts. -/
theorem bind {R : α → β → Prop} {S : γ → γ → Prop} {first : Except Rejection α}
    {other : Except Rejection β} {next : α → Except Rejection γ}
    {following : β → Except Rejection γ} (h : ReadAlike R first other)
    (hnext : ∀ a b, R a b → ReadAlike S (next a) (following b)) :
    ReadAlike S (first >>= next) (other >>= following) := by
  cases h with
  | ok hR => exact hnext _ _ hR
  | error hfault => exact .error hfault

/-- The first parts give the same. -/
theorem bind_eq {S : β → β → Prop} {first other : Except Rejection α}
    {next following : α → Except Rejection β} (h : ReadAlike Eq first other)
    (hnext : ∀ a, ReadAlike S (next a) (following a)) :
    ReadAlike S (first >>= next) (other >>= following) := by
  refine h.bind fun a b hab => ?_
  subst hab
  exact hnext a

/-- The readings are followed by a step that cannot fail. -/
theorem bind_pure {first other : Except Rejection α} (h : ReadAlike Eq first other) (f : α → β) :
    ReadAlike Eq (first >>= fun a => Pure.pure (f a)) (other >>= fun a => Pure.pure (f a)) :=
  h.bind_eq fun a => pure (f a)

/-- Readings that are alike stay so when their results are mapped. -/
theorem map {first other : Except Rejection α} (h : ReadAlike Eq first other) (f : α → β) :
    ReadAlike Eq (first.map f) (other.map f) :=
  h.bind_pure f

end ReadAlike

/-! ## Values below a bound -/

/-- Values that are equal up to the order of keys, the first of which is below a bound. -/
structure Json.SameBelow (bound : Nat) (json other : Json) : Prop where
  reordered : json.Reordered other
  size_lt : sizeOf json < bound

/-- A reader treats values below a bound alike when they are equal up to the order of keys. -/
def AlikeBelow (bound : Nat) (decode : Json → Except Rejection α) : Prop :=
  ∀ json other, json.SameBelow bound other → ReadAlike Eq (decode json) (decode other)

/-- Values below a bound are below a larger one. -/
theorem Json.SameBelow.succ {bound : Nat} {json other : Json} (h : json.SameBelow bound other) :
    json.SameBelow (bound + 1) other :=
  ⟨h.reordered, Nat.lt_succ_of_lt h.size_lt⟩

/-- A list is read item by item. -/
theorem AlikeBelow.all {bound : Nat} {decode : Json → Except Rejection α}
    (h : AlikeBelow bound decode) {items others : List Json}
    (hitems : List.Forall₂ (Json.SameBelow bound) items others) :
    ReadAlike Eq (items.mapM decode) (others.mapM decode) := by
  induction hitems with
  | nil => exact .pure []
  | cons hitem _ ih =>
      rw [List.mapM_cons, List.mapM_cons]
      exact (h _ _ hitem).bind_eq fun first => ih.bind_pure (first :: ·)

/-- No value is below zero. -/
theorem AlikeBelow.zero (decode : Json → Except Rejection α) : AlikeBelow 0 decode :=
  fun _ _ h => absurd h.size_lt (Nat.not_lt_zero _)

/-! ## Values without parts -/

/-- An integer has no keys, so that it is read alike. -/
theorem alikeBelow_integer {bound : Nat} (what : Text) :
    AlikeBelow bound (Json.asInteger what) := by
  intro json other h
  cases h.reordered with
  | int value => exact .ok rfl
  | _ => exact .unmet _ h.reordered

/-- A text has no keys, so that it is read alike. -/
theorem alikeBelow_string {bound : Nat} (what : Text) :
    AlikeBelow bound (Json.asString what) := by
  intro json other h
  cases h.reordered with
  | str value => exact .ok rfl
  | _ => exact .unmet _ h.reordered

/-- An integer that may be missing is read alike. -/
theorem alikeBelow_integer? {bound : Nat} (what : Text) :
    AlikeBelow bound (Json.asInteger? what) := by
  intro json other h
  have hinteger := alikeBelow_integer what json other h
  cases h.reordered with
  | null => exact .ok rfl
  | _ => exact hinteger.map some

/-- A text that may be missing is read alike. -/
theorem alikeBelow_string? {bound : Nat} (what : Text) :
    AlikeBelow bound (Json.asString? what) := by
  intro json other h
  have hstring := alikeBelow_string what json other h
  cases h.reordered with
  | null => exact .ok rfl
  | _ => exact hstring.map some

/-- A name is looked up in a table. -/
theorem alikeBelow_named {bound : Nat} (what : Text) (table : List (Text × α)) :
    AlikeBelow bound (Json.asNamed what table) := by
  intro json other h
  refine (alikeBelow_string what json other h).bind_eq fun name => ?_
  cases Assoc.find? name table with
  | some meaning => exact .pure meaning
  | none => exact .unknownTag what name

/-! ## Arrays -/

namespace Json.SameBelow

variable {bound : Nat} {json other : Json}

/-- The items of arrays. -/
theorem items {items others : List Json}
    (h : (Json.arr items).SameBelow (bound + 1) (.arr others)) :
    List.Forall₂ (Json.SameBelow bound) items others := by
  cases h.reordered with
  | arr hitems =>
      have hsize : ∀ item ∈ items, sizeOf item < bound := fun item hitem =>
        Nat.lt_of_lt_of_le (sizeOf_lt_of_mem hitem) (Nat.le_of_lt_succ h.size_lt)
      exact ((List.forall₂_and_left _ _).2 ⟨hsize, hitems⟩).imp fun item other hboth =>
        ⟨hboth.2, hboth.1⟩

/-- The items of an array are the same up to the order of keys, and smaller. -/
theorem array (h : json.SameBelow (bound + 1) other) (what : Text) :
    ReadAlike (List.Forall₂ (Json.SameBelow bound)) (json.asArray what) (other.asArray what) := by
  cases h.reordered with
  | arr hitems => exact .ok h.items
  | _ => exact .unmet _ h.reordered

/-- A value is no array of a length, whatever the order of its keys. -/
theorem misfit {R : α → β → Prop} (h : json.Reordered other) (count : Nat) (what : Text) :
    ReadAlike R (.error (Json.misfit count what json)) (.error (Json.misfit count what other)) := by
  cases h with
  | arr hitems => exact .unmet _ (.arr hitems)
  | obj hnodup hkeys hvalues hplaces => exact .unmet _ (.obj hnodup hkeys hvalues hplaces)
  | _ => exact .unmet _ (by constructor)

/-- Arrays of two items. -/
theorem pair (h : json.SameBelow (bound + 1) other) (what : Text)
    {next : Json × Json → Except Rejection α}
    (hnext : ∀ {a b a' b'}, a.SameBelow bound a' → b.SameBelow bound b' →
      ReadAlike Eq (next (a, b)) (next (a', b'))) :
    ReadAlike Eq (json.asPair what >>= next) (other.asPair what >>= next) := by
  cases h.reordered with
  | arr =>
      rcases h.items with _ | ⟨ha, _ | ⟨hb, _ | _⟩⟩
      · exact .unmet _ h.reordered
      · exact .unmet _ h.reordered
      · exact hnext ha hb
      · exact .unmet _ h.reordered
  | _ => exact misfit h.reordered 2 what

/-- Arrays of three items. -/
theorem triple (h : json.SameBelow (bound + 1) other) (what : Text)
    {next : Json × Json × Json → Except Rejection α}
    (hnext : ∀ {a b c a' b' c'}, a.SameBelow bound a' → b.SameBelow bound b' →
      c.SameBelow bound c' → ReadAlike Eq (next (a, b, c)) (next (a', b', c'))) :
    ReadAlike Eq (json.asTriple what >>= next) (other.asTriple what >>= next) := by
  cases h.reordered with
  | arr =>
      rcases h.items with _ | ⟨ha, _ | ⟨hb, _ | ⟨hc, _ | _⟩⟩⟩
      · exact .unmet _ h.reordered
      · exact .unmet _ h.reordered
      · exact .unmet _ h.reordered
      · exact hnext ha hb hc
      · exact .unmet _ h.reordered
  | _ => exact misfit h.reordered 3 what

/-- Arrays of four items. -/
theorem quadruple (h : json.SameBelow (bound + 1) other) (what : Text)
    {next : Json × Json × Json × Json → Except Rejection α}
    (hnext : ∀ {a b c d a' b' c' d'}, a.SameBelow bound a' → b.SameBelow bound b' →
      c.SameBelow bound c' → d.SameBelow bound d' →
        ReadAlike Eq (next (a, b, c, d)) (next (a', b', c', d'))) :
    ReadAlike Eq (json.asQuadruple what >>= next) (other.asQuadruple what >>= next) := by
  cases h.reordered with
  | arr =>
      rcases h.items with _ | ⟨ha, _ | ⟨hb, _ | ⟨hc, _ | ⟨hd, _ | _⟩⟩⟩⟩
      · exact .unmet _ h.reordered
      · exact .unmet _ h.reordered
      · exact .unmet _ h.reordered
      · exact .unmet _ h.reordered
      · exact hnext ha hb hc hd
      · exact .unmet _ h.reordered
  | _ => exact misfit h.reordered 4 what

section Parts

variable {δ : Type} {decodeFirst : Json → Except Rejection α}
  {decodeSecond : Json → Except Rejection β} {decodeThird : Json → Except Rejection γ}

/-- The items of a pair are read one after the other. -/
theorem readPair (h : json.SameBelow bound other) (what : Text)
    (hfirst : AlikeBelow bound decodeFirst) (hsecond : AlikeBelow bound decodeSecond)
    (build : α → β → δ) :
    ReadAlike Eq
      (do
        let (first, second) ← json.asPair what
        let a ← decodeFirst first
        return build a (← decodeSecond second))
      (do
        let (first, second) ← other.asPair what
        let a ← decodeFirst first
        return build a (← decodeSecond second)) := by
  refine h.succ.pair what fun ha hb => ?_
  refine (hfirst _ _ ha).bind_eq fun a => ?_
  exact (hsecond _ _ hb).bind_pure (build a)

/-- The items of a triple are read one after the other. -/
theorem readTriple (h : json.SameBelow bound other) (what : Text)
    (hfirst : AlikeBelow bound decodeFirst) (hsecond : AlikeBelow bound decodeSecond)
    (hthird : AlikeBelow bound decodeThird) (build : α → β → γ → δ) :
    ReadAlike Eq
      (do
        let (first, second, third) ← json.asTriple what
        let a ← decodeFirst first
        let b ← decodeSecond second
        return build a b (← decodeThird third))
      (do
        let (first, second, third) ← other.asTriple what
        let a ← decodeFirst first
        let b ← decodeSecond second
        return build a b (← decodeThird third)) := by
  refine h.succ.triple what fun ha hb hc => ?_
  refine (hfirst _ _ ha).bind_eq fun a => ?_
  refine (hsecond _ _ hb).bind_eq fun b => ?_
  exact (hthird _ _ hc).bind_pure (build a b)

end Parts

/-! ## Tagged values -/

/-- An object with another number of members than one has no tag. -/
theorem asTagged_obj_of_length_ne_one {members : List (Text × Json)} (what : Text)
    (h : members.length ≠ 1) :
    (Json.obj members).asTagged what = .error (.unmet (.tagged what) (.obj members)) := by
  rcases members with _ | ⟨first, _ | ⟨second, rest⟩⟩
  · rfl
  · exact absurd rfl h
  · rfl

/-- A tag and its payload. -/
theorem tagged (h : json.SameBelow (bound + 1) other) (what : Text)
    {next : Text × Json → Except Rejection α}
    (hnext : ∀ tag {payload payload'}, payload.SameBelow bound payload' →
      ReadAlike Eq (next (tag, payload)) (next (tag, payload'))) :
    ReadAlike Eq (json.asTagged what >>= next) (other.asTagged what >>= next) := by
  cases h.reordered with
  | str tag =>
      have hsize : sizeOf Json.null < bound := by
        have htag : 1 ≤ sizeOf tag := by
          cases tag
          simp
        have hjson := h.size_lt
        simp only [Json.str.sizeOf_spec, Json.null.sizeOf_spec] at hjson ⊢
        omega
      exact hnext tag ⟨.null, hsize⟩
  | @obj members middle others hnodup hkeys hvalues hplaces =>
      have hlength : members.length = others.length := by
        have := congrArg List.length hkeys
        simpa [Assoc.keys, hplaces.length_eq] using this
      by_cases hone : members.length = 1
      · obtain ⟨⟨tag, payload⟩, rfl⟩ := List.length_eq_one_iff.1 hone
        obtain ⟨⟨tag', payload'⟩, rfl⟩ := List.length_eq_one_iff.1 (hlength ▸ hone)
        obtain rfl := List.perm_singleton.1 hplaces
        obtain rfl : tag = tag' := by simpa [Assoc.keys] using hkeys
        have hpayload : payload.Reordered payload' := by simpa [Assoc.values] using hvalues
        have hsize : sizeOf payload < bound := by
          have hjson := h.size_lt
          simp only [Json.obj.sizeOf_spec, List.cons.sizeOf_spec, Prod.mk.sizeOf_spec] at hjson
          omega
        exact hnext tag ⟨hpayload, hsize⟩
      · rw [asTagged_obj_of_length_ne_one what hone,
          asTagged_obj_of_length_ne_one what (hlength ▸ hone)]
        exact .unmet _ h.reordered
  | _ => exact .unmet _ h.reordered

end Json.SameBelow

/-! ## Objects -/

/-- What is found under distinct keys does not depend on their order. -/
theorem Assoc.find?_perm {κ α : Type} [DecidableEq κ] {table other : List (κ × α)}
    (hnodup : (Assoc.keys table).Nodup) (hperm : table.Perm other) (key : κ) :
    Assoc.find? key table = Assoc.find? key other := by
  have hkeys : (Assoc.keys table).Perm (Assoc.keys other) := hperm.map Prod.fst
  cases hfind : Assoc.find? key table with
  | none =>
      rw [Assoc.find?_eq_none_iff, hkeys.mem_iff] at hfind
      exact (Assoc.find?_eq_none_iff.2 hfind).symm
  | some value =>
      have hmem := hperm.mem_iff.1 (Assoc.mem_of_find? hfind)
      exact (Assoc.find?_of_mem (hkeys.nodup_iff.1 hnodup) hmem).symm

/-- Tables with the same keys in the same order hold related values. -/
theorem Assoc.find?_rel {κ : Type} [DecidableEq κ] {R : α → β → Prop} {table : List (κ × α)}
    {other : List (κ × β)} (hkeys : Assoc.keys table = Assoc.keys other)
    (hvalues : List.Forall₂ R (Assoc.values table) (Assoc.values other)) (key : κ) :
    Option.Rel R (Assoc.find? key table) (Assoc.find? key other) := by
  induction table generalizing other with
  | nil =>
      cases other with
      | nil => exact .none
      | cons entry rest => cases hkeys
  | cons entry rest ih =>
      cases other with
      | nil => cases hkeys
      | cons entry' rest' =>
          obtain ⟨k, value⟩ := entry
          obtain ⟨k', value'⟩ := entry'
          obtain ⟨hfirst, hrest⟩ := List.cons.inj hkeys
          obtain ⟨hvalue, hothers⟩ := List.forall₂_cons.1 hvalues
          obtain rfl : k = k' := hfirst
          by_cases hk : k = key
          · simpa [Assoc.find?, hk] using hvalue
          · simpa [Assoc.find?, hk] using ih hrest hothers

/-- The members of objects that are equal up to the order of keys, with values below a bound. -/
structure MembersBelow (bound : Nat) (members others : List (Text × Json)) : Prop where
  whole : (Json.obj members).Reordered (.obj others)
  null_lt : sizeOf Json.null < bound
  find : ∀ key, Option.Rel (Json.SameBelow bound) (Assoc.find? key members)
    (Assoc.find? key others)

/-- The members of an object are the same up to the order of keys, and smaller. -/
theorem Json.SameBelow.members {bound : Nat} {members others : List (Text × Json)}
    (h : (Json.obj members).SameBelow (bound + 1) (.obj others)) :
    MembersBelow bound members others := by
  have hbound := Nat.le_of_lt_succ h.size_lt
  have hnull : sizeOf Json.null < bound := by
    have hmembers : 1 ≤ sizeOf members := by
      cases members <;> simp only [List.nil.sizeOf_spec, List.cons.sizeOf_spec] <;> omega
    simp only [Json.obj.sizeOf_spec, Json.null.sizeOf_spec] at hbound ⊢
    omega
  refine ⟨h.reordered, hnull, fun key => ?_⟩
  cases h.reordered with
  | @obj _ middle _ hnodup hkeys hvalues hplaces =>
      have hfind := Assoc.find?_rel hkeys hvalues key
      rw [Assoc.find?_perm (hkeys ▸ hnodup) hplaces key] at hfind
      have hsize : ∀ value, Assoc.find? key members = some value → sizeOf value < bound :=
        fun value hvalue => Nat.lt_of_lt_of_le (sizeOf_lt_of_find? hvalue) hbound
      generalize Assoc.find? key members = found at hfind hsize ⊢
      generalize Assoc.find? key others = found' at hfind ⊢
      cases hfind with
      | some hvalue => exact .some ⟨hvalue, hsize _ rfl⟩
      | none => exact .none

/-- Objects that differ in the order of keys only have members that do. -/
theorem Json.SameBelow.object {bound : Nat} {json other : Json}
    (h : json.SameBelow (bound + 1) other) (what : Text) :
    ReadAlike (MembersBelow bound) (json.asObject what) (other.asObject what) := by
  cases h.reordered with
  | obj => exact .ok h.members
  | _ => exact .unmet _ h.reordered

namespace MembersBelow

variable {bound : Nat} {members others : List (Text × Json)}

/-- A member that has to be there. -/
theorem member (h : MembersBelow bound members others) (key : Text) :
    ReadAlike (Json.SameBelow bound) (Json.member key members) (Json.member key others) := by
  have hfind := h.find key
  unfold Json.member
  generalize Assoc.find? key members = value at hfind ⊢
  generalize Assoc.find? key others = value' at hfind ⊢
  cases hfind with
  | some hvalue => exact .ok hvalue
  | none => exact .unmet _ h.whole

/-- A member that counts as `null` when it is missing. -/
theorem orNull (h : MembersBelow bound members others) (key : Text) :
    (Json.memberOrNull key members).SameBelow bound (Json.memberOrNull key others) := by
  have hfind := h.find key
  unfold Json.memberOrNull
  generalize Assoc.find? key members = value at hfind ⊢
  generalize Assoc.find? key others = value' at hfind ⊢
  cases hfind with
  | some hvalue => exact hvalue
  | none => exact ⟨.null, h.null_lt⟩

/-- The items of a member that counts as an empty array when it is missing. -/
theorem items (h : MembersBelow bound members others) (key : Text) :
    ReadAlike (List.Forall₂ (Json.SameBelow bound)) (Json.itemsOf key members)
      (Json.itemsOf key others) := by
  have hfind := h.find key
  unfold Json.itemsOf
  generalize Assoc.find? key members = value at hfind ⊢
  generalize Assoc.find? key others = value' at hfind ⊢
  cases hfind with
  | some hvalue => exact hvalue.succ.array key
  | none => exact .ok .nil

section Read

variable {decode : Json → Except Rejection α} {next following : α → Except Rejection β}

/-- A member that has to be there is read, and then the rest. -/
theorem read (h : MembersBelow bound members others) (key : Text)
    (hdecode : AlikeBelow bound decode) (hnext : ∀ a, ReadAlike Eq (next a) (following a)) :
    ReadAlike Eq (Json.member key members >>= fun value => decode value >>= next)
      (Json.member key others >>= fun value => decode value >>= following) :=
  (h.member key).bind fun _ _ hvalue => (hdecode _ _ hvalue).bind_eq hnext

/-- A member that may be missing is read, and then the rest. -/
theorem readOrNull (h : MembersBelow bound members others) (key : Text)
    (hdecode : AlikeBelow bound decode) (hnext : ∀ a, ReadAlike Eq (next a) (following a)) :
    ReadAlike Eq (decode (Json.memberOrNull key members) >>= next)
      (decode (Json.memberOrNull key others) >>= following) :=
  (hdecode _ _ (h.orNull key)).bind_eq hnext

end Read

/-- The items of a member are read one after the other, and then the rest. -/
theorem readItems (h : MembersBelow bound members others) (key : Text)
    {decode : Json → Except Rejection α} (hdecode : AlikeBelow bound decode)
    {next following : List α → Except Rejection β}
    (hnext : ∀ values, ReadAlike Eq (next values) (following values)) :
    ReadAlike Eq (Json.itemsOf key members >>= fun items => items.mapM decode >>= next)
      (Json.itemsOf key others >>= fun items => items.mapM decode >>= following) :=
  (h.items key).bind fun _ _ hitems => (hdecode.all hitems).bind_eq hnext

end MembersBelow

end CrateListing
