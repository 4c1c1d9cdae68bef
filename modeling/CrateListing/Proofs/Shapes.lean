import CrateListing.Proofs.Encoding
import CrateListing.Proofs.Format
import CrateListing.Proofs.Tables

/-!
# Readers that fit a kind

A reader and a writer fit a kind when a value is read exactly when it is of that
kind, and the canonical form of the value is what is written for the node that
was read.  Here this is shown shape by shape: values without parts, arrays,
tagged values and records fit when their parts do.  A part is smaller than the
value that it is a part of, so the statement is about values below a bound.

Main definitions:

- `ReadsBelow`: a reader and a writer fit a kind, on values below a bound.
- `ReadsTag`: they fit one tag of a kind.

Main results:

- Theorem `ReadsBelow.list`: a list is read item by item.
- Theorem `readsBelow_tagged`: a reader of tagged values fits when it fits tag by tag.
- Theorem `readsBelow_record`: a reader of records fits when it fits its members.
-/

namespace CrateListing

open Outcome

variable {α β γ δ ε : Type}

/-- A value below a bound is read exactly when it has a canonical form, and the canonical form is
that of what is read. -/
def ReadsBelow (bound : Nat) (kind : Kind) (decode : Json → Except Rejection α)
    (encode : α → Json) : Prop :=
  ∀ json, sizeOf json < bound → canonical? kind json = (decode json).toOption.map encode

/-- What fits below a bound fits below a smaller one. -/
theorem ReadsBelow.mono {bound : Nat} {kind : Kind} {decode : Json → Except Rejection α}
    {encode : α → Json} (h : ReadsBelow (bound + 1) kind decode encode) :
    ReadsBelow bound kind decode encode := by
  intro json hjson
  exact h json (Nat.lt_succ_of_lt hjson)

/-! ## Values without parts -/

/-- An integer is read as it is. -/
theorem readsBelow_integer (bound : Nat) (what : Text) :
    ReadsBelow bound .integer (Json.asInteger what) .int := by
  intro json _
  cases json <;> rfl

/-- An integer that may be missing is read as it is. -/
theorem readsBelow_optionalInteger (bound : Nat) (what : Text) :
    ReadsBelow bound .optionalInteger (Json.asInteger? what) (Json.ofOption .int) := by
  intro json _
  cases json <;> rfl

/-- A text is read as it is. -/
theorem readsBelow_text (bound : Nat) (what : Text) :
    ReadsBelow bound .text (Json.asString what) .str := by
  intro json _
  cases json <;> rfl

/-- A text that may be missing is read as it is. -/
theorem readsBelow_optionalText (bound : Nat) (what : Text) :
    ReadsBelow bound .optionalText (Json.asString? what) (Json.ofOption .str) := by
  intro json _
  cases json <;> rfl

/-- A name is read by a table that has exactly the names of the kind, each with the value whose
tag it is. -/
theorem readsBelow_named {bound : Nat} {kind : Kind} {names : List Text}
    {table : List (Text × α)} {tag : α → Text} (what : Text)
    (hform : kind.form = .name names) (hnull : kind.nullable = false)
    (hnames : Assoc.keys table = names) (htags : ∀ entry ∈ table, tag entry.2 = entry.1) :
    ReadsBelow bound kind (Json.asNamed what table) fun value => .str (tag value) := by
  intro json _
  cases json with
  | str text =>
      rw [Json.asNamed, Json.asString, ok_bind]
      cases hfind : Assoc.find? text table with
      | none =>
          have htext : text ∉ names := hnames ▸ Assoc.find?_eq_none_iff.1 hfind
          simp [canonical?, hform, htext]
      | some value =>
          have htext : text ∈ names := hnames ▸ (Assoc.exists_find?_iff text table).1 ⟨value, hfind⟩
          have htag : tag value = text := htags (text, value) (Assoc.mem_of_find? hfind)
          simp [canonical?, hform, htext, htag]
  | obj members =>
      unfold canonical?
      rw [hform]
      rfl
  | _ => simp [canonical?, hform, hnull, Json.asNamed, Json.asString]

/-! ## Arrays -/

/-- The canonical forms of items are those of what is read from them. -/
theorem canonicalItems?_eq {bound : Nat} {kind : Kind} {decode : Json → Except Rejection α}
    {encode : α → Json} (h : ReadsBelow bound kind decode encode) {items : List Json}
    (hitems : ∀ item ∈ items, sizeOf item < bound) :
    canonicalItems? kind items = (items.mapM decode).toOption.map (List.map encode) := by
  induction items with
  | nil => rfl
  | cons item rest ih =>
      obtain ⟨hitem, hrest⟩ := List.forall_mem_cons.1 hitems
      rw [canonicalItems?, h item hitem, ih hrest, List.mapM_cons]
      cases decode item with
      | error e => rfl
      | ok first => cases rest.mapM decode <;> rfl

/-- An item is smaller than its array. -/
theorem sizeOf_lt_of_mem {item : Json} {items : List Json} (h : item ∈ items) :
    sizeOf item < sizeOf (Json.arr items) := by
  have := List.sizeOf_lt_of_mem h
  rw [Json.arr.sizeOf_spec]
  omega

/-- A list is read item by item. -/
theorem ReadsBelow.list {bound : Nat} {kind : Kind} {decode : Json → Except Rejection α}
    {encode : α → Json} (h : ReadsBelow bound kind decode encode) (what : Text) :
    ReadsBelow bound (.list kind) (fun json => do (← json.asArray what).mapM decode)
      (Json.ofList encode) := by
  intro json hjson
  cases json with
  | arr items =>
      have hitems : ∀ item ∈ items, sizeOf item < bound := fun item hitem =>
        Nat.lt_trans (sizeOf_lt_of_mem hitem) hjson
      have harr : canonical? (.list kind) (.arr items)
          = (canonicalItems? kind items).map .arr := rfl
      rw [harr, canonicalItems?_eq h hitems, Option.map_map]
      rfl
  | _ => rfl

section Tuples

variable {bound : Nat} {first second third fourth : Kind}
  {decodeFirst : Json → Except Rejection α} {encodeFirst : α → Json}
  {decodeSecond : Json → Except Rejection β} {encodeSecond : β → Json}
  {decodeThird : Json → Except Rejection γ} {encodeThird : γ → Json}
  {decodeFourth : Json → Except Rejection δ} {encodeFourth : δ → Json}

/-- The canonical forms of parts, the first one and the others. -/
theorem canonicalParts?_cons (kind : Kind) (kinds : List Kind) (item : Json) (rest : List Json) :
    canonicalParts? (kind :: kinds) (item :: rest)
      = (canonical? kind item).bind fun found =>
          (canonicalParts? kinds rest).bind fun others => some (found :: others) :=
  rfl

/-- An array of another length is no tuple. -/
theorem canonicalParts?_eq_none {kinds : List Kind} {items : List Json}
    (h : items.length ≠ kinds.length) : canonicalParts? kinds items = none := by
  induction items generalizing kinds with
  | nil =>
      cases kinds with
      | nil => exact absurd rfl h
      | cons kind kinds => rfl
  | cons item rest ih =>
      cases kinds with
      | nil => rfl
      | cons kind kinds =>
          rw [canonicalParts?_cons, ih (by simpa using h)]
          cases canonical? kind item <;> rfl

/-- A value with another number of items than parts has no canonical form. -/
theorem canonical?_tuple_eq_none {kinds : List Kind} {json : Json}
    (h : ∀ items, json = .arr items → items.length ≠ kinds.length) :
    canonical? (.tuple kinds) json = none := by
  cases json with
  | arr items =>
      have harr : canonical? (.tuple kinds) (.arr items)
          = (canonicalParts? kinds items).map .arr := rfl
      rw [harr, canonicalParts?_eq_none (h items rfl)]
      rfl
  | _ => rfl

/-- Two parts are read one after the other. -/
theorem canonical?_pair (what : Text) (hfirst : ReadsBelow bound first decodeFirst encodeFirst)
    (hsecond : ReadsBelow bound second decodeSecond encodeSecond) {json : Json}
    (hjson : sizeOf json < bound) :
    canonical? (.tuple [first, second]) json
      = (json.asPair what).toOption.bind fun parts =>
          (decodeFirst parts.1).toOption.bind fun a =>
            (decodeSecond parts.2).toOption.bind fun b =>
              some (.arr [encodeFirst a, encodeSecond b]) := by
  unfold Json.asPair
  split
  · rename_i a b
    have hparts : ∀ part ∈ [a, b], sizeOf part < bound := fun _ hpart =>
      Nat.lt_trans (sizeOf_lt_of_mem hpart) hjson
    have ha := hfirst a (hparts a (by simp))
    have hb := hsecond b (hparts b (by simp))
    simp [canonical?, Kind.form, canonicalParts?, ha, hb, Option.map_eq_bind, Option.bind_assoc]
  · rename_i hother
    refine canonical?_tuple_eq_none fun items hitems hlength => ?_
    obtain ⟨a, b, rfl⟩ := List.length_eq_two.1 hlength
    exact hother a b hitems

/-- Three parts are read one after the other. -/
theorem canonical?_triple (what : Text) (hfirst : ReadsBelow bound first decodeFirst encodeFirst)
    (hsecond : ReadsBelow bound second decodeSecond encodeSecond)
    (hthird : ReadsBelow bound third decodeThird encodeThird) {json : Json}
    (hjson : sizeOf json < bound) :
    canonical? (.tuple [first, second, third]) json
      = (json.asTriple what).toOption.bind fun parts =>
          (decodeFirst parts.1).toOption.bind fun a =>
            (decodeSecond parts.2.1).toOption.bind fun b =>
              (decodeThird parts.2.2).toOption.bind fun c =>
                some (.arr [encodeFirst a, encodeSecond b, encodeThird c]) := by
  unfold Json.asTriple
  split
  · rename_i a b c
    have hparts : ∀ part ∈ [a, b, c], sizeOf part < bound := fun _ hpart =>
      Nat.lt_trans (sizeOf_lt_of_mem hpart) hjson
    have ha := hfirst a (hparts a (by simp))
    have hb := hsecond b (hparts b (by simp))
    have hc := hthird c (hparts c (by simp))
    simp [canonical?, Kind.form, canonicalParts?, ha, hb, hc, Option.map_eq_bind,
      Option.bind_assoc]
  · rename_i hother
    refine canonical?_tuple_eq_none fun items hitems hlength => ?_
    obtain ⟨a, b, c, rfl⟩ := List.length_eq_three.1 hlength
    exact hother a b c hitems

/-- Four parts are read one after the other. -/
theorem canonical?_quadruple (what : Text)
    (hfirst : ReadsBelow bound first decodeFirst encodeFirst)
    (hsecond : ReadsBelow bound second decodeSecond encodeSecond)
    (hthird : ReadsBelow bound third decodeThird encodeThird)
    (hfourth : ReadsBelow bound fourth decodeFourth encodeFourth) {json : Json}
    (hjson : sizeOf json < bound) :
    canonical? (.tuple [first, second, third, fourth]) json
      = (json.asQuadruple what).toOption.bind fun parts =>
          (decodeFirst parts.1).toOption.bind fun a =>
            (decodeSecond parts.2.1).toOption.bind fun b =>
              (decodeThird parts.2.2.1).toOption.bind fun c =>
                (decodeFourth parts.2.2.2).toOption.bind fun d =>
                  some (.arr [encodeFirst a, encodeSecond b, encodeThird c, encodeFourth d]) := by
  unfold Json.asQuadruple
  split
  · rename_i a b c d
    have hparts : ∀ part ∈ [a, b, c, d], sizeOf part < bound := fun _ hpart =>
      Nat.lt_trans (sizeOf_lt_of_mem hpart) hjson
    have ha := hfirst a (hparts a (by simp))
    have hb := hsecond b (hparts b (by simp))
    have hc := hthird c (hparts c (by simp))
    have hd := hfourth d (hparts d (by simp))
    simp [canonical?, Kind.form, canonicalParts?, ha, hb, hc, hd, Option.map_eq_bind,
      Option.bind_assoc]
  · rename_i hother
    refine canonical?_tuple_eq_none fun items hitems hlength => ?_
    obtain ⟨a, rest, rfl⟩ := List.exists_cons_of_length_eq_add_one hlength
    obtain ⟨b, c, d, rfl⟩ := List.length_eq_three.1 (Nat.succ.inj hlength)
    exact hother a b c d hitems

end Tuples

/-! ## Tagged values -/

/-- A reader and a writer fit one tag of a kind, on payloads below a bound. -/
def ReadsTag (bound : Nat) (decode : Json → Except Rejection α) (encode : α → Json)
    (entry : Text × Option Kind) : Prop :=
  ∀ payload, sizeOf payload < bound →
    (decode (.obj [(entry.1, payload)])).toOption.map encode =
      match entry.2 with
      | none => some (.str entry.1)
      | some part => (canonical? part payload).map fun found => .obj [(entry.1, found)]

/-- A tag without a payload. -/
theorem readsTag_bare {bound : Nat} {decode : Json → Except Rejection α} {encode : α → Json}
    {tag : Text} (value : α) (hdecode : ∀ payload, decode (.obj [(tag, payload)]) = .ok value)
    (hencode : encode value = .str tag) : ReadsTag bound decode encode (tag, none) := by
  intro payload _
  rw [hdecode, toOption_ok, Option.map_some, hencode]

section Payloads

variable {bound : Nat} {decode : Json → Except Rejection α} {encode : α → Json} {tag : Text}
  {first second third fourth : Kind}
  {decodeFirst : Json → Except Rejection β} {encodeFirst : β → Json}
  {decodeSecond : Json → Except Rejection γ} {encodeSecond : γ → Json}
  {decodeThird : Json → Except Rejection δ} {encodeThird : δ → Json}
  {decodeFourth : Json → Except Rejection ε} {encodeFourth : ε → Json}

/-- A tag with one part. -/
theorem readsTag_part (build : β → α) (hfirst : ReadsBelow bound first decodeFirst encodeFirst)
    (hdecode : ∀ payload, decode (.obj [(tag, payload)]) = (do
      return build (← decodeFirst payload)))
    (hencode : ∀ a, encode (build a) = .obj [(tag, encodeFirst a)]) :
    ReadsTag bound decode encode (tag, some first) := by
  intro payload hpayload
  simp [hdecode, hfirst payload hpayload, hencode, Function.comp_def]

/-- A tag with two parts. -/
theorem readsTag_pair (what : Text) (build : β → γ → α)
    (hfirst : ReadsBelow bound first decodeFirst encodeFirst)
    (hsecond : ReadsBelow bound second decodeSecond encodeSecond)
    (hdecode : ∀ payload, decode (.obj [(tag, payload)]) = (do
      let parts ← payload.asPair what
      let a ← decodeFirst parts.1
      return build a (← decodeSecond parts.2)))
    (hencode : ∀ a b, encode (build a b) = .obj [(tag, .arr [encodeFirst a, encodeSecond b])]) :
    ReadsTag bound decode encode (tag, some (.tuple [first, second])) := by
  intro payload hpayload
  simp [hdecode, canonical?_pair what hfirst hsecond hpayload, hencode, Option.map_eq_bind,
    Option.bind_assoc]

/-- A tag with three parts. -/
theorem readsTag_triple (what : Text) (build : β → γ → δ → α)
    (hfirst : ReadsBelow bound first decodeFirst encodeFirst)
    (hsecond : ReadsBelow bound second decodeSecond encodeSecond)
    (hthird : ReadsBelow bound third decodeThird encodeThird)
    (hdecode : ∀ payload, decode (.obj [(tag, payload)]) = (do
      let parts ← payload.asTriple what
      let a ← decodeFirst parts.1
      let b ← decodeSecond parts.2.1
      return build a b (← decodeThird parts.2.2)))
    (hencode : ∀ a b c, encode (build a b c)
      = .obj [(tag, .arr [encodeFirst a, encodeSecond b, encodeThird c])]) :
    ReadsTag bound decode encode (tag, some (.tuple [first, second, third])) := by
  intro payload hpayload
  simp [hdecode, canonical?_triple what hfirst hsecond hthird hpayload, hencode,
    Option.map_eq_bind, Option.bind_assoc]

/-- A tag with four parts. -/
theorem readsTag_quadruple (what : Text) (build : β → γ → δ → ε → α)
    (hfirst : ReadsBelow bound first decodeFirst encodeFirst)
    (hsecond : ReadsBelow bound second decodeSecond encodeSecond)
    (hthird : ReadsBelow bound third decodeThird encodeThird)
    (hfourth : ReadsBelow bound fourth decodeFourth encodeFourth)
    (hdecode : ∀ payload, decode (.obj [(tag, payload)]) = (do
      let parts ← payload.asQuadruple what
      let a ← decodeFirst parts.1
      let b ← decodeSecond parts.2.1
      let c ← decodeThird parts.2.2.1
      return build a b c (← decodeFourth parts.2.2.2)))
    (hencode : ∀ a b c d, encode (build a b c d)
      = .obj [(tag, .arr [encodeFirst a, encodeSecond b, encodeThird c, encodeFourth d])]) :
    ReadsTag bound decode encode (tag, some (.tuple [first, second, third, fourth])) := by
  intro payload hpayload
  simp [hdecode, canonical?_quadruple what hfirst hsecond hthird hfourth hpayload, hencode,
    Option.map_eq_bind, Option.bind_assoc]

end Payloads

section Tags

variable {bound : Nat} {kind : Kind} {tags : List (Text × Option Kind)}
  {decode : Json → Except Rejection α} {encode : α → Json}

/-- What a reader gives for any tag, known or not. -/
theorem toOption_tag_eq (hknown : tags.Forall (ReadsTag bound decode encode))
    (hunknown : ∀ tag payload, tag ∉ tags.map Prod.fst →
      (decode (.obj [(tag, payload)])).toOption = none) (tag : Text) {payload : Json}
    (hpayload : sizeOf payload < bound) :
    (decode (.obj [(tag, payload)])).toOption.map encode
      = (Assoc.find? tag tags).bind fun
        | none => some (.str tag)
        | some part => (canonical? part payload).map fun found => .obj [(tag, found)] := by
  rw [List.forall_iff_forall_mem] at hknown
  cases hfind : Assoc.find? tag tags with
  | none =>
      rw [hunknown tag payload (Assoc.find?_eq_none_iff.1 hfind)]
      rfl
  | some part =>
      rw [hknown (tag, part) (Assoc.mem_of_find? hfind) payload hpayload]
      cases part <;> rfl

/-- A tag alone has the form that it has with the payload `null`, as no payload may be `null`. -/
theorem canonical?_bareTag (hform : kind.form = .tagged tags)
    (hparts : tags.all (fun entry => !entry.2.any Kind.nullable) = true) (tag : Text) :
    canonical? kind (.str tag)
      = (Assoc.find? tag tags).bind fun
        | none => some (.str tag)
        | some part => (canonical? part .null).map fun found => .obj [(tag, found)] := by
  rw [List.all_eq_true] at hparts
  cases hfind : Assoc.find? tag tags with
  | none => simp [canonical?, hform, hfind]
  | some part =>
      cases part with
      | none => simp [canonical?, hform, hfind]
      | some part =>
          have hpart : part.nullable = false := by
            simpa using hparts (tag, some part) (Assoc.mem_of_find? hfind)
          simp [canonical?, hform, hfind, hpart]

/-- A reader of tagged values fits a kind when it fits each of the tags and accepts no other tag.
No payload may be `null`, since a tag alone is read as if `null` were its payload. -/
theorem readsBelow_tagged (what : Text) (hform : kind.form = .tagged tags)
    (hnull : kind.nullable = false)
    (hparts : tags.all (fun entry => !entry.2.any Kind.nullable) = true)
    (hdecode : ∀ json, decode json = (do
      let found ← json.asTagged what
      decode (.obj [(found.1, found.2)])))
    (hknown : tags.Forall (ReadsTag bound decode encode))
    (hunknown : ∀ tag payload, tag ∉ tags.map Prod.fst →
      (decode (.obj [(tag, payload)])).toOption = none) :
    ReadsBelow (bound + 1) kind decode encode := by
  intro json hjson
  rw [hdecode]
  unfold Json.asTagged
  split
  · rename_i tag
    have hsize : sizeOf Json.null < bound := by
      have htag : 1 ≤ sizeOf tag := by
        cases tag
        simp
      simp only [Json.str.sizeOf_spec, Json.null.sizeOf_spec] at hjson ⊢
      omega
    rw [ok_bind, canonical?_bareTag hform hparts]
    exact (toOption_tag_eq hknown hunknown tag hsize).symm
  · rename_i tag payload
    have hsize : sizeOf payload < bound := by
      simp only [Json.obj.sizeOf_spec, List.cons.sizeOf_spec, Prod.mk.sizeOf_spec] at hjson
      omega
    rw [ok_bind, canonical?_tagged hform]
    exact (toOption_tag_eq hknown hunknown tag hsize).symm
  · rename_i hstr hobj
    cases json with
    | null => simp [canonical?, hnull]
    | bool value => simp [canonical?, hform]
    | int value => simp [canonical?, hform]
    | real value => simp [canonical?]
    | str text => exact absurd rfl (hstr text)
    | arr items => simp [canonical?, hform]
    | obj members =>
        refine canonical?_tagged_eq_none hform fun tag payload hmembers => ?_
        exact hobj tag payload (congrArg Json.obj hmembers)

end Tags

/-! ## Records -/

/-- The canonical form of a member is that of its value, or what stands in for it. -/
theorem canonicalMember?_eq (field : Member) (members : List (Text × Json)) :
    canonicalMember? field members =
      match Assoc.find? field.key members with
      | some value => (canonical? field.kind value).map fun found => (field.key, found)
      | none => field.absent.map fun value => (field.key, value) := by
  induction members with
  | nil => rfl
  | cons member rest ih =>
      obtain ⟨key, value⟩ := member
      rw [canonicalMember?, Assoc.find?]
      by_cases hkey : key = field.key
      · simp [hkey]
      · simp [hkey, ih]

/-- The value of a member is smaller than its object. -/
theorem sizeOf_lt_of_find? {key : Text} {value : Json} {members : List (Text × Json)}
    (h : Assoc.find? key members = some value) : sizeOf value < sizeOf (Json.obj members) := by
  have hmem := List.sizeOf_lt_of_mem (Assoc.mem_of_find? h)
  simp only [Prod.mk.sizeOf_spec] at hmem
  rw [Json.obj.sizeOf_spec]
  omega

section Members

variable {bound : Nat} {kind : Kind} {decode : Json → Except Rejection α} {encode : α → Json}
  {members : List (Text × Json)}

/-- A member that has to be there. -/
theorem ReadsBelow.member (h : ReadsBelow bound kind decode encode) (key : Text)
    (hmembers : sizeOf (Json.obj members) ≤ bound) :
    canonicalMember? ⟨key, kind, none⟩ members
      = (Json.member key members).toOption.bind fun value =>
          (decode value).toOption.bind fun a => some (key, encode a) := by
  rw [canonicalMember?_eq, Json.member]
  cases hfind : Assoc.find? key members with
  | none => rfl
  | some value =>
      have hvalue := h value (Nat.lt_of_lt_of_le (sizeOf_lt_of_find? hfind) hmembers)
      simp [hvalue, Option.map_eq_bind, Option.bind_assoc]

/-- A member that counts as an empty array when it is missing. -/
theorem ReadsBelow.items (h : ReadsBelow bound kind decode encode) (key : Text)
    (hmembers : sizeOf (Json.obj members) ≤ bound) :
    canonicalMember? ⟨key, .list kind, some (.arr [])⟩ members
      = (Json.itemsOf key members).toOption.bind fun items =>
          (items.mapM decode).toOption.bind fun values =>
            some (key, Json.ofList encode values) := by
  rw [canonicalMember?_eq, Json.itemsOf]
  cases hfind : Assoc.find? key members with
  | none => rfl
  | some value =>
      have hvalue := h.list key value (Nat.lt_of_lt_of_le (sizeOf_lt_of_find? hfind) hmembers)
      simp [hvalue, Option.map_eq_bind, Option.bind_assoc]

/-- A member that counts as `null` when it is missing. -/
theorem ReadsBelow.memberOrNull (h : ReadsBelow bound kind decode encode) (key : Text)
    (hnull : kind.nullable = true) (hmembers : sizeOf (Json.obj members) ≤ bound) :
    canonicalMember? ⟨key, kind, some .null⟩ members
      = (decode (Json.memberOrNull key members)).toOption.bind fun a => some (key, encode a) := by
  rw [canonicalMember?_eq, Json.memberOrNull]
  cases hfind : Assoc.find? key members with
  | none =>
      have hbound : sizeOf Json.null < bound := by
        have : 1 ≤ sizeOf members := by cases members <;> simp [Nat.add_assoc]
        simp only [Json.obj.sizeOf_spec, Json.null.sizeOf_spec] at hmembers ⊢
        omega
      have hvalue := h .null hbound
      simp only [canonical?, hnull, if_true] at hvalue
      cases hdecode : decode .null with
      | error e => simp [hdecode] at hvalue
      | ok a =>
          simp only [hdecode, toOption_ok, Option.map_some, Option.some.injEq] at hvalue
          simp [hdecode, ← hvalue]
  | some value =>
      have hvalue := h value (Nat.lt_of_lt_of_le (sizeOf_lt_of_find? hfind) hmembers)
      simp [hvalue, Option.map_eq_bind, Option.bind_assoc]

/-- A reader of records fits a kind when it fits its members. -/
theorem readsBelow_record {fields : List Member} (what : Text)
    (hform : kind.form = .record fields) (hnull : kind.nullable = false)
    (hdecode : ∀ json, decode json = (do
      let members ← json.asObject what
      decode (.obj members)))
    (hmembers : ∀ members, sizeOf (Json.obj members) < bound →
      (fields.mapM fun field => canonicalMember? field members).map Json.obj
        = (decode (.obj members)).toOption.map encode) :
    ReadsBelow bound kind decode encode := by
  intro json hjson
  cases json with
  | obj members =>
      rw [canonical?_record hform]
      exact hmembers members hjson
  | null => simp [canonical?, hnull, hdecode .null, Json.asObject]
  | bool value => simp [canonical?, hform, hdecode (.bool value), Json.asObject]
  | int value => simp [canonical?, hform, hdecode (.int value), Json.asObject]
  | real value => simp [canonical?, hdecode (.real value), Json.asObject]
  | str value => simp [canonical?, hform, hdecode (.str value), Json.asObject]
  | arr items => simp [canonical?, hform, hdecode (.arr items), Json.asObject]

end Members

end CrateListing
