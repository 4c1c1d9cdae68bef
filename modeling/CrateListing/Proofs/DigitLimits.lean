import CrateListing.Proofs.Numerals
import CrateListing.Proofs.Sessions

/-!
# Integers in crate files

An integer in a file has a limited number of digits.  So every integer in a JSON
value that was read from a file is within the limit, however deep it stands, and
so is the identifier of every declaration in a crate that was loaded.

Main definitions:

- `Json.Fits`: a value in which every integer is within the limit.
- `Crate.Numbered`: declarations are stored under their own identifiers, which are within the limit.
- `Crate.Loaded`: a crate that was loaded from a file and perhaps rewritten by the pass.

Main results:

- Theorem `Json.fits_of_parse`: the integers in a document are within the limit.
- Theorem `Crate.Loaded.numbered`: the declarations of a crate that was loaded.
-/

namespace CrateListing

open Outcome

namespace Json

/-! ## Numbers -/

/-- Every integer in a value has no more digits than a literal may have. -/
inductive Fits : Json → Prop where
  | null : Fits .null
  | bool (value : Bool) : Fits (.bool value)
  | int {n : Int} (h : Text.WithinLimit n) : Fits (.int n)
  | real (value : Binary64) : Fits (.real value)
  | str (text : Text) : Fits (.str text)
  | arr {items : List Json} (h : ∀ item ∈ items, Fits item) : Fits (.arr items)
  | obj {members : List (Text × Json)} (h : ∀ entry ∈ members, Fits entry.2) :
      Fits (.obj members)

/-- The value of an ASCII digit is less than ten. -/
theorem lt_ten_of_isDigit {c : CodePoint} (h : c.isDigit = true) : c.toNat - 0x30 < 10 := by
  have hrange := CodePoint.isDigit_iff.1 h
  omega

/-- An integer that is read has the digits that were counted. -/
theorem withinLimit_of_digits {digits : List CodePoint} (h : ∀ c ∈ digits, c.isDigit = true)
    (hlimit : digits.length ≤ Text.digitLimit) {n : Int} (hn : n.natAbs = digitsValue digits) :
    Text.WithinLimit n := by
  have hvalues : ∀ value ∈ digits.map (fun c => c.toNat - 0x30), value < 10 := by
    intro value hvalue
    obtain ⟨c, hc, rfl⟩ := List.mem_map.1 hvalue
    exact lt_ten_of_isDigit (h c hc)
  rw [digitsValue] at hn
  rw [← List.length_map fun c : CodePoint => c.toNat - 0x30] at hlimit
  exact Text.withinLimit_of_length hvalues hlimit hn

/-- A number that is read is within the limit. -/
theorem gives_readNumber (text : List CodePoint) :
    Gives (readNumber text) fun reading => reading.1.Fits := by
  fun_cases readNumber text with
  | case1 => exact gives_error _
  | case2 => exact gives_error _
  | case3 negative body _ whole afterWhole hwhole _ _ _ _ _ _ _ _ hlimit value =>
      have hdigits : ∀ c ∈ whole, c.isDigit = true := fun c hc =>
        isDigit_of_mem_splitWhole (by rwa [hwhole])
      refine gives_ok (.int (withinLimit_of_digits hdigits (not_lt.1 hlimit) ?_))
      cases negative <;> simp [value]
  | case4 => exact gives_ok (.real _)

/-! ## Values -/

/-- A word stands for no integer. -/
theorem gives_readWord (text : List CodePoint) :
    Gives (readWord text) fun reading => reading.1.Fits := by
  have hwords : ∀ word ∈ words, word.2.Fits := by
    simp [words, Fits.null, Fits.bool, Fits.real]
  unfold readWord
  split
  · next hword => exact gives_ok (hwords _ (List.mem_of_find?_eq_some hword))
  · exact gives_readNumber text

/-- The items of an array fit when each value and the items behind it do. -/
theorem gives_readItems_succ {steps : Nat}
    (hvalue : ∀ text, Gives (readValue steps text) fun reading => reading.1.Fits)
    (hitems : ∀ text, Gives (readItems steps text) fun reading => ∀ item ∈ reading.1, item.Fits)
    (text : List CodePoint) :
    Gives (readItems (steps + 1) text) fun reading => ∀ item ∈ reading.1, item.Fits := by
  unfold readItems
  refine (hvalue text).bind fun reading hitem => ?_
  obtain ⟨item, after⟩ := reading
  dsimp only
  generalize skipSpace after = found
  split
  · exact gives_pure (by simpa using hitem)
  · exact (hitems _).bind_pure fun reading hmore => List.forall_mem_cons.2 ⟨hitem, hmore⟩
  · exact gives_error _

/-- The members of an object fit when each value and the members behind it do. -/
theorem gives_readMembers_succ {steps : Nat}
    (hvalue : ∀ text, Gives (readValue steps text) fun reading => reading.1.Fits)
    (hmembers : ∀ text, Gives (readMembers steps text) fun reading =>
      ∀ entry ∈ reading.1, entry.2.Fits)
    (text : List CodePoint) :
    Gives (readMembers (steps + 1) text) fun reading => ∀ entry ∈ reading.1, entry.2.Fits := by
  unfold readMembers
  split
  · refine gives_bind fun reading => ?_
    obtain ⟨chars, afterKey⟩ := reading
    dsimp only
    generalize skipSpace afterKey = found
    split
    · refine (hvalue _).bind fun reading hmember => ?_
      obtain ⟨value, afterValue⟩ := reading
      dsimp only
      generalize skipSpace afterValue = found
      split
      · exact gives_pure (by simpa using hmember)
      · exact (hmembers _).bind_pure fun reading hmore => List.forall_mem_cons.2 ⟨hmember, hmore⟩
      · exact gives_error _
    · exact gives_error _
  · exact gives_error _

/-- A value fits when the items and the members in it do. -/
theorem gives_readValue_succ {steps : Nat}
    (hitems : ∀ text, Gives (readItems steps text) fun reading => ∀ item ∈ reading.1, item.Fits)
    (hmembers : ∀ text, Gives (readMembers steps text) fun reading =>
      ∀ entry ∈ reading.1, entry.2.Fits)
    (text : List CodePoint) :
    Gives (readValue (steps + 1) text) fun reading => reading.1.Fits := by
  unfold readValue
  split
  · exact gives_bind fun _ => gives_pure (.str _)
  · split
    · exact gives_ok (.arr (List.forall_mem_nil _))
    · exact (hitems _).bind_pure fun _ h => .arr h
  · split
    · exact gives_ok (.obj (List.forall_mem_nil _))
    · exact (hmembers _).bind_pure fun _ h => .obj fun entry hentry =>
        h entry (Assoc.mem_of_mem_ofList hentry)
  · exact gives_readWord text

/-- Values, items and members, by induction on the number of steps. -/
theorem gives_read_all (steps : Nat) :
    (∀ text, Gives (readValue steps text) fun reading => reading.1.Fits) ∧
    (∀ text, Gives (readItems steps text) fun reading => ∀ item ∈ reading.1, item.Fits) ∧
    ∀ text, Gives (readMembers steps text) fun reading => ∀ entry ∈ reading.1, entry.2.Fits := by
  induction steps with
  | zero => exact ⟨fun _ => gives_error _, fun _ => gives_error _, fun _ => gives_error _⟩
  | succ steps ih =>
      obtain ⟨hvalue, hitems, hmembers⟩ := ih
      exact ⟨gives_readValue_succ hitems hmembers, gives_readItems_succ hvalue hitems,
        gives_readMembers_succ hvalue hmembers⟩

/-- A value that is read fits, by induction on the steps of the readers. -/
theorem gives_read (text : List CodePoint) : Gives (read text) Fits := by
  obtain ⟨hvalue, -, -⟩ := gives_read_all (2 * text.length + 2)
  unfold read
  split
  · exact gives_error _
  · refine (hvalue _).bind fun reading hfits => ?_
    obtain ⟨value, after⟩ := reading
    dsimp only
    split
    · exact gives_pure hfits
    · exact gives_error _

/-- The integers in a document are within the limit. -/
theorem fits_of_parse {text : List CodePoint} {json : Json} (h : parse text = .ok json) :
    json.Fits :=
  gives_read text json (mapError_eq_ok_iff.1 h)

/-! ## Sections -/

/-- What is found in an object that fits does so as well. -/
theorem Fits.of_find? {members : List (Text × Json)} (h : (Json.obj members).Fits) {key : Text}
    {value : Json} (hfind : Assoc.find? key members = some value) : value.Fits := by
  cases h with
  | obj h => exact h (key, value) (Assoc.mem_of_find? hfind)

/-- The items of a section of a document that fits do so as well. -/
theorem Fits.of_mem_sectionItems {json : Json} (h : json.Fits) {key : Text} {item : Json}
    (hitem : item ∈ json.sectionItems key) : item.Fits := by
  unfold sectionItems at hitem
  split at hitem
  · split at hitem
    · next hfind =>
        cases h.of_find? hfind with
        | arr hitems => exact hitems item hitem
    · cases hitem
  · cases hitem

/-- The identifier in a document that fits is within the limit. -/
theorem Fits.withinLimit_declId {json : Json} (h : json.Fits) {id : Int}
    (hid : json.declId? = some id) : Text.WithinLimit id := by
  unfold declId? at hid
  split at hid
  · split at hid
    · next hfind =>
        cases hid
        cases h.of_find? hfind with
        | int hlimit => exact hlimit
    · cases hid
  · cases hid

end Json

/-! ## Crates -/

/-- The document in a file fits. -/
theorem Crate.fits_of_jsonOfBytes {path : Text} {bytes : List UInt8} {json : Json}
    (h : Crate.jsonOfBytes path bytes = .ok json) : json.Fits := by
  unfold Crate.jsonOfBytes at h
  split at h
  · cases h
  · split at h
    · next hparse =>
        cases h
        exact Json.fits_of_parse hparse
    · cases h
    · cases h

/-- The declarations of a crate are stored under their own identifiers, and these have no more
digits than a literal may have. -/
structure Crate.Numbered (crate : Crate) : Prop where
  keyed : crate.KeyedById
  withinLimit : ∀ kind, ∀ decl ∈ crate.ofKind kind, Text.WithinLimit decl.id

/-- The identifiers of declarations that were read from a file. -/
theorem Table.withinLimit_of_mapM {α : Type} {decode : Json → Except Rejection α} {idOf : α → Int}
    (hid : ∀ json, Gives (decode json) fun decl => json.declId? = some (idOf decl))
    {items : List Json} (hfits : ∀ item ∈ items, item.Fits) {decls : List α}
    (h : items.mapM decode = .ok decls) :
    ∀ decl ∈ (Table.ofItems idOf decls).values, Text.WithinLimit (idOf decl) := by
  intro decl hdecl
  obtain ⟨entry, hentry, rfl⟩ := List.mem_map.1 hdecl
  obtain ⟨listed, hlisted, rfl⟩ := List.mem_map.1 (Assoc.mem_of_mem_ofList hentry)
  obtain ⟨item, hitem, hread⟩ := exists_of_mem_mapM h hlisted
  exact (hfits item hitem).withinLimit_declId (hid item listed hread)

/-- The declarations of a crate from a file are numbered. -/
theorem Crate.numbered_of_load {path : Text} {content : Except ReadError (List UInt8)}
    {crate : Crate} (h : (Crate.load path content).outcome = .ok crate) : crate.Numbered := by
  refine ⟨Crate.keyedById_of_load h, ?_⟩
  obtain ⟨bytes, json, -, hjson, hcrate⟩ := Crate.exists_of_load h
  have hfits := Crate.fits_of_jsonOfBytes hjson
  obtain ⟨name, types, globals, functions, rfl, htypes, hglobals, hfunctions⟩ :=
    Crate.exists_of_ofJson hcrate
  intro kind decl hdecl
  cases kind with
  | type =>
      obtain ⟨item, hitem, rfl⟩ := List.mem_map.1 hdecl
      exact Table.withinLimit_of_mapM TypeDecl.gives_declId (fun _ => hfits.of_mem_sectionItems)
        htypes item hitem
  | global =>
      obtain ⟨item, hitem, rfl⟩ := List.mem_map.1 hdecl
      exact Table.withinLimit_of_mapM GlobalDecl.gives_declId (fun _ => hfits.of_mem_sectionItems)
        hglobals item hitem
  | function =>
      obtain ⟨item, hitem, rfl⟩ := List.mem_map.1 hdecl
      exact Table.withinLimit_of_mapM FunDecl.gives_declId (fun _ => hfits.of_mem_sectionItems)
        hfunctions item hitem

/-- The pass does not change how declarations are numbered. -/
theorem Crate.Numbered.withoutNeverDrops {crate : Crate} (h : crate.Numbered) :
    crate.withoutNeverDrops.Numbered := by
  refine ⟨Crate.keyedById_withoutNeverDrops h.keyed, ?_⟩
  intro kind decl hdecl
  cases kind with
  | type => exact h.withinLimit .type decl hdecl
  | global => exact h.withinLimit .global decl hdecl
  | function =>
      obtain ⟨item, hitem, rfl⟩ := List.mem_map.1 hdecl
      obtain ⟨entry, hentry, rfl⟩ := List.mem_map.1 hitem
      obtain ⟨old, hold, rfl⟩ := List.mem_map.1 hentry
      exact h.withinLimit .function (.function old.2)
        (List.mem_map_of_mem (List.mem_map_of_mem hold))

/-- A crate that was loaded from a file, and perhaps rewritten by the pass, also again and again. -/
inductive Crate.Loaded : Crate → Prop where
  | file {path : Text} {content : Except ReadError (List UInt8)} {crate : Crate}
      (h : (Crate.load path content).outcome = .ok crate) : Loaded crate
  | rewritten {crate next : Crate} {options : Options} (hcrate : Loaded crate)
      (h : (crate.removeNeverDrops options).outcome = .ok next) : Loaded next

/-- The declarations of a crate that was loaded, by induction on how often it was rewritten. -/
theorem Crate.Loaded.numbered {crate : Crate} (h : crate.Loaded) : crate.Numbered := by
  induction h with
  | file h => exact Crate.numbered_of_load h
  | rewritten _ hnext ih =>
      rw [Crate.eq_withoutNeverDrops hnext]
      exact ih.withoutNeverDrops

end CrateListing
