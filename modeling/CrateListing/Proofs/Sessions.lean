import CrateListing.Proofs.CrateEncoding
import CrateListing.Proofs.LoadErrors
import CrateListing.Proofs.NeverDropLevels
import Mathlib.Data.Finset.Card
import Mathlib.Data.List.Forall2

/-!
# Sessions

A session works on one crate, which is loaded from files or JSON values and
rewritten by the pass again and again; a step that fails leaves the crate as it
was.  The tables of the crate stay in order all the time: every declaration is
stored under its own identifier, and the number of declarations is the number of
identifiers.

A crate that was loaded has the identifiers in the order in which its JSON value
lists them first, and for each of them the declaration that is listed last.

Main definitions:

- `Crate.Indexed`: what holds of the tables of a crate in a session.
- `Table.Lists`, `Crate.Lists`: what holds of the tables of a crate that was loaded.
- `SessionStep`, `Crate.afterSteps`: the steps of a session, and the crate after them.

Main results:

- Theorem `Table.lists_ofItems`: the table of the declarations in a JSON value.
- Theorem `SessionStep.changes_of_result`: what a step that succeeds makes of a crate.
- Theorem `SessionStep.keyedById_apply`: a step keeps declarations under their own identifiers.
- Theorem `Crate.session_invariant`: the crate of a session, and what each step makes of it.
-/

namespace CrateListing

open Outcome

variable {α : Type}

/-! ## Declarations in JSON values -/

namespace Json

/-- The identifier of a declaration. -/
def declId? : Json → Option Int
  | .obj members =>
      match Assoc.find? ("def_id" : Text) members with
      | some (.int id) => some id
      | _ => none
  | _ => none

/-- The declarations in one section of a crate; a section may be missing. -/
def sectionItems (key : Text) : Json → List Json
  | .obj members =>
      match Assoc.find? key members with
      | some (.arr items) => items
      | _ => []
  | _ => []

/-- The identifiers in one section of a crate, in the order of the list. -/
def sectionIds (key : Text) (json : Json) : List Int :=
  (json.sectionItems key).filterMap declId?

/-- Only an object is read as one. -/
theorem eq_obj_of_asObject {what : Text} {json : Json} {members : List (Text × Json)}
    (h : json.asObject what = .ok members) : json = .obj members := by
  cases json with
  | obj found =>
      cases h
      rfl
  | _ => cases h

/-- The identifier that is read is the one that the value has. -/
theorem declId?_eq_some {what : Text} {json value : Json} {members : List (Text × Json)}
    {id : Int} (hobject : json.asObject what = .ok members)
    (hmember : member "def_id" members = .ok value) (hid : value.asInteger "def_id" = .ok id) :
    json.declId? = some id := by
  obtain rfl := eq_obj_of_asObject hobject
  have hfind : Assoc.find? ("def_id" : Text) members = some value := by
    unfold member at hmember
    cases hfound : Assoc.find? ("def_id" : Text) members with
    | none =>
        rw [hfound] at hmember
        cases hmember
    | some found =>
        rw [hfound] at hmember
        cases hmember
        rfl
  cases value with
  | int found =>
      cases hid
      simp [declId?, hfind]
  | _ => cases hid

/-- The items that are read are those of the section. -/
theorem sectionItems_of_itemsOf {key : Text} {members : List (Text × Json)}
    {items : List Json} (h : itemsOf key members = .ok items) :
    (Json.obj members).sectionItems key = items := by
  unfold itemsOf at h
  cases hfind : Assoc.find? key members with
  | none =>
      rw [hfind] at h
      cases h
      simp [sectionItems, hfind]
  | some value =>
      rw [hfind] at h
      cases value with
      | arr found =>
          cases h
          simp [sectionItems, hfind]
      | _ => cases h

end Json

/-- A reader that takes the identifier from the value and keeps it. -/
theorem Json.gives_declId {what : Text} {json : Json} {idOf : α → Int}
    {rest : List (Text × Json) → Int → Except Rejection α}
    (hrest : ∀ members id, Gives (rest members id) fun decl => idOf decl = id) :
    Gives (do
      let members ← json.asObject what
      let id ← (← Json.member "def_id" members).asInteger "def_id"
      rest members id) fun decl => json.declId? = some (idOf decl) := by
  intro decl hdecl
  simp only [bind_eq_ok_iff] at hdecl
  obtain ⟨members, hobject, value, hmember, id, hid, hdecl⟩ := hdecl
  rw [hrest members id decl hdecl]
  exact Json.declId?_eq_some hobject hmember hid

/-- Declarations have the identifiers of the values that they are read from. -/
theorem TypeDecl.gives_declId (json : Json) :
    Gives (TypeDecl.ofJson json) fun decl => json.declId? = some decl.id := by
  refine Json.gives_declId fun members id => ?_
  repeat refine gives_bind fun _ => ?_
  exact gives_pure rfl

/-- The identifier of a global is the one in its JSON value. -/
theorem GlobalDecl.gives_declId (json : Json) :
    Gives (GlobalDecl.ofJson json) fun decl => json.declId? = some decl.id := by
  refine Json.gives_declId fun members id => ?_
  repeat refine gives_bind fun _ => ?_
  exact gives_pure rfl

/-- The identifier of a function is the one in its JSON value. -/
theorem FunDecl.gives_declId (json : Json) :
    Gives (FunDecl.ofJson json) fun decl => json.declId? = some decl.id := by
  refine Json.gives_declId fun members id => ?_
  repeat refine gives_bind fun _ => ?_
  exact gives_pure rfl

/-! ## Tables of declarations that were listed -/

/-- A table has the identifiers of the listed values in the order in which they are listed first,
and for each identifier the declaration that is listed last with it. -/
structure Table.Lists (decode : Json → Except Rejection α) (items : List Json)
    (table : Table α) : Prop where
  keys : table.keys = (items.filterMap Json.declId?).eraseDups
  last : ∀ id, table.find? id
    = (items.reverse.find? fun json => decide (json.declId? = some id)).bind fun json =>
        (decode json).toOption

section Listed

variable {decode : Json → Except Rejection α} {idOf : α → Int}
  (hid : ∀ json, Gives (decode json) fun decl => json.declId? = some (idOf decl))

include hid

/-- The identifiers in a list of values are those of the declarations read from them. -/
theorem ids_of_forall₂ {items : List Json} {decls : List α}
    (h : List.Forall₂ (fun json decl => decode json = .ok decl) items decls) :
    items.filterMap Json.declId? = decls.map idOf := by
  induction h with
  | nil => rfl
  | cons hdecl _ ih => rw [List.filterMap_cons_some (hid _ _ hdecl), ih, List.map_cons]

/-- The first declaration with an identifier is read from the first value with it. -/
theorem find?_of_forall₂ {items : List Json} {decls : List α} (id : Int)
    (h : List.Forall₂ (fun json decl => decode json = .ok decl) items decls) :
    decls.find? (fun decl => decide (idOf decl = id))
      = (items.find? fun json => decide (json.declId? = some id)).bind fun json =>
          (decode json).toOption := by
  induction h with
  | nil => rfl
  | @cons json decl items decls hdecl _ ih =>
      by_cases hfound : idOf decl = id
      · simp [hid _ _ hdecl, hfound, hdecl]
      · simp [hid _ _ hdecl, hfound, ih]

/-- The table of declarations that were read from a list. -/
theorem Table.lists_ofItems {items : List Json} {decls : List α}
    (h : items.mapM decode = .ok decls) : (Table.ofItems idOf decls).Lists decode items := by
  have hread := forall₂_of_mapM h
  refine ⟨?_, fun id => ?_⟩
  · rw [Table.keys_ofItems, ids_of_forall₂ hid hread]
  · rw [Table.find?_ofItems]
    exact find?_of_forall₂ hid id (List.forall₂_reverse_iff.2 hread)

end Listed

/-- The keys of a table are distinct. -/
theorem Table.card_keys (table : Table α) : table.keys.toFinset.card = table.size := by
  have hnodup : table.keys.Nodup := table.nodup
  rw [List.toFinset_card_of_nodup hnodup, table.length_keys]

/-- The number of items is the number of different identifiers that are listed. -/
theorem Table.Lists.size_eq {decode : Json → Except Rejection α} {items : List Json}
    {table : Table α} (h : table.Lists decode items) :
    table.size = (items.filterMap Json.declId?).toFinset.card := by
  have hids : (items.filterMap Json.declId?).toFinset = table.keys.toFinset := by
    ext id
    simp [h.keys, List.mem_eraseDups]
  rw [hids, table.card_keys]

/-- The tables of a crate list the sections of a JSON value, and its size is the number of different
identifiers in them. -/
structure Crate.Lists (json : Json) (crate : Crate) : Prop where
  types : crate.types.Lists TypeDecl.ofJson (json.sectionItems "types")
  globals : crate.globals.Lists GlobalDecl.ofJson (json.sectionItems "globals")
  functions : crate.functions.Lists FunDecl.ofJson (json.sectionItems "functions")
  size : crate.size = (json.sectionIds "types").toFinset.card
    + (json.sectionIds "globals").toFinset.card + (json.sectionIds "functions").toFinset.card

/-- A crate is made of the declarations that are read from the sections of a JSON value. -/
theorem Crate.exists_of_ofJson {json : Json} {crate : Crate}
    (h : (Crate.ofJson json).outcome = .ok crate) :
    ∃ name types globals functions, crate = Crate.ofDeclarations name types globals functions ∧
      (json.sectionItems "types").mapM TypeDecl.ofJson = .ok types ∧
      (json.sectionItems "globals").mapM GlobalDecl.ofJson = .ok globals ∧
      (json.sectionItems "functions").mapM FunDecl.ofJson = .ok functions := by
  simp only [Crate.outcome_ofJson, bind_eq_ok_iff] at h
  obtain ⟨members, hobject, name, -, typeItems, htypeItems, types, htypes, globalItems,
    hglobalItems, globals, hglobals, functionItems, hfunctionItems, functions, hfunctions,
    hcrate⟩ := h
  cases hcrate
  obtain rfl := Json.eq_obj_of_asObject hobject
  refine ⟨name, types, globals, functions, rfl, ?_, ?_, ?_⟩
  · rwa [Json.sectionItems_of_itemsOf htypeItems]
  · rwa [Json.sectionItems_of_itemsOf hglobalItems]
  · rwa [Json.sectionItems_of_itemsOf hfunctionItems]

/-- A crate that was read lists what its JSON value lists. -/
theorem Crate.lists_of_ofJson {json : Json} {crate : Crate}
    (h : (Crate.ofJson json).outcome = .ok crate) : crate.Lists json := by
  obtain ⟨name, types, globals, functions, rfl, htypes, hglobals, hfunctions⟩ :=
    Crate.exists_of_ofJson h
  have htypes := Table.lists_ofItems TypeDecl.gives_declId htypes
  have hglobals := Table.lists_ofItems GlobalDecl.gives_declId hglobals
  have hfunctions := Table.lists_ofItems FunDecl.gives_declId hfunctions
  refine ⟨htypes, hglobals, hfunctions, ?_⟩
  rw [Json.sectionIds, Json.sectionIds, Json.sectionIds, ← htypes.size_eq, ← hglobals.size_eq,
    ← hfunctions.size_eq]
  exact Nat.add_right_comm _ _ _

/-- A crate that was loaded is read from the JSON value in its file. -/
theorem Crate.exists_of_load {path : Text} {content : Except ReadError (List UInt8)}
    {crate : Crate} (h : (Crate.load path content).outcome = .ok crate) :
    ∃ bytes json, content = .ok bytes ∧ Crate.jsonOfBytes path bytes = .ok json ∧
      (Crate.ofJson json).outcome = .ok crate := by
  cases content with
  | error error => cases h
  | ok bytes =>
      rw [Crate.outcome_load, bind_eq_ok_iff] at h
      obtain ⟨json, hjson, hcrate⟩ := h
      exact ⟨bytes, json, rfl, hjson, mapError_eq_ok_iff.1 hcrate⟩

/-! ## Tables in order -/

/-- The tables of a crate are in order: no identifier occurs twice, every declaration is stored
under its own one, and the size is the number of different identifiers. -/
structure Crate.Indexed (crate : Crate) : Prop where
  typesNodup : crate.types.keys.Nodup
  globalsNodup : crate.globals.keys.Nodup
  functionsNodup : crate.functions.keys.Nodup
  keyed : crate.KeyedById
  size : crate.size = (crate.types.values.map TypeDecl.id).toFinset.card
    + (crate.globals.values.map GlobalDecl.id).toFinset.card
    + (crate.functions.values.map FunDecl.id).toFinset.card

/-- Only the places of the declarations have to be looked at. -/
theorem Crate.KeyedById.indexed {crate : Crate} (h : crate.KeyedById) : crate.Indexed where
  typesNodup := crate.types.nodup
  globalsNodup := crate.globals.nodup
  functionsNodup := crate.functions.nodup
  keyed := h
  size := by
    rw [h.types.map_id_values, h.globals.map_id_values, h.functions.map_id_values,
      Table.card_keys, Table.card_keys, Table.card_keys]
    exact Nat.add_right_comm _ _ _

/-- A crate that was read has its declarations in their places. -/
theorem Crate.keyedById_of_ofJson {json : Json} {crate : Crate}
    (h : (Crate.ofJson json).outcome = .ok crate) : crate.KeyedById := by
  obtain ⟨name, types, globals, functions, rfl, -⟩ := Crate.exists_of_ofJson h
  exact ⟨Table.keyedBy_ofItems _ _, Table.keyedBy_ofItems _ _, Table.keyedBy_ofItems _ _⟩

/-- The declarations of a crate from a file are stored under their identifiers. -/
theorem Crate.keyedById_of_load {path : Text} {content : Except ReadError (List UInt8)}
    {crate : Crate} (h : (Crate.load path content).outcome = .ok crate) : crate.KeyedById := by
  obtain ⟨-, json, -, -, hcrate⟩ := Crate.exists_of_load h
  exact Crate.keyedById_of_ofJson hcrate

/-- The pass gives the crate without drops of variables of type `!`, whatever it logs. -/
theorem Crate.eq_withoutNeverDrops {crate next : Crate} {options : Options}
    (h : (crate.removeNeverDrops options).outcome = .ok next) : next = crate.withoutNeverDrops := by
  rw [Crate.outcome_removeNeverDrops_eq, bind_eq_ok_iff] at h
  obtain ⟨-, -, hnext⟩ := h
  cases hnext
  rfl

/-- The pass keeps declarations under their identifiers. -/
theorem Crate.keyedById_withoutNeverDrops {crate : Crate} (h : crate.KeyedById) :
    crate.withoutNeverDrops.KeyedById :=
  ⟨h.types, h.globals, h.functions.mapValues fun _ => rfl⟩

/-! ## Steps of a session -/

/-- A step of a session. -/
inductive SessionStep where
  /-- A crate is loaded from what reading its file gave. -/
  | load (path : Text) (content : Except ReadError (List UInt8))
  /-- A crate is read from a JSON value. -/
  | decode (json : Json)
  /-- Drops of variables of type `!` are removed. -/
  | removeNeverDrops (options : Options)

namespace SessionStep

/-- The crate that a step gives, unless it fails. -/
def result? (crate : Crate) : SessionStep → Option Crate
  | .load path content => (Crate.load path content).outcome.toOption
  | .decode json => (Crate.ofJson json).outcome.toOption
  | .removeNeverDrops options => (crate.removeNeverDrops options).outcome.toOption

/-- The crate after a step; a step that fails leaves the crate as it was. -/
def apply (crate : Crate) (step : SessionStep) : Crate :=
  (step.result? crate).getD crate

/-- What a step that succeeds makes of a crate: a step that loads gives a crate that lists what the
JSON value lists, and the pass keeps all identifiers in their order. -/
def Changes (crate next : Crate) : SessionStep → Prop
  | .load path content => ∃ bytes json, content = .ok bytes ∧
      Crate.jsonOfBytes path bytes = .ok json ∧ next.Lists json
  | .decode json => next.Lists json
  | .removeNeverDrops _ => next.types.keys = crate.types.keys ∧
      next.globals.keys = crate.globals.keys ∧ next.functions.keys = crate.functions.keys

variable {crate next : Crate} {step : SessionStep}

/-- A step that succeeds changes the crate in the way of its kind. -/
theorem changes_of_result (h : step.result? crate = some next) : step.Changes crate next := by
  cases step with
  | load path content =>
      obtain ⟨bytes, json, hbytes, hjson, hnext⟩ := Crate.exists_of_load (toOption_eq_some_iff.1 h)
      exact ⟨bytes, json, hbytes, hjson, Crate.lists_of_ofJson hnext⟩
  | decode json => exact Crate.lists_of_ofJson (toOption_eq_some_iff.1 h)
  | removeNeverDrops options =>
      obtain rfl := Crate.eq_withoutNeverDrops (toOption_eq_some_iff.1 h)
      exact ⟨rfl, rfl, Table.keys_mapValues _ _⟩

/-- A step that succeeds gives a crate with its declarations in their places. -/
theorem keyedById_result (hcrate : crate.KeyedById) (h : step.result? crate = some next) :
    next.KeyedById := by
  cases step with
  | load path content => exact Crate.keyedById_of_load (toOption_eq_some_iff.1 h)
  | decode json => exact Crate.keyedById_of_ofJson (toOption_eq_some_iff.1 h)
  | removeNeverDrops options =>
      obtain rfl := Crate.eq_withoutNeverDrops (toOption_eq_some_iff.1 h)
      exact Crate.keyedById_withoutNeverDrops hcrate

/-- A step keeps declarations under their identifiers. -/
theorem keyedById_apply (hcrate : crate.KeyedById) (step : SessionStep) :
    (step.apply crate).KeyedById := by
  rw [apply]
  cases hnext : step.result? crate with
  | none => exact hcrate
  | some next => exact keyedById_result hcrate hnext

end SessionStep

/-! ## Sessions -/

/-- The crate after the steps of a session, which starts without declarations. -/
def Crate.afterSteps (steps : List SessionStep) : Crate :=
  steps.foldl (fun crate step => step.apply crate) {}

/-- The last step is taken after the others. -/
theorem Crate.afterSteps_concat (steps : List SessionStep) (step : SessionStep) :
    Crate.afterSteps (steps ++ [step]) = step.apply (Crate.afterSteps steps) :=
  List.foldl_concat ..

/-- After any steps declarations are stored under their identifiers. -/
theorem Crate.keyedById_afterSteps (steps : List SessionStep) :
    (Crate.afterSteps steps).KeyedById := by
  induction steps using List.reverseRecOn with
  | nil => exact ⟨by simp [Crate.afterSteps, Table.KeyedBy, Table.empty],
      by simp [Crate.afterSteps, Table.KeyedBy, Table.empty],
      by simp [Crate.afterSteps, Table.KeyedBy, Table.empty]⟩
  | append_singleton steps step ih =>
      rw [Crate.afterSteps_concat]
      exact SessionStep.keyedById_apply ih step

/-- After any steps the tables of the crate are in order.  A next step that succeeds gives the next
crate: one that lists what a JSON value lists, or one with the same identifiers.  A next step that
fails leaves the crate as it is. -/
theorem Crate.session_invariant (steps : List SessionStep) :
    (Crate.afterSteps steps).Indexed ∧
    (∀ step next, step.result? (Crate.afterSteps steps) = some next →
      Crate.afterSteps (steps ++ [step]) = next ∧ step.Changes (Crate.afterSteps steps) next) ∧
    ∀ step, step.result? (Crate.afterSteps steps) = none →
      Crate.afterSteps (steps ++ [step]) = Crate.afterSteps steps := by
  refine ⟨(Crate.keyedById_afterSteps steps).indexed, fun step next hnext => ⟨?_, ?_⟩,
    fun step hfails => ?_⟩
  · rw [Crate.afterSteps_concat, SessionStep.apply, hnext, Option.getD_some]
  · exact SessionStep.changes_of_result hnext
  · rw [Crate.afterSteps_concat, SessionStep.apply, hfails, Option.getD_none]

/-- A crate in which an identifier is given to two types. -/
def Json.withRepeatedId : Json :=
  .obj [("types", .arr [
    .obj [("def_id", .int 5), ("name", .arr [.str "A"]), ("kind", .str "Opaque")],
    .obj [("def_id", .int 2), ("name", .arr [.str "B"]), ("kind", .str "Opaque")],
    .obj [("def_id", .int 5), ("name", .arr [.str "C"]), ("kind", .str "Opaque")]])]

/-- The identifier keeps its first place and means the last type, also after the pass. -/
theorem Crate.afterSteps_withRepeatedId :
    ∃ loaded next, SessionStep.result? {} (.decode Json.withRepeatedId) = some loaded ∧
      loaded.types.keys = [5, 2] ∧
      (loaded.types.find? 5).map TypeDecl.name = some (["C"] : List Text) ∧
      loaded.size = 2 ∧
      SessionStep.result? loaded (.removeNeverDrops {}) = some next ∧
      next.types.keys = loaded.types.keys := by
  obtain ⟨hloaded, hlists⟩ :=
    (Crate.session_invariant []).2.1 (.decode Json.withRepeatedId) _ rfl
  obtain ⟨-, hkeys, -⟩ := (Crate.session_invariant [.decode Json.withRepeatedId]).2.1
    (.removeNeverDrops {}) _ rfl
  refine ⟨_, _, rfl, hlists.types.keys.trans (by decide), ?_, hlists.size.trans (by decide), rfl,
    hkeys⟩
  rw [hlists.types.last 5]
  rfl

end CrateListing
