import CrateListing.Crate.Render
import CrateListing.Proofs.Outcome
import CrateListing.Proofs.Tables

/-!
# The listing of a crate and of its declarations

A crate is listed declaration by declaration.  The outcomes of listing each
declaration by its identifier decide what the listing of the crate is: all texts
in order, or the first error; and when failures are left out, the texts that there
are, with a message for each failure.

Main definitions:

- `Crate.outcomes`: the listing of each declaration by its identifier.
- `Log.Style.shown`: the messages of a log that are shown.

Main results:

- Theorem `Crate.outcomes_eq_map`: the listings by identifier, declaration by declaration.
- Theorem `Crate.outcome_render_of_stopping`, `Crate.outcome_render_of_keepGoing`: what the
  listing gives under the two policies.
- Theorem `Crate.log_renderEntries`: the messages of the listing when failures are left out.
-/

namespace CrateListing

open Outcome

/-! ## Messages of computations -/

namespace Logged

variable {ε α β : Type}

/-- A message stands in front of those of what comes behind it. -/
@[simp]
theorem log_note_bind (level : Level) (message : Text) (next : Unit → Logged ε β) :
    (note level message >>= next).log = ⟨level, message⟩ :: (next ()).log :=
  rfl

/-- The messages of the second part stand behind those of the first one. -/
theorem log_bind_of_ok {x : Logged ε α} {a : α} (h : x.outcome = .ok a)
    (next : α → Logged ε β) : (x >>= next).log = x.log ++ (next a).log := by
  show (Logged.bind x next).log = _
  rw [Logged.bind, h]

/-- After a failure nothing is noted. -/
theorem log_bind_of_error {x : Logged ε α} {e : ε} (h : x.outcome = .error e)
    (next : α → Logged ε β) : (x >>= next).log = x.log := by
  show (Logged.bind x next).log = _
  rw [Logged.bind, h]

end Logged

namespace Log

/-- The messages of a log that are shown. -/
def Style.shown (style : Style) (log : List Entry) : List Entry :=
  log.filter fun entry => style.limit.admits entry.level

/-- The text of a log has a line for each message that is shown, and nothing else. -/
theorem Style.text_eq_shown (style : Style) (time : Text) (log : List Entry) :
    style.text time log
      = Text.join ((style.shown log).map fun entry =>
          style.mark time entry.level ++ entry.message ++ "\n") := by
  induction log with
  | nil => rfl
  | cons entry rest ih =>
      have hcons : style.text time (entry :: rest)
          = style.line time entry ++ style.text time rest := by
        simp [Style.text]
      rw [hcons, ih, Style.line, Style.shown, Style.shown]
      by_cases hadmits : style.limit.admits entry.level = true
      · simp [hadmits]
      · simp [hadmits]

end Log

/-! ## The listings by identifier -/

/-- The listing of each declaration by its identifier: of the types, then of the globals, then of
the functions, each in the order of the crate. -/
def Crate.outcomes (crate : Crate) (options : Options) : List (Except InternalError Text) :=
  crate.types.keys.map (crate.renderOne options .type)
    ++ crate.globals.keys.map (crate.renderOne options .global)
    ++ crate.functions.keys.map (crate.renderOne options .function)

/-- Listing the identifiers of a table in order is listing its items in order. -/
theorem Crate.map_renderOne_keys {α : Type} (crate : Crate) (options : Options) (kind : DeclKind)
    (table : Table α) (wrap : α → Declaration)
    (hfind : ∀ id, crate.find? kind id = (table.find? id).map wrap) :
    table.keys.map (crate.renderOne options kind)
      = (table.values.map wrap).map fun decl => decl.render crate options.indentStep := by
  rw [List.map_map]
  refine Table.map_keys_eq_map_values table fun id item hitem => ?_
  simp only [Crate.renderOne, hfind, hitem, Option.map_some, Function.comp_apply]

/-- The listings by identifier are the listings of the declarations in order. -/
theorem Crate.outcomes_eq_map (crate : Crate) (options : Options) :
    crate.outcomes options
      = crate.declarations.map fun decl => decl.render crate options.indentStep := by
  rw [Crate.outcomes, Crate.declarations, List.map_append, List.map_append,
    crate.map_renderOne_keys options .type crate.types .type fun _ => rfl,
    crate.map_renderOne_keys options .global crate.globals .global fun _ => rfl,
    crate.map_renderOne_keys options .function crate.functions .function fun _ => rfl]
  rfl

/-- A declaration that is found by its identifier is one of the crate. -/
theorem Crate.mem_ofKind_of_find? {crate : Crate} {kind : DeclKind} {id : Int}
    {decl : Declaration} (h : crate.find? kind id = some decl) : decl ∈ crate.ofKind kind := by
  cases kind
  all_goals
    obtain ⟨item, hitem, rfl⟩ := Option.map_eq_some_iff.1 h
    exact List.mem_map_of_mem (Table.mem_values_of_find? hitem)

/-- A declaration that is found is one of the declarations of the crate. -/
theorem Crate.mem_declarations_of_find? {crate : Crate} {kind : DeclKind} {id : Int}
    {decl : Declaration} (h : crate.find? kind id = some decl) : decl ∈ crate.declarations := by
  have hmem := Crate.mem_ofKind_of_find? h
  rw [Crate.declarations, List.mem_append, List.mem_append]
  cases kind with
  | type => exact Or.inl (Or.inl hmem)
  | global => exact Or.inl (Or.inr hmem)
  | function => exact Or.inr hmem

/-! ## The declarations of a listing -/

section Stopping

variable {options : Options} (hkeep : options.keepGoing = false)

include hkeep

/-- An entry of the listing is the text of the declaration or its error. -/
theorem Crate.outcome_renderEntry_of_stopping (crate : Crate) (decl : Declaration) :
    (crate.renderEntry options decl).outcome
      = (decl.render crate options.indentStep).map some := by
  rw [Crate.renderEntry, Logged.outcome_note_bind]
  cases decl.render crate options.indentStep with
  | error error => simp [hkeep, Logged.fail, Except.map]
  | ok text => rfl

/-- The listing that stops at a failure shows one declaration after the other. -/
theorem Crate.outcome_renderEntries_of_stopping (crate : Crate) (decls : List Declaration) :
    (crate.renderEntries options decls).outcome
      = decls.mapM fun decl => decl.render crate options.indentStep := by
  induction decls with
  | nil => rfl
  | cons decl rest ih =>
      rw [Crate.renderEntries, Logged.outcome_bind, crate.outcome_renderEntry_of_stopping hkeep,
        List.mapM_cons]
      cases decl.render crate options.indentStep with
      | error error => rfl
      | ok text =>
          show (_ : Logged InternalError (List Text)).outcome = _
          rw [Logged.outcome_bind, ih]
          rfl

/-- The listing is the joined texts, or the error of the first declaration without one. -/
theorem Crate.outcome_render_of_stopping (crate : Crate) :
    (crate.render options).outcome
      = ((crate.outcomes options).mapM id).map (Text.intercalate "\n\n") := by
  rw [Crate.render, Logged.outcome_note_bind, Logged.outcome_bind,
    crate.outcome_renderEntries_of_stopping hkeep, crate.outcomes_eq_map, List.mapM_map]
  rfl

end Stopping

section KeepGoing

variable {options : Options} (hkeep : options.keepGoing = true)

include hkeep

/-- An entry of a listing that keeps going is the text of the declaration or nothing. -/
theorem Crate.outcome_renderEntry_of_keepGoing (crate : Crate) (decl : Declaration) :
    (crate.renderEntry options decl).outcome
      = .ok (decl.render crate options.indentStep).toOption := by
  rw [Crate.renderEntry, Logged.outcome_note_bind]
  cases decl.render crate options.indentStep with
  | error error => simp [hkeep]
  | ok text => rfl

/-- The listing of a declaration notes its name, and its failure if it fails. -/
theorem Crate.log_renderEntry_of_keepGoing (crate : Crate) (decl : Declaration) :
    (crate.renderEntry options decl).log
      = ⟨.debug, "Printing '" ++ decl.name.joined ++ "'"⟩ ::
          (error? (decl.render crate options.indentStep)).toList.map fun error =>
            ⟨.error, error.format⟩ := by
  rw [Crate.renderEntry, Logged.log_note_bind]
  cases decl.render crate options.indentStep with
  | error error => simp [hkeep, error?]
  | ok text => rfl

/-- The listing that leaves failures out has the texts that there are. -/
theorem Crate.outcome_renderEntries_of_keepGoing (crate : Crate) (decls : List Declaration) :
    (crate.renderEntries options decls).outcome
      = .ok (results (decls.map fun decl => decl.render crate options.indentStep)) := by
  induction decls with
  | nil => rfl
  | cons decl rest ih =>
      rw [Crate.renderEntries, Logged.outcome_bind, crate.outcome_renderEntry_of_keepGoing hkeep,
        ok_bind, Logged.outcome_bind, ih, ok_bind, Logged.outcome_pure, List.map_cons]
      cases decl.render crate options.indentStep <;> rfl

/-- The messages of a listing that leaves failures out are those of its declarations. -/
theorem Crate.log_renderEntries (crate : Crate) (decls : List Declaration) :
    (crate.renderEntries options decls).log
      = decls.flatMap fun decl => (crate.renderEntry options decl).log := by
  induction decls with
  | nil => rfl
  | cons decl rest ih =>
      have hfirst := crate.outcome_renderEntry_of_keepGoing hkeep decl
      have hrest := crate.outcome_renderEntries_of_keepGoing hkeep rest
      rw [Crate.renderEntries, Logged.log_bind_of_ok hfirst, Logged.log_bind_of_ok hrest, ih,
        Logged.log_pure, List.append_nil, List.flatMap_cons]

/-- A listing that keeps going is the joined texts that there are. -/
theorem Crate.outcome_render_of_keepGoing (crate : Crate) :
    (crate.render options).outcome
      = .ok (Text.intercalate "\n\n" (results (crate.outcomes options))) := by
  rw [Crate.render, Logged.outcome_note_bind, Logged.outcome_bind,
    crate.outcome_renderEntries_of_keepGoing hkeep, crate.outcomes_eq_map]
  rfl

/-- The messages of the listing: its start, then those of its declarations. -/
theorem Crate.log_render_of_keepGoing (crate : Crate) :
    (crate.render options).log
      = ⟨.info, "Printing crate '" ++ crate.shownName ++ "' (" ++ crate.sizeText ++ ")"⟩ ::
          crate.declarations.flatMap fun decl => (crate.renderEntry options decl).log := by
  have hentries := crate.outcome_renderEntries_of_keepGoing hkeep crate.declarations
  rw [Crate.render, Logged.log_note_bind, Logged.log_bind_of_ok hentries, Logged.log_pure,
    List.append_nil, crate.log_renderEntries hkeep]

/-- The messages of error level are the lines of the failures, in order. -/
theorem Crate.errorEntries_render (crate : Crate) :
    ((crate.render options).log.filter fun entry => entry.level = .error)
      = (errors (crate.outcomes options)).map fun error => ⟨.error, error.format⟩ := by
  rw [crate.log_render_of_keepGoing hkeep, crate.outcomes_eq_map,
    List.filter_cons_of_neg (by simp)]
  induction crate.declarations with
  | nil => rfl
  | cons decl rest ih =>
      rw [List.flatMap_cons, List.filter_append, ih, crate.log_renderEntry_of_keepGoing hkeep,
        List.filter_cons_of_neg (by simp), List.map_cons]
      cases decl.render crate options.indentStep <;> rfl

end KeepGoing

/-! ## The listing of a crate -/

/-- The listing of a crate is decided by the listings of its declarations by identifier.  A listing
that stops at failures has all texts below each other, or fails with the first failure.  One that
leaves failures out never fails: it has the texts that there are, and the messages of error level
that are shown are the lines of the failures, one for each, in order. -/
theorem Crate.render_agrees_with_outcomes (crate : Crate) (options : Options) :
    (options.keepGoing = false →
      (∀ texts : List Text, crate.outcomes options = texts.map .ok →
        (crate.render options).outcome = .ok (Text.intercalate "\n\n" texts)) ∧
      (∀ (texts : List Text) error rest,
        crate.outcomes options = texts.map .ok ++ .error error :: rest →
          (crate.render options).outcome = .error error)) ∧
    (options.keepGoing = true →
      (crate.render options).outcome
        = .ok (Text.intercalate "\n\n" (results (crate.outcomes options))) ∧
      (options.logLevel.admits .error = true →
        ((options.logStyle.shown (crate.render options).log).filter fun entry =>
            entry.level = .error).map Log.Entry.message
          = (errors (crate.outcomes options)).map InternalError.format)) := by
  refine ⟨fun hkeep => ⟨?_, ?_⟩, fun hkeep => ⟨?_, ?_⟩⟩
  · intro texts htexts
    rw [crate.outcome_render_of_stopping hkeep, htexts, mapM_id_map_ok]
    rfl
  · intro texts error rest houtcomes
    rw [crate.outcome_render_of_stopping hkeep, houtcomes, mapM_id_first_error]
    rfl
  · exact crate.outcome_render_of_keepGoing hkeep
  · intro hadmits
    have hshown : ((options.logStyle.shown (crate.render options).log).filter fun entry =>
        entry.level = .error) = (crate.render options).log.filter fun entry =>
          entry.level = .error := by
      rw [Log.Style.shown, List.filter_filter]
      refine List.filter_congr fun entry _ => ?_
      by_cases hlevel : entry.level = .error
      · simp [hlevel, Options.logStyle, hadmits]
      · simp [hlevel]
    rw [hshown, crate.errorEntries_render hkeep, List.map_map]
    rfl

/-- A crate with a type, a global that is computed by a missing function, and a function. -/
def Crate.withDanglingGlobal : Crate :=
  Crate.ofDeclarations none [⟨0, ["T"], .hidden, [], [], none⟩] [⟨0, ["G"], .bool, 7, none⟩]
    [⟨0, ["f"], ⟨[], .never, [], []⟩, none, none⟩]

/-- The missing function ends the listing, or the global is left out with a message. -/
theorem Crate.render_withDanglingGlobal :
    (Crate.withDanglingGlobal.render {}).outcome
      = .error ⟨.unknownFunction 7, some ⟨some "G", none⟩⟩ ∧
    (Crate.withDanglingGlobal.render { keepGoing := true }).outcome
      = .ok "opaque type T\n\nopaque fn f() -> !" ∧
    ((({ keepGoing := true } : Options).logStyle.shown
        (Crate.withDanglingGlobal.render { keepGoing := true }).log).filter fun entry =>
          entry.level = .error).map Log.Entry.message
      = [("in 'G': internal printer error: [ICE-0050] unknown function declaration id 7" :
          Text)] := by
  have hstopping := (Crate.render_agrees_with_outcomes Crate.withDanglingGlobal {}).1 rfl
  have hkeeping :=
    (Crate.render_agrees_with_outcomes Crate.withDanglingGlobal { keepGoing := true }).2 rfl
  exact ⟨hstopping.2 ["opaque type T"] _ _ rfl, hkeeping.1, hkeeping.2 rfl⟩

end CrateListing
