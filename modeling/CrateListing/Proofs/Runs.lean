import CrateListing.Command.Run
import CrateListing.Proofs.FileTrees
import CrateListing.Proofs.Listing
import CrateListing.Proofs.Texts

/-!
# Runs of commands

A run makes its text first and delivers it last.  So it leaves nothing behind
unless it has succeeded: a run that gives up has shown nothing and written
nothing, and says why; one that succeeds has delivered exactly its text.

Main definitions:

- `Invocation.Renders`: the text that a run is asked for.
- `Invocation.Delivers`: a text was shown or written, and nothing else was.
- `Invocation.Explained`: a computation that gives up says why.
- `Invocation.Delivery`: the ways in which delivering a text goes.
- `Invocation.CanDeliver`: a text that can be delivered.

Main results:

- Theorem `Invocation.outcome_make_eq_ok_iff`: the text that is made is the one asked for.
- Theorem `Invocation.explained_make`: whoever gives up before the text is made says why.
- Theorem `Invocation.delivery_deliver`: delivering a text goes in one of the ways.
- Theorem `Invocation.execute_all_or_nothing`: what a run leaves behind.
-/

namespace CrateListing

open Outcome

/-! ## The text that is asked for -/

/-- What a task shows of a crate. -/
def Task.Shows (options : Options) (crate : Crate) (text : Text) : Task → Prop
  | .listing => (crate.render options).outcome = .ok text
  | .one kind (some selector) => ∃ decl, crate.select kind selector = .ok (some decl) ∧
      crate.renderOne options kind decl.id = .ok text
  | .one _ none => False
  | .symbols => text = crate.symbols

namespace Invocation

variable {α β σ : Type}

/-- The crate file holds a crate. -/
def Loads (invocation : Invocation) (system : System σ) (state : σ) (crate : Crate) : Prop :=
  (Crate.load (Path.parse invocation.file).shown (invocation.content system state)).outcome
    = .ok crate

/-- The crate that is shown: the one in the file, or what the pass makes of it if that is
wanted. -/
def WorksOn (invocation : Invocation) (system : System σ) (state : σ) (options : Options)
    (crate : Crate) : Prop :=
  ∃ loaded, invocation.Loads system state loaded ∧
    if invocation.settings.removeNeverDrops then
      (loaded.removeNeverDrops options).outcome = .ok crate
    else crate = loaded

/-- The text that a run is asked for. -/
def Renders (invocation : Invocation) (system : System σ) (state : σ) (text : Text) : Prop :=
  ∃ options crate, invocation.options system.hasRoom = .ok options ∧
    invocation.WorksOn system state options crate ∧ invocation.task.Shows options crate text

/-- Giving up ends the run with status 1. -/
@[simp]
theorem outcome_giveUp (message : Text) :
    (giveUp message : Logged Ending α).outcome = .error (.status 1) :=
  rfl

/-- Giving up on a failure does not change a success. -/
theorem outcome_orGiveUp_eq_ok_iff {x : Logged InternalError α} {a : α} :
    (orGiveUp x).outcome = .ok a ↔ x.outcome = .ok a := by
  rw [orGiveUp, Logged.outcome_andThen]
  cases x.outcome <;> simp

/-- A crate is loaded when the crate file holds it. -/
theorem outcome_loadCrate_eq_ok_iff (invocation : Invocation) (system : System σ) (state : σ)
    (crate : Crate) :
    (invocation.loadCrate (invocation.content system state)).outcome = .ok crate ↔
      invocation.Loads system state crate := by
  rw [Loads, loadCrate, Logged.outcome_andThen]
  cases (Crate.load (Path.parse invocation.file).shown
      (invocation.content system state)).outcome with
  | ok loaded => simp
  | error failure =>
      cases failure with
      | unreadable error => cases error <;> simp [reportLoadFailure]
      | rejected error => simp [reportLoadFailure]
      | tooManyDigits digits => simp [reportLoadFailure, Logged.fail]

/-- The pass is applied when it is wanted. -/
theorem outcome_prepare_eq_ok_iff (invocation : Invocation) (options : Options)
    (loaded crate : Crate) :
    (invocation.prepare options loaded).outcome = .ok crate ↔
      if invocation.settings.removeNeverDrops then
        (loaded.removeNeverDrops options).outcome = .ok crate
      else crate = loaded := by
  rw [prepare]
  split_ifs
  · exact outcome_orGiveUp_eq_ok_iff
  · simp [eq_comm]

/-- A task makes the text that it shows. -/
theorem outcome_perform_eq_ok_iff (options : Options) (crate : Crate) (task : Task)
    (text : Text) :
    (perform options crate task).outcome = .ok text ↔ task.Shows options crate text := by
  cases task with
  | listing => exact outcome_orGiveUp_eq_ok_iff
  | symbols => simp [perform, Task.Shows, eq_comm]
  | one kind selector =>
      cases selector with
      | none => simp [perform, Task.Shows, Logged.fail]
      | some selector =>
          rw [perform, showOne, Task.Shows]
          cases crate.select kind selector with
          | error error => simp [Logged.fail]
          | ok found =>
              cases found with
              | none => simp
              | some decl =>
                  dsimp only
                  rw [outcome_orGiveUp_eq_ok_iff]
                  simp [Logged.ofExcept]

/-- The text that is made is the one that is asked for. -/
theorem outcome_make_eq_ok_iff (invocation : Invocation) (system : System σ) (state : σ)
    (text : Text) :
    (invocation.make system state).outcome = .ok text ↔ invocation.Renders system state text := by
  simp only [make, produce, Logged.outcome_bind, bind_eq_ok_iff, Logged.ofExcept,
    mapError_eq_ok_iff, outcome_loadCrate_eq_ok_iff, outcome_prepare_eq_ok_iff,
    outcome_perform_eq_ok_iff]
  constructor
  · rintro ⟨options, hoptions, loaded, hloaded, crate, hcrate, htext⟩
    exact ⟨options, crate, hoptions, ⟨loaded, hloaded, hcrate⟩, htext⟩
  · rintro ⟨options, crate, hoptions, ⟨loaded, hloaded, hcrate⟩, htext⟩
    exact ⟨options, hoptions, loaded, hloaded, crate, hcrate, htext⟩

/-! ## Giving up -/

/-- A computation that ends the run with a status gives up, and a message says why. -/
def Explained (x : Logged Ending α) : Prop :=
  ∀ code, x.outcome = .error (.status code) → code = 1 ∧ ∃ entry ∈ x.log, entry.level = .error

/-- Giving up notes why. -/
theorem explained_giveUp (message : Text) : Explained (giveUp message : Logged Ending α) := by
  intro code hcode
  cases hcode
  exact ⟨rfl, ⟨.error, message⟩, List.mem_singleton_self _, rfl⟩

/-- A result explains itself. -/
theorem explained_pure (a : α) : Explained (pure a : Logged Ending α) := by
  intro code hcode
  cases hcode

/-- Breaking off is not ending with a status. -/
theorem explained_abort (reason : Abort) :
    Explained (Logged.fail (.aborted reason) : Logged Ending α) := by
  intro code hcode
  cases hcode

/-- A sequence explains itself when both of its parts do. -/
theorem Explained.bind {x : Logged Ending α} {next : α → Logged Ending β} (hx : Explained x)
    (hnext : ∀ a, Explained (next a)) : Explained (x >>= next) := by
  intro code hcode
  rw [Logged.outcome_bind, bind_eq_error_iff] at hcode
  rcases hcode with hfirst | ⟨a, hfirst, hsecond⟩
  · obtain ⟨hone, entry, hentry, hlevel⟩ := hx code hfirst
    rw [Logged.log_bind_of_error hfirst]
    exact ⟨hone, entry, hentry, hlevel⟩
  · obtain ⟨hone, entry, hentry, hlevel⟩ := hnext a code hsecond
    rw [Logged.log_bind_of_ok hfirst]
    exact ⟨hone, entry, List.mem_append_right _ hentry, hlevel⟩

/-- What goes on after a failure has to explain itself. -/
theorem explained_andThen {ε : Type} {x : Logged ε α} {next : Except ε α → Logged Ending β}
    (hnext : ∀ outcome, Explained (next outcome)) : Explained (x.andThen next) := by
  intro code hcode
  obtain ⟨hone, entry, hentry, hlevel⟩ := hnext x.outcome code hcode
  exact ⟨hone, entry, List.mem_append_right _ hentry, hlevel⟩

/-- A failure that leads to giving up is explained. -/
theorem explained_orGiveUp (x : Logged InternalError α) : Explained (orGiveUp x) := by
  refine explained_andThen fun outcome => ?_
  cases outcome with
  | ok a => exact explained_pure a
  | error error => exact explained_giveUp error.format

/-- A crate that is not loaded is explained, unless the run is broken off. -/
theorem explained_loadCrate (invocation : Invocation) (content : Except ReadError (List UInt8)) :
    Explained (invocation.loadCrate content) := by
  refine explained_andThen fun outcome => ?_
  cases outcome with
  | ok crate => exact explained_pure crate
  | error failure =>
      cases failure with
      | unreadable error => cases error <;> exact explained_giveUp _
      | rejected error => exact explained_giveUp _
      | tooManyDigits digits => exact explained_abort _

/-- A pass that fails is explained. -/
theorem explained_prepare (invocation : Invocation) (options : Options) (crate : Crate) :
    Explained (invocation.prepare options crate) := by
  rw [prepare]
  split_ifs
  · exact explained_orGiveUp _
  · exact explained_pure _

/-- A task that fails is explained, unless the run is broken off. -/
theorem explained_perform (options : Options) (crate : Crate) (task : Task) :
    Explained (perform options crate task) := by
  cases task with
  | listing => exact explained_orGiveUp _
  | symbols => exact explained_pure _
  | one kind selector =>
      cases selector with
      | none => exact explained_abort _
      | some selector =>
          rw [perform, showOne]
          cases crate.select kind selector with
          | error error => exact explained_abort _
          | ok found =>
              cases found with
              | none => exact explained_giveUp _
              | some decl => exact explained_orGiveUp _

/-- Whoever gives up before the text is made says why. -/
theorem explained_make (invocation : Invocation) (system : System σ) (state : σ) :
    Explained (invocation.make system state) := by
  rw [make, produce]
  refine Explained.bind ?_ fun options => ?_
  · cases invocation.options system.hasRoom with
    | ok options => exact explained_pure options
    | error error => exact explained_abort (.indent error)
  · refine (explained_loadCrate invocation _).bind fun loaded => ?_
    exact (explained_prepare invocation options loaded).bind fun crate =>
      explained_perform options crate invocation.task

/-! ## Delivering a text -/

/-- The bytes of a text that is delivered, with a line end behind it. -/
def bytesOf (text : Text) : Except Text.EncodeFault (List UInt8) :=
  (text ++ "\n").encode

/-- A line end does not matter for whether a text can be encoded. -/
theorem succeeds_bytesOf_iff {text : Text} : Succeeds (bytesOf text) ↔ text.IsEncodable := by
  rw [bytesOf, Text.succeeds_encode_iff, Text.isEncodable_append_iff]
  exact and_iff_left (Text.isEncodable_ofString "\n")

/-- The ways in which delivering a text goes. -/
inductive Delivery (invocation : Invocation) (system : System σ) (state : σ) (text : Text) :
    Result σ → Prop where
  | shown {bytes : List UInt8} (htarget : invocation.target? = none)
      (hbytes : bytesOf text = .ok bytes) :
      Delivery invocation system state text ⟨[], text ++ "\n", state, .status 0⟩
  /-- The text cannot be encoded, so that nothing is shown. -/
  | unshowable {fault : Text.EncodeFault} (htarget : invocation.target? = none)
      (hfault : bytesOf text = .error fault) :
      Delivery invocation system state text ⟨[], "", state, .aborted (.unencodable fault)⟩
  | written {target : Text} {path : RawPath} {bytes : List UInt8} {after : σ}
      (htarget : invocation.target? = some target) (hpath : (Path.parse target).encode = .ok path)
      (hbytes : bytesOf text = .ok bytes) (hwrite : system.write state path bytes = .ok after) :
      Delivery invocation system state text
        ⟨[⟨.info, "Wrote " ++ target⟩], "", after, .status 0⟩
  | refused {target reason : Text} {path : RawPath}
      (htarget : invocation.target? = some target) (hpath : (Path.parse target).encode = .ok path)
      (hwrite : system.write state path ((bytesOf text).toOption.getD []) = .error reason) :
      Delivery invocation system state text
        ⟨[⟨.error, "error: [LLP-0030] cannot write '" ++ target ++ "': " ++ reason⟩], "", state,
          .status 1⟩
  /-- The text cannot be encoded, which shows when its file has been emptied. -/
  | emptied {target : Text} {path : RawPath} {fault : Text.EncodeFault} {after : σ}
      (htarget : invocation.target? = some target) (hpath : (Path.parse target).encode = .ok path)
      (hfault : bytesOf text = .error fault) (hwrite : system.write state path [] = .ok after) :
      Delivery invocation system state text ⟨[], "", after, .aborted (.unencodable fault)⟩
  /-- The file for the text has a name that no file can have. -/
  | unusable {target : Text} {fault : PathFault} (htarget : invocation.target? = some target)
      (hpath : (Path.parse target).encode = .error fault) :
      Delivery invocation system state text ⟨[], "", state, .aborted (.unusablePath fault)⟩

/-- Delivering a text goes in one of these ways. -/
theorem delivery_deliver (invocation : Invocation) (system : System σ) (state : σ) (text : Text) :
    invocation.Delivery system state text (invocation.deliver system state text) := by
  rw [deliver]
  cases htarget : invocation.target? with
  | none =>
      dsimp only
      cases hbytes : (text ++ "\n").encode with
      | ok bytes => exact .shown htarget hbytes
      | error fault => exact .unshowable htarget hbytes
  | some target =>
      dsimp only
      cases hpath : (Path.parse target).encode with
      | error fault => exact .unusable htarget hpath
      | ok path =>
          dsimp only [writeLine]
          cases hwrite : system.write state path ((text ++ "\n").encode.toOption.getD []) with
          | error reason => exact .refused htarget hpath hwrite
          | ok after =>
              cases hbytes : (text ++ "\n").encode with
              | ok bytes =>
                  rw [hbytes] at hwrite
                  exact .written htarget hpath hbytes hwrite
              | error fault =>
                  rw [hbytes] at hwrite
                  exact .emptied htarget hpath hbytes hwrite

/-- A text was delivered, and nothing else: it is shown when there is no file for it, and otherwise
it is written to the file and nothing is shown. -/
def Delivers (invocation : Invocation) (system : System σ) (state : σ) (text : Text)
    (result : Result σ) : Prop :=
  match invocation.target? with
  | none => result.shown = text ++ "\n" ∧ result.state = state
  | some target => result.shown = "" ∧ ∃ path bytes, (Path.parse target).encode = .ok path ∧
      bytesOf text = .ok bytes ∧ system.write state path bytes = .ok result.state

/-- A text can be delivered: it can be encoded, and if there is a file for it, the system writes
it. -/
def CanDeliver (invocation : Invocation) (system : System σ) (state : σ) (text : Text) : Prop :=
  ∃ bytes, bytesOf text = .ok bytes ∧ ∀ target, invocation.target? = some target →
    ∃ path after, (Path.parse target).encode = .ok path ∧ system.write state path bytes = .ok after

/-- An attempt to deliver a text ends well exactly when the text can be delivered. -/
theorem Delivery.ending_eq_zero_iff {invocation : Invocation} {system : System σ} {state : σ}
    {text : Text} {result : Result σ} (h : invocation.Delivery system state text result) :
    result.ending = .status 0 ↔ invocation.CanDeliver system state text := by
  rw [CanDeliver]
  cases h with
  | shown htarget hbytes => simp [hbytes, htarget]
  | unshowable htarget hfault => simp [hfault]
  | written htarget hpath hbytes hwrite => simp [hbytes, htarget, hpath, hwrite]
  | refused htarget hpath hwrite =>
      cases hbytes : bytesOf text with
      | error fault => simp
      | ok bytes =>
          rw [hbytes, Except.toOption, Option.getD_some] at hwrite
          simp [htarget, hpath, hwrite]
  | emptied htarget hpath hfault hwrite => simp [hfault]
  | unusable htarget hpath => simp [htarget, hpath]

/-- An attempt that ends well has delivered the text. -/
theorem Delivery.delivers {invocation : Invocation} {system : System σ} {state : σ} {text : Text}
    {result : Result σ} (h : invocation.Delivery system state text result)
    (hend : result.ending = .status 0) : invocation.Delivers system state text result := by
  rw [Delivers]
  cases h with
  | shown htarget hbytes =>
      rw [htarget]
      exact ⟨rfl, rfl⟩
  | written htarget hpath hbytes hwrite =>
      rw [htarget]
      exact ⟨rfl, _, _, hpath, hbytes, hwrite⟩
  | unshowable => cases hend
  | refused => cases hend
  | emptied => cases hend
  | unusable => cases hend

/-- On a file tree, a text that was delivered to a file is the content of the file, and nothing else
was changed. -/
theorem stored_of_delivers {invocation : Invocation} {hasRoom : Nat → Bool} {disk : Disk}
    {text target : Text} {result : Result Disk} (htarget : invocation.target? = some target)
    (h : invocation.Delivers (Disk.system hasRoom) disk text result) :
    ∃ path bytes, (Path.parse target).encode = .ok path ∧ bytesOf text = .ok bytes ∧
      Disk.Stored disk path bytes result.state := by
  rw [Delivers, htarget] at h
  obtain ⟨-, path, bytes, hpath, hbytes, hwrite⟩ := h
  exact ⟨path, bytes, hpath, hbytes, Disk.stored_of_write (mapError_eq_ok_iff.1 hwrite)⟩

/-! ## Whole runs -/

section

variable {invocation : Invocation} {system : System σ} {state : σ} {text : Text}

/-- A run without a text does nothing but note messages. -/
theorem execute_of_error {ending : Ending}
    (h : (invocation.make system state).outcome = .error ending) :
    invocation.execute system state
      = ⟨(invocation.make system state).log, "", state, ending⟩ := by
  simp only [execute, h]

/-- A run with a text delivers it. -/
theorem execute_of_ok (h : (invocation.make system state).outcome = .ok text) :
    invocation.execute system state
      = { invocation.deliver system state text with
          log := (invocation.make system state).log
            ++ (invocation.deliver system state text).log } := by
  simp only [execute, h]

/-- When there is a text, a run that ends well has delivered it. -/
theorem delivers_of_renders (htext : invocation.Renders system state text)
    (hend : (invocation.execute system state).ending = .status 0) :
    invocation.Delivers system state text (invocation.execute system state) := by
  rw [← outcome_make_eq_ok_iff] at htext
  rw [execute_of_ok htext] at hend ⊢
  exact (delivery_deliver invocation system state text).delivers hend

/-- When there is a text, a run ends well exactly when the text can be delivered. -/
theorem ending_eq_zero_iff (htext : invocation.Renders system state text) :
    (invocation.execute system state).ending = .status 0 ↔
      invocation.CanDeliver system state text := by
  rw [← outcome_make_eq_ok_iff] at htext
  rw [execute_of_ok htext]
  exact (delivery_deliver invocation system state text).ending_eq_zero_iff

end

/-- The messages of a run show its errors. -/
theorem admits_error_logStyle (invocation : Invocation) :
    invocation.logStyle.limit.admits .error = true := by
  show (Options.levelOfVerbosity invocation.settings.verbosity).admits .error = true
  unfold Options.levelOfVerbosity
  split_ifs <;> rfl

/-- An error that was noted is shown, whatever the level of the log. -/
theorem exists_shown_error {invocation : Invocation} {log : List Log.Entry}
    (h : ∃ entry ∈ log, entry.level = .error) :
    ∃ entry ∈ invocation.logStyle.shown log, entry.level = .error := by
  obtain ⟨entry, hentry, hlevel⟩ := h
  refine ⟨entry, List.mem_filter.2 ⟨hentry, ?_⟩, hlevel⟩
  rw [hlevel]
  exact admits_error_logStyle invocation

/-! ## All or nothing -/

/-- A run that ends with status 1 has shown nothing, has left all files as they were and has shown
a message of error level.  One that ends with status 0 has delivered the text that it was asked
for, and nothing else; when there is such a text, it does so exactly if the text can be delivered.
This is so on every system.  On a file tree, a text that was delivered to a file is its content
afterwards, and all other files are as they were. -/
theorem execute_all_or_nothing (invocation : Invocation) (system : System σ) (state : σ) :
    ((invocation.execute system state).ending = .status 1 →
      (invocation.execute system state).shown = "" ∧
      (invocation.execute system state).state = state ∧
        ∃ entry ∈ invocation.logStyle.shown (invocation.execute system state).log,
          entry.level = .error) ∧
    ((invocation.execute system state).ending = .status 0 →
      ∃ text, invocation.Renders system state text ∧
        invocation.Delivers system state text (invocation.execute system state)) ∧
    (∀ text, invocation.Renders system state text →
      ((invocation.execute system state).ending = .status 0 ↔
        invocation.CanDeliver system state text)) ∧
    ∀ hasRoom disk text target result, invocation.target? = some target →
      invocation.Delivers (Disk.system hasRoom) disk text result →
      ∃ path bytes, (Path.parse target).encode = .ok path ∧ bytesOf text = .ok bytes ∧
        Disk.Stored disk path bytes result.state := by
  refine ⟨fun hone => ?_, fun hzero => ?_, fun text => ending_eq_zero_iff,
    fun hasRoom disk text target result => stored_of_delivers⟩
  · cases houtcome : (invocation.make system state).outcome with
    | error ending =>
        rw [execute_of_error houtcome] at hone ⊢
        obtain rfl : ending = .status 1 := hone
        exact ⟨rfl, rfl, exists_shown_error (explained_make invocation system state 1 houtcome).2⟩
    | ok text =>
        have hdelivery := delivery_deliver invocation system state text
        rw [execute_of_ok houtcome] at hone ⊢
        generalize invocation.deliver system state text = result at hdelivery hone
        cases hdelivery with
        | refused htarget hpath hwrite =>
            refine ⟨rfl, rfl, exists_shown_error ?_⟩
            exact ⟨_, List.mem_append_right _ (List.mem_singleton_self _), rfl⟩
        | shown => cases hone
        | unshowable => cases hone
        | written => cases hone
        | emptied => cases hone
        | unusable => cases hone
  · cases houtcome : (invocation.make system state).outcome with
    | error ending =>
        rw [execute_of_error houtcome] at hzero
        obtain rfl : ending = .status 0 := hzero
        exact absurd (explained_make invocation system state 0 houtcome).1 (by decide)
    | ok text =>
        have htext := (outcome_make_eq_ok_iff invocation system state text).1 houtcome
        exact ⟨text, htext, delivers_of_renders htext hzero⟩

end Invocation

/-- The bytes of an ASCII text. -/
def Text.asciiBytes (text : Text) : List UInt8 :=
  text.toList.map fun c => UInt8.ofNat c.toNat

/-- A tree with one file in the working directory, which holds an ASCII text. -/
def Disk.withCrateFile (text : Text) : Disk where
  root := .directory
    [(Text.asciiBytes "work", .directory
      [(Text.asciiBytes "demo.llbc", .file (Text.asciiBytes text))])]
  workingDirectory := [Text.asciiBytes "work"]
  directoryExists := rfl

/-- A tree with a crate file that declares a type. -/
def Disk.withTypeFile : Disk :=
  .withCrateFile
    "\x7b\"types\": [\x7b\"def_id\": 0, \"name\": [\"T\"], \"kind\": \"Opaque\"\x7d]\x7d"

/-- A system with that tree and enough memory. -/
def Disk.plainSystem : System Disk :=
  Disk.system fun _ => true

/-- A run that writes the type of that crate to a file. -/
def Invocation.writingType (target : Text) : Invocation :=
  ⟨.one .type (some "T"), "demo.llbc", { output := some target }⟩

/-- The type is written to a file that can be made, here at the root, and to none in a missing
directory. -/
theorem Invocation.execute_writingType :
    (∃ text, (writingType "/list.txt").Renders Disk.plainSystem Disk.withTypeFile text ∧
      (writingType "/list.txt").CanDeliver Disk.plainSystem Disk.withTypeFile text ∧
      (writingType "/list.txt").Delivers Disk.plainSystem Disk.withTypeFile text
        ((writingType "/list.txt").execute Disk.plainSystem Disk.withTypeFile) ∧
      ∃ path bytes, (Path.parse "/list.txt").encode = .ok path ∧ bytesOf text = .ok bytes ∧
        Disk.Stored Disk.withTypeFile path bytes
          ((writingType "/list.txt").execute Disk.plainSystem Disk.withTypeFile).state) ∧
    ((writingType "sub/list.txt").execute Disk.plainSystem Disk.withTypeFile).shown = "" ∧
    ∃ entry ∈ (writingType "sub/list.txt").logStyle.shown
        ((writingType "sub/list.txt").execute Disk.plainSystem Disk.withTypeFile).log,
      entry.level = .error := by
  have hzero : ((writingType "/list.txt").execute Disk.plainSystem Disk.withTypeFile).ending
      = .status 0 := by decide +kernel
  have hone : ((writingType "sub/list.txt").execute Disk.plainSystem Disk.withTypeFile).ending
      = .status 1 := by decide +kernel
  obtain ⟨-, hwell, hcan, hstored⟩ :=
    execute_all_or_nothing (writingType "/list.txt") Disk.plainSystem Disk.withTypeFile
  obtain ⟨text, hrenders, hdelivers⟩ := hwell hzero
  obtain ⟨hshown, -, hmessage⟩ := (execute_all_or_nothing (writingType "sub/list.txt")
    Disk.plainSystem Disk.withTypeFile).1 hone
  exact ⟨⟨text, hrenders, (hcan text hrenders).1 hzero, hdelivers,
    hstored _ _ text _ _ rfl hdelivers⟩, hshown, hmessage⟩

end CrateListing
