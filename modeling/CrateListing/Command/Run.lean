import CrateListing.Command.Arguments
import CrateListing.Command.System
import CrateListing.NeverDrop

/-!
# Running a command

A run reads the crate file, makes the text that is asked for, and shows it or
writes it to a file.  What is made depends on the contents of the crate file
only; the text is delivered once, after everything else has succeeded.  Shown or
written, it is encoded in UTF-8 and nothing is replaced, so that a text with half
of a surrogate pair breaks a run off; a file for it has been emptied by then.

Main definitions:

- `Crate.select`: the declaration that a selector means.
- `Invocation.produce`, `Invocation.make`: from the contents of the crate file to the text.
- `Invocation.deliver`: showing or writing the text.
- `Invocation.execute`: a whole run on a system.
-/

namespace CrateListing

/-- The declaration of a kind that a selector means: by identifier if all its characters show
digits, by qualified name otherwise. -/
def Crate.select (crate : Crate) (kind : DeclKind) (selector : Text) :
    Except Text.NumeralError (Option Declaration) :=
  if Text.allShowDigits selector then (Text.readInteger selector).map (crate.find? kind)
  else .ok (crate.findNamed? kind selector)

/-- Why a run is broken off. -/
inductive Abort where
  /-- An integer literal cannot be read. -/
  | numeral (error : Text.NumeralError)
  /-- There is no indentation of the wanted width. -/
  | indent (error : IndentError)
  /-- One declaration is asked for, but not which one. -/
  | noSelector
  /-- The text that is asked for cannot be encoded. -/
  | unencodable (fault : Text.EncodeFault)
  /-- The file for the result has a name that no file can have. -/
  | unusablePath (fault : PathFault)
deriving DecidableEq, Repr

/-- The wording of the reason. -/
def Abort.message : Abort → Text
  | .numeral error => error.message
  | .indent error => error.message
  | .noSelector => "'list' object has no attribute 'isdigit'"
  | .unencodable fault => fault.message
  | .unusablePath fault => fault.message

/-- How a run ends. -/
inductive Ending where
  /-- With an exit status. -/
  | status (code : Nat)
  /-- Before its end. -/
  | aborted (reason : Abort)
deriving DecidableEq, Repr

namespace Invocation

/-- The options of the listing. -/
def options (invocation : Invocation) (hasRoom : Nat → Bool) : Except IndentError Options :=
  Options.ofFlags hasRoom invocation.settings.verbosity invocation.settings.indent
    invocation.settings.keepGoing invocation.settings.stampedLog

/-- How the log is shown. -/
def logStyle (invocation : Invocation) : Log.Style :=
  ⟨Options.levelOfVerbosity invocation.settings.verbosity, invocation.settings.stampedLog⟩

/-- Ends a run with a message. -/
def giveUp {α : Type} (message : Text) : Logged Ending α := do
  Logged.note .error message
  Logged.fail (.status 1)

/-- Ends a run whose crate is not loaded. -/
def reportLoadFailure {α : Type} (invocation : Invocation) : LoadFailure → Logged Ending α
  | .unreadable .missing =>
      giveUp ("error: [LLP-0010] crate file not found: " ++ (Path.parse invocation.file).shown)
  | .unreadable (.refused reason) =>
      giveUp ("error: [LLP-0010] cannot read '" ++ invocation.file ++ "': " ++ reason)
  | .rejected error => giveUp error.format
  | .tooManyDigits digits => Logged.fail (.aborted (.numeral (.tooLong digits)))

/-- What was computed, or the end of the run. -/
def orGiveUp {α : Type} (x : Logged InternalError α) : Logged Ending α :=
  x.andThen fun
    | .ok a => pure a
    | .error error => giveUp error.format

/-- Loads the crate from what reading its file gave. -/
def loadCrate (invocation : Invocation) (content : Except ReadError (List UInt8)) :
    Logged Ending Crate :=
  (Crate.load (Path.parse invocation.file).shown content).andThen fun
    | .ok crate => pure crate
    | .error failure => invocation.reportLoadFailure failure

/-- The crate that is shown: without drops of `!` if that is wanted, which the symbol table never
asks for. -/
def prepare (invocation : Invocation) (options : Options) (crate : Crate) :
    Logged Ending Crate :=
  if invocation.settings.removeNeverDrops then orGiveUp (crate.removeNeverDrops options)
  else pure crate

/-- The text of one declaration. -/
def showOne (options : Options) (crate : Crate) (kind : DeclKind) (selector : Text) :
    Logged Ending Text :=
  match crate.select kind selector with
  | .error error => Logged.fail (.aborted (.numeral error))
  | .ok none =>
      giveUp ("error: [LLP-0020] no " ++ kind.word ++ " declaration named '" ++ selector ++ "'")
  | .ok (some decl) =>
      orGiveUp (Logged.ofExcept (crate.renderOne options kind decl.id))

/-- What a task shows of a crate. -/
def perform (options : Options) (crate : Crate) : Task → Logged Ending Text
  | .listing => orGiveUp (crate.render options)
  | .one _ none => Logged.fail (.aborted .noSelector)
  | .one kind (some selector) => showOne options crate kind selector
  | .symbols => pure crate.symbols

/-- The text that is asked for, given what reading the crate file gave. -/
def produce (invocation : Invocation) (hasRoom : Nat → Bool)
    (content : Except ReadError (List UInt8)) : Logged Ending Text := do
  let options ← Logged.ofExcept
    ((invocation.options hasRoom).mapError fun error => .aborted (.indent error))
  let crate ← invocation.loadCrate content
  let crate ← invocation.prepare options crate
  perform options crate invocation.task

/-- The file for the result; without one the text is shown. -/
def target? (invocation : Invocation) : Option Text :=
  nonEmpty? invocation.settings.output

/-- The message after an attempt to write the result, and the exit status. -/
def conclude (target : Text) : Except Text Unit → Log.Entry × Nat
  | .ok () => (⟨.info, "Wrote " ++ target⟩, 0)
  | .error reason =>
      (⟨.error, "error: [LLP-0030] cannot write '" ++ target ++ "': " ++ reason⟩, 1)

/-- What a run leaves behind on a system. -/
structure Result (σ : Type) where
  log : List Log.Entry
  /-- What was shown. -/
  shown : Text
  state : σ
  ending : Ending

section

variable {σ : Type}

/-- What reading the crate file gives.  A file that the system cannot be asked for is missing. -/
def content (invocation : Invocation) (system : System σ) (state : σ) :
    Except ReadError (List UInt8) :=
  match (Path.parse invocation.file).encode with
  | .ok path => system.read state path
  | .error _ => .error .missing

/-- The text that is asked for, with the crate file of a system. -/
def make (invocation : Invocation) (system : System σ) (state : σ) : Logged Ending Text :=
  invocation.produce system.hasRoom (invocation.content system state)

/-- Writes a line to a file and says so.  The file is emptied before the line is encoded. -/
def writeLine (system : System σ) (state : σ) (target : Text) (path : RawPath) (line : Text) :
    Result σ :=
  match system.write state path (line.encode.toOption.getD []), line.encode with
  | .error reason, _ =>
      let (entry, code) := conclude target (.error reason)
      ⟨[entry], "", state, .status code⟩
  | .ok after, .ok _ =>
      let (entry, code) := conclude target (.ok ())
      ⟨[entry], "", after, .status code⟩
  | .ok after, .error fault => ⟨[], "", after, .aborted (.unencodable fault)⟩

/-- Shows a text or writes it to the file for the result, with a line end behind it. -/
def deliver (invocation : Invocation) (system : System σ) (state : σ) (text : Text) : Result σ :=
  let line := text ++ "\n"
  match invocation.target? with
  | none =>
      match line.encode with
      | .ok _ => ⟨[], line, state, .status 0⟩
      | .error fault => ⟨[], "", state, .aborted (.unencodable fault)⟩
  | some target =>
      match (Path.parse target).encode with
      | .ok path => writeLine system state target path line
      | .error fault => ⟨[], "", state, .aborted (.unusablePath fault)⟩

/-- A whole run on a system. -/
def execute (invocation : Invocation) (system : System σ) (state : σ) : Result σ :=
  let produced := invocation.make system state
  match produced.outcome with
  | .error ending => ⟨produced.log, "", state, ending⟩
  | .ok text =>
      let delivered := invocation.deliver system state text
      { delivered with log := produced.log ++ delivered.log }

end

end Invocation
end CrateListing
