import CrateListing.Text.Basic

/-!
# Log messages

Messages for the user beside the listing.  A computation collects its messages
as data, whatever their level; which of them are shown is decided when the log
is written.

Main definitions:

- `Level`, `Entry`: a message and how important it is.
- `Logged`: an outcome together with the messages on the way to it.
- `Style.text`: what is shown of a log.
-/

namespace CrateListing

/-- How important a message is, and up to which importance messages are shown. -/
inductive Level where
  | silent
  | error
  | warning
  | info
  | debug
deriving DecidableEq, Repr

namespace Level

/-- The position on the scale; messages with a greater number matter less. -/
def rank : Level → Nat
  | .silent => 0
  | .error => 3
  | .warning => 6
  | .info => 10
  | .debug => 30

/-- Whether a log that shows messages up to the first level shows one of the second. -/
def admits (limit level : Level) : Bool :=
  decide (level.rank ≤ limit.rank)

/-- The mark of a level in a log with time stamps. -/
def tag? : Level → Option Text
  | .silent => none
  | .error => some "ERROR"
  | .warning => some "WARNING"
  | .info => some "INFO"
  | .debug => some "DEBUG"

end Level

namespace Log

/-- One message. -/
structure Entry where
  level : Level
  message : Text
deriving DecidableEq, Repr

/-- How a log is shown. -/
structure Style where
  /-- The least important messages that are shown. -/
  limit : Level
  /-- Whether messages carry the time and their level. -/
  stamped : Bool
deriving DecidableEq, Repr

/-- What stands in front of a message. -/
def Style.mark (style : Style) (time : Text) (level : Level) : Text :=
  match style.stamped, level.tag? with
  | true, some tag => time ++ " [" ++ tag ++ "] "
  | _, _ => ""

/-- The line of a message, empty when the message is not shown. -/
def Style.line (style : Style) (time : Text) (entry : Entry) : Text :=
  if style.limit.admits entry.level then style.mark time entry.level ++ entry.message ++ "\n"
  else ""

/-- What is shown of a log.  Surrogates in it are shown as escapes (`Text.escapeSurrogates`). -/
def Style.text (style : Style) (time : Text) (log : List Entry) : Text :=
  Text.join (log.map (style.line time))

/-- The start of a stage of work, on an item if one is named. -/
def stage (name item : Text) : Entry :=
  ⟨.info, if item.isEmpty then name ++ "..." else name ++ " '" ++ item ++ "'"⟩

end Log

/-- An outcome together with the messages on the way to it. -/
structure Logged (ε α : Type) where
  log : List Log.Entry
  outcome : Except ε α

namespace Logged

variable {ε ε' α β : Type}

/-- One computation after another; a failure keeps the messages before it. -/
def bind (first : Logged ε α) (next : α → Logged ε β) : Logged ε β :=
  match first.outcome with
  | .error e => ⟨first.log, .error e⟩
  | .ok a =>
      let second := next a
      ⟨first.log ++ second.log, second.outcome⟩

instance : Monad (Logged ε) where
  pure a := ⟨[], .ok a⟩
  bind := bind

/-- An outcome without messages. -/
def ofExcept (outcome : Except ε α) : Logged ε α :=
  ⟨[], outcome⟩

/-- A failure. -/
def fail (e : ε) : Logged ε α :=
  ⟨[], .error e⟩

/-- A message. -/
def emit (entry : Log.Entry) : Logged ε Unit :=
  ⟨[entry], .ok ()⟩

/-- A message of a given level. -/
def note (level : Level) (message : Text) : Logged ε Unit :=
  emit ⟨level, message⟩

/-- The same computation with another description of its failures. -/
def mapError (f : ε → ε') (x : Logged ε α) : Logged ε' α :=
  ⟨x.log, x.outcome.mapError f⟩

/-- Goes on with the outcome, whether it is a failure or not. -/
def andThen (x : Logged ε α) (next : Except ε α → Logged ε' β) : Logged ε' β :=
  let second := next x.outcome
  ⟨x.log ++ second.log, second.outcome⟩

/-! ## Messages and outcome of the parts -/

@[simp]
theorem log_pure (a : α) : (pure a : Logged ε α).log = [] :=
  rfl

@[simp]
theorem outcome_pure (a : α) : (pure a : Logged ε α).outcome = .ok a :=
  rfl

/-- The outcome of a sequence is that of the second part after the first one. -/
theorem outcome_bind (x : Logged ε α) (next : α → Logged ε β) :
    (x >>= next).outcome = x.outcome >>= fun a => (next a).outcome := by
  show (Logged.bind x next).outcome = _
  unfold Logged.bind
  cases h : x.outcome <;> rfl

/-- A message does not change the outcome of what comes behind it. -/
@[simp]
theorem outcome_note_bind (level : Level) (message : Text) (next : Unit → Logged ε β) :
    (note level message >>= next).outcome = (next ()).outcome :=
  rfl

/-- An entry of the log does not change the outcome of what comes behind it. -/
@[simp]
theorem outcome_emit_bind (entry : Log.Entry) (next : Unit → Logged ε β) :
    (emit entry >>= next).outcome = (next ()).outcome :=
  rfl

/-- The outcome is that of what goes on. -/
@[simp]
theorem outcome_andThen (x : Logged ε α) (next : Except ε α → Logged ε' β) :
    (x.andThen next).outcome = (next x.outcome).outcome :=
  rfl

end Logged
end CrateListing
