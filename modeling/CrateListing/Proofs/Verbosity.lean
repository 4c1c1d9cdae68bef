import CrateListing.Proofs.NeverDropLevels
import CrateListing.Proofs.Runs

/-!
# Runs with more and with fewer messages

The options for the log decide which messages of a run are shown, and in which
form.  Only the pass that removes drops looks at them for anything else; without
it two runs that differ in these options do the same and note the same.

Main definitions:

- `Invocation.withLog`: the same run with other options for the log.
- `Invocation.messages`: the messages that a run shows.

Main results:

- Theorem `Crate.render_withLog`: the listing does not depend on the options for the log.
- Theorem `Invocation.execute_withLog`: nor does a run without the pass.
- Theorem `Log.Style.shown_of_stricter`: a log that shows less shows a part of one that shows more.
- Theorem `Invocation.execute_of_verbosity`: runs with more and with fewer messages.
-/

namespace CrateListing

open Outcome

/-! ## Logs that show less -/

/-- A log that shows more messages shows all that one with fewer messages shows. -/
theorem Level.admits_of_rank_le {limit other level : Level} (hrank : limit.rank ≤ other.rank)
    (h : limit.admits level = true) : other.admits level = true := by
  rw [Level.admits, decide_eq_true_eq] at *
  omega

/-- More requests for messages never lower the level of a log. -/
theorem Options.rank_levelOfVerbosity_mono {verbosity other : Int} (h : verbosity ≤ other) :
    (levelOfVerbosity verbosity).rank ≤ (levelOfVerbosity other).rank := by
  unfold levelOfVerbosity
  split_ifs <;> simp only [Level.rank] <;> omega

namespace Log

/-- What stands in front of a message depends only on whether messages carry the time. -/
theorem Style.mark_eq_of_stamped {style other : Style} (h : style.stamped = other.stamped)
    (time : Text) (level : Level) : style.mark time level = other.mark time level := by
  rw [Style.mark, Style.mark, h]

/-- The messages of a log that shows less are those of a log that shows more, without the ones that
it does not show. -/
theorem Style.shown_of_stricter {style other : Style} (hrank : style.limit.rank ≤ other.limit.rank)
    (log : List Entry) :
    style.shown log = (other.shown log).filter fun entry => style.limit.admits entry.level := by
  rw [Style.shown, Style.shown, List.filter_filter]
  refine List.filter_congr fun entry _ => ?_
  cases hadmits : style.limit.admits entry.level with
  | false => simp
  | true => simp [Level.admits_of_rank_le hrank hadmits]

end Log

/-! ## The options for the log -/

/-- The listing does not depend on the options for the log. -/
theorem Crate.renderEntries_withLog (crate : Crate) (options : Options) (level : Level)
    (stamped : Bool) (decls : List Declaration) :
    crate.renderEntries (options.withLog level stamped) decls
      = crate.renderEntries options decls := by
  induction decls with
  | nil => rfl
  | cons decl rest ih =>
      have hentry : crate.renderEntry (options.withLog level stamped) decl
          = crate.renderEntry options decl := rfl
      rw [Crate.renderEntries, Crate.renderEntries, hentry, ih]

/-- The listing does not depend on the options for the log. -/
theorem Crate.render_withLog (crate : Crate) (options : Options) (level : Level) (stamped : Bool) :
    crate.render (options.withLog level stamped) = crate.render options := by
  rw [Crate.render, Crate.render, crate.renderEntries_withLog]

namespace Invocation

/-- The run with other options for the log. -/
def withLog (invocation : Invocation) (verbosity : Nat) (stamped : Bool) : Invocation :=
  { invocation with
    settings := { invocation.settings with verbosity := verbosity, stampedLog := stamped } }

variable {σ : Type}

/-- The messages that a run shows. -/
def messages (invocation : Invocation) (system : System σ) (state : σ) : List Log.Entry :=
  invocation.logStyle.shown (invocation.execute system state).log

/-- The options for the log are a part of the options of the listing. -/
theorem options_withLog (invocation : Invocation) (hasRoom : Nat → Bool) (verbosity : Nat)
    (stamped : Bool) :
    (invocation.withLog verbosity stamped).options hasRoom
      = (invocation.options hasRoom).map fun options =>
          options.withLog (Options.levelOfVerbosity verbosity) stamped := by
  simp only [Invocation.options, Options.ofFlags, withLog]
  cases Options.spaces hasRoom invocation.settings.indent <;> rfl

/-- What is shown does not depend on the options for the log. -/
theorem perform_withLog (options : Options) (level : Level) (stamped : Bool) (crate : Crate)
    (task : Task) :
    perform (options.withLog level stamped) crate task = perform options crate task := by
  cases task with
  | listing => rw [perform, perform, crate.render_withLog]
  | symbols => rfl
  | one kind selector => cases selector <;> rfl

section WithoutPass

variable {invocation : Invocation} (hpass : invocation.settings.removeNeverDrops = false)

include hpass

/-- Without the pass the crate is shown as it was loaded. -/
theorem prepare_of_not_removeNeverDrops (options : Options) (crate : Crate) :
    invocation.prepare options crate = pure crate := by
  rw [prepare, hpass]
  rfl

/-- Without the pass, the options for the log do not matter for the text and the messages that are
noted. -/
theorem produce_withLog (verbosity : Nat) (stamped : Bool) (hasRoom : Nat → Bool)
    (content : Except ReadError (List UInt8)) :
    (invocation.withLog verbosity stamped).produce hasRoom content
      = invocation.produce hasRoom content := by
  have hload : (invocation.withLog verbosity stamped).loadCrate content
      = invocation.loadCrate content := rfl
  have hother : (invocation.withLog verbosity stamped).settings.removeNeverDrops = false := hpass
  have htask : (invocation.withLog verbosity stamped).task = invocation.task := rfl
  simp only [produce, options_withLog, hload, htask, prepare_of_not_removeNeverDrops hpass,
    prepare_of_not_removeNeverDrops hother]
  cases invocation.options hasRoom with
  | error error => rfl
  | ok options =>
      show Logged.bind _ _ = Logged.bind _ _
      simp only [Except.map, Except.mapError, Logged.ofExcept, Logged.bind, perform_withLog]

/-- A run without the pass does the same and notes the same, whatever the options for the log
are. -/
theorem execute_withLog (verbosity : Nat) (stamped : Bool) (system : System σ) (state : σ) :
    (invocation.withLog verbosity stamped).execute system state
      = invocation.execute system state := by
  have hcontent : (invocation.withLog verbosity stamped).content system state
      = invocation.content system state := rfl
  have hdeliver : (invocation.withLog verbosity stamped).deliver system state
      = invocation.deliver system state := rfl
  rw [execute, execute, make, make, hcontent, hdeliver, produce_withLog hpass]

/-- Two runs without the pass that differ in the number of requests for messages, and in whether
the messages carry the time, end in the same way, show the same and leave the same files.  When only
the number of requests differs, the run with fewer of them shows exactly those messages of the other
one that its level admits, in the same order and the same form.  This is so on every system. -/
theorem execute_of_verbosity (system : System σ) (state : σ) (low high : Nat)
    (stamped otherStamped : Bool) :
    (((invocation.withLog low stamped).execute system state).ending
        = ((invocation.withLog high otherStamped).execute system state).ending ∧
      ((invocation.withLog low stamped).execute system state).shown
        = ((invocation.withLog high otherStamped).execute system state).shown ∧
      ((invocation.withLog low stamped).execute system state).state
        = ((invocation.withLog high otherStamped).execute system state).state) ∧
    (low ≤ high →
      (invocation.withLog low stamped).messages system state
        = ((invocation.withLog high stamped).messages system state).filter fun entry =>
            (Options.levelOfVerbosity low).admits entry.level) ∧
    ∀ time, (invocation.withLog low stamped).logStyle.text time
        ((invocation.withLog low stamped).execute system state).log
      = Text.join (((invocation.withLog low stamped).messages system state).map fun entry =>
          (invocation.withLog high stamped).logStyle.mark time entry.level ++ entry.message
            ++ "\n") := by
  refine ⟨?_, fun hle => ?_, fun time => ?_⟩
  · simp only [execute_withLog hpass, and_self]
  · have hrank := Options.rank_levelOfVerbosity_mono (Int.ofNat_le.2 hle)
    rw [messages, messages, execute_withLog hpass, execute_withLog hpass]
    exact Log.Style.shown_of_stricter hrank _
  · have hmark (level : Level) : (invocation.withLog low stamped).logStyle.mark time level
        = (invocation.withLog high stamped).logStyle.mark time level :=
      Log.Style.mark_eq_of_stamped rfl time level
    rw [Log.Style.text_eq_shown, messages]
    simp only [hmark]

end WithoutPass

/-- A listing that leaves out what cannot be shown. -/
def listingAll : Invocation :=
  ⟨.listing, "demo.llbc", { keepGoing := true }⟩

end Invocation

/-- A tree with a crate file that declares a global which is computed by a missing function. -/
def Disk.withGlobalFile : Disk :=
  .withCrateFile
    ("\x7b\"globals\": [\x7b\"def_id\": 0, \"name\": [\"G\"], \"ty\": \"Bool\","
      ++ " \"body_id\": 7\x7d]\x7d")

/-- The quiet run shows the one message of error level among those of the verbose run, which are
more. -/
theorem Invocation.execute_of_verbosity_withGlobalFile :
    ((listingAll.withLog 0 false).execute Disk.plainSystem Disk.withGlobalFile).ending
      = ((listingAll.withLog 3 true).execute Disk.plainSystem Disk.withGlobalFile).ending ∧
    (listingAll.withLog 0 false).messages Disk.plainSystem Disk.withGlobalFile
      = ((listingAll.withLog 3 false).messages Disk.plainSystem Disk.withGlobalFile).filter
          (fun entry => (Options.levelOfVerbosity 0).admits entry.level) ∧
    (listingAll.withLog 0 false).messages Disk.plainSystem Disk.withGlobalFile
      = [⟨.error, "in 'G': internal printer error: [ICE-0050] unknown function declaration id 7"⟩] ∧
    ((listingAll.withLog 3 false).messages Disk.plainSystem Disk.withGlobalFile).length = 8 :=
  ⟨(execute_of_verbosity rfl Disk.plainSystem Disk.withGlobalFile 0 3 false true).1.1,
    (execute_of_verbosity rfl Disk.plainSystem Disk.withGlobalFile 0 3 false true).2.1 (by decide),
    by decide +kernel, by decide +kernel⟩

end CrateListing
