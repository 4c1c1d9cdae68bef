import CrateListing.Assoc
import CrateListing.Declaration.Basic

/-!
# Command line arguments

A command line has options for the program, the name of a command, and the
options and operands of that command.

A word that starts with a dash is an option, unless it is a dash alone, looks
like a negative number or has a space in it.  Long options may be abbreviated as
long as only one of them fits, and take their value from the next word or behind
an equals sign.  Short options may be run together, and an equals sign may stand
behind the first of them; the value of a short option may stand right behind it.
Behind the word `--` there are no options, and as a value it counts as none.

Main definitions:

- `Grammar`, `Grammar.classify`: the options of a command, and what a word is.
- `Invocation.parse`: the invocation that a command line asks for.
-/

namespace CrateListing

/-! ## Options -/

/-- What an option changes. -/
inductive Effect where
  | help
  | moreMessages
  | stampedLog
  | indent
  | output
  | removeNeverDrops
  | keepGoing
deriving DecidableEq, Repr

/-- An option with all its names. -/
structure OptionSpec where
  names : List Text
  effect : Effect
deriving DecidableEq, Repr

namespace OptionSpec

/-- Whether the option has a value. -/
def takesValue (spec : OptionSpec) : Bool :=
  spec.effect = .indent || spec.effect = .output

/-- How messages call the option. -/
def title (spec : OptionSpec) : Text :=
  Text.intercalate "/" spec.names

end OptionSpec

/-- The name of a program or command, and its options. -/
structure Grammar where
  program : Text
  options : List OptionSpec

/-! ## Errors -/

/-- What is wrong with a command line. -/
inductive Misuse where
  | required (names : List Text)
  | invalidChoice (word : Text) (choices : List Text)
  | unrecognized (words : List Text)
  | invalidInteger (option : OptionSpec) (word : Text)
  | expectedValue (option : OptionSpec)
  | ignoredValue (option : OptionSpec) (value : Text)
  | ambiguous (word : Text) (candidates : List Text)
deriving DecidableEq, Repr

/-- The wording of what is wrong. -/
def Misuse.message : Misuse → Text
  | .required names =>
      "the following arguments are required: " ++ Text.intercalate ", " names
  | .invalidChoice word choices =>
      "argument command: invalid choice: " ++ Text.quoted word ++ " (choose from "
        ++ Text.intercalate ", " (choices.map Text.quoted) ++ ")"
  | .unrecognized words => "unrecognized arguments: " ++ Text.intercalate " " words
  | .invalidInteger option word =>
      "argument " ++ option.title ++ ": invalid int value: " ++ Text.quoted word
  | .expectedValue option => "argument " ++ option.title ++ ": expected one argument"
  | .ignoredValue option value =>
      "argument " ++ option.title ++ ": ignored explicit argument " ++ Text.quoted value
  | .ambiguous word candidates =>
      "ambiguous option: " ++ word ++ " could match " ++ Text.intercalate ", " candidates

/-- Why a command line asks for nothing to be run. -/
inductive ArgumentStop where
  /-- The user wants to know how to call the program. -/
  | help (program : Text)
  | misuse (program : Text) (problem : Misuse)
deriving DecidableEq, Repr

/-- The line shown to the user who misused the program. -/
def usageError (program : Text) (problem : Misuse) : Text :=
  program ++ ": error: " ++ problem.message

/-! ## Words -/

/-- A word of a command line. -/
inductive Word where
  | operand (text : Text)
  /-- The word after which there are no options. -/
  | separator
  /-- An option with what the word holds behind its name. -/
  | option (text : Text) (name : Text) (spec : OptionSpec) (attached : Option (List CodePoint))
  /-- A word that looks like an option and is none. -/
  | unknown (text : Text)
deriving Repr

/-- The text of a word. -/
def Word.text : Word → Text
  | .operand text => text
  | .separator => "--"
  | .option text _ _ _ => text
  | .unknown text => text

/-- A minus sign and a decimal number, with or without a point; a line end may follow. -/
def looksNegative (text : List CodePoint) : Bool :=
  match text with
  | .char '-' :: number =>
      let number := if number.getLast? = some (.char '\n') then number.dropLast else number
      let whole := number.takeWhile Text.isDecimal
      match number.dropWhile Text.isDecimal with
      | [] => !whole.isEmpty
      | .char '.' :: fraction => !fraction.isEmpty && fraction.all Text.isDecimal
      | _ => false
  | _ => false

/-- Splits a text at its first equals sign. -/
def splitEquals (text : List CodePoint) : List CodePoint × Option (List CodePoint) :=
  match text.dropWhile (· ≠ .char '=') with
  | [] => (text, none)
  | _ :: value => (text.takeWhile (· ≠ .char '='), some value)

namespace Grammar

/-- The names of all options, with the options, in order. -/
def named (grammar : Grammar) : List (Text × OptionSpec) :=
  grammar.options.flatMap fun spec => spec.names.map fun name => (name, spec)

/-- The options that a long word may be short for. -/
def longCandidates (grammar : Grammar) (text : List CodePoint) :
    List (Text × OptionSpec × Option (List CodePoint)) :=
  let (start, value) := splitEquals text
  (grammar.named.filter fun (name, _) => start.isPrefixOf name.toList).map
    fun (name, spec) => (name, spec, value)

/-- The short option at the front of a word, with the rest of the word attached, and the options
that the word may be short for. -/
def shortCandidates (grammar : Grammar) (text : List CodePoint) :
    List (Text × OptionSpec × Option (List CodePoint)) :=
  grammar.named.filterMap fun (name, spec) =>
    if name.toList = text.take 2 then some (name, spec, some (text.drop 2))
    else if text.isPrefixOf name.toList then some (name, spec, none)
    else none

/-- The options that a word may mean which is not the name of one. -/
def candidates (grammar : Grammar) (text : List CodePoint) :
    List (Text × OptionSpec × Option (List CodePoint)) :=
  if (text.drop 1).head? = some (.char '-') then grammar.longCandidates text
  else grammar.shortCandidates text

/-- What a word is that starts with a dash and has more than one character. -/
def classifyDashed (grammar : Grammar) (text : Text) : Except ArgumentStop Word :=
  let exact := grammar.named.find? fun (name, _) => name = text
  let (start, value) := splitEquals text.toList
  let beforeEquals := grammar.named.find? fun (name, _) => name.toList = start
  match exact, beforeEquals, value with
  | some (name, spec), _, _ => .ok (.option text name spec none)
  | none, some (name, spec), some value => .ok (.option text name spec (some value))
  | none, _, _ =>
      match grammar.candidates text.toList with
      | [(name, spec, attached)] => .ok (.option text name spec attached)
      | [] =>
          if looksNegative text.toList || text.toList.contains ' ' then .ok (.operand text)
          else .ok (.unknown text)
      | several => .error (.misuse grammar.program (.ambiguous text (several.map Prod.fst)))

/-- What a word is that stands before the separator. -/
def classify (grammar : Grammar) (text : Text) : Except ArgumentStop Word :=
  match text.toList with
  | .char '-' :: _ :: _ => grammar.classifyDashed text
  | _ => .ok (.operand text)

/-- What the words of a command line are. -/
def classifyAll (grammar : Grammar) : List Text → Except ArgumentStop (List Word)
  | [] => .ok []
  | text :: rest =>
      if text = "--" then .ok (.separator :: rest.map .operand)
      else do
        let word ← grammar.classify text
        let words ← grammar.classifyAll rest
        return word :: words

end Grammar

/-! ## Settings -/

/-- What the options of a command line have set. -/
structure Settings where
  verbosity : Nat := 0
  stampedLog : Bool := false
  /-- The width of a step, unless the option was given without one. -/
  indent : Option Int := some 2
  output : Option Text := none
  removeNeverDrops : Bool := false
  keepGoing : Bool := false
deriving DecidableEq, Repr

namespace Grammar

/-- The settings after an option, with its value if there is one. -/
def set (grammar : Grammar) (settings : Settings) (spec : OptionSpec) (value : Option Text) :
    Except ArgumentStop Settings :=
  match spec.effect with
  | .help => .error (.help grammar.program)
  | .moreMessages => .ok { settings with verbosity := settings.verbosity + 1 }
  | .stampedLog => .ok { settings with stampedLog := true }
  | .indent =>
      match value with
      | none => .ok { settings with indent := none }
      | some word =>
          match Text.readInteger word with
          | .ok indent => .ok { settings with indent := some indent }
          | .error _ => .error (.misuse grammar.program (.invalidInteger spec word))
  | .output => .ok { settings with output := value }
  | .removeNeverDrops => .ok { settings with removeNeverDrops := true }
  | .keepGoing => .ok { settings with keepGoing := true }

/-- What a word with options amounts to. -/
structure Cluster where
  /-- The options without a value. -/
  flags : List OptionSpec
  /-- The last option, if it has a value, and the value if it is part of the word. -/
  last : Option (OptionSpec × Option Text)

/-- An option with nothing attached to it. -/
def Cluster.alone (spec : OptionSpec) : Cluster :=
  if spec.takesValue then ⟨[], some (spec, none)⟩ else ⟨[spec], none⟩

/-- An option that takes no value refuses what is attached to it. -/
def refuseValue (grammar : Grammar) (spec : OptionSpec) (attached : List CodePoint) :
    Except ArgumentStop Cluster :=
  .error (.misuse grammar.program (.ignoredValue spec (Text.ofList attached)))

/-- Reads what is attached to a short option: its value if it takes one, otherwise more short
options. -/
def readShort (grammar : Grammar) (spec : OptionSpec) : List CodePoint → Except ArgumentStop Cluster
  | [] =>
      if spec.takesValue then .ok ⟨[], some (spec, some "")⟩ else grammar.refuseValue spec []
  | c :: rest =>
      if spec.takesValue then .ok ⟨[], some (spec, some (Text.ofList (c :: rest)))⟩
      else
        match grammar.named.find? fun (name, _) => name.toList = [.char '-', c] with
        | none => grammar.refuseValue spec (c :: rest)
        | some (_, next) =>
            let tail : Except ArgumentStop Cluster :=
              match rest with
              | [] => .ok (.alone next)
              | letter :: more => grammar.readShort next (letter :: more)
            tail.map fun cluster => { cluster with flags := spec :: cluster.flags }

/-- Reads a word with options. -/
def readOption (grammar : Grammar) (name : Text) (spec : OptionSpec) :
    Option (List CodePoint) → Except ArgumentStop Cluster
  | none => .ok (.alone spec)
  | some attached =>
      if spec.takesValue then .ok ⟨[], some (spec, some (Text.ofList attached))⟩
      else if (name.toList.drop 1).head? = some (.char '-') then grammar.refuseValue spec attached
      else grammar.readShort spec attached

end Grammar

/-! ## Scanning -/

/-- What has been read of the words of a command. -/
structure Scan where
  settings : Settings := {}
  /-- The operands that were taken, unless they are no values. -/
  operands : List (Option Text) := []
  surplus : List Text := []
deriving Repr

/-- The scan with one more operand. -/
def Scan.take (scan : Scan) (operand : Option Text) : Scan :=
  { scan with operands := scan.operands ++ [operand] }

/-- The scan with one more word that is not asked for. -/
def Scan.leave (scan : Scan) (text : Text) : Scan :=
  { scan with surplus := scan.surplus ++ [text] }

namespace Grammar

/-- Sets options that have no value. -/
def setFlags (grammar : Grammar) (settings : Settings) (flags : List OptionSpec) :
    Except ArgumentStop Settings :=
  flags.foldlM (fun settings spec => grammar.set settings spec none) settings

/-- The value that a text stands for. -/
def valueOf? (text : Text) : Option Text :=
  if text = "--" then none else some text

/-- The word behind an option that needs a value. -/
def nextValue (grammar : Grammar) (spec : OptionSpec) : List Word → Except ArgumentStop Text
  | .operand text :: _ => .ok text
  | _ => .error (.misuse grammar.program (.expectedValue spec))

/-- The last option of a word with its value, and whether the value is the next word. -/
def lastOption (grammar : Grammar) (cluster : Cluster) (rest : List Word) :
    Except ArgumentStop (Option (OptionSpec × Text) × Bool) :=
  match cluster.last with
  | none => .ok (none, false)
  | some (spec, some value) => .ok (some (spec, value), false)
  | some (spec, none) => do
      let value ← grammar.nextValue spec rest
      return (some (spec, value), true)

/-- Applies a word with options.  The flag tells whether the next word was its value. -/
def applyOption (grammar : Grammar) (scan : Scan) (cluster : Cluster) (rest : List Word) :
    Except ArgumentStop (Scan × Bool) := do
  let (last, usesNext) ← grammar.lastOption cluster rest
  let settings ← grammar.setFlags scan.settings cluster.flags
  match last with
  | none => return ({ scan with settings := settings }, usesNext)
  | some (spec, value) =>
      let settings ← grammar.set settings spec (valueOf? value)
      return ({ scan with settings := settings }, usesNext)

/-- Whether the next word is an operand. -/
def startsWithOperand : List Word → Bool
  | .operand _ :: _ => true
  | _ => false

/-- Scans the words of a command with so many operands.  Operands beyond them and unknown options
are surplus.  A separator next to an operand that is taken belongs to it: to the one before, or
else to the one behind, which then is a value whatever its text is.  `skip` tells that a word has
been used up already and `taken` that the word before was an operand that was taken. -/
def scanWords (grammar : Grammar) (capacity : Nat) :
    (skip taken : Bool) → Scan → List Word → Except ArgumentStop Scan
  | _, _, scan, [] => .ok scan
  | true, _, scan, _ :: rest => grammar.scanWords capacity false false scan rest
  | false, _, scan, .operand text :: rest =>
      if scan.operands.length < capacity then
        grammar.scanWords capacity false true (scan.take (valueOf? text)) rest
      else grammar.scanWords capacity false false (scan.leave text) rest
  | false, true, scan, .separator :: rest => grammar.scanWords capacity false false scan rest
  | false, false, scan, .separator :: .operand text :: rest =>
      if scan.operands.length < capacity then
        grammar.scanWords capacity false true (scan.take (some text)) rest
      else grammar.scanWords capacity false false ((scan.leave "--").leave text) rest
  | false, false, scan, .separator :: rest =>
      grammar.scanWords capacity false false (scan.leave "--") rest
  | false, _, scan, .unknown text :: rest =>
      grammar.scanWords capacity false false (scan.leave text) rest
  | false, _, scan, .option _ name spec attached :: rest => do
      let cluster ← grammar.readOption name spec attached
      let (scan, usesNext) ← grammar.applyOption scan cluster rest
      grammar.scanWords capacity usesNext false scan rest

/-- Scans the words before a command.  The command is the first operand; the rest of the words
belong to it. -/
def scanCommand (grammar : Grammar) :
    (skip : Bool) → Scan → List Word → Except ArgumentStop (Scan × List Text)
  | _, scan, [] => .ok (scan, [])
  | true, scan, _ :: rest => grammar.scanCommand false scan rest
  | false, scan, word :: rest =>
      match word with
      | .operand text => .ok (scan, text :: rest.map Word.text)
      | .separator =>
          if startsWithOperand rest then .ok (scan, word.text :: rest.map Word.text)
          else grammar.scanCommand false (scan.leave word.text) rest
      | .unknown text => grammar.scanCommand false (scan.leave text) rest
      | .option _ name spec attached => do
          let cluster ← grammar.readOption name spec attached
          let (scan, usesNext) ← grammar.applyOption scan cluster rest
          grammar.scanCommand usesNext scan rest

end Grammar

/-! ## Invocations -/

/-- What a command shows. -/
inductive Task where
  /-- All declarations. -/
  | listing
  /-- One declaration, by its name or identifier if one is given. -/
  | one (kind : DeclKind) (selector : Option Text)
  /-- The symbol table. -/
  | symbols
deriving DecidableEq, Repr

/-- What a command line asks for. -/
structure Invocation where
  task : Task
  file : Text
  settings : Settings
deriving DecidableEq, Repr

/-- The commands. -/
inductive Command where
  | listing
  | one (kind : DeclKind)
  | symbols
deriving DecidableEq, Repr

namespace Command

/-- The commands by the names that call them. -/
def table : List (Text × Command) :=
  [("crate", .listing), ("all", .listing), ("fun", .one .function), ("global", .one .global),
   ("type", .one .type), ("sym", .symbols), ("symbols", .symbols)]

/-- The program. -/
def programName : Text := "llbcp"

/-- The option that asks for help. -/
def helpOption : OptionSpec := ⟨["-h", "--help"], .help⟩

/-- The option that names a file for the result. -/
def outputOption : OptionSpec := ⟨["--output", "-o"], .output⟩

/-- The options before a command. -/
def programGrammar : Grammar where
  program := programName
  options :=
    [helpOption, ⟨["-v", "--verbose"], .moreMessages⟩, ⟨["-l", "--log"], .stampedLog⟩,
     ⟨["--indent"], .indent⟩]

/-- The options of the commands that show declarations. -/
def listingOptions : List OptionSpec :=
  [helpOption, outputOption, ⟨["--remove-drop-never"], .removeNeverDrops⟩,
   ⟨["--keep-going", "-k"], .keepGoing⟩]

/-- The options of a command, and the name that messages use for it. -/
def grammar : Command → Grammar
  | .listing => ⟨programName ++ " crate", listingOptions⟩
  | .one .function => ⟨programName ++ " fun", listingOptions⟩
  | .one .global => ⟨programName ++ " global", listingOptions⟩
  | .one .type => ⟨programName ++ " type", listingOptions⟩
  | .symbols => ⟨programName ++ " sym", [helpOption, outputOption]⟩

/-- The names of the operands of a command. -/
def operandNames : Command → List Text
  | .one _ => ["file", "name"]
  | _ => ["file"]

/-- The invocation for the operands of a command, if there are enough of them. -/
def invocation? (command : Command) (settings : Settings) :
    List (Option Text) → Option Invocation
  | some file :: rest =>
      match command, rest with
      | .listing, _ => some ⟨.listing, file, settings⟩
      | .symbols, _ => some ⟨.symbols, file, settings⟩
      | .one kind, selector :: _ => some ⟨.one kind selector, file, settings⟩
      | .one _, [] => none
  | _ => none

/-- Reads the words behind a command.  Missing operands are reported before surplus words, which
are left to the caller. -/
def parse (command : Command) (settings : Settings) (words : List Text) :
    Except ArgumentStop (Invocation × List Text) := do
  let classified ← command.grammar.classifyAll words
  let scan ← command.grammar.scanWords command.operandNames.length false false
    { settings := settings } classified
  match command.invocation? scan.settings scan.operands with
  | some invocation => return (invocation, scan.surplus)
  | none =>
      throw (.misuse command.grammar.program
        (.required (command.operandNames.drop scan.operands.length)))

end Command

/-- Reads a command line. -/
def Invocation.parse (words : List Text) : Except ArgumentStop Invocation := do
  let grammar := Command.programGrammar
  let classified ← grammar.classifyAll words
  let (scan, commandWords) ← grammar.scanCommand false {} classified
  match commandWords with
  | [] => throw (.misuse grammar.program (.required ["command"]))
  | name :: rest =>
      match Assoc.find? name Command.table with
      | none =>
          throw (.misuse grammar.program (.invalidChoice name (Assoc.keys Command.table)))
      | some command =>
          let (invocation, surplus) ← command.parse scan.settings rest
          if (scan.surplus ++ surplus).isEmpty then return invocation
          else throw (.misuse grammar.program (.unrecognized (scan.surplus ++ surplus)))

end CrateListing
