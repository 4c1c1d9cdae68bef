import CrateListing.Proofs.DigitLimits

/-!
# What a selector finds

The symbol table lists every declaration with its identifier and its qualified
name, and both can be used as selectors.  The numeral of an identifier finds its
declaration, since identifiers in files are within the limit of literals and
declarations are stored under their own identifiers.  A name that is not all
digits finds the first declaration with it.  What is found is shown as the
declaration with its identifier; when nothing is found, the run gives up.

Main definitions:

- `Text.IsAscii`, `Text.IsDigits`: selectors that can be typed, and those that are numbers.
- `Crate.FirstNamed`: the first declaration with a name.
- `Crate.ListsKind`: the lines of the symbol table for the declarations of a kind.
- `Invocation.GivesUp`: a run that ends with a message.
- `Invocation.ShowsOutcome`: a run that shows what was computed, or why nothing was.

Main results:

- Theorem `Crate.KeyedById.find?_eq_some_iff`: the declaration with an identifier.
- Theorem `Crate.findNamed?_eq_some_iff`: the declaration with a name.
- Theorem `Crate.symbols_lists`: the symbol table lists the declarations of all tables.
- Theorem `Invocation.selection_finds_listed`: selections in crates that were loaded, and runs.
-/

namespace CrateListing

open Outcome

/-! ## Digits of selectors -/

namespace Text

/-- A text of ASCII characters. -/
def IsAscii (text : Text) : Prop :=
  ∀ c ∈ text.toList, c.toNat < 128

instance (text : Text) : Decidable (IsAscii text) :=
  decidable_of_iff (text.toList.all (fun c => decide (c.toNat < 128)) = true) (by simp [IsAscii])

/-- A number: ASCII digits, at least one. -/
def IsDigits (text : Text) : Prop :=
  text.toList ≠ [] ∧ ∀ c ∈ text.toList, c.isDigit = true

instance (text : Text) : Decidable (IsDigits text) :=
  decidable_of_iff (text.toList ≠ [] ∧ text.toList.all CodePoint.isDigit = true)
    (by simp [IsDigits])

/-- An ASCII digit shows a digit. -/
theorem showsDigit_of_isDigit {c : CodePoint} (h : c.isDigit = true) : showsDigit c = true := by
  apply showsDigit_of_isDecimal
  rw [isDecimal, digitValue?_of_isDigit h, Option.isSome_some]

/-- Among ASCII characters only the ASCII digits show digits. -/
theorem isDigit_of_showsDigit {c : CodePoint} (hascii : c.toNat < 128) (h : showsDigit c = true) :
    c.isDigit = true := by
  have hranges : ∀ range ∈ digitRanges, range = (0x30, 0x39) ∨ 128 ≤ range.1 := by decide
  obtain ⟨range, hrange, hlow, hhigh⟩ := (digitRanges.holds_iff c.toNat).1 (holds_digitRanges h)
  rcases hranges range hrange with rfl | hother
  · exact CodePoint.isDigit_iff.2 ⟨hlow, hhigh⟩
  · omega

/-- All characters of a number show digits. -/
theorem allShowDigits_of_isDigits {text : Text} (h : IsDigits text) :
    allShowDigits text = true := by
  obtain ⟨hne, hdigits⟩ := h
  rw [allShowDigits, Bool.and_eq_true, List.all_eq_true]
  refine ⟨?_, fun c hc => showsDigit_of_isDigit (hdigits c hc)⟩
  simpa [isEmpty_eq_false_iff] using hne

/-- An ASCII text that shows digits is a number. -/
theorem isDigits_of_allShowDigits {text : Text} (hascii : IsAscii text)
    (h : allShowDigits text = true) : IsDigits text := by
  rw [allShowDigits, Bool.and_eq_true, List.all_eq_true] at h
  refine ⟨by simpa [isEmpty_eq_false_iff] using h.1, fun c hc => ?_⟩
  exact isDigit_of_showsDigit (hascii c hc) (h.2 c hc)

/-- A number is read as what its digits stand for. -/
theorem readInteger_of_isDigits {text : Text} (h : IsDigits text)
    (hlimit : text.length ≤ digitLimit) :
    readInteger text = .ok (numberOf text.toList : Nat) := by
  have hrun := digitRun_of_isDigit h.1 h.2
  have hblank : ∀ c ∈ [], isBlank c = true := List.forall_mem_nil _
  refine readInteger_eq_ok_iff.2 ⟨?_, hblank, .none, hrun, ?_, hblank, ?_⟩
  · rw [List.nil_append, List.nil_append, List.append_nil]
  · rwa [List.length_map, Text.length_toList]
  · rw [← numberOf, one_mul]

/-- The numeral of an integer that is not negative is a number. -/
theorem isDigits_decimal {n : Int} (h : 0 ≤ n) : IsDigits (decimal n) := by
  have hdigits : (decimal n).toList = (Nat.toDigits 10 n.natAbs).map .char := by
    rw [toList_decimal, if_neg (not_lt.2 h), List.nil_append]
  rw [IsDigits, hdigits]
  exact ⟨by simp, fun c => isDigit_of_mem_toDigits⟩

end Text

/-! ## Declarations by identifier -/

/-- In a table by identifiers an item is found by its own identifier. -/
theorem Table.KeyedBy.find?_eq_some_iff {α : Type} {id : α → Int} {table : Table α}
    (h : table.KeyedBy id) {key : Int} {item : α} :
    table.find? key = some item ↔ item ∈ table.values ∧ id item = key := by
  constructor
  · intro hfind
    exact ⟨Table.mem_values_of_find? hfind, h (key, item) (Assoc.mem_of_find? hfind)⟩
  · rintro ⟨hitem, rfl⟩
    obtain ⟨entry, hentry, rfl⟩ := List.mem_map.1 hitem
    rw [h entry hentry]
    exact Assoc.find?_of_mem table.nodup hentry

/-- Looking for a declaration in the table of its kind. -/
theorem Table.KeyedBy.map_find?_eq_some_iff {α : Type} {id : α → Int} {table : Table α}
    (h : table.KeyedBy id) {wrap : α → Declaration} (hid : ∀ item, (wrap item).id = id item)
    {key : Int} {decl : Declaration} :
    (table.find? key).map wrap = some decl ↔ decl ∈ table.values.map wrap ∧ decl.id = key := by
  rw [Option.map_eq_some_iff, List.mem_map]
  constructor
  · rintro ⟨item, hitem, rfl⟩
    obtain ⟨hmem, hkey⟩ := h.find?_eq_some_iff.1 hitem
    exact ⟨⟨item, hmem, rfl⟩, (hid item).trans hkey⟩
  · rintro ⟨⟨item, hmem, rfl⟩, hkey⟩
    exact ⟨item, h.find?_eq_some_iff.2 ⟨hmem, (hid item).symm.trans hkey⟩, rfl⟩

namespace Crate

variable {crate : Crate} {kind : DeclKind}

/-- The declaration with an identifier is the one that has it. -/
theorem KeyedById.find?_eq_some_iff (h : crate.KeyedById) {id : Int} {decl : Declaration} :
    crate.find? kind id = some decl ↔ decl ∈ crate.ofKind kind ∧ decl.id = id := by
  cases kind with
  | type => exact h.types.map_find?_eq_some_iff fun _ => rfl
  | global => exact h.globals.map_find?_eq_some_iff fun _ => rfl
  | function => exact h.functions.map_find?_eq_some_iff fun _ => rfl

/-- Nothing is found by an identifier that no declaration has. -/
theorem KeyedById.find?_eq_none (h : crate.KeyedById) {id : Int}
    (hid : ∀ decl ∈ crate.ofKind kind, decl.id ≠ id) : crate.find? kind id = none := by
  rw [Option.eq_none_iff_forall_ne_some]
  intro decl hfind
  obtain ⟨hdecl, hkey⟩ := h.find?_eq_some_iff.1 hfind
  exact hid decl hdecl hkey

/-- A selector that is an integer finds the declaration with this identifier. -/
theorem select_of_readInteger {selector : Text} {id : Int}
    (hshows : Text.allShowDigits selector = true) (h : Text.readInteger selector = .ok id) :
    crate.select kind selector = .ok (crate.find? kind id) := by
  rw [select, if_pos hshows, h]
  rfl

/-! ## Declarations by name -/

/-- The first declaration of a kind with a qualified name. -/
structure FirstNamed (crate : Crate) (kind : DeclKind) (name : Text) (decl : Declaration) :
    Prop where
  named : decl.name.joined = name
  first : ∃ before after, crate.ofKind kind = before ++ decl :: after ∧
    ∀ other ∈ before, other.name.joined ≠ name

/-- What is found by a name is the first declaration with it. -/
theorem findNamed?_eq_some_iff {name : Text} {decl : Declaration} :
    crate.findNamed? kind name = some decl ↔ crate.FirstNamed kind name decl := by
  rw [findNamed?, List.find?_eq_some_iff_append]
  constructor
  · rintro ⟨hnamed, before, after, hsplit, hbefore⟩
    refine ⟨by simpa using hnamed, before, after, hsplit, fun other hother => ?_⟩
    simpa using hbefore other hother
  · rintro ⟨hnamed, before, after, hsplit, hbefore⟩
    refine ⟨by simpa using hnamed, before, after, hsplit, fun other hother => ?_⟩
    simpa using hbefore other hother

/-- The first declaration with a name is one of its kind. -/
theorem FirstNamed.mem {name : Text} {decl : Declaration} (h : crate.FirstNamed kind name decl) :
    decl ∈ crate.ofKind kind := by
  obtain ⟨before, after, hsplit, -⟩ := h.first
  rw [hsplit]
  exact List.mem_append_right before List.mem_cons_self

/-- The name of a declaration is found. -/
theorem exists_firstNamed {decl : Declaration} (h : decl ∈ crate.ofKind kind) :
    ∃ first, crate.FirstNamed kind decl.name.joined first := by
  have hsome : (crate.findNamed? kind decl.name.joined).isSome = true := by
    rw [findNamed?, List.find?_isSome]
    exact ⟨decl, h, decide_eq_true rfl⟩
  obtain ⟨first, hfirst⟩ := Option.isSome_iff_exists.1 hsome
  exact ⟨first, findNamed?_eq_some_iff.1 hfirst⟩

/-- Nothing is found by a name that no declaration has. -/
theorem findNamed?_eq_none {name : Text}
    (h : ∀ decl ∈ crate.ofKind kind, decl.name.joined ≠ name) :
    crate.findNamed? kind name = none := by
  rw [findNamed?, List.find?_eq_none]
  intro decl hdecl
  simpa using h decl hdecl

/-- A selector that is not all digits is a name. -/
theorem select_of_name {selector : Text} (h : Text.allShowDigits selector = false) :
    crate.select kind selector = .ok (crate.findNamed? kind selector) := by
  rw [select, h]
  rfl

/-! ## Selections -/

/-- The numeral of the identifier of a declaration finds the declaration. -/
theorem Numbered.select_decimal (h : crate.Numbered) {decl : Declaration}
    (hdecl : decl ∈ crate.ofKind kind) (hid : 0 ≤ decl.id) :
    crate.select kind (Text.decimal decl.id) = .ok (some decl) := by
  have hshows : Text.allShowDigits (Text.decimal decl.id) = true :=
    Text.allShowDigits_of_isDigits (Text.isDigits_decimal hid)
  have hread : Text.readInteger (Text.decimal decl.id) = .ok decl.id :=
    Text.readInteger_eq_ok_iff.2 (Text.integerLiteral_decimal (h.withinLimit kind decl hdecl))
  rw [select_of_readInteger hshows hread, h.keyed.find?_eq_some_iff.2 ⟨hdecl, rfl⟩]

/-- A number that is no identifier finds nothing. -/
theorem Numbered.select_of_isDigits (h : crate.Numbered) {selector : Text}
    (hdigits : Text.IsDigits selector) (hlimit : selector.length ≤ Text.digitLimit)
    (hids : ∀ decl ∈ crate.ofKind kind, decl.id ≠ Text.numberOf selector.toList) :
    crate.select kind selector = .ok none := by
  rw [select_of_readInteger (Text.allShowDigits_of_isDigits hdigits)
    (Text.readInteger_of_isDigits hdigits hlimit), h.keyed.find?_eq_none hids]

/-- A name that is not all digits finds the first declaration with it. -/
theorem select_joined {decl : Declaration} (hdecl : decl ∈ crate.ofKind kind)
    (hname : Text.allShowDigits decl.name.joined = false) :
    ∃ first, crate.FirstNamed kind decl.name.joined first ∧
      crate.select kind decl.name.joined = .ok (some first) ∧
      (((crate.ofKind kind).map fun other => other.name.joined).Nodup → first = decl) := by
  obtain ⟨first, hfirst⟩ := exists_firstNamed hdecl
  refine ⟨first, hfirst, ?_, fun hnodup => ?_⟩
  · rw [select_of_name hname, findNamed?_eq_some_iff.2 hfirst]
  · exact List.inj_on_of_nodup_map hnodup hfirst.mem hdecl hfirst.named

/-- An ASCII text that is neither a number nor a name finds nothing. -/
theorem select_of_not_isDigits {selector : Text} (hascii : Text.IsAscii selector)
    (hdigits : ¬ Text.IsDigits selector)
    (hnames : ∀ decl ∈ crate.ofKind kind, decl.name.joined ≠ selector) :
    crate.select kind selector = .ok none := by
  have hname : Text.allShowDigits selector = false := by
    rw [Bool.eq_false_iff]
    exact fun h => hdigits (Text.isDigits_of_allShowDigits hascii h)
  rw [select_of_name hname, findNamed?_eq_none hnames]

/-! ## The symbol table -/

/-- A line of the symbol table that shows a declaration: its identifier, blanks and its qualified
name. -/
def ShowsSymbol (line : Text) (decl : Declaration) : Prop :=
  ∃ blanks : Text, (∀ c ∈ blanks.toList, c = ' ') ∧
    line = "    " ++ Text.decimal decl.id ++ blanks ++ " " ++ decl.name.joined ++ decl.mark

/-- The line of a declaration shows it. -/
theorem showsSymbol_symbolLine (decl : Declaration) : ShowsSymbol (symbolLine decl) decl := by
  refine ⟨Text.ofList (List.replicate (4 - (Text.decimal decl.id).length) ' '), ?_, ?_⟩
  · exact fun c hc => List.eq_of_mem_replicate hc
  · simp only [symbolLine, padRight, Text.append_assoc]

/-- The heading of a kind of declarations in the symbol table. -/
def headingOf : DeclKind → Text
  | .type => "  types:"
  | .global => "  globals:"
  | .function => "  functions:"

/-- The lines of the symbol table for the declarations of a kind: a heading, and behind it one line
for each of them in the order of their table. -/
inductive ListsKind (crate : Crate) (kind : DeclKind) : List Text → Prop where
  | none (h : crate.ofKind kind = []) : ListsKind crate kind [headingOf kind, "    <none>"]
  | some {lines : List Text} (h : crate.ofKind kind ≠ [])
      (hlines : List.Forall₂ ShowsSymbol lines (crate.ofKind kind)) :
      ListsKind crate kind (headingOf kind :: lines)

/-- A group of the symbol table lists the declarations of its kind. -/
theorem listsKind_symbolGroup (crate : Crate) {kind : DeclKind} {heading : Text}
    (hheading : headingOf kind = "  " ++ heading ++ ":") :
    crate.ListsKind kind (symbolGroup heading (crate.ofKind kind)) := by
  rw [symbolGroup, ← hheading]
  split_ifs with hnone
  · exact .none (List.isEmpty_iff.1 hnone)
  · refine .some (by simpa using hnone) (List.forall₂_map_left_iff.2 ?_)
    exact List.forall₂_same.2 fun decl _ => showsSymbol_symbolLine decl

/-- The symbol table lists each declaration with its identifier and its qualified name, the types
first and the functions last. -/
theorem symbols_lists (crate : Crate) :
    ∃ types globals functions, crate.ListsKind .type types ∧ crate.ListsKind .global globals ∧
      crate.ListsKind .function functions ∧
      crate.symbols = Text.intercalate "\n"
        (("=== crate " ++ crate.shownName ++ " ===") :: (types ++ globals ++ functions)) :=
  ⟨_, _, _, crate.listsKind_symbolGroup rfl, crate.listsKind_symbolGroup rfl,
    crate.listsKind_symbolGroup rfl, rfl⟩

/-- The symbol table lists the declarations of each kind. -/
theorem exists_listsKind (crate : Crate) (kind : DeclKind) :
    ∃ before lines after, crate.ListsKind kind lines ∧
      crate.symbols = Text.intercalate "\n" (before ++ lines ++ after) := by
  obtain ⟨types, globals, functions, htypes, hglobals, hfunctions, hsymbols⟩ :=
    crate.symbols_lists
  generalize ("=== crate " : Text) ++ crate.shownName ++ " ===" = title at hsymbols
  cases kind with
  | type => exact ⟨[title], types, globals ++ functions, htypes, by simp [hsymbols]⟩
  | global => exact ⟨title :: types, globals, functions, hglobals, by simp [hsymbols]⟩
  | function => exact ⟨title :: (types ++ globals), functions, [], hfunctions, by simp [hsymbols]⟩

end Crate

/-! ## Runs for a selector -/

namespace Invocation

variable {σ : Type} {invocation : Invocation} {system : System σ} {state : σ} {options : Options}
  {crate : Crate}

/-- The crate that a run works on was loaded from a file. -/
theorem WorksOn.loaded (h : invocation.WorksOn system state options crate) : crate.Loaded := by
  obtain ⟨loaded, hloaded, hcrate⟩ := h
  split_ifs at hcrate
  · exact .rewritten (.file hloaded) hcrate
  · rw [hcrate]
    exact .file hloaded

/-- As soon as there is a crate to work on, a run does what it is asked for. -/
theorem make_of_worksOn (hoptions : invocation.options system.hasRoom = .ok options)
    (h : invocation.WorksOn system state options crate) :
    ∃ log, (invocation.make system state).log
        = log ++ (perform options crate invocation.task).log ∧
      (invocation.make system state).outcome
        = (perform options crate invocation.task).outcome := by
  obtain ⟨loaded, hloaded, hcrate⟩ := h
  rw [← outcome_loadCrate_eq_ok_iff] at hloaded
  rw [← outcome_prepare_eq_ok_iff] at hcrate
  have hfirst : (Logged.ofExcept ((invocation.options system.hasRoom).mapError fun error =>
      Ending.aborted (.indent error))).outcome = .ok options := by
    rw [hoptions]
    rfl
  refine ⟨(invocation.loadCrate (invocation.content system state)).log
    ++ (invocation.prepare options loaded).log, ?_, ?_⟩
  · rw [make, produce, Logged.log_bind_of_ok hfirst, Logged.log_bind_of_ok hloaded,
      Logged.log_bind_of_ok hcrate, List.append_assoc]
    rfl
  · rw [make, produce, Logged.outcome_bind, hfirst, ok_bind, Logged.outcome_bind, hloaded, ok_bind,
      Logged.outcome_bind, hcrate, ok_bind]

/-- A run ends with a message and status 1; it has shown nothing and left all files as they were. -/
def GivesUp (invocation : Invocation) (system : System σ) (state : σ) (message : Text) : Prop :=
  ∃ log, invocation.execute system state = ⟨log ++ [⟨.error, message⟩], "", state, .status 1⟩

/-- A run whose text is not made gives up with the message for that. -/
theorem givesUp_of_make {message : Text}
    (h : ∃ log, (invocation.make system state).log = log ++ [⟨.error, message⟩] ∧
      (invocation.make system state).outcome = .error (.status 1)) :
    invocation.GivesUp system state message := by
  obtain ⟨log, hlog, houtcome⟩ := h
  refine ⟨log, ?_⟩
  simp only [execute, houtcome, hlog]

/-- A run shows what was computed: it is asked for the text and delivers it if it can be delivered,
or it gives up with the reason why there is none. -/
structure ShowsOutcome (invocation : Invocation) (system : System σ) (state : σ)
    (outcome : Except InternalError Text) : Prop where
  renders : ∀ text, invocation.Renders system state text ↔ outcome = .ok text
  delivers : ∀ text, outcome = .ok text → (invocation.execute system state).ending = .status 0 →
    invocation.Delivers system state text (invocation.execute system state)
  ends : ∀ text, outcome = .ok text →
    ((invocation.execute system state).ending = .status 0 ↔
      invocation.CanDeliver system state text)
  givesUp : ∀ error, outcome = .error error → invocation.GivesUp system state error.format

variable {kind : DeclKind} {selector : Text}

/-- What is found is shown as the declaration with its identifier. -/
theorem showsOutcome_of_select (htask : invocation.task = .one kind (some selector))
    (hoptions : invocation.options system.hasRoom = .ok options)
    (hworks : invocation.WorksOn system state options crate)
    {decl : Declaration} (h : crate.select kind selector = .ok (some decl)) :
    invocation.ShowsOutcome system state (crate.renderOne options kind decl.id) := by
  obtain ⟨log, hlog, houtcome⟩ := make_of_worksOn hoptions hworks
  have hperform : perform options crate invocation.task
      = orGiveUp (Logged.ofExcept (crate.renderOne options kind decl.id)) := by
    simp only [htask, perform, showOne, h]
  rw [hperform] at hlog houtcome
  have hrenders (text : Text) : invocation.Renders system state text ↔
      crate.renderOne options kind decl.id = .ok text := by
    rw [← outcome_make_eq_ok_iff, houtcome, outcome_orGiveUp_eq_ok_iff]
    rfl
  refine ⟨hrenders, fun text htext => delivers_of_renders ((hrenders text).2 htext),
    fun text htext => ending_eq_zero_iff ((hrenders text).2 htext), fun error herror => ?_⟩
  rw [herror] at hlog houtcome
  exact givesUp_of_make ⟨log, hlog, houtcome⟩

/-- When nothing is found, a run gives up. -/
theorem givesUp_of_select (htask : invocation.task = .one kind (some selector))
    (hoptions : invocation.options system.hasRoom = .ok options)
    (hworks : invocation.WorksOn system state options crate)
    (h : crate.select kind selector = .ok none) :
    invocation.GivesUp system state
      ("error: [LLP-0020] no " ++ kind.word ++ " declaration named '" ++ selector ++ "'") := by
  obtain ⟨log, hlog, houtcome⟩ := make_of_worksOn hoptions hworks
  simp only [htask, perform, showOne, h] at hlog houtcome
  exact givesUp_of_make ⟨log, hlog, houtcome⟩

/-- Selection finds what the symbol table lists, which is each declaration of a kind with its
identifier and its qualified name, in the order of their table.

In a crate that was loaded, the numeral of the identifier of a declaration finds the declaration.
A name that is not all digits finds the first declaration with it, which is the only one when no two
have the same name.  A number that is no identifier finds nothing, and neither does an ASCII text
that is neither a number nor a name.

The crate that a run works on was loaded.  A declaration that is found is shown as the declaration
with its identifier, and when nothing is found the run gives up.  This is so on every system. -/
theorem selection_finds_listed (kind : DeclKind) :
    (∀ crate : Crate, ∃ before lines after, crate.ListsKind kind lines ∧
      crate.symbols = Text.intercalate "\n" (before ++ lines ++ after)) ∧
    (∀ crate : Crate, crate.Loaded →
      (∀ decl ∈ crate.ofKind kind, 0 ≤ decl.id →
        crate.select kind (Text.decimal decl.id) = .ok (some decl)) ∧
      (∀ decl ∈ crate.ofKind kind, Text.allShowDigits decl.name.joined = false →
        ∃ first, crate.FirstNamed kind decl.name.joined first ∧
          crate.select kind decl.name.joined = .ok (some first) ∧
          (((crate.ofKind kind).map fun other => other.name.joined).Nodup → first = decl)) ∧
      ∀ selector, Text.IsAscii selector → selector.length ≤ Text.digitLimit →
        (Text.IsDigits selector ∧
            (∀ decl ∈ crate.ofKind kind, decl.id ≠ Text.numberOf selector.toList) ∨
          ¬ Text.IsDigits selector ∧
            ∀ decl ∈ crate.ofKind kind, decl.name.joined ≠ selector) →
        crate.select kind selector = .ok none) ∧
    ∀ (σ : Type) (system : System σ) (state : σ) (invocation : Invocation) (options : Options)
      (crate : Crate) (selector : Text), invocation.task = .one kind (some selector) →
      invocation.options system.hasRoom = .ok options →
      invocation.WorksOn system state options crate →
      crate.Loaded ∧
      (∀ decl, crate.select kind selector = .ok (some decl) →
        invocation.ShowsOutcome system state (crate.renderOne options kind decl.id)) ∧
      (crate.select kind selector = .ok none → invocation.GivesUp system state
        ("error: [LLP-0020] no " ++ kind.word ++ " declaration named '" ++ selector ++ "'")) := by
  refine ⟨fun crate => crate.exists_listsKind kind, ?_, ?_⟩
  · intro crate hcrate
    refine ⟨fun decl => hcrate.numbered.select_decimal, fun decl => Crate.select_joined, ?_⟩
    rintro selector hascii hlimit (⟨hdigits, hids⟩ | ⟨hdigits, hnames⟩)
    · exact hcrate.numbered.select_of_isDigits hdigits hlimit hids
    · exact Crate.select_of_not_isDigits hascii hdigits hnames
  · intro σ system state invocation options crate selector htask hoptions hworks
    exact ⟨hworks.loaded, fun decl => showsOutcome_of_select htask hoptions hworks,
      givesUp_of_select htask hoptions hworks⟩

end Invocation

/-- A tree with a crate file that declares two types, whose names look the same when their parts
are joined. -/
def Disk.withTwoTypes : Disk :=
  .withCrateFile
    ("\x7b\"types\": [\x7b\"def_id\": 7, \"name\": [\"A\", \"B\"], \"kind\": \"Opaque\"\x7d, "
      ++ "\x7b\"def_id\": 10, \"name\": [\"A::B\"], \"kind\": \"Opaque\"\x7d]\x7d")

/-- The second type is found by its identifier only, since its name finds the first one. -/
theorem Invocation.selection_among_twoTypes :
    ∃ options crate first second,
      (forOne .type "10").WorksOn Disk.plainSystem Disk.withTwoTypes options crate ∧
      crate.ofKind .type = [first, second] ∧
      crate.select .type "10" = .ok (some second) ∧
      crate.select .type "A::B" = .ok (some first) ∧
      (forOne .type "10").ShowsOutcome Disk.plainSystem Disk.withTwoTypes
        (crate.renderOne options .type second.id) ∧
      (forOne .type "9").GivesUp Disk.plainSystem Disk.withTwoTypes
        "error: [LLP-0020] no type declaration named '9'" := by
  have hlisted : (Crate.load (Path.parse "demo.llbc").shown
      ((forOne .type "").content Disk.plainSystem Disk.withTwoTypes)).outcome.toOption.map
        (fun crate => (crate.ofKind .type).map fun decl => (decl.id, decl.name.joined))
      = some [(7, ("A::B" : Text)), (10, ("A::B" : Text))] := by decide +kernel
  obtain ⟨options, hoptions⟩ :
      ∃ options, (forOne .type "10").options Disk.plainSystem.hasRoom = .ok options := ⟨_, rfl⟩
  obtain ⟨crate, hcrate, hdecls⟩ := Option.map_eq_some_iff.1 hlisted
  obtain ⟨first, rest, hkind, hfirst, hrest⟩ := List.map_eq_cons_iff.1 hdecls
  obtain ⟨second, rfl, hsecond⟩ := List.map_eq_singleton_iff.1 hrest
  obtain ⟨hfirstId, hfirstName⟩ := Prod.mk.inj hfirst
  obtain ⟨hsecondId, hsecondName⟩ := Prod.mk.inj hsecond
  have hmem : second ∈ crate.ofKind .type := by simp [hkind]
  have hworks (selector : Text) :
      (forOne .type selector).WorksOn Disk.plainSystem Disk.withTwoTypes options crate :=
    ⟨crate, toOption_eq_some_iff.1 hcrate, rfl⟩
  obtain ⟨-, hfinds, hruns⟩ := selection_finds_listed .type
  obtain ⟨hloaded, hshows, -⟩ :=
    hruns Disk Disk.plainSystem _ (forOne .type "10") options crate "10" rfl hoptions (hworks _)
  obtain ⟨-, -, hgivesUp⟩ :=
    hruns Disk Disk.plainSystem _ (forOne .type "9") options crate "9" rfl hoptions (hworks _)
  obtain ⟨hnumber, hnamed, hnothing⟩ := hfinds crate hloaded
  have hten : crate.select .type "10" = .ok (some second) := by
    have hfound := hnumber second hmem (by rw [hsecondId]; decide)
    rwa [hsecondId] at hfound
  have hname : crate.select .type "A::B" = .ok (some first) := by
    obtain ⟨found, ⟨-, before, after, hsplit, hbefore⟩, hfound, -⟩ :=
      hnamed second hmem (by rw [hsecondName]; decide)
    rw [hsecondName] at hfound hbefore
    rw [hkind] at hsplit
    cases before with
    | nil =>
        obtain ⟨rfl, -⟩ := List.cons_eq_cons.1 hsplit
        exact hfound
    | cons other others =>
        obtain ⟨rfl, -⟩ := List.cons_eq_cons.1 hsplit
        exact absurd hfirstName (hbefore _ List.mem_cons_self)
  have hnine : crate.select .type "9" = .ok none := by
    refine hnothing "9" (by decide) (by decide) (Or.inl ⟨by decide, ?_⟩)
    simp only [hkind, List.forall_mem_cons, hfirstId, hsecondId]
    exact ⟨by decide, by decide, List.forall_mem_nil _⟩
  exact ⟨options, crate, first, second, hworks _, hkind, hten, hname, hshows second hten,
    hgivesUp hnine⟩

end CrateListing
