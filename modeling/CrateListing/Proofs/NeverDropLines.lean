import CrateListing.Proofs.Listing
import CrateListing.Proofs.Dependence
import CrateListing.Proofs.NeverDropPass
import Mathlib.Data.List.Forall2

/-!
# The listing of a crate before and after the pass

The pass that removes drops of variables of type `!` does not show in the listing
of a crate but for the lines of these drops, each of which then has a `nop`.  What
could not be listed before the pass cannot be listed after it, for the same reason.
The names that a declaration refers to are the same in both crates; so functions
are compared in one scope, line by line.

Main definitions:

- `Text.lines`: the lines of a text.
- `LineChange`: what happens to a line.
- `FunDecl.ShowsNeverDrop`: the texts of the drops that are replaced.

Main results:

- Theorem `Statement.changed_lines`: the lines of a statement with some leaves replaced.
- Theorem `Layout.Changed.related_render`: changed lines are laid out in the same way.
- Theorem `FunDecl.related_render`: a function before and after the pass.
- Theorem `Declaration.render_in_withoutNeverDrops`: one declaration in both crates.
-/

namespace CrateListing

open Outcome

/-! ## The lines of a text -/

/-- Splitting behind a text without the separator: only the last part grows. -/
theorem splitOn_append_of_notMem {c : CodePoint} {chars : List CodePoint} (h : c ∉ chars) :
    (front : List CodePoint) →
      (front ++ chars).splitOn c
        = (front.splitOn c).dropLast ++ [(front.splitOn c).getLastD [] ++ chars]
  | [] => by
      have hone : chars.splitOn c = [chars] := List.splitOn_eq_singleton h
      simp [hone]
  | d :: front => by
      have ih := splitOn_append_of_notMem h front
      obtain ⟨first, rest, hparts⟩ := List.exists_cons_of_ne_nil (List.splitOn_ne_nil c front)
      rw [hparts] at ih
      rw [List.cons_append, List.splitOn_cons_eq_if_modifyHead,
        List.splitOn_cons_eq_if_modifyHead, ih, hparts]
      by_cases hd : (d == c) = true
      · cases rest <;> simp [hd]
      · cases rest <;> simp [hd]

namespace Text

/-- The lines of a text. -/
def lines (text : Text) : List Text :=
  text.split '\n'

/-- The lines of a text are what stands between its line ends. -/
theorem lines_eq_splitOn (text : Text) :
    lines text = (text.toList.splitOn (.char '\n')).map Text.ofList :=
  rfl

/-- The last line of a text. -/
def lastLine (text : Text) : Text :=
  (lines text).getLastD ""

/-- The last line of a text is what stands behind its last line end. -/
theorem lastLine_eq_splitOn (text : Text) :
    lastLine text = Text.ofList ((text.toList.splitOn (.char '\n')).getLastD []) := by
  rw [lastLine, lines_eq_splitOn]
  obtain ⟨front, last, hparts⟩ := List.eq_nil_or_concat (text.toList.splitOn (.char '\n'))
    |>.resolve_left (List.splitOn_ne_nil _ _)
  simp [hparts]

/-- Texts with a line end between them. -/
theorem lines_append_newline (above below : Text) :
    lines (above ++ "\n" ++ below) = lines above ++ lines below := by
  have hchars : (above ++ "\n" ++ below).toList = above.toList ++ .char '\n' :: below.toList := by
    simp
  rw [lines_eq_splitOn, lines_eq_splitOn, lines_eq_splitOn, hchars,
    List.splitOn_append_cons_self, List.map_append]

/-- What stands on one line is behind the last line of the text in front of it. -/
theorem lines_append_of_oneLine (front : Text) {text : Text} (h : OneLine text) :
    lines (front ++ text) = (lines front).dropLast ++ [lastLine front ++ text] := by
  rw [lines_eq_splitOn, lines_eq_splitOn, lastLine_eq_splitOn, Text.toList_append,
    splitOn_append_of_notMem h, List.map_append, List.map_dropLast]
  simp [← Text.toList_inj]

/-- Two texts have the same number of lines, and their lines stand in a relation one by one. -/
def LineWise (R : Text → Text → Prop) (first second : Text) : Prop :=
  List.Forall₂ R (lines first) (lines second)

/-- A text is related to itself when each line is. -/
theorem LineWise.refl {R : Text → Text → Prop} (hR : ∀ line, R line line) (text : Text) :
    LineWise R text text :=
  List.forall₂_same.2 fun line _ => hR line

/-- Texts that are related line by line stay so below each other. -/
theorem LineWise.append_newline {R : Text → Text → Prop} {above higher below under : Text}
    (habove : LineWise R above higher) (hbelow : LineWise R below under) :
    LineWise R (above ++ "\n" ++ below) (higher ++ "\n" ++ under) := by
  rw [LineWise, lines_append_newline, lines_append_newline]
  exact List.rel_append habove hbelow

end Text

/-! ## Lines in which a leaf is replaced -/

/-- The indentation of a line: what stands in front of it behind the last line end. -/
def Layout.indentation (indent step : Text) (depth : Nat) : Text :=
  Text.lastLine (Layout.indented indent step depth "")

/-- Steps without line ends stand in front of a line as they are. -/
theorem Layout.indentation_of_oneLine {indent step : Text} (hindent : OneLine indent)
    (hstep : OneLine step) (depth : Nat) :
    Layout.indentation indent step depth = Layout.indented indent step depth "" := by
  have hfront : OneLine (Layout.indented indent step depth "") :=
    Layout.oneLine_indented hindent hstep (by decide) depth
  rw [Layout.indentation, Text.lastLine_eq_splitOn, List.splitOn_eq_singleton hfront]
  simp

/-- A line of a text is kept, or it shows a leaf that is replaced and has a `nop` in its place,
with the same indentation and the same semicolon. -/
inductive LineChange (Shows : Text → Prop) (indent step : Text) : Text → Text → Prop where
  | kept (line : Text) : LineChange Shows indent step line line
  | replaced {text mark : Text} (depth : Nat) (htext : Shows text)
      (hmark : mark = "" ∨ mark = ";") :
      LineChange Shows indent step (Layout.indentation indent step depth ++ text ++ mark)
        (Layout.indentation indent step depth ++ "nop" ++ mark)

/-- A line of a statement is kept, or it shows a leaf that is replaced, with a mark behind it. -/
inductive Line.Change (Shows : Text → Prop) (mark : Text) : Line → Line → Prop where
  | kept (line : Line) : Line.Change Shows mark line line
  | replaced {text : Text} (depth : Nat) (htext : Shows text) :
      Line.Change Shows mark ⟨depth, .ok (text ++ mark)⟩ ⟨depth, .ok ("nop" ++ mark)⟩

/-- A line of a statement is kept, or it shows a leaf that is replaced. -/
def Line.MarkedChange (Shows : Text → Prop) (old new : Line) : Prop :=
  Line.Change Shows "" old new ∨ Line.Change Shows ";" old new

/-- Lines that are changed one by one.  The last line has no semicolon: there is nothing behind
it yet. -/
inductive Layout.Changed (Shows : Text → Prop) : List Line → List Line → Prop where
  | last {old new : Line} (h : Line.Change Shows "" old new) : Layout.Changed Shows [old] [new]
  | cons {old new : Line} {lines others : List Line} (h : Line.MarkedChange Shows old new)
      (hlines : Layout.Changed Shows lines others) :
      Layout.Changed Shows (old :: lines) (new :: others)

section Changes

variable {Shows : Text → Prop}

/-- A line that is kept is no change of its mark. -/
theorem Line.MarkedChange.refl (line : Line) : Line.MarkedChange Shows line line :=
  Or.inl (.kept line)

/-- A change of a line is one at any depth. -/
theorem Line.Change.deeper {mark : Text} {old new : Line} (h : Line.Change Shows mark old new) :
    Line.Change Shows mark old.deeper new.deeper := by
  cases h with
  | kept => exact .kept _
  | replaced depth htext => exact .replaced (depth + 1) htext

/-- A change of a line is one at any depth. -/
theorem Line.MarkedChange.deeper {old new : Line} (h : Line.MarkedChange Shows old new) :
    Line.MarkedChange Shows old.deeper new.deeper :=
  h.imp Line.Change.deeper Line.Change.deeper

/-- A change of a line is one with a mark at its end. -/
theorem Line.Change.endedBy {old new : Line} (h : Line.Change Shows "" old new) (mark : Text) :
    Line.Change Shows mark (old.endedBy mark) (new.endedBy mark) := by
  cases h with
  | kept => exact .kept _
  | replaced depth htext =>
      simp only [Line.endedBy, Except.map, Text.append_empty]
      exact .replaced depth htext

namespace Layout

/-- There are lines before and after a change. -/
theorem Changed.ne_nil {lines others : List Line} (h : Changed Shows lines others) :
    lines ≠ [] ∧ others ≠ [] := by
  cases h <;> simp

/-- Changed lines correspond to each other one by one. -/
theorem Changed.forall₂ {lines others : List Line} (h : Changed Shows lines others) :
    List.Forall₂ (Line.MarkedChange Shows) lines others := by
  induction h with
  | last h => exact .cons (Or.inl h) .nil
  | cons h _ ih => exact .cons h ih

/-- A semicolon goes behind a last line that had none. -/
theorem Changed.endedBy {lines others : List Line} (h : Changed Shows lines others) :
    List.Forall₂ (Line.MarkedChange Shows) (endedBy ";" lines) (endedBy ";" others) := by
  induction h with
  | last h => exact .cons (Or.inr (h.endedBy ";")) .nil
  | @cons old new lines others h hlines ih =>
      obtain ⟨next, more, rfl⟩ := List.exists_cons_of_ne_nil hlines.ne_nil.1
      obtain ⟨following, rest, rfl⟩ := List.exists_cons_of_ne_nil hlines.ne_nil.2
      exact .cons h ih

/-- Lines above changed ones are changed with them. -/
theorem changed_append {above higher below under : List Line}
    (habove : List.Forall₂ (Line.MarkedChange Shows) above higher)
    (hbelow : Changed Shows below under) : Changed Shows (above ++ below) (higher ++ under) := by
  induction habove with
  | nil => exact hbelow
  | cons h _ ih => exact .cons h ih

/-- The heading and the closing brace of a block are kept. -/
theorem changed_block (heading : Except InternalError Text) {inside body : List Line}
    (h : Changed Shows inside body) :
    Changed Shows (block heading inside) (block heading body) := by
  have hdeeper : List.Forall₂ (Line.MarkedChange Shows) (inside.map Line.deeper)
      (body.map Line.deeper) := by
    rw [List.forall₂_map_left_iff, List.forall₂_map_right_iff]
    exact h.forall₂.imp fun _ _ hline => hline.deeper
  exact .cons (.refl _) (changed_append hdeeper (.last (.kept _)))

/-! ## Laying changed lines out -/

/-- A text is kept or changed line by line, if what is replaced stands on one line. -/
def TextChange (Shows : Text → Prop) (indent step old new : Text) : Prop :=
  (∀ text, Shows text → OneLine text) → Text.LineWise (LineChange Shows indent step) old new

/-- A text that is kept is unchanged. -/
theorem TextChange.refl (indent step text : Text) : TextChange Shows indent step text text :=
  fun _ => .refl .kept text

/-- Changes of texts are put together below each other. -/
theorem TextChange.append_newline {indent step above higher below under : Text}
    (habove : TextChange Shows indent step above higher)
    (hbelow : TextChange Shows indent step below under) :
    TextChange Shows indent step (above ++ "\n" ++ below) (higher ++ "\n" ++ under) :=
  fun hshows => (habove hshows).append_newline (hbelow hshows)

/-- A line that shows a drop becomes one with a nop, behind the same indentation. -/
theorem textChange_indented {indent step text mark : Text} (depth : Nat) (htext : Shows text)
    (hmark : mark = "" ∨ mark = ";") :
    TextChange Shows indent step (indented indent step depth (text ++ mark))
      (indented indent step depth ("nop" ++ mark)) := by
  intro hshows
  have hmarkLine : OneLine mark := by
    rcases hmark with rfl | rfl <;> decide
  have hold : OneLine (text ++ mark) := (oneLine_append text mark).2 ⟨hshows text htext, hmarkLine⟩
  have hnew : OneLine ("nop" ++ mark) := (oneLine_append "nop" mark).2 ⟨by decide, hmarkLine⟩
  have hfront : ∀ shown, indented indent step depth shown
      = indented indent step depth "" ++ shown := by
    intro shown
    simp [indented]
  rw [Text.LineWise, hfront (text ++ mark), hfront ("nop" ++ mark),
    Text.lines_append_of_oneLine _ hold, Text.lines_append_of_oneLine _ hnew]
  refine List.rel_append (List.forall₂_same.2 fun line _ => .kept line) (.cons ?_ .nil)
  rw [← Text.append_assoc, ← Text.append_assoc]
  exact .replaced depth htext hmark

/-- What is shown of a changed line is changed, with the same errors. -/
theorem related_shown (indent step : Text) {mark : Text} (hmark : mark = "" ∨ mark = ";")
    {old new : Line} (h : Line.Change Shows mark old new) :
    Related (TextChange Shows indent step) (shown indent step old) (shown indent step new) := by
  cases h with
  | kept => exact .refl (TextChange.refl indent step) _
  | replaced depth htext => exact .ok (textChange_indented depth htext hmark)

/-- Changed lines are laid out in the same way, or fail in the same way. -/
theorem Changed.related_render {indent step : Text} {lines others : List Line}
    (h : Changed Shows lines others) :
    Related (TextChange Shows indent step) (render indent step lines)
      (render indent step others) := by
  induction h with
  | last h =>
      rw [render_singleton, render_singleton]
      exact related_shown indent step (Or.inl rfl) h
  | cons h hlines ih =>
      rw [render_cons indent step _ hlines.ne_nil.1, render_cons indent step _ hlines.ne_nil.2]
      have hline := h.elim (related_shown indent step (Or.inl rfl))
        (related_shown indent step (Or.inr rfl))
      refine hline.bind fun above higher habove => ih.bind fun below under hbelow => ?_
      exact .ok (habove.append_newline hbelow)

end Layout

/-! ## Statements -/

/-- Each leaf is kept, or it can be shown and is replaced by a `nop`. -/
def KeptOrReplaced (Shows : Text → Prop) (scope : Scope) (f : Action → Action)
    (leaves : List Leaf) : Prop :=
  ∀ leaf ∈ leaves, f leaf.action = leaf.action ∨
    ∃ text, Shows text ∧ leaf.action.render scope = .ok text ∧ f leaf.action = .nop

/-- The leaves of two lists are kept or replaced when those of each are. -/
theorem keptOrReplaced_append {scope : Scope} {f : Action → Action} {above below : List Leaf} :
    KeptOrReplaced Shows scope f (above ++ below) ↔
      KeptOrReplaced Shows scope f above ∧ KeptOrReplaced Shows scope f below :=
  List.forall_mem_append

variable {scope : Scope} {f : Action → Action}

mutual
/-- A statement with some leaves replaced has the same lines but for those of these leaves. -/
theorem Statement.changed_lines :
    (statement : Statement) → KeptOrReplaced Shows scope f statement.leaves →
      Layout.Changed Shows (statement.lines scope) ((statement.mapActions f).lines scope)
  | .mk span content, h => by
      rw [Statement.leaves] at h
      rw [Statement.mapActions, Statement.lines, Statement.lines]
      exact Content.changed_lines content h

/-- The lines of a content are changed where its leaves are. -/
theorem Content.changed_lines {span : Option Span} :
    (content : Content) → KeptOrReplaced Shows scope f (content.leaves span) →
      Layout.Changed Shows (content.lines scope) ((content.mapActions f).lines scope)
  | .action action, h => by
      rw [Content.mapActions, Content.lines, Content.lines]
      rcases h ⟨span, action⟩ List.mem_cons_self with hkept | ⟨text, htext, hshown, hnop⟩
      · simp only at hkept
        rw [hkept]
        exact .last (.kept _)
      · simp only at hshown hnop
        have hreplaced : Line.Change Shows "" ⟨0, .ok (text ++ "")⟩ ⟨0, .ok ("nop" ++ "")⟩ :=
          .replaced 0 htext
        rw [Text.append_empty, Text.append_empty] at hreplaced
        rw [hshown, hnop]
        exact .last hreplaced
  | .sequence first second, h => by
      rw [Content.leaves, keptOrReplaced_append] at h
      rw [Content.mapActions, Content.lines, Content.lines]
      exact Layout.changed_append (Statement.changed_lines first h.1).endedBy
        (Statement.changed_lines second h.2)
  | .switch switch, h => by
      rw [Content.leaves] at h
      rw [Content.mapActions, Content.lines, Content.lines]
      exact Switch.changed_lines switch h
  | .loop body, h => by
      rw [Content.leaves] at h
      rw [Content.mapActions, Content.lines, Content.lines]
      exact Layout.changed_block _ (Statement.changed_lines body h)

/-- The lines of a switch are changed where its leaves are. -/
theorem Switch.changed_lines :
    (switch : Switch) → KeptOrReplaced Shows scope f switch.leaves →
      Layout.Changed Shows (switch.lines scope) ((switch.mapActions f).lines scope)
  | .branch condition onTrue onFalse, h => by
      rw [Switch.leaves, keptOrReplaced_append] at h
      rw [Switch.mapActions, Switch.lines, Switch.lines]
      exact Layout.changed_append
        (Layout.changed_block _ (Statement.changed_lines onTrue h.1)).forall₂
        (Layout.changed_block _ (Statement.changed_lines onFalse h.2))
  | .integer operand type branches otherwise, h => by
      rw [Switch.leaves, keptOrReplaced_append] at h
      rw [Switch.mapActions, Switch.lines, Switch.lines]
      refine Layout.changed_block _ (Layout.changed_append ?_ ?_)
      · exact Switch.changed_integerLines branches h.1
      · exact Layout.changed_block _ (Statement.changed_lines otherwise h.2)
  | .variant place branches otherwise, h => by
      rw [Switch.leaves, keptOrReplaced_append] at h
      rw [Switch.mapActions, Switch.lines, Switch.lines]
      refine Layout.changed_block _ (Layout.changed_append ?_ ?_)
      · exact Switch.changed_variantLines branches h.1
      · exact Layout.changed_block _ (Statement.changed_lines otherwise h.2)

/-- The lines of clauses on integers are changed where their leaves are. -/
theorem Switch.changed_integerLines :
    (branches : List (List Scalar × Statement)) →
      KeptOrReplaced Shows scope f (Switch.integerLeaves branches) →
        List.Forall₂ (Line.MarkedChange Shows) (Switch.integerLines scope branches)
          (Switch.integerLines scope (Switch.mapIntegerBranches f branches))
  | [], _ => .nil
  | (labels, body) :: rest, h => by
      rw [Switch.integerLeaves, keptOrReplaced_append] at h
      rw [Switch.mapIntegerBranches, Switch.integerLines, Switch.integerLines]
      exact List.rel_append (Layout.changed_block _ (Statement.changed_lines body h.1)).forall₂
        (Switch.changed_integerLines rest h.2)

/-- The lines of clauses on variants are changed where their leaves are. -/
theorem Switch.changed_variantLines :
    (branches : List (List Int × Statement)) →
      KeptOrReplaced Shows scope f (Switch.variantLeaves branches) →
        List.Forall₂ (Line.MarkedChange Shows) (Switch.variantLines scope branches)
          (Switch.variantLines scope (Switch.mapVariantBranches f branches))
  | [], _ => .nil
  | (labels, body) :: rest, h => by
      rw [Switch.variantLeaves, keptOrReplaced_append] at h
      rw [Switch.mapVariantBranches, Switch.variantLines, Switch.variantLines]
      exact List.rel_append (Layout.changed_block _ (Statement.changed_lines body h.1)).forall₂
        (Switch.changed_variantLines rest h.2)
end

end Changes

/-! ## The scopes before and after the pass -/

/-- A function of the rewritten crate is the rewritten function. -/
theorem Crate.find?_functions_withoutNeverDrops (crate : Crate) (id : Int) :
    crate.withoutNeverDrops.functions.find? id
      = (crate.functions.find? id).map FunDecl.withoutNeverDrops :=
  Table.find?_mapValues FunDecl.withoutNeverDrops crate.functions id

/-- The pass keeps the names of functions and everything else that a scope looks up. -/
theorem Scope.agreesOn_withoutNeverDrops (scope : Scope) (reference : Reference) :
    scope.AgreesOn { scope with crate := scope.crate.withoutNeverDrops } reference := by
  cases reference with
  | function id =>
      simp only [Scope.AgreesOn, Scope.functionName, Crate.find?_functions_withoutNeverDrops]
      cases scope.crate.functions.find? id <;> rfl
  | fields id variant => exact ⟨rfl, fun _ _ => rfl, rfl⟩
  | field id variant index => exact ⟨rfl, fun _ _ => rfl⟩
  | _ => rfl

/-- A declaration is listed in the same way in both crates. -/
theorem Declaration.render_in_withoutNeverDrops (crate : Crate) (step : Text)
    (decl : Declaration) :
    decl.render crate.withoutNeverDrops step = decl.render crate step := by
  have hagrees : (decl.scope crate).AgreesOnAll (decl.scope crate.withoutNeverDrops)
      decl.references := by
    intro reference _
    have hreference := (decl.scope crate).agreesOn_withoutNeverDrops reference
    rw [decl.crate_scope crate] at hreference
    rwa [decl.scope_eq_withCrate crate crate.withoutNeverDrops]
  rw [Declaration.render, Declaration.render, Declaration.renderIn_congr step decl hagrees]

/-- The scope of a function is not changed by the pass. -/
theorem Scope.ofFunction_withoutNeverDrops (crate : Crate) (decl : FunDecl) :
    Scope.ofFunction crate decl.withoutNeverDrops = Scope.ofFunction crate decl := by
  obtain ⟨id, name, signature, body, span⟩ := decl
  cases body <;> rfl

/-! ## Functions before and after the pass -/

/-- The texts of the drops that the pass replaces in a function. -/
def FunDecl.ShowsNeverDrop (crate : Crate) (decl : FunDecl) (text : Text) : Prop :=
  ∃ body leaf, decl.body = some body ∧ leaf ∈ body.statement.leaves ∧
    dropsNever body.locals leaf.action = true ∧
      leaf.action.render (Scope.ofFunction crate decl) = .ok text

/-- A drop that is replaced shows the name of a local. -/
theorem exists_shown_of_dropsNever {locals : List Local} {action : Action}
    (h : dropsNever locals action = true) :
    ∃ var ∈ locals, ∀ scope : Scope, scope.locals = Table.ofItems Local.index locals →
      action.render scope = .ok ("drop " ++ var.shown) := by
  unfold dropsNever at h
  split at h
  · rename_i root
    cases hvar : localWith? locals root with
    | none =>
        rw [hvar] at h
        cases h
    | some var =>
        refine ⟨var, List.mem_reverse.1 (List.mem_of_find?_eq_some hvar), fun scope hscope => ?_⟩
        have hfind : scope.locals.find? root = some var := by
          rw [hscope, Table.find?_ofItems]
          exact hvar
        have hname : scope.localName root = .ok var.shown := by
          rw [Scope.localName, hfind]
          rfl
        simp only [Action.render, Place.render, hname, Place.renderPath, ok_bind, pure_eq_ok]
  · cases h

/-- The locals in the scope of a function are those of its body. -/
theorem Scope.locals_ofFunction {decl : FunDecl} {body : Body} (hbody : decl.body = some body)
    (crate : Crate) :
    (Scope.ofFunction crate decl).locals = Table.ofItems Local.index body.locals := by
  simp only [Scope.ofFunction, Scope.localsOf, hbody]

/-- The leaves of a function are kept by the pass, or they are drops that can be shown. -/
theorem FunDecl.keptOrReplaced {decl : FunDecl} {body : Body} (hbody : decl.body = some body)
    (crate : Crate) :
    KeptOrReplaced (decl.ShowsNeverDrop crate) (Scope.ofFunction crate decl)
      (withoutNeverDrop body.locals) body.statement.leaves := by
  intro leaf hleaf
  rw [withoutNeverDrop]
  split_ifs with hdrops
  · obtain ⟨var, _, hshown⟩ := exists_shown_of_dropsNever hdrops
    have htext := hshown (Scope.ofFunction crate decl) (Scope.locals_ofFunction hbody crate)
    exact Or.inr ⟨_, ⟨body, leaf, hbody, hleaf, hdrops, htext⟩, htext, rfl⟩
  · exact Or.inl rfl

/-- The drops that are replaced are shown on one line when the names of the locals are. -/
theorem FunDecl.ShowsNeverDrop.oneLine {crate : Crate} {decl : FunDecl} {text : Text}
    (h : decl.ShowsNeverDrop crate text)
    (hnames : ∀ var ∈ (Declaration.function decl).locals, ∀ name ∈ var.name, OneLine name) :
    OneLine text := by
  obtain ⟨body, leaf, hbody, hleaf, hdrops, htext⟩ := h
  obtain ⟨var, hvar, hshown⟩ := exists_shown_of_dropsNever hdrops
  rw [hshown _ (Scope.locals_ofFunction hbody crate)] at htext
  cases htext
  have hname : OneLine var.shown := by
    unfold Local.shown
    cases hname : var.name with
    | none =>
        have hindex := oneLine_decimal var.index
        simp +decide [hindex]
    | some name =>
        refine hnames var ?_ name hname
        simpa [Declaration.locals, hbody] using hvar
  simp +decide [hname]

/-- What stands in front of the body of a function does not depend on its statement. -/
theorem FunDecl.exists_front (decl : FunDecl) (body : Body) (scope : Scope)
    (step indent : Text) :
    ∃ front : Except InternalError Text, ∀ statement : Statement,
      ({ decl with body := some { body with statement := statement } } : FunDecl).render scope
          step indent = (do
        let above ← front
        let inside ← statement.render scope step (indent ++ step)
        return above ++ "\n" ++ inside ++ "\n" ++ (indent ++ "\x7d")) := by
  refine ⟨(do
    let result ← decl.signature.output.render scope
    let parameters ← (body.parameters.zip decl.signature.inputs).mapM (renderParameter scope)
    let locals ← body.locals.mapM (Local.render scope (indent ++ step))
    return indent ++ ("fn " ++ (decl.name.joined
        ++ genericParams decl.signature.regionParams decl.signature.typeParams)
        ++ parenthesized parameters ++ " -> " ++ result) ++ " \x7b"
        ++ (if locals.isEmpty then ("" : Text) else "\n" ++ Text.join locals)), fun statement => ?_⟩
  have hopening : (" \x7b\n" : Text) = " \x7b" ++ "\n" := by decide
  simp only [FunDecl.render, bind_assoc, pure_bind]
  refine bind_congr fun result => bind_congr fun parameters => bind_congr fun locals =>
    bind_congr fun inside => congrArg pure ?_
  cases locals with
  | nil => simp [block, hopening, Text.append_assoc]
  | cons first rest =>
      simp only [block, hopening, List.isEmpty_cons, Bool.false_eq_true, if_false,
        Text.append_assoc]

/-- A function before and after the pass: both fail with the same error, or their texts are the
same line by line but for the drops that are replaced. -/
theorem FunDecl.related_render (crate : Crate) (step : Text) (decl : FunDecl) :
    Related (Layout.TextChange (decl.ShowsNeverDrop crate) step step)
      ((Declaration.function decl).render crate step)
      ((Declaration.function decl.withoutNeverDrops).render crate.withoutNeverDrops step) := by
  rw [Declaration.render_in_withoutNeverDrops]
  refine Related.mapError ?_ _
  simp only [Declaration.renderIn, Scope.ofFunction_withoutNeverDrops]
  cases hbody : decl.body with
  | none =>
      have hsame : decl.withoutNeverDrops = decl := by
        obtain ⟨id, name, signature, body, span⟩ := decl
        cases hbody
        rfl
      rw [hsame]
      exact .refl (Layout.TextChange.refl step step) _
  | some body =>
      obtain ⟨front, hfront⟩ := FunDecl.exists_front decl body (Scope.ofFunction crate decl) step ""
      have hold := hfront body.statement
      have hnew := hfront (body.statement.mapActions (withoutNeverDrop body.locals))
      have hdecl : ({ decl with body := some body } : FunDecl) = decl := by
        rw [← hbody]
      have hwithout : decl.withoutNeverDrops
          = { decl with body := some body.withoutNeverDrops } := by
        rw [FunDecl.withoutNeverDrops, hbody]
        rfl
      rw [hdecl] at hold
      rw [hwithout, Body.withoutNeverDrops, hold, hnew, Text.empty_append,
        Statement.render_eq_layout, Statement.render_eq_layout]
      have habove : Related (Layout.TextChange (decl.ShowsNeverDrop crate) step step) front front :=
        .refl (Layout.TextChange.refl step step) front
      have hlines := Statement.changed_lines body.statement (FunDecl.keptOrReplaced hbody crate)
      refine habove.bind fun above higher habove => ?_
      refine hlines.related_render.bind fun inside within hinside => ?_
      exact .ok ((habove.append_newline hinside).append_newline (.refl step step _))

/-! ## Crates before and after the pass -/

/-- The declaration without drops of variables of type `!`. -/
def Declaration.withoutNeverDrops : Declaration → Declaration
  | .type decl => .type decl
  | .global decl => .global decl
  | .function decl => .function decl.withoutNeverDrops

/-- A declaration fails after the pass exactly when it fails before it, with the same error. -/
theorem Declaration.render_withoutNeverDrops_eq_error_iff (crate : Crate) (step : Text)
    (decl : Declaration) (error : InternalError) :
    decl.withoutNeverDrops.render crate.withoutNeverDrops step = .error error ↔
      decl.render crate step = .error error := by
  cases decl with
  | type decl =>
      rw [Declaration.withoutNeverDrops, Declaration.render_in_withoutNeverDrops]
  | global decl =>
      rw [Declaration.withoutNeverDrops, Declaration.render_in_withoutNeverDrops]
  | function decl => exact (FunDecl.related_render crate step decl).eq_error_iff error

/-- The declarations of the rewritten crate are the rewritten ones. -/
theorem Crate.declarations_withoutNeverDrops (crate : Crate) :
    crate.withoutNeverDrops.declarations
      = crate.declarations.map Declaration.withoutNeverDrops := by
  simp [Crate.declarations, Crate.ofKind, Crate.withoutNeverDrops, Table.values, Assoc.values,
    Table.mapValues, Function.comp_def, Declaration.withoutNeverDrops]

/-- The text of one function is that of its declaration. -/
theorem Crate.renderOne_function {crate : Crate} {id : Int} {decl : FunDecl}
    (hdecl : crate.functions.find? id = some decl) (options : Options) :
    crate.renderOne options .function id
      = (Declaration.function decl).render crate options.indentStep := by
  rw [Crate.renderOne, Crate.find?, hdecl]
  rfl

/-- Listing a function by its identifier before and after the pass. -/
theorem Crate.related_renderOne {crate : Crate} {id : Int} {decl : FunDecl}
    (hdecl : crate.functions.find? id = some decl) (options : Options) :
    Related
      (Layout.TextChange (decl.ShowsNeverDrop crate) options.indentStep options.indentStep)
      (crate.renderOne options .function id)
      (crate.withoutNeverDrops.renderOne options .function id) := by
  have hnew : crate.withoutNeverDrops.functions.find? id = some decl.withoutNeverDrops := by
    rw [Crate.find?_functions_withoutNeverDrops, hdecl]
    rfl
  rw [Crate.renderOne_function hdecl, Crate.renderOne_function hnew]
  exact FunDecl.related_render crate options.indentStep decl

/-- The pass does not change the errors of functions. -/
theorem Crate.renderOne_withoutNeverDrops_eq_error_iff (crate : Crate) (options : Options)
    (id : Int) (error : InternalError) :
    crate.withoutNeverDrops.renderOne options .function id = .error error ↔
      crate.renderOne options .function id = .error error := by
  cases hdecl : crate.functions.find? id with
  | some decl => exact (Crate.related_renderOne hdecl options).eq_error_iff error
  | none =>
      have hnew : crate.withoutNeverDrops.functions.find? id = none := by
        rw [Crate.find?_functions_withoutNeverDrops, hdecl]
        rfl
      simp only [Crate.renderOne, Crate.find?, hdecl, hnew, Option.map_none]

/-- The listing before and after the pass.  Types and globals are listed in the same way.  A
function fails after the pass exactly when it fails before it, with the same error; otherwise the
lines are the same but for those of the drops that were replaced, if the names of its locals have
no line ends.  So a listing that leaves failures out leaves out the same declarations. -/
theorem Crate.listing_after_removeNeverDrops {crate result : Crate} {passOptions : Options}
    (hlevel : passOptions.logLevel.admits .debug = false)
    (h : (crate.removeNeverDrops passOptions).outcome = .ok result) (options : Options) :
    (∀ id, result.renderOne options .type id = crate.renderOne options .type id) ∧
    (∀ id, result.renderOne options .global id = crate.renderOne options .global id) ∧
    (∀ id error, result.renderOne options .function id = .error error ↔
      crate.renderOne options .function id = .error error) ∧
    (∀ id decl old new, crate.functions.find? id = some decl →
      (∀ var ∈ (Declaration.function decl).locals, ∀ name ∈ var.name, OneLine name) →
        crate.renderOne options .function id = .ok old →
        result.renderOne options .function id = .ok new →
          List.Forall₂
            (LineChange (decl.ShowsNeverDrop crate) options.indentStep options.indentStep)
            (Text.lines old) (Text.lines new)) ∧
    (options.keepGoing = true →
      result.declarations = crate.declarations.map Declaration.withoutNeverDrops ∧
      ∀ decl ∈ crate.declarations,
        (result.renderEntry options decl.withoutNeverDrops).outcome = .ok none ↔
          (crate.renderEntry options decl).outcome = .ok none) := by
  rw [Crate.outcome_removeNeverDrops hlevel] at h
  obtain ⟨⟨⟩, -, hresult⟩ := bind_eq_ok_iff.1 h
  cases hresult
  refine ⟨?_, ?_, ?_, ?_, ?_⟩
  · intro id
    simp only [Crate.renderOne, Declaration.render_in_withoutNeverDrops]
    rfl
  · intro id
    simp only [Crate.renderOne, Declaration.render_in_withoutNeverDrops]
    rfl
  · exact Crate.renderOne_withoutNeverDrops_eq_error_iff crate options
  · intro id decl old new hdecl hnames hold hnew
    exact (Crate.related_renderOne hdecl options).of_eq_ok hold hnew
      fun text htext => htext.oneLine hnames
  · intro hkeep
    refine ⟨Crate.declarations_withoutNeverDrops crate, fun decl _ => ?_⟩
    rw [Crate.outcome_renderEntry_of_keepGoing hkeep, Crate.outcome_renderEntry_of_keepGoing hkeep,
      Except.ok.injEq, Except.ok.injEq, toOption_eq_none_iff, toOption_eq_none_iff]
    exact exists_congr
      (Declaration.render_withoutNeverDrops_eq_error_iff crate options.indentStep decl)

/-- A function that drops its only local, which is of type `!`, and returns. -/
def FunDecl.droppingNever : FunDecl :=
  ⟨0, ["f"], ⟨[], .never, [], []⟩, some ⟨0, [⟨0, some "x", .never⟩],
    .mk none (.sequence (.mk none (.action (.drop ⟨0, []⟩))) (.mk none (.action .ret)))⟩, none⟩

/-- The line of the drop has a `nop`, and the other lines are kept. -/
theorem Crate.listing_of_droppingNever :
    List.Forall₂ (LineChange (FunDecl.droppingNever.ShowsNeverDrop
        (Crate.ofDeclarations none [] [] [FunDecl.droppingNever])) "  " "  ")
      (Text.lines "fn f() -> ! \x7b\n  x : !;\n\n  drop x;\n  return\n\x7d")
      (Text.lines "fn f() -> ! \x7b\n  x : !;\n\n  nop;\n  return\n\x7d") := by
  have hpass : ((Crate.ofDeclarations none [] [] [FunDecl.droppingNever]).removeNeverDrops
      {}).outcome
        = .ok (Crate.ofDeclarations none [] [] [FunDecl.droppingNever]).withoutNeverDrops := rfl
  have hnames : ∀ var ∈ (Declaration.function FunDecl.droppingNever).locals,
      ∀ name ∈ var.name, OneLine name := by
    intro var hvar name hname
    cases List.mem_singleton.1 hvar
    cases hname
    decide
  exact (Crate.listing_after_removeNeverDrops rfl hpass {}).2.2.2.1 0 FunDecl.droppingNever _ _ rfl
    hnames rfl rfl

end CrateListing
