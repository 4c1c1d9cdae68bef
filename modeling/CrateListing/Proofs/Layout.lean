import CrateListing.Proofs.Resolution
import CrateListing.Proofs.OneLine

/-!
# The lines of a statement

A statement has lines, each with a depth and a text.  The lines are given
without any indentation; the text of the statement is then nothing but these
lines, each behind the indentation of its depth.

Main definitions:

- `Line`: a depth, and a text if it can be shown.
- `Statement.lines`: the lines of a statement.
- `Layout.render`: lines behind their indentation, below each other.

Main results:

- Theorem `Statement.render_eq_layout`: the text of a statement is the layout of its lines.
- Theorem `Layout.split_indentedTexts`: how the lines are got back.
- Theorem `FunDecl.render_eq_layout`: the text of a function has the lines of its body.
-/

namespace CrateListing

open Outcome

/-- A line: how deep it stands, and its text if it can be shown. -/
structure Line where
  depth : Nat
  text : Except InternalError Text

namespace Line

/-- The line one step deeper. -/
def deeper (line : Line) : Line :=
  { line with depth := line.depth + 1 }

/-- The line with a mark at its end. -/
def endedBy (mark : Text) (line : Line) : Line :=
  { line with text := line.text.map (· ++ mark) }

end Line

namespace Layout

/-! ## Building lines -/

/-- Lines with a mark at the end of the last one. -/
def endedBy (mark : Text) : List Line → List Line
  | [] => []
  | [line] => [line.endedBy mark]
  | line :: rest => line :: endedBy mark rest

/-- The lines of a block: its heading, what is inside one step deeper, and the closing brace. -/
def block (heading : Except InternalError Text) (inside : List Line) : List Line :=
  ⟨0, heading.map (· ++ " \x7b")⟩ :: (inside.map Line.deeper ++ [⟨0, .ok "\x7d"⟩])

/-- The label line of a branch. -/
def label (labels : List Text) : Text :=
  Text.intercalate " " (labels.map ("| " ++ ·)) ++ " =>"

/-! ## Laying lines out -/

/-- A text behind the indentation of its depth. -/
def indented (indent step : Text) (depth : Nat) (text : Text) : Text :=
  indent ++ Text.join (List.replicate depth step) ++ text

/-- A line behind its indentation. -/
def shown (indent step : Text) (line : Line) : Except InternalError Text :=
  line.text.map (indented indent step line.depth)

/-- Lines that can all be shown, by their depths and texts. -/
def ofTexts (texts : List (Nat × Text)) : List Line :=
  texts.map fun line => ⟨line.1, .ok line.2⟩

/-- Texts behind their indentation. -/
def indentedTexts (indent step : Text) (texts : List (Nat × Text)) : List Text :=
  texts.map fun line => indented indent step line.1 line.2

/-- Lines behind their indentation, below each other. -/
def render (indent step : Text) (lines : List Line) : Except InternalError Text := do
  let texts ← lines.mapM (shown indent step)
  return Text.intercalate "\n" texts

end Layout

/-! ## The lines of a statement -/

mutual
/-- The lines of a statement. -/
def Statement.lines (scope : Scope) : Statement → List Line
  | .mk _ content => Content.lines scope content

/-- The lines of what a statement does. -/
def Content.lines (scope : Scope) : Content → List Line
  | .action action => [⟨0, action.render scope⟩]
  | .sequence first second =>
      Layout.endedBy ";" (Statement.lines scope first) ++ Statement.lines scope second
  | .switch switch => Switch.lines scope switch
  | .loop body => Layout.block (.ok "loop") (Statement.lines scope body)

/-- The lines of a choice. -/
def Switch.lines (scope : Scope) : Switch → List Line
  | .branch condition onTrue onFalse =>
      Layout.block ((condition.render scope).map fun shown => "if (" ++ shown ++ ")")
          (Statement.lines scope onTrue)
        ++ Layout.block (.ok "else") (Statement.lines scope onFalse)
  | .integer operand _ branches otherwise =>
      Layout.block ((operand.render scope).map fun shown => "switch (" ++ shown ++ ")")
        (Switch.integerLines scope branches
          ++ Layout.block (.ok "_ =>") (Statement.lines scope otherwise))
  | .variant place branches otherwise =>
      Layout.block ((place.render scope).map fun shown => "match (" ++ shown ++ ")")
        (Switch.variantLines scope branches
          ++ Layout.block (.ok "_ =>") (Statement.lines scope otherwise))

/-- The lines of branches with integer labels. -/
def Switch.integerLines (scope : Scope) : List (List Scalar × Statement) → List Line
  | [] => []
  | (labels, body) :: rest =>
      Layout.block (.ok (Layout.label (labels.map fun label => Text.decimal label.value)))
          (Statement.lines scope body)
        ++ Switch.integerLines scope rest

/-- The lines of branches with variant labels. -/
def Switch.variantLines (scope : Scope) : List (List Int × Statement) → List Line
  | [] => []
  | (labels, body) :: rest =>
      Layout.block (.ok (Layout.label (labels.map Text.decimal))) (Statement.lines scope body)
        ++ Switch.variantLines scope rest
end

/-! ## Laying out parts of a list of lines -/

namespace Layout

/-- A mark does not make lines. -/
@[simp]
theorem endedBy_eq_nil_iff (mark : Text) (lines : List Line) :
    endedBy mark lines = [] ↔ lines = [] := by
  fun_cases endedBy mark lines <;> simp

/-- A block has lines. -/
@[simp]
theorem block_ne_nil (heading : Except InternalError Text) (inside : List Line) :
    block heading inside ≠ [] := by
  simp [block]

/-- The text of one line is what is shown of it. -/
theorem render_singleton (indent step : Text) (line : Line) :
    render indent step [line] = shown indent step line :=
  joined_singleton "\n" (shown indent step) line

/-- A line in front of other lines. -/
theorem render_cons (indent step : Text) (line : Line) {rest : List Line} (hrest : rest ≠ []) :
    render indent step (line :: rest) = (do
      let first ← shown indent step line
      let others ← render indent step rest
      return first ++ "\n" ++ others) :=
  joined_cons "\n" (shown indent step) line hrest

/-- Lines in front of other lines. -/
theorem render_append (indent step : Text) {first second : List Line} (hfirst : first ≠ [])
    (hsecond : second ≠ []) :
    render indent step (first ++ second) = (do
      let above ← render indent step first
      let below ← render indent step second
      return above ++ "\n" ++ below) :=
  joined_append "\n" (shown indent step) hfirst hsecond

/-- One step deeper is the same as behind one more step of indentation. -/
theorem indented_succ (indent step : Text) (depth : Nat) (text : Text) :
    indented indent step (depth + 1) text = indented (indent ++ step) step depth text := by
  simp only [indented, List.replicate_succ, Text.join_cons, Text.append_assoc]

/-- Deeper lines are lines behind a longer indentation. -/
theorem render_deeper (indent step : Text) (lines : List Line) :
    render indent step (lines.map Line.deeper) = render (indent ++ step) step lines := by
  have hshown (line : Line) :
      shown indent step line.deeper = shown (indent ++ step) step line := by
    simp only [shown, Line.deeper]
    congr 1
    funext text
    exact indented_succ indent step line.depth text
  simp only [render, List.mapM_map, Function.comp_def, hshown]

/-- A mark at the end of a line stands at the end of what is shown of it. -/
theorem shown_endedBy (indent step mark : Text) (line : Line) :
    shown indent step (line.endedBy mark) = (do
      let text ← shown indent step line
      return text ++ mark) := by
  cases htext : line.text with
  | error e => simp [shown, Line.endedBy, htext, Except.map]
  | ok text =>
      simp [shown, Line.endedBy, htext, Except.map, indented, Text.append_assoc, pure_eq_ok]

/-- A mark at the end of the last line stands at the end of the text. -/
theorem render_endedBy (indent step mark : Text) {lines : List Line} (hlines : lines ≠ []) :
    render indent step (endedBy mark lines) = (do
      let text ← render indent step lines
      return text ++ mark) := by
  induction lines with
  | nil => exact absurd rfl hlines
  | cons line rest ih =>
      cases rest with
      | nil => rw [endedBy, render_singleton, render_singleton, shown_endedBy]
      | cons next more =>
          have hrest : next :: more ≠ [] := List.cons_ne_nil next more
          have hended : endedBy mark (next :: more) ≠ [] := by simp
          have hstep : endedBy mark (line :: next :: more)
              = line :: endedBy mark (next :: more) := rfl
          rw [hstep, render_cons indent step line hended, ih hrest,
            render_cons indent step line hrest]
          simp only [bind_assoc, pure_bind, Text.append_assoc]

/-- A line that is not deeper stands behind the indentation only. -/
theorem indented_zero (indent step text : Text) :
    indented indent step 0 text = indent ++ text := by
  simp [indented]

/-- The lines of a block are laid out as a block. -/
theorem render_block (indent step : Text) (heading : Except InternalError Text)
    {inside : List Line} (hinside : inside ≠ []) :
    render indent step (block heading inside) = (do
      let title ← heading
      let body ← render (indent ++ step) step inside
      return CrateListing.block indent title body) := by
  have hdeeper : inside.map Line.deeper ≠ [] := by simpa using hinside
  have hbelow : inside.map Line.deeper ++ [⟨0, .ok "\x7d"⟩] ≠ [] :=
    List.append_ne_nil_of_left_ne_nil hdeeper _
  rw [block, render_cons indent step _ hbelow,
    render_append indent step hdeeper (List.cons_ne_nil _ _), render_singleton, render_deeper]
  cases heading with
  | error e => rfl
  | ok title =>
      cases render (indent ++ step) step inside with
      | error e => rfl
      | ok body =>
          have hopening : (" \x7b\n" : Text) = " \x7b" ++ "\n" := by decide
          simp only [shown, Except.map, ok_bind, pure_eq_ok, indented_zero, CrateListing.block,
            hopening, Text.append_assoc]

/-- The lines of a choice are laid out as a choice when those of its branches are laid out as its
clauses, whatever stands below them. -/
theorem render_choice (indent step : Text) (heading : Except InternalError Text)
    {clauses : Except InternalError (List Text)} {branches otherwise : List Line}
    (hotherwise : otherwise ≠ [])
    (hbranches : ∀ {below : List Line}, below ≠ [] →
      render (indent ++ step) step (branches ++ below) = (do
        let shown ← clauses
        let last ← render (indent ++ step) step below
        return Text.intercalate "\n" (shown ++ [last]))) :
    render indent step (block heading (branches ++ block (.ok "_ =>") otherwise)) = (do
      let title ← heading
      let shown ← clauses
      let last ← render (indent ++ step ++ step) step otherwise
      return choice indent step title shown last) := by
  have hlabel : ("_" ++ " =>" : Text) = "_ =>" := by decide
  have hclauses : branches ++ block (.ok "_ =>") otherwise ≠ [] :=
    List.append_ne_nil_of_right_ne_nil _ (block_ne_nil _ _)
  rw [render_block indent step heading hclauses, hbranches (block_ne_nil _ _),
    render_block (indent ++ step) step _ hotherwise]
  simp only [ok_bind, bind_assoc, pure_bind, choice, clause, hlabel]

end Layout

/-! ## The text of a statement is the layout of its lines -/

mutual
/-- A statement has lines. -/
theorem Statement.lines_ne_nil (scope : Scope) : (statement : Statement) →
    statement.lines scope ≠ []
  | .mk _ content => by
      rw [Statement.lines]
      exact Content.lines_ne_nil scope content

/-- The content of a statement has lines. -/
theorem Content.lines_ne_nil (scope : Scope) : (content : Content) → content.lines scope ≠ []
  | .action _ => by simp [Content.lines]
  | .sequence first second => by
      rw [Content.lines]
      exact List.append_ne_nil_of_right_ne_nil _ (Statement.lines_ne_nil scope second)
  | .switch switch => by
      rw [Content.lines]
      exact Switch.lines_ne_nil scope switch
  | .loop _ => by simp [Content.lines]

/-- A switch has lines. -/
theorem Switch.lines_ne_nil (scope : Scope) : (switch : Switch) → switch.lines scope ≠ []
  | .branch _ _ _ => by simp [Switch.lines]
  | .integer _ _ _ _ => by simp [Switch.lines]
  | .variant _ _ _ => by simp [Switch.lines]
end

/-- Clauses below each other are followed by the last one. -/
theorem intercalate_concat (first : Text) (clauses : List Text) (last : Text) :
    Text.intercalate "\n" (first :: clauses ++ [last])
      = first ++ "\n" ++ Text.intercalate "\n" (clauses ++ [last]) := by
  rw [List.cons_append, Text.intercalate_cons_of_ne_nil (by simp)]

mutual
/-- The text of a statement is the layout of its lines. -/
theorem Statement.render_eq_layout (scope : Scope) (step indent : Text) :
    (statement : Statement) →
      statement.render scope step indent = Layout.render indent step (statement.lines scope)
  | .mk _ content => by
      rw [Statement.render, Statement.lines]
      exact Content.render_eq_layout scope step indent content

/-- The text of a content is the layout of its lines. -/
theorem Content.render_eq_layout (scope : Scope) (step indent : Text) :
    (content : Content) →
      content.render scope step indent = Layout.render indent step (content.lines scope)
  | .action action => by
      rw [Content.render, Content.lines, Layout.render_singleton, Layout.shown]
      cases action.render scope with
      | error e => rfl
      | ok text => simp [Except.map, Layout.indented_zero, pure_eq_ok]
  | .sequence first second => by
      have hfirst := Statement.lines_ne_nil scope first
      have hsecond := Statement.lines_ne_nil scope second
      have hended : Layout.endedBy ";" (first.lines scope) ≠ [] := by simpa using hfirst
      have hmark : (";\n" : Text) = ";" ++ "\n" := by decide
      rw [Content.render, Content.lines, Layout.render_append indent step hended hsecond,
        Layout.render_endedBy indent step ";" hfirst,
        Statement.render_eq_layout scope step indent first,
        Statement.render_eq_layout scope step indent second]
      simp only [bind_assoc, pure_bind, hmark, Text.append_assoc]
  | .switch switch => by
      rw [Content.render, Content.lines]
      exact Switch.render_eq_layout scope step indent switch
  | .loop body => by
      rw [Content.render, Content.lines,
        Layout.render_block indent step _ (Statement.lines_ne_nil scope body),
        Statement.render_eq_layout scope step (indent ++ step) body, ok_bind]

/-- The text of a switch is the layout of its lines. -/
theorem Switch.render_eq_layout (scope : Scope) (step indent : Text) :
    (switch : Switch) →
      switch.render scope step indent = Layout.render indent step (switch.lines scope)
  | .branch condition onTrue onFalse => by
      rw [Switch.render, Switch.lines,
        Layout.render_append indent step (Layout.block_ne_nil _ _) (Layout.block_ne_nil _ _),
        Layout.render_block indent step _ (Statement.lines_ne_nil scope onTrue),
        Layout.render_block indent step _ (Statement.lines_ne_nil scope onFalse),
        Statement.render_eq_layout scope step (indent ++ step) onTrue,
        Statement.render_eq_layout scope step (indent ++ step) onFalse]
      cases condition.render scope with
      | error e => rfl
      | ok shown => simp only [Except.map, ok_bind, bind_assoc, pure_bind]
  | .integer operand type branches otherwise => by
      rw [Switch.render, Switch.lines,
        Layout.render_choice indent step _ (Statement.lines_ne_nil scope otherwise)
          (Switch.layout_integerLines scope step (indent ++ step) branches),
        Statement.render_eq_layout scope step (indent ++ step ++ step) otherwise]
      cases operand.render scope <;> rfl
  | .variant place branches otherwise => by
      rw [Switch.render, Switch.lines,
        Layout.render_choice indent step _ (Statement.lines_ne_nil scope otherwise)
          (Switch.layout_variantLines scope step (indent ++ step) branches),
        Statement.render_eq_layout scope step (indent ++ step ++ step) otherwise]
      cases place.render scope <;> rfl

/-- The clauses of branches, with further lines below them. -/
theorem Switch.layout_integerLines (scope : Scope) (step indent : Text) :
    (branches : List (List Scalar × Statement)) → {below : List Line} → below ≠ [] →
      Layout.render indent step (Switch.integerLines scope branches ++ below) = (do
        let clauses ← Switch.renderIntegerBranches scope step indent branches
        let last ← Layout.render indent step below
        return Text.intercalate "\n" (clauses ++ [last]))
  | [], below, _ => by
      simp [Switch.renderIntegerBranches, Switch.integerLines]
  | (labels, body) :: rest, below, hbelow => by
      have hrest := List.append_ne_nil_of_right_ne_nil (Switch.integerLines scope rest) hbelow
      rw [Switch.renderIntegerBranches, Switch.integerLines, List.append_assoc,
        Layout.render_append indent step (Layout.block_ne_nil _ _) hrest,
        Layout.render_block indent step _ (Statement.lines_ne_nil scope body),
        Switch.layout_integerLines scope step indent rest hbelow,
        Statement.render_eq_layout scope step (indent ++ step) body]
      simp only [ok_bind, bind_assoc, pure_bind, intercalate_concat]
      rfl

/-- The clauses on variants are laid out in front of what is below them. -/
theorem Switch.layout_variantLines (scope : Scope) (step indent : Text) :
    (branches : List (List Int × Statement)) → {below : List Line} → below ≠ [] →
      Layout.render indent step (Switch.variantLines scope branches ++ below) = (do
        let clauses ← Switch.renderVariantBranches scope step indent branches
        let last ← Layout.render indent step below
        return Text.intercalate "\n" (clauses ++ [last]))
  | [], below, _ => by
      simp [Switch.renderVariantBranches, Switch.variantLines]
  | (labels, body) :: rest, below, hbelow => by
      have hrest := List.append_ne_nil_of_right_ne_nil (Switch.variantLines scope rest) hbelow
      rw [Switch.renderVariantBranches, Switch.variantLines, List.append_assoc,
        Layout.render_append indent step (Layout.block_ne_nil _ _) hrest,
        Layout.render_block indent step _ (Statement.lines_ne_nil scope body),
        Switch.layout_variantLines scope step indent rest hbelow,
        Statement.render_eq_layout scope step (indent ++ step) body]
      simp only [ok_bind, bind_assoc, pure_bind, intercalate_concat]
      rfl
end

/-! ## Lines that can be shown -/

namespace Layout

/-- Lines are laid out exactly when each of them can be shown. -/
theorem succeeds_render_iff (indent step : Text) (lines : List Line) :
    Succeeds (render indent step lines) ↔ ∀ line ∈ lines, Succeeds line.text := by
  simp only [render, succeeds_bind_pure, succeeds_mapM_iff, shown, succeeds_map]

/-- Lines that can be shown are shown behind their indentation. -/
theorem mapM_shown_ofTexts (indent step : Text) (texts : List (Nat × Text)) :
    (ofTexts texts).mapM (shown indent step) = .ok (indentedTexts indent step texts) := by
  induction texts with
  | nil => rfl
  | cons line rest ih =>
      have hline : ofTexts (line :: rest) = ⟨line.1, .ok line.2⟩ :: ofTexts rest := rfl
      rw [hline, List.mapM_cons, ih]
      rfl

/-- Lines that can be shown are laid out below each other. -/
theorem render_ofTexts (indent step : Text) (texts : List (Nat × Text)) :
    render indent step (ofTexts texts)
      = .ok (Text.intercalate "\n" (indentedTexts indent step texts)) := by
  rw [render, mapM_shown_ofTexts]
  rfl

/-- Lines that can all be shown are given by their texts. -/
theorem exists_texts {lines : List Line} (h : ∀ line ∈ lines, Succeeds line.text) :
    ∃ texts, lines = ofTexts texts := by
  induction lines with
  | nil => exact ⟨[], rfl⟩
  | cons line rest ih =>
      obtain ⟨depth, text⟩ := line
      obtain ⟨hline, hrest⟩ := List.forall_mem_cons.1 h
      obtain ⟨shown, rfl⟩ := hline
      obtain ⟨texts, rfl⟩ := ih hrest
      exact ⟨(depth, shown) :: texts, rfl⟩

/-- The layout is the indented texts below each other, and there is one exactly when each line has
a text. -/
theorem render_eq_ok_iff (indent step : Text) (lines : List Line) (output : Text) :
    render indent step lines = .ok output ↔
      ∃ texts, lines = ofTexts texts ∧
        output = Text.intercalate "\n" (indentedTexts indent step texts) := by
  constructor
  · intro h
    obtain ⟨texts, rfl⟩ := exists_texts ((succeeds_render_iff indent step lines).1 ⟨output, h⟩)
    rw [render_ofTexts] at h
    cases h
    exact ⟨texts, rfl, rfl⟩
  · rintro ⟨texts, rfl, rfl⟩
    exact render_ofTexts indent step texts

/-- Lines cannot be laid out exactly when one of them cannot be shown. -/
theorem render_eq_error_iff (indent step : Text) (lines : List Line) :
    (∃ error, render indent step lines = .error error) ↔
      ∃ line ∈ lines, ∃ error, line.text = .error error := by
  rw [← not_succeeds_iff, succeeds_render_iff]
  push Not
  exact exists_congr fun line => and_congr_right fun _ => not_succeeds_iff

/-! ## Lines without line ends -/

/-- No line has a line end in its text. -/
def AllOneLine (lines : List Line) : Prop :=
  ∀ line ∈ lines, Gives line.text OneLine

/-- Lines without line ends stay so one below the other. -/
theorem allOneLine_append {first second : List Line} (hfirst : AllOneLine first)
    (hsecond : AllOneLine second) : AllOneLine (first ++ second) :=
  List.forall_mem_append.2 ⟨hfirst, hsecond⟩

/-- Lines without line ends stay so with a mark at the end. -/
theorem allOneLine_endedBy {mark : Text} (hmark : OneLine mark) {lines : List Line}
    (h : AllOneLine lines) : AllOneLine (endedBy mark lines) := by
  fun_induction endedBy mark lines with
  | case1 => exact h
  | case2 line =>
      intro other hother
      rw [List.mem_singleton.1 hother]
      refine (h line List.mem_cons_self).map fun text htext => ?_
      simp [htext, hmark]
  | case3 line rest _ ih =>
      obtain ⟨hline, hrest⟩ := List.forall_mem_cons.1 h
      exact List.forall_mem_cons.2 ⟨hline, ih hrest⟩

/-- A block has no line ends in its lines when its heading and its inside have none. -/
theorem allOneLine_block {heading : Except InternalError Text} {inside : List Line}
    (hheading : Gives heading OneLine) (hinside : AllOneLine inside) :
    AllOneLine (block heading inside) := by
  refine List.forall_mem_cons.2 ⟨?_, allOneLine_append ?_ ?_⟩
  · refine hheading.map fun text htext => ?_
    simp +decide [htext]
  · intro line hline
    obtain ⟨inner, hinner, rfl⟩ := List.mem_map.1 hline
    exact hinside inner hinner
  · intro line hline
    rw [List.mem_singleton.1 hline]
    exact gives_ok (by decide)

/-- The labels of a clause make one line. -/
theorem oneLine_label {labels : List Text} (h : ∀ text ∈ labels, OneLine text) :
    OneLine (label labels) := by
  have hlabels : OneLine (Text.intercalate " " (labels.map ("| " ++ ·))) := by
    refine oneLine_intercalate (by decide) fun item hitem => ?_
    obtain ⟨text, htext, rfl⟩ := List.mem_map.1 hitem
    have hone := h text htext
    simp +decide [hone]
  simp +decide [label, hlabels]

/-- Indentation does not add line ends. -/
theorem oneLine_indented {indent step text : Text} (hindent : OneLine indent)
    (hstep : OneLine step) (htext : OneLine text) (depth : Nat) :
    OneLine (indented indent step depth text) := by
  induction depth generalizing indent with
  | zero => simp [indented_zero, hindent, htext]
  | succ depth ih =>
      rw [indented_succ]
      exact ih (by simp [hindent, hstep])

/-- Splitting a layout at its line ends gives its lines back. -/
theorem split_indentedTexts {indent step : Text} {texts : List (Nat × Text)}
    (hindent : OneLine indent) (hstep : OneLine step) (hne : texts ≠ [])
    (htexts : AllOneLine (ofTexts texts)) :
    (Text.intercalate "\n" (indentedTexts indent step texts)).split '\n'
      = indentedTexts indent step texts := by
  have hlines : ∀ line ∈ indentedTexts indent step texts, .char '\n' ∉ line.toList := by
    intro line hline
    obtain ⟨⟨depth, text⟩, hmem, rfl⟩ := List.mem_map.1 hline
    have htext : OneLine text := htexts ⟨depth, .ok text⟩ (List.mem_map_of_mem hmem) text rfl
    exact oneLine_indented hindent hstep htext depth
  have hnewline : ("\n" : Text) = Text.singleton '\n' := by decide
  have hlist : indentedTexts indent step texts ≠ [] := by simpa [indentedTexts] using hne
  rw [hnewline, Text.split_intercalate hlist hlines]

end Layout

mutual
/-- The lines of a statement have no line end when the names in it have none. -/
theorem Statement.allOneLine_lines {scope : Scope} :
    (statement : Statement) →
      (∀ reference ∈ statement.references, scope.ShowsOneLine reference) →
        Layout.AllOneLine (statement.lines scope)
  | .mk _ content, h => by
      rw [Statement.references] at h
      rw [Statement.lines]
      exact Content.allOneLine_lines content h

/-- The lines of a content have no line ends when the names in it have none. -/
theorem Content.allOneLine_lines {scope : Scope} :
    (content : Content) → (∀ reference ∈ content.references, scope.ShowsOneLine reference) →
      Layout.AllOneLine (content.lines scope)
  | .action action, h => by
      rw [Content.references] at h
      rw [Content.lines]
      exact List.forall_mem_singleton.2 (Action.oneLine_render h)
  | .sequence first second, h => by
      rw [Content.references, List.forall_mem_append] at h
      rw [Content.lines]
      have hfirst := Statement.allOneLine_lines first h.1
      exact Layout.allOneLine_append (Layout.allOneLine_endedBy (by decide) hfirst)
        (Statement.allOneLine_lines second h.2)
  | .switch switch, h => by
      rw [Content.references] at h
      rw [Content.lines]
      exact Switch.allOneLine_lines switch h
  | .loop body, h => by
      rw [Content.references] at h
      rw [Content.lines]
      exact Layout.allOneLine_block (gives_ok (by decide)) (Statement.allOneLine_lines body h)

/-- The lines of a switch have no line ends when the names in it have none. -/
theorem Switch.allOneLine_lines {scope : Scope} :
    (switch : Switch) → (∀ reference ∈ switch.references, scope.ShowsOneLine reference) →
      Layout.AllOneLine (switch.lines scope)
  | .branch condition onTrue onFalse, h => by
      simp only [Switch.references, List.forall_mem_append] at h
      obtain ⟨hcondition, htrue, hfalse⟩ := h
      rw [Switch.lines]
      refine Layout.allOneLine_append (Layout.allOneLine_block ?_ ?_)
        (Layout.allOneLine_block (gives_ok (by decide)) ?_)
      · refine (Operand.oneLine_render hcondition).map fun shown hshown => ?_
        simp +decide [hshown]
      · exact Statement.allOneLine_lines onTrue htrue
      · exact Statement.allOneLine_lines onFalse hfalse
  | .integer operand type branches otherwise, h => by
      simp only [Switch.references, List.forall_mem_append] at h
      obtain ⟨hoperand, hbranches, hotherwise⟩ := h
      rw [Switch.lines]
      refine Layout.allOneLine_block ?_ (Layout.allOneLine_append ?_
        (Layout.allOneLine_block (gives_ok (by decide)) ?_))
      · refine (Operand.oneLine_render hoperand).map fun shown hshown => ?_
        simp +decide [hshown]
      · exact Switch.allOneLine_integerLines branches hbranches
      · exact Statement.allOneLine_lines otherwise hotherwise
  | .variant place branches otherwise, h => by
      simp only [Switch.references, List.forall_mem_append] at h
      obtain ⟨hplace, hbranches, hotherwise⟩ := h
      rw [Switch.lines]
      refine Layout.allOneLine_block ?_ (Layout.allOneLine_append ?_
        (Layout.allOneLine_block (gives_ok (by decide)) ?_))
      · refine (Place.oneLine_render hplace).map fun shown hshown => ?_
        simp +decide [hshown]
      · exact Switch.allOneLine_variantLines branches hbranches
      · exact Statement.allOneLine_lines otherwise hotherwise

/-- The lines of clauses on integers have no line ends when the names in them have none. -/
theorem Switch.allOneLine_integerLines {scope : Scope} :
    (branches : List (List Scalar × Statement)) →
      (∀ reference ∈ Switch.integerReferences branches, scope.ShowsOneLine reference) →
        Layout.AllOneLine (Switch.integerLines scope branches)
  | [], _ => by simp [Switch.integerLines, Layout.AllOneLine]
  | (labels, body) :: rest, h => by
      rw [Switch.integerReferences, List.forall_mem_append] at h
      rw [Switch.integerLines]
      refine Layout.allOneLine_append (Layout.allOneLine_block (gives_ok ?_) ?_) ?_
      · refine Layout.oneLine_label fun text htext => ?_
        obtain ⟨label, _, rfl⟩ := List.mem_map.1 htext
        exact oneLine_decimal label.value
      · exact Statement.allOneLine_lines body h.1
      · exact Switch.allOneLine_integerLines rest h.2

/-- The lines of clauses on variants have no line ends when the names in them have none. -/
theorem Switch.allOneLine_variantLines {scope : Scope} :
    (branches : List (List Int × Statement)) →
      (∀ reference ∈ Switch.variantReferences branches, scope.ShowsOneLine reference) →
        Layout.AllOneLine (Switch.variantLines scope branches)
  | [], _ => by simp [Switch.variantLines, Layout.AllOneLine]
  | (labels, body) :: rest, h => by
      rw [Switch.variantReferences, List.forall_mem_append] at h
      rw [Switch.variantLines]
      refine Layout.allOneLine_append (Layout.allOneLine_block (gives_ok ?_) ?_) ?_
      · refine Layout.oneLine_label fun text htext => ?_
        obtain ⟨label, _, rfl⟩ := List.mem_map.1 htext
        exact oneLine_decimal label
      · exact Statement.allOneLine_lines body h.1
      · exact Switch.allOneLine_variantLines rest h.2
end

/-! ## The lines of a function -/

namespace Layout

/-- The lines of a function with a body: the heading, a line for each local and an empty line
behind them, the lines of the body one step deeper, and the closing brace. -/
def functionTexts (indent step heading : Text) (locals : List Text)
    (texts : List (Nat × Text)) : List Text :=
  (indent ++ heading ++ " \x7b") ::
    (locals.map (fun text => indent ++ step ++ text ++ ";")
      ++ (if locals.isEmpty then [] else [("" : Text)])
      ++ indentedTexts (indent ++ step) step texts ++ [indent ++ "\x7d"])

/-- Texts that end with a line end stand in front of further lines. -/
theorem join_append_intercalate (above : List Text) {below : List Text} (hbelow : below ≠ []) :
    Text.join (above.map fun text : Text => text ++ "\n") ++ Text.intercalate "\n" below
      = Text.intercalate "\n" (above ++ below) := by
  induction above with
  | nil => simp
  | cons text rest ih =>
      have hrest : rest ++ below ≠ [] := List.append_ne_nil_of_right_ne_nil rest hbelow
      rw [List.map_cons, Text.join_cons, Text.append_assoc, ih, List.cons_append,
        Text.intercalate_cons_of_ne_nil hrest]

/-- Locals in front of a body, with an empty line between them. -/
theorem locals_append_body (locals : List Text) {body : List Text} (hbody : body ≠ []) :
    Text.join (locals.map fun text : Text => text ++ "\n")
        ++ (if locals.isEmpty then ("" : Text) else "\n") ++ Text.intercalate "\n" body
      = Text.intercalate "\n"
          (locals ++ (if locals.isEmpty then [] else [("" : Text)]) ++ body) := by
  cases locals with
  | nil => simp
  | cons first rest =>
      have hblank : ("\n" : Text) ++ Text.intercalate "\n" body
          = Text.intercalate "\n" ("" :: body) := by
        rw [Text.intercalate_cons_of_ne_nil hbody, Text.empty_append]
      simp only [List.isEmpty_cons, Bool.false_eq_true, if_false, Text.append_assoc, hblank]
      rw [join_append_intercalate (first :: rest) (List.cons_ne_nil ("" : Text) body),
        List.append_assoc, List.singleton_append]

/-- A block around lines that are already indented. -/
theorem block_intercalate (indent heading : Text) {inside : List Text} (hinside : inside ≠ []) :
    CrateListing.block indent heading (Text.intercalate "\n" inside)
      = Text.intercalate "\n"
          ((indent ++ heading ++ " \x7b") :: (inside ++ [indent ++ "\x7d"])) := by
  have hopening : (" \x7b\n" : Text) = " \x7b" ++ "\n" := by decide
  rw [Text.intercalate_cons_of_ne_nil (by simp),
    Text.intercalate_append_of_ne_nil hinside (List.cons_ne_nil _ _),
    Text.intercalate_singleton, CrateListing.block, hopening]
  simp only [Text.append_assoc]

end Layout

/-- The line of a local has its name and type between the indentation and the semicolon. -/
theorem Local.render_eq_ok {scope : Scope} {indent : Text} {var : Local} {line : Text}
    (h : var.render scope indent = .ok line) : ∃ text, line = indent ++ text ++ ";" ++ "\n" := by
  obtain ⟨type, _, h⟩ := bind_eq_ok_iff.1 h
  cases h
  have hmark : (";\n" : Text) = ";" ++ "\n" := by decide
  exact ⟨var.shown ++ " : " ++ type, by simp only [hmark, Text.append_assoc]⟩

/-- The lines of locals are texts between the indentation and a semicolon. -/
theorem Local.mapM_render_eq_ok {scope : Scope} {indent : Text} {vars : List Local}
    {lines : List Text} (h : vars.mapM (Local.render scope indent) = .ok lines) :
    ∃ texts : List Text, texts.length = vars.length ∧
      lines = (texts.map fun text => indent ++ text ++ ";").map
        fun line : Text => line ++ "\n" := by
  induction vars generalizing lines with
  | nil =>
      cases h
      exact ⟨[], rfl, rfl⟩
  | cons var rest ih =>
      rw [List.mapM_cons, bind_eq_ok_iff] at h
      obtain ⟨line, hline, h⟩ := h
      obtain ⟨others, hothers, h⟩ := bind_eq_ok_iff.1 h
      cases h
      obtain ⟨text, rfl⟩ := Local.render_eq_ok hline
      obtain ⟨texts, hlength, rfl⟩ := ih hothers
      exact ⟨text :: texts, by simp [hlength], rfl⟩

/-- The text of a function has the lines of its body one step deeper, below the heading and the
locals. -/
theorem FunDecl.render_eq_layout {scope : Scope} {step indent : Text} {decl : FunDecl}
    {body : Body} (hbody : decl.body = some body) {output : Text}
    (h : decl.render scope step indent = .ok output) :
    ∃ heading locals texts, locals.length = body.locals.length ∧
      body.statement.lines scope = Layout.ofTexts texts ∧
        output = Text.intercalate "\n"
          (Layout.functionTexts indent step heading locals texts) := by
  rw [FunDecl.render] at h
  obtain ⟨result, _, h⟩ := bind_eq_ok_iff.1 h
  rw [hbody] at h
  obtain ⟨parameters, _, h⟩ := bind_eq_ok_iff.1 h
  obtain ⟨lines, hlines, h⟩ := bind_eq_ok_iff.1 h
  obtain ⟨inside, hinside, h⟩ := bind_eq_ok_iff.1 h
  cases h
  obtain ⟨locals, hlength, rfl⟩ := Local.mapM_render_eq_ok hlines
  rw [Statement.render_eq_layout, Layout.render_eq_ok_iff] at hinside
  obtain ⟨texts, htexts, rfl⟩ := hinside
  have hne : texts ≠ [] := by
    rintro rfl
    exact Statement.lines_ne_nil scope body.statement htexts
  refine ⟨"fn " ++ (decl.name.joined
    ++ genericParams decl.signature.regionParams decl.signature.typeParams)
    ++ parenthesized parameters ++ " -> " ++ result, locals, texts, hlength, htexts, ?_⟩
  have hbodyLines : Layout.indentedTexts (indent ++ step) step texts ≠ [] := by
    simpa [Layout.indentedTexts] using hne
  have hempty : (((locals.map fun text => indent ++ step ++ text ++ ";").map
      fun line : Text => line ++ "\n").isEmpty)
      = (locals.map fun text => indent ++ step ++ text ++ ";").isEmpty := by simp
  rw [hempty, Layout.locals_append_body _ hbodyLines,
    Layout.block_intercalate _ _ (List.append_ne_nil_of_right_ne_nil _ hbodyLines)]
  simp [Layout.functionTexts]

/-! ## The layout law -/

/-- A statement has a text exactly when each of its lines has one, and the text is the lines behind
their indentation.  Names without line ends keep every line on one line, whatever the literals
are, so splitting the text gives the lines back.  The text of a function has the lines of its body
one step deeper. -/
theorem Statement.layout_law (scope : Scope) (indent step : Text) (statement : Statement) :
    ((∃ error, statement.render scope step indent = .error error) ↔
      ∃ line ∈ statement.lines scope, ∃ error, line.text = .error error) ∧
    (∀ output, statement.render scope step indent = .ok output ↔
      ∃ texts, statement.lines scope = Layout.ofTexts texts ∧
        output = Text.intercalate "\n" (Layout.indentedTexts indent step texts)) ∧
    ((∀ reference ∈ statement.references, scope.ShowsOneLine reference) →
      (∀ line ∈ statement.lines scope, ∀ text, line.text = .ok text → OneLine text) ∧
      (OneLine indent → OneLine step → ∀ texts, statement.lines scope = Layout.ofTexts texts →
        ∀ output, statement.render scope step indent = .ok output →
          output.split '\n' = Layout.indentedTexts indent step texts)) ∧
    (∀ (decl : FunDecl) (body : Body) (output : Text), decl.body = some body →
      body.statement = statement → decl.render scope step indent = .ok output →
        ∃ heading locals texts, locals.length = body.locals.length ∧
          statement.lines scope = Layout.ofTexts texts ∧
            output = Text.intercalate "\n"
              (Layout.functionTexts indent step heading locals texts)) := by
  refine ⟨?_, ?_, ?_, ?_⟩
  · rw [Statement.render_eq_layout]
    exact Layout.render_eq_error_iff indent step (statement.lines scope)
  · intro output
    rw [Statement.render_eq_layout]
    exact Layout.render_eq_ok_iff indent step (statement.lines scope) output
  · intro hnames
    have hlines := Statement.allOneLine_lines statement hnames
    refine ⟨hlines, fun hindent hstep texts htexts output houtput => ?_⟩
    have hne : texts ≠ [] := by
      rintro rfl
      exact Statement.lines_ne_nil scope statement htexts
    rw [Statement.render_eq_layout, htexts, Layout.render_ofTexts] at houtput
    cases houtput
    rw [htexts] at hlines
    exact Layout.split_indentedTexts hindent hstep hne hlines
  · rintro decl body output hbody rfl houtput
    exact FunDecl.render_eq_layout hbody houtput

/-- A line end in a literal does not break the line. -/
theorem Statement.split_layout_of_loop :
    Text.split '\n' "loop \x7b\n  assert(const (\"a\\nb\" : bool) == true);\n  break 0\n\x7d"
      = (["loop \x7b", "  assert(const (\"a\\nb\" : bool) == true);", "  break 0",
          "\x7d"] : List Text) := by
  have hlaw := Statement.layout_law { crate := {} } "" "  "
    (.mk none (.loop (.mk none (.sequence
      (.mk none (.action (.assert ⟨.const .bool (.string "a\nb"), true⟩)))
      (.mk none (.action (.brk 0)))))))
  have hlines := hlaw.2.2.1 fun _ hreference => absurd hreference List.not_mem_nil
  exact hlines.2 (by decide) (by decide)
    [(0, "loop \x7b"), (1, "assert(const (\"a\\nb\" : bool) == true);"), (1, "break 0"),
      (0, "\x7d")] rfl _ rfl

end CrateListing
