import CrateListing.Proofs.Delimiters
import CrateListing.Proofs.Skeleton

/-!
# Reading the structure of a statement from its text

The text of a skeleton can be read in one way only, whatever the indentation is.
A reader who knows the indentation of the next line takes it away and reads on to
the end of the line.  A line that ends with an opening brace is a heading, and the
heading tells which block it opens; any other line is a leaf, and the semicolon at
its end tells whether another item follows.  This needs that no text has a line
end, and that leaves do not end with an opening brace or a semicolon.

Main definitions:

- `Skeleton.Items.Legible`: the texts in a skeleton are of this kind.
- `Scope.ShowsPlainly`: the names of a reference have no blanks, line ends, braces or semicolons.

Main results:

- Theorem `Skeleton.Items.text_append_inj`: a text determines its skeleton, and where it ends.
- Theorem `Action.closed_render`: how leaves end.
- Theorem `Statement.legible_skeleton`: the skeletons of statements with plain names are legible.
-/

namespace CrateListing

open Outcome

/-! ## Texts up to a delimiter -/

/-- A text that is empty or starts with a given character. -/
def OpensWith (c : CodePoint) (text : Text) : Prop :=
  ∀ d ∈ text.toList.head?, d = c

/-- The empty text opens with anything, since nothing contradicts it. -/
theorem opensWith_empty (c : CodePoint) : OpensWith c "" := by
  simp [OpensWith]

theorem opensWith_newline (rest : Text) : OpensWith '\n' ("\n" ++ rest) := by
  simp [OpensWith]

theorem opensWith_blank (rest : Text) : OpensWith ' ' (" " ++ rest) := by
  simp [OpensWith]

/-- A semicolon is no line end. -/
theorem not_opensWith_newline_semicolon (rest : Text) : ¬ OpensWith '\n' (";\n" ++ rest) := by
  simp [OpensWith]

/-- Two texts without a delimiter are the same when they are the same up to it. -/
theorem append_inj_of_opensWith {c : CodePoint} {first second rest other : Text}
    (hfirst : c ∉ first.toList) (hsecond : c ∉ second.toList) (hrest : OpensWith c rest)
    (hother : OpensWith c other) (h : first ++ rest = second ++ other) :
    first = second ∧ rest = other := by
  have hbefore {text : Text} (htext : c ∉ text.toList) : ∀ d ∈ text.toList, ¬ d = c := by
    rintro d hd rfl
    exact htext hd
  exact append_inj_of_opens (hbefore hfirst) (hbefore hsecond) hrest hother h

/-! ## Numerals and labels -/

namespace Text

/-- There is no blank in a numeral. -/
theorem blank_notMem_decimal (n : Int) : .char ' ' ∉ (decimal n).toList :=
  notMem_decimal (by decide) (by decide) n

/-- Different natural numbers have different numerals. -/
theorem natural_injective : Function.Injective natural := by
  intro n m h
  have hdigits : Nat.toDigits 10 n = Nat.toDigits 10 m := by
    refine (List.map_inj_right CodePoint.char_injective).1 ?_
    rw [← toList_natural, ← toList_natural, h]
  calc
    n = Nat.ofDigitChars 10 (Nat.toDigits 10 n) 0 := Nat.ofDigitChars_ten_toDigits.symm
    _ = Nat.ofDigitChars 10 (Nat.toDigits 10 m) 0 := by rw [hdigits]
    _ = m := Nat.ofDigitChars_ten_toDigits

/-- Different integers have different numerals. -/
theorem decimal_injective : Function.Injective decimal := by
  have hsign : ∀ n m : Nat, natural n ≠ "-" ++ natural m := by
    intro n m heq
    have hmem : .char '-' ∈ (natural n).toList := by simp [heq]
    rw [toList_natural] at hmem
    exact absurd (isDigit_of_mem_toDigits hmem) (by decide)
  intro a b h
  cases a with
  | ofNat n =>
      cases b with
      | ofNat m => exact congrArg Int.ofNat (natural_injective h)
      | negSucc m => exact absurd h (hsign n (m + 1))
  | negSucc n =>
      cases b with
      | ofNat m => exact absurd h.symm (hsign m (n + 1))
      | negSucc m =>
          have hdigits := natural_injective ((Text.append_right_inj "-").1 h)
          exact congrArg Int.negSucc (Nat.succ_injective hdigits)

end Text

/-- The first label, and what is behind it. -/
theorem labelText_cons (label : Text) (rest : List Text) :
    labelText (label :: rest)
      = "| " ++ (label ++ if rest = [] then ("" : Text) else " " ++ labelText rest) := by
  cases rest with
  | nil => simp [labelText]
  | cons next more =>
      rw [labelText, List.map_cons, Text.intercalate_cons_of_ne_nil (by simp)]
      simp [labelText, Text.append_assoc]

/-- Labels can be read from the line of a branch. -/
theorem labelText_decimal_inj {labels others : List Int}
    (h : labelText (labels.map Text.decimal) = labelText (others.map Text.decimal)) :
    labels = others := by
  induction labels generalizing others with
  | nil =>
      cases others with
      | nil => rfl
      | cons other more =>
          rw [List.map_cons, labelText_cons] at h
          exact absurd (congrArg Text.toList h) (by simp [labelText])
  | cons label rest ih =>
      cases others with
      | nil =>
          rw [List.map_cons, labelText_cons] at h
          exact absurd (congrArg Text.toList h) (by simp [labelText])
      | cons other more =>
          rw [List.map_cons, List.map_cons, labelText_cons, labelText_cons,
            Text.append_right_inj] at h
          have hopens : ∀ texts : List Text,
              OpensWith ' ' (if texts = [] then ("" : Text) else " " ++ labelText texts) := by
            intro texts
            split
            · exact opensWith_empty ' '
            · exact opensWith_blank (labelText texts)
          obtain ⟨hlabel, hrest⟩ := append_inj_of_opensWith (Text.blank_notMem_decimal label)
            (Text.blank_notMem_decimal other) (hopens _) (hopens _) h
          rw [Text.decimal_injective hlabel]
          refine congrArg (other :: ·) (ih ?_)
          cases rest with
          | nil =>
              cases more with
              | nil => rfl
              | cons next others => simp at hrest
          | cons next labels =>
              cases more with
              | nil => simp at hrest
              | cons next others => simpa [Text.append_right_inj] using hrest

/-! ## Blocks -/

/-- A block with a text behind it, line by line. -/
theorem block_append (indent heading inside rest : Text) :
    block indent heading inside ++ rest
      = indent ++ ((heading ++ " \x7b")
          ++ ("\n" ++ (inside ++ ("\n" ++ (indent ++ ("\x7d" ++ rest)))))) := by
  have hopening : (" \x7b\n" : Text) = " \x7b" ++ "\n" := by decide
  simp only [block, hopening, Text.append_assoc]

/-- There is no line end in a heading. -/
theorem newline_notMem_heading {heading : Text} (h : OneLine heading) :
    .char '\n' ∉ (heading ++ " \x7b").toList :=
  (oneLine_append heading " \x7b").2 ⟨h, by decide⟩

/-- A block can be read when its heading is on one line and its inside can be read up to the line
of the closing brace. -/
theorem block_append_inj {P : Prop} {indent heading title inside body rest other : Text}
    (hheading : OneLine heading) (htitle : OneLine title)
    (hinside : ∀ {below above : Text}, OpensWith '\n' below → OpensWith '\n' above →
      inside ++ below = body ++ above → P ∧ below = above)
    (h : block indent heading inside ++ rest = block indent title body ++ other) :
    heading = title ∧ P ∧ rest = other := by
  rw [block_append, block_append, Text.append_right_inj] at h
  obtain ⟨hlines, hbelow⟩ := append_inj_of_opensWith (newline_notMem_heading hheading)
    (newline_notMem_heading htitle) (opensWith_newline _) (opensWith_newline _) h
  obtain ⟨hP, hends⟩ := hinside (opensWith_newline _) (opensWith_newline _)
    ((Text.append_right_inj "\n").1 hbelow)
  refine ⟨(Text.append_left_inj _).1 hlines, hP, ?_⟩
  simpa only [Text.append_right_inj] using hends

/-! ## Leaves -/

/-- A text that does not end with an opening brace or a semicolon. -/
def Closed (text : Text) : Prop :=
  text.toList.getLast? ≠ some (.char '\x7b') ∧ text.toList.getLast? ≠ some (.char ';')

instance (text : Text) : Decidable (Closed text) :=
  inferInstanceAs (Decidable (_ ∧ _))

/-- Closed texts one behind the other are closed. -/
theorem closed_append {first second : Text} (hfirst : Closed first) (hsecond : Closed second) :
    Closed (first ++ second) := by
  rw [Closed, Text.toList_append, List.getLast?_append]
  cases hlast : second.toList.getLast? with
  | none => exact hfirst
  | some c =>
      rw [Closed, hlast] at hsecond
      exact hsecond

/-- What stands in front of a text that is not empty does not matter. -/
theorem closed_append_right (first : Text) {second : Text} (h : second ≠ "" ∧ Closed second) :
    Closed (first ++ second) := by
  obtain ⟨hne, hsecond⟩ := h
  rw [Closed, Text.toList_append, List.getLast?_append]
  cases hlast : second.toList.getLast? with
  | none =>
      rw [List.getLast?_eq_none_iff, Text.toList_eq_nil_iff] at hlast
      exact absurd hlast hne
  | some c =>
      rw [Closed, hlast] at hsecond
      exact hsecond

/-- A text without braces and semicolons is closed. -/
theorem closed_of_notMem {text : Text} (hbrace : .char '\x7b' ∉ text.toList)
    (hsemicolon : .char ';' ∉ text.toList) : Closed text :=
  ⟨fun hlast => hbrace (List.mem_of_getLast? hlast),
    fun hlast => hsemicolon (List.mem_of_getLast? hlast)⟩

/-- A text with a semicolon at its end is not closed. -/
theorem not_closed_semicolon (text : Text) : ¬ Closed (text ++ ";") := by
  simp [Closed]

/-- A heading is not closed, since its block is open. -/
theorem not_closed_heading (heading : Text) : ¬ Closed (heading ++ " \x7b") := by
  simp [Closed]

namespace Skeleton

/-- What may stand behind an item: nothing or a line end, and a semicolon in front of it if another
item follows. -/
def Follows (rest : Text) : Prop :=
  ∃ mark below : Text, (mark = "" ∨ mark = ";") ∧ OpensWith '\n' below ∧ rest = mark ++ below

/-- What begins with a line end follows an item. -/
theorem follows_of_opensWith {rest : Text} (h : OpensWith '\n' rest) : Follows rest :=
  ⟨"", rest, Or.inl rfl, h, (Text.empty_append).symm⟩

theorem follows_semicolon (rest : Text) : Follows (";\n" ++ rest) := by
  have hmark : (";\n" : Text) = ";" ++ "\n" := by decide
  exact ⟨";", "\n" ++ rest, Or.inr rfl, opensWith_newline rest,
    by rw [hmark, Text.append_assoc]⟩

/-- The first line of an item behind its indentation ends where the line ends. -/
theorem oneLine_append_mark {text mark : Text} (htext : OneLine text)
    (hmark : mark = "" ∨ mark = ";") : OneLine (text ++ mark) := by
  rcases hmark with rfl | rfl
  · simpa using htext
  · exact (oneLine_append text ";").2 ⟨htext, by decide⟩

/-- Leaves can be read up to the end of the line. -/
theorem leaf_append_inj {text other rest more : Text} (htext : OneLine text)
    (hclosed : Closed text) (hother : OneLine other) (hotherClosed : Closed other)
    (hrest : Follows rest) (hmore : Follows more) (h : text ++ rest = other ++ more) :
    text = other ∧ rest = more := by
  obtain ⟨mark, below, hmark, hbelow, rfl⟩ := hrest
  obtain ⟨sign, under, hsign, hunder, rfl⟩ := hmore
  rw [← Text.append_assoc, ← Text.append_assoc] at h
  obtain ⟨hlines, rfl⟩ := append_inj_of_opensWith (oneLine_append_mark htext hmark)
    (oneLine_append_mark hother hsign) hbelow hunder h
  rcases hmark with rfl | rfl
  · rcases hsign with rfl | rfl
    · exact ⟨by simpa using hlines, rfl⟩
    · rw [Text.append_empty] at hlines
      exact absurd (hlines ▸ hclosed) (not_closed_semicolon other)
  · rcases hsign with rfl | rfl
    · rw [Text.append_empty] at hlines
      exact absurd (hlines ▸ hotherClosed) (not_closed_semicolon text)
    · exact ⟨(Text.append_left_inj ";").1 hlines, rfl⟩

/-- A leaf is no heading. -/
theorem leaf_append_ne_block {indent text rest heading inside more : Text}
    (htext : OneLine text) (hclosed : Closed text) (hrest : Follows rest)
    (hheading : OneLine heading) :
    indent ++ text ++ rest ≠ block indent heading inside ++ more := by
  intro h
  obtain ⟨mark, below, hmark, hbelow, rfl⟩ := hrest
  rw [block_append, Text.append_assoc, Text.append_right_inj, ← Text.append_assoc] at h
  obtain ⟨hlines, _⟩ := append_inj_of_opensWith (oneLine_append_mark htext hmark)
    (newline_notMem_heading hheading) hbelow (opensWith_newline _) h
  rcases hmark with rfl | rfl
  · rw [Text.append_empty] at hlines
    exact not_closed_heading heading (hlines ▸ hclosed)
  · have hlast := congrArg (fun line => line.toList.getLast?) hlines
    simp at hlast

/-! ## Reading skeletons -/

mutual
/-- The texts in an item are on one line, and leaves do not end like other lines. -/
def Item.Legible : Item → Prop
  | .leaf text => OneLine text ∧ Closed text
  | .loop body => Items.Legible body
  | .branch condition onTrue onFalse =>
      OneLine condition ∧ Items.Legible onTrue ∧ Items.Legible onFalse
  | .choice _ subject clauses => OneLine subject ∧ Clauses.Legible clauses

/-- The texts in all items are legible. -/
def Items.Legible : Items → Prop
  | .one item => Item.Legible item
  | .cons item rest => Item.Legible item ∧ Items.Legible rest

/-- The texts in all clauses are legible. -/
def Clauses.Legible : Clauses → Prop
  | .otherwise body => Items.Legible body
  | .cons _ body rest => Items.Legible body ∧ Clauses.Legible rest
end

/-- The heading of an item that is not a leaf. -/
def Item.heading? : Item → Option Text
  | .leaf _ => none
  | .loop _ => some "loop"
  | .branch condition _ _ => some ("if (" ++ condition ++ ")")
  | .choice kind subject _ => some (kind.opening ++ subject ++ ")")

/-- An item with a heading begins with a block. -/
theorem Item.exists_block {item : Item} {heading : Text} (h : item.heading? = some heading)
    (step indent : Text) :
    ∃ inside below, item.text step indent = block indent heading inside ++ below := by
  cases item with
  | leaf text => cases h
  | loop body =>
      cases h
      exact ⟨_, "", by rw [Item.text, Text.append_empty]⟩
  | branch condition onTrue onFalse =>
      cases h
      exact ⟨_, _, by rw [Item.text, Text.append_assoc]⟩
  | choice kind subject clauses =>
      cases h
      exact ⟨_, "", by rw [Item.text, Text.append_empty]⟩

/-- The opening of a choice is one line. -/
theorem ChoiceKind.oneLine_opening (kind : ChoiceKind) : OneLine kind.opening := by
  cases kind <;> decide

/-- The heading of a legible item is one line. -/
theorem Item.Legible.oneLine_heading {item : Item} (hitem : item.Legible) {heading : Text}
    (h : item.heading? = some heading) : OneLine heading := by
  cases item with
  | leaf text => cases h
  | loop body =>
      cases h
      decide
  | branch condition onTrue onFalse =>
      cases h
      rw [Item.Legible] at hitem
      simp +decide [hitem.1]
  | choice kind subject clauses =>
      cases h
      rw [Item.Legible] at hitem
      simp +decide [hitem.1, kind.oneLine_opening]

/-- An item without a heading is a leaf. -/
theorem Item.exists_leaf {item : Item} (h : item.heading? = none) : ∃ text, item = .leaf text := by
  cases item with
  | leaf text => exact ⟨text, rfl⟩
  | loop body => cases h
  | branch condition onTrue onFalse => cases h
  | choice kind subject clauses => cases h

/-- The first line of an item tells whether it is a leaf, and its heading if it is not. -/
theorem Item.heading?_eq {item other : Item} {step indent rest more : Text}
    (hitem : item.Legible) (hother : other.Legible) (hrest : Follows rest) (hmore : Follows more)
    (h : item.text step indent ++ rest = other.text step indent ++ more) :
    item.heading? = other.heading? := by
  cases hheading : item.heading? with
  | none =>
      obtain ⟨text, rfl⟩ := Item.exists_leaf hheading
      rw [Item.Legible] at hitem
      cases htitle : other.heading? with
      | none => rfl
      | some title =>
          obtain ⟨inside, below, htext⟩ := Item.exists_block htitle step indent
          rw [htext, Text.append_assoc, Item.text] at h
          exact absurd h (leaf_append_ne_block hitem.1 hitem.2 hrest
            (hother.oneLine_heading htitle))
  | some heading =>
      obtain ⟨inside, below, htext⟩ := Item.exists_block hheading step indent
      have honeLine := hitem.oneLine_heading hheading
      cases htitle : other.heading? with
      | none =>
          obtain ⟨leaf, rfl⟩ := Item.exists_leaf htitle
          rw [Item.Legible] at hother
          rw [htext, Text.append_assoc, Item.text] at h
          exact absurd h.symm (leaf_append_ne_block hother.1 hother.2 hmore honeLine)
      | some title =>
          obtain ⟨body, under, hbody⟩ := Item.exists_block htitle step indent
          rw [htext, hbody, Text.append_assoc, Text.append_assoc, block_append, block_append,
            Text.append_right_inj] at h
          have hlines := append_inj_of_opensWith (newline_notMem_heading honeLine)
            (newline_notMem_heading (hother.oneLine_heading htitle)) (opensWith_newline _)
            (opensWith_newline _) h
          rw [(Text.append_left_inj _).1 hlines.1]

/-- Items that are both leaves, or that have the same heading. -/
inductive Item.Alike : Item → Item → Prop where
  | leaf (text other : Text) : Item.Alike (.leaf text) (.leaf other)
  | loop (body inside : Items) : Item.Alike (.loop body) (.loop inside)
  | branch (condition : Text) (onTrue onFalse whenTrue whenFalse : Items) :
      Item.Alike (.branch condition onTrue onFalse) (.branch condition whenTrue whenFalse)
  | choice (kind : ChoiceKind) (subject : Text) (clauses others : Clauses) :
      Item.Alike (.choice kind subject clauses) (.choice kind subject others)

/-- A heading tells what it opens by its first character. -/
theorem Item.alike_of_heading?_eq {item other : Item} (h : item.heading? = other.heading?) :
    item.Alike other := by
  have hinitial := congrArg (fun heading => heading.bind fun text => text.toList.head?) h
  cases item with
  | leaf text =>
      obtain ⟨other, rfl⟩ := Item.exists_leaf h.symm
      exact .leaf text other
  | loop body =>
      cases other with
      | leaf text => cases h
      | loop inside => exact .loop body inside
      | branch => simp [Item.heading?] at hinitial
      | choice kind => cases kind <;> simp [Item.heading?, ChoiceKind.opening] at hinitial
  | branch condition onTrue onFalse =>
      cases other with
      | leaf text => cases h
      | loop => simp [Item.heading?] at hinitial
      | branch test whenTrue whenFalse =>
          obtain rfl : condition = test := by
            simpa [Item.heading?, Text.append_assoc] using h
          exact .branch condition onTrue onFalse whenTrue whenFalse
      | choice kind => cases kind <;> simp [Item.heading?, ChoiceKind.opening] at hinitial
  | choice kind subject clauses =>
      cases other with
      | leaf text => cases h
      | loop => cases kind <;> simp [Item.heading?, ChoiceKind.opening] at hinitial
      | branch => cases kind <;> simp [Item.heading?, ChoiceKind.opening] at hinitial
      | choice sort title others =>
          obtain rfl : kind = sort := by
            cases kind <;> cases sort <;>
              simp [Item.heading?, ChoiceKind.opening] at hinitial ⊢
          obtain rfl : subject = title := by
            simpa [Item.heading?, Text.append_assoc] using h
          exact .choice kind subject clauses others

/-- The mark of the last resort is no label. -/
theorem labelText_ne_otherwise (labels : List Text) : labelText labels ≠ "_" := by
  intro h
  cases labels with
  | nil => exact absurd h (by decide)
  | cons label rest =>
      rw [labelText_cons] at h
      have hfirst := congrArg (fun text => text.toList.head?) h
      simp at hfirst

/-- The heading of a clause is one line. -/
theorem oneLine_clauseHeading (labels : List Int) :
    OneLine (labelText (labels.map Text.decimal) ++ " =>") := by
  refine Layout.oneLine_label fun text htext => ?_
  obtain ⟨label, _, rfl⟩ := List.mem_map.1 htext
  exact oneLine_decimal label

mutual
/-- The text of an item determines the item, and where it ends. -/
theorem Item.text_append_inj {step indent : Text} :
    (item other : Item) → {rest more : Text} → item.Legible → other.Legible →
      Follows rest → Follows more →
        item.text step indent ++ rest = other.text step indent ++ more →
          item = other ∧ rest = more
  | .leaf text, other, rest, more, hitem, hother, hrest, hmore, h => by
      cases Item.alike_of_heading?_eq (Item.heading?_eq hitem hother hrest hmore h) with
      | leaf text shown =>
          rw [Item.Legible] at hitem hother
          simp only [Item.text, Text.append_assoc, Text.append_right_inj] at h
          obtain ⟨rfl, rfl⟩ := leaf_append_inj hitem.1 hitem.2 hother.1 hother.2 hrest hmore h
          exact ⟨rfl, rfl⟩
  | .loop body, other, rest, more, hitem, hother, hrest, hmore, h => by
      cases Item.alike_of_heading?_eq (Item.heading?_eq hitem hother hrest hmore h) with
      | loop body inside =>
          rw [Item.Legible] at hitem hother
          rw [Item.text, Item.text] at h
          obtain ⟨-, rfl, rfl⟩ := block_append_inj (by decide) (by decide)
            (Items.text_append_inj body inside hitem hother) h
          exact ⟨rfl, rfl⟩
  | .branch condition onTrue onFalse, other, rest, more, hitem, hother, hrest, hmore, h => by
      cases Item.alike_of_heading?_eq (Item.heading?_eq hitem hother hrest hmore h) with
      | branch condition onTrue onFalse whenTrue whenFalse =>
          have hheading : OneLine ("if (" ++ (condition ++ ")")) := by
            simpa [and_assoc] using hitem.oneLine_heading rfl
          rw [Item.Legible] at hitem hother
          simp only [Item.text, Text.append_assoc] at h
          obtain ⟨-, rfl, helse⟩ := block_append_inj hheading hheading
            (Items.text_append_inj onTrue whenTrue hitem.2.1 hother.2.1) h
          obtain ⟨-, rfl, rfl⟩ := block_append_inj (by decide) (by decide)
            (Items.text_append_inj onFalse whenFalse hitem.2.2 hother.2.2)
            ((Text.append_right_inj "\n").1 helse)
          exact ⟨rfl, rfl⟩
  | .choice kind subject clauses, other, rest, more, hitem, hother, hrest, hmore, h => by
      cases Item.alike_of_heading?_eq (Item.heading?_eq hitem hother hrest hmore h) with
      | choice kind subject clauses others =>
          have hheading := hitem.oneLine_heading rfl
          rw [Item.Legible] at hitem hother
          rw [Item.text, Item.text] at h
          obtain ⟨-, rfl, rfl⟩ := block_append_inj hheading hheading
            (Clauses.text_append_inj clauses others hitem.2 hother.2) h
          exact ⟨rfl, rfl⟩

/-- The text of items up to the end of a line determines them. -/
theorem Items.text_append_inj {step indent : Text} :
    (items others : Items) → items.Legible → others.Legible → {rest more : Text} →
      OpensWith '\n' rest → OpensWith '\n' more →
        items.text step indent ++ rest = others.text step indent ++ more →
          items = others ∧ rest = more
  | .one item, .one other, hitems, hothers, rest, more, hrest, hmore, h => by
      simp only [Items.Legible] at hitems hothers
      rw [Items.text, Items.text] at h
      obtain ⟨rfl, rfl⟩ := Item.text_append_inj item other hitems hothers
        (follows_of_opensWith hrest) (follows_of_opensWith hmore) h
      exact ⟨rfl, rfl⟩
  | .one item, .cons other others, hitems, hothers, rest, more, hrest, hmore, h => by
      -- One list ends here, and the other goes on behind a semicolon.
      simp only [Items.Legible] at hitems hothers
      simp only [Items.text, Text.append_assoc] at h
      obtain ⟨-, rfl⟩ := Item.text_append_inj item other hitems hothers.1
        (follows_of_opensWith hrest) (follows_semicolon _) h
      exact absurd hrest (not_opensWith_newline_semicolon _)
  | .cons item items, .one other, hitems, hothers, rest, more, hrest, hmore, h => by
      simp only [Items.Legible] at hitems hothers
      simp only [Items.text, Text.append_assoc] at h
      obtain ⟨-, rfl⟩ := Item.text_append_inj item other hitems.1 hothers
        (follows_semicolon _) (follows_of_opensWith hmore) h
      exact absurd hmore (not_opensWith_newline_semicolon _)
  | .cons item items, .cons other others, hitems, hothers, rest, more, hrest, hmore, h => by
      simp only [Items.Legible] at hitems hothers
      simp only [Items.text, Text.append_assoc] at h
      obtain ⟨rfl, hbelow⟩ := Item.text_append_inj item other hitems.1 hothers.1
        (follows_semicolon _) (follows_semicolon _) h
      obtain ⟨rfl, rfl⟩ := Items.text_append_inj items others hitems.2 hothers.2 hrest hmore
        ((Text.append_right_inj ";\n").1 hbelow)
      exact ⟨rfl, rfl⟩

/-- The text of clauses determines them, as the last resort is the last of them. -/
theorem Clauses.text_append_inj {step indent : Text} :
    (clauses others : Clauses) → clauses.Legible → others.Legible → {rest more : Text} →
      OpensWith '\n' rest → OpensWith '\n' more →
        clauses.text step indent ++ rest = others.text step indent ++ more →
          clauses = others ∧ rest = more
  | .otherwise body, .otherwise inside, hclauses, hothers, rest, more, hrest, hmore, h => by
      simp only [Clauses.Legible] at hclauses hothers
      rw [Clauses.text, Clauses.text] at h
      obtain ⟨-, rfl, rfl⟩ := block_append_inj (by decide) (by decide)
        (Items.text_append_inj body inside hclauses hothers) h
      exact ⟨rfl, rfl⟩
  | .otherwise body, .cons labels inside others, hclauses, hothers, rest, more,
      hrest, hmore, h => by
      -- A clause with labels is told from the last resort by its heading alone.
      simp only [Clauses.Legible] at hclauses hothers
      simp only [Clauses.text, Text.append_assoc] at h
      obtain ⟨hlabels, -⟩ := block_append_inj (by decide) (oneLine_clauseHeading labels)
        (Items.text_append_inj body inside hclauses hothers.1) h
      exact absurd ((Text.append_left_inj " =>").1 hlabels).symm (labelText_ne_otherwise _)
  | .cons labels body clauses, .otherwise inside, hclauses, hothers, rest, more,
      hrest, hmore, h => by
      simp only [Clauses.Legible] at hclauses hothers
      simp only [Clauses.text, Text.append_assoc] at h
      obtain ⟨hlabels, -⟩ := block_append_inj (oneLine_clauseHeading labels) (by decide)
        (Items.text_append_inj body inside hclauses.1 hothers) h
      exact absurd ((Text.append_left_inj " =>").1 hlabels) (labelText_ne_otherwise _)
  | .cons labels body clauses, .cons marks inside others, hclauses, hothers, rest, more,
      hrest, hmore, h => by
      simp only [Clauses.Legible] at hclauses hothers
      simp only [Clauses.text, Text.append_assoc] at h
      obtain ⟨hlabels, rfl, hbelow⟩ := block_append_inj (oneLine_clauseHeading labels)
        (oneLine_clauseHeading marks) (Items.text_append_inj body inside hclauses.1 hothers.1) h
      obtain rfl := labelText_decimal_inj ((Text.append_left_inj " =>").1 hlabels)
      obtain ⟨rfl, rfl⟩ := Clauses.text_append_inj clauses others hclauses.2 hothers.2 hrest hmore
        ((Text.append_right_inj "\n").1 hbelow)
      exact ⟨rfl, rfl⟩
end

end Skeleton

/-! ## How leaves end -/

/-- A name without blanks, line ends, braces and semicolons. -/
def Plain (name : Text) : Prop :=
  ∀ c ∈ name.toList, c ∉ [.char ' ', .char '\n', .char '\x7b', .char '\x7d', .char ';']

instance (name : Text) : Decidable (Plain name) :=
  inferInstanceAs (Decidable (∀ c ∈ name.toList,
    c ∉ [.char ' ', .char '\n', .char '\x7b', .char '\x7d', .char ';']))

/-- A plain name is one line. -/
theorem Plain.oneLine {name : Text} (h : Plain name) : OneLine name := by
  intro hmem
  exact h '\n' hmem (by decide)

/-- A plain name is closed. -/
theorem Plain.closed {name : Text} (h : Plain name) : Closed name := by
  apply closed_of_notMem
  · intro hmem
    exact h '\x7b' hmem (by decide)
  · intro hmem
    exact h ';' hmem (by decide)

/-- Every name that a reference is shown by is plain. -/
def Scope.ShowsPlainly (scope : Scope) (reference : Reference) : Prop :=
  ∀ name, scope.Shows name reference → Plain name

/-- What is shown plainly is shown on one line. -/
theorem Scope.ShowsPlainly.showsOneLine {scope : Scope} {reference : Reference}
    (h : scope.ShowsPlainly reference) : scope.ShowsOneLine reference :=
  fun name hname => (h name hname).oneLine

/-- A numeral is closed. -/
theorem closed_decimal (n : Int) : Closed (Text.decimal n) := by
  apply closed_of_notMem
  · exact Text.notMem_decimal (by decide) (by decide) n
  · exact Text.notMem_decimal (by decide) (by decide) n

/-- A text that ends with a closing parenthesis is closed. -/
theorem closed_append_parenthesized (first : Text) (items : List Text) :
    Closed (first ++ parenthesized items) := by
  rw [parenthesized, ← Text.append_assoc]
  exact closed_append_right _ (by decide)

/-- The text of a projection is closed when the names in it are plain. -/
theorem Projection.closed_render {scope : Scope} {inner : Text} {step : Projection}
    (h : ∀ reference ∈ step.references, scope.ShowsPlainly reference) :
    Gives (step.render scope inner) Closed := by
  cases step with
  | deref => exact gives_ok (closed_append_right _ (by decide))
  | derefBox => exact gives_ok (closed_append_right _ (by decide))
  | field owner index =>
      cases owner with
      | tuple arity =>
          exact gives_ok (closed_append (closed_append_right _ (by decide)) (closed_decimal index))
      | adt type variant =>
          have hnames := h (.field type variant index) (by simp [Projection.references])
          have hfield : Gives (scope.fieldName type variant index) Closed :=
            fun name hname => (hnames name (Or.inl hname)).closed
          cases variant with
          | none =>
              refine hfield.bind_pure fun field hfield => ?_
              exact closed_append (closed_append_right _ (by decide)) hfield
          | some number =>
              refine hfield.bind fun field hfield => ?_
              intro text htext
              obtain ⟨variantName, _, htext⟩ := bind_eq_ok_iff.1 htext
              cases htext
              exact closed_append (closed_append_right _ (by decide)) hfield

/-- The text of a path is closed when the names in it are plain. -/
theorem Place.closed_renderPath {scope : Scope} {inner : Text} (hinner : Closed inner)
    {path : List Projection}
    (h : ∀ reference ∈ path.flatMap Projection.references, scope.ShowsPlainly reference) :
    Gives (Place.renderPath scope inner path) Closed := by
  induction path generalizing inner with
  | nil => exact gives_ok hinner
  | cons step rest ih =>
      rw [List.flatMap_cons, List.forall_mem_append] at h
      exact (Projection.closed_render h.1).bind fun shown hshown => ih hshown h.2

theorem Place.closed_render {scope : Scope} {place : Place}
    (h : ∀ reference ∈ place.references, scope.ShowsPlainly reference) :
    Gives (place.render scope) Closed := by
  rw [Place.references, List.forall_mem_cons] at h
  have hroot : Gives (scope.localName place.root) Closed :=
    fun name hname => (h.1 name hname).closed
  exact hroot.bind fun root hroot => Place.closed_renderPath hroot h.2

theorem Operand.closed_render {scope : Scope} {operand : Operand}
    (h : ∀ reference ∈ operand.references, scope.ShowsPlainly reference) :
    Gives (operand.render scope) Closed := by
  cases operand with
  | copy place =>
      exact (Place.closed_render h).bind_pure fun shown hshown => closed_append (by decide) hshown
  | move place =>
      exact (Place.closed_render h).bind_pure fun shown hshown => closed_append (by decide) hshown
  | const type value =>
      -- Whatever a literal ends with, there is a parenthesis behind its type.
      intro text htext
      obtain ⟨shownValue, _, htext⟩ := bind_eq_ok_iff.1 htext
      obtain ⟨shownType, _, htext⟩ := bind_eq_ok_iff.1 htext
      cases htext
      exact closed_append_right _ (by decide)

theorem AggregateKind.closed_render {scope : Scope} {operands : List Text}
    {kind : AggregateKind} (h : ∀ reference ∈ kind.references, scope.ShowsPlainly reference) :
    Gives (kind.render scope operands) Closed := by
  cases kind with
  | tuple => exact gives_ok (closed_append_right _ (by decide))
  | option variant _ =>
      rw [AggregateKind.render]
      split
      · exact gives_ok (by decide)
      · exact gives_ok (closed_append_parenthesized _ operands)
  | adt type variant regions types =>
      have hnames := h (.fields type variant) (by simp [AggregateKind.references])
      have hname : Gives (aggregateName scope type variant) Closed := by
        cases variant with
        | none => exact fun name hname => (hnames name (Or.inl hname)).closed
        | some number =>
            intro text htext
            obtain ⟨name, _, htext⟩ := bind_eq_ok_iff.1 htext
            obtain ⟨variantName, hvariantName, htext⟩ := bind_eq_ok_iff.1 htext
            cases htext
            refine closed_append (closed_append_right name (by decide)) ?_
            exact (hnames variantName (Or.inr (Or.inl ⟨number, rfl, hvariantName⟩))).closed
      refine hname.bind fun name hname => ?_
      intro text htext
      obtain ⟨found, _, htext⟩ := bind_eq_ok_iff.1 htext
      cases found with
      | none =>
          cases htext
          split
          · exact hname
          · exact closed_append_parenthesized name operands
      | some names =>
          cases htext
          exact closed_append_right _ (by decide)

theorem Rvalue.closed_render {scope : Scope} {value : Rvalue}
    (h : ∀ reference ∈ value.references, scope.ShowsPlainly reference) :
    Gives (value.render scope) Closed := by
  cases value with
  | use operand => exact Operand.closed_render h
  | borrow place kind =>
      refine (Place.closed_render h).bind_pure fun shown hshown => closed_append ?_ hshown
      cases kind <;> decide
  | unary operator operand =>
      exact (Operand.closed_render h).bind_pure fun shown hshown =>
        closed_append (closed_append_right _ (by decide)) hshown
  | binary operator left right =>
      rw [Rvalue.references, List.forall_mem_append] at h
      refine (Operand.closed_render h.1).bind fun shownLeft _ => ?_
      exact (Operand.closed_render h.2).bind_pure fun shown hshown =>
        closed_append (closed_append_right _ (by decide)) hshown
  | discriminant place =>
      exact (Place.closed_render h).bind_pure fun shown _ => closed_append_right _ (by decide)
  | aggregate kind operands =>
      rw [Rvalue.references, List.forall_mem_append] at h
      intro text htext
      obtain ⟨shown, _, htext⟩ := bind_eq_ok_iff.1 htext
      exact AggregateKind.closed_render h.2 text htext
  | global id =>
      exact fun name hname => (h (.global id) (by simp [Rvalue.references]) name hname).closed

/-- Leaves do not end with an opening brace or a semicolon, as names do not. -/
theorem Action.closed_render {scope : Scope} {action : Action}
    (h : ∀ reference ∈ action.references, scope.ShowsPlainly reference) :
    Gives (action.render scope) Closed := by
  cases action with
  | assign place value =>
      rw [Action.references, List.forall_mem_append] at h
      refine (Place.closed_render h.1).bind fun shownPlace _ => ?_
      exact (Rvalue.closed_render h.2).bind_pure fun shown hshown =>
        closed_append (closed_append_right shownPlace (by decide)) hshown
  | fakeRead place =>
      exact (Place.closed_render h).bind_pure fun shown hshown => closed_append (by decide) hshown
  | setDiscriminant place variant =>
      exact (Place.closed_render h).bind_pure fun shown _ => closed_append_right _ (by decide)
  | drop place =>
      exact (Place.closed_render h).bind_pure fun shown hshown => closed_append (by decide) hshown
  | assert assertion =>
      exact (Operand.closed_render h).bind_pure fun shown _ => closed_append_right _ (by decide)
  | call made =>
      intro text htext
      obtain ⟨generics, _, htext⟩ := bind_eq_ok_iff.1 htext
      obtain ⟨name, _, htext⟩ := bind_eq_ok_iff.1 htext
      obtain ⟨arguments, _, htext⟩ := bind_eq_ok_iff.1 htext
      obtain ⟨target, _, htext⟩ := bind_eq_ok_iff.1 htext
      cases htext
      exact closed_append_parenthesized _ arguments
  | panic => exact gives_ok (by decide)
  | ret => exact gives_ok (by decide)
  | brk depth => exact gives_ok (closed_append (by decide) (closed_decimal depth))
  | cont depth => exact gives_ok (closed_append (by decide) (closed_decimal depth))
  | nop => exact gives_ok (by decide)

/-! ## The skeletons of statements are legible -/

/-- Legible items one below the other are legible. -/
theorem Skeleton.Items.Legible.append {above below : Skeleton.Items} (habove : above.Legible)
    (hbelow : below.Legible) : (above.append below).Legible := by
  match above with
  | .one item =>
      simp only [Items.Legible] at habove
      simp only [Items.append, Items.Legible]
      exact ⟨habove, hbelow⟩
  | .cons item rest =>
      simp only [Items.Legible] at habove
      simp only [Items.append, Items.Legible]
      exact ⟨habove.1, Legible.append habove.2 hbelow⟩

mutual
/-- The skeleton of a statement with plain names is legible. -/
theorem Statement.legible_skeleton {scope : Scope} :
    (statement : Statement) →
      (∀ reference ∈ statement.references, scope.ShowsPlainly reference) →
        Gives (statement.skeleton scope) Skeleton.Items.Legible
  | .mk _ content, h => by
      rw [Statement.references] at h
      rw [Statement.skeleton]
      exact Content.legible_skeleton content h

/-- The skeleton of a content is legible when the names in it are plain. -/
theorem Content.legible_skeleton {scope : Scope} :
    (content : Content) → (∀ reference ∈ content.references, scope.ShowsPlainly reference) →
      Gives (content.skeleton scope) Skeleton.Items.Legible
  | .action action, h => by
      rw [Content.references] at h
      rw [Content.skeleton]
      intro items hitems
      obtain ⟨text, htext, hitems⟩ := bind_eq_ok_iff.1 hitems
      cases hitems
      have honeLine := Action.oneLine_render fun reference hreference =>
        (h reference hreference).showsOneLine
      simp only [Skeleton.Items.Legible, Skeleton.Item.Legible]
      exact ⟨honeLine text htext, Action.closed_render h text htext⟩
  | .sequence first second, h => by
      rw [Content.references, List.forall_mem_append] at h
      rw [Content.skeleton]
      refine (Statement.legible_skeleton first h.1).bind fun above habove => ?_
      exact (Statement.legible_skeleton second h.2).bind_pure fun below hbelow =>
        habove.append hbelow
  | .switch switch, h => by
      rw [Content.references] at h
      rw [Content.skeleton]
      refine (Switch.legible_skeleton switch h).bind_pure fun item hitem => ?_
      simpa only [Skeleton.Items.Legible] using hitem
  | .loop body, h => by
      rw [Content.references] at h
      rw [Content.skeleton]
      refine (Statement.legible_skeleton body h).bind_pure fun inside hinside => ?_
      simpa only [Skeleton.Items.Legible, Skeleton.Item.Legible] using hinside

/-- The skeleton of a switch is legible when the names in it are plain. -/
theorem Switch.legible_skeleton {scope : Scope} :
    (switch : Switch) → (∀ reference ∈ switch.references, scope.ShowsPlainly reference) →
      Gives (switch.skeleton scope) Skeleton.Item.Legible
  | .branch condition onTrue onFalse, h => by
      simp only [Switch.references, List.forall_mem_append] at h
      obtain ⟨hcondition, htrue, hfalse⟩ := h
      rw [Switch.skeleton]
      have hshown := Operand.oneLine_render fun reference hreference =>
        (hcondition reference hreference).showsOneLine
      refine hshown.bind fun shown hshown => ?_
      refine (Statement.legible_skeleton onTrue htrue).bind fun whenTrue hwhenTrue => ?_
      refine (Statement.legible_skeleton onFalse hfalse).bind_pure fun whenFalse hwhenFalse => ?_
      simp only [Skeleton.Item.Legible]
      exact ⟨hshown, hwhenTrue, hwhenFalse⟩
  | .integer operand type branches otherwise, h => by
      simp only [Switch.references, List.forall_mem_append] at h
      obtain ⟨hoperand, hbranches, hotherwise⟩ := h
      rw [Switch.skeleton]
      have hshown := Operand.oneLine_render fun reference hreference =>
        (hoperand reference hreference).showsOneLine
      refine hshown.bind fun shown hshown => ?_
      have hlast := Statement.legible_skeleton otherwise hotherwise
      refine (Switch.legible_integerClauses hlast branches hbranches).bind_pure
        fun clauses hclauses => ?_
      simp only [Skeleton.Item.Legible]
      exact ⟨hshown, hclauses⟩
  | .variant place branches otherwise, h => by
      simp only [Switch.references, List.forall_mem_append] at h
      obtain ⟨hplace, hbranches, hotherwise⟩ := h
      rw [Switch.skeleton]
      have hshown := Place.oneLine_render fun reference hreference =>
        (hplace reference hreference).showsOneLine
      refine hshown.bind fun shown hshown => ?_
      have hlast := Statement.legible_skeleton otherwise hotherwise
      refine (Switch.legible_variantClauses hlast branches hbranches).bind_pure
        fun clauses hclauses => ?_
      simp only [Skeleton.Item.Legible]
      exact ⟨hshown, hclauses⟩

/-- The skeletons of clauses on integers are legible when the names in them are plain. -/
theorem Switch.legible_integerClauses {scope : Scope}
    {last : Except InternalError Skeleton.Items} (hlast : Gives last Skeleton.Items.Legible) :
    (branches : List (List Scalar × Statement)) →
      (∀ reference ∈ Switch.integerReferences branches, scope.ShowsPlainly reference) →
        Gives (Switch.integerClauses scope last branches) Skeleton.Clauses.Legible
  | [], _ => by
      rw [Switch.integerClauses]
      refine hlast.bind_pure fun body hbody => ?_
      simpa only [Skeleton.Clauses.Legible] using hbody
  | (labels, body) :: rest, h => by
      rw [Switch.integerReferences, List.forall_mem_append] at h
      rw [Switch.integerClauses]
      refine (Statement.legible_skeleton body h.1).bind fun inside hinside => ?_
      refine (Switch.legible_integerClauses hlast rest h.2).bind_pure fun more hmore => ?_
      simp only [Skeleton.Clauses.Legible]
      exact ⟨hinside, hmore⟩

/-- The skeletons of clauses on variants are legible when the names in them are plain. -/
theorem Switch.legible_variantClauses {scope : Scope}
    {last : Except InternalError Skeleton.Items} (hlast : Gives last Skeleton.Items.Legible) :
    (branches : List (List Int × Statement)) →
      (∀ reference ∈ Switch.variantReferences branches, scope.ShowsPlainly reference) →
        Gives (Switch.variantClauses scope last branches) Skeleton.Clauses.Legible
  | [], _ => by
      rw [Switch.variantClauses]
      refine hlast.bind_pure fun body hbody => ?_
      simpa only [Skeleton.Clauses.Legible] using hbody
  | (labels, body) :: rest, h => by
      rw [Switch.variantReferences, List.forall_mem_append] at h
      rw [Switch.variantClauses]
      refine (Statement.legible_skeleton body h.1).bind fun inside hinside => ?_
      refine (Switch.legible_variantClauses hlast rest h.2).bind_pure fun more hmore => ?_
      simp only [Skeleton.Clauses.Legible]
      exact ⟨hinside, hmore⟩
end

/-! ## Reading statements -/

/-- Statements with plain names that have the same text have the same skeleton, whatever their
indentation is. -/
theorem Statement.skeleton_eq_of_render_eq {scope : Scope} {step indent text : Text}
    {first second : Statement}
    (hfirst : ∀ reference ∈ first.references, scope.ShowsPlainly reference)
    (hsecond : ∀ reference ∈ second.references, scope.ShowsPlainly reference)
    (htext : first.render scope step indent = .ok text)
    (hsame : second.render scope step indent = .ok text) :
    ∃ skeleton, first.skeleton scope = .ok skeleton ∧ second.skeleton scope = .ok skeleton := by
  rw [Statement.render_eq_skeleton] at htext hsame
  obtain ⟨skeleton, hskeleton, rfl⟩ := map_eq_ok_iff.1 htext
  obtain ⟨other, hother, hread⟩ := map_eq_ok_iff.1 hsame
  have hlegible := Statement.legible_skeleton first hfirst skeleton hskeleton
  have hotherLegible := Statement.legible_skeleton second hsecond other hother
  -- Nothing stands behind either text.
  obtain ⟨rfl, -⟩ := Skeleton.Items.text_append_inj skeleton other hlegible hotherLegible
    (opensWith_empty '\n') (opensWith_empty '\n')
    (congrArg (fun text : Text => text ++ "") hread.symm)
  exact ⟨skeleton, hskeleton, hother⟩

/-- Statements one after the other in a loop, whose text is the same however they are grouped. -/
theorem Statement.skeleton_of_loop :
    ∃ skeleton,
      (Statement.mk none (.loop (.mk none (.sequence
        (.mk none (.sequence (.mk none (.action (.drop ⟨0, []⟩))) (.mk none (.action .nop))))
        (.mk none (.action (.brk 0))))))).skeleton
          { crate := {}, locals := Table.ofItems Local.index [⟨0, some "x", .bool⟩] }
        = .ok skeleton ∧
      (Statement.mk none (.loop (.mk none (.sequence (.mk none (.action (.drop ⟨0, []⟩)))
        (.mk none (.sequence (.mk none (.action .nop)) (.mk none (.action (.brk 0))))))))).skeleton
          { crate := {}, locals := Table.ofItems Local.index [⟨0, some "x", .bool⟩] }
        = .ok skeleton := by
  have hplain : ∀ reference ∈ [Reference.localVar 0], Scope.ShowsPlainly
      { crate := {}, locals := Table.ofItems Local.index [⟨0, some "x", .bool⟩] } reference := by
    intro reference hreference name hname
    cases List.mem_singleton.1 hreference
    cases hname
    decide
  exact @Statement.skeleton_eq_of_render_eq _ "" "" "loop \x7b\ndrop x;\nnop;\nbreak 0\n\x7d" _ _
    hplain hplain rfl rfl

end CrateListing
