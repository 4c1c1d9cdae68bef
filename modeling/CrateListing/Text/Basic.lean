import CrateListing.Text.CodePoint

/-!
# Texts

A text is a list of code points.  A string literal stands for the text of its
characters.

Main definitions:

- `Text`: a text.
- `Text.join`, `Text.intercalate`, `Text.split`: from parts to a text and back.
-/

namespace CrateListing

/-- A text. -/
structure Text where
  /-- The text with the given code points. -/
  ofList ::
  toList : List CodePoint
deriving DecidableEq, Repr

namespace Text

/-- The text of the characters of a string. -/
def ofString (string : String) : Text :=
  ofList (string.toList.map .char)

instance : Coe String Text :=
  ⟨ofString⟩

instance : Inhabited Text :=
  ⟨ofString ""⟩

/-- One text behind another. -/
def append (text other : Text) : Text :=
  ofList (text.toList ++ other.toList)

instance : Append Text :=
  ⟨append⟩

/-- The number of code points. -/
def length (text : Text) : Nat :=
  text.toList.length

/-- Whether there are no code points. -/
def isEmpty (text : Text) : Bool :=
  text.toList.isEmpty

/-- The text of one code point. -/
def singleton (c : CodePoint) : Text :=
  ofList [c]

/-- Texts one behind the other. -/
def join : List Text → Text
  | [] => ""
  | text :: rest => text ++ join rest

/-- Texts one behind the other, with a separator between them. -/
def intercalate (separator : Text) : List Text → Text
  | [] => ""
  | [text] => text
  | text :: next :: rest => text ++ separator ++ intercalate separator (next :: rest)

/-- The parts of a text between separators. -/
def split (separator : CodePoint) (text : Text) : List Text :=
  (text.toList.splitOn separator).map ofList

/-! ## Code points of texts -/

variable {text other rest more : Text}

/-- Texts with the same code points are the same. -/
theorem toList_inj : text.toList = other.toList ↔ text = other := by
  cases text
  cases other
  simp

@[simp]
theorem toList_ofList (list : List CodePoint) : (ofList list).toList = list :=
  rfl

/-- The code points of the text of a string are the characters of the string. -/
@[simp]
theorem toList_ofString (string : String) :
    (ofString string).toList = string.toList.map .char :=
  rfl

/-- The code points of one text stand behind those of the other. -/
@[simp]
theorem toList_append : (text ++ other).toList = text.toList ++ other.toList :=
  rfl

/-- Only the empty text has no code points. -/
@[simp]
theorem toList_eq_nil_iff : text.toList = [] ↔ text = "" :=
  @toList_inj text ""

@[simp]
theorem length_toList : text.toList.length = text.length :=
  rfl

@[simp]
theorem toList_singleton (c : CodePoint) : (singleton c).toList = [c] :=
  rfl

/-- The texts of two strings are the same only for the same string. -/
@[simp]
theorem ofString_inj {string word : String} : ofString string = ofString word ↔ string = word := by
  constructor
  · intro h
    have hlists : string.toList.map CodePoint.char = word.toList.map CodePoint.char :=
      congrArg toList h
    exact String.toList_inj.1 ((List.map_inj_right CodePoint.char_injective).1 hlists)
  · exact congrArg ofString

/-- The text of a string is empty when the string is. -/
@[simp]
theorem isEmpty_ofString (string : String) : (ofString string).isEmpty = string.isEmpty := by
  rw [Bool.eq_iff_iff, isEmpty, List.isEmpty_iff, String.isEmpty_iff, ← String.toList_eq_nil_iff]
  simp

theorem isEmpty_eq_false_iff : text.isEmpty = false ↔ text ≠ "" := by
  rw [isEmpty, List.isEmpty_eq_false_iff, Ne, toList_eq_nil_iff]

/-! ## One text behind another -/

/-- Texts can be put together in any grouping. -/
theorem append_assoc {text other rest : Text} : text ++ other ++ rest = text ++ (other ++ rest) :=
  toList_inj.1 (List.append_assoc ..)

@[simp]
theorem append_empty : text ++ ("" : Text) = text :=
  toList_inj.1 (List.append_nil _)

@[simp]
theorem empty_append : ("" : Text) ++ text = text :=
  rfl

/-- A common text at the front can be left out. -/
@[simp]
theorem append_right_inj (text : Text) {rest more : Text} :
    text ++ rest = text ++ more ↔ rest = more := by
  simp [← toList_inj]

@[simp]
theorem append_left_inj {text other : Text} (rest : Text) :
    text ++ rest = other ++ rest ↔ text = other := by
  simp [← toList_inj]

/-- Nothing is put together from empty texts only. -/
@[simp]
theorem append_eq_empty_iff : text ++ other = "" ↔ text = "" ∧ other = "" := by
  rw [← toList_eq_nil_iff, toList_append, List.append_eq_nil_iff, toList_eq_nil_iff,
    toList_eq_nil_iff]

@[simp]
theorem empty_eq_append_iff : "" = text ++ other ↔ text = "" ∧ other = "" :=
  eq_comm.trans append_eq_empty_iff

/-! ## Parts and the whole -/

variable {separator : Text} {texts others : List Text}

@[simp]
theorem join_nil : join [] = "" :=
  rfl

@[simp]
theorem join_cons : join (text :: texts) = text ++ join texts :=
  rfl

@[simp]
theorem intercalate_nil : intercalate separator [] = "" :=
  rfl

@[simp]
theorem intercalate_singleton : intercalate separator [text] = text :=
  rfl

/-- The separator stands between the first text and the others. -/
theorem intercalate_cons_cons :
    intercalate separator (text :: other :: texts)
      = text ++ separator ++ intercalate separator (other :: texts) :=
  rfl

/-- The separator stands behind the first text when others follow. -/
theorem intercalate_cons_of_ne_nil (h : texts ≠ []) :
    intercalate separator (text :: texts) = text ++ separator ++ intercalate separator texts := by
  cases texts with
  | nil => exact absurd rfl h
  | cons next rest => rfl

/-- The separator stands between two lists of texts. -/
theorem intercalate_append_of_ne_nil (h : texts ≠ []) (hothers : others ≠ []) :
    intercalate separator (texts ++ others)
      = intercalate separator texts ++ separator ++ intercalate separator others := by
  induction texts with
  | nil => exact absurd rfl h
  | cons first rest ih =>
      cases rest with
      | nil => exact intercalate_cons_of_ne_nil hothers
      | cons next more =>
          rw [List.cons_append, intercalate_cons_of_ne_nil (by simp), ih (by simp),
            intercalate_cons_cons]
          simp only [append_assoc]

/-- Texts without the separator are found again when what they are put together to is split. -/
theorem split_intercalate {c : CodePoint} (h : texts ≠ [])
    (hfree : ∀ part ∈ texts, c ∉ part.toList) :
    (intercalate (singleton c) texts).split c = texts := by
  induction texts with
  | nil => exact absurd rfl h
  | cons first rest ih =>
      have hfirst : c ∉ first.toList := hfree first List.mem_cons_self
      cases rest with
      | nil =>
          rw [intercalate_singleton, split, List.splitOn_eq_singleton hfirst]
          rfl
      | cons next more =>
          have hrest := ih (by simp) fun part hpart => hfree part (List.mem_cons_of_mem first hpart)
          rw [split] at hrest
          rw [intercalate_cons_cons, split, toList_append, toList_append, toList_singleton,
            List.append_assoc, List.singleton_append,
            List.splitOn_append_cons_self_of_not_mem hfirst, List.map_cons, hrest]

end Text
end CrateListing
