import CrateListing.Command.Disk
import CrateListing.Proofs.Outcome
import CrateListing.Proofs.Tables

/-!
# File trees after a write

Writing to a path gives the file that the path leads to a new content and
changes nothing else.  The way to the file is not affected: it goes through
directories, and the file is none.  So the same path leads to the file
afterwards, and the content is read back.

Main definitions:

- `Disk.contentAt?`: what names lead to, as far as it can be seen without going on.
- `Disk.Stored`: two trees differ in the content of one file.

Main results:

- Theorem `Node.content?_store_of_ne`: what stands elsewhere in a tree after a file was stored.
- Theorem `Disk.holdsDirectory_of_walk`: a path leads to a name in a directory.
- Theorem `Disk.walk_store`: the same path leads to a file after it was stored.
- Theorem `Disk.stored_of_write`: what is different after a write, and what is not.
-/

namespace CrateListing

open Outcome

/-! ## Trees -/

namespace Node

variable {node : Node} {names other : List FileName} {content : List UInt8}

/-- The contents of a file; a directory has none. -/
def content? : Node → Option (List UInt8)
  | file content => some content
  | directory _ => none

/-- The names at the front lead to the node from which the others go on. -/
theorem at?_append (node : Node) (names rest : List FileName) :
    node.at? (names ++ rest) = (node.at? names).bind fun inner => inner.at? rest := by
  induction names generalizing node with
  | nil => rfl
  | cons name more ih =>
      rw [List.cons_append, at?_cons, at?_cons]
      cases Assoc.find? name node.entries with
      | none => rfl
      | some inner => exact ih inner

/-- There is nothing below a file. -/
theorem at?_of_not_isDirectory (h : node.isDirectory = false) (hnames : names ≠ []) :
    node.at? names = none := by
  cases node with
  | directory entries => cases h
  | file old =>
      cases names with
      | nil => exact absurd rfl hnames
      | cons name rest => rfl

/-- What leads to a directory leads through directories only. -/
theorem isDirectory_of_at?_append {rest : List FileName}
    (h : (node.at? (names ++ rest)).any isDirectory = true) :
    (node.at? names).any isDirectory = true := by
  rw [at?_append] at h
  cases hinner : node.at? names with
  | none =>
      rw [hinner] at h
      cases h
  | some inner =>
      rw [hinner] at h
      cases hdirectory : inner.isDirectory with
      | true => exact hdirectory
      | false =>
          rw [Option.bind_some] at h
          cases rest with
          | nil => exact h
          | cons name more =>
              rw [at?_of_not_isDirectory hdirectory (List.cons_ne_nil name more)] at h
              cases h

/-- A file that was stored is found. -/
theorem at?_store_self (content : List UInt8) (node : Node) (names : List FileName) :
    (node.store content names).at? names = some (.file content) := by
  induction names generalizing node with
  | nil => rfl
  | cons name rest ih =>
      rw [at?_store_cons, if_pos rfl]
      exact ih _

/-- Nothing else is changed when a file is stored in a directory.  The induction is on the way to
the directory. -/
theorem content?_store_of_ne {parent : List FileName} {name : FileName}
    (hparent : (node.at? parent).any isDirectory = true)
    (hfree : (node.at? (parent ++ [name])).any isDirectory = false)
    (hne : other ≠ parent ++ [name]) :
    ((node.store content (parent ++ [name])).at? other).map content?
      = (node.at? other).map content? := by
  induction parent generalizing node other with
  | nil =>
      cases other with
      | nil =>
          cases node with
          | file old => cases hparent
          | directory entries => rfl
      | cons first rest =>
          rw [List.nil_append, at?_store_cons]
          split_ifs with hname
          · subst hname
            have hrest : rest ≠ [] := by
              rintro rfl
              exact hne rfl
            rw [store, at?_of_not_isDirectory rfl hrest, at?_cons]
            rw [List.nil_append, at?_cons] at hfree
            cases hinner : Assoc.find? name node.entries with
            | none => rfl
            | some inner =>
                rw [hinner] at hfree
                rw [Option.bind_some, at?_of_not_isDirectory hfree hrest]
          · rfl
  | cons step way ih =>
      cases other with
      | nil =>
          cases node with
          | file old => cases hparent
          | directory entries => rfl
      | cons first rest =>
          rw [List.cons_append, at?_store_cons]
          split_ifs with hstep
          · subst hstep
            rw [at?_cons] at hparent
            cases hinner : Assoc.find? step node.entries with
            | none =>
                rw [hinner] at hparent
                cases hparent
            | some inner =>
                rw [hinner] at hparent
                rw [List.cons_append, at?_cons, hinner] at hfree
                rw [at?_cons, hinner]
                refine ih hparent hfree ?_
                rintro rfl
                exact hne rfl
          · rfl

end Node

namespace Disk

variable {disk after : Disk} {path : RawPath} {names : List FileName} {content : List UInt8}

/-- What names lead to from the root on: the contents of a file, a directory or nothing. -/
def contentAt? (disk : Disk) (names : List FileName) : Option (Option (List UInt8)) :=
  (disk.root.at? names).map Node.content?

/-! ## Following a path -/

/-- Names lead to a directory exactly when they lead to entries. -/
theorem holdsDirectory_iff :
    disk.holdsDirectory names = true ↔
      ∃ entries, disk.root.at? names = some (.directory entries) := by
  rw [holdsDirectory, Option.any_eq_true]
  constructor
  · rintro ⟨found, hfound, hdirectory⟩
    cases found with
    | file old => cases hdirectory
    | directory entries => exact ⟨entries, hfound⟩
  · rintro ⟨entries, hfound⟩
    exact ⟨_, hfound, rfl⟩

/-- The directory of a directory is one, and that of the root is the root. -/
theorem holdsDirectory_dropLast (h : disk.holdsDirectory names = true) :
    disk.holdsDirectory names.dropLast = true := by
  cases names using List.reverseRecOn with
  | nil => exact h
  | append_singleton parent name =>
      rw [List.dropLast_concat]
      exact Node.isDirectory_of_at?_append h

/-- A step is taken in a directory, up or to a name. -/
theorem step_eq_ok_iff {name : FileName} {next : List FileName} :
    disk.step names name = .ok next ↔ disk.holdsDirectory names = true ∧
      (name = [dot, dot] ∧ next = names.dropLast ∨
        name ≠ [dot, dot] ∧ name.length ≤ nameLimit ∧ next = names ++ [name]) := by
  rw [step, holdsDirectory]
  cases disk.root.at? names with
  | none => simp
  | some found =>
      cases found with
      | file old => simp [Node.isDirectory]
      | directory entries =>
          simp only [Option.any_some, Node.isDirectory, true_and]
          by_cases hup : name = [dot, dot]
          · simp [hup, eq_comm]
          · rw [if_neg hup]
            by_cases hlong : name.length > nameLimit
            · have hnot : ¬ name.length ≤ nameLimit := by omega
              simp [hup, hlong, hnot]
            · have hshort : name.length ≤ nameLimit := by omega
              simp [hup, hlong, hshort, eq_comm]

/-- Steps lead to a name in a directory. -/
theorem holdsDirectory_of_foldlM {start last : List FileName} {way : List FileName}
    (hstart : disk.holdsDirectory start.dropLast = true)
    (h : way.foldlM disk.step start = .ok last) : disk.holdsDirectory last.dropLast = true := by
  induction way generalizing start with
  | nil =>
      cases h
      exact hstart
  | cons name rest ih =>
      rw [List.foldlM_cons, bind_eq_ok_iff] at h
      obtain ⟨next, hnext, hrest⟩ := h
      refine ih ?_ hrest
      obtain ⟨hdirectory, ⟨-, rfl⟩ | ⟨-, -, rfl⟩⟩ := step_eq_ok_iff.1 hnext
      · exact holdsDirectory_dropLast (holdsDirectory_dropLast hdirectory)
      · rwa [List.dropLast_concat]

/-- The root is a directory, since what is below it leads to the working directory. -/
theorem holdsDirectory_root (disk : Disk) : disk.holdsDirectory [] = true :=
  Node.isDirectory_of_at?_append disk.directoryExists

/-- A path starts in a directory. -/
theorem holdsDirectory_origin (disk : Disk) (path : RawPath) :
    disk.holdsDirectory (disk.origin path) = true := by
  rw [origin]
  split_ifs
  · exact disk.holdsDirectory_root
  · exact disk.directoryExists

/-- A path leads to a name in a directory. -/
theorem holdsDirectory_of_walk (h : disk.walk path = .ok names) :
    disk.holdsDirectory names.dropLast = true := by
  rw [walk] at h
  split_ifs at h
  exact holdsDirectory_of_foldlM (holdsDirectory_dropLast (disk.holdsDirectory_origin path)) h

/-! ## After a file was stored -/

variable (hnames : ¬ disk.holdsDirectory names)

/-- Directories stay where they are. -/
theorem holdsDirectory_store {other : List FileName} (h : disk.holdsDirectory other = true) :
    (disk.store names content hnames).holdsDirectory other = true := by
  obtain ⟨entries, hentries⟩ := holdsDirectory_iff.1 h
  have hfile : ∀ found, disk.root.at? names = some found → found.isDirectory = false := by
    intro found hfound
    simpa [holdsDirectory, hfound] using hnames
  rw [holdsDirectory, Option.any_eq_true]
  exact Node.at?_store_of_isDirectory content hfile hentries rfl

/-- Steps lead to the same place as before. -/
theorem foldlM_step_store {way start last : List FileName}
    (h : way.foldlM disk.step start = .ok last) :
    way.foldlM (disk.store names content hnames).step start = .ok last := by
  induction way generalizing start with
  | nil => exact h
  | cons name rest ih =>
      rw [List.foldlM_cons, bind_eq_ok_iff] at h ⊢
      obtain ⟨next, hnext, hrest⟩ := h
      obtain ⟨hdirectory, hto⟩ := step_eq_ok_iff.1 hnext
      exact ⟨next, step_eq_ok_iff.2 ⟨holdsDirectory_store hnames hdirectory, hto⟩, ih hrest⟩

/-- A path leads to the same place as before. -/
theorem walk_store {last : List FileName} (h : disk.walk path = .ok last) :
    (disk.store names content hnames).walk path = .ok last := by
  unfold walk at h ⊢
  split_ifs at h ⊢
  exact foldlM_step_store hnames h

/-! ## Writing and reading -/

/-- A file is written where a path leads to a name that is not the name of a directory. -/
theorem write_eq_ok_iff (disk : Disk) (path : RawPath) (content : List UInt8) (after : Disk) :
    disk.write path content = .ok after ↔
      ∃ names, ∃ hnames : ¬ disk.holdsDirectory names,
        disk.walk path = .ok names ∧ after = disk.store names content hnames := by
  rw [write, bind_eq_ok_iff]
  constructor
  · rintro ⟨names, hwalk, hafter⟩
    split_ifs at hafter with hnames
    cases hafter
    exact ⟨names, hnames, hwalk, rfl⟩
  · rintro ⟨names, hnames, hwalk, rfl⟩
    refine ⟨names, hwalk, ?_⟩
    rw [dif_neg hnames]
    rfl

/-- Two trees differ in the content of one file, which a path leads to. -/
structure Stored (disk : Disk) (path : RawPath) (content : List UInt8) (after : Disk) : Prop where
  read : after.read path = .ok content
  workingDirectory : after.workingDirectory = disk.workingDirectory
  others : ∃ names, disk.walk path = .ok names ∧
    ∀ other, other ≠ names → after.contentAt? other = disk.contentAt? other

/-- A write stores the content in the file that its path leads to, and changes nothing else. -/
theorem stored_of_write (h : disk.write path content = .ok after) :
    Stored disk path content after := by
  obtain ⟨names, hnames, hwalk, rfl⟩ := (write_eq_ok_iff disk path content after).1 h
  have hparent := holdsDirectory_of_walk hwalk
  refine ⟨?_, rfl, names, hwalk, fun other hne => ?_⟩
  · rw [read, walk_store hnames hwalk]
    simp only [store, Node.at?_store_self]
  · cases names using List.reverseRecOn with
    | nil => exact absurd disk.holdsDirectory_root hnames
    | append_singleton parent name =>
        rw [List.dropLast_concat] at hparent
        exact Node.content?_store_of_ne hparent (Bool.eq_false_iff.2 hnames) hne

end Disk
end CrateListing
