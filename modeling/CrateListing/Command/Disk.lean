import CrateListing.Command.System

/-!
# File trees

A system with a tree of files and directories from the root on, and a working
directory.  A name in a directory is either a file or a directory, and what
stands below a name stands below a directory.  Refusals are those of a Unix file
system without links, in which everyone may read and write everything.

Main definitions:

- `Node`, `Disk`: the tree.
- `Disk.walk`: following a path.
- `Disk.read`, `Disk.write`, `Disk.system`: the contents of a file.
-/

namespace CrateListing

/-- The name of a file or directory. -/
abbrev FileName := List UInt8

/-- A file, or a directory with its entries by name. -/
inductive Node where
  | file (content : List UInt8)
  | directory (entries : List (FileName × Node))

namespace Node

/-- The entries of a directory; there is nothing in a file. -/
def entries : Node → List (FileName × Node)
  | file _ => []
  | directory entries => entries

/-- Whether a node is a directory. -/
def isDirectory : Node → Bool
  | file _ => false
  | directory _ => true

/-- What names lead to, one after the other. -/
def at? (node : Node) : List FileName → Option Node
  | [] => some node
  | name :: rest =>
      match Assoc.find? name node.entries with
      | none => none
      | some inner => inner.at? rest

/-- The node with a file at the end of a list of names. -/
def store (content : List UInt8) (node : Node) : List FileName → Node
  | [] => file content
  | name :: rest =>
      let inner := (Assoc.find? name node.entries).getD (directory [])
      directory (Assoc.insert name (store content inner rest) node.entries)

@[simp]
theorem at?_nil (node : Node) : node.at? [] = some node :=
  rfl

/-- The first name is looked up in the node, and the others in what it leads to. -/
theorem at?_cons (node : Node) (name : FileName) (rest : List FileName) :
    node.at? (name :: rest) = (Assoc.find? name node.entries).bind fun inner => inner.at? rest := by
  rw [at?]
  cases Assoc.find? name node.entries <;> rfl

/-- After a file was stored, the first name leads to the node in which the rest of the way was
stored, and any other name leads to where it led before. -/
theorem at?_store_cons (content : List UInt8) (node : Node) (name first : FileName)
    (rest more : List FileName) :
    (node.store content (name :: rest)).at? (first :: more)
      = if name = first then
          (((Assoc.find? name node.entries).getD (directory [])).store content rest).at? more
        else node.at? (first :: more) := by
  rw [store, at?_cons, entries, Assoc.find?_insert]
  by_cases hname : name = first
  · rw [if_pos hname, if_pos hname]
    rfl
  · rw [if_neg hname, if_neg hname, at?_cons]

/-- A directory is still there after a file was stored where no directory was.  The induction is on
the way to the file. -/
theorem at?_store_of_isDirectory (content : List UInt8) {node : Node} {names other : List FileName}
    (hnames : ∀ found, node.at? names = some found → found.isDirectory = false)
    {found : Node} (hother : node.at? other = some found) (hfound : found.isDirectory = true) :
    ∃ after, (node.store content names).at? other = some after ∧ after.isDirectory = true := by
  induction names generalizing node other with
  | nil =>
      have hfile := hnames node rfl
      cases node with
      | directory entries => cases hfile
      | file old =>
          cases other with
          | nil =>
              cases hother
              cases hfound
          | cons name rest => cases hother
  | cons name rest ih =>
      cases other with
      | nil => exact ⟨_, rfl, rfl⟩
      | cons first more =>
          rw [at?_store_cons]
          by_cases hname : name = first
          · subst hname
            rw [at?_cons] at hother
            obtain ⟨inner, hinner, hmore⟩ := Option.bind_eq_some_iff.1 hother
            rw [if_pos rfl, hinner, Option.getD_some]
            refine ih (fun found hrest => hnames found ?_) hmore
            rw [at?_cons, hinner]
            exact hrest
          · rw [if_neg hname]
            exact ⟨found, hother, hfound⟩

end Node

/-- A file tree with a working directory. -/
structure Disk where
  root : Node
  workingDirectory : List FileName
  /-- The working directory is there. -/
  directoryExists : (root.at? workingDirectory).any Node.isDirectory = true

/-- Why the file system refuses. -/
inductive Refusal where
  | missing
  | notDirectory
  | isDirectory
  | nameTooLong
deriving DecidableEq, Repr

/-- The wording of a refusal. -/
def Refusal.message : Refusal → Text
  | .missing => "No such file or directory"
  | .notDirectory => "Not a directory"
  | .isDirectory => "Is a directory"
  | .nameTooLong => "File name too long"

namespace Disk

/-- The longest name that a file may have, in bytes. -/
def nameLimit : Nat := 255

/-- The first length of a path, in bytes, that is too long. -/
def pathLimit : Nat := 4096

/-- Whether names lead to a directory from the root on. -/
def holdsDirectory (disk : Disk) (names : List FileName) : Bool :=
  (disk.root.at? names).any Node.isDirectory

/-- The byte of a slash. -/
def slash : UInt8 := 0x2f

/-- The byte of a dot. -/
def dot : UInt8 := 0x2e

/-- One step along a path, from the names that were passed.  Above the root is the root. -/
def step (disk : Disk) (names : List FileName) (name : FileName) :
    Except Refusal (List FileName) :=
  match disk.root.at? names with
  | none => .error .missing
  | some (.file _) => .error .notDirectory
  | some (.directory _) =>
      if name = [dot, dot] then .ok names.dropLast
      else if name.length > nameLimit then .error .nameTooLong
      else .ok (names ++ [name])

/-- The names in a path; empty names and dots lead nowhere else. -/
def namesOf (path : RawPath) : List FileName :=
  (path.bytes.splitOn slash).filter fun name => name ≠ [] ∧ name ≠ [dot]

/-- Where a path starts. -/
def origin (disk : Disk) (path : RawPath) : List FileName :=
  if path.bytes.head? = some slash then [] else disk.workingDirectory

/-- Follows a path, up to a name that may be free in the last directory. -/
def walk (disk : Disk) (path : RawPath) : Except Refusal (List FileName) :=
  if path.bytes.length ≥ pathLimit then .error .nameTooLong
  else (namesOf path).foldlM disk.step (disk.origin path)

/-- The contents of a file.  A path that leads nowhere means that the file is missing. -/
def read (disk : Disk) (path : RawPath) : Except ReadError (List UInt8) :=
  match disk.walk path with
  | .error .missing | .error .notDirectory => .error .missing
  | .error refusal => .error (.refused refusal.message)
  | .ok names =>
      match disk.root.at? names with
      | none => .error .missing
      | some (.file content) => .ok content
      | some (.directory _) => .error (.refused Refusal.isDirectory.message)

/-- The tree after a file was stored where no directory is. -/
def store (disk : Disk) (names : List FileName) (content : List UInt8)
    (hnames : ¬ disk.holdsDirectory names) : Disk where
  root := disk.root.store content names
  workingDirectory := disk.workingDirectory
  directoryExists := by
    have hexists := disk.directoryExists
    rw [Option.any_eq_true] at hexists ⊢
    obtain ⟨found, hfound, hdirectory⟩ := hexists
    refine Node.at?_store_of_isDirectory content (fun other hother => ?_) hfound hdirectory
    simpa [holdsDirectory, hother] using hnames

/-- The tree after a file was written, which is made if it is not there. -/
def write (disk : Disk) (path : RawPath) (content : List UInt8) : Except Refusal Disk := do
  let names ← disk.walk path
  if h : disk.holdsDirectory names then throw .isDirectory
  else return disk.store names content h

/-- The system of a file tree. -/
def system (hasRoom : Nat → Bool) : System Disk where
  read := read
  write := fun disk path content => (disk.write path content).mapError Refusal.message
  hasRoom := hasRoom

end Disk
end CrateListing
