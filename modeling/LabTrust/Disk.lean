/-
A tree of directories and files.

* `Disk.entryAt`, `Disk.put`: what lies at a location, and a disk with another entry there.
* `Disk.locate`: the location that a path means. Every part but the last has to be a directory;
  the last may be missing.
* `Disk.lookUp`, `Disk.read`, `Disk.write`, `Disk.makeDirectories`: what programs do with a disk.
* `Disk.listing`: all that lies below a location.

The tree has no links, so where a path leads hangs on its spelling alone. A refused write changes
nothing. Making directories makes those above first, and what was made stays when a later one is
refused.
-/
import LabTrust.Bytes
import LabTrust.Failure
import LabTrust.Path

namespace LabTrust

/-- What lies at a location. -/
inductive Entry where
  | directory
  | file (content : Bytes)
  deriving DecidableEq, Inhabited

/-- A place in the tree: the names that lead to it from the root. -/
abbrev Location := List (List Char)

/-- A tree, and the directory that relative paths start from. -/
structure Disk where
  workdir : Location := []
  entries : List (Location × Entry) := []
  deriving Inhabited

namespace Disk

/-! ### Entries -/

/-- The entry of a location in a list. -/
def find? (l : Location) : List (Location × Entry) → Option Entry
  | [] => none
  | (k, e) :: rest => if k = l then some e else find? l rest

/-- The entries of all other locations. -/
def without (l : Location) : List (Location × Entry) → List (Location × Entry)
  | [] => []
  | (k, e) :: rest => if k = l then without l rest else (k, e) :: without l rest

/-- What lies at a location. The root is always a directory. -/
def entryAt (d : Disk) (l : Location) : Option Entry :=
  if l = [] then some .directory else find? l d.entries

/-- The disk with another entry at a location. -/
def put (d : Disk) (l : Location) (e : Entry) : Disk :=
  { d with entries := (l, e) :: without l d.entries }

/-- The disk without a location and all below it. -/
def remove (d : Disk) (l : Location) : Disk :=
  { d with entries := d.entries.filter fun (k, _) => !l.isPrefixOf k }

/-- Dropping the entries of one location keeps those of another. -/
theorem find?_without_of_ne {k l : Location} (h : l ≠ k) (entries : List (Location × Entry)) :
    find? l (without k entries) = find? l entries := by
  induction entries with
  | nil => rfl
  | cons x xs ih =>
    obtain ⟨m, e⟩ := x
    by_cases hm : m = k
    · have hl : ¬ m = l := fun hml => h (hml.symm.trans hm)
      rw [without, if_pos hm, ih, find?, if_neg hl]
    · rw [without, if_neg hm, find?, find?, ih]

/-- The new entry is found where it was put. -/
theorem entryAt_put_self (d : Disk) {l : Location} (h : l ≠ []) (e : Entry) :
    (d.put l e).entryAt l = some e := by
  simp [entryAt, put, find?, h]

/-- Everywhere else the disk stays as it was. -/
theorem entryAt_put_of_ne (d : Disk) {k l : Location} (h : l ≠ k) (e : Entry) :
    (d.put k e).entryAt l = d.entryAt l := by
  by_cases hl : l = []
  · simp [entryAt, hl]
  · have hk : ¬ k = l := fun e => h e.symm
    simp only [entryAt, hl, if_false, put, find?, hk]
    exact find?_without_of_ne h d.entries

/-! ### Locations of paths -/

/-- The longest name of an entry, in bytes. -/
def nameLimit : Nat := 255

/-- The length that paths stay below, in bytes. -/
def pathLimit : Nat := 4096

/-- The place that a part of a path leads to from a directory. -/
def enter (here : Location) (part : List Char) : Except IoFailure Location :=
  if part = ['.'] then .ok here
  else if part = ['.', '.'] then .ok here.dropLast
  else if nameLimit < (Bytes.ofChars part).length then .error .nameTooLong
  else .ok (here ++ [part])

/-- The place that the parts of a path lead to. Every place but the last has to be a directory. -/
def follow (d : Disk) (here : Location) : List (List Char) → Except IoFailure Location
  | [] => .ok here
  | part :: rest =>
    match d.entryAt here with
    | none => .error .absent
    | some (.file _) => .error .notDirectory
    | some .directory =>
      match enter here part with
      | .ok next => d.follow next rest
      | .error e => .error e

/-- The location that a path means. -/
def locate (d : Disk) (p : Path) : Except IoFailure Location :=
  if p.chars.contains '\x00' then .error .nulInPath
  else if p.chars.isEmpty then .error .absent
  else if pathLimit ≤ (Bytes.ofChars p.chars).length then .error .nameTooLong
  else d.follow (if p.isAbsolute then [] else d.workdir) p.steps

/-! ### What programs do -/

/-- What lies at a path. A path that ends with a slash has to lead to a directory. -/
def lookUp (d : Disk) (p : Path) : Except IoFailure Entry := do
  match d.entryAt (← d.locate p) with
  | none => .error .absent
  | some (.file content) => if p.namesDirectory then .error .notDirectory else .ok (.file content)
  | some .directory => .ok .directory

/-- The content of a file. -/
def read (d : Disk) (p : Path) : Except IoFailure Bytes := do
  match ← d.lookUp p with
  | .file content => .ok content
  | .directory => .error .isDirectory

/-- The path leads to a directory. -/
def isDirectory (d : Disk) (p : Path) : Bool :=
  match d.lookUp p with
  | .ok .directory => true
  | _ => false

/-- The disk after a file was written. The file is made if it is missing, its directory is not. -/
def write (d : Disk) (p : Path) (content : Bytes) : Except IoFailure Disk := do
  let l ← d.locate p
  if p.namesDirectory || d.entryAt l == some .directory then .error .isDirectory
  else .ok (d.put l (.file content))

/-- The disk with one new directory. -/
def makeDirectory (d : Disk) (p : Path) : Except IoFailure Disk := do
  let l ← d.locate p
  if (d.entryAt l).isSome then .error .present else .ok (d.put l .directory)

/-- Makes a directory unless it is there. -/
def assureDirectory (d : Disk) (p : Path) : Except IoFailure Unit × Disk :=
  match d.makeDirectory p with
  | .ok d => (.ok (), d)
  | .error e => if d.isDirectory p then (.ok (), d) else (.error e, d)

/-- Makes the directories of a chain of paths, from the last one that is missing up to the first. -/
def makeChain (d : Disk) : List Path → Except IoFailure Unit × Disk
  | [] => (.ok (), d)
  | p :: above =>
    match d.makeDirectory p with
    | .error .absent =>
      match d.makeChain above with
      | (.ok (), d) => d.assureDirectory p
      | (.error e, d) => (.error e, d)
    | _ => d.assureDirectory p

/-- Makes a directory and the missing ones above it. -/
def makeDirectories (d : Disk) (p : Path) : Except IoFailure Unit × Disk :=
  d.makeChain (p.chain (p.chars.length + 1))

/-! ### All of a disk -/

/-- What lies below a location, with the names that lead there from it. -/
def listing (d : Disk) (l : Location) : List (Location × Entry) :=
  d.entries.filterMap fun (k, e) =>
    if l.isPrefixOf k && l.length < k.length then some (k.drop l.length, e) else none

end Disk

end LabTrust
