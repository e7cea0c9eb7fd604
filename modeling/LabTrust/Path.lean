/-
File paths as text.

A path keeps the spelling it was given; `components` is what the spelling means.
* `Path.join`: a path below a directory. An absolute right side replaces the left one.
* `Path.parent?`: the path without its last component, spelled as before.
* `Path.withSuffix`: a longer last name.
-/

namespace LabTrust

/-- A path, as spelled. -/
structure Path where
  chars : List Char
  deriving DecidableEq, Inhabited

namespace Path

/-- One step of a path. -/
inductive Component where
  /-- The root directory, at the front of an absolute path. -/
  | root
  /-- The starting directory itself, kept at the front of a relative path only. -/
  | here
  /-- The directory above. -/
  | up
  /-- An entry of the directory reached so far. -/
  | name (chars : List Char)
  deriving DecidableEq

/-- The path spelled by a text. -/
def ofText (s : String) : Path := ⟨s.toList⟩

/-- The spelling of a path. -/
def text (p : Path) : String := String.ofList p.chars

/-- The path begins at the root directory. -/
def isAbsolute (p : Path) : Bool :=
  p.chars.head? == some '/'

/-- The parts between slashes; empty parts are those beside a slash. -/
def parts (p : Path) : List (List Char) :=
  p.chars.splitOn '/'

/-- What a part between slashes stands for inside a path. -/
def Component.ofPart? (part : List Char) : Option Component :=
  if part = [] ∨ part = ['.'] then none
  else if part = ['.', '.'] then some .up
  else some (.name part)

/-- The steps of a path. Doubled slashes and dots inside a path mean nothing. -/
def components (p : Path) : List Component :=
  if p.isAbsolute then .root :: p.parts.filterMap Component.ofPart?
  else if p.parts.head? = some ['.'] then .here :: p.parts.filterMap Component.ofPart?
  else p.parts.filterMap Component.ofPart?

/-- The path of `q` seen from the directory `p`. -/
def join (p q : Path) : Path :=
  if q.isAbsolute || p.chars.isEmpty then q
  else if p.chars.getLast? = some '/' then ⟨p.chars ++ q.chars⟩
  else ⟨p.chars ++ '/' :: q.chars⟩

/-- The path whose last name is longer by a suffix. -/
def withSuffix (p : Path) (suffix : String) : Path :=
  ⟨p.chars ++ suffix.toList⟩

/-- How many characters stand before the first named part: a root slash or a leading dot. -/
def leadLength (p : Path) : Nat :=
  if p.isAbsolute || p.parts.head? == some ['.'] then 1 else 0

/-- Drops parts without meaning, and their slashes, from the end of a reversed body. -/
def dropTrivial : Nat → List Char → List Char
  | 0, body => body
  | fuel + 1, body =>
    let part := body.takeWhile (· ≠ '/')
    if body ≠ [] ∧ (part = [] ∨ part = ['.']) then dropTrivial fuel (body.drop (part.length + 1))
    else body

/-- The path without its last component; a path without components, or the root, has none. -/
def parent? (p : Path) : Option Path :=
  let lead := p.chars.take p.leadLength
  let body := (p.chars.drop p.leadLength).reverse
  let rest := dropTrivial body.length body
  if rest ≠ [] then
    let above := rest.drop ((rest.takeWhile (· ≠ '/')).length + 1)
    some ⟨lead ++ (dropTrivial above.length above).reverse⟩
  else if lead = ['.'] then some ⟨[]⟩
  else none

/-- The parts of a path that a file system follows: those that are not empty. -/
def steps (p : Path) : List (List Char) :=
  p.parts.filter (· ≠ [])

/-- The path ends with a slash and so can only mean a directory. -/
def namesDirectory (p : Path) : Bool :=
  p.chars.getLast? == some '/'

/-- A path and the paths above it, from the longest down; a path without a parent, and the empty
path, are left out. `bound` is the greatest number of them. -/
def chain : Nat → Path → List Path
  | 0, _ => []
  | bound + 1, p =>
    match p.parent? with
    | none => []
    | some above => p :: chain bound above

/-- Joining with a plain name below a directory puts one slash between them. -/
theorem join_of_relative {p q : Path} (hq : q.isAbsolute = false) (hp : p.chars ≠ [])
    (hs : p.chars.getLast? ≠ some '/') : p.join q = ⟨p.chars ++ '/' :: q.chars⟩ := by
  simp [join, hq, hp, hs]

end Path

end LabTrust
