/-
Where paths lead.

There are no links in the tree, so the place that a path leads to hangs on its spelling alone; only
whether it gets there hangs on the disk.
* `Path.place`: this place. `Disk.locate_eq_place` says that following a path leads there.
* `Path.way`: the places that a path passes; those of the paths above it are among them.
* `Disk.Grows`: directories stay directories. Then paths that led to a place still do.
-/
import LabTrust.Disk
import LabTrust.Proofs.Path

namespace LabTrust

namespace Disk

/-- The place that a part of a path leads to, whatever lies there. -/
def turn (here : Location) (part : List Char) : Location :=
  if part = ['.'] then here
  else if part = ['.', '.'] then here.dropLast
  else here ++ [part]

lemma turn_of_isName {n : List Char} (h : Path.IsName n) (here : Location) :
    turn here n = here ++ [n] := by
  rw [turn, if_neg h.ne_here, if_neg h.ne_up]

lemma turn_of_enter {here l : Location} {part : List Char} (h : enter here part = .ok l) :
    l = turn here part := by
  rw [enter] at h
  rw [turn]
  split at h
  · next hp => rw [if_pos hp]; exact (Except.ok.inj h).symm
  · next hp =>
    rw [if_neg hp]
    split at h
    · next hp' => rw [if_pos hp']; exact (Except.ok.inj h).symm
    · next hp' =>
      rw [if_neg hp']
      split at h
      · simp at h
      · exact (Except.ok.inj h).symm

end Disk

/-! ### Places -/

namespace Path

variable {workdir : Location}

/-- Where a path starts. -/
def start (workdir : Location) (p : Path) : Location := if p.isAbsolute then [] else workdir

/-- The place that a path leads to from a working directory, whatever lies there. -/
def place (workdir : Location) (p : Path) : Location := p.steps.foldl Disk.turn (p.start workdir)

/-- A place that a path passes on its way from where it starts to where it leads. -/
def Passes (workdir : Location) (p : Path) (l : Location) : Prop :=
  ∃ parts, parts <+: p.steps ∧ l = parts.foldl Disk.turn (p.start workdir)

lemma passes_place (p : Path) : p.Passes workdir (p.place workdir) :=
  ⟨p.steps, List.prefix_refl _, rfl⟩

lemma passes_trimmed {p : Path} {l : Location} (h : p.trimmed.Passes workdir l) :
    p.Passes workdir l := by
  obtain ⟨parts, hparts, rfl⟩ := h
  exact ⟨parts, hparts.trans (steps_trimmed p), by rw [start, start, isAbsolute_trimmed]⟩

/-- The paths above a path lead to places that it passes. -/
lemma passes_of_mem_ladder {p q : Path} (h : q ∈ p.ladder) :
    p.Passes workdir (q.place workdir) := by
  obtain ⟨hsteps, habs⟩ := steps_of_mem_chain h
  exact ⟨q.steps, hsteps, by rw [place, start, start, habs]⟩

lemma place_join (p : Path) {n : List Char} (h : IsName n) :
    (p.join ⟨n⟩).place workdir = p.place workdir ++ [n] := by
  rw [place, steps_join p h, List.foldl_append, start, isAbsolute_join p h]
  exact Disk.turn_of_isName h _

end Path

/-! ### Suffixes of a triple -/

namespace Triple

/-- What the files of a triple end with. -/
def suffixes : List String := [".pem", "-key.pem", ".csr"]

/-- The three files. -/
def paths (t : Triple) : List Path := [t.certificate, t.key, t.request]

lemma paths_ofPath (p : Path) : (ofPath p).paths = suffixes.map p.withSuffix := rfl

lemma slash_notMem_of_mem_suffixes {s : String} (h : s ∈ suffixes) : '/' ∉ s.toList := by
  revert s
  decide

lemma nul_notMem_of_mem_suffixes {s : String} (h : s ∈ suffixes) : '\x00' ∉ s.toList := by
  revert s
  decide

lemma dot_ne_of_mem_suffixes {s : String} (h : s ∈ suffixes) :
    s.toList ≠ [] ∧ s.toList.getLast? ≠ some '.' := by
  revert s
  decide

/-- A longer last part is a name. -/
lemma isName_append_suffix {s : String} (h : s ∈ suffixes) {n : List Char} (hn : '/' ∉ n) :
    Path.IsName (n ++ s.toList) := by
  obtain ⟨hne, hlast⟩ := dot_ne_of_mem_suffixes h
  have hlast' : (n ++ s.toList).getLast? ≠ some '.' := by
    rw [List.getLast?_append, List.getLast?_eq_some_getLast hne, Option.some_or,
      ← List.getLast?_eq_some_getLast hne]
    exact hlast
  refine ⟨by simp [hne], ?_, ?_, ?_⟩
  · simp [hn, slash_notMem_of_mem_suffixes h]
  · intro e; rw [e] at hlast'; exact hlast' rfl
  · intro e; rw [e] at hlast'; exact hlast' rfl

/-- A file of the triple lies at the place. -/
def Lies (workdir : Location) (t : Triple) (l : Location) : Prop :=
  ∃ p ∈ t.paths, l = p.place workdir

end Triple

namespace Path

/-- The place where the files of a path lie. -/
def folder (workdir : Location) (p : Path) : Location := p.upper.foldl Disk.turn (p.start workdir)

lemma slash_notMem_stem (p : Path) : '/' ∉ p.stem := by
  rw [stem]
  cases hl : p.parts.getLast? with
  | none => simp
  | some part => exact slash_notMem_of_mem_parts (List.mem_of_getLast? hl)

/-- The files of a triple lie in one place, each under a name of its own. -/
lemma place_withSuffix (workdir : Location) (p : Path) {s : String} (h : s ∈ Triple.suffixes) :
    (p.withSuffix s).place workdir = p.folder workdir ++ [p.stem ++ s.toList] := by
  have hslash := Triple.slash_notMem_of_mem_suffixes h
  have hstem := slash_notMem_stem p
  rw [place, steps_withSuffix p hslash (Triple.dot_ne_of_mem_suffixes h).1, List.foldl_append,
    start, isAbsolute_withSuffix p hslash]
  exact Disk.turn_of_isName (Triple.isName_append_suffix h hstem) _

/-- The files of a triple lie in different places. -/
lemma place_withSuffix_ne (workdir : Location) (p : Path) {s t : String} (hs : s ∈ Triple.suffixes)
    (ht : t ∈ Triple.suffixes) (h : s ≠ t) :
    (p.withSuffix s).place workdir ≠ (p.withSuffix t).place workdir := by
  rw [place_withSuffix workdir p hs, place_withSuffix workdir p ht]
  intro heq
  have hlast := List.append_cancel_left heq
  simp only [List.cons.injEq, and_true, List.append_cancel_left_eq] at hlast
  exact h (String.ext hlast)

lemma folder_join (workdir : Location) (p : Path) {n : List Char} (h : IsName n) :
    (p.join ⟨n⟩).folder workdir = p.place workdir := by
  rw [folder, upper_join p h, start, isAbsolute_join p h]
  rfl

/-- A joined name is passed last. -/
lemma passes_join (p : Path) {n : List Char} (h : IsName n) {l : Location}
    (hl : (p.join ⟨n⟩).Passes workdir l) :
    p.Passes workdir l ∨ l = (p.join ⟨n⟩).place workdir := by
  obtain ⟨parts, hparts, rfl⟩ := hl
  rw [steps_join p h] at hparts
  rcases List.prefix_concat_iff.mp hparts with rfl | hparts
  · exact Or.inr (by rw [place, steps_join p h])
  · exact Or.inl ⟨parts, hparts, by rw [start, start, isAbsolute_join p h]⟩

/-- So is a file of a joined name. -/
lemma passes_withSuffix_join (p : Path) {n : List Char} (h : IsName n) {s : String}
    (hs : s ∈ Triple.suffixes) {l : Location} (hl : ((p.join ⟨n⟩).withSuffix s).Passes workdir l) :
    p.Passes workdir l ∨ l = ((p.join ⟨n⟩).withSuffix s).place workdir := by
  have hslash := Triple.slash_notMem_of_mem_suffixes hs
  have hsteps := steps_withSuffix (p.join ⟨n⟩) hslash (Triple.dot_ne_of_mem_suffixes hs).1
  obtain ⟨parts, hparts, rfl⟩ := hl
  rw [hsteps] at hparts
  rcases List.prefix_concat_iff.mp hparts with rfl | hparts
  · exact Or.inr (by rw [place, hsteps])
  · rw [upper_join p h] at hparts
    refine Or.inl ⟨parts, hparts, ?_⟩
    rw [start, start, isAbsolute_withSuffix _ hslash, isAbsolute_join p h]

end Path

/-! ### Following paths -/

namespace Disk

variable {d d' : Disk} {p : Path} {l : Location}

lemma follow_eq_foldl {here : Location} {parts : List (List Char)}
    (h : d.follow here parts = .ok l) : l = parts.foldl turn here := by
  induction parts generalizing here with
  | nil => exact (Except.ok.inj h).symm
  | cons part rest ih =>
      rw [follow] at h
      split at h
      · simp at h
      · simp at h
      · split at h
        · next next henter => rw [List.foldl_cons, ← turn_of_enter henter]; exact ih h
        · simp at h

/-- A path that can be followed leads to its place. -/
lemma locate_eq_place (h : d.locate p = .ok l) : l = p.place d.workdir := by
  rw [locate] at h
  split at h
  · simp at h
  · split at h
    · simp at h
    · split at h
      · simp at h
      · exact follow_eq_foldl h

lemma locate_eq_ok_iff : d.locate p = .ok l ↔ '\x00' ∉ p.chars ∧ p.chars ≠ [] ∧
    (Bytes.ofChars p.chars).length < pathLimit ∧ d.follow (p.start d.workdir) p.steps = .ok l := by
  rw [locate, Path.start]
  by_cases hnul : '\x00' ∈ p.chars
  · simp [hnul]
  · by_cases hnil : p.chars = []
    · simp [hnil]
    · by_cases hlong : pathLimit ≤ (Bytes.ofChars p.chars).length
      · simp [hnul, hnil, hlong, Nat.not_lt.mpr hlong]
      · simp [hnul, hnil, hlong, Nat.lt_of_not_le hlong]

lemma follow_concat {here : Location} {parts : List (List Char)} {part : List Char} :
    d.follow here (parts ++ [part]) = .ok l ↔ ∃ m, d.follow here parts = .ok m ∧
      d.entryAt m = some .directory ∧ enter m part = .ok l := by
  induction parts generalizing here with
  | nil =>
      simp only [List.nil_append, follow, Except.ok.injEq, exists_eq_left']
      cases d.entryAt here with
      | none => simp
      | some e =>
          cases e with
          | file c => simp
          | directory => cases enter here part <;> simp
  | cons first rest ih =>
      rw [List.cons_append, follow, follow]
      cases d.entryAt here with
      | none => simp
      | some e =>
          cases e with
          | file c => simp
          | directory =>
              cases enter here first with
              | error f => simp
              | ok next => exact ih

lemma enter_of_isName {here : Location} {n : List Char} (h : Path.IsName n) :
    enter here n = .ok l ↔ (Bytes.ofChars n).length ≤ nameLimit ∧ l = here ++ [n] := by
  rw [enter, if_neg h.ne_here, if_neg h.ne_up]
  by_cases hlong : nameLimit < (Bytes.ofChars n).length
  · simp [hlong, Nat.not_le.mpr hlong]
  · simp [hlong, Nat.le_of_not_lt hlong, eq_comm]

/-- Where a file of a triple can be reached, one with a shorter suffix can be, too. -/
lemma locate_withSuffix_of_le {s t : String} (hs : s ∈ Triple.suffixes) (ht : t ∈ Triple.suffixes)
    (hle : (Bytes.ofChars t.toList).length ≤ (Bytes.ofChars s.toList).length)
    (h : d.locate (p.withSuffix s) = .ok l) : ∃ l', d.locate (p.withSuffix t) = .ok l' := by
  obtain ⟨hnul, -, hlong, hfollow⟩ := locate_eq_ok_iff.mp h
  have hstem := Path.slash_notMem_stem p
  rw [Path.steps_withSuffix p (Triple.slash_notMem_of_mem_suffixes hs)
    (Triple.dot_ne_of_mem_suffixes hs).1] at hfollow
  obtain ⟨m, hupper, hdir, henter⟩ := follow_concat.mp hfollow
  have hname := ((enter_of_isName (Triple.isName_append_suffix hs hstem)).mp henter).1
  refine ⟨m ++ [p.stem ++ t.toList], locate_eq_ok_iff.mpr ⟨?_, ?_, ?_, ?_⟩⟩
  · have ht' := Triple.nul_notMem_of_mem_suffixes ht
    simp only [Path.withSuffix, List.mem_append, not_or] at hnul ⊢
    exact ⟨hnul.1, ht'⟩
  · simp [Path.withSuffix, (Triple.dot_ne_of_mem_suffixes ht).1]
  · simp only [Path.withSuffix, Bytes.ofChars, List.flatMap_append, List.length_append]
      at hlong hle ⊢
    omega
  · rw [Path.steps_withSuffix p (Triple.slash_notMem_of_mem_suffixes ht)
      (Triple.dot_ne_of_mem_suffixes ht).1]
    have hstart : (p.withSuffix t).start d.workdir = (p.withSuffix s).start d.workdir := by
      simp only [Path.start, Path.isAbsolute_withSuffix p (Triple.slash_notMem_of_mem_suffixes hs),
        Path.isAbsolute_withSuffix p (Triple.slash_notMem_of_mem_suffixes ht)]
    rw [hstart]
    refine follow_concat.mpr ⟨m, hupper, hdir, ?_⟩
    refine (enter_of_isName (Triple.isName_append_suffix ht hstem)).mpr ⟨?_, rfl⟩
    simp only [Bytes.ofChars, List.flatMap_append, List.length_append] at hname hle ⊢
    omega

/-- Directories stay directories. -/
structure Grows (d d' : Disk) : Prop where
  workdir : d'.workdir = d.workdir
  directory : ∀ l, d.entryAt l = some .directory → d'.entryAt l = some .directory

lemma Grows.follow (h : Grows d d') {here : Location} {parts : List (List Char)}
    (hf : d.follow here parts = .ok l) : d'.follow here parts = .ok l := by
  induction parts generalizing here with
  | nil => exact hf
  | cons part rest ih =>
      rw [Disk.follow] at hf ⊢
      split at hf
      · simp at hf
      · simp at hf
      · next hdir =>
        rw [h.directory _ hdir]
        split at hf
        · exact ih hf
        · simp at hf

/-- What could be followed still can. -/
lemma Grows.locate (h : Grows d d') (hl : d.locate p = .ok l) : d'.locate p = .ok l := by
  rw [Disk.locate] at hl ⊢
  split at hl
  · simp at hl
  · next hnul =>
    rw [if_neg hnul]
    split at hl
    · simp at hl
    · next hempty =>
      rw [if_neg hempty]
      split at hl
      · simp at hl
      · next hlong =>
        rw [if_neg hlong, h.workdir]
        exact h.follow hl

end Disk

end LabTrust
