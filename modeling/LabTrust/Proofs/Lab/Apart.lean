/-
Where the files of a lab lie.

Each node has a directory of its own with its name, so no two nodes share a file. Whether the root
shares files with a node depends on the two directories of the layout.
* `Triple.lies_ofNode_iff`, `Triple.name_eq_of_lies`: the places of a node's files.
* `Lab.Apart`: the root has no file of a node. This is so in the usual layout, in which the
  directory of the root may well be that of a node with this name.
-/
import LabTrust.Lab
import LabTrust.Proofs.Disk.Place

namespace LabTrust

variable {workdir l : Location} {lab : Lab} {name name' : String}

lemma Triple.lies_ofPath_iff {p : Path} :
    (ofPath p).Lies workdir l ↔
      ∃ s ∈ suffixes, l = p.folder workdir ++ [p.stem ++ s.toList] := by
  constructor
  · rintro ⟨q, hq, rfl⟩
    rw [paths_ofPath] at hq
    obtain ⟨s, hs, rfl⟩ := List.mem_map.mp hq
    exact ⟨s, hs, Path.place_withSuffix workdir p hs⟩
  · rintro ⟨s, hs, rfl⟩
    exact ⟨p.withSuffix s, paths_ofPath p ▸ List.mem_map_of_mem hs,
      (Path.place_withSuffix workdir p hs).symm⟩

/-- The files with a name in a directory. -/
lemma Triple.lies_join_iff {p : Path} (h : checkName name = .ok ()) :
    (ofPath (p.join (.ofText name))).Lies workdir l ↔
      ∃ s ∈ suffixes, l = p.place workdir ++ [name.toList ++ s.toList] := by
  have hname := checkName_eq_ok_iff.mp h
  rw [lies_ofPath_iff, Path.ofText, Path.folder_join workdir p hname, Path.stem_join p hname]

/-- The files of a node. -/
lemma Triple.lies_ofNode_iff {directory : Path} (h : checkName name = .ok ()) :
    (ofNode directory name).Lies workdir l ↔
      ∃ s ∈ suffixes, l = directory.place workdir ++ [name.toList, name.toList ++ s.toList] := by
  rw [ofNode, lies_join_iff h, nodeDirectory, Path.ofText,
    Path.place_join _ (checkName_eq_ok_iff.mp h)]
  simp only [List.append_assoc, List.singleton_append]

/-- Two nodes with a file in common have one name. -/
lemma Triple.name_eq_of_lies {directory : Path} (h : checkName name = .ok ())
    (h' : checkName name' = .ok ()) (hl : (ofNode directory name).Lies workdir l)
    (hl' : (ofNode directory name').Lies workdir l) : name = name' := by
  obtain ⟨s, -, rfl⟩ := (lies_ofNode_iff h).mp hl
  obtain ⟨s', -, heq⟩ := (lies_ofNode_iff h').mp hl'
  exact String.ext (List.cons.inj (List.append_cancel_left heq)).1

namespace Lab

/-- The files of a node in a lab. -/
def nodeFiles (lab : Lab) (name : String) : Triple :=
  .ofNode lab.layout.nodesDirectory name

lemma lies_nodeFiles_iff (h : checkName name = .ok ()) :
    (lab.nodeFiles name).Lies workdir l ↔ ∃ s ∈ Triple.suffixes,
      l = lab.layout.nodesDirectory.place workdir ++ [name.toList, name.toList ++ s.toList] :=
  Triple.lies_ofNode_iff h

lemma lies_rootFiles_iff :
    lab.rootFiles.Lies workdir l ↔ ∃ s ∈ Triple.suffixes,
      l = lab.layout.rootDirectory.place workdir ++ [rootFileName.toList ++ s.toList] :=
  Triple.lies_join_iff (by decide)

/-- The root of a lab has no file of one node. -/
def ApartFrom (lab : Lab) (workdir : Location) (name : String) : Prop :=
  checkName name = .ok () → ∀ l, (lab.nodeFiles name).Lies workdir l →
    ¬ lab.rootFiles.Lies workdir l

lemma apartFrom_of_place_ne (h : ∀ p ∈ (lab.nodeFiles name).paths, ∀ q ∈ lab.rootFiles.paths,
    p.place workdir ≠ q.place workdir) : lab.ApartFrom workdir name := by
  rintro - l ⟨p, hp, hl⟩ ⟨q, hq, hl'⟩
  exact h p hp q hq (hl.symm.trans hl')

/-- The root of a lab has no file of a node. -/
def Apart (lab : Lab) (workdir : Location) : Prop :=
  ∀ name, checkName name = .ok () → ∀ l, (lab.nodeFiles name).Lies workdir l →
    ¬ lab.rootFiles.Lies workdir l

/-- In the usual layout they lie apart, also where a node bears the name of the root's directory. -/
lemma apart_ofLab {path : Path} {labName : String}
    (h : lab.layout = .ofLab path labName) : lab.Apart workdir := by
  intro name hname l hl hroot
  obtain ⟨s, hs, rfl⟩ := (lies_nodeFiles_iff hname).mp hl
  obtain ⟨t, ht, heq⟩ := lies_rootFiles_iff.mp hroot
  have hdirectory : lab.layout.rootDirectory.place workdir =
      lab.layout.nodesDirectory.place workdir ++ ["root".toList] := by
    rw [h]
    exact Path.place_join _ (checkName_eq_ok_iff.mp (by decide : checkName "root" = .ok ()))
  rw [hdirectory, List.append_assoc] at heq
  obtain ⟨hfolder, hfile⟩ := List.cons.inj (List.append_cancel_left heq)
  have hne : ∀ s ∈ Triple.suffixes, ∀ t ∈ Triple.suffixes,
      ["root".toList ++ s.toList] ≠ [rootFileName.toList ++ t.toList] := by decide
  rw [hfolder] at hfile
  exact hne s hs t ht hfile

/-- A lab in the usual layout. -/
def usual : Lab where
  name := "lab"
  layout := .ofLab (.ofText ".") "lab"

end Lab

end LabTrust
