/-
The files of a node lie in its directory, and nowhere else.

What a path means is its components. A joined name is the last of them, however the left side is
spelled, and a suffix makes this name longer. So the files of a node are one step below its
directory, and nodes with different names have no path in common.
* `Path.components_join`: joining a name adds it as the last component.
* `Path.withSuffix_join`: a suffix goes to the joined name.
* `Triple.components_nodeDirectory`, `Triple.exists_file`: what the directory and the files of a
  node are.
* `Triple.names_keep_apart`: which names are accepted, and that these keep nodes apart.
-/
import LabTrust.Proofs.Disk.Place

namespace LabTrust

namespace Path

/-! ### Components -/

/-- The component that only the front of a path can have: the root or the starting directory. -/
def front (p : Path) : List Component :=
  if p.isAbsolute then [.root] else if p.parts.head? = some ['.'] then [.here] else []

/-- Empty parts are no components. -/
lemma filterMap_ofPart? (ps : List (List Char)) :
    ps.filterMap Component.ofPart? = (ps.filter (· ≠ [])).filterMap Component.ofPart? := by
  rw [List.filterMap_filter]
  refine congrArg (List.filterMap · ps) (funext fun part => ?_)
  cases part <;> simp [Component.ofPart?]

/-- The components of a path come from its front and its steps. -/
lemma components_eq_steps (p : Path) :
    p.components = p.front ++ p.steps.filterMap Component.ofPart? := by
  rw [steps, ← filterMap_ofPart?, components, front]
  split_ifs <;> rfl

lemma front_join (p : Path) {n : List Char} (h : IsName n) : (p.join ⟨n⟩).front = p.front := by
  have hhead := head?_parts_join p h
  rw [front, front, isAbsolute_join p h]
  simp only [hhead]

/-- Joining a name adds it as the last component. -/
lemma components_join (p : Path) {n : List Char} (h : IsName n) :
    (p.join ⟨n⟩).components = p.components ++ [.name n] := by
  rw [components_eq_steps, components_eq_steps, front_join p h, steps_join p h,
    List.filterMap_append, List.append_assoc]
  simp [h.ofPart?_eq]

/-- A suffix goes to the joined name. -/
lemma withSuffix_join (p : Path) {n : List Char} {s : String} (h : IsName n)
    (hs : IsName (n ++ s.toList)) : (p.join ⟨n⟩).withSuffix s = p.join ⟨n ++ s.toList⟩ := by
  simp only [join, withSuffix, h.isAbsolute_eq, hs.isAbsolute_eq, Bool.false_or]
  split_ifs <;> simp

end Path

/-! ### Nodes -/

namespace Triple

variable {name other : String}

lemma components_nodeDirectory (directory : Path) (h : Path.IsName name.toList) :
    (nodeDirectory directory name).components = directory.components ++ [.name name.toList] :=
  Path.components_join directory h

/-- The components of a node's file: those of the node's directory, and the name with a suffix. -/
lemma components_withSuffix (directory : Path) (h : Path.IsName name.toList) {s : String}
    (hs : s ∈ suffixes) :
    (((nodeDirectory directory name).join (.ofText name)).withSuffix s).components =
      directory.components ++ [.name name.toList, .name (name.toList ++ s.toList)] := by
  have hfile : Path.IsName (name.toList ++ s.toList) := isName_append_suffix hs h.slash
  rw [Path.ofText, Path.withSuffix_join _ h hfile, Path.components_join _ hfile,
    components_nodeDirectory directory h, List.append_assoc]
  rfl

/-- Each file of a node is one step below its directory. -/
lemma exists_file (directory : Path) (h : Path.IsName name.toList) {p : Path}
    (hp : p ∈ (ofNode directory name).paths) :
    ∃ file, Path.IsName file ∧
      p.components = directory.components ++ [.name name.toList, .name file] := by
  rw [ofNode, paths_ofPath] at hp
  obtain ⟨s, hs, rfl⟩ := List.mem_map.mp hp
  exact ⟨_, isName_append_suffix hs h.slash, components_withSuffix directory h hs⟩

/-- The files of a node are different ones. -/
lemma pairwise_paths (directory : Path) (h : Path.IsName name.toList) :
    (ofNode directory name).paths.Pairwise fun p q => p.components ≠ q.components := by
  rw [ofNode, paths_ofPath, List.pairwise_map]
  refine List.Pairwise.imp_of_mem (fun {s t} hs ht hne heq => hne ?_)
    (show suffixes.Nodup by decide)
  rw [components_withSuffix directory h hs, components_withSuffix directory h ht] at heq
  simpa [String.toList_inj] using heq

/-- A path of a node begins with the components of its directory. -/
lemma prefix_components (directory : Path) (h : Path.IsName name.toList) {p : Path}
    (hp : p ∈ nodeDirectory directory name :: (ofNode directory name).paths) :
    directory.components ++ [.name name.toList] <+: p.components := by
  rcases List.mem_cons.mp hp with rfl | hp
  · exact components_nodeDirectory directory h ▸ List.prefix_refl _
  · obtain ⟨file, -, hfile⟩ := exists_file directory h hp
    rw [hfile]
    exact ⟨[.name file], by simp⟩

/-- A name is accepted if and only if it is not empty, has no slash, and is neither of the names
for the directory itself and for the one above. With accepted names, a node has three files that
differ as components, each of them one step below the node's directory, which is one step below the
directory of all nodes; and nodes with different names have no file or directory in common. -/
theorem names_keep_apart :
    (∀ s, checkName s = .ok () ↔ s ≠ "" ∧ '/' ∉ s.toList ∧ s ≠ "." ∧ s ≠ "..") ∧
    ∀ (directory : Path) (n m : String), checkName n = .ok () → checkName m = .ok () →
      ((ofNode directory n).paths.Pairwise fun p q => p.components ≠ q.components) ∧
      (nodeDirectory directory n).components = directory.components ++ [.name n.toList] ∧
      (∀ p ∈ (ofNode directory n).paths, ∃ file, file ≠ ['.'] ∧ file ≠ ['.', '.'] ∧ '/' ∉ file ∧
        p.components = directory.components ++ [.name n.toList, .name file]) ∧
      (n ≠ m → ∀ p ∈ nodeDirectory directory n :: (ofNode directory n).paths,
        ∀ q ∈ nodeDirectory directory m :: (ofNode directory m).paths,
          p.components ≠ q.components) := by
  refine ⟨fun s => ?_, fun directory n m hn hm => ?_⟩
  · rw [checkName_eq_ok_iff]
    have htext : ∀ t : String, s.toList ≠ t.toList ↔ s ≠ t := fun t => String.toList_inj.not
    exact ⟨fun h => ⟨(htext "").mp h.ne_nil, h.slash, (htext ".").mp h.ne_here,
      (htext "..").mp h.ne_up⟩, fun ⟨hne, hslash, hhere, hup⟩ =>
        ⟨(htext "").mpr hne, hslash, (htext ".").mpr hhere, (htext "..").mpr hup⟩⟩
  have hn := checkName_eq_ok_iff.mp hn
  have hm := checkName_eq_ok_iff.mp hm
  refine ⟨pairwise_paths directory hn, components_nodeDirectory directory hn, fun p hp => ?_,
    fun hne p hp q hq heq => hne ?_⟩
  · obtain ⟨file, hfile, hcomponents⟩ := exists_file directory hn hp
    exact ⟨file, hfile.ne_here, hfile.ne_up, hfile.slash, hcomponents⟩
  · have hp' := prefix_components directory hn hp
    have hq' := prefix_components directory hm hq
    rw [← heq] at hq'
    have hsame := List.IsPrefix.eq_of_length
      (List.prefix_of_prefix_length_le hp' hq' (by simp)) (by simp)
    simpa [String.toList_inj] using hsame

/-- A node that is named like a file of another one, below a directory with a dot and more slashes
than needed. -/
theorem lookalike_names_keep_apart :
    checkName "r1" = .ok () ∧ checkName "r1.pem" = .ok () ∧
      (∃ file, file ≠ ['.'] ∧ file ≠ ['.', '.'] ∧ '/' ∉ file ∧
        (ofNode (.ofText "./ca//") "r1.pem").certificate.components =
          [.here, .name "ca".toList, .name "r1.pem".toList, .name file]) ∧
      (ofNode (.ofText "./ca//") "r1").certificate.components ≠
        (nodeDirectory (.ofText "./ca//") "r1.pem").components := by
  have hname : checkName "r1" = .ok () :=
    checkName_eq_ok_iff.mpr ⟨by decide, by decide, by decide, by decide⟩
  have hother : checkName "r1.pem" = .ok () :=
    checkName_eq_ok_iff.mpr ⟨by decide, by decide, by decide, by decide⟩
  obtain ⟨-, -, -, hapart⟩ := names_keep_apart.2 (.ofText "./ca//") "r1" "r1.pem" hname hother
  obtain ⟨-, -, hfiles, -⟩ := names_keep_apart.2 (.ofText "./ca//") "r1.pem" "r1" hother hname
  exact ⟨hname, hother, hfiles _ List.mem_cons_self,
    hapart (by decide) _ (List.mem_cons_of_mem _ List.mem_cons_self) _ List.mem_cons_self⟩

end Triple

end LabTrust
