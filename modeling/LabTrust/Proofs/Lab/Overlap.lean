/-
Nodes in the directory of the root.

The root may lie anywhere, so its directory may be that of a node. A node with the name of the
root's files then writes over the root, and so does one with the name of its key, whose certificate
has the file name of the root's key. No other node has a file of the root, whatever the directories
of a layout are.
* `Lab.Overlaps`: the root lies in the directory of such a node.
* `Lab.apartFrom_iff`: the node shares a file with the root exactly then.
* `Lab.issue_keeps_root`: otherwise the files of the root hold what they held, all along a call.
* `Lab.issue_replaces_root`: if so, a call that succeeds leaves a file of the node in the root.
-/
import LabTrust.Proofs.Lab.Stability

namespace LabTrust

open Disk (Changes)

variable {σ : Type} {workdir : Location} {lab : Lab} {name : String}

/-! ### Shared files -/

/-- The place of a file with a name in a directory. -/
lemma Triple.place_join (p : Path) (h : checkName name = .ok ()) (s : String) (hs : s ∈ suffixes) :
    ((p.join (.ofText name)).withSuffix s).place workdir =
      p.place workdir ++ [name.toList ++ s.toList] := by
  have hname := checkName_eq_ok_iff.mp h
  rw [Path.place_withSuffix workdir _ hs, Path.ofText, Path.folder_join workdir p hname,
    Path.stem_join p hname]

namespace Lab

/-- The root lies in the directory of a node with the name of the root's files or of its key. -/
def Overlaps (lab : Lab) (workdir : Location) (name : String) : Prop :=
  lab.layout.rootDirectory.place workdir =
      lab.layout.nodesDirectory.place workdir ++ [name.toList] ∧
    (name = rootFileName ∨ name = rootFileName ++ "-key")

instance : Decidable (lab.Overlaps workdir name) := inferInstanceAs (Decidable (_ ∧ _))

/-- The names of nodes that have a file name of the root among theirs. -/
lemma name_of_fileName_eq {s t : String} (hs : s ∈ Triple.suffixes) (ht : t ∈ Triple.suffixes)
    (h : name.toList ++ s.toList = rootFileName.toList ++ t.toList) :
    name = rootFileName ∨ name = rootFileName ++ "-key" := by
  -- A file name and a suffix at its end leave one name.
  have hcases : ∀ s ∈ Triple.suffixes, ∀ t ∈ Triple.suffixes,
      let file := rootFileName.toList ++ t.toList
      let length := file.length - s.toList.length
      file.drop length = s.toList → file.take length = rootFileName.toList ∨
        file.take length = (rootFileName ++ "-key").toList := by decide
  have hname := hcases s hs t ht
  simp only [← h, List.length_append, Nat.add_sub_cancel, List.drop_left, List.take_left,
    forall_const] at hname
  exact hname.imp String.ext String.ext

/-- A node shares a file with the root exactly if it overlaps with it. -/
lemma apartFrom_iff (hname : checkName name = .ok ()) :
    lab.ApartFrom workdir name ↔ ¬ lab.Overlaps workdir name := by
  constructor
  · rintro h ⟨hdirectory, hshared⟩
    have hboth : ∃ s ∈ Triple.suffixes, ∃ t ∈ Triple.suffixes,
        name.toList ++ s.toList = rootFileName.toList ++ t.toList := by
      rcases hshared with rfl | rfl
      · exact ⟨".pem", by decide, ".pem", by decide, rfl⟩
      · exact ⟨".pem", by decide, "-key.pem", by decide, by decide⟩
    obtain ⟨s, hs, t, ht, heq⟩ := hboth
    refine h hname _ ((lies_nodeFiles_iff hname).mpr ⟨s, hs, rfl⟩)
      (lies_rootFiles_iff.mpr ⟨t, ht, ?_⟩)
    rw [hdirectory, ← heq, List.append_assoc]
    rfl
  · rintro h - l hnode hroot
    obtain ⟨s, hs, rfl⟩ := (lies_nodeFiles_iff hname).mp hnode
    obtain ⟨t, ht, heq⟩ := lies_rootFiles_iff.mp hroot
    have hsplit :
        lab.layout.nodesDirectory.place workdir ++ [name.toList, name.toList ++ s.toList] =
          (lab.layout.nodesDirectory.place workdir ++ [name.toList]) ++
            [name.toList ++ s.toList] := by simp
    rw [hsplit] at heq
    obtain ⟨hdirectory, hfile⟩ := List.append_inj' heq rfl
    exact h ⟨hdirectory.symm, name_of_fileName_eq hs ht (List.cons.inj hfile).1⟩

end Lab

/-! ### What the root holds -/

/-- The content of a file, if there is one that can be read. -/
def Disk.content? (d : Disk) (p : Path) : Option Bytes := (d.read p).toOption

lemma Disk.content?_eq_of_lookUp {d d' : Disk} {p : Path} (h : d'.lookUp p = d.lookUp p) :
    d'.content? p = d.content? p := by
  rw [content?, content?, read, read, h]

/-- A root that is kept holds what it held. A directory in the place of a missing request holds
nothing either. -/
lemma Disk.Keeps.content?_eq {d₁ d : Disk} {files : Triple} (h : d₁.Keeps d files) :
    ∀ p ∈ files.paths, d.content? p = d₁.content? p := by
  intro p hp
  simp only [Triple.paths, List.mem_cons, List.not_mem_nil, or_false] at hp
  rcases hp with rfl | rfl | rfl
  · exact content?_eq_of_lookUp h.certificate
  · exact content?_eq_of_lookUp h.key
  · rcases h.request with hsame | ⟨habsent, hdirectory⟩
    · exact content?_eq_of_lookUp hsame
    · rw [content?, content?, read, read, habsent, hdirectory]
      rfl

/-- What is read at one path is read at another one to the same place, if something was found there
before. -/
lemma Disk.Changes.content?_of_place {d d' : Disk} {D F : Location → Prop} {p q : Path} {c : Bytes}
    (h : Changes D F d d') (hp : ∃ e, d.lookUp p = .ok e)
    (hplace : p.place d.workdir = q.place d.workdir) (hq : d'.read q = .ok c) :
    d'.content? p = some c := by
  obtain ⟨e, he⟩ := hp
  obtain ⟨l, hl, hentry, hslash⟩ := lookUp_eq_ok_iff.mp he
  obtain ⟨l', hl', hfile, -⟩ := lookUp_eq_ok_iff.mp (read_eq_ok_iff.mp hq)
  obtain rfl := locate_eq_place hl
  obtain rfl := locate_eq_place hl'
  rw [h.workdir, ← hplace] at hfile
  have hread : d'.read p = .ok c := by
    refine read_eq_ok_iff.mpr (lookUp_eq_ok_iff.mpr ⟨_, h.grows.locate hl, hfile, Or.inr ?_⟩)
    rcases hslash with rfl | hslash
    · -- A directory would have stayed one.
      simp [h.grows.directory _ hentry] at hfile
    · exact hslash
  rw [content?, hread]
  rfl

/-! ### Calls for leaves -/

/-- A call for a leaf leaves the disk as it is, or both files of the signer are found and the files
of the leaf and the directories above them change, which hold its bundle in the end. -/
lemma Action.Always.issueLeaf_complete {authority : Authority σ} {w : World σ} {root : Path}
    {template : Template} {input : LeafInput} {target : Path} {options : LeafOptions} :
    Always (World.handle authority)
      (fun _ v => v.disk = w.disk ∨ w.disk.Complete (Triple.ofPath root) ∧
        checkName input.name = .ok () ∧ Changes (target.Passes w.disk.workdir)
          ((Triple.ofPath (target.join (.ofText input.name))).Lies w.disk.workdir) w.disk v.disk)
      (fun b v => w.disk.Complete (Triple.ofPath root) ∧
        checkName input.name = .ok () ∧ Changes (target.Passes w.disk.workdir)
          ((Triple.ofPath (target.join (.ofText input.name))).Lies w.disk.workdir) w.disk v.disk ∧
        v.disk.Holds (Triple.ofPath (target.join (.ofText input.name))) b)
      (fun _ _ => True)
      (LabTrust.issueLeaf (Triple.ofPath root).certificate (Triple.ofPath root).key template input
        target options) w := by
  have hready : ∀ b, MadeLeaf authority (Triple.ofPath root).certificate (Triple.ofPath root).key
      template input options w.disk b →
        w.disk.Complete (Triple.ofPath root) ∧ checkName input.name = .ok () := by
    rintro b ⟨_, _, _, _, _, _, hsettled, ⟨⟨_, hc, -⟩, ⟨_, hk, -⟩⟩, -⟩
    exact ⟨⟨⟨_, Disk.read_eq_ok_iff.mp hc⟩, _, Disk.read_eq_ok_iff.mp hk⟩, hsettled.name⟩
  have h := @issueLeaf _ authority w (Triple.ofPath root).certificate (Triple.ofPath root).key
    template input target options
    (fun b _ => .written b (target.join (.ofText input.name)) (target.Passes w.disk.workdir) w.disk)
    (fun b hmade d hd => hd.mono
      (fun l => Path.passes_of_passesAbove_join (hready b hmade).2) fun _ h => h.elim)
  refine mono h (fun e v hv => ?_) (fun b v hv => ?_) fun _ _ _ => trivial
  · rcases hv.2 with hv | ⟨b, hmade, hpassed | hpassed⟩
    · exact Or.inl hv
    · exact Or.inr ⟨(hready b hmade).1, (hready b hmade).2, Stages.changes_of_underway hpassed⟩
    · exact Or.inr ⟨(hready b hmade).1, (hready b hmade).2, hpassed.1⟩
  · obtain ⟨hmade, hchanges, hholds⟩ := hv
    exact ⟨(hready b hmade).1, (hready b hmade).2, hchanges, hholds⟩

/-! ### A root in the directory of a node -/

/-- A lab whose root was moved into the directory of a node. -/
def Lab.moved : Lab where
  name := "lab"
  layout :=
    let nodes := (LabLayout.ofLab (.ofText ".") "lab").nodesDirectory
    ⟨nodes.join (.ofText rootFileName), nodes⟩
  nodeTemplate := ⟨"node", [.text "[\"node\"]".toList]⟩

/-- The certificate and the key of its root, with a directory in the place of their request. -/
def Disk.moved : Disk where
  entries :=
    let home := ["clab-lab".toList, "ca".toList, rootFileName.toList]
    [(home.take 1, .directory), (home.take 2, .directory), (home, .directory),
      (home ++ ["root-ca.pem".toList], .file []), (home ++ ["root-ca-key.pem".toList], .file []),
      (home ++ ["root-ca.csr".toList], .directory)]

/-! ### The root all along a call -/

namespace Lab

/-- Whatever its directories are, a lab that makes a certificate keeps its root: at every moment of
the call, however it ends, the three files of the root hold what they held before. Only a node whose
files overlap with the root is no such node. -/
theorem issue_keeps_root (v : Visit σ) (d : Disk) (lab : Lab) (input : LeafInput)
    (h : ¬ lab.Overlaps d.workdir input.name) :
    ∀ d' ∈ v.disks (lab.issue input) d, ∀ p ∈ lab.rootFiles.paths,
      d'.content? p = d.content? p := by
  refine Visit.forall_disks (fun p _ => rfl) Action.Always.issueLeaf_complete fun _ w hw => ?_
  rcases hw with hsame | ⟨hcomplete, hname, hchanges⟩
  · intro p _
    rw [hsame]
    rfl
  · have hapart := (apartFrom_iff hname).mpr h
    exact (hcomplete.keeps (hchanges.mono (fun _ h => h) fun l hl => hapart hname l hl)).content?_eq

/-- A node with the name of the root's files, in a directory of its own beside them. -/
theorem issue_keeps_root_beside :
    ¬ Lab.crowded.Overlaps Disk.crowded.workdir rootFileName ∧
      ∀ p ∈ Lab.crowded.rootFiles.paths,
        (Visit.plain.after (Lab.crowded.issue { name := rootFileName }) Disk.crowded).content? p =
          Disk.crowded.content? p :=
  ⟨by decide, issue_keeps_root .plain .crowded .crowded { name := rootFileName } (by decide) _
    Visit.after_mem_disks⟩

/-- If its files do overlap with the root, a call that succeeds leaves its certificate in a file of
the root. -/
theorem issue_replaces_root (v : Visit σ) (d : Disk) (lab : Lab) (input : LeafInput)
    (h : lab.Overlaps d.workdir input.name) (b : Bundle)
    (hb : v.result (lab.issue input) d = .ok b) :
    ∃ p ∈ lab.rootFiles.paths, (v.after (lab.issue input) d).content? p = some b.certificate := by
  obtain ⟨w, hw, hcomplete, hname, hchanges, hholds⟩ :=
    Visit.of_result_ok Action.Always.issueLeaf_complete hb
  obtain ⟨hdirectory, hshared⟩ := h
  have hnode := @Triple.place_join d.workdir _
    (Triple.nodeDirectory lab.layout.nodesDirectory input.name) hname ".pem" (by decide)
  have hroot := @Triple.place_join d.workdir _ lab.layout.rootDirectory
    (by decide : checkName rootFileName = .ok ())
  have hhome : (Triple.nodeDirectory lab.layout.nodesDirectory input.name).place d.workdir =
      lab.layout.rootDirectory.place d.workdir := by
    rw [hdirectory]
    exact Path.place_join _ (checkName_eq_ok_iff.mp hname)
  have hfound : ∃ p ∈ lab.rootFiles.paths, (∃ e, d.lookUp p = .ok e) ∧
      p.place d.workdir = (lab.nodeFiles input.name).certificate.place d.workdir := by
    rcases hshared with heq | heq
    · refine ⟨lab.rootFiles.certificate, by simp [Triple.paths], hcomplete.1, ?_⟩
      refine (hroot ".pem" (by decide)).trans (.trans ?_ hnode.symm)
      rw [hhome, heq]
    · refine ⟨lab.rootFiles.key, by simp [Triple.paths], hcomplete.2, ?_⟩
      refine (hroot "-key.pem" (by decide)).trans (.trans ?_ hnode.symm)
      rw [hhome, heq]
      exact congrArg (fun file => _ ++ [file]) (by decide)
  obtain ⟨p, hp, hlookUp, hplace⟩ := hfound
  exact ⟨p, hp, hw ▸ hchanges.content?_of_place hlookUp hplace hholds.certificate⟩

/-- Where a node overlaps with the root, not even a call that fails keeps the root: the certificate
and the key are written before the request is refused. -/
theorem failure_may_replace_root :
    ¬ ∀ (v : Visit Unit) (d : Disk) (workdir : Path) (lab : Lab) (input : LeafInput),
      lab.layout.nodesDirectory = (LabLayout.ofLab workdir lab.name).nodesDirectory →
        d.Complete lab.rootFiles → (v.result (lab.issue input) d).toOption = none →
          ∀ p ∈ lab.rootFiles.paths,
            (v.after (lab.issue input) d).content? p = d.content? p := by
  intro h
  have hcomplete : Disk.moved.Complete moved.rootFiles :=
    ⟨⟨.file [], by decide⟩, .file [], by decide⟩
  have hsame := h .plain .moved (.ofText ".") moved { name := rootFileName } rfl hcomplete
    (by decide +kernel) moved.rootFiles.certificate List.mem_cons_self
  revert hsame
  decide +kernel

end Lab

end LabTrust
