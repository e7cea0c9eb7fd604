/-
What a call leaves on disk.

A call for a leaf writes three files, and makes their directory; a call that fails for another
reason than the file system leaves nothing. The stages of the call are here what has been written
so far, beside the one thing that is said of all of them: nothing else has changed.
* `Disk.Holds`: a bundle is read back from its three files.
* `issuing_leaves_no_trace`: calls for leaves and for roots, on every disk and with every authority.
-/
import LabTrust.Proofs.Lab.Stages

namespace LabTrust

open Disk (Changes)

/-- The three files of a triple hold a bundle. -/
structure Disk.Holds (d : Disk) (files : Triple) (b : Bundle) : Prop where
  certificate : d.read files.certificate = .ok b.certificate
  key : d.read files.key = .ok b.key
  request : d.read files.request = .ok b.request

/-- The parent of a joined name lies on the way to the left side. -/
lemma Path.passes_of_passesAbove_join {workdir : Location} {p : Path} {n : String} {l : Location}
    (hn : checkName n = .ok ()) (h : (p.join (.ofText n)).PassesAbove workdir l) :
    p.Passes workdir l := by
  obtain ⟨q, hq, hl⟩ := h
  rw [ofText, parent?_join p (checkName_eq_ok_iff.mp hn), Option.some.injEq] at hq
  rw [← hq] at hl
  exact passes_trimmed hl

namespace Stages

/-- What has been written so far can be read, and nothing else has changed. -/
def written (b : Bundle) (p : Path) (D : Location → Prop) (d₀ : Disk) :
    Stages b (Triple.ofPath p) :=
  have hlies : ∀ s ∈ Triple.suffixes, ∀ {d : Disk}, d.workdir = d₀.workdir →
      (Triple.ofPath p).Lies d₀.workdir ((p.withSuffix s).place d.workdir) :=
    fun s hs _ hd => ⟨_, Triple.paths_ofPath p ▸ List.mem_map_of_mem hs, by rw [hd]⟩
  { begun := Changes D ((Triple.ofPath p).Lies d₀.workdir) d₀
    certified := fun d => Changes D ((Triple.ofPath p).Lies d₀.workdir) d₀ d ∧
      d.read (Triple.ofPath p).certificate = .ok b.certificate
    keyed := fun d => Changes D ((Triple.ofPath p).Lies d₀.workdir) d₀ d ∧
      d.read (Triple.ofPath p).certificate = .ok b.certificate ∧
        d.read (Triple.ofPath p).key = .ok b.key
    complete := fun d => Changes D ((Triple.ofPath p).Lies d₀.workdir) d₀ d ∧
      d.Holds (Triple.ofPath p) b
    certify := fun d d' h hw => by
      have hplace := hlies ".pem" (by decide) h.workdir
      exact ⟨h.trans (Disk.changes_write hw hplace), Disk.read_of_write hw⟩
    giveKey := fun d d' h hw => by
      have hplace := hlies "-key.pem" (by decide) h.1.workdir
      exact ⟨h.1.trans (Disk.changes_write hw hplace),
        Disk.read_of_write_of_ne hw h.2 (Path.place_withSuffix_ne _ p (by decide) (by decide)
          (by decide)), Disk.read_of_write hw⟩
    finish := fun d d' h hw => by
      have hplace := hlies ".csr" (by decide) h.1.workdir
      have hne := fun s (hs : s ∈ Triple.suffixes) (h : s ≠ ".csr") =>
        Path.place_withSuffix_ne d.workdir p hs (by decide : ".csr" ∈ Triple.suffixes) h
      exact ⟨h.1.trans (Disk.changes_write hw hplace),
        Disk.read_of_write_of_ne hw h.2.1 (hne ".pem" (by decide) (by decide)),
        Disk.read_of_write_of_ne hw h.2.2 (hne "-key.pem" (by decide) (by decide)),
        Disk.read_of_write hw⟩ }

lemma changes_of_underway {b : Bundle} {p : Path} {D : Location → Prop} {d₀ d : Disk}
    (h : (written b p D d₀).Underway d) : Changes D ((Triple.ofPath p).Lies d₀.workdir) d₀ d := by
  rcases h with h | h | h
  · exact h
  · exact h.1
  · exact h.1

end Stages

variable {σ : Type} {authority : Authority σ}

namespace Action.Always

variable {w : World σ} {rootCertificate rootKey : Path} {template : Template} {input : LeafInput}
  {target : Path} {options : LeafOptions}

/-- A call for a leaf writes its bundle, as far as it gets. -/
lemma issueLeaf_written :
    Always (World.handle authority)
      (fun e v =>
        (e.Consults → (∃ request lifetime, options.Settled template input request lifetime) ∧
          ∃ signer, w.disk.ReadsSigner rootCertificate rootKey signer) ∧
        (v.disk = w.disk ∨ ∃ b, (Stages.written b (target.join (.ofText input.name))
          (target.Passes w.disk.workdir) w.disk).Passed v.disk))
      (fun b v => (Stages.written b (target.join (.ofText input.name))
        (target.Passes w.disk.workdir) w.disk).complete v.disk)
      (fun e v => v.disk = w.disk ∨ e.kind = .io ∧ ∃ b, (Stages.written b
        (target.join (.ofText input.name)) (target.Passes w.disk.workdir) w.disk).Underway v.disk)
      (LabTrust.issueLeaf rootCertificate rootKey template input target options) w := by
  have h := @issueLeaf _ authority w rootCertificate rootKey template input target options
    (fun b _ => .written b (target.join (.ofText input.name)) (target.Passes w.disk.workdir) w.disk)
    (by
      rintro b ⟨request, lifetime, signer, key, csr, certificate, hsettled, -⟩ d hd
      exact hd.mono (fun l => Path.passes_of_passesAbove_join hsettled.name) fun _ h => h.elim)
  refine mono h (fun e v hv => ⟨hv.1, ?_⟩) (fun b v hv => hv.2) fun e v hv => ?_
  · rcases hv.2 with hv | ⟨b, -, hv⟩
    · exact Or.inl hv
    · exact Or.inr ⟨b, hv⟩
  · rcases hv with hv | ⟨hio, b, -, hv⟩
    · exact Or.inl hv
    · exact Or.inr ⟨hio, b, hv⟩

/-- All along a call for a leaf, its files and the directories on the way to them change at most. -/
lemma issueLeaf_changes :
    Always (World.handle authority)
      (fun _ v => Changes (target.Passes w.disk.workdir)
        ((Triple.ofPath (target.join (.ofText input.name))).Lies w.disk.workdir) w.disk v.disk)
      (fun _ _ => True) (fun _ _ => True)
      (LabTrust.issueLeaf rootCertificate rootKey template input target options) w := by
  refine mono issueLeaf_written (fun e v hv => ?_) (fun _ _ _ => trivial) fun _ _ _ => trivial
  rcases hv.2 with hv | ⟨b, hv | hv⟩
  · rw [hv]
    exact Changes.refl _ _ _
  · exact Stages.changes_of_underway hv
  · exact hv.1

end Action.Always

/-- A call for a leaf that fails for another reason than the file system leaves the disk as it was;
one that the file system stops has changed its directory, those above it and its three files at
most; and one that succeeds has written its bundle to these files. The authority is asked only after
all checks, when both files of the root can be read. A call for a root that fails for another reason
than the file system has made its directory and those above it at most. -/
theorem issuing_leaves_no_trace (authority : Authority σ) (w : World σ)
    (rootCertificate rootKey : Path) (template : Template) (input : LeafInput) (target : Path)
    (options : LeafOptions) (directory : Path) (rootTemplate : Template) (rootInput : RootInput) :
    let leaf := issueLeaf rootCertificate rootKey template input target options
    let files := Triple.ofPath (target.join (.ofText input.name))
    let ended := World.run authority leaf.run w
    let rootEnded := World.run authority (ensureRoot directory rootTemplate rootInput).run w
    (∀ e, ended.1 = .error e → e.kind ≠ .io → ended.2.disk = w.disk) ∧
      (∀ e, ended.1 = .error e → e.kind = .io → Changes (target.Passes w.disk.workdir)
        (files.Lies w.disk.workdir) w.disk ended.2.disk) ∧
      (∀ b, ended.1 = .ok b → ended.2.disk.Holds files b ∧ Changes (target.Passes w.disk.workdir)
        (files.Lies w.disk.workdir) w.disk ended.2.disk) ∧
      (∀ s ∈ leaf.run.trail (World.handle authority) w, s.1.Consults →
        (∃ request lifetime, options.Settled template input request lifetime) ∧
          ∃ signer, w.disk.ReadsSigner rootCertificate rootKey signer) ∧
      (∀ e, rootEnded.1 = .error e → e.kind ≠ .io → Changes (directory.Passes w.disk.workdir)
        (fun _ => False) w.disk rootEnded.2.disk) := by
  intro leaf files ended rootEnded
  have hleaf := @Action.Always.issueLeaf_written _ authority w rootCertificate rootKey template
    input target options
  have hroot := @Action.Always.ensureRoot _ authority w directory rootTemplate rootInput
    (fun b _ => ⟨fun _ => True, fun _ => True, fun _ => True, fun _ => True, fun _ _ _ _ => trivial,
      fun _ _ _ _ => trivial, fun _ _ _ _ => trivial⟩) fun _ _ _ _ _ => trivial
  refine ⟨fun e he hkind => ?_, fun e he hkind => ?_, fun b hb => ?_, fun s hs => ?_,
    fun e he hkind => ?_⟩
  · rcases hleaf.of_error (Prod.ext he rfl) with h | ⟨hio, -⟩
    · exact h
    · exact absurd hio hkind
  · rcases hleaf.of_error (Prod.ext he rfl) with h | ⟨-, b, h⟩
    · have hsame : ended.2.disk = w.disk := h
      rw [hsame]
      exact Changes.refl _ _ _
    · exact Stages.changes_of_underway h
  · obtain ⟨hchanges, hholds⟩ := hleaf.of_ok (Prod.ext hb rfl)
    exact ⟨hholds, hchanges⟩
  · exact (hleaf.along s hs).1
  · rcases (hroot.of_error (Prod.ext he rfl)).2 with h | ⟨hio, -⟩
    · exact h
    · exact absurd hio hkind

end LabTrust
