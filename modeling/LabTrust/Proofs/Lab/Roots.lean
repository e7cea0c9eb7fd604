/-
Where a lab looks for its root, and how often a root is made.

A call for a root makes the files that its input names, a call for a leaf reads those with the usual
name. No call takes a file away. So what a call for a root has left is there for good, it is not
made again, and if it has the usual name, calls for leaves find it. But the name is the caller's:
each other name stands for a root of its own in the same directory, which no leaf is signed with.
* `Errand.Generates`: a call makes the root with some name.
* `Action.Always.issueLeaf_finds`: a call for a leaf that finds both files is not stopped by a
  missing one.
* `Lab.root_found_and_made_once`: so for all sessions.
-/
import LabTrust.Proofs.Lab.Pairing
import LabTrust.Proofs.Lab.Validity

namespace LabTrust

open Disk (Changes)

variable {σ : Type} {v : Visit σ} {d d' : Disk} {directory : Path} {template : Template}
  {input : RootInput} {files : Triple} {fileName : String} {errands : List Errand}

/-! ### Files that are there -/

/-- A certificate and a key are found as long as files are only made and written over. -/
lemma Disk.Complete.of_changes {D F : Location → Prop} (h : d.Complete files)
    (hd : Changes D F d d') : d'.Complete files :=
  ⟨hd.exists_lookUp h.1, hd.exists_lookUp h.2⟩

/-- They are found all along a session. -/
lemma Session.complete_of_mem_disks (h : d.Complete files) (errands : List Errand) :
    ∀ d' ∈ Session.disks d errands, d'.Complete files :=
  Session.forall_disks h fun e _ _ hd d' hd' => hd.of_changes (e.changes_of_mem_disks d' hd')

/-! ### Calls for roots -/

/-- A call for the root with some name that succeeds and makes it. -/
def Errand.Generates (directory : Path) (fileName : String) (d : Disk) : Errand → Prop
  | root visit directory' template input => directory' = directory ∧ input.fileName = fileName ∧
      ∃ outcome, visit.result (ensureRoot directory template input) d = .ok outcome ∧
        outcome.wasCreated = true
  | leaf _ _ _ => False

namespace Errand.Generates

variable {e : Errand}

/-- The root was not there. -/
lemma missing (h : e.Generates directory fileName d) :
    ¬ d.Complete (.ofPath (directory.join (.ofText fileName))) := by
  cases e with
  | root visit directory' template input =>
      obtain ⟨-, rfl, outcome, hresult, hcreated⟩ := h
      exact (ensureRoot_creates_iff hresult).mp hcreated
  | leaf => exact h.elim

/-- Now it is. -/
lemma complete (h : e.Generates directory fileName d) :
    (e.after d).Complete (.ofPath (directory.join (.ofText fileName))) := by
  cases e with
  | root visit directory' template input =>
      obtain ⟨rfl, rfl, outcome, hresult, -⟩ := h
      exact (complete_of_ensureRoot hresult).1
  | leaf => exact h.elim

end Errand.Generates

/-- No two calls of a session make the same root. -/
lemma Session.pairwise_generates (d : Disk) (errands : List Errand) (directory : Path)
    (fileName : String) :
    (Session.starts d errands).Pairwise fun s t =>
      ¬ (s.2.Generates directory fileName s.1 ∧ t.2.Generates directory fileName t.1) := by
  induction errands generalizing d with
  | nil => exact List.Pairwise.nil
  | cons e rest ih =>
      refine List.Pairwise.cons (fun t ht => ?_) (ih (e.after d))
      rintro ⟨hfirst, hlater⟩
      have hthere : t.1.Complete (.ofPath (directory.join (.ofText fileName))) :=
        (forall_starts (P := fun d => d.Complete _) hfirst.complete
          (fun e' _ _ hd d' hd' => hd.of_changes (e'.changes_of_mem_disks d' hd')) t ht).1
      exact hlater.missing hthere

/-! ### Calls for leaves -/

/-- What is checked about a leaf before anything is read is no matter of keys and certificates. -/
lemma LeafOptions.kind_ne_crypto_of_plan {options : LeafOptions} {template : Template}
    {input : LeafInput} {e : Error} (h : options.plan template input = .error e) :
    e.kind ≠ .crypto := by
  rcases plan_eq_error h with hkind | ⟨hkind, -⟩ | h
  · simp [hkind]
  · simp [hkind]
  · rw [Expiry.parse_eq_error h]
    exact nofun

/-- What is found but cannot be read is a directory. -/
lemma Disk.isDirectory_of_read {p : Path} {f : IoFailure} (h : ∃ e, d.lookUp p = .ok e)
    (hread : d.read p = .error f) : f = .isDirectory := by
  obtain ⟨e, he⟩ := h
  cases e with
  | directory =>
      rw [read, he] at hread
      exact (Except.error.inj hread).symm
  | file c =>
      rw [read_eq_ok_iff.mpr he] at hread
      cases hread

/-- A call for a leaf that finds the certificate and the key of the root is stopped by one of the
two only if it is a directory or holds no text, or if the authority says so. -/
lemma Action.Always.issueLeaf_finds {authority : Authority σ} {w : World σ}
    {nodeTemplate : Template} {node : LeafInput} {target : Path} {options : LeafOptions}
    (h : w.disk.Complete files) :
    Always (World.handle authority) (fun _ _ => True) (fun _ _ => True)
      (fun e _ => ∀ p f, e = .crypto .signerConstruction (.unreadable p f) →
        f = .isDirectory ∨ f = .notText ∨ ∃ call, authority.Answers call (.error e))
      (LabTrust.issueLeaf files.certificate files.key nodeTemplate node target options) w := by
  refine mono issueLeaf_failure (fun _ _ _ => trivial) (fun _ _ _ => trivial) ?_
  rintro e - hfailure p f rfl
  cases hfailure with
  | plan hplan => exact absurd rfl (LeafOptions.kind_ne_crypto_of_plan hplan)
  | signer hpath hread =>
      have hfound : ∃ e, w.disk.lookUp p = .ok e := by
        rcases hpath with rfl | rfl
        · exact h.1
        · exact h.2
      exact hread.imp (Disk.isDirectory_of_read hfound) fun hread => Or.inl hread.1
  | key _ hanswer => exact Or.inr (Or.inr ⟨_, hanswer⟩)
  | request _ hanswer => exact Or.inr (Or.inr ⟨_, hanswer⟩)
  | leaf _ _ _ hanswer => exact Or.inr (Or.inr ⟨_, hanswer⟩)
  | store hkind => exact nomatch hkind

/-! ### Labs -/

/-- A call for a root that succeeds makes it unless its own files are there, and leaves them there,
whatever comes later. If they have the usual name, they are those of the lab, so no later call for a
leaf misses one of them: only what the file is or holds can be wrong with it. And no two calls of a
session make the root with the same name. -/
theorem Lab.root_found_and_made_once (lab : Lab) (d : Disk) :
    (∀ (σ : Type) (v : Visit σ) (input : RootInput) (outcome : RootOutcome),
      v.result (lab.ensureRoot input) d = .ok outcome →
        (outcome.wasCreated = true ↔ ¬ d.Complete (input.files lab.layout.rootDirectory)) ∧
        ∀ errands, ∀ d' ∈ Session.disks (v.after (lab.ensureRoot input) d) errands,
          d'.Complete (input.files lab.layout.rootDirectory) ∧
          (input.fileName = rootFileName → d'.Complete lab.rootFiles ∧
            ∀ (τ : Type) (u : Visit τ) (node : LeafInput) (p : Path) (f : IoFailure),
              let e := Error.crypto .signerConstruction (.unreadable p f)
              u.result (lab.issue node) d' = .error e →
                f = .isDirectory ∨ f = .notText ∨ ∃ call, u.authority.Answers call (.error e))) ∧
    ∀ (errands : List Errand) (directory : Path) (fileName : String),
      (Session.starts d errands).Pairwise fun s t =>
        ¬ (s.2.Generates directory fileName s.1 ∧ t.2.Generates directory fileName t.1) := by
  refine ⟨fun σ v input outcome hresult => ?_, Session.pairwise_generates d⟩
  refine ⟨ensureRoot_creates_iff hresult, fun errands d' hd' => ?_⟩
  have hcomplete := Session.complete_of_mem_disks (complete_of_ensureRoot hresult).1 errands d' hd'
  refine ⟨hcomplete, fun hname => ?_⟩
  have hroot : d'.Complete lab.rootFiles := by
    rw [RootInput.files, hname] at hcomplete
    exact hcomplete
  refine ⟨hroot, fun τ u node p f => ?_⟩
  intro e he
  have hcall := @Action.Always.issueLeaf_finds _ _ u.authority (u.world d') lab.nodeTemplate node
    (Triple.nodeDirectory lab.layout.nodesDirectory node.name) lab.options hroot
  exact hcall.of_error (Prod.ext he rfl) p f rfl

/-! ### A root that cannot be read, and a root with another name -/

/-- A lab whose templates have no places. -/
def Lab.plain : Lab where
  name := "lab"
  layout := ⟨.ofText "ca", .ofText "nodes"⟩
  rootTemplate := Template.named
  nodeTemplate := Template.named

/-- The files of its root; the certificate is no text. -/
def Disk.garbled : Disk where
  entries := [(["ca".toList], .directory), (["ca".toList, "root-ca.pem".toList], .file [255]),
    (["ca".toList, "root-ca-key.pem".toList], .file [])]

/-- The root counts as there, and what stops a leaf is that its certificate is no text. -/
theorem Lab.garbled_root_is_found :
    Visit.plain.result (Lab.plain.ensureRoot Lab.plain.rootInput) Disk.garbled =
        .ok ⟨Lab.plain.rootFiles, none⟩ ∧
      let d₁ := Visit.plain.after (Lab.plain.ensureRoot Lab.plain.rootInput) Disk.garbled
      d₁.Complete Lab.plain.rootFiles ∧
        ∃ p f, Visit.plain.result (Lab.plain.issue { name := "r1" }) d₁ =
            .error (.crypto .signerConstruction (.unreadable p f)) ∧
          (f = .isDirectory ∨ f = .notText) := by
  have hfound : Visit.plain.result (Lab.plain.ensureRoot Lab.plain.rootInput) Disk.garbled =
      .ok ⟨Lab.plain.rootFiles, none⟩ := by decide
  have hleaf : Visit.plain.result (Lab.plain.issue { name := "r1" })
      (Visit.plain.after (Lab.plain.ensureRoot Lab.plain.rootInput) Disk.garbled) =
        .error (.crypto .signerConstruction
          (.unreadable Lab.plain.rootFiles.certificate .notText)) := by
    decide +kernel
  obtain ⟨-, hlater⟩ := (Lab.root_found_and_made_once Lab.plain Disk.garbled).1 Unit Visit.plain _ _
    hfound
  obtain ⟨hroot, hissue⟩ := (hlater [] _ List.mem_cons_self).2 rfl
  refine ⟨hfound, hroot, _, _, hleaf, ?_⟩
  rcases hissue Unit Visit.plain _ _ _ hleaf with h | h | ⟨call, now, s, hanswer⟩
  · exact Or.inl h
  · exact Or.inr h
  · exact absurd hanswer nofun

/-- An input with another name than the usual one. -/
def RootInput.other : RootInput := { labName := "lab", fileName := "other" }

/-- A root with another name is made, a leaf does not find it, and the next call with the usual name
makes a second root in the same directory. -/
theorem Lab.other_root_is_not_found :
    let made : Bundle := .ofTexts "text" "text" "text"
    let d₁ := Visit.plain.after (Lab.plain.ensureRoot .other) {}
    Visit.plain.result (Lab.plain.ensureRoot .other) {} =
        .ok ⟨RootInput.other.files (.ofText "ca"), some made⟩ ∧
      ¬ d₁.Complete Lab.plain.rootFiles ∧
      Visit.plain.result (Lab.plain.issue { name := "r1" }) d₁ = .error (.crypto .signerConstruction
        (.unreadable Lab.plain.rootFiles.certificate .absent)) ∧
      Visit.plain.result (Lab.plain.ensureRoot Lab.plain.rootInput) d₁ =
        .ok ⟨Lab.plain.rootFiles, some made⟩ := by
  have hcalls : Visit.plain.result (Lab.plain.ensureRoot .other) {} =
        .ok ⟨RootInput.other.files (.ofText "ca"), some (.ofTexts "text" "text" "text")⟩ ∧
      (Visit.plain.after (Lab.plain.ensureRoot .other) {}).lookUp Lab.plain.rootFiles.certificate =
        .error .absent ∧
      Visit.plain.result (Lab.plain.issue { name := "r1" })
        (Visit.plain.after (Lab.plain.ensureRoot .other) {}) = .error (.crypto .signerConstruction
          (.unreadable Lab.plain.rootFiles.certificate .absent)) ∧
      Visit.plain.result (Lab.plain.ensureRoot Lab.plain.rootInput)
        (Visit.plain.after (Lab.plain.ensureRoot .other) {}) =
          .ok ⟨Lab.plain.rootFiles, some (.ofTexts "text" "text" "text")⟩ := by
    decide +kernel
  obtain ⟨hmade, habsent, hleaf, hsecond⟩ := hcalls
  refine ⟨hmade, ?_, hleaf, hsecond⟩
  rintro ⟨⟨e, he⟩, -⟩
  exact absurd (habsent.symm.trans he) nofun

end LabTrust
