/-
Roots stay as they are.

Once a call for a root has succeeded, its certificate and its key are found, and then every later
call for this root finds them and does nothing. So they stay as long as no call for a leaf writes
over them, whatever else goes wrong. The request of the root is not looked for: where it was
missing, a directory of a node may come to lie.
* `Errand.Spares`: the call is for this root, or for a leaf whose files are others.
* `Session.root_stays`: the certificate, the key and the request all along a session.
-/
import LabTrust.Proofs.Lab.Apart
import LabTrust.Proofs.Lab.Session
import LabTrust.Proofs.Lab.Traces

namespace LabTrust

open Disk (Changes)

variable {σ : Type} {v : Visit σ} {d d₁ : Disk} {directory : Path} {template : Template}
  {input : RootInput}

/-- A call for a root with these files, or for a leaf that has none of them. -/
def Errand.Spares (workdir : Location) (directory : Path) (fileName : String) : Errand → Prop
  | root _ directory' _ input => directory' = directory ∧ input.fileName = fileName
  | leaf _ lab input => ∀ l, (lab.nodeFiles input.name).Lies workdir l →
      ¬ (Triple.ofPath (directory.join (.ofText fileName))).Lies workdir l

/-! ### Calls for leaves -/

/-- A call for a leaf changes its files and makes directories. -/
lemma Errand.changes_of_leaf {lab : Lab} {input : LeafInput} :
    ∀ d' ∈ (Errand.leaf v lab input).disks d,
      Changes (fun _ => True) ((lab.nodeFiles input.name).Lies d.workdir) d d' := by
  refine Visit.forall_disks (Changes.refl _ _ _) Action.Always.issueLeaf_changes fun _ w hw => ?_
  exact hw.mono (fun _ _ => trivial) fun _ h => h

/-! ### Calls for roots -/

/-- A call for a root that succeeds leaves the certificate and the key. -/
lemma complete_of_ensureRoot {outcome : RootOutcome}
    (h : v.result (ensureRoot directory template input) d = .ok outcome) :
    (v.after (ensureRoot directory template input) d).Complete (input.files directory) ∧
      (v.after (ensureRoot directory template input) d).workdir = d.workdir := by
  have hroot := @Action.Always.ensureRoot _ v.authority (v.world d) directory template input
    (fun b _ => .written b (directory.join (.ofText input.fileName)) (fun _ => True) d)
    (fun _ _ _ _ hd => hd.mono (fun _ _ => trivial) fun _ h => h.elim)
  obtain ⟨w, hw, -, hfound | hmade⟩ := Visit.of_result_ok hroot h
  · obtain ⟨hcomplete, -, hsame⟩ := hfound
    rw [← hw, hsame]
    exact ⟨hcomplete, rfl⟩
  · obtain ⟨-, b, -, -, hchanges, hholds⟩ := hmade
    rw [← hw]
    exact ⟨⟨⟨_, Disk.read_eq_ok_iff.mp hholds.certificate⟩, _, Disk.read_eq_ok_iff.mp hholds.key⟩,
      hchanges.workdir⟩

/-- A call for a root that succeeds made it if and only if its files were not there. -/
lemma ensureRoot_creates_iff {outcome : RootOutcome}
    (h : v.result (ensureRoot directory template input) d = .ok outcome) :
    outcome.wasCreated = true ↔ ¬ d.Complete (input.files directory) := by
  have hcall := @Action.Always.ensureRoot _ v.authority (v.world d) directory template input
    (fun b _ => .any b _) fun _ _ _ _ _ => trivial
  obtain ⟨w, -, -, ⟨hcomplete, hnone, -⟩ | ⟨hmissing, b, -, hmade, -⟩⟩ := Visit.of_result_ok hcall h
  · exact iff_of_false (by simp [RootOutcome.wasCreated, hnone]) (not_not_intro hcomplete)
  · exact iff_of_true (by simp [RootOutcome.wasCreated, hmade]) hmissing

/-- A call for a root that is there gives nothing new, asks nobody and changes nothing. -/
lemma ensureRoot_of_complete (h : d.Complete (input.files directory)) :
    v.result (ensureRoot directory template input) d = .ok ⟨input.files directory, none⟩ ∧
      (∀ e ∈ v.effects (ensureRoot directory template input) d, ¬ e.Consults) ∧
        ∀ d' ∈ v.disks (ensureRoot directory template input) d, d' = d := by
  have hnone : Action.Always (World.handle v.authority) (fun e w => ¬ e.Consults ∧ w.disk = d)
      (fun outcome _ => outcome = ⟨input.files directory, none⟩) (fun _ _ => False)
        (ensureRoot directory template input) (v.world d) := by
    refine .bind (.isComplete (fun e he => ⟨he, rfl⟩) (fun _ => .pure rfl) fun hmissing => ?_)
    exact absurd h hmissing
  refine ⟨?_, ?_, ?_⟩
  · cases hresult : v.result (ensureRoot directory template input) d with
    | error e => exact (hnone.of_error (Prod.ext hresult rfl)).elim
    | ok outcome => rw [hnone.of_ok (Prod.ext hresult rfl)]
  · exact Visit.forall_effects hnone fun _ _ h => h.1
  · exact Visit.forall_disks rfl hnone fun _ _ h => h.2

/-! ### What is found of a root -/

/-- What is found of a root stays, if only other files are written. -/
structure Disk.Keeps (d₁ d : Disk) (files : Triple) : Prop where
  certificate : d.lookUp files.certificate = d₁.lookUp files.certificate
  key : d.lookUp files.key = d₁.lookUp files.key
  request : d.lookUp files.request = d₁.lookUp files.request ∨
    d₁.lookUp files.request = .error .absent ∧ d.lookUp files.request = .ok .directory

lemma Disk.Complete.keeps {p : Path} {D : Location → Prop} (h : d₁.Complete (Triple.ofPath p))
    (hd : Changes D (fun l => ¬ (Triple.ofPath p).Lies d₁.workdir l) d₁ d) :
    d₁.Keeps d (Triple.ofPath p) := by
  obtain ⟨⟨e, he⟩, e', he'⟩ := h
  obtain ⟨_, hlocate, -⟩ := Disk.lookUp_eq_ok_iff.mp he'
  obtain ⟨l, hl⟩ := Disk.locate_withSuffix_of_le (by decide) (by decide : ".csr" ∈ _) (by decide)
    hlocate
  refine ⟨?_, ?_, ?_⟩
  · rw [he]
    exact hd.lookUp_eq he (not_not_intro ⟨_, List.mem_cons_self, rfl⟩)
  · rw [he']
    exact hd.lookUp_eq he' (not_not_intro ⟨_, List.mem_cons_of_mem _ List.mem_cons_self, rfl⟩)
  · refine hd.lookUp_cases hl (not_not_intro ⟨(Triple.ofPath p).request, ?_, ?_⟩)
    · exact List.mem_cons_of_mem _ (List.mem_cons_of_mem _ List.mem_cons_self)
    · exact Disk.locate_eq_place hl

lemma Disk.Keeps.complete {files : Triple} (h : d₁.Keeps d files) (hd : d₁.Complete files) :
    d.Complete files := by
  obtain ⟨⟨e, he⟩, e', he'⟩ := hd
  exact ⟨⟨e, h.certificate.trans he⟩, e', h.key.trans he'⟩

/-- No call of a session that spares a root writes over it. -/
lemma Errand.Spares.changes {e : Errand} {fileName : String}
    (he : e.Spares d₁.workdir directory fileName)
    (h : d₁.Complete (Triple.ofPath (directory.join (.ofText fileName))))
    (hd : Changes (fun _ => True)
      (fun l => ¬ (Triple.ofPath (directory.join (.ofText fileName))).Lies d₁.workdir l) d₁ d) :
    ∀ d' ∈ e.disks d, Changes (fun _ => True)
      (fun l => ¬ (Triple.ofPath (directory.join (.ofText fileName))).Lies d₁.workdir l) d₁ d' := by
  intro d' hd'
  cases e with
  | root visit directory' template' input' =>
      obtain ⟨rfl, rfl⟩ := he
      have hcomplete : d.Complete (input'.files directory') := (h.keeps hd).complete h
      rw [(ensureRoot_of_complete hcomplete).2.2 d' hd']
      exact hd
  | leaf visit lab input' =>
      have hleaf := Errand.changes_of_leaf d' hd'
      rw [hd.workdir] at hleaf
      exact hd.trans (hleaf.mono (fun _ h => h) he)

/-! ### A root without its request -/

/-- A lab whose nodes share the directory of the root. -/
def Lab.crowded : Lab where
  name := "lab"
  layout := ⟨.ofText "ca", .ofText "ca"⟩
  nodeTemplate := ⟨"node", [.text "[\"node\"]".toList]⟩

/-- The certificate and the key of its root, without their request. -/
def Disk.crowded : Disk where
  entries := [(["ca".toList], .directory), (["ca".toList, "root-ca.pem".toList], .file []),
    (["ca".toList, "root-ca-key.pem".toList], .file [])]

/-- This root counts as there. -/
lemma ensureRoot_crowded :
    Visit.plain.result (ensureRoot (.ofText "ca") Template.ofRoot Lab.crowded.rootInput)
      Disk.crowded = .ok ⟨Lab.crowded.rootInput.files (.ofText "ca"), none⟩ := by
  decide

/-- A node spares the root if each of its files lies elsewhere. -/
lemma Errand.spares_leaf {lab : Lab} {node : LeafInput} {workdir : Location} {fileName : String}
    (h : ∀ p ∈ (lab.nodeFiles node.name).paths,
      ∀ q ∈ (Triple.ofPath (directory.join (.ofText fileName))).paths,
        p.place workdir ≠ q.place workdir) :
    (Errand.leaf v lab node).Spares workdir directory fileName := by
  rintro l ⟨p, hp, hl⟩ ⟨q, hq, hl'⟩
  exact h p hp q hq (hl.symm.trans hl')

/-! ### Sessions -/

/-- Once a call for a root has succeeded, later calls for it give nothing new and ask nobody, and
its certificate and key stay what they are at every moment, as long as calls for leaves write other
files, whoever they ask and however they end. So does its request, except that a directory may come
to lie where it was missing. -/
theorem Session.root_stays (v : Visit σ) (d : Disk) (directory : Path) (template : Template)
    (input : RootInput) (outcome : RootOutcome)
    (hok : v.result (ensureRoot directory template input) d = .ok outcome) (errands : List Errand)
    (hspares : ∀ e ∈ errands, e.Spares d.workdir directory input.fileName) :
    let files := input.files directory
    let d₁ := v.after (ensureRoot directory template input) d
    (∀ d' ∈ Session.disks d₁ errands, d₁.Keeps d' files) ∧
      ∀ (τ : Type) (u : Visit τ) (template' : Template) (input' : RootInput) (d' : Disk),
        (d', Errand.root u directory template' input') ∈ Session.starts d₁ errands →
          u.result (ensureRoot directory template' input') d' = .ok ⟨files, none⟩ ∧
            ∀ e ∈ u.effects (ensureRoot directory template' input') d', ¬ e.Consults := by
  intro files d₁
  obtain ⟨hcomplete, hworkdir⟩ := complete_of_ensureRoot hok
  have hstart : Changes (fun _ => True) (fun l => ¬ files.Lies d₁.workdir l) d₁ d₁ :=
    Changes.refl _ _ _
  have hstep : ∀ e ∈ errands, ∀ d,
      Changes (fun _ => True) (fun l => ¬ files.Lies d₁.workdir l) d₁ d →
        ∀ d' ∈ e.disks d, Changes (fun _ => True) (fun l => ¬ files.Lies d₁.workdir l) d₁ d' :=
    fun e he d hd => Errand.Spares.changes (hworkdir ▸ hspares e he) hcomplete hd
  refine ⟨fun d' hd' => ?_, fun τ u template' input' d' hmem => ?_⟩
  · exact hcomplete.keeps (Session.forall_disks hstart hstep d' hd')
  · obtain ⟨hd', he⟩ := Session.forall_starts hstart hstep _ hmem
    have hfiles : input'.files directory = files := by
      rw [RootInput.files, (hspares _ he).2]
      rfl
    obtain ⟨hresult, heffects, -⟩ := @ensureRoot_of_complete _ u d' directory template' input'
      (hfiles ▸ (hcomplete.keeps hd').complete hcomplete)
    exact ⟨hfiles ▸ hresult, heffects⟩

/-- A node is issued beside a root, and the root is asked for again. -/
theorem Session.root_stays_beside_node :
    Visit.plain.result (ensureRoot (.ofText "ca") Template.ofRoot Lab.crowded.rootInput)
        Disk.crowded = .ok ⟨Lab.crowded.rootInput.files (.ofText "ca"), none⟩ ∧
      ∀ d' ∈ Session.disks
          (Visit.plain.after (ensureRoot (.ofText "ca") Template.ofRoot Lab.crowded.rootInput)
            Disk.crowded)
          [.leaf .plain .crowded { name := "r1" },
            .root .plain (.ofText "ca") Template.ofRoot Lab.crowded.rootInput],
        (Visit.plain.after (ensureRoot (.ofText "ca") Template.ofRoot Lab.crowded.rootInput)
          Disk.crowded).Keeps d' (Lab.crowded.rootInput.files (.ofText "ca")) := by
  refine ⟨ensureRoot_crowded, ?_⟩
  refine (Session.root_stays Visit.plain Disk.crowded _ _ _ _ ensureRoot_crowded _ fun e he => ?_).1
  rcases List.mem_cons.mp he with rfl | he
  · exact Errand.spares_leaf (by decide)
  · obtain rfl := List.mem_singleton.mp he
    exact ⟨rfl, rfl⟩

/-- Where the request of a root is missing, the directory of a node may come to lie. -/
theorem Session.root_request_may_change :
    ¬ ∀ (v : Visit Unit) (d : Disk) (directory : Path) (template : Template) (input : RootInput)
      (outcome : RootOutcome),
      v.result (ensureRoot directory template input) d = .ok outcome → ∀ errands : List Errand,
        (∀ e ∈ errands, e.Spares d.workdir directory input.fileName) →
          ∀ d' ∈ Session.disks (v.after (ensureRoot directory template input) d) errands,
            d'.lookUp (input.files directory).request =
              (v.after (ensureRoot directory template input) d).lookUp
                (input.files directory).request := by
  intro h
  have hsame := h _ _ _ _ _ _ ensureRoot_crowded [.leaf .plain .crowded { name := "root-ca.csr" }]
    (fun e he => by
      obtain rfl := List.mem_singleton.mp he
      exact Errand.spares_leaf (by decide))
    _ (List.mem_append_left _ Visit.after_mem_disks)
  revert hsame
  decide +kernel

end LabTrust
