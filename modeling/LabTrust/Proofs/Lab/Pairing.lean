/-
The certificate and the key of a root belong together.

A call that makes a root writes the certificate before the key, and a call that finds both does
nothing. So if a key lies on disk, the certificate beside it comes from the same call, however many
calls have stopped half way. What a call finds in the place of the key may be a directory, though.
* `Errand.Makes`: the bundle that a call for a root works out.
* `Disk.Unkeyed`, `Disk.Paired`: the two states of a disk between calls: there is no key, or the
  certificate and the key are those of one bundle.
* `Stages.pairing`: a bundle on its way to disk leads from the first state to the second.
* `Session.pair_made_together`: so all along a session.
-/
import LabTrust.Proofs.Lab.Stability

namespace LabTrust

open Disk (Changes)

variable {σ : Type} {v : Visit σ} {d d' : Disk} {D F : Location → Prop} {workdir : Location}
  {files : Triple} {errands : List Errand} {directory path : Path} {template : Template}
  {input : RootInput} {fileName : String} {b : Bundle}

/-- The bundle that a call for a root works out, whatever lies on disk. -/
def Errand.Makes (b : Bundle) : Errand → Prop
  | root visit _ template input => ∀ d, visit.result (rootBundle template input) d = .ok b
  | leaf _ _ _ => False

/-- What one call works out in one world it works out on every disk. -/
lemma Errand.makes_of_run
    (h : (World.run v.authority (rootBundle template input).run (v.world d)).1 = .ok b) :
    (Errand.root v directory template input).Makes b :=
  fun d' => (World.run_of_consults (only_rootBundle template input) (v.world d) d').trans h

namespace Disk

/-- The certificate and the key are those of a bundle that one of some calls made. -/
def HoldsPair (d : Disk) (files : Triple) (errands : List Errand) : Prop :=
  ∃ e ∈ errands, ∃ b, e.Makes b ∧ d.read files.certificate = .ok b.certificate ∧
    d.read files.key = .ok b.key

/-- No key lies on disk. -/
structure Unkeyed (files : Triple) (workdir : Location) (d : Disk) : Prop where
  workdir_eq : d.workdir = workdir
  key : ∀ c, d.entryAt (files.key.place workdir) ≠ some (.file c)

/-- If a key lies on disk, it was made together with the certificate. -/
structure Paired (files : Triple) (workdir : Location) (errands : List Errand) (d : Disk) :
    Prop where
  workdir_eq : d.workdir = workdir
  pair : ∀ c, d.entryAt (files.key.place workdir) = some (.file c) → d.HoldsPair files errands

lemma HoldsPair.complete (h : d.HoldsPair files errands) : d.Complete files := by
  obtain ⟨e, -, b, -, hcertificate, hkey⟩ := h
  exact ⟨⟨_, read_eq_ok_iff.mp hcertificate⟩, _, read_eq_ok_iff.mp hkey⟩

/-- A pair stays if other files are written. -/
lemma HoldsPair.of_changes (h : d.HoldsPair files errands) (hd : Changes D F d d')
    (hcertificate : ¬ F (files.certificate.place d.workdir))
    (hkey : ¬ F (files.key.place d.workdir)) : d'.HoldsPair files errands := by
  obtain ⟨e, he, b, hb, hreadCertificate, hreadKey⟩ := h
  exact ⟨e, he, b, hb,
    read_eq_ok_iff.mpr (hd.lookUp_eq (read_eq_ok_iff.mp hreadCertificate) hcertificate),
    read_eq_ok_iff.mpr (hd.lookUp_eq (read_eq_ok_iff.mp hreadKey) hkey)⟩

lemma Unkeyed.of_changes (h : d.Unkeyed files workdir) (hd : Changes D F d d')
    (hkey : ¬ F (files.key.place workdir)) : d'.Unkeyed files workdir :=
  ⟨hd.workdir.trans h.workdir_eq, fun c hc => h.key c (hd.entryAt_file hc hkey)⟩

lemma Unkeyed.of_write {p : Path} {content : Bytes} (h : d.Unkeyed files workdir)
    (hw : d.write p content = .ok d') (hne : files.key.place workdir ≠ p.place workdir) :
    d'.Unkeyed files workdir := by
  obtain rfl := h.workdir_eq
  exact h.of_changes (D := fun _ => False) (F := (· = p.place d.workdir)) (changes_write hw rfl) hne

/-- Without a key there is nothing to be said of a pair. -/
lemma Unkeyed.paired (h : d.Unkeyed files workdir) : d.Paired files workdir errands :=
  ⟨h.workdir_eq, fun c hc => absurd hc (h.key c)⟩

end Disk

/-! ### Calls -/

/-- A bundle on its way to disk: as long as there is no key, no pair is promised, and the key comes
after the certificate of the same bundle. -/
def Stages.pairing (workdir : Location) (errands : List Errand) {e : Errand} (he : e ∈ errands)
    (hb : e.Makes b) : Stages b (Triple.ofPath path) :=
  have hne : ∀ {s t}, s ∈ Triple.suffixes → t ∈ Triple.suffixes → s ≠ t → _ ≠ _ :=
    fun hs ht => Path.place_withSuffix_ne workdir path hs ht
  have hpair : ∀ d : Disk, d.workdir = workdir →
      d.read (Triple.ofPath path).certificate = .ok b.certificate →
      d.read (Triple.ofPath path).key = .ok b.key →
        d.workdir = workdir ∧ d.HoldsPair (Triple.ofPath path) errands :=
    fun d hd hcertificate hkey => ⟨hd, e, he, b, hb, hcertificate, hkey⟩
  { begun := Disk.Unkeyed (Triple.ofPath path) workdir
    certified := fun d => d.Unkeyed (Triple.ofPath path) workdir ∧
      d.read (Triple.ofPath path).certificate = .ok b.certificate
    keyed := fun d => d.workdir = workdir ∧ d.HoldsPair (Triple.ofPath path) errands
    complete := fun d => d.workdir = workdir ∧ d.HoldsPair (Triple.ofPath path) errands
    certify := by
      intro d d' h hw
      have hkey := hne (by decide : "-key.pem" ∈ _) (by decide : ".pem" ∈ _) (by decide)
      exact ⟨h.of_write hw hkey, Disk.read_of_write hw⟩
    giveKey := by
      rintro d d' ⟨h, hcertificate⟩ hw
      obtain rfl := h.workdir_eq
      have hchanges : Changes (fun _ => False) (fun _ => True) d d' := Disk.changes_write hw trivial
      have hother := hne (by decide : ".pem" ∈ _) (by decide : "-key.pem" ∈ _) (by decide)
      exact hpair d' hchanges.workdir (Disk.read_of_write_of_ne hw hcertificate hother)
        (Disk.read_of_write hw)
    finish := by
      rintro d d' ⟨rfl, h⟩ hw
      have hchanges : Changes (fun _ => False) (· = (Triple.ofPath path).request.place d.workdir)
        d d' := Disk.changes_write hw rfl
      have hcertificate := hne (by decide : ".pem" ∈ _) (by decide : ".csr" ∈ _) (by decide)
      have hkey := hne (by decide : "-key.pem" ∈ _) (by decide : ".csr" ∈ _) (by decide)
      exact ⟨hchanges.workdir, h.of_changes hchanges hcertificate hkey⟩ }

namespace Disk

/-- A call for the root keeps what is said of a pair, wherever it stops. -/
lemma Paired.of_root (h : d.Paired (input.files directory) workdir errands)
    (he : Errand.root v directory template input ∈ errands) :
    ∀ d' ∈ v.disks (ensureRoot directory template input) d,
      d'.Paired (input.files directory) workdir errands := by
  by_cases hkey : ∃ c, d.entryAt ((input.files directory).key.place workdir) = some (.file c)
  · obtain ⟨c, hc⟩ := hkey
    intro d' hd'
    rw [(ensureRoot_of_complete (h.pair c hc).complete).2.2 d' hd']
    exact h
  · have hunkeyed : d.Unkeyed (input.files directory) workdir :=
      ⟨h.workdir_eq, fun c hc => hkey ⟨c, hc⟩⟩
    have hcall := @Action.Always.ensureRoot _ v.authority (v.world d) directory template input
      (fun b hb => Stages.pairing workdir errands he (Errand.makes_of_run hb))
      fun _ _ _ _ hd => hunkeyed.of_changes hd id
    have hpaired : ∀ d' : Disk,
        d'.workdir = workdir ∧ d'.HoldsPair (input.files directory) errands →
          d'.Paired (input.files directory) workdir errands :=
      fun d' hd' => ⟨hd'.1, fun _ _ => hd'.2⟩
    refine Visit.forall_disks h hcall fun e w hw => ?_
    rcases hw.2 with hd | ⟨b, hb, -, (hd | hd | hd) | hd⟩
    · exact (hunkeyed.of_changes hd id).paired
    · exact Unkeyed.paired hd
    · exact hd.1.paired
    · exact hpaired _ hd
    · exact hpaired _ hd

/-- So does every call that spares the root. -/
lemma Paired.of_spares
    (h : d.Paired (.ofPath (directory.join (.ofText fileName))) workdir errands) {e : Errand}
    (he : e ∈ errands) (hspares : e.Spares workdir directory fileName) :
    ∀ d' ∈ e.disks d, d'.Paired (.ofPath (directory.join (.ofText fileName))) workdir errands := by
  cases e with
  | root visit directory' template input =>
      obtain ⟨rfl, rfl⟩ := hspares
      exact h.of_root he
  | leaf visit lab input =>
      intro d' hd'
      have hchanges := Errand.changes_of_leaf d' hd'
      rw [h.workdir_eq] at hchanges
      have hother : ∀ {p : Path}, p ∈ (Triple.ofPath (directory.join (.ofText fileName))).paths →
          ¬ (lab.nodeFiles input.name).Lies workdir (p.place workdir) :=
        fun hp hl => hspares _ hl ⟨_, hp, rfl⟩
      have hkey := hother (List.mem_cons_of_mem _ List.mem_cons_self)
      refine ⟨hchanges.workdir.trans h.workdir_eq, fun c hc => ?_⟩
      have hpair := h.pair c (hchanges.entryAt_file hc hkey)
      obtain rfl := h.workdir_eq
      exact hpair.of_changes hchanges (hother List.mem_cons_self) hkey

end Disk

/-! ### Sessions -/

/-- In a session that starts without a key of a root, at every moment at which a key of the root lies
on disk its certificate does so too, and both are parts of a bundle that one call of the session
made, whichever calls stopped at whichever write. So if a call for the root finds it there, what it
finds is such a pair, unless it took a directory for the key. -/
theorem Session.pair_made_together (d : Disk) (directory : Path) (fileName : String)
    (hkey : ∀ c, d.entryAt ((Triple.ofPath (directory.join (.ofText fileName))).key.place
      d.workdir) ≠ some (.file c)) (errands : List Errand)
    (hspares : ∀ e ∈ errands, e.Spares d.workdir directory fileName) :
    let files := Triple.ofPath (directory.join (.ofText fileName))
    (∀ d' ∈ Session.disks d errands, ∀ c,
      d'.entryAt (files.key.place d.workdir) = some (.file c) → d'.HoldsPair files errands) ∧
    ∀ (τ : Type) (u : Visit τ) (template : Template) (input : RootInput) (d' : Disk)
      (outcome : RootOutcome),
      (d', Errand.root u directory template input) ∈ Session.starts d errands →
        u.result (ensureRoot directory template input) d' = .ok outcome →
          outcome.generated = none →
            u.after (ensureRoot directory template input) d' = d' ∧
              (d'.HoldsPair files errands ∨ d'.lookUp files.key = .ok .directory) := by
  intro files
  have hstart : d.Paired files d.workdir errands := Disk.Unkeyed.paired ⟨rfl, hkey⟩
  have hstep : ∀ e ∈ errands, ∀ d₁ : Disk, d₁.Paired files d.workdir errands →
      ∀ d' ∈ e.disks d₁, d'.Paired files d.workdir errands :=
    fun e he d₁ hd₁ => hd₁.of_spares he (hspares e he)
  refine ⟨fun d' hd' => (Session.forall_disks hstart hstep d' hd').pair, ?_⟩
  intro τ u template input d' outcome hmem hresult hnone
  obtain ⟨hpaired, he⟩ := Session.forall_starts hstart hstep _ hmem
  obtain ⟨-, rfl⟩ := hspares _ he
  have hcomplete : d'.Complete (input.files directory) := by
    by_contra hmissing
    have hcreated := (ensureRoot_creates_iff hresult).mpr hmissing
    simp [RootOutcome.wasCreated, hnone] at hcreated
  refine ⟨(ensureRoot_of_complete hcomplete).2.2 _ Visit.after_mem_disks, ?_⟩
  obtain ⟨-, entry, hentry⟩ := hcomplete
  cases entry with
  | directory => exact Or.inr hentry
  | file c =>
      obtain ⟨l, hl, hc, -⟩ := Disk.lookUp_eq_ok_iff.mp hentry
      obtain rfl := Disk.locate_eq_place hl
      rw [hpaired.workdir_eq] at hc
      exact Or.inl (hpaired.pair c hc)

/-! ### A refused key, and a directory in its place -/

/-- A template without places: a request with a name only. -/
def Template.named : Template := ⟨"root", [.text "[\"root\"]".toList]⟩

/-- A call for the root of a directory that finds nothing in its way but refused writes. -/
def Errand.named (directory : Path) (refusals : List (Option IoFailure)) : Errand :=
  .root { Visit.plain with refusals } directory Template.named { labName := "lab" }

/-- The key is refused at first, then it is written, then it is found. -/
def Session.retried : List Errand :=
  [.named (.ofText "ca") [none, some (.other "no space")], .named (.ofText "ca") [],
    .named (.ofText "ca") []]

/-- What the last call finds was made together. -/
theorem Session.pair_made_after_refusal :
    (∀ c, ({} : Disk).entryAt ((Triple.root (.ofText "ca")).key.place []) ≠ some (.file c)) ∧
    (∀ e ∈ Session.retried, e.Spares [] (.ofText "ca") rootFileName) ∧
    ∃ d', (d', Errand.named (.ofText "ca") []) ∈ Session.starts {} Session.retried ∧
      Visit.plain.result (ensureRoot (.ofText "ca") Template.named { labName := "lab" }) d' =
        .ok ⟨Triple.root (.ofText "ca"), none⟩ ∧
      d'.HoldsPair (Triple.root (.ofText "ca")) Session.retried := by
  have hkey : ∀ c, ({} : Disk).entryAt ((Triple.root (.ofText "ca")).key.place []) ≠
      some (.file c) := by
    have hnone : ({} : Disk).entryAt ((Triple.root (.ofText "ca")).key.place []) = none := by
      decide
    simp [hnone]
  have hspares : ∀ e ∈ Session.retried, e.Spares [] (.ofText "ca") rootFileName := by
    intro e he
    simp only [Session.retried, List.mem_cons, List.not_mem_nil, or_false] at he
    rcases he with rfl | rfl | rfl <;> exact ⟨rfl, rfl⟩
  have hlast : ((Errand.named (.ofText "ca") []).after
      ((Errand.named (.ofText "ca") [none, some (.other "no space")]).after {}),
        Errand.named (.ofText "ca") []) ∈ Session.starts {} Session.retried :=
    List.mem_cons_of_mem _ (List.mem_cons_of_mem _ List.mem_cons_self)
  have hresult : Visit.plain.result (ensureRoot (.ofText "ca") Template.named { labName := "lab" })
      ((Errand.named (.ofText "ca") []).after
        ((Errand.named (.ofText "ca") [none, some (.other "no space")]).after {})) =
          .ok ⟨Triple.root (.ofText "ca"), none⟩ := by
    decide +kernel
  obtain ⟨-, hfound⟩ := Session.pair_made_together {} (.ofText "ca") rootFileName hkey
    Session.retried hspares
  obtain ⟨-, hpair | hdirectory⟩ := hfound Unit Visit.plain Template.named { labName := "lab" } _ _
    hlast hresult rfl
  · exact ⟨hkey, hspares, _, hlast, hresult, hpair⟩
  · exact absurd hdirectory (by decide +kernel)

/-- A directory whose path leads over the key that is to lie in it. -/
def Path.overKey : Path := .ofText "ca/root-ca-key.pem/.."

/-- When it is made, a directory is made in the place of the key. So the key cannot be written, and
the next call takes the directory for it. -/
theorem Session.directory_counts_as_key :
    ¬ ∀ (d : Disk) (directory : Path) (errands : List Errand),
      (∀ e ∈ errands, e.Spares d.workdir directory rootFileName) →
      d.entryAt ((Triple.root directory).certificate.place d.workdir) = none →
      d.entryAt ((Triple.root directory).key.place d.workdir) = none →
        ∀ (u : Visit Unit) (template : Template) (input : RootInput) (d' : Disk)
          (outcome : RootOutcome),
          (d', Errand.root u directory template input) ∈ Session.starts d errands →
            u.result (ensureRoot directory template input) d' = .ok outcome →
              outcome.generated = none → d'.HoldsPair (Triple.root directory) errands := by
  intro h
  have hpair := h {} Path.overKey
    [.named Path.overKey [], .named Path.overKey []]
    (fun e he => by
      simp only [List.mem_cons, List.not_mem_nil, or_false, or_self] at he
      exact he ▸ ⟨rfl, rfl⟩)
    (by decide) (by decide) Visit.plain Template.named { labName := "lab" } _
    ⟨Triple.root Path.overKey, none⟩ (List.mem_cons_of_mem _ List.mem_cons_self)
    (by decide +kernel) rfl
  obtain ⟨-, -, b, -, -, hkey⟩ := hpair
  have hdirectory : (Visit.plain.after (ensureRoot Path.overKey Template.named { labName := "lab" })
      {}).read (Triple.root Path.overKey).key = .error .isDirectory := by decide +kernel
  exact absurd (hdirectory.symm.trans hkey) nofun

end LabTrust
