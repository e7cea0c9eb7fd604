/-
Calls whose authority answers.

When all that is checked is settled and the authority gives each answer, what is left of a call is
to write its bundle. So what such a call does to a disk is what the writing does.
* `Issuance.answer_eq_ok`, `Issuance.exists_answer`: the authority of a suite of signatures, and its
  answers with the random values after them.
* `World.snd_run_persist`, `World.read_persist`: what is left when a certificate and a key can be
  written, whatever becomes of the request.
* `World.run_issueLeaf`, `World.run_ensureRoot`: the two calls up to their files.
* `Visit.result_issueLeaf`, `Visit.after_issueLeaf`, `Visit.after_ensureRoot`: when a call for a leaf
  succeeds, and the disks that the calls leave.
-/
import LabTrust.Proofs.Certificate.Answered
import LabTrust.Proofs.Lab.Session

namespace LabTrust

variable {σ : Type} {suite : Suite}

/-! ### Answers -/

namespace Issuance

variable {now : Instant} {call : Call} {e e' : Entropy} {text : String}

/-- The authority answers what can be answered. -/
lemma answer_eq_ok (h : answer suite now e call = .ok (text, e')) :
    (authority suite).answer now call e = (.ok text, e') := by
  simp only [authority, h]

lemma answer_eq_error {failure : Error} (h : answer suite now e call = .error failure) :
    (authority suite).answer now call e = (.error failure, e) := by
  simp only [authority, h]

/-- An answer of the authority comes with the random values after it. -/
lemma exists_answer (h : ((authority suite).answer now call e).1 = .ok text) :
    ∃ e', answer suite now e call = .ok (text, e') := by
  rw [authority] at h
  cases hanswer : answer suite now e call with
  | ok made =>
      simp only [hanswer, Except.ok.injEq] at h
      exact ⟨made.2, by rw [← h]⟩
  | error failure => simp [hanswer] at h

lemma of_answers (h : (authority suite).Answers call (.ok text)) :
    ∃ now e e', answer suite now e call = .ok (text, e') := by
  obtain ⟨now, e, h⟩ := h
  exact ⟨now, e, exists_answer h⟩

end Issuance

/-! ### Files -/

namespace World

variable {authority : Authority σ} {w w₁ w₂ : World σ}

/-- A signer is read if its files are texts. -/
lemma run_signer {certificate key : Path} {signer : Signer}
    (h : w.disk.ReadsSigner certificate key signer) :
    run authority (Signer.read certificate key).run w = (.ok signer, w) := by
  obtain ⟨⟨_, hcertificateBytes, hcertificate⟩, _, hkeyBytes, hkey⟩ := h
  exact (run_bind_of_ok (run_readSigner hcertificateBytes hcertificate)).trans
    (run_bind_of_ok (run_readSigner hkeyBytes hkey))

/-- A call for a root makes it if its certificate is missing. -/
lemma run_ensureRoot_of_missing {directory : Path} {template : Template} {input : RootInput}
    {f : IoFailure} (h : w.disk.lookUp (input.files directory).certificate = .error f) :
    run authority (ensureRoot directory template input).run w =
      run authority (createRoot directory template input).run w := by
  have hexists : run authority (Action.exists? (input.files directory).certificate).run w =
      (.ok false, w) := by
    have hanswer := @run_lookUp _ authority w (input.files directory).certificate
    rw [h] at hanswer
    exact run_bind_of_ok hanswer
  have hmissing : run authority (Store.isComplete (input.files directory)).run w =
      (.ok false, w) := run_bind_of_ok hexists
  exact run_bind_of_ok hmissing

variable {b : Bundle} {path q : Path} {made : Disk}
  (hparent : path.parent? = some q) (hmade : w.disk.makeDirectories q = (.ok (), made))
  (hcertificate : World.write { w with disk := made } (Triple.ofPath path).certificate
    b.certificate = (.ok (), w₁))
  (hkey : w₁.write (Triple.ofPath path).key b.key = (.ok (), w₂))

include hparent hmade hcertificate hkey

/-- When a certificate and its key can be written, the world is left that the write of the request
leaves. -/
lemma snd_run_persist :
    (run authority (Store.persist b path).run w).2 =
      (w₂.write (Triple.ofPath path).request b.request).2 := by
  simp only [Store.persist, hparent]
  rw [run_bind_of_ok (run_makeDirectories hmade), run_bind_of_ok (run_write hcertificate),
    run_bind_of_ok (run_write hkey), snd_run_bind_pure, snd_run_write]

/-- So the certificate can be read then. -/
lemma read_persist :
    (run authority (Store.persist b path).run w).2.disk.read (Triple.ofPath path).certificate =
      .ok b.certificate := by
  have hne : ∀ workdir, ∀ s ∈ Triple.suffixes, ".pem" ≠ s →
      (path.withSuffix ".pem").place workdir ≠ (path.withSuffix s).place workdir :=
    fun workdir s hs => Path.place_withSuffix_ne workdir path (by decide) hs
  have hread : w₁.disk.read (path.withSuffix ".pem") = .ok b.certificate :=
    Disk.read_of_write (disk_of_write_ok hcertificate)
  have hkeyed : w₂.disk.read (path.withSuffix ".pem") = .ok b.certificate :=
    read_of_write_of_ne hkey hread (hne _ "-key.pem" (by decide) (by decide))
  rw [snd_run_persist hparent hmade hcertificate hkey]
  exact read_of_write_of_ne rfl hkeyed (hne _ ".csr" (by decide) (by decide))

end World

/-! ### Leaves -/

section Leaves

variable {d : Disk} {now : Instant} {states : ℕ → Entropy} {refusals : List (Option IoFailure)}
  {rootCertificate rootKey target : Path} {template : Template} {input : LeafInput}
  {options : LeafOptions} {request : Request} {lifetime : ℕ} {signer : Signer}
  {key csr leaf : String} {e₁ e₂ e₃ : Entropy}

variable (hplan : options.plan template input = .ok (request, lifetime))
  (hsigner : d.ReadsSigner rootCertificate rootKey signer)
  (hkey : Issuance.answer suite now (states 0) (.generateKey request.key) = .ok (key, e₁))

include hplan hsigner hkey

/-- A call for a leaf fails as its request does, if all is settled and its key is made. -/
lemma Visit.result_issueLeaf_of_buildRequest {failure : Error}
    (hcsr : Issuance.answer suite now e₁ (.buildRequest request key) = .error failure) :
    (⟨Issuance.authority suite, now, states, refusals⟩ : Visit Entropy).result
      (issueLeaf rootCertificate rootKey template input target options) d = .error failure := by
  have hsigned := @World.run_signer _ (Issuance.authority suite) ⟨d, now, states, refusals⟩ _ _ _
    hsigner
  rw [result, world, issueLeaf, World.run_bind_of_ok (World.run_orFail hplan),
    World.run_bind_of_ok hsigned,
    World.run_bind_of_ok (World.run_consult (Issuance.answer_eq_ok hkey)),
    World.run_bind_of_error (World.run_consult_of_error (Issuance.answer_eq_error hcsr))]

variable (hcsr : Issuance.answer suite now e₁ (.buildRequest request key) = .ok (csr, e₂))
  (hleaf : Issuance.answer suite now e₂ (.sign ⟨csr, request.hosts, lifetime⟩ signer) =
    .ok (leaf, e₃))

include hcsr hleaf

/-- It is left with its files if all is settled and all answers are given. -/
lemma World.run_issueLeaf :
    run (Issuance.authority suite)
        (issueLeaf rootCertificate rootKey template input target options).run
        ⟨d, now, states, refusals⟩ =
      run (Issuance.authority suite)
        (Store.persist (Bundle.ofTexts key csr leaf) (target.join (.ofText input.name)) >>=
          fun _ => pure (Bundle.ofTexts key csr leaf)).run
        ((((World.mk d now states refusals).setState 0 e₁).setState 0 e₂).setState 0 e₃) := by
  have hlast : (do
      discard <| Store.persist (Bundle.ofTexts key csr leaf) (target.join (.ofText input.name))
      return Bundle.ofTexts key csr leaf : Action Bundle) =
        Store.persist (Bundle.ofTexts key csr leaf) (target.join (.ofText input.name)) >>=
          fun _ => pure (Bundle.ofTexts key csr leaf) := bind_map_left _ _ _
  have hsigned := @run_signer _ (Issuance.authority suite) ⟨d, now, states, refusals⟩ _ _ _ hsigner
  rw [issueLeaf, run_bind_of_ok (run_orFail hplan), run_bind_of_ok hsigned,
    run_bind_of_ok (run_consult (Issuance.answer_eq_ok hkey)),
    run_bind_of_ok (run_consult (Issuance.answer_eq_ok hcsr)),
    run_bind_of_ok (run_consult (Issuance.answer_eq_ok hleaf))]
  exact congrArg (fun a => run (Issuance.authority suite) (ExceptT.run a) _) hlast

/-- It gives a bundle if moreover its files can be written. -/
lemma Visit.result_issueLeaf (files : Triple)
    (hpersist : (World.run (Issuance.authority suite)
      (Store.persist (Bundle.ofTexts key csr leaf) (target.join (.ofText input.name))).run
        ((((World.mk d now states refusals).setState 0 e₁).setState 0 e₂).setState 0 e₃)).1 =
          .ok files) :
    (⟨Issuance.authority suite, now, states, refusals⟩ : Visit Entropy).result
      (issueLeaf rootCertificate rootKey template input target options) d =
        .ok (Bundle.ofTexts key csr leaf) :=
  congrArg Prod.fst ((World.run_issueLeaf hplan hsigner hkey hcsr hleaf).trans
    (World.run_bind_of_ok (Prod.ext hpersist rfl)))

/-- The disk after it is the one after its files. -/
lemma Visit.after_issueLeaf :
    (⟨Issuance.authority suite, now, states, refusals⟩ : Visit Entropy).after
        (issueLeaf rootCertificate rootKey template input target options) d =
      (World.run (Issuance.authority suite)
        (Store.persist (Bundle.ofTexts key csr leaf) (target.join (.ofText input.name))).run
          ((((World.mk d now states refusals).setState 0 e₁).setState 0 e₂).setState 0
            e₃)).2.disk := by
  rw [after, world, World.run_issueLeaf hplan hsigner hkey hcsr hleaf, World.snd_run_bind_pure]

end Leaves

/-! ### Roots -/

section Roots

variable {d made : Disk} {now : Instant} {states : ℕ → Entropy}
  {refusals : List (Option IoFailure)} {directory : Path} {template : Template} {input : RootInput}
  {document : String} {request : Request} {lifetime : ℕ} {key csr root : String}
  {e₁ e₂ e₃ : Entropy}

variable (hdocument : template.render input.toData = .ok document)
  (hrequest : Request.read (.ofText document) = .ok request)
  (hvalid : request.validate = .ok ()) (hlifetime : request.authorityExpiry = .ok lifetime)
  (hkey : Issuance.answer suite now (states 0) (.generateKey request.key) = .ok (key, e₁))
  (hcsr : Issuance.answer suite now e₁ (.buildRequest request key) = .ok (csr, e₂))
  (hroot : Issuance.answer suite now e₂ (.selfSign request key) = .ok (root, e₃))

include hdocument hrequest hvalid hlifetime hkey hcsr hroot

/-- The bundle of a root is worked out if all checks pass and all answers are given. -/
lemma World.run_rootBundle :
    run (Issuance.authority suite) (rootBundle template input).run ⟨d, now, states, refusals⟩ =
      (.ok (.ofTexts key csr root),
        (((World.mk d now states refusals).setState 0 e₁).setState 0 e₂).setState 0 e₃) := by
  have hchecked : run (Issuance.authority suite)
      (discard (Action.orFail request.authorityExpiry)).run ⟨d, now, states, refusals⟩ =
        (.ok (), ⟨d, now, states, refusals⟩) := by
    rw [hlifetime]
    rfl
  rw [rootBundle, run_bind_of_ok (run_orFail hdocument), run_bind_of_ok (run_orFail hrequest),
    run_bind_of_ok (run_orFail hvalid), run_bind_of_ok hchecked,
    run_bind_of_ok (run_consult (Issuance.answer_eq_ok hkey)),
    run_bind_of_ok (run_consult (Issuance.answer_eq_ok hcsr)),
    run_bind_of_ok (run_consult (Issuance.answer_eq_ok hroot))]
  rfl

/-- The disk after a call that makes a root is the one after its files, if its directory can be
made. -/
lemma Visit.after_ensureRoot {f : IoFailure}
    (hmissing : d.lookUp (input.files directory).certificate = .error f)
    (hmade : d.makeDirectories directory = (.ok (), made)) :
    (⟨Issuance.authority suite, now, states, refusals⟩ : Visit Entropy).after
        (ensureRoot directory template input) d =
      (World.run (Issuance.authority suite)
        (Store.persist (.ofTexts key csr root) (directory.join (.ofText input.fileName))).run
          ((((World.mk made now states refusals).setState 0 e₁).setState 0 e₂).setState 0
            e₃)).2.disk := by
  have hdirectory := @World.run_makeDirectories _ (Issuance.authority suite)
    ⟨d, now, states, refusals⟩ _ _ hmade
  have hstart := @World.run_ensureRoot_of_missing _ (Issuance.authority suite)
    ⟨d, now, states, refusals⟩ _ template _ _ hmissing
  rw [after, world, hstart, createRoot_eq, World.run_bind_of_ok hdirectory, World.run_bind_of_ok
    (World.run_rootBundle hdocument hrequest hvalid hlifetime hkey hcsr hroot),
    World.snd_run_bind_pure]

end Roots

/-! ### A template without places -/

/-- What a call finds beside an authority with these signatures. -/
def Visit.spelled (refusals : List (Option IoFailure)) : Visit Entropy :=
  ⟨Issuance.authority Suite.spelled, ⟨0, 0⟩, fun source => ⟨[], source⟩, refusals⟩

/-- A template without places, as a list of values. -/
def Template.mixed : Template :=
  ⟨"node", [.text "[\"r1\",[\"ecdsa\",256],[],[\"r1\",\"FE80:0::1\",\"r1\"]]".toList]⟩

lemma LeafOptions.plan_mixed : LeafOptions.plan {} Template.mixed { name := "r1" } =
    .ok (Issuance.mixedRequest, 31536000) := by
  decide +kernel

end LabTrust
