/-
What a report says of a leaf is what was asked for.

A leaf passes through texts twice, as a request and as a certificate, and the report reads the last
of them. Hosts come back in their order, addresses in the form that addresses have; times come back
to the second.
* `Visit.madeLeaf_of_result`: where the bundle of a call for a leaf comes from, at the time of the
  call.
* `Visit.leaf_reports_request`: the report on its certificate.
-/
import LabTrust.Proofs.Lab.Calls

namespace LabTrust

/-! ### Leaves -/

/-- A bundle comes from the answers at the time of the call. -/
lemma Visit.madeLeaf_of_result {σ : Type} {v : Visit σ} {d : Disk} {rootCertificate rootKey : Path}
    {template : Template} {input : LeafInput} {target : Path} {options : LeafOptions} {b : Bundle}
    (h : v.result (issueLeaf rootCertificate rootKey template input target options) d = .ok b) :
    MadeLeaf (v.authority.fixedAt v.now) rootCertificate rootKey template input options d b := by
  have hleaf := @Action.Always.issueLeaf _ (v.authority.fixedAt v.now) (v.world d) rootCertificate
    rootKey template input target options
    (fun _ _ => Stages.any _ _) (fun _ _ _ _ => trivial)
  obtain ⟨w, hmade, -⟩ := Visit.of_fixedAt_ok hleaf h
  exact hmade

/-- A file has one text. -/
lemma Disk.Reads.unique {d : Disk} {p : Path} {s t : String} (hs : d.Reads p s)
    (ht : d.Reads p t) : s = t := by
  obtain ⟨bs, hbs, hs⟩ := hs
  obtain ⟨cs, hcs, ht⟩ := ht
  obtain rfl := Except.ok.inj (hbs.symm.trans hcs)
  exact Option.some.inj (hs.symm.trans ht)

/-- When a call for a leaf gives a bundle, and the root on disk is one that signed itself, the
report on the certificate tells the hosts of the request in their order, the root's name as its
issuer, and a validity that begins five minutes before the call and ends when the asked lifetime
has passed. -/
theorem Visit.leaf_reports_request (suite : Suite) (now : Instant) (states : ℕ → Entropy)
    (refusals : List (Option IoFailure)) (d : Disk) (rootNow : Instant) (rootRequest : Request)
    (rootKeyText rootText : String) (e e' : Entropy)
    (hroot : Issuance.selfSign suite rootNow rootRequest rootKeyText e = .ok (rootText, e'))
    (rootCertificate rootKey : Path) (hreads : d.Reads rootCertificate rootText)
    (template : Template) (input : LeafInput) (target : Path) (options : LeafOptions) (b : Bundle)
    (hb : (⟨Issuance.authority suite, now, states, refusals⟩ : Visit Entropy).result
      (issueLeaf rootCertificate rootKey template input target options) d = .ok b) :
    ∃ document request lifetime text report root,
      template.render input.toData = .ok document ∧ Request.read (.ofText document) = .ok request ∧
      Expiry.parse (if Text.blank input.expiry then options.expiry else input.expiry) =
        .ok lifetime ∧
      b.certificate = .ofText text ∧ CertificateSummary.ofPem text = .ok report ∧
      CertificateSummary.ofPem rootText = .ok root ∧
      List.Forall₂ Host.ShownAs request.hosts report.hosts ∧ report.isAuthority = false ∧
      report.issuer = root.subject ∧ report.notAfter = ⟨now.second + lifetime, 0⟩ ∧
      report.notBefore = ⟨now.second - 300, 0⟩ := by
  obtain ⟨request, lifetime, signer, key, csr, text, hsettled, ⟨hcertificate, -⟩, -, hcsr, hleaf,
    rfl⟩ := Visit.madeLeaf_of_result hb
  obtain ⟨document, hdocument, hrequest⟩ := hsettled.document
  obtain ⟨root, hrootSummary, hrootSubject⟩ := Issuance.exists_summary_of_selfSign hroot
  obtain ⟨e₁, hcsr⟩ := Authority.answers_fixedAt.mp hcsr
  obtain ⟨e₁', hcsr⟩ := Issuance.exists_answer hcsr
  obtain ⟨e₂, hleaf⟩ := Authority.answers_fixedAt.mp hleaf
  obtain ⟨e₂', hleaf⟩ := Issuance.exists_answer hleaf
  obtain ⟨leaf, issuer, accepted, names, validity, hsigned⟩ := Issuance.exists_settled hleaf
  -- the names are those of the hosts, if there are none by way of the request
  have hnames : List.Forall₂ (fun host n => AltName.ofHost? host = some n) request.hosts names := by
    have hhosts := hsigned.hosts
    split at hhosts
    · exact hhosts ▸ Issuance.accepted_of_buildRequest hcsr hsigned.loadRequest
    · exact hhosts
  -- the issuer is the root
  have hissuer : issuer.name = rootRequest.subject := by
    obtain ⟨c, _, _, hc⟩ := Issuance.exists_selfSigned hroot
    have hheld := hc.held
    rw [Disk.Reads.unique hreads hcertificate] at hheld
    exact (Issuance.loadIssuer_of_heldBy hheld hc.subject hsigned.loadIssuer).1
  obtain ⟨serial, message, e₃, hread, -⟩ := hsigned.read
  have hsummary := hsigned.held.summary_eq
  rw [hsigned.isLeafFor.summary, hread] at hsummary
  have hwindow := hsigned.window
  rw [Issuance.window] at hwindow
  split at hwindow
  · obtain rfl := Except.ok.inj hwindow
    refine ⟨document, request, lifetime, text, _, root, hdocument, hrequest, hsettled.lifetime, rfl,
      hsummary, hrootSummary, AltName.forall₂_shownAs hnames, rfl, ?_, rfl, rfl⟩
    rw [hrootSubject, ← hissuer]
    rfl
  · simp at hwindow

/-! ### A host twice, and an address -/

namespace Issuance

/-- The root. -/
def hourRoot : String :=
  Pem.write ⟨Certificate.label, (Der.sign .spelled rootKey
    ((rootDraft hourRequest rootKey [] (-300, 3600) (drawSerial ⟨[], 0⟩).1).body
      rootKey.signatureAlgorithm) ⟨[], 1⟩).1⟩

lemma selfSign_hourRequest :
    selfSign .spelled ⟨0, 0⟩ hourRequest rootKey.toPem ⟨[], 0⟩ = .ok (hourRoot, ⟨[], 1⟩) :=
  selfSign_hour Suite.modest_spelled ofPem?_rootKey isShort_hour _

/-- The leaf. -/
def mixedLeaf : String :=
  Pem.write ⟨Certificate.label, (Der.sign .spelled rootKey
    ((leafDraft ⟨hourRequest.subject, Extension.keyId rootKey.publicKey, rootKey⟩
      ⟨mixedRequest.subject, mixedKey.publicKey, mixedNames⟩ mixedNames (-300, 31536000)
        (drawSerial ⟨[], 1⟩).1).body rootKey.signatureAlgorithm) ⟨[], 2⟩).1⟩

lemma sign_mixed : sign .spelled ⟨0, 0⟩ mixedOrder ⟨hourRoot, rootKey.toPem⟩ ⟨[], 1⟩ =
    .ok (mixedLeaf, ⟨[], 2⟩) :=
  sign_mixedRequest Suite.sound_spelled Suite.modest_spelled selfSign_hourRequest ofPem?_rootKey
    (by decide) built_mixed _

end Issuance

/-- The files of the root and of its key. -/
def Disk.ofHourRoot : Disk where
  entries := [(["root.pem".toList], .file (.ofText Issuance.hourRoot)),
    (["root-key.pem".toList], .file (.ofText Issuance.rootKey.toPem))]

lemma Disk.readsSigner_ofHourRoot : Disk.ofHourRoot.ReadsSigner (.ofText "root.pem")
    (.ofText "root-key.pem") ⟨Issuance.hourRoot, Issuance.rootKey.toPem⟩ :=
  ⟨⟨_, by rfl, Bytes.text?_ofText _⟩, _, by rfl, Bytes.text?_ofText _⟩

lemma Visit.result_mixed : (Visit.spelled []).result (issueLeaf (.ofText "root.pem")
    (.ofText "root-key.pem") Template.mixed { name := "r1" } (.ofText "r1") {}) Disk.ofHourRoot =
      .ok (Bundle.ofTexts Issuance.mixedKey.toPem Issuance.mixedText Issuance.mixedLeaf) :=
  Visit.result_issueLeaf LeafOptions.plan_mixed Disk.readsSigner_ofHourRoot
    Issuance.generateKey_mixed Issuance.buildRequest_mixed Issuance.sign_mixed
    (.ofPath ((Path.ofText "r1").join (.ofText "r1"))) (by decide)

/-- The report on its leaf. -/
theorem Visit.mixed_hosts_are_reported :
    Issuance.selfSign .spelled ⟨0, 0⟩ Issuance.hourRequest Issuance.rootKey.toPem ⟨[], 0⟩ =
        .ok (Issuance.hourRoot, ⟨[], 1⟩) ∧
      Disk.ofHourRoot.Reads (.ofText "root.pem") Issuance.hourRoot ∧
      (Visit.spelled []).result (issueLeaf (.ofText "root.pem") (.ofText "root-key.pem")
        Template.mixed { name := "r1" } (.ofText "r1") {}) Disk.ofHourRoot =
          .ok (Bundle.ofTexts Issuance.mixedKey.toPem Issuance.mixedText Issuance.mixedLeaf) ∧
      ∃ report root, CertificateSummary.ofPem Issuance.mixedLeaf = .ok report ∧
        CertificateSummary.ofPem Issuance.hourRoot = .ok root ∧
        List.Forall₂ Host.ShownAs ["r1", "FE80:0::1", "r1"] report.hosts ∧
        report.isAuthority = false ∧ report.issuer = root.subject ∧
        report.notAfter = ⟨31536000, 0⟩ ∧ report.notBefore = ⟨-300, 0⟩ := by
  obtain ⟨document, request, lifetime, text, report, root, hdocument, hrequest, hlifetime, htext,
    hreport, hroot, hhosts, hauthority, hissuer, hafter, hbefore⟩ :=
    Visit.leaf_reports_request .spelled ⟨0, 0⟩ (fun source => ⟨[], source⟩) []
      Disk.ofHourRoot ⟨0, 0⟩ Issuance.hourRequest Issuance.rootKey.toPem Issuance.hourRoot
      ⟨[], 0⟩ ⟨[], 1⟩ Issuance.selfSign_hourRequest (.ofText "root.pem") (.ofText "root-key.pem")
      Disk.readsSigner_ofHourRoot.1 Template.mixed { name := "r1" } (.ofText "r1") {} _
      Visit.result_mixed
  obtain rfl : Issuance.mixedLeaf = text :=
    Option.some.inj ((Bundle.certificateText?_ofTexts _ _ _).symm.trans
      ((congrArg Bytes.text? htext).trans (Bytes.text?_ofText text)))
  obtain rfl : request = Issuance.mixedRequest := by
    have hread : (Template.mixed.render (LeafInput.toData { name := "r1" })).bind
        (fun document => Request.read (.ofText document)) = .ok Issuance.mixedRequest := by
      decide +kernel
    rw [hdocument] at hread
    exact Except.ok.inj (hrequest.symm.trans hread)
  obtain rfl : lifetime = 31536000 :=
    Except.ok.inj (hlifetime.symm.trans (by decide))
  exact ⟨Issuance.selfSign_hourRequest, Disk.readsSigner_ofHourRoot.1, Visit.result_mixed, report,
    root, hreport, hroot, hhosts, hauthority, hissuer, hafter, hbefore⟩

end LabTrust
