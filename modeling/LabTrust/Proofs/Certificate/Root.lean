/-
Roots say what their requests ask for, and can sign.

A root is made from a request and a key alone. It is its own issuer, in name and in signature; its
hosts, its lifetime and the length of the chains below it come from the request.
* `Issuance.SelfSigned.altNames?`, `constraints?`, `isSignedBy`: what is read of a root.
* `Issuance.loadIssuer_of_selfSign`: a root that was made can sign.
* `Issuance.exists_summary_of_selfSign`: what a root says of itself.
* `Issuance.root_is_as_requested`: all that a root keeps to, and that there is none without a
  lifetime.
-/
import LabTrust.Proofs.Certificate.Leaf
import LabTrust.Proofs.Der.Number

namespace LabTrust

open Der (element)

/-! ### Basic constraints -/

/-- What a root's basic constraints say is read back. -/
lemma Extension.readConstraints?_ofRoot {pathLength : Option ℕ}
    (hbound : ∀ n ∈ pathLength, n < UInt32.size)
    (h : (ofRoot pathLength).value.length < UInt64.size) :
    readConstraints? (ofRoot pathLength).value = some (true, pathLength) := by
  have hcontent := (Der.length_lt_element Der.sequence
    (element Der.boolean [0xff] ++ (pathLength.map Der.nat).getD [])).trans h
  have hmark : ∀ rest, Der.readTag? Der.boolean (element Der.boolean [0xff] ++ rest) =
      some ([0xff], rest) := Der.readTag?_element (by decide) (by decide)
  rw [ofRoot, readConstraints?, Der.readTag?_last (by decide) hcontent]
  simp only [Option.bind_eq_bind, Option.bind_some, hmark]
  cases pathLength with
  | none => rfl
  | some n =>
      have hne : ((some n).map Der.nat).getD [] ≠ [] := Der.element_ne_nil _ _
      have hnumber : (Der.natContent n).length < (((some n).map Der.nat).getD []).length :=
        Der.length_lt_element _ _
      rw [List.length_append] at hcontent
      have hread : Der.readTag? Der.integer (((some n).map Der.nat).getD []) =
          some (Der.natContent n, []) := Der.readTag?_last (by decide) (by omega)
      rw [if_neg hne, hread]
      simp only [Option.bind_some, Der.natOf?_natContent, hbound n rfl, and_self, if_true]
      rfl

/-- What the basic constraints of a certificate say, if it has such. -/
def Certificate.constraints? (c : Certificate) : Option (Bool × Option ℕ) :=
  match Extension.unique? Extension.basicConstraints c.extensions with
  | .ok (some x) => Extension.readConstraints? x.value
  | _ => none

/-- They decide whether its holder may sign certificates. -/
lemma Certificate.isAuthority_eq (c : Certificate) :
    c.isAuthority = (c.constraints?.map (·.1)).getD false := by
  rw [isAuthority, constraints?]
  rcases Extension.unique? Extension.basicConstraints c.extensions with _ | _ | _ <;> rfl

/-! ### Roots -/

namespace Issuance

variable {suite : Suite} {now : Instant} {request : Request} {keyText text : String}
  {e e' : Entropy}

namespace SelfSigned

variable {root : Certificate} {key : SecretKey} {names : List AltName}

/-- The names of a root are read back. -/
lemma altNames? (h : SelfSigned suite now request keyText text root key names) :
    root.altNames? = some names := by
  refine Certificate.altNames?_ofAltNames [] _ h.extensions (by simp) (fun x hx => ?_)
    (AltName.isGiven_of_forall₂ h.hosts) h.fits
  simp only [List.mem_cons, List.not_mem_nil, or_false] at hx
  rcases hx with rfl | rfl | rfl
  · exact show Extension.keyUsage ≠ Extension.altNames by decide
  · exact show Extension.subjectKeyId ≠ Extension.altNames by decide
  · exact show Extension.basicConstraints ≠ Extension.altNames by decide

/-- The extensions before the others are about names. -/
lemma ne_of_mem {id : Bytes} {x : Extension} (hid : Extension.altNames ≠ id)
    (hx : x ∈ Extension.ofAltNames request.subject names) : x.id ≠ id :=
  (Extension.id_of_mem_ofAltNames hx).symm ▸ hid

/-- The usage of a root can be read. -/
lemma hasReadableUsage (h : SelfSigned suite now request keyText text root key names) :
    hasReadableUsage root = true := by
  have hafter : ∀ x ∈ [Extension.ofSubjectKey (Extension.keyId key.publicKey),
      .ofRoot request.pathLength?], x.id ≠ Extension.keyUsage := by
    simp only [List.mem_cons, List.not_mem_nil, or_false, forall_eq_or_imp, forall_eq]
    exact ⟨show Extension.subjectKeyId ≠ _ by decide, show Extension.basicConstraints ≠ _ by decide⟩
  have hunique : Extension.unique? Extension.keyUsage root.extensions =
      .ok (some Extension.rootUsage) :=
    Extension.unique?_of_eq h.extensions (fun _ => ne_of_mem (by decide)) hafter
  rw [Issuance.hasReadableUsage, hunique]
  decide

/-- The identifier of a root's key is the one that was written into it. -/
lemma keyIdOf_eq (h : SelfSigned suite now request keyText text root key names) :
    keyIdOf root key = Extension.keyId key.publicKey := by
  have hfits := h.fits (.ofSubjectKey (Extension.keyId key.publicKey)) (by simp [h.extensions])
  have hcontent := Der.length_lt_element Der.octetString (Extension.keyId key.publicKey)
  have hread : Extension.readKeyId?
      (Extension.ofSubjectKey (Extension.keyId key.publicKey)).value =
        some (Extension.keyId key.publicKey) := by
    rw [Extension.readKeyId?, Extension.ofSubjectKey,
      Der.readTag?_last (by decide) (hcontent.trans hfits)]
    rfl
  have hnone : (Extension.ofAltNames request.subject names).filter
      (·.id = Extension.subjectKeyId) = [] :=
    List.filter_eq_nil_iff.mpr fun x hx => by
      simpa using @ne_of_mem _ _ Extension.subjectKeyId _ (by decide) hx
  have hfilter : root.extensions.filter (·.id = Extension.subjectKeyId) =
      [.ofSubjectKey (Extension.keyId key.publicKey)] := by
    rw [h.extensions, List.filter_append, hnone]
    rfl
  rw [keyIdOf, hfilter, List.findSome?_singleton, hread]
  rfl

/-- A root's constraints are those of an authority, with the length that its request gives. -/
lemma constraints? (h : SelfSigned suite now request keyText text root key names) :
    root.constraints? = some (true, request.pathLength?) := by
  have hsplit : root.extensions = (Extension.ofAltNames request.subject names ++
      [.rootUsage, .ofSubjectKey (Extension.keyId key.publicKey)]) ++
        [.ofRoot request.pathLength?] := by
    rw [h.extensions, List.append_assoc]
    rfl
  have hbefore : ∀ x ∈ Extension.ofAltNames request.subject names ++
      [.rootUsage, .ofSubjectKey (Extension.keyId key.publicKey)],
        x.id ≠ Extension.basicConstraints := by
    simp only [List.forall_mem_append, List.forall_mem_cons, List.not_mem_nil, false_implies,
      implies_true, and_true]
    exact ⟨fun _ => ne_of_mem (by decide), show Extension.keyUsage ≠ _ by decide,
      show Extension.subjectKeyId ≠ _ by decide⟩
  have hunique : Extension.unique? Extension.basicConstraints root.extensions =
      .ok (some (.ofRoot request.pathLength?)) :=
    Extension.unique?_of_eq hsplit hbefore (by simp)
  have hbound : ∀ n ∈ request.pathLength?, n < UInt32.size := by
    intro n hn
    obtain ⟨octet, -, rfl⟩ := Option.map_eq_some_iff.mp hn
    exact octet.toNat_lt.trans (by decide)
  rw [Certificate.constraints?, hunique]
  exact Extension.readConstraints?_ofRoot hbound (h.fits _ (by simp [hsplit]))

/-- A root carries a signature made with its own key. -/
lemma isSignedBy (h : SelfSigned suite now request keyText text root key names)
    (hsuite : suite.Sound) : Certificate.isSignedBy suite root root = true := by
  obtain ⟨e, hsignature⟩ := h.signature
  rw [Certificate.isSignedBy, h.algorithm, SecretKey.ofId?_signatureAlgorithm, h.publicKey,
    hsignature]
  exact hsuite keyText key h.keyRead root.body e

/-- What a root says of itself. -/
lemma summary (h : SelfSigned suite now request keyText text root key names) :
    root.summary = .ok
      { subject := request.subject.text, issuer := request.subject.text, serial := root.serialText,
        notBefore := { second := root.notBefore }, notAfter := { second := root.notAfter },
        hosts := names.filterMap AltName.shown?, isAuthority := true } := by
  rw [Certificate.summary, h.altNames?, h.subject, h.issuer, Certificate.isAuthority_eq,
    h.constraints?]
  rfl

/-- A root is issued by itself. -/
lemma checkIssuedBy (h : SelfSigned suite now request keyText text root key names)
    (hsuite : suite.Sound) : Certificate.checkIssuedBy suite text text = .ok () := by
  obtain ⟨document, hpem, hread⟩ := h.held
  refine (Certificate.checkIssuedBy_eq_ok_iff h.held hpem hread (h.isSignedBy hsuite)).mpr
    ⟨rfl, ?_⟩
  rw [h.issuer, h.subject]

end SelfSigned

/-- A root says of itself that its subject is the one that its request asked for. -/
lemma exists_summary_of_selfSign (h : selfSign suite now request keyText e = .ok (text, e')) :
    ∃ root, CertificateSummary.ofPem text = .ok root ∧ root.subject = request.subject.text := by
  obtain ⟨c, key, names, hc⟩ := exists_selfSigned h
  exact ⟨_, hc.held.summary_eq.trans hc.summary, rfl⟩

/-- A root and its key are a signer. -/
lemma loadIssuer_of_selfSign (h : selfSign suite now request keyText e = .ok (text, e'))
    {key : SecretKey} (hkey : SecretKey.ofPem? keyText = some key) :
    loadIssuer ⟨text, keyText⟩ =
      .ok ⟨request.subject, Extension.keyId key.publicKey, key⟩ := by
  obtain ⟨c, key', names, hc⟩ := exists_selfSigned h
  obtain rfl : key' = key := Option.some.inj (hc.keyRead.symm.trans hkey)
  have hname : c.subject.copy? = some request.subject := by
    rw [hc.subject, Request.copy?_subject]
  rw [loadIssuer_eq_ok hc.held hkey hname hc.hasReadableUsage, hc.keyIdOf_eq]

/-- The beginning and the end of a validity are a lifetime and five minutes apart. -/
lemma window_eq_ok_iff {lifetime : Int} {validity : Int × Int} :
    window now lifetime = .ok validity ↔
      (calendar.1 ≤ now.second + lifetime ∧ now.second + lifetime ≤ calendar.2) ∧
        validity = (now.second - 300, now.second + lifetime) := by
  rw [window]
  split
  · next hrange => exact ⟨fun h => ⟨hrange, (Except.ok.inj h).symm⟩, fun h => congrArg _ h.2.symm⟩
  · next hrange => exact iff_of_false (by simp) fun h => hrange h.1

/-- Without a lifetime there is no root. -/
lemma selfSign_of_authorityExpiry_error {failure : Error}
    (h : request.authorityExpiry = .error failure) :
    ∃ failure', selfSign suite now request keyText e = .error failure' := by
  cases hroot : selfSign suite now request keyText e with
  | error failure' => exact ⟨failure', rfl⟩
  | ok made =>
      obtain ⟨text, e'⟩ := made
      obtain ⟨c, key, names, hc⟩ := exists_selfSigned hroot
      obtain ⟨lifetime, hlifetime, -⟩ := hc.window
      exact absurd (h.symm.trans hlifetime) (by simp)

/-- If signatures are found good under the keys they are made with, a root that was made was issued
by itself, and says so; it says that it may sign others, with chains below it as long as its request
says, if it does, and with no bound otherwise; it tells the hosts of the request in their order; and
its validity lasts five minutes more than the lifetime of the request. No root is made for a request
that gives no lifetime. -/
theorem root_is_as_requested (suite : Suite) (hsuite : suite.Sound) (now : Instant)
    (request : Request) (keyText : String) (e : Entropy) :
    (∀ text e', selfSign suite now request keyText e = .ok (text, e') →
      Certificate.checkIssuedBy suite text text = .ok () ∧
      ∃ root report lifetime start, Certificate.ofPem text = .ok root ∧
        root.constraints? = some (true,
          request.authority.bind fun authority => authority.pathLength.map UInt8.toNat) ∧
        CertificateSummary.ofPem text = .ok report ∧ report.isAuthority = true ∧
        report.isSelfIssued = true ∧ List.Forall₂ Host.ShownAs request.hosts report.hosts ∧
        request.authorityExpiry = .ok lifetime ∧ report.notBefore = ⟨start, 0⟩ ∧
        report.notAfter = ⟨start + (lifetime + 300), 0⟩) ∧
    (∀ failure, request.authorityExpiry = .error failure →
      ∃ failure', selfSign suite now request keyText e = .error failure') := by
  refine ⟨fun text e' h => ?_, fun failure => selfSign_of_authorityExpiry_error⟩
  obtain ⟨root, key, names, hroot⟩ := exists_selfSigned h
  obtain ⟨lifetime, hlifetime, hwindow⟩ := hroot.window
  obtain ⟨-, hvalidity⟩ := window_eq_ok_iff.mp hwindow
  obtain ⟨hstart, hend⟩ := Prod.mk.inj hvalidity
  have hlast : root.notAfter = root.notBefore + (lifetime + 300) := by omega
  refine ⟨hroot.checkIssuedBy hsuite, root, _, lifetime, root.notBefore, hroot.held.ofPem_eq,
    ?_, hroot.held.summary_eq.trans hroot.summary, rfl, beq_self_eq_true _,
    AltName.forall₂_shownAs hroot.hosts, hlifetime, rfl, ?_⟩
  · rw [hroot.constraints?, Request.pathLength?]
    cases request.authority <;> rfl
  · rw [hlast]

/-- A request for a root with hosts, and with a bound for chains. -/
def boundedRequest : Request where
  commonName := "root"
  hosts := ["ca.lab", "FE80:0::1", "ca.lab"]
  authority := some { expiry := " 1h30m", pathLength := some 1 }

/-- The names of its hosts. -/
def boundedNames : List AltName :=
  [.dns "ca.lab", .address [0xfe, 0x80, 0, 0, 0, 0, 0, 0, 0, 0, 0, 0, 0, 0, 0, 1], .dns "ca.lab"]

/-- The root that is made for it. -/
def boundedRoot : String :=
  Pem.write ⟨Certificate.label, (Der.sign .spelled rootKey
    ((rootDraft boundedRequest rootKey boundedNames (-300, 5400) (drawSerial ⟨[], 0⟩).1).body
      rootKey.signatureAlgorithm) ⟨[], 1⟩).1⟩

set_option maxRecDepth 1000 in
lemma selfSign_boundedRequest :
    selfSign .spelled ⟨0, 0⟩ boundedRequest rootKey.toPem ⟨[], 0⟩ = .ok (boundedRoot, ⟨[], 1⟩) := by
  have hnames : altNames .selfSigning boundedRequest.hosts = .ok boundedNames := by decide
  have hlifetime : boundedRequest.authorityExpiry = .ok 5400 := by decide
  have hwindow : window ⟨0, 0⟩ 5400 = .ok (-300, 5400) := by decide
  exact selfSign_of_short Suite.modest_spelled ofPem?_rootKey hnames hlifetime hwindow
    (by decide) _

/-- The root is its own issuer, and tells its hosts and its bound. -/
theorem bounded_root_is_as_requested :
    Suite.spelled.Sound ∧
      selfSign .spelled ⟨0, 0⟩ boundedRequest rootKey.toPem ⟨[], 0⟩ =
        .ok (boundedRoot, ⟨[], 1⟩) ∧
      Certificate.checkIssuedBy .spelled boundedRoot boundedRoot = .ok () ∧
      ∃ root report start, Certificate.ofPem boundedRoot = .ok root ∧
        root.constraints? = some (true, some 1) ∧
        CertificateSummary.ofPem boundedRoot = .ok report ∧ report.isAuthority = true ∧
        report.isSelfIssued = true ∧
        List.Forall₂ Host.ShownAs ["ca.lab", "FE80:0::1", "ca.lab"] report.hosts ∧
        report.notBefore = ⟨start, 0⟩ ∧ report.notAfter = ⟨start + 5700, 0⟩ := by
  obtain ⟨hissued, root, report, lifetime, start, hroot, hconstraints, hreport, hauthority, hself,
    hhosts, hlifetime, hstart, hend⟩ :=
    (root_is_as_requested .spelled Suite.sound_spelled ⟨0, 0⟩ boundedRequest rootKey.toPem
      ⟨[], 0⟩).1 boundedRoot ⟨[], 1⟩ selfSign_boundedRequest
  obtain rfl : lifetime = 5400 := Except.ok.inj (hlifetime.symm.trans (by decide))
  exact ⟨Suite.sound_spelled, selfSign_boundedRequest, hissued, root, report, start, hroot,
    hconstraints, hreport, hauthority, hself, hhosts, hstart, hend⟩

end Issuance

end LabTrust
