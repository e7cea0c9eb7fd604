/-
Certificates that were made are read back.

A certificate is made from a draft, and a draft from what the signer, the request and the order
give. The way back leads from the text to the draft.
* `Certificate.HeldBy`: the certificate that a text holds.
* `Issuance.certify_eq_ok_iff`: when a certificate is made, and what it is then.
* `Issuance.heldBy_of_certify`: what a text that was made holds is what its draft said.
* `Issuance.SelfSigned`, `Issuance.Settled`: where the parts of a root and of a leaf come from.
-/
import LabTrust.Proofs.Certificate.Names
import LabTrust.Proofs.Certificate.Written
import LabTrust.Proofs.Except
import LabTrust.Proofs.Pem

namespace LabTrust

open Der (element length_lt_element)

/-! ### Texts -/

namespace Certificate

lemma read?_pem (document : Bytes) :
    Pem.read? (Pem.write ⟨label, document⟩).toList = some ⟨label, document⟩ :=
  Pem.read?_write _ (show label.toList ≠ [] by decide) (show '-' ∉ label.toList by decide)

/-- The text holds the certificate. -/
def HeldBy (c : Certificate) (text : String) : Prop :=
  ∃ document, Pem.read? text.toList = some ⟨label, document⟩ ∧ read? document = some c

namespace HeldBy

variable {c : Certificate} {text : String}

lemma exists_bytes (h : c.HeldBy text) :
    ∃ document, bytesOfPem text = .ok document ∧ ofBytes document = .ok c := by
  obtain ⟨document, hpem, hread⟩ := h
  exact ⟨document, by rw [bytesOfPem, hpem]; rfl, by rw [ofBytes, hread]⟩

lemma ofPem_eq (h : c.HeldBy text) : ofPem text = .ok c := by
  obtain ⟨document, hbytes, hread⟩ := h.exists_bytes
  rw [ofPem, hbytes]
  exact hread

/-- What a text says of the certificate in it. -/
lemma summary_eq (h : c.HeldBy text) : CertificateSummary.ofPem text = c.summary := by
  rw [CertificateSummary.ofPem, h.ofPem_eq]
  rfl

end HeldBy

end Certificate

/-- The request of a PEM text, whether it is taken or not. -/
def SigningRequest.ofText? (text : String) : Option SigningRequest :=
  (Pem.read? text.toList).bind fun block => read? block.content

namespace Issuance

variable {suite : Suite} {now : Instant} {stage : Stage} {key : SecretKey}
  {draft : CertificateDraft} {order : SigningOrder} {signer : Signer} {e e' : Entropy}
  {text : String}

/-! ### Drafts -/

lemma wellFormed_signatureAlgorithm (key : SecretKey) : key.signatureAlgorithm.WellFormed := by
  rcases key with _ | ⟨_ | _, _⟩ | _ <;> intro p hp
  · obtain rfl := Option.some.inj hp
    decide
  all_goals exact absurd hp (by simp [SecretKey.signatureAlgorithm])

lemma wellFormed_algorithm (key : SecretKey) : key.algorithm.WellFormed := by
  rcases key with _ | _ | _ <;> intro p hp
  · obtain rfl := Option.some.inj hp
    decide
  · obtain rfl := Option.some.inj hp
    exact show Der.IsShort Der.objectId by decide
  · exact absurd hp (by simp [SecretKey.algorithm])

/-- When a certificate is made, and what it is then. -/
lemma certify_eq_ok_iff : certify suite stage key draft e = .ok (text, e') ↔
    draft.isWritable = true ∧
      (Der.sign suite key (draft.body key.signatureAlgorithm) e).1.length < UInt64.size ∧
      text = Pem.write
        ⟨Certificate.label, (Der.sign suite key (draft.body key.signatureAlgorithm) e).1⟩ ∧
      e' = (Der.sign suite key (draft.body key.signatureAlgorithm) e).2 := by
  rw [certify]
  by_cases hwritable : draft.isWritable = true
  · by_cases hsize :
        (Der.sign suite key (draft.body key.signatureAlgorithm) e).1.length < UInt64.size
    · simp only [hwritable, publish, hsize, if_true, true_and]
      refine ⟨fun h => ?_, fun h => ?_⟩
      · obtain ⟨rfl, rfl⟩ := Prod.mk.inj (Except.ok.inj h)
        exact ⟨rfl, rfl⟩
      · rw [h.1, h.2]
        rfl
    · simp only [hwritable, publish, hsize, if_false, false_and, and_false, iff_false]
      exact fun h => by cases h
  · refine iff_of_false (fun h => ?_) fun h => hwritable h.1
    rw [Bool.not_eq_true] at hwritable
    simp only [hwritable] at h
    cases h

/-- A certificate that was made is read back as its draft, with a signature of its key. -/
lemma heldBy_of_certify (h : certify suite stage key draft e = .ok (text, e'))
    (hissuer : draft.issuer.WellFormed) (hsubject : draft.subject.WellFormed)
    (hkey : ∃ algorithm bits, algorithm.WellFormed ∧ draft.key = .make algorithm bits) :
    (Certificate.ofDraft draft key.signatureAlgorithm
      (suite.sign key (draft.body key.signatureAlgorithm) e).1).HeldBy text := by
  obtain ⟨hwritable, hsize, rfl, -⟩ := certify_eq_ok_iff.mp h
  exact ⟨_, Certificate.read?_pem _, Certificate.read?_signed
    ⟨hissuer, hsubject, hkey, hwritable⟩ (wellFormed_signatureAlgorithm key) hsize⟩

/-- The octets of every part of a certificate that was made can be counted. -/
lemma fits_certify (h : certify suite stage key draft e = .ok (text, e')) :
    ∃ signature, draft.Fits key.signatureAlgorithm signature := by
  obtain ⟨-, hsize, -, -⟩ := certify_eq_ok_iff.mp h
  refine ⟨(suite.sign key (draft.body key.signatureAlgorithm) e).1,
    CertificateDraft.fits_of_length ?_⟩
  rw [← List.append_assoc]
  exact hsize

/-- So can those of the values of its extensions. -/
lemma length_value_of_certify (h : certify suite stage key draft e = .ok (text, e')) :
    ∀ x ∈ draft.extensions, x.value.length < UInt64.size := by
  intro x hx
  obtain ⟨signature, hfits⟩ := fits_certify h
  have hall := hfits.extensions
  have houter := length_lt_element (Der.contextParts 3)
    (element Der.sequence (draft.extensions.flatMap Extension.encode))
  have hinner := length_lt_element Der.sequence (draft.extensions.flatMap Extension.encode)
  have hone := Der.length_le_of_mem Extension.encode hx
  have hvalue := x.length_value_lt
  omega

/-! ### Roots -/

lemma loadKey_eq_ok_iff {keyText : String} :
    loadKey stage keyText = .ok key ↔ SecretKey.ofPem? keyText = some key := by
  rw [loadKey]
  cases SecretKey.ofPem? keyText <;> simp

/-- The names of hosts are given if each host has one. -/
lemma altNames_eq_ok_iff {hosts : List String} {names : List AltName} :
    altNames stage hosts = .ok names ↔
      List.Forall₂ (fun host n => AltName.ofHost? host = some n) hosts names := by
  have hone : ∀ host n, altName stage host = .ok n ↔ AltName.ofHost? host = some n := by
    intro host n
    rw [altName]
    cases AltName.ofHost? host <;> simp
  simp only [altNames, Except.mapM_eq_ok_iff, hone]

/-- What is known of a root that signed itself. -/
structure SelfSigned (suite : Suite) (now : Instant) (request : Request) (keyText text : String)
    (root : Certificate) (key : SecretKey) (names : List AltName) : Prop where
  keyRead : SecretKey.ofPem? keyText = some key
  hosts : List.Forall₂ (fun host n => AltName.ofHost? host = some n) request.hosts names
  held : root.HeldBy text
  issuer : root.issuer = request.subject
  subject : root.subject = request.subject
  publicKey : root.key = key.publicKey
  window : ∃ lifetime, request.authorityExpiry = .ok lifetime ∧
    Issuance.window now lifetime = .ok (root.notBefore, root.notAfter)
  algorithm : root.algorithm = key.signatureAlgorithm
  signature : ∃ e, root.signature = (suite.sign key root.body e).1
  extensions : root.extensions = Extension.ofAltNames request.subject names ++ [.rootUsage,
    .ofSubjectKey (Extension.keyId key.publicKey), .ofRoot request.pathLength?]
  fits : ∀ x ∈ root.extensions, x.value.length < UInt64.size

/-- When a root signs itself, and what it is then. -/
lemma selfSign_eq_ok_iff {request : Request} {keyText : String} :
    selfSign suite now request keyText e = .ok (text, e') ↔
      ∃ key names lifetime validity, SecretKey.ofPem? keyText = some key ∧
        List.Forall₂ (fun host n => AltName.ofHost? host = some n) request.hosts names ∧
        request.authorityExpiry = .ok lifetime ∧ window now lifetime = .ok validity ∧
        certify suite .selfSigning key (rootDraft request key names validity (drawSerial e).1)
          (drawSerial e).2 = .ok (text, e') := by
  refine ⟨fun h => ?_, ?_⟩
  · obtain ⟨key, hkey, h⟩ := Except.bind_eq_ok_iff.mp h
    obtain ⟨names, hnames, h⟩ := Except.bind_eq_ok_iff.mp h
    obtain ⟨lifetime, hlifetime, h⟩ := Except.bind_eq_ok_iff.mp h
    obtain ⟨validity, hvalidity, h⟩ := Except.bind_eq_ok_iff.mp h
    exact ⟨key, names, lifetime, validity, loadKey_eq_ok_iff.mp hkey, altNames_eq_ok_iff.mp hnames,
      hlifetime, hvalidity, h⟩
  · rintro ⟨key, names, lifetime, validity, hkey, hnames, hlifetime, hvalidity, h⟩
    refine Except.bind_eq_ok_iff.mpr ⟨key, loadKey_eq_ok_iff.mpr hkey, ?_⟩
    refine Except.bind_eq_ok_iff.mpr ⟨names, altNames_eq_ok_iff.mpr hnames, ?_⟩
    refine Except.bind_eq_ok_iff.mpr ⟨lifetime, hlifetime, ?_⟩
    exact Except.bind_eq_ok_iff.mpr ⟨validity, hvalidity, h⟩

lemma exists_selfSigned {request : Request} {keyText : String}
    (h : selfSign suite now request keyText e = .ok (text, e')) :
    ∃ root key names, SelfSigned suite now request keyText text root key names := by
  obtain ⟨key, names, lifetime, validity, hkey, hnames, hlifetime, hvalidity, h⟩ :=
    selfSign_eq_ok_iff.mp h
  have hheld := heldBy_of_certify h request.wellFormed_subject request.wellFormed_subject
    ⟨_, _, wellFormed_algorithm key, rfl⟩
  exact ⟨_, key, names, hkey, hnames, hheld, rfl, rfl, rfl, ⟨lifetime, hlifetime, hvalidity⟩, rfl,
    ⟨_, rfl⟩, rfl, length_value_of_certify h⟩

/-! ### Leaves -/

lemma algorithm_of_keyAlgorithm? {scheme : Scheme} {algorithm : AlgorithmId}
    (h : SigningRequest.keyAlgorithm? scheme = some algorithm) :
    ∃ key : SecretKey, algorithm = key.algorithm := by
  unfold SigningRequest.keyAlgorithm? at h
  split at h
  · exact absurd h (by simp)
  · exact ⟨_, (Option.some.inj h).symm⟩
  · exact ⟨_, (Option.some.inj h).symm⟩
  · exact ⟨_, (Option.some.inj h).symm⟩
  · exact absurd h (by simp)
  · exact ⟨_, (Option.some.inj h).symm⟩

/-- What is taken over from a request can be read back. -/
lemma wellFormed_accept? {r : SigningRequest} {a : AcceptedRequest} (h : r.accept? suite = some a) :
    a.subject.WellFormed ∧
      ∃ algorithm bits, algorithm.WellFormed ∧ a.key = .make algorithm bits := by
  obtain ⟨scheme, -, h⟩ := Option.bind_eq_some_iff.mp h
  split at h
  · exact absurd h (by simp)
  · obtain ⟨algorithm, halgorithm, h⟩ := Option.bind_eq_some_iff.mp h
    obtain ⟨subject, hsubject, h⟩ := Option.bind_eq_some_iff.mp h
    obtain ⟨names, -, h⟩ := Option.bind_eq_some_iff.mp h
    obtain rfl := Option.some.inj h
    refine ⟨DistinguishedName.wellFormed_of_copy? hsubject, algorithm, _, ?_, rfl⟩
    obtain ⟨key, rfl⟩ := algorithm_of_keyAlgorithm? halgorithm
    exact wellFormed_algorithm key

/-- What an order's request asks for, and what is taken over from it. -/
lemma exists_request_of_loadRequest {request : String} {accepted : AcceptedRequest}
    (h : loadRequest suite request = .ok accepted) :
    ∃ r, SigningRequest.ofText? request = some r ∧ r.accept? suite = some accepted := by
  rw [loadRequest] at h
  split at h
  · next hsome =>
    obtain rfl := Except.ok.inj h
    obtain ⟨block, hblock, hsome⟩ := Option.bind_eq_some_iff.mp hsome
    obtain ⟨r, hr, hsome⟩ := Option.bind_eq_some_iff.mp hsome
    exact ⟨r, by rw [SigningRequest.ofText?, hblock, Option.bind_some, hr], hsome⟩
  · simp at h

/-- The issuer of a text and a key: the text holds a certificate whose name can be copied. -/
lemma issuer?_eq_some_iff {certificate : String} {issuer : Issuer} :
    issuer? certificate key = some issuer ↔
      ∃ block c, Pem.read? certificate.toList = some block ∧
        Certificate.read? block.content = some c ∧ c.subject.copy? = some issuer.name ∧
        hasReadableUsage c = true ∧ issuer.keyId = keyIdOf c key ∧ issuer.key = key := by
  refine ⟨fun h => ?_, ?_⟩
  · obtain ⟨block, hblock, h⟩ := Option.bind_eq_some_iff.mp h
    obtain ⟨c, hc, h⟩ := Option.bind_eq_some_iff.mp h
    obtain ⟨name, hname, h⟩ := Option.bind_eq_some_iff.mp h
    split at h
    · next husage =>
      obtain rfl := Option.some.inj h
      exact ⟨block, c, hblock, hc, hname, husage, rfl, rfl⟩
    · exact absurd h (by simp)
  · rintro ⟨block, c, hblock, hc, hname, husage, hkeyId, rfl⟩
    simp only [issuer?, hblock, hc, hname, husage, ← hkeyId, Option.bind_eq_bind,
      Option.bind_some, if_true]
    rfl

/-- What an issuer is loaded from. -/
lemma loadIssuer_eq_ok_iff {issuer : Issuer} : loadIssuer signer = .ok issuer ↔
    SecretKey.ofPem? signer.key = some issuer.key ∧
      issuer? signer.certificate issuer.key = some issuer := by
  have hload : loadIssuer signer = .ok issuer ↔ ∃ key, SecretKey.ofPem? signer.key = some key ∧
      issuer? signer.certificate key = some issuer := by
    rw [loadIssuer, Except.bind_eq_ok_iff]
    refine exists_congr fun key => and_congr loadKey_eq_ok_iff ?_
    cases issuer? signer.certificate key with
    | none => exact iff_of_false Except.throw_ne_ok (by simp)
    | some other =>
        exact ⟨fun h => congrArg some (Except.ok.inj h), fun h => by rw [Option.some.inj h]; rfl⟩
  refine hload.trans ⟨?_, fun h => ⟨issuer.key, h⟩⟩
  rintro ⟨key, hkey, h⟩
  obtain ⟨-, -, -, -, -, -, -, rfl⟩ := issuer?_eq_some_iff.mp h
  exact ⟨hkey, h⟩

/-- The name of an issuer can be read back. -/
lemma wellFormed_loadIssuer {issuer : Issuer} (h : loadIssuer signer = .ok issuer) :
    issuer.name.WellFormed := by
  obtain ⟨block, c, -, -, hname, -⟩ := issuer?_eq_some_iff.mp (loadIssuer_eq_ok_iff.mp h).2
  exact DistinguishedName.wellFormed_of_copy? hname

/-- A leaf that was made is read back as its draft. -/
lemma heldBy_of_leafDraft {issuer : Issuer} {accepted : AcceptedRequest} {names : List AltName}
    {validity : Int × Int} {serial : Nat} (hissuer : loadIssuer signer = .ok issuer)
    (hrequest : loadRequest suite order.request = .ok accepted)
    (h : certify suite stage issuer.key (leafDraft issuer accepted names validity serial) e =
      .ok (text, e')) :
    (Certificate.ofDraft (leafDraft issuer accepted names validity serial)
      issuer.key.signatureAlgorithm (suite.sign issuer.key
        ((leafDraft issuer accepted names validity serial).body issuer.key.signatureAlgorithm)
          e).1).HeldBy text := by
  obtain ⟨r, -, haccept⟩ := exists_request_of_loadRequest hrequest
  obtain ⟨hsubject, hkey⟩ := wellFormed_accept? haccept
  exact heldBy_of_certify h (wellFormed_loadIssuer hissuer) hsubject hkey

/-- What is left to do when all is settled. -/
lemma sign_of_settled {issuer : Issuer} {accepted : AcceptedRequest} {names : List AltName}
    {validity : Int × Int} (hissuer : loadIssuer signer = .ok issuer)
    (hrequest : loadRequest suite order.request = .ok accepted)
    (hnames : (if order.hosts.isEmpty then pure accepted.altNames
      else altNames .signing order.hosts) = .ok names)
    (hwindow : window now order.lifetime = .ok validity) :
    sign suite now order signer e = certify suite .signing issuer.key
      (leafDraft issuer accepted names validity (drawSerial e).1) (drawSerial e).2 := by
  simp only [sign, hissuer, hrequest]
  split at hnames
  · next hhosts =>
    obtain rfl := Except.ok.inj hnames
    simp only [hhosts, if_true, hwindow]
    rfl
  · next hhosts =>
    simp only [hhosts, hnames, hwindow]
    rfl

/-- An order is carried out if all is settled and the certificate can be made. -/
lemma sign_eq_ok_iff : sign suite now order signer e = .ok (text, e') ↔
    ∃ issuer accepted names validity, loadIssuer signer = .ok issuer ∧
      loadRequest suite order.request = .ok accepted ∧
      (if order.hosts.isEmpty then pure accepted.altNames
        else altNames .signing order.hosts) = .ok names ∧
      window now order.lifetime = .ok validity ∧
      certify suite .signing issuer.key
        (leafDraft issuer accepted names validity (drawSerial e).1) (drawSerial e).2 =
          .ok (text, e') := by
  refine ⟨fun h => ?_, ?_⟩
  · obtain ⟨issuer, hissuer, hrest⟩ := Except.bind_eq_ok_iff.mp h
    obtain ⟨accepted, haccepted, hrest⟩ := Except.bind_eq_ok_iff.mp hrest
    obtain ⟨names, validity, hnames, hvalidity⟩ : ∃ names validity,
        (if order.hosts.isEmpty then pure accepted.altNames
          else altNames .signing order.hosts) = .ok names ∧
        window now order.lifetime = .ok validity := by
      by_cases hhosts : order.hosts.isEmpty = true
      · simp only [hhosts, if_true, pure_bind] at hrest ⊢
        obtain ⟨validity, hvalidity, -⟩ := Except.bind_eq_ok_iff.mp hrest
        exact ⟨_, validity, rfl, hvalidity⟩
      · simp only [hhosts] at hrest ⊢
        obtain ⟨names, hnames, hrest⟩ := Except.bind_eq_ok_iff.mp hrest
        obtain ⟨validity, hvalidity, -⟩ := Except.bind_eq_ok_iff.mp hrest
        exact ⟨names, validity, hnames, hvalidity⟩
    exact ⟨issuer, accepted, names, validity, hissuer, haccepted, hnames, hvalidity,
      (sign_of_settled hissuer haccepted hnames hvalidity).symm.trans h⟩
  · rintro ⟨issuer, accepted, names, validity, hissuer, haccepted, hnames, hvalidity, h⟩
    exact (sign_of_settled hissuer haccepted hnames hvalidity).trans h

/-- What is known of a leaf that was signed: where its parts come from, and who signed it. -/
structure Settled (suite : Suite) (now : Instant) (order : SigningOrder) (signer : Signer)
    (text : String) (leaf : Certificate) (issuer : Issuer) (accepted : AcceptedRequest)
    (names : List AltName) (validity : Int × Int) : Prop where
  held : leaf.HeldBy text
  read : ∃ serial message e, leaf = .ofDraft (leafDraft issuer accepted names validity serial)
    issuer.key.signatureAlgorithm (suite.sign issuer.key message e).1 ∧ leaf.body = message
  loadIssuer : loadIssuer signer = .ok issuer
  loadRequest : loadRequest suite order.request = .ok accepted
  hosts : if order.hosts = [] then names = accepted.altNames
    else List.Forall₂ (fun host n => AltName.ofHost? host = some n) order.hosts names
  window : window now order.lifetime = .ok validity
  fits : ∀ x ∈ leaf.extensions, x.value.length < UInt64.size

lemma exists_settled (h : sign suite now order signer e = .ok (text, e')) :
    ∃ leaf issuer accepted names validity,
      Settled suite now order signer text leaf issuer accepted names validity := by
  obtain ⟨issuer, accepted, names, validity, hissuer, haccepted, hnames, hvalidity, hcertify⟩ :=
    sign_eq_ok_iff.mp h
  have hhosts : if order.hosts = [] then names = accepted.altNames
      else List.Forall₂ (fun host n => AltName.ofHost? host = some n) order.hosts names := by
    simp only [List.isEmpty_iff] at hnames
    split at hnames
    · next hempty => exact (if_pos hempty).mpr (Except.ok.inj hnames).symm
    · next hempty => exact (if_neg hempty).mpr (altNames_eq_ok_iff.mp hnames)
  exact ⟨_, issuer, accepted, names, validity, heldBy_of_leafDraft hissuer haccepted hcertify,
    ⟨_, _, _, rfl, rfl⟩, hissuer, haccepted, hhosts, hvalidity, length_value_of_certify hcertify⟩

end Issuance

end LabTrust
