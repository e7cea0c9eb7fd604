/-
Leaves grant what leaves are for, whatever their requests ask for.

A leaf is read back as its draft, so its extensions are those that the draft was given: the
identifier of the root's key, the alternative names if there are any, the usages and the purposes of
leaves. Nothing else of a request gets into a certificate but its subject, its key bits and its
names.
* `KeyUsage.ofBits`, `Certificate.usages?`, `Certificate.purposes?`: what a certificate grants.
* `Certificate.IsLeafFor`: a certificate that is a leaf with names, and nothing more.
* `Issuance.signed_is_leaf`: every leaf that is signed is such a leaf. Its key has the bits of the
  key in the request; the algorithm is the one that the signature of the request stands for, which
  need not be the one that the request names for its key.
-/
import LabTrust.Proofs.Certificate.AltNames
import LabTrust.Proofs.Certificate.Chain

namespace LabTrust

open Der (element)

/-! ### What certificates grant -/

/-- What a key may be used for. -/
inductive KeyUsage where
  | digitalSignature
  | contentCommitment
  | keyEncipherment
  | dataEncipherment
  | keyAgreement
  | certificateSigning
  | listSigning
  | encipherOnly
  | decipherOnly
  deriving DecidableEq, Inhabited

namespace KeyUsage

/-- The usages in the order of the bits that stand for them. -/
def all : List KeyUsage :=
  [digitalSignature, contentCommitment, keyEncipherment, dataEncipherment, keyAgreement,
    certificateSigning, listSigning, encipherOnly, decipherOnly]

/-- The usages whose bits are set. The first bit is the highest of the first octet. -/
def ofBits (octets : Bytes) : List KeyUsage :=
  (all.zipIdx.filter fun u => (octets.getD (u.2 / 8) 0).toNat.testBit (7 - u.2 % 8)).map (·.1)

end KeyUsage

namespace Certificate

/-- The usages that a certificate grants, if it names any. -/
def usages? (c : Certificate) : Option (List KeyUsage) :=
  match Extension.unique? Extension.keyUsage c.extensions with
  | .ok (some e) => (Der.readBits? e.value).map fun bits => KeyUsage.ofBits bits.1
  | _ => none

/-- The purposes that a certificate grants, if it names any. -/
def purposes? (c : Certificate) : Option (List Bytes) :=
  match Extension.unique? Extension.extendedKeyUsage c.extensions with
  | .ok (some e) =>
    (Der.readTag? Der.sequence e.value).bind fun body => Der.all? (Der.readTag? Der.objectId) body.1
  | _ => none

/-- A certificate that is a leaf with some names: it may be used for signatures and for enciphering
keys, on servers and by clients, and says nothing that leaves do not say. -/
structure IsLeafFor (c : Certificate) (names : List AltName) : Prop where
  extensions : c.extensions.map (·.id) =
    Extension.authorityKeyId :: ((if names = [] then [] else [Extension.altNames]) ++
      [Extension.keyUsage, Extension.extendedKeyUsage])
  usages : c.usages? = some [.digitalSignature, .keyEncipherment]
  purposes : c.purposes? = some [Extension.purposeId 1, Extension.purposeId 2]
  names : c.altNames? = some names

variable {c : Certificate} {names : List AltName}

/-- The usages of a certificate whose last extension but one is that of leaves. -/
lemma usages?_of_leafUsage {before : List Extension}
    (hc : c.extensions = before ++ [.leafUsage, .leafPurposes])
    (h : ∀ e ∈ before, e.id ≠ Extension.keyUsage) :
    c.usages? = some [.digitalSignature, .keyEncipherment] := by
  have hunique : Extension.unique? Extension.keyUsage c.extensions =
      .ok (some Extension.leafUsage) := Extension.unique?_of_eq hc h (by decide)
  rw [usages?, hunique]
  decide

/-- The purposes of a certificate whose last extension is that of leaves. -/
lemma purposes?_of_leafPurposes {before : List Extension}
    (hc : c.extensions = before ++ [.leafUsage, .leafPurposes])
    (h : ∀ e ∈ before, e.id ≠ Extension.extendedKeyUsage) :
    c.purposes? = some [Extension.purposeId 1, Extension.purposeId 2] := by
  have hc' : c.extensions = (before ++ [.leafUsage]) ++ [.leafPurposes] :=
    hc.trans (List.append_assoc before [.leafUsage] [.leafPurposes]).symm
  have hbefore : ∀ e ∈ before ++ [.leafUsage], e.id ≠ Extension.extendedKeyUsage :=
    List.forall_mem_append.mpr ⟨h, by decide⟩
  have hunique : Extension.unique? Extension.extendedKeyUsage c.extensions =
      .ok (some Extension.leafPurposes) := Extension.unique?_of_eq hc' hbefore nofun
  rw [purposes?, hunique]
  decide

/-- The extensions of a leaf make it one. -/
lemma isLeafFor_of_extensions {keyId : Bytes} {subject : DistinguishedName}
    (hc : c.extensions = .ofAuthorityKey keyId ::
      (Extension.ofAltNames subject names ++ [.leafUsage, .leafPurposes]))
    (hnames : ∀ n ∈ names, n.IsGiven) (h : ∀ e ∈ c.extensions, e.value.length < UInt64.size) :
    c.IsLeafFor names := by
  have hother : ∀ id, Extension.authorityKeyId ≠ id → Extension.altNames ≠ id →
      ∀ e ∈ Extension.ofAuthorityKey keyId :: Extension.ofAltNames subject names, e.id ≠ id := by
    intro id hkey hnames e he
    rcases List.mem_cons.mp he with rfl | he
    · exact hkey
    · exact (Extension.id_of_mem_ofAltNames he).symm ▸ hnames
  refine ⟨?_, usages?_of_leafUsage hc (hother _ (by decide) (by decide)),
    purposes?_of_leafPurposes hc (hother _ (by decide) (by decide)), ?_⟩
  · rw [hc, Extension.ofAltNames]
    cases names with
    | nil => rfl
    | cons n rest => rfl
  · refine altNames?_ofAltNames [.ofAuthorityKey keyId] [.leafUsage, .leafPurposes] hc ?_
      (by decide) hnames h
    intro e he
    obtain rfl := List.mem_singleton.mp he
    exact show Extension.authorityKeyId ≠ Extension.altNames by decide

/-- A leaf may not sign certificates. -/
lemma IsLeafFor.isAuthority (h : c.IsLeafFor names) : c.isAuthority = false := by
  have hnone : c.extensions.filter (·.id = Extension.basicConstraints) = [] := by
    refine List.filter_eq_nil_iff.mpr fun e he => ?_
    have hid := h.extensions ▸ List.mem_map_of_mem (f := Extension.id) he
    have hne : ∀ id ∈ [Extension.authorityKeyId, Extension.altNames, Extension.keyUsage,
        Extension.extendedKeyUsage], id ≠ Extension.basicConstraints := by decide
    have hmem : e.id ∈ [Extension.authorityKeyId, Extension.altNames, Extension.keyUsage,
        Extension.extendedKeyUsage] := by
      split at hid
      · simp only [List.nil_append, List.mem_cons, List.not_mem_nil, or_false] at hid ⊢
        tauto
      · simpa using hid
    simpa using hne e.id hmem
  have hunique : Extension.unique? Extension.basicConstraints c.extensions = .ok none := by
    simp only [Extension.unique?, hnone]
  rw [Certificate.isAuthority, hunique]

/-- What a leaf says of itself. -/
lemma IsLeafFor.summary (h : c.IsLeafFor names) : c.summary = .ok
    { subject := c.subject.text, issuer := c.issuer.text, serial := c.serialText,
      notBefore := { second := c.notBefore }, notAfter := { second := c.notAfter },
      hosts := names.filterMap AltName.shown?, isAuthority := false } := by
  rw [Certificate.summary, h.names, h.isAuthority]

end Certificate

/-! ### What requests ask for -/

namespace SigningRequest

/-- The alternative names that a request asks for, in all of its extensions for such names. -/
def altNames? (r : SigningRequest) : Option (List AltName) :=
  ((r.extensions.filter (·.id = Extension.altNames)).mapM fun e =>
    AltName.readList? e.value).map List.flatten

/-- The algorithm of keys that the signature of a request stands for. -/
def namedAlgorithm? (r : SigningRequest) : Option AlgorithmId :=
  (Scheme.ofId? r.algorithm.id).bind keyAlgorithm?

/-- What is taken over of an extension: its names, if it is one for names. -/
lemma acceptExtension?_eq_some {e : Extension} {names : List AltName}
    (h : acceptExtension? e = some names) :
    (∀ n ∈ names, n.IsGiven) ∧ if e.id = Extension.altNames
      then AltName.readList? e.value = some names else names = [] := by
  rw [acceptExtension?] at h
  split at h
  · next hid =>
    obtain ⟨asked, hasked, h⟩ := Option.bind_eq_some_iff.mp h
    have hsame := (Option.mapM_eq_some_iff.mp h).imp fun _ _ => AltName.eq_of_acceptName?
    obtain rfl : asked = names :=
      List.forall₂_eq_eq_eq ▸ hsame.imp fun _ _ hn => hn.1.symm
    refine ⟨fun n hn => ?_, by rw [if_pos hid, hasked]⟩
    obtain ⟨i, hi, rfl⟩ := List.getElem_of_mem hn
    exact (hsame.get hi hi).2
  · next hid =>
    obtain rfl : names = [] := by
      split at h
      · obtain ⟨_, -, h⟩ := Option.map_eq_some_iff.mp h
        exact h.symm
      · split at h
        · split at h
          · exact (Option.some.inj h).symm
          · exact absurd h (by simp)
        · split at h
          · obtain ⟨_, -, h⟩ := Option.map_eq_some_iff.mp h
            exact h.symm
          · exact absurd h (by simp)
    exact ⟨by simp, by rw [if_neg hid]⟩

/-- The names that are taken over from extensions are those that they ask for. -/
lemma mapM_acceptExtension? {extensions : List Extension} {names : List (List AltName)}
    (h : List.Forall₂ (fun e ns => acceptExtension? e = some ns) extensions names) :
    (∀ n ∈ names.flatten, n.IsGiven) ∧
      ((extensions.filter (·.id = Extension.altNames)).mapM fun e =>
        AltName.readList? e.value).map List.flatten = some names.flatten := by
  induction h with
  | nil => exact ⟨by simp, rfl⟩
  | @cons e ns extensions names he _ ih =>
      obtain ⟨hgiven, hrest⟩ := ih
      obtain ⟨hfirst, hnames⟩ := acceptExtension?_eq_some he
      refine ⟨fun n hn => ?_, ?_⟩
      · rw [List.flatten_cons, List.mem_append] at hn
        exact hn.elim (hfirst n) (hgiven n)
      · by_cases hid : e.id = Extension.altNames
        · rw [if_pos hid] at hnames
          obtain ⟨rows, hrows, hflat⟩ := Option.map_eq_some_iff.mp hrest
          rw [List.filter_cons_of_pos (by simpa using hid), List.mapM_cons, hnames, hrows]
          simp [hflat]
        · rw [if_neg hid] at hnames
          rw [List.filter_cons_of_neg (by simpa using hid), hrest, hnames]
          rfl

/-- What is taken over from a request. -/
lemma accept?_eq_some {suite : Suite} {r : SigningRequest} {a : AcceptedRequest}
    (h : r.accept? suite = some a) :
    (∀ n ∈ a.altNames, n.IsGiven) ∧ r.altNames? = some a.altNames ∧ a.key.bits = r.key.bits ∧
      r.namedAlgorithm? = some a.key.algorithm := by
  obtain ⟨scheme, hscheme, h⟩ := Option.bind_eq_some_iff.mp h
  split at h
  · exact absurd h (by simp)
  · obtain ⟨algorithm, halgorithm, h⟩ := Option.bind_eq_some_iff.mp h
    obtain ⟨subject, -, h⟩ := Option.bind_eq_some_iff.mp h
    obtain ⟨names, hnames, h⟩ := Option.bind_eq_some_iff.mp h
    obtain rfl := Option.some.inj h
    obtain ⟨hgiven, hasked⟩ := mapM_acceptExtension? (Option.mapM_eq_some_iff.mp hnames)
    refine ⟨hgiven, hasked, rfl, ?_⟩
    rw [namedAlgorithm?, hscheme, Option.bind_some, halgorithm]
    rfl

end SigningRequest

namespace Issuance

variable {suite : Suite} {now : Instant} {order : SigningOrder} {signer : Signer}
  {stage : Stage} {key : SecretKey} {draft : CertificateDraft} {e e' : Entropy} {text : String}

/-! ### Leaves that were signed -/

namespace Settled

variable {leaf : Certificate} {issuer : Issuer} {accepted : AcceptedRequest}
  {names : List AltName} {validity : Int × Int}

lemma isGiven (h : Settled suite now order signer text leaf issuer accepted names validity) :
    ∀ n ∈ names, n.IsGiven := by
  have hnames := h.hosts
  split at hnames
  · obtain ⟨r, -, haccept⟩ := exists_request_of_loadRequest h.loadRequest
    exact hnames ▸ (SigningRequest.accept?_eq_some haccept).1
  · exact AltName.isGiven_of_forall₂ hnames

/-- A leaf is one. -/
lemma isLeafFor (h : Settled suite now order signer text leaf issuer accepted names validity) :
    leaf.IsLeafFor names := by
  obtain ⟨serial, message, e, rfl, -⟩ := h.read
  exact Certificate.isLeafFor_of_extensions rfl h.isGiven h.fits

end Settled

/-- A leaf that is signed is a leaf and nothing else, whatever its request asks for. Its names are
those of the hosts that were given, else those of the request. Its key has the bits of the request's
key, under the algorithm that the signature of the request stands for. -/
theorem signed_is_leaf (h : sign suite now order signer e = .ok (text, e')) :
    ∃ r leaf names summary, SigningRequest.ofText? order.request = some r ∧
      Certificate.ofPem text = .ok leaf ∧
      (if order.hosts = [] then r.altNames? else order.hosts.mapM AltName.ofHost?) = some names ∧
      leaf.IsLeafFor names ∧
      CertificateSummary.ofPem text = .ok summary ∧ summary.isAuthority = false ∧
      leaf.key.bits = r.key.bits ∧ r.namedAlgorithm? = some leaf.key.algorithm := by
  obtain ⟨leaf, issuer, accepted, names, validity, hsettled⟩ := exists_settled h
  obtain ⟨r, hr, haccept⟩ := exists_request_of_loadRequest hsettled.loadRequest
  obtain ⟨-, hasked, hbits, halgorithm⟩ := SigningRequest.accept?_eq_some haccept
  have hnames : (if order.hosts = [] then r.altNames? else order.hosts.mapM AltName.ofHost?) =
      some names := by
    have hnames := hsettled.hosts
    split at hnames
    · next hhosts => rw [if_pos hhosts, hasked, hnames]
    · next hhosts => rw [if_neg hhosts, Option.mapM_eq_some_iff.mpr hnames]
  have hkey : leaf.key = accepted.key := by
    obtain ⟨serial, message, e₁, rfl, -⟩ := hsettled.read
    rfl
  refine ⟨r, leaf, names, _, hr, hsettled.held.ofPem_eq, hnames, hsettled.isLeafFor,
    hsettled.held.summary_eq.trans hsettled.isLeafFor.summary, rfl, ?_, ?_⟩
  · rw [hkey, hbits]
  · rw [hkey, halgorithm]

/-! ### Orders that are carried out -/

lemma ofPem?_toPem (h : SecretKey.read? key.encode = some key) :
    SecretKey.ofPem? key.toPem = some key := by
  rw [SecretKey.ofPem?, SecretKey.toPem, Pem.read?_write
    ⟨SecretKey.label, key.encode⟩ (show SecretKey.label.toList ≠ [] by decide)
    (show '-' ∉ SecretKey.label.toList by decide), Option.bind_eq_bind, Option.bind_some]
  exact h

/-- A signer of the text of a root and the text of its key. -/
lemma loadIssuer_eq_ok {c : Certificate} {name : DistinguishedName} {keyText : String}
    (hc : c.HeldBy text) (hkey : SecretKey.ofPem? keyText = some key)
    (hname : c.subject.copy? = some name) (husage : hasReadableUsage c = true) :
    loadIssuer ⟨text, keyText⟩ = .ok ⟨name, keyIdOf c key, key⟩ := by
  obtain ⟨document, hpem, hread⟩ := hc
  exact loadIssuer_eq_ok_iff.mpr ⟨hkey, issuer?_eq_some_iff.mpr
    ⟨_, c, hpem, hread, hname, husage, rfl, rfl⟩⟩

lemma read?_request (document : Bytes) :
    Pem.read? (Pem.write ⟨requestLabel, document⟩).toList = some ⟨requestLabel, document⟩ :=
  Pem.read?_write _ (show requestLabel.toList ≠ [] by decide)
    (show '-' ∉ requestLabel.toList by decide)

lemma loadRequest_eq_ok {document : Bytes} {accepted : AcceptedRequest}
    (h : (SigningRequest.read? document).bind (·.accept? suite) = some accepted) :
    loadRequest suite (Pem.write ⟨requestLabel, document⟩) = .ok accepted := by
  have hpem : SigningRequest.ofPem? suite (Pem.write ⟨requestLabel, document⟩) = some accepted := by
    rw [SigningRequest.ofPem?, read?_request]
    exact h
  rw [loadRequest, hpem]

/-! ### A request for the powers of a root -/

/-- The key of a root. -/
def rootKey : SecretKey := .edwards (List.replicate 32 7)

/-- A root that holds it. -/
def root : CertificateDraft where
  serial := 1
  issuer := .ofAttributes [.ofText Attribute.commonName "lab Root CA"]
  notBefore := 0
  notAfter := 7200
  subject := .ofAttributes [.ofText Attribute.commonName "lab Root CA"]
  key := rootKey.publicKey
  extensions := [.rootUsage, .ofSubjectKey [1, 2, 3, 4], .ofRoot none]

/-- The root as one who signs. Nothing looks at its own signature. -/
def rootSigner : Signer :=
  ⟨Pem.write ⟨Certificate.label, element Der.sequence (root.body rootKey.signatureAlgorithm ++
    rootKey.signatureAlgorithm.encode ++ Der.bits [])⟩, rootKey.toPem⟩

lemma ofPem?_rootKey : SecretKey.ofPem? rootKey.toPem = some rootKey :=
  ofPem?_toPem (by decide)

lemma window_hour : window ⟨0, 0⟩ 3600 = .ok (-300, 3600) := by decide

/-- The text of a short draft holds it without a signature. -/
lemma heldBy_unsigned {draft : CertificateDraft} (hdraft : draft.Readable)
    (hserial : draft.serial < UInt64.size) (hshort : draft.IsShort rootKey) :
    (Certificate.ofDraft draft rootKey.signatureAlgorithm []).HeldBy
      (Pem.write ⟨Certificate.label, element Der.sequence
        (draft.body rootKey.signatureAlgorithm ++ rootKey.signatureAlgorithm.encode ++
          Der.bits [])⟩) := by
  have hbody := draft.length_body_le hdraft.times hserial rootKey.length_signatureAlgorithm_le
    (Nat.le_of_add_right_le hshort.parts) (by decide)
  have hrest : (rootKey.signatureAlgorithm.encode ++ Der.bits []).length ≤ 20 := by decide
  have hwhole : (draft.body rootKey.signatureAlgorithm ++ rootKey.signatureAlgorithm.encode ++
      Der.bits []).length ≤ 1170 := by
    rw [List.append_assoc, List.length_append]
    exact Nat.add_le_add hbody hrest
  exact ⟨_, Certificate.read?_pem _, Certificate.read?_signed hdraft
    (wellFormed_signatureAlgorithm rootKey)
    ((Der.length_element_le Der.sequence hwhole (by decide)).trans_lt (by decide))⟩

lemma loadIssuer_rootSigner :
    loadIssuer rootSigner = .ok ⟨root.subject, [1, 2, 3, 4], rootKey⟩ := by
  have hsubject : root.subject.copy? = some root.subject := by rfl
  have hname := DistinguishedName.wellFormed_of_copy? hsubject
  have hheld : (Certificate.ofDraft root rootKey.signatureAlgorithm []).HeldBy
      rootSigner.certificate :=
    heldBy_unsigned ⟨hname, hname, ⟨_, _, wellFormed_algorithm rootKey, rfl⟩, rfl⟩ (by decide)
      (by decide)
  exact loadIssuer_eq_ok hheld ofPem?_rootKey hsubject (by decide)

/-- The extensions of a root, with a host twice. -/
def greedyExtensions : List Extension :=
  [.ofRoot none, .rootUsage,
    ⟨Extension.altNames, false, AltName.encodeList [.dns "r1", .dns "r1", .address [10, 0, 0, 1]]⟩]

/-- The signed part of a request for them. -/
def greedyBody : Bytes :=
  element Der.sequence (Der.nat 0 ++ DistinguishedName.encode [] ++ rootKey.publicKey.encoded ++
    element (Der.contextParts 0) (SigningRequest.attributes greedyExtensions))

/-- The request. -/
def greedyRequest : String :=
  Pem.write ⟨requestLabel, (Der.sign .spelled rootKey greedyBody ⟨[], 0⟩).1⟩

lemma loadRequest_greedy : loadRequest .spelled greedyRequest =
    .ok ⟨[], rootKey.publicKey, [.dns "r1", .dns "r1", .address [10, 0, 0, 1]]⟩ :=
  loadRequest_eq_ok (by decide +kernel)

/-- The order is carried out. -/
lemma exists_sign_greedy : ∃ text e',
    sign .spelled ⟨0, 0⟩ ⟨greedyRequest, [], 3600⟩ rootSigner ⟨[], 0⟩ = .ok (text, e') :=
  ⟨_, _, sign_of_short Suite.modest_spelled loadIssuer_rootSigner loadRequest_greedy rfl
    window_hour (by decide) _⟩

/-- What it gives is a leaf. -/
theorem greedy_request_gets_leaf : ∃ text e' r leaf names summary,
    sign .spelled ⟨0, 0⟩ ⟨greedyRequest, [], 3600⟩ rootSigner ⟨[], 0⟩ = .ok (text, e') ∧
      SigningRequest.ofText? greedyRequest = some r ∧ Certificate.ofPem text = .ok leaf ∧
      r.altNames? = some names ∧ leaf.IsLeafFor names ∧
      CertificateSummary.ofPem text = .ok summary ∧ summary.isAuthority = false ∧
      leaf.key.bits = r.key.bits ∧ r.namedAlgorithm? = some leaf.key.algorithm := by
  obtain ⟨text, e', h⟩ := exists_sign_greedy
  obtain ⟨r, leaf, names, summary, hsigned⟩ := signed_is_leaf h
  exact ⟨text, e', r, leaf, names, summary, h, hsigned⟩

/-! ### A request signed with the hash of another curve -/

/-- A key on the longer curve. -/
def longKey : SecretKey := .ecdsa .p384 1

/-- The signed part of a request for it. -/
def crossedBody : Bytes := SigningRequest.bodyOf [] longKey.publicKey []

/-- The two numbers of its signature: `Curve.p384.sign 1 3` of the shorter hash. -/
def crossedSignature : Bytes := Scheme.writePair
  0x077a41d4606ffa1464793c7e5fdc7d98cb9d3910202dcd06bea4f240d3566da6b408bbae5026580d02d7e5c70500c831
  0x027e15f1757aa8b176d3142a1ff429dd9dfaa83b42737fb0a711e6e3c7e4349504fe8d008ba37f0a638849454aa23a7c

/-- The request as bytes. The kind of its signature is the usual one of the shorter curve. -/
def crossedDocument : Bytes :=
  element Der.sequence (crossedBody ++ (SecretKey.ecdsa .p256 1).signatureAlgorithm.encode ++
    Der.bits crossedSignature)

/-- The request. -/
def crossedRequest : String := Pem.write ⟨requestLabel, crossedDocument⟩

/-- It asks for a key on the longer curve. -/
lemma curve?_crossed : (SigningRequest.read? crossedDocument).bind (·.key.algorithm.curve?) =
    some .p384 := by
  decide +kernel

/-- The signatures of requests are checked as the standards have it. -/
def checking : Suite := { Suite.spelled with verify := Scheme.verify }

/-- The request is taken, and the key is now one of the shorter curve. -/
lemma loadRequest_crossed : loadRequest checking crossedRequest =
    .ok ⟨[], .make (SecretKey.ecdsa .p256 1).algorithm longKey.publicKey.bits, []⟩ :=
  loadRequest_eq_ok (by decide +kernel)

/-- A request for a key on one curve gets a leaf with a key on another. -/
theorem leaf_may_change_key : ∃ text e' r leaf,
    sign checking ⟨0, 0⟩ ⟨crossedRequest, [], 3600⟩ rootSigner ⟨[], 0⟩ = .ok (text, e') ∧
      SigningRequest.ofText? crossedRequest = some r ∧ Certificate.ofPem text = .ok leaf ∧
      r.key.algorithm.curve? = some .p384 ∧ leaf.key.algorithm.curve? = some .p256 ∧
      leaf.key ≠ r.key := by
  have hmodest : checking.Modest := Suite.modest_spelled
  obtain ⟨text, e', hsign⟩ : ∃ text e',
      sign checking ⟨0, 0⟩ ⟨crossedRequest, [], 3600⟩ rootSigner ⟨[], 0⟩ = .ok (text, e') :=
    ⟨_, _, sign_of_short hmodest loadIssuer_rootSigner loadRequest_crossed rfl window_hour
      (by decide +kernel) _⟩
  obtain ⟨leaf, issuer, accepted, names, validity, hsettled⟩ := exists_settled hsign
  obtain ⟨r, hr, -⟩ := exists_request_of_loadRequest hsettled.loadRequest
  obtain rfl := Except.ok.inj (hsettled.loadRequest.symm.trans loadRequest_crossed)
  have hkey : leaf.key = .make (SecretKey.ecdsa .p256 1).algorithm longKey.publicKey.bits := by
    obtain ⟨serial, message, e₁, rfl, -⟩ := hsettled.read
    rfl
  have hasked : r.key.algorithm.curve? = some .p384 := by
    rw [SigningRequest.ofText?, crossedRequest, read?_request, Option.bind_some] at hr
    simpa [hr] using curve?_crossed
  have hgiven : leaf.key.algorithm.curve? = some .p256 := by
    rw [hkey]
    decide
  refine ⟨text, e', r, leaf, hsign, hr, hsettled.held.ofPem_eq, hasked, hgiven, fun heq => ?_⟩
  rw [heq, hasked] at hgiven
  exact absurd hgiven (by decide)

end Issuance

end LabTrust
