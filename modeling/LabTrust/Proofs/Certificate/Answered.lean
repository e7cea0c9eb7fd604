/-
Requests that were built are answered.

What is written of a request is what is taken over from one: its name is one that can be copied, its
names of hosts are of the kinds that are taken, and the algorithm of its key is the one that its
signature stands for. So nothing stands in the way of a leaf but the size of numbers, and these are
small enough if the texts are.
* `SigningRequest.accept?_ofParts`: a request with the signature of its own key is taken over whole.
* `Issuance.loadRequest_of_built`: so are those that were built.
* `Issuance.sign_of_buildRequest`: with a root that was made, all that is left is to write the leaf.
* `Issuance.exists_sign_of_buildRequest`: this succeeds whenever the validity can be written.
-/
import LabTrust.Proofs.Certificate.Asked
import LabTrust.Proofs.Certificate.Root
import LabTrust.Proofs.Certificate.Sizes

namespace LabTrust

open Der (element length_lt_element)

/-! ### What is taken over -/

/-- The name of a host is taken over as it is. -/
lemma AltName.acceptName?_of_ofHost? {host : String} {n : AltName} (h : ofHost? host = some n) :
    SigningRequest.acceptName? n = some n := by
  rw [ofHost?] at h
  split at h
  · next octets hoctets =>
    obtain rfl := Option.some.inj h
    exact if_pos (Host.length_of_address? hoctets)
  · split at h
    · next hplain =>
      obtain rfl := Option.some.inj h
      exact if_pos hplain
    · exact absurd h (by simp)

namespace SigningRequest

variable {suite : Suite} {subject : DistinguishedName} {key : SecretKey} {hosts : List String}
  {names : List AltName} {signature : Bytes}

/-- The names of hosts are taken over in their order. -/
lemma mapM_acceptName? (h : List.Forall₂ (fun host n => AltName.ofHost? host = some n) hosts names) :
    names.mapM acceptName? = some names := by
  rw [Option.mapM_eq_some_iff, List.forall₂_same]
  intro n hn
  obtain ⟨i, hi, rfl⟩ := List.getElem_of_mem hn
  exact AltName.acceptName?_of_ofHost? (h.get (h.length_eq ▸ hi) hi)

/-- Of the extension for names of hosts, these names are taken over. -/
lemma mapM_acceptExtension?_ofAltNames
    (h : List.Forall₂ (fun host n => AltName.ofHost? host = some n) hosts names)
    (hfits : (attributes (Extension.ofAltNames subject names)).length < UInt64.size) :
    ∃ rows, (Extension.ofAltNames subject names).mapM acceptExtension? = some rows ∧
      rows.flatten = names := by
  cases names with
  | nil => exact ⟨[], rfl, rfl⟩
  | cons n rest =>
      have hextension : Extension.ofAltNames subject (n :: rest) =
          [⟨Extension.altNames, subject.isEmpty, AltName.encodeList (n :: rest)⟩] := rfl
      have hvalue : (AltName.encodeList (n :: rest)).length < UInt64.size :=
        (length_value_lt_attributes (hextension ▸ List.mem_singleton_self _)).trans hfits
      have hread := AltName.readList?_encodeList (AltName.isGiven_of_forall₂ h) hvalue
      have haccept : acceptExtension? ⟨Extension.altNames, subject.isEmpty,
          AltName.encodeList (n :: rest)⟩ = some (n :: rest) := by
        rw [acceptExtension?, if_pos rfl, hread]
        exact mapM_acceptName? h
      refine ⟨[n :: rest], ?_, List.append_nil _⟩
      rw [hextension, List.mapM_cons, haccept]
      rfl

/-- The signatures of a key stand for the algorithm of the key. -/
lemma keyAlgorithm?_scheme (key : SecretKey) : keyAlgorithm? key.scheme = some key.algorithm := by
  rcases key with _ | ⟨_ | _, _⟩ | _ <;> rfl

/-- A request with a good signature of its own key is taken over as it was written. -/
lemma accept?_ofParts (hcopy : subject.copy? = some subject)
    (h : List.Forall₂ (fun host n => AltName.ofHost? host = some n) hosts names)
    (hfits : Fits subject key.publicKey names key.signatureAlgorithm signature)
    (hverify : suite.verify key.scheme key.publicKey (bodyOf subject key.publicKey names)
      signature = true) :
    (ofParts subject key.publicKey names key.signatureAlgorithm signature).accept? suite =
      some ⟨subject, key.publicKey, names⟩ := by
  obtain ⟨rows, hrows, hnames⟩ := mapM_acceptExtension?_ofAltNames h hfits.attributes
  refine Option.bind_eq_some_iff.mpr ⟨key.scheme, SecretKey.ofId?_signatureAlgorithm key, ?_⟩
  simp only [ofParts, hverify, keyAlgorithm?_scheme, hcopy, hrows, hnames, Option.bind_eq_bind,
    Option.bind_some, Bool.not_true, Bool.false_eq_true, if_false]
  rfl

end SigningRequest

/-- The subject, the key and the names are parts of the signed part of a request. -/
lemma SigningRequest.length_parts_le {subject : DistinguishedName} {key : PublicKey}
    {names : List AltName} :
    subject.encode.length + key.encoded.length +
      ((Extension.ofAltNames subject names).flatMap Extension.encode).length ≤
        (bodyOf subject key names).length := by
  have hattributes : ((Extension.ofAltNames subject names).flatMap Extension.encode).length ≤
      (attributes (Extension.ofAltNames subject names)).length := by
    rw [attributes]
    split
    · next hempty => rw [List.isEmpty_iff.mp hempty]; exact Nat.le_refl 0
    · have hrow := length_lt_element Der.sequence
        ((Extension.ofAltNames subject names).flatMap Extension.encode)
      have hset := length_lt_element Der.set (element Der.sequence
        ((Extension.ofAltNames subject names).flatMap Extension.encode))
      have hwhole := length_lt_element Der.sequence (element Der.objectId extensionRequest ++
        element Der.set (element Der.sequence
          ((Extension.ofAltNames subject names).flatMap Extension.encode)))
      rw [List.length_append] at hwhole
      omega
  have hcontext := length_lt_element (Der.contextParts 0)
    (attributes (Extension.ofAltNames subject names))
  have hbody := length_lt_element Der.sequence (fields subject key names)
  rw [bodyOf_eq]
  simp only [fields, List.length_append] at hbody ⊢
  omega

/-! ### What a leaf adds -/

/-- The identifier of the root's key takes some octets. -/
lemma Extension.length_ofAuthorityKey_le {id : Bytes} (h : id.length ≤ 20) :
    (ofAuthorityKey id).encode.length ≤ 65 := by
  have hid := Der.length_element_le (Der.context 0) h (by decide)
  have hvalue := Der.length_element_le Der.sequence hid (by decide)
  have hoctets := Der.length_element_le Der.octetString hvalue (by decide)
  have hmark : (element Der.objectId authorityKeyId).length = 5 := by decide
  refine @Der.length_element_le Der.sequence _ 55 ?_ (by decide)
  simp only [ofAuthorityKey, List.length_append, hmark, Bool.false_eq_true, if_false,
    List.length_nil]
  omega

namespace Issuance

variable {suite : Suite} {now rootNow : Instant} {request rootRequest : Request} {stage : Stage}
  {keyText text csr rootKeyText rootText : String} {e e' e₀ e₀' e₁ e₁' : Entropy}

/-- What a leaf says that neither its request nor its root says takes some octets. -/
lemma length_leafExtensions_le {issuer : Issuer} {accepted : AcceptedRequest}
    {names : List AltName} {validity : Int × Int} {serial : ℕ} (h : issuer.keyId.length ≤ 20) :
    ((leafDraft issuer accepted names validity serial).extensions.flatMap
      Extension.encode).length ≤
        ((Extension.ofAltNames accepted.subject names).flatMap Extension.encode).length + 150 := by
  have hkey := Extension.length_ofAuthorityKey_le h
  have hgranted : ([Extension.leafUsage, .leafPurposes].flatMap Extension.encode).length ≤ 80 := by
    decide
  simp only [leafDraft, List.flatMap_cons, List.flatMap_append, List.length_append] at hgranted ⊢
  omega

lemma length_keyId_le (key : PublicKey) : (Extension.keyId key).length ≤ 20 :=
  List.length_take_le _ _

/-- So a leaf is not much longer than what it takes over and the key that signs it. -/
lemma length_leaf_lt (hcompact : suite.Compact) {issuer : Issuer} {accepted : AcceptedRequest}
    {names : List AltName} {validity : Int × Int} (hkeyId : issuer.keyId.length ≤ 20)
    (hwritable : (leafDraft issuer accepted names validity (drawSerial e).1).isWritable = true)
    (h : issuer.name.encode.length + issuer.key.publicKey.encoded.length +
      (accepted.subject.encode.length + accepted.key.encoded.length +
        ((Extension.ofAltNames accepted.subject names).flatMap Extension.encode).length) + 1000 <
          UInt64.size) :
    (Der.sign suite issuer.key ((leafDraft issuer accepted names validity (drawSerial e).1).body
      issuer.key.signatureAlgorithm) (drawSerial e).2).1.length < UInt64.size := by
  have hextensions := @length_leafExtensions_le issuer accepted names validity (drawSerial e).1
    hkeyId
  obtain ⟨n, hn⟩ : ∃ n, n = issuer.name.encode.length + accepted.subject.encode.length +
      accepted.key.encoded.length +
        (((Extension.ofAltNames accepted.subject names).flatMap Extension.encode).length + 150) :=
    ⟨_, rfl⟩
  have hbody := CertificateDraft.length_body_le hwritable (drawSerial_lt e)
    issuer.key.length_signatureAlgorithm_le
    (n := n) (by simp only [leafDraft] at hextensions ⊢; omega) (by omega)
  exact (hcompact.length_sign_le (Nat.add_le_add_right hbody _) (by omega) _).trans_lt (by omega)

/-! ### Calls -/

/-- A request that was built is taken over whole. -/
lemma loadRequest_of_built (hsuite : suite.Sound) {key : SecretKey} {names : List AltName}
    (h : Built suite request keyText e text key names) :
    loadRequest suite text = .ok ⟨request.subject, key.publicKey, names⟩ := by
  have haccept := SigningRequest.accept?_ofParts request.copy?_subject h.hosts h.fits
    (hsuite keyText key h.keyRead _ e)
  obtain ⟨block, hblock, hread⟩ := Option.bind_eq_some_iff.mp h.ofText?_eq
  have hpem : SigningRequest.ofPem? suite text = some ⟨request.subject, key.publicKey, names⟩ :=
    Option.bind_eq_some_iff.mpr ⟨block, hblock, Option.bind_eq_some_iff.mpr ⟨_, hread, haccept⟩⟩
  rw [loadRequest, hpem]

/-- The names of a request's hosts are those of a leaf, whether they are asked for or ordered. -/
lemma names_of_built {key : SecretKey} {names : List AltName}
    (h : Built suite request keyText e text key names) :
    (if request.hosts.isEmpty then pure names else altNames .signing request.hosts) =
      (.ok names : Except Error (List AltName)) := by
  split
  · rfl
  · exact altNames_eq_ok_iff.mpr h.hosts

/-- What a leaf takes over from its request is shorter than the request. -/
lemma length_parts_of_built {key : SecretKey} {names : List AltName}
    (h : Built suite request keyText e text key names) :
    4 * (request.subject.encode.length + key.publicKey.encoded.length +
      ((Extension.ofAltNames request.subject names).flatMap Extension.encode).length) ≤
        3 * text.length := by
  have hparts := @SigningRequest.length_parts_le request.subject key.publicKey names
  have hsign := Der.length_lt_sign suite key
    (SigningRequest.bodyOf request.subject key.publicKey names) e
  have hcontent := Pem.length_content_le ⟨requestLabel, (Der.sign suite key
    (SigningRequest.bodyOf request.subject key.publicKey names) e).1⟩
  rw [← h.text] at hcontent
  simp only at hcontent
  omega

/-- The issuer and the key of a certificate are shorter than its text. -/
lemma length_parts_of_certify {key : SecretKey} {draft : CertificateDraft}
    (h : certify suite stage key draft e = .ok (text, e')) :
    4 * (draft.issuer.encode.length + draft.key.encoded.length) ≤ 3 * text.length := by
  obtain ⟨-, -, htext, -⟩ := certify_eq_ok_iff.mp h
  have hparts := @CertificateDraft.length_issuer_key_le draft key.signatureAlgorithm
  have hsign := Der.length_lt_sign suite key (draft.body key.signatureAlgorithm) e
  have hcontent := Pem.length_content_le
    ⟨Certificate.label, (Der.sign suite key (draft.body key.signatureAlgorithm) e).1⟩
  rw [← htext] at hcontent
  simp only at hcontent
  omega

/-- What a leaf takes over from its root, and the key of the root, are shorter than the root. -/
lemma length_parts_of_selfSign (h : selfSign suite now request keyText e = .ok (text, e'))
    {key : SecretKey} (hkey : SecretKey.ofPem? keyText = some key) :
    4 * (request.subject.encode.length + key.publicKey.encoded.length) ≤ 3 * text.length := by
  obtain ⟨key', names, lifetime, validity, hkey', -, -, -, h⟩ := selfSign_eq_ok_iff.mp h
  obtain rfl := Option.some.inj (hkey.symm.trans hkey')
  have hparts := length_parts_of_certify h
  exact hparts

/-- What is left to do for a request that was built and a root that was made. -/
lemma sign_of_buildRequest (hsuite : suite.Sound)
    (hroot : selfSign suite rootNow rootRequest rootKeyText e₀ = .ok (rootText, e₀'))
    (hbuild : buildRequest suite request keyText e₁ = .ok (csr, e₁')) {lifetime : ℕ}
    {validity : Int × Int} (hwindow : window now lifetime = .ok validity) :
    ∃ rootKey key names, SecretKey.ofPem? rootKeyText = some rootKey ∧
      Built suite request keyText e₁ csr key names ∧
      ∀ e, sign suite now ⟨csr, request.hosts, lifetime⟩ ⟨rootText, rootKeyText⟩ e =
        certify suite .signing rootKey
          (leafDraft ⟨rootRequest.subject, Extension.keyId rootKey.publicKey, rootKey⟩
            ⟨request.subject, key.publicKey, names⟩ names validity (drawSerial e).1)
          (drawSerial e).2 := by
  obtain ⟨key, names, hbuilt⟩ := exists_built hbuild
  obtain ⟨_, rootKey, _, hself⟩ := exists_selfSigned hroot
  exact ⟨rootKey, key, names, hself.keyRead, hbuilt, fun e =>
    sign_of_settled (loadIssuer_of_selfSign hroot hself.keyRead) (loadRequest_of_built hsuite hbuilt)
      (names_of_built hbuilt) hwindow⟩

/-- A root that was made signs a request that was built, if both texts have less than two to the
sixty-third characters and the validity can be written. -/
lemma exists_sign_of_buildRequest (hsuite : suite.Sound) (hcompact : suite.Compact)
    (hroot : selfSign suite rootNow rootRequest rootKeyText e₀ = .ok (rootText, e₀'))
    (hbuild : buildRequest suite request keyText e₁ = .ok (csr, e₁')) {lifetime : ℕ}
    {validity : Int × Int} (hwindow : window now lifetime = .ok validity)
    (hfirst : 86400 * (⟨0, 1, 1⟩ : Date).dayNumber ≤ validity.1)
    (hrootText : rootText.length < 2 ^ 63) (hcsr : csr.length < 2 ^ 63) (e : Entropy) :
    ∃ text e', sign suite now ⟨csr, request.hosts, lifetime⟩ ⟨rootText, rootKeyText⟩ e =
      .ok (text, e') := by
  obtain ⟨rootKey, key, names, hrootKey, hbuilt, hsign⟩ :=
    sign_of_buildRequest hsuite hroot hbuild hwindow
  obtain ⟨⟨-, hlast⟩, rfl⟩ := window_eq_ok_iff.mp hwindow
  have hwritable : (leafDraft ⟨rootRequest.subject, Extension.keyId rootKey.publicKey, rootKey⟩
      ⟨request.subject, key.publicKey, names⟩ names (now.second - 300, now.second + lifetime)
        (drawSerial e).1).isWritable = true :=
    CertificateDraft.isWritable_of_le hfirst (show now.second - 300 ≤ now.second + lifetime by omega)
      hlast
  have hparts := length_parts_of_built hbuilt
  have hrootParts := length_parts_of_selfSign hroot hrootKey
  have hsize : UInt64.size = 2 * 2 ^ 63 := rfl
  have hlength := length_leaf_lt hcompact (length_keyId_le rootKey.publicKey) hwritable
    (by dsimp only; omega)
  exact ⟨_, _, (hsign e).trans (certify_eq_ok_iff.mpr ⟨hwritable, hlength, rfl, rfl⟩)⟩

/-! ### A root for an hour, and a request with a host twice and an address -/

/-- The request of a root for an hour. -/
def hourRequest : Request := { commonName := "root", authority := some { expiry := "1h" } }

lemma selfSign_hour (hsuite : suite.Modest) {key : SecretKey}
    (hkey : SecretKey.ofPem? keyText = some key)
    (hshort : (rootDraft hourRequest key [] (-300, 3600) 0).IsShort key) (e : Entropy) :
    selfSign suite ⟨0, 0⟩ hourRequest keyText e = .ok
      (Pem.write ⟨Certificate.label, (Der.sign suite key
        ((rootDraft hourRequest key [] (-300, 3600) (drawSerial e).1).body key.signatureAlgorithm)
          (drawSerial e).2).1⟩,
        (Der.sign suite key
          ((rootDraft hourRequest key [] (-300, 3600) (drawSerial e).1).body
            key.signatureAlgorithm) (drawSerial e).2).2) := by
  have hnames : altNames .selfSigning hourRequest.hosts = .ok [] := by rfl
  have hlifetime : hourRequest.authorityExpiry = .ok 3600 := by decide
  exact selfSign_of_short hsuite hkey hnames hlifetime window_hour hshort e

lemma isShort_hour : (rootDraft hourRequest rootKey [] (-300, 3600) 0).IsShort rootKey := by decide

/-- A request with a host twice and an address that is not in its usual form. -/
def mixedRequest : Request := { commonName := "r1", hosts := ["r1", "FE80:0::1", "r1"] }

/-- Its names in a certificate. -/
def mixedNames : List AltName :=
  [.dns "r1", .address [0xfe, 0x80, 0, 0, 0, 0, 0, 0, 0, 0, 0, 0, 0, 0, 0, 1], .dns "r1"]

/-- The first key of the source of random values without a seed. -/
def mixedKey : SecretKey := .ecdsa .p256
  13084598026212614583940354142969740990782069538245570163910507839016434264042

lemma ofPem?_mixedKey : SecretKey.ofPem? mixedKey.toPem = some mixedKey :=
  ofPem?_toPem (by decide +kernel)

/-- The signed part of a request for them is short, and so is the key. -/
lemma length_mixed_le : (SigningRequest.bodyOf mixedRequest.subject mixedKey.publicKey
    mixedNames).length + mixedKey.publicKey.encoded.length ≤ 500 := by
  decide +kernel

lemma built_mixedRequest (hsuite : suite.Modest) (e : Entropy) :
    Built suite mixedRequest mixedKey.toPem e (Pem.write ⟨requestLabel, (Der.sign suite mixedKey
      (SigningRequest.bodyOf mixedRequest.subject mixedKey.publicKey mixedNames) e).1⟩)
        mixedKey mixedNames := by
  have hnames : altNames .requestBuild mixedRequest.hosts = .ok mixedNames := by decide
  exact built_of_short hsuite ofPem?_mixedKey hnames (length_mixed_le.trans (by decide)) e

lemma generateKey_mixed :
    generateKey mixedRequest.key ⟨[], 0⟩ = .ok (mixedKey.toPem, ⟨[], 1⟩) := by
  have hkey : SecretKey.generate? mixedRequest.key ⟨[], 0⟩ = some (mixedKey, ⟨[], 1⟩) := by
    decide +kernel
  refine Except.bind_eq_ok_iff.mpr ⟨(), by decide, ?_⟩
  rw [hkey]
  rfl

/-- The request as bytes. -/
def mixedDocument : Bytes :=
  (Der.sign .spelled mixedKey
    (SigningRequest.bodyOf mixedRequest.subject mixedKey.publicKey mixedNames) ⟨[], 1⟩).1

/-- The request as a text. -/
def mixedText : String := Pem.write ⟨requestLabel, mixedDocument⟩

lemma built_mixed :
    Built .spelled mixedRequest mixedKey.toPem ⟨[], 1⟩ mixedText mixedKey mixedNames :=
  built_mixedRequest Suite.modest_spelled _

lemma buildRequest_mixed : buildRequest .spelled mixedRequest mixedKey.toPem ⟨[], 1⟩ =
    .ok (mixedText, ⟨[], 1⟩) :=
  built_mixed.buildRequest_eq

/-- The order for its leaf. -/
def mixedOrder : SigningOrder := ⟨mixedText, mixedRequest.hosts, (31536000 : ℕ)⟩

/-- A root for an hour signs it, if its key is short too. -/
lemma sign_mixedRequest (hsuite : suite.Sound) (hmodest : suite.Modest)
    (hroot : selfSign suite rootNow hourRequest rootKeyText e₀ = .ok (rootText, e₀'))
    {key : SecretKey} (hkey : SecretKey.ofPem? rootKeyText = some key)
    (hlength : hourRequest.subject.encode.length + key.publicKey.encoded.length ≤ 200)
    (hbuilt : Built suite mixedRequest mixedKey.toPem e₁ csr mixedKey mixedNames) (e : Entropy) :
    sign suite ⟨0, 0⟩ ⟨csr, mixedRequest.hosts, (31536000 : ℕ)⟩ ⟨rootText, rootKeyText⟩ e = .ok
      (Pem.write ⟨Certificate.label, (Der.sign suite key
        ((leafDraft ⟨hourRequest.subject, Extension.keyId key.publicKey, key⟩
          ⟨mixedRequest.subject, mixedKey.publicKey, mixedNames⟩ mixedNames (-300, 31536000)
            (drawSerial e).1).body key.signatureAlgorithm) (drawSerial e).2).1⟩,
        (Der.sign suite key
          ((leafDraft ⟨hourRequest.subject, Extension.keyId key.publicKey, key⟩
            ⟨mixedRequest.subject, mixedKey.publicKey, mixedNames⟩ mixedNames (-300, 31536000)
              (drawSerial e).1).body key.signatureAlgorithm) (drawSerial e).2).2) := by
  have hissuer := loadIssuer_of_selfSign hroot hkey
  have hrequest := loadRequest_of_built hsuite hbuilt
  have hwindow : window ⟨0, 0⟩ 31536000 = .ok (-300, 31536000) := by decide
  have hparts := @SigningRequest.length_parts_le mixedRequest.subject mixedKey.publicKey mixedNames
  have hextensions := @length_leafExtensions_le
    ⟨hourRequest.subject, Extension.keyId key.publicKey, key⟩
    ⟨mixedRequest.subject, mixedKey.publicKey, mixedNames⟩ mixedNames (-300, 31536000) 0
    (length_keyId_le _)
  have hmixed := length_mixed_le
  have hshort : (leafDraft ⟨hourRequest.subject, Extension.keyId key.publicKey, key⟩
      ⟨mixedRequest.subject, mixedKey.publicKey, mixedNames⟩ mixedNames (-300, 31536000)
        0).IsShort key := by
    refine ⟨rfl, ?_⟩
    simp only [leafDraft] at hextensions ⊢
    omega
  exact sign_of_short hmodest hissuer hrequest (names_of_built hbuilt) hwindow hshort e

end Issuance

end LabTrust
