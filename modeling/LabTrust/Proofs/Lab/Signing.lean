/-
What was made here is signed here.

A root signs every request that was built, for every validity that has a meaning. What may keep a
leaf from being made shows before: in what is checked first, when its key is made, or when its
request is built.
* `Error.RejectsOrder`: the failures that say that a root cannot sign, that a request or a host is
  not taken, or that a validity leads too far.
* `Action.Always.issueLeaf_rejects_nothing`: a call for a leaf has no such failure if it finds a root
  that was made.
* `Issuance.own_requests_are_signed`: so no order is refused, and calls for leaves refuse none.
-/
import LabTrust.Proofs.Certificate.Answered
import LabTrust.Proofs.Lab.Validity

namespace LabTrust

/-! ### Failures -/

/-- A failure that says that a root cannot sign, that a request or one of the hosts is not taken when
it signs, or that a validity leads outside the calendar. -/
def Error.RejectsOrder : Error → Prop
  | .crypto .signerConstruction _ | .crypto .signing (.badRequest _)
  | .crypto .signing (.badHost _) | .expiryOutOfRange _ => True
  | _ => False

/-- A failure that is about no key and no certificate, and about no validity, says no such thing. -/
lemma Error.not_rejectsOrder_of_kind {e : Error} (hkind : e.kind ≠ .crypto)
    (hvalidity : ¬ e.IsOfValidity) : ¬ e.RejectsOrder := by
  cases e with
  | crypto stage fault => exact absurd rfl hkind
  | expiryOutOfRange hours => exact absurd trivial hvalidity
  | _ => exact id

/-- What is checked about a leaf first rejects no order. -/
lemma LeafOptions.not_rejectsOrder_of_plan {options : LeafOptions} {template : Template}
    {input : LeafInput} {e : Error} (h : options.plan template input = .error e) :
    ¬ e.RejectsOrder := by
  rcases plan_eq_error h with hkind | ⟨hkind, hvalidity⟩ | h
  · exact Error.not_rejectsOrder_of_kind (by simp [hkind])
      (Error.not_isOfValidity_of_kind (by simp [hkind]))
  · exact Error.not_rejectsOrder_of_kind (by simp [hkind]) hvalidity
  · rw [Expiry.parse_eq_error h]
    exact id

/-! ### Calls -/

/-- A file with a text can be read as a text. -/
lemma Disk.Reads.not_unread {d : Disk} {p : Path} {text : String} (h : d.Reads p text)
    {f : IoFailure} : ¬ (d.read p = .error f ∨
      f = .notText ∧ (∃ bs, d.read p = .ok bs ∧ bs.text? = none)) := by
  obtain ⟨bs, hbs, htext⟩ := h
  rintro (hread | ⟨-, cs, hcs, hnone⟩)
  · exact absurd (hbs.symm.trans hread) (by simp)
  · obtain rfl := Except.ok.inj (hbs.symm.trans hcs)
    exact absurd (htext.symm.trans hnone) (by simp)

namespace Issuance

variable {suite : Suite} {rootNow now : Instant} {rootRequest request : Request}
  {rootKeyText rootText keyText csr : String} {e₀ e₀' e₁ e₁' e : Entropy} {lifetime : ℕ}
  {validity : Int × Int} {failure : Error}

/-- A root that was made does not sign a request that was built only if the leaf cannot be written. -/
lemma exists_report_of_sign (hsuite : suite.Sound)
    (hroot : selfSign suite rootNow rootRequest rootKeyText e₀ = .ok (rootText, e₀'))
    (hbuild : buildRequest suite request keyText e₁ = .ok (csr, e₁'))
    (hwindow : window now lifetime = .ok validity)
    (h : sign suite now ⟨csr, request.hosts, lifetime⟩ ⟨rootText, rootKeyText⟩ e =
      .error failure) : ∃ report, failure = .crypto .signing (.other report) := by
  obtain ⟨rootKey, key, names, -, -, hsign⟩ := sign_of_buildRequest hsuite hroot hbuild hwindow
  exact exists_report_of_certify ((hsign e).symm.trans h)

end Issuance

/-- A call for a leaf rejects no order if the root that it finds was made here. -/
lemma Action.Always.issueLeaf_rejects_nothing {suite : Suite} (hsuite : suite.Sound)
    {rootNow now : Instant} {rootRequest : Request} {rootKeyText rootText : String}
    {e₀ e₀' : Entropy}
    (hroot : Issuance.selfSign suite rootNow rootRequest rootKeyText e₀ = .ok (rootText, e₀'))
    (hnow : now.IsEarly) {w : World Entropy} {rootCertificate rootKey target : Path}
    {template : Template} {input : LeafInput} {options : LeafOptions}
    (hsigner : w.disk.ReadsSigner rootCertificate rootKey ⟨rootText, rootKeyText⟩) :
    Always (World.handle ((Issuance.authority suite).fixedAt now)) (fun _ _ => True)
      (fun _ _ => True) (fun e _ => ¬ e.RejectsOrder)
      (LabTrust.issueLeaf rootCertificate rootKey template input target options) w := by
  refine mono issueLeaf_failure (fun _ _ _ => trivial) (fun _ _ _ => trivial)
    fun e _ hfailure => ?_
  cases hfailure with
  | plan h => exact LeafOptions.not_rejectsOrder_of_plan h
  | signer hpath h =>
      rcases hpath with rfl | rfl
      · exact absurd h hsigner.1.not_unread
      · exact absurd h hsigner.2.not_unread
  | key hplan h =>
      have hvalid := (LeafOptions.settled_of_plan_eq_ok hplan).valid
      obtain ⟨_, h⟩ := Issuance.exists_refusal h
      obtain ⟨fault, rfl⟩ :=
        Issuance.exists_fault_of_generateKey (Request.check_key_of_validate hvalid) h
      exact id
  | request _ h =>
      obtain ⟨_, h⟩ := Issuance.exists_refusal h
      obtain ⟨fault, rfl⟩ := Issuance.exists_fault_of_buildRequest h
      exact id
  | @leaf request lifetime signer _ _ _ hplan hread hcsr h =>
      have hlifetime := (LeafOptions.settled_of_plan_eq_ok hplan).lifetime
      -- the texts that are read are the root's
      obtain rfl : signer = ⟨rootText, rootKeyText⟩ :=
        congrArg₂ Signer.mk (hread.1.unique hsigner.1) (hread.2.unique hsigner.2)
      obtain ⟨_, hcsr⟩ := Authority.answers_fixedAt.mp hcsr
      obtain ⟨_, hcsr⟩ := Issuance.exists_answer hcsr
      obtain ⟨_, h⟩ := Issuance.exists_refusal h
      obtain ⟨report, rfl⟩ := Issuance.exists_report_of_sign hsuite hroot hcsr
        (Issuance.window_eq_ok hnow hlifetime) h
      exact id
  | store h =>
      exact Error.not_rejectsOrder_of_kind (by simp [h])
        (Error.not_isOfValidity_of_kind (by simp [h]))

/-- Signatures are assumed to be found good under the keys they are made with, and to be not much
longer than these. Then a root that was made here signs every request that was built here, for the
hosts of the request and for every validity with a meaning, when the clock shows a time that
certificates can name, which they can from the year zero on, and the texts are no longer than texts
can be. And a call for a leaf that finds such a root and its key has no failure that says that the
root cannot sign, that the request or a host is not taken when it is signed, or that the validity
leads too far. -/
theorem Issuance.own_requests_are_signed (suite : Suite) (hsuite : suite.Sound)
    (hcompact : suite.Compact) (rootNow : Instant) (rootRequest : Request)
    (rootKeyText rootText : String) (e₀ e₀' : Entropy)
    (hroot : selfSign suite rootNow rootRequest rootKeyText e₀ = .ok (rootText, e₀'))
    (now : Instant) (hnow : now.IsEarly) :
    (∀ (request : Request) (keyText csr : String) (e₁ e₁' : Entropy) (expiry : String)
        (lifetime : ℕ),
      buildRequest suite request keyText e₁ = .ok (csr, e₁') →
      Expiry.parse expiry = .ok lifetime →
      86400 * (⟨0, 1, 1⟩ : Date).dayNumber ≤ now.second - 300 →
      rootText.length < 2 ^ 63 → csr.length < 2 ^ 63 →
      ∀ e, ∃ text e', sign suite now ⟨csr, request.hosts, lifetime⟩ ⟨rootText, rootKeyText⟩ e =
        .ok (text, e')) ∧
    ∀ (states : ℕ → Entropy) (refusals : List (Option IoFailure)) (d : Disk)
        (rootCertificate rootKey : Path) (template : Template) (input : LeafInput) (target : Path)
        (options : LeafOptions) (failure : Error),
      d.ReadsSigner rootCertificate rootKey ⟨rootText, rootKeyText⟩ →
      (⟨authority suite, now, states, refusals⟩ : Visit Entropy).result
        (issueLeaf rootCertificate rootKey template input target options) d = .error failure →
      ¬ failure.RejectsOrder := by
  refine ⟨fun request keyText csr e₁ e₁' expiry lifetime hbuild hlifetime hfirst hlong hlong' e =>
    ?_, fun states refusals d rootCertificate rootKey template input target options failure hsigner
      hfailure => ?_⟩
  · exact exists_sign_of_buildRequest hsuite hcompact hroot hbuild (window_eq_ok hnow hlifetime)
      hfirst hlong hlong' e
  · obtain ⟨_, hrejects⟩ := Visit.of_fixedAt_error
      (Action.Always.issueLeaf_rejects_nothing hsuite hroot hnow hsigner) hfailure
    exact hrejects

/-! ### A host that no certificate can name -/

/-- Signatures that spell out who signed, with a hash of what was signed. -/
def Suite.hashed : Suite where
  sign key message e := (key.publicKey.encoded ++ Hash.sha256.digest message, e)
  verify _ key message signature := signature == key.encoded ++ Hash.sha256.digest message

lemma Suite.sound_hashed : hashed.Sound := by
  intro text key _ message e
  exact beq_self_eq_true (key.publicKey.encoded ++ Hash.sha256.digest message)

lemma Suite.compact_hashed : hashed.Compact := by
  intro key message e
  have hdigest : (Hash.sha256.digest message).length = 32 := by
    simp [Hash.digest, Hash.Sha256.digest, Hash.Sha256.digestFrom, Hash.Sha256.State.list,
      Bytes.length_ofNat]
  have hsign : (hashed.sign key message e).1 =
      key.publicKey.encoded ++ Hash.sha256.digest message := rfl
  rw [hsign, List.length_append, hdigest]
  omega

namespace Issuance

/-- The root for an hour, with such a signature. -/
def hashedRoot : String :=
  Pem.write ⟨Certificate.label, (Der.sign .hashed rootKey
    ((rootDraft hourRequest rootKey [] (-300, 3600) (drawSerial ⟨[], 0⟩).1).body
      rootKey.signatureAlgorithm) ⟨[], 1⟩).1⟩

lemma selfSign_hashed :
    selfSign .hashed ⟨0, 0⟩ hourRequest rootKey.toPem ⟨[], 0⟩ = .ok (hashedRoot, ⟨[], 1⟩) :=
  selfSign_hour Suite.compact_hashed.modest ofPem?_rootKey isShort_hour _

/-- The request for a host twice and an address, with such a signature. -/
def hashedText : String :=
  Pem.write ⟨requestLabel, (Der.sign .hashed mixedKey
    (SigningRequest.bodyOf mixedRequest.subject mixedKey.publicKey mixedNames) ⟨[], 1⟩).1⟩

lemma buildRequest_hashed : buildRequest .hashed mixedRequest mixedKey.toPem ⟨[], 1⟩ =
    .ok (hashedText, ⟨[], 1⟩) :=
  (built_mixedRequest Suite.compact_hashed.modest ⟨[], 1⟩).buildRequest_eq

lemma length_hashedRoot : hashedRoot.length < 2 ^ 63 := by
  have hdocument := fun e => @length_certificate_le .hashed Suite.compact_hashed.modest rootKey
    (rootDraft hourRequest rootKey [] (-300, 3600) (drawSerial e).1) (drawSerial_lt e)
    ⟨isShort_hour.times, isShort_hour.parts⟩ (drawSerial e).2
  exact Pem.length_write_lt (show Certificate.label.length ≤ 30 by decide) (hdocument ⟨[], 0⟩)

lemma length_hashedText : hashedText.length < 2 ^ 63 := by
  have hdocument := Suite.compact_hashed.length_sign_le length_mixed_le (by decide) ⟨[], 1⟩
  exact Pem.length_write_lt (show requestLabel.length ≤ 30 by decide)
    (hdocument.trans (by decide))

end Issuance

/-- The files of a signer. -/
def Disk.ofSigner (signer : Signer) : Disk where
  entries := [(["root.pem".toList], .file (.ofText signer.certificate)),
    (["root-key.pem".toList], .file (.ofText signer.key))]

lemma Disk.readsSigner_ofSigner (signer : Signer) :
    (Disk.ofSigner signer).ReadsSigner (.ofText "root.pem") (.ofText "root-key.pem") signer :=
  ⟨⟨_, by rfl, Bytes.text?_ofText _⟩, _, by rfl, Bytes.text?_ofText _⟩

/-- A template without places, as a list of values; its host has an accent. -/
def Template.accented : Template :=
  ⟨"node", [.text "[\"r1\",[\"ecdsa\",256],[],[\"caf\u00e9\"]]".toList]⟩

/-- The request for this host. -/
def Issuance.accentedRequest : Request := { commonName := "r1", hosts := ["caf\u00e9"] }

/-- The host is refused when the request is built. -/
lemma Visit.result_accented :
    (⟨Issuance.authority .hashed, ⟨0, 0⟩, fun source => ⟨[], source⟩, []⟩ : Visit Entropy).result
      (issueLeaf (.ofText "root.pem") (.ofText "root-key.pem") Template.accented { name := "r1" }
        (.ofText "r1") {}) (.ofSigner ⟨Issuance.hashedRoot, Issuance.rootKey.toPem⟩) =
          .error (.crypto .requestBuild (.badHost "caf\u00e9")) := by
  have hplan : LeafOptions.plan {} Template.accented { name := "r1" } =
      .ok (Issuance.accentedRequest, 31536000) := by decide +kernel
  have hkey : Issuance.answer .hashed ⟨0, 0⟩ ⟨[], 0⟩ (.generateKey Issuance.accentedRequest.key) =
      .ok (Issuance.mixedKey.toPem, ⟨[], 1⟩) := Issuance.generateKey_mixed
  have hnames : Issuance.altNames .requestBuild Issuance.accentedRequest.hosts =
      .error (.crypto .requestBuild (.badHost "caf\u00e9")) := by decide
  have hcsr : Issuance.answer .hashed ⟨0, 0⟩ ⟨[], 1⟩
      (.buildRequest Issuance.accentedRequest Issuance.mixedKey.toPem) =
        .error (.crypto .requestBuild (.badHost "caf\u00e9")) := by
    rw [Issuance.answer, Issuance.buildRequest,
      Issuance.loadKey_eq_ok_iff.mpr Issuance.ofPem?_mixedKey]
    simp only [hnames, bind, Except.bind]
  exact Visit.result_issueLeaf_of_buildRequest hplan (Disk.readsSigner_ofSigner _) hkey hcsr

/-- A root for an hour signs a request for a host twice and an address. It is not what refuses a host
that no certificate can name. -/
theorem Issuance.mixed_request_is_signed :
    Suite.hashed.Sound ∧ Suite.hashed.Compact ∧ (⟨0, 0⟩ : Instant).IsEarly ∧
      selfSign .hashed ⟨0, 0⟩ hourRequest rootKey.toPem ⟨[], 0⟩ = .ok (hashedRoot, ⟨[], 1⟩) ∧
      buildRequest .hashed mixedRequest mixedKey.toPem ⟨[], 1⟩ = .ok (hashedText, ⟨[], 1⟩) ∧
      (∃ text e', sign .hashed ⟨0, 0⟩ ⟨hashedText, mixedRequest.hosts, (31536000 : ℕ)⟩
        ⟨hashedRoot, rootKey.toPem⟩ ⟨[], 1⟩ = .ok (text, e')) ∧
      (⟨authority .hashed, ⟨0, 0⟩, fun source => ⟨[], source⟩, []⟩ : Visit Entropy).result
        (issueLeaf (.ofText "root.pem") (.ofText "root-key.pem") Template.accented
          { name := "r1" } (.ofText "r1") {}) (.ofSigner ⟨hashedRoot, rootKey.toPem⟩) =
            .error (.crypto .requestBuild (.badHost "caf\u00e9")) ∧
      ¬ (Error.crypto .requestBuild (.badHost "caf\u00e9")).RejectsOrder := by
  obtain ⟨hsigned, hrejects⟩ := own_requests_are_signed .hashed Suite.sound_hashed
    Suite.compact_hashed ⟨0, 0⟩ hourRequest rootKey.toPem hashedRoot ⟨[], 0⟩ ⟨[], 1⟩
    selfSign_hashed ⟨0, 0⟩ (by decide)
  exact ⟨Suite.sound_hashed, Suite.compact_hashed, by decide, selfSign_hashed, buildRequest_hashed,
    hsigned mixedRequest mixedKey.toPem hashedText ⟨[], 1⟩ ⟨[], 1⟩ "8760h" 31536000
      buildRequest_hashed (by decide) (by decide) length_hashedRoot length_hashedText _,
    Visit.result_accented, hrejects _ _ _ _ _ _ _ _ _ _ (Disk.readsSigner_ofSigner _)
      Visit.result_accented⟩

end LabTrust
