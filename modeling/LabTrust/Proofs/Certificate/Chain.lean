/-
Leaves verify under the root that signed them.

A root and a leaf meet in three places: the name of the root, which the leaf repeats as its issuer;
the key of the root, which is loaded from the same text for both; and the signature.
* `Suite.Sound`: signatures that are made with a key are found good under its public key.
* `Certificate.checkIssuedBy_eq_ok_iff`: what is left to check of a leaf with a good signature.
* `Issuance.checkIssuedBy_sign`: a leaf that was signed with a root and its key is found to be
  issued by this root.
-/
import LabTrust.Proofs.Certificate.Sizes

namespace LabTrust

/-- Signatures made with a key that some text holds are found good under its public key. -/
def Suite.Sound (suite : Suite) : Prop :=
  ∀ text key, SecretKey.ofPem? text = some key → ∀ message e,
    suite.verify key.scheme key.publicKey message (suite.sign key message e).1 = true

/-- Signatures that spell out who signed what. -/
def Suite.spelled : Suite where
  sign key message e := (key.publicKey.encoded ++ message, e)
  verify _ key message signature := signature == key.encoded ++ message

lemma Suite.sound_spelled : spelled.Sound := by
  intro text key _ message e
  exact beq_self_eq_true (key.publicKey.encoded ++ message)

lemma Suite.modest_spelled : spelled.Modest := by
  intro key message e
  have hlength : (spelled.sign key message e).1.length =
      key.publicKey.encoded.length + message.length := List.length_append
  omega

/-- A certificate with a good signature was issued by the holder of another if it names that one as
people read names, and if the text with the other one has the label of certificates. -/
lemma Certificate.checkIssuedBy_eq_ok_iff {suite : Suite} {leaf authority : Certificate}
    {leafText authorityText : String} {block : Pem} (hleaf : leaf.HeldBy leafText)
    (hblock : Pem.read? authorityText.toList = some block)
    (hread : read? block.content = some authority)
    (hsigned : isSignedBy suite leaf authority = true) :
    checkIssuedBy suite leafText authorityText = .ok () ↔
      block.label = label ∧ leaf.issuer.text = authority.subject.text := by
  obtain ⟨leafBytes, hleafBytes, hleafRead⟩ := hleaf.exists_bytes
  have hauthorityRead : ofBytes block.content = .ok authority := by rw [ofBytes, hread]
  rw [checkIssuedBy, hleafBytes, bytesOfPem, hblock]
  by_cases hlabel : block.label = label
  · by_cases hname : leaf.issuer.text = authority.subject.text
    · simp only [hlabel, hname, hleafRead, hauthorityRead, checkIssuerName, hsigned, bind,
        Except.bind, if_true, true_and, iff_true]
      rfl
    · simp [hlabel, hname, hleafRead, hauthorityRead, checkIssuerName, bind, Except.bind]
  · simp [hlabel, bind, Except.bind]

namespace Issuance

/-- An issuer that was loaded from a root: its name is the root's. -/
lemma loadIssuer_of_heldBy {signer : Signer} {root : Certificate} {request : Request}
    {issuer : Issuer} (hroot : root.HeldBy signer.certificate)
    (hsubject : root.subject = request.subject) (h : loadIssuer signer = .ok issuer) :
    issuer.name = request.subject ∧ SecretKey.ofPem? signer.key = some issuer.key := by
  obtain ⟨document, hpem, hread⟩ := hroot
  obtain ⟨hkey, hissuer⟩ := loadIssuer_eq_ok_iff.mp h
  obtain ⟨block, c, hblock, hc, hname, -⟩ := issuer?_eq_some_iff.mp hissuer
  obtain rfl := Option.some.inj (hpem.symm.trans hblock)
  obtain rfl := Option.some.inj (hread.symm.trans hc)
  rw [hsubject, Request.copy?_subject] at hname
  exact ⟨(Option.some.inj hname).symm, hkey⟩

namespace Settled

variable {suite : Suite} {now : Instant} {order : SigningOrder} {signer : Signer} {text : String}
  {leaf authority : Certificate} {issuer : Issuer} {accepted : AcceptedRequest}
  {names : List AltName} {validity : Int × Int}

/-- A leaf names the one who signed it. -/
lemma issuer_eq (h : Settled suite now order signer text leaf issuer accepted names validity) :
    leaf.issuer = issuer.name := by
  obtain ⟨serial, message, e, rfl, -⟩ := h.read
  rfl

/-- Its signature is found good under a public key that signatures of the issuer's key are found
good under. -/
lemma isSignedBy (h : Settled suite now order signer text leaf issuer accepted names validity)
    (hverify : ∀ message e, suite.verify issuer.key.scheme authority.key message
      (suite.sign issuer.key message e).1 = true) :
    Certificate.isSignedBy suite leaf authority = true := by
  obtain ⟨serial, message, e, hleaf, hbody⟩ := h.read
  have halgorithm : leaf.algorithm = issuer.key.signatureAlgorithm := hleaf ▸ rfl
  have hsignature : leaf.signature = (suite.sign issuer.key message e).1 := hleaf ▸ rfl
  rw [Certificate.isSignedBy, halgorithm, SecretKey.ofId?_signatureAlgorithm, hbody, hsignature]
  exact hverify message e

end Settled

/-- A leaf that was signed with a root and its key was issued by this root. -/
lemma checkIssuedBy_sign {suite : Suite} (hsuite : suite.Sound) {now now' : Instant}
    {request : Request} {keyText rootText text : String} {order : SigningOrder}
    {e e' e₁ e₁' : Entropy} (hroot : selfSign suite now request keyText e₁ = .ok (rootText, e₁'))
    (hleaf : sign suite now' order ⟨rootText, keyText⟩ e = .ok (text, e')) :
    Certificate.checkIssuedBy suite text rootText = .ok () := by
  obtain ⟨root, key, _, hroot⟩ := exists_selfSigned hroot
  obtain ⟨leaf, issuer, accepted, _, _, hsettled⟩ := exists_settled hleaf
  obtain ⟨hname, hissuerKey⟩ := loadIssuer_of_heldBy hroot.held hroot.subject hsettled.loadIssuer
  obtain rfl : key = issuer.key := Option.some.inj (hroot.keyRead.symm.trans hissuerKey)
  have hsigned : Certificate.isSignedBy suite leaf root = true :=
    hsettled.isSignedBy (hroot.publicKey ▸ hsuite keyText issuer.key hroot.keyRead)
  obtain ⟨document, hpem, hread⟩ := hroot.held
  refine (Certificate.checkIssuedBy_eq_ok_iff hsettled.held hpem hread hsigned).mpr ⟨rfl, ?_⟩
  rw [hsettled.issuer_eq, hname, hroot.subject]

end Issuance

end LabTrust
