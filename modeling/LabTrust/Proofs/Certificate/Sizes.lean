/-
How long certificates and requests are.

A document is written only if its octets can be counted in eight. What a leaf takes over from its
request and from its root is shorter than their texts, by a quarter, as text holds three bytes in
four characters; and what else a leaf says takes some hundred octets.
* `Der.length_element_le`: what an element adds to its content.
* `Pem.length_content_le`: how long the bytes of a text are.
* `CertificateDraft.length_body_le`: how long the signed part of a certificate is, by its parts.
* `Suite.Compact`: signatures are not much longer than public keys; `Suite.compact_standard`: those
  of the standards are not. `Suite.Modest`: nor are they much longer than what is signed besides.
* `CertificateDraft.IsShort`: drafts of which certificates are made, `Issuance.selfSign_of_short` for
  roots and `Issuance.sign_of_short` for leaves.
-/
import LabTrust.Proofs.Certificate.Made
import Mathlib.Data.Int.Order.Basic
import Mathlib.Order.Nat

namespace LabTrust

open Der (element length_lt_element)

/-! ### Elements -/

namespace Der

/-- A number below a power of 256 has at most as many octets as the exponent says. -/
lemma widthOf_le_of_lt {n width : ℕ} (h : n < 2 ^ (8 * width)) : Bytes.widthOf n ≤ width := by
  by_cases hn : n = 0
  · subst hn
    exact Nat.zero_le _
  · have hlog : n.log2 < 8 * width := (Nat.log2_lt hn).mpr h
    simp only [Bytes.widthOf, hn, if_false]
    omega

/-- An element adds its tag and its length, which takes at most nine octets. -/
lemma length_element_le (tag : UInt8) {content : Bytes} {bound : ℕ} (h : content.length ≤ bound)
    (hbound : bound < UInt64.size) : (element tag content).length ≤ bound + 10 := by
  have hwidth : Bytes.widthOf content.length ≤ 8 := widthOf_le_of_lt (h.trans_lt hbound)
  have hlength : (lengthOctets content.length).length ≤ 9 := by
    rw [lengthOctets]
    split
    · exact Nat.le_add_left 1 8
    · rw [List.length_cons, Bytes.ofNatShort, Bytes.length_ofNat]
      omega
  simp only [element, List.length_cons, List.length_append]
  omega

/-- A number takes its octets, and one more where the first would read as a sign. -/
lemma length_natContent_le (n : ℕ) : (natContent n).length ≤ Bytes.widthOf n + 1 := by
  have hlength : (Bytes.ofNatShort n).length = Bytes.widthOf n := Bytes.length_ofNat _ _
  rw [natContent]
  split
  · exact Nat.le_add_left 1 _
  · next b rest hbytes =>
    rw [hbytes] at hlength
    split
    · exact hlength.le.trans (Nat.le_succ _)
    · exact (congrArg Nat.succ hlength).le

lemma widthOf_le_natContent (n : ℕ) : Bytes.widthOf n ≤ (natContent n).length := by
  have hlength : (Bytes.ofNatShort n).length = Bytes.widthOf n := Bytes.length_ofNat _ _
  rw [← hlength, natContent]
  split
  · next hbytes =>
    rw [hbytes]
    exact Nat.zero_le 1
  · next b rest hbytes =>
    rw [hbytes]
    split
    · exact Nat.le_refl _
    · exact Nat.le_succ _

lemma length_nat_le {n : ℕ} (h : n < UInt64.size) : (nat n).length ≤ 19 :=
  length_element_le integer ((length_natContent_le n).trans
    (Nat.succ_le_succ (widthOf_le_of_lt h))) (by decide)

/-- A time that can be written takes fifteen characters at most. -/
lemma length_time_le {t : Int} (hlow : 0 ≤ (Date.ofDayNumber (t / 86400)).year)
    (hhigh : (Date.ofDayNumber (t / 86400)).year ≤ 9999) : (time t).length ≤ 25 := by
  obtain ⟨hmonth, hday⟩ := month_day_lt (Date.valid_ofDayNumber (t / 86400))
  have hclock := length_clock hmonth hday (show (t % 86400).toNat < 86400 by omega)
  rw [clock] at hclock
  simp only [time]
  split
  · refine (@length_element_le utcTime _ 13 ?_ (by decide)).trans (by decide)
    rw [Bytes.ofText_append, List.length_append, hclock, length_padded (by decide) (by omega)]
  · refine @length_element_le generalizedTime _ 15 ?_ (by decide)
    rw [Bytes.ofText_append, List.length_append, hclock, length_padded (by decide) (by omega)]

end Der

/-! ### Texts -/

/-- Three bytes take four characters. -/
lemma Base64.length_encode_ge (bs : Bytes) : 4 * bs.length ≤ 3 * (encode bs).length := by
  induction bs using encode.induct with
  | case1 => exact Nat.le_refl 0
  | case2 a => simp [encode]
  | case3 a b => simp [encode]
  | case4 a b c rest ih =>
      simp only [encode, List.length_cons]
      omega

/-- One byte takes four characters at most. -/
lemma Base64.length_encode_le (bs : Bytes) : (encode bs).length ≤ 4 * bs.length := by
  induction bs using encode.induct with
  | case1 => exact Nat.le_refl 0
  | case2 a => simp [encode]
  | case3 a b => simp [encode]
  | case4 a b c rest ih =>
      simp only [encode, List.length_cons]
      omega

namespace Pem

/-- Each line holds something. -/
lemma length_wrap_le (bound : ℕ) (s : List Char) : (wrap bound s).length ≤ 2 * s.length := by
  induction bound generalizing s with
  | zero => exact Nat.zero_le _
  | succ bound ih =>
      rw [wrap]
      split
      · exact Nat.zero_le _
      · next hs =>
        have hrest := ih (s.drop 64)
        have hpos := List.length_pos_iff.mpr hs
        rw [List.length_drop] at hrest
        rw [List.length_append, List.length_take, List.length_cons]
        omega

/-- Lines are not shorter than what they hold. -/
lemma length_wrap_ge {bound : ℕ} {s : List Char} (h : s.length ≤ bound) :
    s.length ≤ (wrap bound s).length := by
  induction bound generalizing s with
  | zero => exact h.trans (Nat.zero_le _)
  | succ bound ih =>
      rw [wrap]
      split
      · next hs => rw [hs]
      · have hrest := ih (s := s.drop 64) (by rw [List.length_drop]; omega)
        rw [List.length_drop] at hrest
        rw [List.length_append, List.length_take, List.length_cons]
        omega

/-- The bytes of a text are shorter than the text, by a quarter. -/
lemma length_content_le (block : Pem) :
    4 * block.content.length ≤ 3 * (write block).length := by
  have hencode := Base64.length_encode_ge block.content
  have hwrap := length_wrap_ge (Nat.le_refl (Base64.encode block.content).length)
  rw [← String.length_toList, toList_write]
  simp only [List.length_append, List.length_cons]
  omega

/-- A text is not much longer than its bytes and its label. -/
lemma length_write_le (block : Pem) :
    (write block).length ≤ 8 * block.content.length + 2 * block.label.length + 60 := by
  have hencode := Base64.length_encode_le block.content
  have hwrap := length_wrap_le (Base64.encode block.content).length (Base64.encode block.content)
  have hmarks : "-----BEGIN ".toList.length + 2 * "-----".toList.length +
      "-----END ".toList.length ≤ 50 := by decide
  rw [← String.length_toList, toList_write, ← String.length_toList]
  simp only [List.length_append, List.length_cons, List.length_nil]
  omega

/-- The text of a short document is one that can be. -/
lemma length_write_lt {block : Pem} (hlabel : block.label.length ≤ 30)
    (hcontent : block.content.length ≤ 5000) : (write block).length < 2 ^ 63 := by
  have hwrite := length_write_le block
  exact lt_of_le_of_lt (show _ ≤ 50000 by omega) (by decide)

end Pem

/-! ### Certificates -/

/-- An algorithm of keys or signatures takes some octets. -/
lemma SecretKey.length_signatureAlgorithm_le (key : SecretKey) :
    key.signatureAlgorithm.encode.length ≤ 20 := by
  rcases key with _ | ⟨_ | _, _⟩ | _ <;>
    simp only [SecretKey.signatureAlgorithm] <;> decide

namespace CertificateDraft

variable {d : CertificateDraft} {algorithm : AlgorithmId}

/-- A certificate whose validity begins in the year zero or later, and ends before the year 10000,
can be written. -/
lemma isWritable_of_le (hfirst : 86400 * (⟨0, 1, 1⟩ : Date).dayNumber ≤ d.notBefore)
    (h : d.notBefore ≤ d.notAfter) (hlast : d.notAfter ≤ Issuance.calendar.2) :
    d.isWritable = true := by
  have hyear : ∀ t : Int, 86400 * (⟨0, 1, 1⟩ : Date).dayNumber ≤ t → t ≤ Issuance.calendar.2 →
      0 ≤ (Date.ofDayNumber (t / 86400)).year ∧ (Date.ofDayNumber (t / 86400)).year ≤ 9999 := by
    intro t hlow hhigh
    have hlow' := (Date.year_ofDayNumber_lt_iff (t / 86400) 0).not
    have hhigh' := Date.year_ofDayNumber_lt_iff (t / 86400) 10000
    simp only [Issuance.calendar] at hhigh
    omega
  simp only [isWritable, List.all_cons, List.all_nil, Bool.and_true, Bool.and_eq_true,
    decide_eq_true_eq]
  exact ⟨hyear _ hfirst (h.trans hlast), hyear _ (hfirst.trans h) hlast⟩

/-- The signed part is not much longer than the names, the key and the extensions in it. -/
lemma length_body_le (hwritable : d.isWritable = true) (hserial : d.serial < UInt64.size)
    (halgorithm : algorithm.encode.length ≤ 20) {n : ℕ}
    (h : d.issuer.encode.length + d.subject.encode.length + d.key.encoded.length +
      (d.extensions.flatMap Extension.encode).length ≤ n) (hn : n + 200 < UInt64.size) :
    (d.body algorithm).length ≤ n + 150 := by
  simp only [isWritable, List.all_cons, List.all_nil, Bool.and_true, Bool.and_eq_true,
    decide_eq_true_eq] at hwritable
  obtain ⟨⟨hlow, hhigh⟩, hlow', hhigh'⟩ := hwritable
  have htimes : (Der.time d.notBefore ++ Der.time d.notAfter).length ≤ 50 := by
    rw [List.length_append]
    exact Nat.add_le_add (Der.length_time_le hlow hhigh) (Der.length_time_le hlow' hhigh')
  have hvalidity := Der.length_element_le Der.sequence htimes (by decide)
  have hnumber := Der.length_nat_le hserial
  have hversion : (element (Der.contextParts 0) (Der.nat 2)).length = 5 := by decide
  have hrow := Der.length_element_le Der.sequence
    (Nat.le_refl (d.extensions.flatMap Extension.encode).length) (by omega)
  have hextensions := Der.length_element_le (Der.contextParts 3) hrow (by omega)
  rw [body]
  refine (@Der.length_element_le Der.sequence _ (n + 140) ?_ (by omega)).trans (by omega)
  simp only [List.length_append]
  omega

/-- The issuer and the key are parts of the signed part. -/
lemma length_issuer_key_le :
    d.issuer.encode.length + d.key.encoded.length ≤ (d.body algorithm).length := by
  have hbody := length_lt_element Der.sequence (d.fields algorithm)
  rw [body_eq]
  simp only [fields, List.length_append] at hbody ⊢
  omega

end CertificateDraft

/-- A signed document is longer than what is signed. -/
lemma Der.length_lt_sign (suite : Suite) (key : SecretKey) (body : Bytes) (e : Entropy) :
    body.length < (Der.sign suite key body e).1.length := by
  have hwhole := length_lt_element Der.sequence (body ++ key.signatureAlgorithm.encode ++
    Der.bits (suite.sign key body e).1)
  rw [List.length_append, List.length_append] at hwhole
  exact Nat.lt_of_le_of_lt (by omega) hwhole

/-- It is not much longer than what is signed and the signature. -/
lemma Der.length_sign_le {suite : Suite} {key : SecretKey} {body : Bytes} {e : Entropy} {n : ℕ}
    (h : body.length + (suite.sign key body e).1.length ≤ n) (hn : n + 60 < UInt64.size) :
    (Der.sign suite key body e).1.length ≤ n + 60 := by
  have halgorithm := key.length_signatureAlgorithm_le
  have hbits : (Der.bits (suite.sign key body e).1).length ≤
      (suite.sign key body e).1.length + 1 + 10 :=
    Der.length_element_le Der.bitString (Nat.le_refl _) (by omega)
  have hwhole : (body ++ key.signatureAlgorithm.encode ++
      Der.bits (suite.sign key body e).1).length ≤ n + 40 := by
    rw [List.length_append, List.length_append]
    omega
  exact (Der.length_element_le Der.sequence hwhole (by omega)).trans (by omega)

/-- Serial numbers take eight octets. -/
lemma Issuance.drawSerial_lt (e : Entropy) : (drawSerial e).1 < UInt64.size := by
  have hmod := Nat.mod_lt (Bytes.toNat (e.draw (Bytes.widthOf (1 <<< 62) + 16)).1)
    (show 0 < 1 <<< 62 - 1 by decide)
  have hsize : 1 <<< 62 < UInt64.size := by decide
  exact lt_of_le_of_lt (Nat.succ_le_of_lt hmod) ((Nat.sub_le _ 1).trans_lt hsize)

/-! ### Signatures -/

/-- Signatures are at most 128 octets longer than the public keys that they are checked with. -/
def Suite.Compact (suite : Suite) : Prop :=
  ∀ key message e, (suite.sign key message e).1.length ≤ key.publicKey.encoded.length + 128

/-- A signed document is not much longer than what is signed and the key. -/
lemma Suite.Compact.length_sign_le {suite : Suite} (h : suite.Compact) {key : SecretKey}
    {body : Bytes} {n : ℕ} (hbody : body.length + key.publicKey.encoded.length ≤ n)
    (hn : n + 200 < UInt64.size) (e : Entropy) :
    (Der.sign suite key body e).1.length ≤ n + 200 := by
  have hsignature := h key body e
  exact (@Der.length_sign_le suite key body e (n + 128) (by omega) (by omega)).trans (by omega)

/-- Signatures are at most 128 octets longer than the public keys that they are checked with and
what is signed. -/
def Suite.Modest (suite : Suite) : Prop :=
  ∀ key message e, (suite.sign key message e).1.length ≤
    key.publicKey.encoded.length + message.length + 128

lemma Suite.Compact.modest {suite : Suite} (h : suite.Compact) : suite.Modest :=
  fun key message e => (h key message e).trans (by omega)

/-- A signed document is short if what is signed and the key are. -/
lemma Suite.Modest.length_sign_le {suite : Suite} (h : suite.Modest) {key : SecretKey}
    {body : Bytes} {n : ℕ} (hbody : body.length + key.publicKey.encoded.length ≤ n)
    (hn : n < 2 ^ 60) (e : Entropy) : (Der.sign suite key body e).1.length ≤ 2 * n + 200 := by
  have hsize : UInt64.size = 16 * 2 ^ 60 := rfl
  have hsignature := h key body e
  exact (@Der.length_sign_le suite key body e (2 * n + 128) (by omega) (by omega)).trans (by omega)

/-- Two numbers of at most 48 octets make a short signature. -/
lemma Scheme.length_writePair_le {r s : ℕ} (hr : r < 2 ^ (8 * 48)) (hs : s < 2 ^ (8 * 48)) :
    (writePair r s).length ≤ 128 := by
  have hnumber : ∀ {n : ℕ}, n < 2 ^ (8 * 48) → (Der.nat n).length ≤ 59 := fun h =>
    Der.length_element_le Der.integer ((Der.length_natContent_le _).trans
      (Nat.succ_le_succ (Der.widthOf_le_of_lt h))) (by decide)
  refine @Der.length_element_le Der.sequence _ 118 ?_ (by decide)
  rw [List.length_append]
  exact Nat.add_le_add (hnumber hr) (hnumber hs)

/-- A signature on a curve is two numbers below the order of the curve. -/
lemma Suite.length_signOnCurve_le (curve : Curve) (secret : ℕ) (hash : Bytes) (tries : ℕ)
    (e : Entropy) : (signOnCurve curve secret hash tries e).1.length ≤ 128 := by
  have horder : 0 < curve.order ∧ curve.order < 2 ^ (8 * 48) := by cases curve <;> decide +kernel
  have hmod : ∀ n : ℕ, n % curve.order < 2 ^ (8 * 48) := fun n =>
    (Nat.mod_lt n horder.1).trans horder.2
  induction tries generalizing e with
  | zero => exact Nat.zero_le _
  | succ tries ih =>
      rcases hdraw : e.drawBelow curve.order with ⟨once, later⟩
      have hfirst : (curve.sign secret once hash).1 < 2 ^ (8 * 48) := hmod _
      have hsecond : (curve.sign secret once hash).2 < 2 ^ (8 * 48) := hmod _
      rcases hpair : curve.sign secret once hash with ⟨r, s⟩
      rw [hpair] at hfirst hsecond
      simp only [signOnCurve, hdraw, hpair]
      split
      · exact ih later
      · exact Scheme.length_writePair_le hfirst hsecond

/-- The signatures of the standards are. -/
lemma Suite.compact_standard : standard.Compact := by
  intro key message e
  rcases key with k | ⟨_ | _, secret⟩ | secret
  · -- as many octets as the modulus has, which is a part of the key
    have hsignature : (standard.sign (.rsa k) message e).1.length = Bytes.widthOf k.modulus :=
      Bytes.length_ofNat _ _
    have hmodulus := Der.widthOf_le_natContent k.modulus
    have hnumber : (Der.natContent k.modulus).length < (Der.nat k.modulus).length :=
      length_lt_element _ _
    have hpair : (Der.nat k.modulus ++ Der.nat k.exponent).length < k.publicKey.encode.length :=
      length_lt_element _ _
    have hbits : (0 :: k.publicKey.encode).length < (Der.bits k.publicKey.encode).length :=
      length_lt_element _ _
    have hkey : ((SecretKey.rsa k).algorithm.encode ++ Der.bits k.publicKey.encode).length <
        (SecretKey.rsa k).publicKey.encoded.length := length_lt_element _ _
    rw [List.length_append] at hpair hkey
    rw [List.length_cons] at hbits
    omega
  · exact (length_signOnCurve_le _ _ _ _ _).trans (Nat.le_add_left _ _)
  · exact (length_signOnCurve_le _ _ _ _ _).trans (Nat.le_add_left _ _)
  · have hbytes : ∀ n, (Edwards.bytes 32 n).length = 32 := fun n => by
      rw [Edwards.bytes, List.length_reverse, Bytes.length_ofNat]
    have hsignature : (standard.sign (.edwards secret) message e).1.length = 64 := by
      simp only [standard, signWith, Edwards.sign, Edwards.encode, List.length_append, hbytes]
    omega

/-! ### Short certificates -/

/-- A draft that can be written, and whose parts take at most a thousand octets together with the
key that signs. -/
structure CertificateDraft.IsShort (d : CertificateDraft) (key : SecretKey) : Prop where
  times : d.isWritable = true
  parts : d.issuer.encode.length + d.subject.encode.length + d.key.encoded.length +
    (d.extensions.flatMap Extension.encode).length + key.publicKey.encoded.length ≤ 1000

instance (d : CertificateDraft) (key : SecretKey) : Decidable (d.IsShort key) :=
  decidable_of_iff (d.isWritable = true ∧ d.issuer.encode.length + d.subject.encode.length +
    d.key.encoded.length + (d.extensions.flatMap Extension.encode).length +
      key.publicKey.encoded.length ≤ 1000)
    ⟨fun h => ⟨h.1, h.2⟩, fun h => ⟨h.times, h.parts⟩⟩

namespace Issuance

variable {suite : Suite} (hsuite : suite.Modest) {now : Instant}

include hsuite

/-- A short certificate takes some thousand octets. -/
lemma length_certificate_le {key : SecretKey} {draft : CertificateDraft}
    (hserial : draft.serial < UInt64.size) (hshort : draft.IsShort key) (e : Entropy) :
    (Der.sign suite key (draft.body key.signatureAlgorithm) e).1.length ≤ 5000 := by
  have hparts := hshort.parts
  have hbody := draft.length_body_le hshort.times hserial key.length_signatureAlgorithm_le
    (Nat.le_of_add_right_le hparts) (by decide)
  exact (@Suite.Modest.length_sign_le suite hsuite key _ 2150 (by omega) (by decide) e).trans
    (by decide)

/-- It is made. -/
lemma certify_of_short {stage : Stage} {key : SecretKey} {draft : CertificateDraft}
    (hserial : draft.serial < UInt64.size) (hshort : draft.IsShort key) (e : Entropy) :
    certify suite stage key draft e = .ok
      (Pem.write ⟨Certificate.label, (Der.sign suite key (draft.body key.signatureAlgorithm) e).1⟩,
        (Der.sign suite key (draft.body key.signatureAlgorithm) e).2) :=
  certify_eq_ok_iff.mpr ⟨hshort.times,
    (length_certificate_le hsuite hserial hshort e).trans_lt (by decide), rfl, rfl⟩

/-- A short root is made, whatever its serial number. -/
lemma selfSign_of_short {request : Request} {keyText : String} {key : SecretKey}
    {names : List AltName} {lifetime : ℕ} {validity : Int × Int}
    (hkey : SecretKey.ofPem? keyText = some key)
    (hnames : altNames .selfSigning request.hosts = .ok names)
    (hlifetime : request.authorityExpiry = .ok lifetime)
    (hwindow : window now lifetime = .ok validity)
    (hshort : (rootDraft request key names validity 0).IsShort key) (e : Entropy) :
    selfSign suite now request keyText e = .ok
      (Pem.write ⟨Certificate.label, (Der.sign suite key
        ((rootDraft request key names validity (drawSerial e).1).body key.signatureAlgorithm)
          (drawSerial e).2).1⟩,
        (Der.sign suite key
          ((rootDraft request key names validity (drawSerial e).1).body key.signatureAlgorithm)
            (drawSerial e).2).2) := by
  refine selfSign_eq_ok_iff.mpr ⟨key, names, lifetime, validity, hkey, altNames_eq_ok_iff.mp hnames,
    hlifetime, hwindow, ?_⟩
  exact @certify_of_short suite hsuite _ key
    (rootDraft request key names validity (drawSerial e).1) (drawSerial_lt e)
    ⟨hshort.times, hshort.parts⟩ _

/-- A short leaf is made, whatever its serial number. -/
lemma sign_of_short {request : String} {hosts : List String} {lifetime : Int} {signer : Signer}
    {issuer : Issuer} {accepted : AcceptedRequest} {names : List AltName} {validity : Int × Int}
    (hissuer : loadIssuer signer = .ok issuer)
    (hrequest : loadRequest suite request = .ok accepted)
    (hnames : (if hosts.isEmpty then pure accepted.altNames else altNames .signing hosts) =
      .ok names)
    (hwindow : window now lifetime = .ok validity)
    (hshort : (leafDraft issuer accepted names validity 0).IsShort issuer.key) (e : Entropy) :
    sign suite now ⟨request, hosts, lifetime⟩ signer e = .ok
      (Pem.write ⟨Certificate.label, (Der.sign suite issuer.key
        ((leafDraft issuer accepted names validity (drawSerial e).1).body
          issuer.key.signatureAlgorithm) (drawSerial e).2).1⟩,
        (Der.sign suite issuer.key
          ((leafDraft issuer accepted names validity (drawSerial e).1).body
            issuer.key.signatureAlgorithm) (drawSerial e).2).2) := by
  refine (@sign_of_settled suite now ⟨request, hosts, lifetime⟩ signer e issuer accepted names
    validity hissuer hrequest hnames hwindow).trans ?_
  exact @certify_of_short suite hsuite _ issuer.key
    (leafDraft issuer accepted names validity (drawSerial e).1) (drawSerial_lt e)
    ⟨hshort.times, hshort.parts⟩ _

end Issuance

end LabTrust
