/-
Signed certificates are read back.

* `CertificateDraft.Readable`: what a draft needs for that: names and a key that can be read back,
  and times whose years have four digits.
* `CertificateDraft.Fits`: the octets of every part can be counted, because those of the whole can.
* `Certificate.ofDraft`: what is then read of a signed draft: all that the draft says, the bytes
  that the signature covers, and the signature.
* `Certificate.read?_signed`: it is.
-/
import LabTrust.Certificate.Issuance
import LabTrust.Proofs.Certificate.Parts

namespace LabTrust

open Der (element length_lt_element readTag?_element)

/-- A draft whose parts can be read back once they are written. -/
structure CertificateDraft.Readable (d : CertificateDraft) : Prop where
  issuer : d.issuer.WellFormed
  subject : d.subject.WellFormed
  key : ∃ algorithm bits, algorithm.WellFormed ∧ d.key = .make algorithm bits
  times : d.isWritable = true

namespace CertificateDraft

variable {d : CertificateDraft}

lemma Readable.readTimes (h : d.Readable) (rest : Bytes) :
    Der.readTime? (Der.time d.notBefore ++ rest) = some (d.notBefore, rest) ∧
      Der.readTime? (Der.time d.notAfter ++ rest) = some (d.notAfter, rest) := by
  have htimes := h.times
  simp only [isWritable, List.all_cons, List.all_nil, Bool.and_true, Bool.and_eq_true,
    decide_eq_true_eq] at htimes
  obtain ⟨⟨hlow, hhigh⟩, hlow', hhigh'⟩ := htimes
  exact ⟨Der.readTime?_time hlow hhigh rest, Der.readTime?_time hlow' hhigh' rest⟩

/-- The fields of the signed part, one after the other. -/
def fields (d : CertificateDraft) (algorithm : AlgorithmId) : Bytes :=
  element (Der.contextParts 0) (Der.nat 2) ++ (Der.nat d.serial ++ (algorithm.encode ++
    (d.issuer.encode ++ (element Der.sequence (Der.time d.notBefore ++ Der.time d.notAfter) ++
      (d.subject.encode ++ (d.key.encoded ++
        element (Der.contextParts 3) (element Der.sequence
          (d.extensions.flatMap Extension.encode))))))))

lemma body_eq (algorithm : AlgorithmId) :
    d.body algorithm = element Der.sequence (d.fields algorithm) := by
  simp only [body, fields, List.append_assoc]

/-- The octets of every part of a signed draft can be counted in eight. -/
structure Fits (d : CertificateDraft) (algorithm : AlgorithmId) (signature : Bytes) : Prop where
  whole : (d.body algorithm ++ (algorithm.encode ++ Der.bits signature)).length < UInt64.size
  fields : (d.fields algorithm).length < UInt64.size
  serial : (Der.natContent d.serial).length < UInt64.size
  algorithm : algorithm.encode.length < UInt64.size
  issuer : d.issuer.encode.length < UInt64.size
  validity : (Der.time d.notBefore ++ Der.time d.notAfter).length < UInt64.size
  subject : d.subject.encode.length < UInt64.size
  key : d.key.encoded.length < UInt64.size
  extensions : (element (Der.contextParts 3) (element Der.sequence
    (d.extensions.flatMap Extension.encode))).length < UInt64.size
  signature : (Der.bits signature).length < UInt64.size

/-- Every part is shorter than the whole. -/
lemma fits_of_length {algorithm : AlgorithmId} {signature : Bytes}
    (h : (element Der.sequence (d.body algorithm ++
      (algorithm.encode ++ Der.bits signature))).length < UInt64.size) :
    d.Fits algorithm signature := by
  have hcontent := length_lt_element Der.sequence
    (d.body algorithm ++ (algorithm.encode ++ Der.bits signature))
  have hbody := length_lt_element Der.sequence (d.fields algorithm)
  have hserial := length_lt_element Der.integer (Der.natContent d.serial)
  have hvalidity := length_lt_element Der.sequence (Der.time d.notBefore ++ Der.time d.notAfter)
  have hwhole := Nat.lt_trans hcontent h
  have hparts := hwhole
  rw [List.length_append, body_eq, List.length_append] at hparts
  have hfields : (d.fields algorithm).length < UInt64.size := by omega
  have hfields' := hfields
  simp only [CertificateDraft.fields, List.length_append, Der.nat] at hfields'
  exact ⟨hwhole, hfields, by omega, by omega, by omega, by omega, by omega, by omega, by omega,
    by omega⟩

end CertificateDraft

namespace Certificate

/-- What a signed draft says. -/
def ofDraft (d : CertificateDraft) (algorithm : AlgorithmId) (signature : Bytes) : Certificate where
  body := d.body algorithm
  version := 2
  serial := Der.natContent d.serial
  issuer := d.issuer
  notBefore := d.notBefore
  notAfter := d.notAfter
  subject := d.subject
  key := d.key
  extensions := d.extensions
  algorithm := algorithm
  signature := signature

/-- The version that is written is the third, which is counted from zero. -/
lemma readVersion?_written (rest : Bytes) :
    readVersion? (element (Der.contextParts 0) (Der.nat 2) ++ rest) = some (2, rest) := by
  have hversion : Der.readTag? Der.integer (Der.nat 2) = some ([2], []) := by decide
  rw [readVersion?, Der.read?_short (by decide) (by decide)]
  simp only [if_true, hversion, Option.bind_eq_bind, Option.bind_some]
  rfl

/-- Extensions at the end of the signed part. -/
lemma readExtensions?_written {extensions : List Extension}
    (h : (element (Der.contextParts 3) (element Der.sequence
      (extensions.flatMap Extension.encode))).length < UInt64.size) :
    readExtensions? (element (Der.contextParts 3) (element Der.sequence
      (extensions.flatMap Extension.encode))) = some extensions := by
  have hbody := length_lt_element (Der.contextParts 3)
    (element Der.sequence (extensions.flatMap Extension.encode))
  have hrow := length_lt_element Der.sequence (extensions.flatMap Extension.encode)
  rw [readExtensions?]
  simp only [Der.element_ne_nil, if_false, Option.bind_eq_bind]
  rw [Der.read?_last (by decide) (by omega)]
  simp only [Option.bind_some, if_true]
  rw [Der.readTag?_last (by decide) (by omega)]
  exact Extension.all?_encode (by omega)

/-- Where no identifier of the issuer or the subject stands, none is skipped. -/
lemma skipUniqueId?_of_ne {tag : UInt8} {content : Bytes} (h : content.length < UInt64.size)
    (hne : Der.contextParts 3 ≠ tag) :
    skipUniqueId? tag (element (Der.contextParts 3) content) =
      some (element (Der.contextParts 3) content) := by
  rw [skipUniqueId?, Der.readTag?_last_of_ne (by decide) h hne]

/-- A signed draft is read back. -/
lemma read?_signed {d : CertificateDraft} (hd : d.Readable) {algorithm : AlgorithmId}
    (halgorithm : algorithm.WellFormed) {signature : Bytes}
    (h : (element Der.sequence (d.body algorithm ++ algorithm.encode ++
      Der.bits signature)).length < UInt64.size) :
    read? (element Der.sequence (d.body algorithm ++ algorithm.encode ++ Der.bits signature)) =
      some (ofDraft d algorithm signature) := by
  rw [List.append_assoc] at h
  have hfits := CertificateDraft.fits_of_length h
  have hreadBody : ∀ rest, Der.readTag? Der.sequence (d.body algorithm ++ rest) =
      some (d.fields algorithm, rest) :=
    CertificateDraft.body_eq algorithm ▸ readTag?_element (by decide) hfits.fields
  have hreadSerial : ∀ rest, Der.readTag? Der.integer (Der.nat d.serial ++ rest) =
      some (Der.natContent d.serial, rest) := readTag?_element (by decide) hfits.serial
  have hreadAlgorithm : ∀ rest, AlgorithmId.read? (algorithm.encode ++ rest) =
      some (algorithm, rest) := AlgorithmId.read?_encode halgorithm hfits.algorithm
  have hreadIssuer : ∀ rest, DistinguishedName.read? (d.issuer.encode ++ rest) =
      some (d.issuer, rest) := DistinguishedName.read?_encode hd.issuer hfits.issuer
  have hreadValidity : ∀ rest, Der.readTag? Der.sequence (element Der.sequence
      (Der.time d.notBefore ++ Der.time d.notAfter) ++ rest) =
        some (Der.time d.notBefore ++ Der.time d.notAfter, rest) :=
    readTag?_element (by decide) hfits.validity
  have hnotAfter := (hd.readTimes []).2
  rw [List.append_nil] at hnotAfter
  have hreadSubject : ∀ rest, DistinguishedName.read? (d.subject.encode ++ rest) =
      some (d.subject, rest) := DistinguishedName.read?_encode hd.subject hfits.subject
  have hreadKey : ∀ rest, PublicKey.read? (d.key.encoded ++ rest) = some (d.key, rest) :=
    PublicKey.read?_encoded hd.key hfits.key
  have hextensions := length_lt_element (Der.contextParts 3)
    (element Der.sequence (d.extensions.flatMap Extension.encode))
  have hskip : ∀ tag, Der.contextParts 3 ≠ tag → skipUniqueId? tag (element (Der.contextParts 3)
      (element Der.sequence (d.extensions.flatMap Extension.encode))) =
        some (element (Der.contextParts 3) (element Der.sequence
          (d.extensions.flatMap Extension.encode))) :=
    fun tag => skipUniqueId?_of_ne (Nat.lt_trans hextensions hfits.extensions)
  -- the whole
  rw [read?, List.append_assoc]
  refine Option.bind_eq_some_iff.mpr ⟨_, Der.readTag?_last (by decide) hfits.whole, ?_⟩
  refine Option.bind_eq_some_iff.mpr ⟨_, hreadBody _, ?_⟩
  refine Option.bind_eq_some_iff.mpr ⟨_, readVersion?_written _, ?_⟩
  refine Option.bind_eq_some_iff.mpr ⟨_, hreadSerial _, ?_⟩
  refine Option.bind_eq_some_iff.mpr ⟨_, hreadAlgorithm _, ?_⟩
  refine Option.bind_eq_some_iff.mpr ⟨_, hreadIssuer _, ?_⟩
  refine Option.bind_eq_some_iff.mpr ⟨_, hreadValidity _, ?_⟩
  refine Option.bind_eq_some_iff.mpr ⟨_, (hd.readTimes _).1, ?_⟩
  refine Option.bind_eq_some_iff.mpr ⟨_, hnotAfter, ?_⟩
  refine Option.bind_eq_some_iff.mpr ⟨_, hreadSubject _, ?_⟩
  refine Option.bind_eq_some_iff.mpr ⟨_, hreadKey _, ?_⟩
  refine Option.bind_eq_some_iff.mpr ⟨_, hskip (Der.context 1) (by decide), ?_⟩
  refine Option.bind_eq_some_iff.mpr ⟨_, hskip (Der.context 2) (by decide), ?_⟩
  refine Option.bind_eq_some_iff.mpr ⟨_, readExtensions?_written hfits.extensions, ?_⟩
  refine Option.bind_eq_some_iff.mpr ⟨_, hreadAlgorithm _, ?_⟩
  refine Option.bind_eq_some_iff.mpr ⟨_, Der.readBits?_last hfits.signature, congrArg some ?_⟩
  simp only [Der.taken_append, ofDraft]

end Certificate

end LabTrust
