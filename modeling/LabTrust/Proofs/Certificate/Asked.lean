/-
Signing requests are read back.

* `SigningRequest.ofParts`: what is read of a request that was written: the parts that it was
  written from.
* `SigningRequest.Fits`: the octets of every part can be counted, because those of the whole can.
* `SigningRequest.read?_written`: then all of it is read.
* `Issuance.Built`: where the text of a request comes from, and what is read of it.
* `Issuance.accepted_of_buildRequest`: a request that was built asks for the names of its hosts, and
  these are taken over.
-/
import LabTrust.Proofs.Certificate.Leaf

namespace LabTrust

open Der (element length_lt_element readTag?_element)

namespace SigningRequest

variable {subject : DistinguishedName} {key : PublicKey} {names : List AltName}
  {extensions : List Extension} {algorithm : AlgorithmId} {signature : Bytes}

/-! ### Attributes -/

/-- An attribute as bytes: an identifier, and a value in a set. -/
def encodeAttribute (a : Bytes × Bytes) : Bytes :=
  element Der.sequence (element Der.objectId a.1 ++ element Der.set a.2)

lemma readAttribute?_encode {a : Bytes × Bytes} (h : (encodeAttribute a).length < UInt64.size)
    (rest : Bytes) : readAttribute? (encodeAttribute a ++ rest) = some (a, rest) := by
  have hbody := length_lt_element Der.sequence (element Der.objectId a.1 ++ element Der.set a.2)
  have hid := length_lt_element Der.objectId a.1
  have hset := length_lt_element Der.set a.2
  rw [List.length_append] at hbody
  rw [encodeAttribute] at h
  rw [encodeAttribute, readAttribute?,
    readTag?_element (by decide) (by rw [List.length_append]; omega)]
  simp only [Option.bind_eq_bind, Option.bind_some]
  rw [readTag?_element (by decide) (by omega)]
  simp only [Option.bind_some]
  rw [Der.readTag?_last (by decide) (by omega)]
  rfl

/-- The attributes that ask for extensions are read as these. -/
lemma readExtensions?_attributes (h : (attributes extensions).length < UInt64.size) :
    (Der.all? readAttribute? (attributes extensions)).bind readExtensions? = some extensions := by
  rw [attributes] at h ⊢
  by_cases hempty : extensions.isEmpty
  · rw [if_pos hempty, List.isEmpty_iff.mp hempty]
    rfl
  · rw [if_neg hempty] at h ⊢
    have hrow := length_lt_element Der.sequence (extensions.flatMap Extension.encode)
    have hset := length_lt_element Der.set
      (element Der.sequence (extensions.flatMap Extension.encode))
    have hwhole := length_lt_element Der.sequence (element Der.objectId extensionRequest ++
      element Der.set (element Der.sequence (extensions.flatMap Extension.encode)))
    rw [List.length_append] at hwhole
    have hattribute : Der.all? readAttribute?
        ([(extensionRequest, element Der.sequence (extensions.flatMap Extension.encode))].flatMap
          encodeAttribute) =
        some [(extensionRequest, element Der.sequence (extensions.flatMap Extension.encode))] := by
      refine Der.all?_flatMap (by rfl) (fun a ha => ?_) fun a _ => Der.element_ne_nil _ _
      obtain rfl := List.mem_singleton.mp ha
      exact readAttribute?_encode h
    rw [List.flatMap_singleton, encodeAttribute] at hattribute
    rw [hattribute, Option.bind_some, readExtensions?, List.lookup_cons_self]
    exact (congrArg (Option.bind · _) (Der.readTag?_last (by decide) (by omega))).trans
      (Extension.all?_encode (by omega))

/-- A value is shorter than the attributes that ask for its extension. -/
lemma length_value_lt_attributes {e : Extension} (he : e ∈ extensions) :
    e.value.length < (attributes extensions).length := by
  have hempty : extensions.isEmpty = false :=
    List.isEmpty_eq_false_iff.mpr (List.ne_nil_of_mem he)
  have hattribute := length_lt_element Der.sequence (element Der.objectId extensionRequest ++
    element Der.set (element Der.sequence (extensions.flatMap Extension.encode)))
  have hset := length_lt_element Der.set
    (element Der.sequence (extensions.flatMap Extension.encode))
  have hrow := length_lt_element Der.sequence (extensions.flatMap Extension.encode)
  have hone := Der.length_le_of_mem Extension.encode he
  have hvalue := e.length_value_lt
  rw [List.length_append] at hattribute
  simp only [attributes, hempty, Bool.false_eq_true, if_false]
  omega

/-! ### Requests -/

/-- What a written request says. -/
def ofParts (subject : DistinguishedName) (key : PublicKey) (names : List AltName)
    (algorithm : AlgorithmId) (signature : Bytes) : SigningRequest where
  body := bodyOf subject key names
  subject := subject
  key := key
  extensions := Extension.ofAltNames subject names
  algorithm := algorithm
  signature := signature

/-- The fields of the signed part, one after the other. -/
def fields (subject : DistinguishedName) (key : PublicKey) (names : List AltName) : Bytes :=
  Der.nat 0 ++ (subject.encode ++ (key.encoded ++
    element (Der.contextParts 0) (attributes (Extension.ofAltNames subject names))))

lemma bodyOf_eq : bodyOf subject key names = element Der.sequence (fields subject key names) := by
  simp only [bodyOf, fields, List.append_assoc]

/-- The octets of every part of a written request can be counted in eight. -/
structure Fits (subject : DistinguishedName) (key : PublicKey) (names : List AltName)
    (algorithm : AlgorithmId) (signature : Bytes) : Prop where
  whole : (bodyOf subject key names ++ (algorithm.encode ++ Der.bits signature)).length <
    UInt64.size
  fields : (fields subject key names).length < UInt64.size
  attributes : (attributes (Extension.ofAltNames subject names)).length < UInt64.size
  subject : subject.encode.length < UInt64.size
  key : key.encoded.length < UInt64.size
  algorithm : algorithm.encode.length < UInt64.size
  signature : (Der.bits signature).length < UInt64.size

/-- Every part is shorter than the whole. -/
lemma fits_of_length (h : (element Der.sequence (bodyOf subject key names ++ algorithm.encode ++
    Der.bits signature)).length < UInt64.size) : Fits subject key names algorithm signature := by
  rw [List.append_assoc] at h
  have hwhole := Nat.lt_trans (length_lt_element Der.sequence
    (bodyOf subject key names ++ (algorithm.encode ++ Der.bits signature))) h
  have hbody := length_lt_element Der.sequence (SigningRequest.fields subject key names)
  have hattributes := length_lt_element (Der.contextParts 0)
    (SigningRequest.attributes (Extension.ofAltNames subject names))
  have hparts := hwhole
  rw [List.length_append, bodyOf_eq, List.length_append] at hparts
  have hfields : (SigningRequest.fields subject key names).length < UInt64.size := by omega
  have hfields' := hfields
  simp only [SigningRequest.fields, List.length_append] at hfields'
  exact ⟨hwhole, hfields, by omega, by omega, by omega, by omega, by omega⟩

/-- A written request is read back. -/
lemma read?_written (hsubject : subject.WellFormed)
    (hkey : ∃ a bits, AlgorithmId.WellFormed a ∧ key = .make a bits)
    (halgorithm : algorithm.WellFormed) (h : Fits subject key names algorithm signature) :
    read? (element Der.sequence (bodyOf subject key names ++ algorithm.encode ++
      Der.bits signature)) = some (ofParts subject key names algorithm signature) := by
  have hreadBody : ∀ rest, Der.readTag? Der.sequence (bodyOf subject key names ++ rest) =
      some (fields subject key names, rest) := bodyOf_eq ▸ readTag?_element (by decide) h.fields
  have hreadVersion : ∀ rest, Der.readTag? Der.integer (Der.nat 0 ++ rest) =
      some (Der.natContent 0, rest) := readTag?_element (by decide) (by decide)
  have hreadSubject : ∀ rest, DistinguishedName.read? (subject.encode ++ rest) =
      some (subject, rest) := DistinguishedName.read?_encode hsubject h.subject
  have hreadKey : ∀ rest, PublicKey.read? (key.encoded ++ rest) = some (key, rest) :=
    PublicKey.read?_encoded hkey h.key
  have hreadAttributes : Der.readTag? (Der.contextParts 0) (element (Der.contextParts 0)
      (attributes (Extension.ofAltNames subject names))) =
        some (attributes (Extension.ofAltNames subject names), []) :=
    Der.readTag?_last (by decide) h.attributes
  obtain ⟨rows, hrows, hreadRows⟩ :=
    Option.bind_eq_some_iff.mp (readExtensions?_attributes h.attributes)
  have hreadAlgorithm : ∀ rest, AlgorithmId.read? (algorithm.encode ++ rest) =
      some (algorithm, rest) := AlgorithmId.read?_encode halgorithm h.algorithm
  rw [read?, List.append_assoc]
  refine Option.bind_eq_some_iff.mpr ⟨_, Der.readTag?_last (by decide) h.whole, ?_⟩
  refine Option.bind_eq_some_iff.mpr ⟨_, hreadBody _, ?_⟩
  refine Option.bind_eq_some_iff.mpr ⟨_, hreadVersion _, ?_⟩
  refine Option.bind_eq_some_iff.mpr ⟨_, (by rfl : Der.natOf? (Der.natContent 0) = some 0), ?_⟩
  refine Option.bind_eq_some_iff.mpr ⟨_, hreadSubject _, ?_⟩
  refine Option.bind_eq_some_iff.mpr ⟨_, hreadKey _, ?_⟩
  refine Option.bind_eq_some_iff.mpr ⟨_, hreadAttributes, ?_⟩
  refine Option.bind_eq_some_iff.mpr ⟨_, hrows, ?_⟩
  refine Option.bind_eq_some_iff.mpr ⟨_, hreadRows, ?_⟩
  refine Option.bind_eq_some_iff.mpr ⟨_, hreadAlgorithm _, ?_⟩
  refine Option.bind_eq_some_iff.mpr ⟨_, Der.readBits?_last h.signature, congrArg some ?_⟩
  simp only [Der.taken_append, ofParts]

/-- The names that a written request asks for. -/
lemma altNames?_ofParts (hnames : ∀ n ∈ names, n.IsGiven)
    (h : Fits subject key names algorithm signature) :
    (ofParts subject key names algorithm signature).altNames? = some names := by
  cases names with
  | nil => rfl
  | cons n rest =>
      have hextensions : Extension.ofAltNames subject (n :: rest) =
          [⟨Extension.altNames, subject.isEmpty, AltName.encodeList (n :: rest)⟩] := rfl
      have hvalue : (AltName.encodeList (n :: rest)).length <
          (attributes (Extension.ofAltNames subject (n :: rest))).length :=
        length_value_lt_attributes (hextensions ▸ List.mem_singleton_self _)
      have hread := AltName.readList?_encodeList hnames (hvalue.trans h.attributes)
      simp [altNames?, ofParts, hextensions, hread]

end SigningRequest

namespace Issuance

variable {suite : Suite} {request : Request} {keyText text : String} {e e' : Entropy}

/-- When a request is built, and what it is then. -/
lemma buildRequest_eq_ok_iff : buildRequest suite request keyText e = .ok (text, e') ↔
    ∃ key names, SecretKey.ofPem? keyText = some key ∧
      List.Forall₂ (fun host n => AltName.ofHost? host = some n) request.hosts names ∧
      (Der.sign suite key
        (SigningRequest.bodyOf request.subject key.publicKey names) e).1.length < UInt64.size ∧
      text = Pem.write ⟨requestLabel, (Der.sign suite key
        (SigningRequest.bodyOf request.subject key.publicKey names) e).1⟩ ∧
      e' = (Der.sign suite key
        (SigningRequest.bodyOf request.subject key.publicKey names) e).2 := by
  refine ⟨fun h => ?_, ?_⟩
  · obtain ⟨key, hkey, h⟩ := Except.bind_eq_ok_iff.mp h
    obtain ⟨names, hnames, h⟩ := Except.bind_eq_ok_iff.mp h
    obtain ⟨text', htext, h⟩ := Except.bind_eq_ok_iff.mp h
    obtain ⟨rfl, rfl⟩ := Prod.mk.inj (Except.ok.inj h)
    rw [publish] at htext
    split at htext
    · next hsize =>
      exact ⟨key, names, loadKey_eq_ok_iff.mp hkey, altNames_eq_ok_iff.mp hnames, hsize,
        (Except.ok.inj htext).symm, rfl⟩
    · simp at htext
  · rintro ⟨key, names, hkey, hnames, hsize, rfl, rfl⟩
    refine Except.bind_eq_ok_iff.mpr ⟨key, loadKey_eq_ok_iff.mpr hkey, ?_⟩
    refine Except.bind_eq_ok_iff.mpr ⟨names, altNames_eq_ok_iff.mpr hnames, ?_⟩
    exact Except.bind_eq_ok_iff.mpr ⟨_, if_pos hsize, rfl⟩

/-- What is known of a request that was built. -/
structure Built (suite : Suite) (request : Request) (keyText : String) (e : Entropy) (text : String)
    (key : SecretKey) (names : List AltName) : Prop where
  keyRead : SecretKey.ofPem? keyText = some key
  hosts : List.Forall₂ (fun host n => AltName.ofHost? host = some n) request.hosts names
  size : (Der.sign suite key
    (SigningRequest.bodyOf request.subject key.publicKey names) e).1.length < UInt64.size
  text : text = Pem.write ⟨requestLabel, (Der.sign suite key
    (SigningRequest.bodyOf request.subject key.publicKey names) e).1⟩

lemma exists_built (h : buildRequest suite request keyText e = .ok (text, e')) :
    ∃ key names, Built suite request keyText e text key names := by
  obtain ⟨key, names, hkey, hnames, hsize, htext, -⟩ := buildRequest_eq_ok_iff.mp h
  exact ⟨key, names, hkey, hnames, hsize, htext⟩

/-- A short request is built. -/
lemma built_of_short (hsuite : suite.Modest) {key : SecretKey} {names : List AltName}
    (hkey : SecretKey.ofPem? keyText = some key)
    (hnames : altNames .requestBuild request.hosts = .ok names)
    (hbody : (SigningRequest.bodyOf request.subject key.publicKey names).length +
      key.publicKey.encoded.length ≤ 1000) (e : Entropy) :
    Built suite request keyText e (Pem.write ⟨requestLabel, (Der.sign suite key
      (SigningRequest.bodyOf request.subject key.publicKey names) e).1⟩) key names :=
  ⟨hkey, altNames_eq_ok_iff.mp hnames,
    (hsuite.length_sign_le hbody (by decide) e).trans_lt (by decide), rfl⟩

namespace Built

variable {key : SecretKey} {names : List AltName}

lemma buildRequest_eq (h : Built suite request keyText e text key names) :
    buildRequest suite request keyText e = .ok (text, (Der.sign suite key
      (SigningRequest.bodyOf request.subject key.publicKey names) e).2) :=
  buildRequest_eq_ok_iff.mpr ⟨key, names, h.keyRead, h.hosts, h.size, h.text, rfl⟩

lemma fits (h : Built suite request keyText e text key names) :
    SigningRequest.Fits request.subject key.publicKey names key.signatureAlgorithm
      (suite.sign key (SigningRequest.bodyOf request.subject key.publicKey names) e).1 :=
  SigningRequest.fits_of_length h.size

/-- A request that was built is read back as its parts. -/
lemma ofText?_eq (h : Built suite request keyText e text key names) :
    SigningRequest.ofText? text = some (.ofParts request.subject key.publicKey names
      key.signatureAlgorithm
        (suite.sign key (SigningRequest.bodyOf request.subject key.publicKey names) e).1) := by
  rw [h.text, SigningRequest.ofText?, read?_request, Option.bind_some]
  exact SigningRequest.read?_written request.wellFormed_subject
    ⟨_, _, wellFormed_algorithm key, rfl⟩ (wellFormed_signatureAlgorithm key) h.fits

end Built

/-- The names that are taken over from a request that was built are those of its hosts. -/
lemma accepted_of_buildRequest {accepted : AcceptedRequest}
    (h : buildRequest suite request keyText e = .ok (text, e'))
    (haccepted : loadRequest suite text = .ok accepted) :
    List.Forall₂ (fun host n => AltName.ofHost? host = some n) request.hosts accepted.altNames := by
  obtain ⟨key, names, hbuilt⟩ := exists_built h
  obtain ⟨r, hr, haccept⟩ := exists_request_of_loadRequest haccepted
  obtain rfl := Option.some.inj (hbuilt.ofText?_eq.symm.trans hr)
  obtain ⟨-, hasked, -, -⟩ := SigningRequest.accept?_eq_some haccept
  have hnames := SigningRequest.altNames?_ofParts (AltName.isGiven_of_forall₂ hbuilt.hosts)
    hbuilt.fits
  rw [Option.some.inj (hasked.symm.trans hnames)]
  exact hbuilt.hosts

end Issuance

end LabTrust
