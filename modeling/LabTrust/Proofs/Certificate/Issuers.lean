/-
Leaves and the certificates of those who sign them.

A leaf repeats the name of its issuer, but not as it stands in the certificate of the issuer: the
attributes are pushed one by one into a name where each type stands once, so a second attribute of a
type takes the place of the first.
* `Attribute.exists_text?`: attributes that are copied can be read by people.
* `DistinguishedName.text_copy?_iff`: a copy reads as the name it was made of if and only if no type
  of attribute stands twice in that.
* `PublicKey.IsHalfOf`, `Suite.Reliable`: public keys that go with a private one, and signatures that
  are found good under all of them.
* `Issuance.checkIssuedBy_iff`: when a leaf is found to be issued by the one who signed it.
-/
import LabTrust.Proofs.Certificate.Answered

namespace LabTrust

open Der (element length_lt_element)

/-! ### Texts of attributes -/

namespace Bytes

variable {bs : Bytes}

/-- Bytes of ASCII characters spell these characters. -/
lemma ofText_of_ascii (h : ∀ b ∈ bs, b < 0x80) :
    ofText (String.ofList (bs.map fun b => Char.ofNat b.toNat)) = bs := by
  have hone : ∀ n < 128, String.utf8EncodeChar (Char.ofNat n) = [UInt8.ofNat n] := by decide
  rw [ofText, String.toList_ofList, ofChars, List.flatMap_map]
  induction bs with
  | nil => rfl
  | cons b rest ih =>
      have hb : b.toNat < 128 := h b List.mem_cons_self
      rw [List.flatMap_cons, hone _ hb, ih fun b hb => h b (List.mem_cons_of_mem _ hb),
        UInt8.ofNat_toNat]
      rfl

lemma exists_text?_of_ascii (h : ∀ b ∈ bs, b < 0x80) : ∃ s, bs.text? = some s :=
  ⟨_, (congrArg text? (ofText_of_ascii h)).symm.trans (text?_ofText _)⟩

end Bytes

namespace Attribute

variable {a : Attribute}

lemma lt_of_isPrintable {b : UInt8} (h : isPrintable b = true) : b < 0x80 := by
  have hall : ∀ n < 256, isPrintable (UInt8.ofNat n) = true → n < 128 := by decide +kernel
  have hb := hall b.toNat b.toNat_lt
  rw [UInt8.ofNat_toNat] at hb
  exact hb h

/-- Units that are characters by themselves can be read. -/
lemma exists_unitChars? {us : List Nat} (h : ∀ u ∈ us, ¬ (0xd800 ≤ u ∧ u < 0xe000)) :
    ∃ s, unitChars? us = some s := by
  induction us with
  | nil => exact ⟨[], rfl⟩
  | cons u rest ih =>
      have hu := h u List.mem_cons_self
      cases rest with
      | nil => exact ⟨[Char.ofNat u], by rw [unitChars?, if_neg hu]⟩
      | cons v rest =>
          obtain ⟨s, hs⟩ := ih fun w hw => h w (List.mem_cons_of_mem u hw)
          exact ⟨Char.ofNat u :: s, by rw [unitChars?, if_neg hu, hs]; rfl⟩

lemma not_surrogate_of_areUnits {bs : Bytes} (h : areUnits bs = true) :
    ∀ u ∈ units bs, ¬ (0xd800 ≤ u ∧ u < 0xe000) := by
  induction bs using areUnits.induct with
  | case1 => simp [units]
  | case2 a b rest ih =>
      rw [areUnits, Bool.and_eq_true, decide_eq_true_iff] at h
      refine List.forall_mem_cons.mpr ⟨fun hu => ?_, ih h.2⟩
      have hvalid := h.1
      have hnumber : Bytes.toNat [a, b] = 256 * a.toNat + b.toNat := by simp [Bytes.toNat]
      rw [hnumber, Nat.isValidChar] at hvalid
      omega
  | case3 bs hnil hcons =>
      rcases bs with _ | ⟨a, _ | ⟨b, rest⟩⟩
      · exact absurd rfl hnil
      · simp [areUnits] at h
      · exact absurd rfl (hcons a b rest)

/-- The value of an attribute that can be written can be read. -/
lemma exists_valueText? (h : a.isWritable = true) : ∃ v, a.valueText? = some v := by
  have hoctets : octetStrings.contains a.tag = true → (∃ s, a.value.text? = some s) →
      ∃ v, a.valueText? = some v := by
    intro htag htext
    rwa [valueText?, if_pos htag]
  rw [isWritable] at h
  split at h
  · next htag => exact hoctets (htag ▸ by decide) (Option.isSome_iff_exists.mp h)
  split at h
  · next htag =>
    exact hoctets (htag ▸ by decide)
      (Bytes.exists_text?_of_ascii fun b hb => lt_of_isPrintable (List.all_eq_true.mp h b hb))
  split at h
  · next htag =>
    exact hoctets (htag ▸ by decide)
      (Bytes.exists_text?_of_ascii fun b hb => by simpa using List.all_eq_true.mp h b hb)
  split at h
  · next htag =>
    refine hoctets (htag ▸ by decide) (Bytes.exists_text?_of_ascii fun b hb => ?_)
    have hb := List.all_eq_true.mp h b hb
    simp only [decide_eq_true_eq, UInt8.le_iff_toNat_le] at hb
    exact Nat.lt_succ_of_le hb.2
  split at h
  · next htag =>
    obtain ⟨s, hs⟩ := exists_unitChars? (not_surrogate_of_areUnits h)
    exact ⟨String.ofList s, by rw [valueText?, htag, if_neg (by decide), if_pos rfl, hs]; rfl⟩
  split at h
  · next htag =>
    exact ⟨_, by rw [valueText?, htag, if_neg (by decide), if_neg (by decide)]⟩
  · simp at h

/-- An attribute that can be written has a text, and this is not empty. -/
lemma exists_text? (h : a.isWritable = true) : ∃ t, a.text? = some t ∧ 0 < t.length := by
  obtain ⟨v, hv⟩ := exists_valueText? h
  refine ⟨_, by rw [text?, hv, Option.map_some], ?_⟩
  have hsign : ("=" : String).length = 1 := rfl
  rw [String.length_append, String.length_append]
  omega

end Attribute

/-! ### Copies of names -/

namespace DistinguishedName

/-- Texts with marks between them, the first one not empty. -/
lemma toList_joinWith_cons {mark t : String} (ht : t ≠ "") (texts : List String) :
    (joinWith mark (t :: texts)).toList =
      t.toList ++ texts.flatMap fun u => mark.toList ++ u.toList := by
  rw [joinWith, List.foldl_cons, if_pos rfl]
  induction texts generalizing t with
  | nil => simp
  | cons u rest ih =>
      have hne : t ++ mark ++ u ≠ "" := by simp [ht]
      rw [List.foldl_cons, if_neg ht, ih hne, List.flatMap_cons, String.toList_append,
        String.toList_append]
      simp only [List.append_assoc]

/-- The length of texts with marks between them. -/
lemma length_joinWith (mark : String) {texts : List String} (h : ∀ t ∈ texts, 0 < t.length) :
    (joinWith mark texts).length =
      (texts.map fun t => t.length + mark.length).sum - mark.length := by
  cases texts with
  | nil => simp [joinWith]
  | cons t rest =>
      have ht : t ≠ "" := fun hempty => absurd (h t List.mem_cons_self) (by simp [hempty])
      have hrest : (rest.map fun u => (mark.toList ++ u.toList).length) =
          rest.map fun u => u.length + mark.length :=
        List.map_congr_left fun u _ => by
          rw [List.length_append, String.length_toList, String.length_toList, Nat.add_comm]
      rw [← String.length_toList, toList_joinWith_cons ht, List.length_append, List.length_flatMap,
        hrest, String.length_toList, List.map_cons, List.sum_cons]
      omega

/-- The text of a name whose attributes all have texts. -/
lemma text_eq_joinWith {n : DistinguishedName} (h : ∀ set ∈ n, ∀ a ∈ set, ∃ t, a.text? = some t) :
    n.text =
      joinWith ", " (n.map fun set => joinWith " + " (set.map fun a => a.text?.getD "")) := by
  have hset : ∀ set ∈ n, set.mapM Attribute.text? = some (set.map fun a => a.text?.getD "") := by
    intro set hset
    rw [Option.mapM_eq_some_iff, List.forall₂_map_right_iff, List.forall₂_same]
    intro a ha
    obtain ⟨t, ht⟩ := h set hset a ha
    rw [ht, Option.getD_some]
  have htext : n.text? = some
      (joinWith ", " (n.map fun set => joinWith " + " (set.map fun a => a.text?.getD ""))) := by
    refine Option.bind_eq_some_iff.mpr ⟨_, Option.mapM_eq_some_iff.mpr ?_, rfl⟩
    rw [List.forall₂_map_right_iff, List.forall₂_same]
    intro set hmem
    rw [hset set hmem]
    rfl
  rw [text, htext, Option.getD_some]

variable {attributes kept : List Attribute}

/-- The text of a name with one attribute in each set. -/
lemma text_of_isWritable (h : ∀ a ∈ attributes, a.isWritable = true) :
    text (attributes.map fun a => [a]) =
      joinWith ", " (attributes.map fun a => a.text?.getD "") := by
  have htexts : ∀ set ∈ attributes.map fun a => [a], ∀ a ∈ set, ∃ t, a.text? = some t := by
    intro set hset a ha
    obtain ⟨b, hb, rfl⟩ := List.mem_map.mp hset
    obtain rfl := List.mem_singleton.mp ha
    obtain ⟨t, ht, -⟩ := Attribute.exists_text? (h a hb)
    exact ⟨t, ht⟩
  rw [text_eq_joinWith htexts, List.map_map]
  exact congrArg _ (List.map_congr_left fun a _ => by simp [joinWith])

/-- What is kept and what is dropped are what there was. -/
lemma exists_perm_push (a : Attribute) (kept : List Attribute) :
    ∃ dropped, (a.push kept ++ dropped).Perm (a :: kept) := by
  induction kept with
  | nil => exact ⟨[], .refl _⟩
  | cons b rest ih =>
      rw [Attribute.push]
      split
      · exact ⟨[b], List.Perm.cons a (List.perm_append_singleton b rest)⟩
      · obtain ⟨dropped, hdropped⟩ := ih
        exact ⟨dropped, (hdropped.cons b).trans (.swap a b rest)⟩

lemma exists_perm_foldl_push (attributes kept : List Attribute) :
    ∃ dropped, (attributes.foldl (fun kept a => a.push kept) kept ++ dropped).Perm
      (attributes ++ kept) := by
  induction attributes generalizing kept with
  | nil => exact ⟨[], by simp⟩
  | cons a rest ih =>
      obtain ⟨later, hlater⟩ := ih (a.push kept)
      obtain ⟨dropped, hdropped⟩ := exists_perm_push a kept
      refine ⟨later ++ dropped, ?_⟩
      rw [List.foldl_cons, ← List.append_assoc]
      refine (hlater.append_right dropped).trans ?_
      rw [List.append_assoc, List.cons_append]
      exact (hdropped.append_left rest).trans List.perm_middle

/-- A name of which nothing is dropped has each type once. -/
lemma nodup_of_text_eq (h : ∀ a ∈ attributes, a.isWritable = true)
    (htext : (ofAttributes attributes).text = text (attributes.map fun a => [a])) :
    (attributes.map Attribute.id).Nodup := by
  obtain ⟨hnodup, -⟩ := foldl_push attributes [] List.nodup_nil
  obtain ⟨dropped, hperm⟩ := exists_perm_foldl_push attributes []
  rw [List.append_nil] at hperm
  rw [ofAttributes] at htext
  generalize attributes.foldl (fun kept a => a.push kept) [] = kept at hnodup hperm htext
  have hboth : ∀ a ∈ kept ++ dropped, a.isWritable = true := fun a ha => h a (hperm.subset ha)
  have hkept : ∀ a ∈ kept, a.isWritable = true := fun a ha => hboth a (List.mem_append_left _ ha)
  have hpos : ∀ a : Attribute, a.isWritable = true → 0 < (a.text?.getD "").length := by
    intro a ha
    obtain ⟨t, ht, hpos⟩ := Attribute.exists_text? ha
    rwa [ht, Option.getD_some]
  -- a dropped attribute would be missed in the length of the text
  have hlength := congrArg String.length htext
  rw [text_of_isWritable hkept, text_of_isWritable h,
    length_joinWith _ (List.forall_mem_map.mpr fun a ha => hpos a (hkept a ha)),
    length_joinWith _ (List.forall_mem_map.mpr fun a ha => hpos a (h a ha)), List.map_map,
    List.map_map, ← (hperm.map _).sum_nat, List.map_append, List.sum_append_nat] at hlength
  cases dropped with
  | nil =>
      rw [List.append_nil] at hperm
      exact (hperm.map _).nodup_iff.mp hnodup
  | cons a rest =>
      have ha := hpos a (hboth a (List.mem_append_right _ List.mem_cons_self))
      simp only [List.map_cons, List.sum_cons, Function.comp_apply] at hlength
      omega

/-- A copy reads as the name it was made of if and only if no type of attribute stands twice. -/
lemma text_copy?_iff {n m : DistinguishedName} (h : n.copy? = some m) :
    m.text = n.text ↔ (n.flatten.map Attribute.id).Nodup := by
  obtain ⟨attributes, hmap, rfl⟩ := Option.map_eq_some_iff.mp h
  obtain ⟨rfl, hwritable⟩ := mapM_copyOne?_eq_some_iff.mp hmap
  have hflatten : (attributes.map fun a => [a]).flatten = attributes :=
    List.flatMap_def.symm.trans (List.flatMap_singleton' attributes)
  rw [hflatten]
  refine ⟨nodup_of_text_eq hwritable, fun hnodup => ?_⟩
  rw [ofAttributes, foldl_push_of_nodup attributes [] hnodup, List.nil_append]

end DistinguishedName

/-! ### Keys that go with others -/

/-- The public half of a private key: its bits, for the same curve. -/
def PublicKey.IsHalfOf (p : PublicKey) (key : SecretKey) : Prop :=
  p.bits = key.publicKey.bits ∧ p.algorithm.curve? = key.algorithm.curve?

namespace Suite

/-- Signatures made with a key that some text holds are found good under every public half of it. -/
def Reliable (suite : Suite) : Prop :=
  ∀ text key p, SecretKey.ofPem? text = some key → p.IsHalfOf key → ∀ message e,
    suite.verify key.scheme p message (suite.sign key message e).1 = true

/-- Nothing but bits and curve of a public key counts for the signatures of the standards. -/
lemma reliable_standard (h : standard.Sound) : standard.Reliable := by
  intro text key p hkey hhalf message e
  obtain ⟨hbits, hcurve⟩ := hhalf
  have hsame : ∀ scheme signature, Scheme.verify scheme p message signature =
      Scheme.verify scheme key.publicKey message signature := by
    intro scheme signature
    have hcurve' : p.algorithm.curve? = key.publicKey.algorithm.curve? := hcurve
    cases scheme <;> simp only [Scheme.verify, hbits, hcurve']
  exact (hsame _ _).trans (h text key hkey message e)

/-- Signatures that put the bits of the public key before the message. -/
def marked : Suite where
  sign key message e := (key.publicKey.bits ++ message, e)
  verify _ p message signature := signature == p.bits ++ message

lemma reliable_marked : marked.Reliable := by
  intro text key p _ hhalf message e
  exact beq_iff_eq.mpr (congrArg (· ++ message) hhalf.1.symm)

lemma modest_marked : marked.Modest := by
  intro key message e
  have hlength : (marked.sign key message e).1.length =
      key.publicKey.bits.length + message.length := List.length_append
  have hbits : (0 :: key.publicKey.bits).length < (Der.bits key.publicKey.bits).length :=
    length_lt_element _ _
  have hkey : (key.algorithm.encode ++ Der.bits key.publicKey.bits).length <
      key.publicKey.encoded.length := length_lt_element _ _
  rw [List.length_append] at hkey
  rw [List.length_cons] at hbits
  omega

end Suite

namespace Issuance

/-- When a leaf is signed with a certificate and a key, wherever these come from, and the public key
of the certificate is the public half of the key, then the leaf is found to be issued by the
certificate if and only if no type of attribute stands twice in the subject of that. (Signing does
not look at the label of the certificate's text, checking does.) -/
theorem checkIssuedBy_iff (suite : Suite) (hsuite : suite.Reliable) (now : Instant)
    (order : SigningOrder) (signer : Signer) (e e' : Entropy) (text : String)
    (h : sign suite now order signer e = .ok (text, e')) :
    ∃ block authority key, Pem.read? signer.certificate.toList = some block ∧
      Certificate.read? block.content = some authority ∧
      SecretKey.ofPem? signer.key = some key ∧
      (authority.key.IsHalfOf key →
        (Certificate.checkIssuedBy suite text signer.certificate = .ok () ↔
          block.label = Certificate.label ∧
            (authority.subject.flatten.map Attribute.id).Nodup)) := by
  obtain ⟨leaf, issuer, accepted, names, validity, hsettled⟩ := exists_settled h
  obtain ⟨hkey, hissuer⟩ := loadIssuer_eq_ok_iff.mp hsettled.loadIssuer
  obtain ⟨block, authority, hblock, hauthority, hname, -⟩ := issuer?_eq_some_iff.mp hissuer
  refine ⟨block, authority, issuer.key, hblock, hauthority, hkey, fun hhalf => ?_⟩
  have hsigned : Certificate.isSignedBy suite leaf authority = true :=
    hsettled.isSignedBy (hsuite signer.key issuer.key authority.key hkey hhalf)
  rw [Certificate.checkIssuedBy_eq_ok_iff hsettled.held hblock hauthority hsigned,
    hsettled.issuer_eq, DistinguishedName.text_copy?_iff hname]

/-! ### Subjects of other authorities -/

/-- A certificate with a subject, for the key of a root. -/
def foreignRoot (subject : DistinguishedName) : CertificateDraft :=
  { root with issuer := subject, subject }

/-- The holder as one who signs. Nothing looks at the signature of the certificate. -/
def foreignSigner (subject : DistinguishedName) : Signer :=
  ⟨Pem.write ⟨Certificate.label, element Der.sequence
    ((foreignRoot subject).body rootKey.signatureAlgorithm ++ rootKey.signatureAlgorithm.encode ++
      Der.bits [])⟩, rootKey.toPem⟩

/-- The certificate. -/
def foreignCertificate (subject : DistinguishedName) : Certificate :=
  .ofDraft (foreignRoot subject) rootKey.signatureAlgorithm []

/-- A request without a name and without hosts. -/
def bareRequest : String :=
  Pem.write ⟨requestLabel,
    (Der.sign .marked rootKey (SigningRequest.bodyOf [] rootKey.publicKey []) ⟨[], 0⟩).1⟩

/-- The holder signs a leaf without a name, if its own name is short. -/
lemma exists_sign_bare {subject name : DistinguishedName}
    (hheld : (foreignCertificate subject).HeldBy (foreignSigner subject).certificate)
    (hname : subject.copy? = some name) (hlength : name.encode.length ≤ 500) :
    loadIssuer (foreignSigner subject) = .ok ⟨name, [1, 2, 3, 4], rootKey⟩ ∧ ∃ text e',
      sign .marked ⟨0, 0⟩ ⟨bareRequest, [], 3600⟩ (foreignSigner subject) ⟨[], 0⟩ =
        .ok (text, e') := by
  have hissuer : loadIssuer (foreignSigner subject) = .ok ⟨name, [1, 2, 3, 4], rootKey⟩ :=
    loadIssuer_eq_ok hheld ofPem?_rootKey hname (by rfl)
  have hrequest : loadRequest .marked bareRequest = .ok ⟨[], rootKey.publicKey, []⟩ :=
    loadRequest_eq_ok (by decide +kernel)
  have hextensions := @length_leafExtensions_le ⟨name, [1, 2, 3, 4], rootKey⟩
    ⟨[], rootKey.publicKey, []⟩ [] (-300, 3600) 0 (show 4 ≤ 20 by decide)
  have hkey : rootKey.publicKey.encoded.length = 44 := by decide
  have hempty : (DistinguishedName.encode []).length +
      ((Extension.ofAltNames [] []).flatMap Extension.encode).length = 2 := by decide
  have hshort : (leafDraft ⟨name, [1, 2, 3, 4], rootKey⟩ ⟨[], rootKey.publicKey, []⟩ []
      (-300, 3600) 0).IsShort rootKey := by
    refine ⟨rfl, ?_⟩
    simp only [leafDraft] at hextensions ⊢
    omega
  exact ⟨hissuer, _, _,
    sign_of_short Suite.modest_marked hissuer hrequest rfl window_hour hshort _⟩

/-- A subject with a country and a domain, in two kinds of strings. -/
def countrySubject : DistinguishedName :=
  [[⟨Attribute.country, Der.printableString, .ofText "BE"⟩],
    [⟨[0x09, 0x92, 0x26, 0x89, 0x93, 0xf2, 0x2c, 0x64, 0x01, 0x19], Der.ia5String,
      .ofText "lab"⟩]]

lemma heldBy_country :
    (foreignCertificate countrySubject).HeldBy (foreignSigner countrySubject).certificate := by
  have hname : countrySubject.WellFormed :=
    show ∀ set ∈ countrySubject, set ≠ [] ∧ ∀ a ∈ set, Der.IsShort a.tag by decide
  exact heldBy_unsigned ⟨hname, hname, ⟨_, _, wellFormed_algorithm rootKey, rfl⟩, rfl⟩ (by decide)
    (by decide)

/-- It signs a leaf, and the leaf is found to be its own. -/
theorem country_issues_leaf : ∃ text e', Suite.marked.Reliable ∧
    sign .marked ⟨0, 0⟩ ⟨bareRequest, [], 3600⟩ (foreignSigner countrySubject) ⟨[], 0⟩ =
      .ok (text, e') ∧
    (foreignCertificate countrySubject).key.IsHalfOf rootKey ∧
    Certificate.checkIssuedBy .marked text (foreignSigner countrySubject).certificate = .ok () := by
  obtain ⟨-, text, e', hsign⟩ :=
    @exists_sign_bare countrySubject countrySubject heldBy_country (by rfl) (by decide)
  have hhalf : (foreignCertificate countrySubject).key.IsHalfOf rootKey := ⟨rfl, rfl⟩
  obtain ⟨block, authority, key, hblock, hauthority, hkey, hiff⟩ :=
    checkIssuedBy_iff .marked Suite.reliable_marked _ _ _ _ _ _ hsign
  obtain ⟨document, hpem, hread⟩ := heldBy_country
  obtain rfl := Option.some.inj (hpem.symm.trans hblock)
  obtain rfl := Option.some.inj (hread.symm.trans hauthority)
  obtain rfl := Option.some.inj (ofPem?_rootKey.symm.trans hkey)
  exact ⟨text, e', Suite.reliable_marked, hsign, hhalf, (hiff hhalf).mpr ⟨rfl, by decide⟩⟩

/-- A subject with two units. -/
def unitsSubject : DistinguishedName :=
  [[.ofText Attribute.unit "red"], [.ofText Attribute.unit "blue"]]

lemma heldBy_units :
    (foreignCertificate unitsSubject).HeldBy (foreignSigner unitsSubject).certificate := by
  have hname : unitsSubject.WellFormed :=
    show ∀ set ∈ unitsSubject, set ≠ [] ∧ ∀ a ∈ set, Der.IsShort a.tag by decide
  exact heldBy_unsigned ⟨hname, hname, ⟨_, _, wellFormed_algorithm rootKey, rfl⟩, rfl⟩ (by decide)
    (by decide)

/-- It signs a leaf, and the leaf names another issuer. -/
theorem units_disown_leaf : ∃ text e',
    sign .marked ⟨0, 0⟩ ⟨bareRequest, [], 3600⟩ (foreignSigner unitsSubject) ⟨[], 0⟩ =
      .ok (text, e') ∧
    Certificate.ofPem (foreignSigner unitsSubject).certificate =
      .ok (foreignCertificate unitsSubject) ∧
    SecretKey.ofPem? (foreignSigner unitsSubject).key = some rootKey ∧
    (foreignCertificate unitsSubject).key = rootKey.publicKey ∧
    Certificate.checkIssuedBy .marked text (foreignSigner unitsSubject).certificate =
      .error (.issuerMismatch "OU=blue" "OU=red, OU=blue") := by
  obtain ⟨hissuer, text, e', hsign⟩ :=
    @exists_sign_bare _ [[.ofText Attribute.unit "blue"]] heldBy_units (by rfl) (by decide)
  obtain ⟨leaf, issuer, accepted, names, validity, hsettled⟩ := exists_settled hsign
  obtain rfl := Except.ok.inj (hissuer.symm.trans hsettled.loadIssuer)
  have hmismatch : Certificate.checkIssuerName leaf (foreignCertificate unitsSubject) =
      .error (.issuerMismatch "OU=blue" "OU=red, OU=blue") := by
    rw [Certificate.checkIssuerName, hsettled.issuer_eq]
    decide
  obtain ⟨leafBytes, hleafBytes, hleafRead⟩ := hsettled.held.exists_bytes
  obtain ⟨rootBytes, hrootBytes, hrootRead⟩ := heldBy_units.exists_bytes
  refine ⟨text, e', hsign, heldBy_units.ofPem_eq, ofPem?_rootKey, rfl, ?_⟩
  rw [Certificate.checkIssuedBy, hleafBytes, hrootBytes]
  simp only [bind, Except.bind, hleafRead, hrootRead, hmismatch]

end Issuance

end LabTrust
