/-
Validated requests have a subject that says something.

Each further attribute of a type takes the place of the one before it, blank or not. But the last
attribute of a type stays, whatever comes after it. A common name has no other of its type, and the
last block of names is not blank, so one of its values is the last of its type and not blank.
* `DistinguishedName.mem_foldl_push`: the last attribute of a type stays.
* `Request.isUsable_subject`: so a validated request asks for a value that is not blank.
* `Extension.Tell`: one extension, not critical, says the names of hosts.
* `Issuance.validated_subject_is_usable`: what this means for requests that are built, for roots and
  for leaves.
-/
import LabTrust.Proofs.Certificate.Answered

namespace LabTrust

/-! ### Attributes that stay -/

namespace Attribute

variable {a b : Attribute} {kept : List Attribute}

lemma mem_push_self (a : Attribute) (kept : List Attribute) : a ∈ a.push kept := by
  induction kept with
  | nil => exact List.mem_singleton_self a
  | cons c rest ih =>
      rw [push]
      split
      · exact List.mem_cons_self
      · exact List.mem_cons_of_mem c ih

/-- Only an attribute of the same type gives way. -/
lemma mem_push_of_ne (hb : b ∈ kept) (hne : b.id ≠ a.id) : b ∈ a.push kept := by
  induction kept with
  | nil => exact absurd hb List.not_mem_nil
  | cons c rest ih =>
      rw [push]
      rcases List.mem_cons.mp hb with rfl | hb
      · rw [if_neg hne]
        exact List.mem_cons_self
      · split
        · exact List.mem_cons_of_mem a hb
        · exact List.mem_cons_of_mem c (ih hb)

end Attribute

namespace DistinguishedName

variable {a : Attribute} {before after kept : List Attribute}

lemma mem_foldl_push_of_mem (ha : a ∈ kept) (h : ∀ b ∈ after, a.id ≠ b.id) :
    a ∈ after.foldl (fun kept a => a.push kept) kept := by
  induction after generalizing kept with
  | nil => exact ha
  | cons b rest ih =>
      have hstays := Attribute.mem_push_of_ne ha (h b List.mem_cons_self)
      exact ih hstays fun c hc => h c (List.mem_cons_of_mem b hc)

/-- The last attribute of a type stays. -/
lemma mem_foldl_push (h : ∀ b ∈ after, a.id ≠ b.id) :
    a ∈ (before ++ a :: after).foldl (fun kept a => a.push kept) kept := by
  rw [List.foldl_append, List.foldl_cons]
  exact mem_foldl_push_of_mem (Attribute.mem_push_self a _) h

/-- Some value of the name is a text that is not blank. -/
def IsUsable (n : DistinguishedName) : Prop :=
  ∃ set ∈ n, ∃ a ∈ set, ∃ s, a.valueText? = some s ∧ Text.blank s = false

lemma IsUsable.ne_nil {n : DistinguishedName} (h : n.IsUsable) : n ≠ [] := by
  obtain ⟨set, hset, -⟩ := h
  exact List.ne_nil_of_mem hset

end DistinguishedName

/-! ### Subjects of requests -/

lemma Text.ne_empty_of_blank {s : String} (h : Text.blank s = false) : s ≠ "" := by
  rintro rfl
  exact absurd h (by decide)

/-- A block of names that is not blank has a value that is not. No later value of the block has the
same type. -/
lemma SubjectNames.exists_row {n : SubjectNames} (h : n.isEmpty = false) :
    ∃ before after id s, n.attributes = before ++ (id, s) :: after ∧ (∀ x ∈ after, id ≠ x.1) ∧
      Text.blank s = false := by
  have hvalues : n.values = n.attributes.map Prod.snd := rfl
  obtain ⟨s, hs, hblank⟩ := List.all_eq_false.mp h
  rw [hvalues] at hs
  obtain ⟨⟨id, _⟩, hmem, rfl⟩ := List.mem_map.mp hs
  obtain ⟨before, after, hsplit⟩ := List.append_of_mem hmem
  have hnodup : (n.attributes.map Prod.fst).Nodup :=
    show [Attribute.country, Attribute.state, Attribute.locality, Attribute.organization,
      Attribute.unit].Nodup by decide
  rw [hsplit, List.map_append, List.map_cons] at hnodup
  have hrest := (List.nodup_cons.mp (List.nodup_append.mp hnodup).2.1).1
  exact ⟨before, after, id, _, hsplit, fun x hx heq => hrest (List.mem_map.mpr ⟨x, hx, heq.symm⟩),
    by simpa using hblank⟩

/-- No value of a block of names is a common name. -/
lemma SubjectNames.ne_of_mem_attributes {n : SubjectNames} {x : Bytes × String}
    (hx : x ∈ n.attributes) : Attribute.commonName ≠ x.1 := by
  have htypes : Attribute.commonName ∉ n.attributes.map Prod.fst :=
    show Attribute.commonName ∉ [Attribute.country, Attribute.state, Attribute.locality,
      Attribute.organization, Attribute.unit] by decide
  exact fun heq => htypes (heq ▸ List.mem_map_of_mem hx)

namespace Request

variable {r : Request}

/-- What a request gives for its subject, in order, with what is left out. -/
def rows (r : Request) : List (Bytes × String) :=
  (Attribute.commonName, r.commonName) :: r.names.flatMap SubjectNames.attributes

/-- The last value of a type gets into the subject, unless it is empty. -/
lemma mem_subject_of_rows {before after : List (Bytes × String)} {id : Bytes} {s : String}
    (hrows : r.rows = before ++ (id, s) :: after) (hafter : ∀ x ∈ after, id ≠ x.1) (hs : s ≠ "") :
    [Attribute.ofText id s] ∈ r.subject := by
  have hattributes : r.attributes =
      (before.filter (·.2 ≠ "")).map (fun x => Attribute.ofText x.1 x.2) ++
        .ofText id s :: (after.filter (·.2 ≠ "")).map (fun x => Attribute.ofText x.1 x.2) := by
    rw [attributes, ← rows, hrows, List.filter_append, List.filter_cons_of_pos (by simpa using hs),
      List.map_append, List.map_cons]
  rw [subject, hattributes, DistinguishedName.ofAttributes]
  refine List.mem_map_of_mem (DistinguishedName.mem_foldl_push fun b hb => ?_)
  obtain ⟨x, hx, rfl⟩ := List.mem_map.mp hb
  exact hafter x (List.mem_filter.mp hx).1

/-- What is found good of a request whose common name is blank. -/
lemma names_of_validate (h : r.validate = .ok ()) (hblank : Text.blank r.commonName = true) :
    r.names ≠ [] ∧ ∀ n ∈ r.names, n.isEmpty = false := by
  obtain ⟨-, -, h⟩ := Except.bind_eq_ok_iff.mp h
  rw [hblank] at h
  simp only [Bool.not_true, Bool.false_eq_true, if_false] at h
  split at h
  · simp at h
  · next hne =>
    split at h
    · simp at h
    · next hany =>
      rw [Bool.not_eq_true, List.any_eq_false] at hany
      exact ⟨fun hnil => hne (hnil ▸ rfl), fun n hn => Bool.not_eq_true _ ▸ hany n hn⟩

/-- A value of a validated request is not blank and the last of its type. -/
lemma exists_row_of_validate (h : r.validate = .ok ()) :
    ∃ before after id s, r.rows = before ++ (id, s) :: after ∧ (∀ x ∈ after, id ≠ x.1) ∧
      Text.blank s = false := by
  cases hblank : Text.blank r.commonName with
  | false =>
      refine ⟨[], _, _, _, rfl, fun x hx => ?_, hblank⟩
      obtain ⟨n, -, hx⟩ := List.mem_flatMap.mp hx
      exact SubjectNames.ne_of_mem_attributes hx
  | true =>
      -- the last block of names has no block after it
      obtain ⟨hne, hnames⟩ := names_of_validate h hblank
      obtain ⟨first, last, hlast⟩ := (List.eq_nil_or_concat' r.names).resolve_left hne
      obtain ⟨before, after, id, s, hsplit, hafter, hs⟩ :=
        SubjectNames.exists_row (hnames last (by simp [hlast]))
      refine ⟨(Attribute.commonName, r.commonName) ::
        (first.flatMap SubjectNames.attributes ++ before), after, id, s, ?_, hafter, hs⟩
      rw [rows, hlast, List.flatMap_append, List.flatMap_singleton, hsplit, List.cons_append,
        List.append_assoc]

/-- The subject of a validated request says something. -/
lemma isUsable_subject (h : r.validate = .ok ()) : r.subject.IsUsable := by
  obtain ⟨before, after, id, s, hrows, hafter, hs⟩ := exists_row_of_validate h
  have hmem := mem_subject_of_rows hrows hafter (Text.ne_empty_of_blank hs)
  exact ⟨_, hmem, _, List.mem_singleton_self _, s, Attribute.valueText?_ofText id s, hs⟩

end Request

/-! ### Names of hosts -/

/-- If there are hosts, one extension says their names, and it is not critical. -/
def Extension.Tell (extensions : List Extension) (hosts : List String) : Prop :=
  hosts ≠ [] → ∃ x names, extensions.filter (·.id = altNames) = [x] ∧ x.critical = false ∧
    AltName.readList? x.value = some names ∧
    List.Forall₂ (fun host n => AltName.ofHost? host = some n) hosts names

/-- Extensions that are written for a subject tell the hosts, if the subject is not empty. -/
lemma Extension.tell_of_eq {extensions : List Extension} {hosts : List String}
    {subject : DistinguishedName} {names : List AltName} (before after : List Extension)
    (h : extensions = before ++ ofAltNames subject names ++ after)
    (hbefore : ∀ x ∈ before, x.id ≠ altNames) (hafter : ∀ x ∈ after, x.id ≠ altNames)
    (hsubject : subject ≠ [])
    (hhosts : List.Forall₂ (fun host n => AltName.ofHost? host = some n) hosts names)
    (hfits : ∀ x ∈ extensions, x.value.length < UInt64.size) : Tell extensions hosts := by
  intro hne
  have hnone : ∀ l : List Extension, (∀ x ∈ l, x.id ≠ altNames) →
      l.filter (·.id = altNames) = [] :=
    fun l hl => List.filter_eq_nil_iff.mpr fun x hx => by simpa using hl x hx
  have hnames : names.isEmpty = false := by
    cases hhosts with
    | nil => exact absurd rfl hne
    | cons _ _ => rfl
  have hone : ofAltNames subject names =
      [⟨altNames, subject.isEmpty, AltName.encodeList names⟩] := by
    rw [ofAltNames, hnames]
    rfl
  refine ⟨⟨altNames, subject.isEmpty, AltName.encodeList names⟩, names, ?_,
    List.isEmpty_eq_false_iff.mpr hsubject, ?_, hhosts⟩
  · rw [h, List.filter_append, List.filter_append, hnone _ hbefore, hnone _ hafter, hone]
    rfl
  · refine AltName.readList?_encodeList (AltName.isGiven_of_forall₂ hhosts) ?_
    exact hfits ⟨altNames, subject.isEmpty, AltName.encodeList names⟩ (by simp [h, hone])

/-! ### What is made of validated requests -/

/-- The subject that is taken over from a request is a copy of its own. -/
lemma SigningRequest.copy?_of_accept? {suite : Suite} {r : SigningRequest} {a : AcceptedRequest}
    (h : r.accept? suite = some a) : r.subject.copy? = some a.subject := by
  obtain ⟨scheme, -, h⟩ := Option.bind_eq_some_iff.mp h
  split at h
  · exact absurd h (by simp)
  · obtain ⟨algorithm, -, h⟩ := Option.bind_eq_some_iff.mp h
    obtain ⟨subject, hsubject, h⟩ := Option.bind_eq_some_iff.mp h
    obtain ⟨names, -, h⟩ := Option.bind_eq_some_iff.mp h
    obtain rfl := Option.some.inj h
    exact hsubject

namespace Issuance

variable {suite suite' : Suite} {now : Instant} {request : Request} {keyText text csr : String}
  {order : SigningOrder} {signer : Signer} {e e' e₁ e₁' : Entropy}

lemma Built.tell {key : SecretKey} {names : List AltName}
    (h : Built suite request keyText e text key names) (hsubject : request.subject ≠ []) :
    Extension.Tell (Extension.ofAltNames request.subject names) request.hosts :=
  Extension.tell_of_eq [] [] (by simp) (by simp) (by simp) hsubject h.hosts
    fun _ hx => (SigningRequest.length_value_lt_attributes hx).trans h.fits.attributes

lemma SelfSigned.tell {root : Certificate} {key : SecretKey} {names : List AltName}
    (h : SelfSigned suite now request keyText text root key names)
    (hsubject : request.subject ≠ []) : Extension.Tell root.extensions request.hosts := by
  refine Extension.tell_of_eq [] _ h.extensions (by simp) ?_ hsubject h.hosts h.fits
  refine List.forall_mem_cons.mpr
    ⟨?_, List.forall_mem_cons.mpr ⟨?_, List.forall_mem_singleton.mpr ?_⟩⟩
  · exact show Extension.keyUsage ≠ Extension.altNames by decide
  · exact show Extension.subjectKeyId ≠ Extension.altNames by decide
  · exact show Extension.basicConstraints ≠ Extension.altNames by decide

lemma Settled.tell {leaf : Certificate} {issuer : Issuer} {accepted : AcceptedRequest}
    {names : List AltName} {validity : Int × Int} {hosts : List String}
    (h : Settled suite now order signer text leaf issuer accepted names validity)
    (hsubject : accepted.subject ≠ [])
    (hhosts : List.Forall₂ (fun host n => AltName.ofHost? host = some n) hosts names) :
    Extension.Tell leaf.extensions hosts := by
  obtain ⟨serial, message, e, rfl, -⟩ := h.read
  refine Extension.tell_of_eq [.ofAuthorityKey issuer.keyId] [.leafUsage, .leafPurposes] rfl
    (fun x hx => ?_) (by decide) hsubject hhosts h.fits
  obtain rfl := List.mem_singleton.mp hx
  exact show Extension.authorityKeyId ≠ Extension.altNames by decide

/-- A leaf takes its subject over from a request that was built, and its hosts from the order, or
from the request if the order gives none. -/
lemma exists_leaf_of_built (hbuild : buildRequest suite' request keyText e₁ = .ok (csr, e₁'))
    (hsign : sign suite now order signer e = .ok (text, e')) (horder : order.request = csr)
    (hsubject : request.subject ≠ []) :
    ∃ leaf, Certificate.ofPem text = .ok leaf ∧ leaf.subject = request.subject ∧
      Extension.Tell leaf.extensions (if order.hosts = [] then request.hosts else order.hosts) := by
  subst horder
  obtain ⟨key, asked, hbuilt⟩ := exists_built hbuild
  obtain ⟨leaf, issuer, accepted, names, validity, hsettled⟩ := exists_settled hsign
  obtain ⟨r, hr, haccept⟩ := exists_request_of_loadRequest hsettled.loadRequest
  obtain rfl := Option.some.inj (hbuilt.ofText?_eq.symm.trans hr)
  have hcopy : request.subject.copy? = some accepted.subject :=
    SigningRequest.copy?_of_accept? haccept
  have hname : accepted.subject = request.subject :=
    Option.some.inj (hcopy.symm.trans request.copy?_subject)
  have hnames : List.Forall₂ (fun host n => AltName.ofHost? host = some n)
      (if order.hosts = [] then request.hosts else order.hosts) names := by
    have hhosts := hsettled.hosts
    split at hhosts
    · next hempty =>
      obtain ⟨-, htaken, -, -⟩ := SigningRequest.accept?_eq_some haccept
      have hasked := SigningRequest.altNames?_ofParts (AltName.isGiven_of_forall₂ hbuilt.hosts)
        hbuilt.fits
      rw [if_pos hempty, hhosts, Option.some.inj (htaken.symm.trans hasked)]
      exact hbuilt.hosts
    · next hne => rwa [if_neg hne]
  have hsame : leaf.subject = accepted.subject := by
    obtain ⟨serial, message, e, rfl, -⟩ := hsettled.read
    rfl
  exact ⟨leaf, hsettled.held.ofPem_eq, hsame.trans hname,
    hsettled.tell (hname ▸ hsubject) hnames⟩

/-- The subject of a validated request has a value that is not blank, however many blocks of names
the request has and however their values replace each other. Each text that is built from the
request has this subject, each root that is made for it, and each leaf that is signed for such a
text, by whichever signer; and if there are hosts, one extension says their names, and it is not
critical. -/
theorem validated_subject_is_usable (request : Request) (hvalid : request.validate = .ok ()) :
    request.subject.IsUsable ∧
    (∀ suite keyText e csr e', buildRequest suite request keyText e = .ok (csr, e') →
      ∃ r, SigningRequest.ofText? csr = some r ∧ r.subject = request.subject ∧
        Extension.Tell r.extensions request.hosts) ∧
    (∀ suite now keyText e text e', selfSign suite now request keyText e = .ok (text, e') →
      ∃ root, Certificate.ofPem text = .ok root ∧ root.subject = request.subject ∧
        Extension.Tell root.extensions request.hosts) ∧
    ∀ suite suite' now keyText e csr e' hosts lifetime signer e₁ text e₁',
      buildRequest suite request keyText e = .ok (csr, e') →
      sign suite' now ⟨csr, hosts, lifetime⟩ signer e₁ = .ok (text, e₁') →
      ∃ leaf, Certificate.ofPem text = .ok leaf ∧ leaf.subject = request.subject ∧
        Extension.Tell leaf.extensions (if hosts = [] then request.hosts else hosts) := by
  have husable := Request.isUsable_subject hvalid
  refine ⟨husable, fun suite keyText e csr e' hbuild => ?_,
    fun suite now keyText e text e' hself => ?_, ?_⟩
  · obtain ⟨key, names, hbuilt⟩ := exists_built hbuild
    exact ⟨_, hbuilt.ofText?_eq, rfl, hbuilt.tell husable.ne_nil⟩
  · obtain ⟨root, key, names, hroot⟩ := exists_selfSigned hself
    exact ⟨root, hroot.held.ofPem_eq, hroot.subject, hroot.tell husable.ne_nil⟩
  · intro suite suite' now keyText e csr e' hosts lifetime signer e₁ text e₁' hbuild hsign
    exact exists_leaf_of_built hbuild hsign rfl husable.ne_nil

/-- A request whose blocks of names replace most of each other, with blanks among them. -/
def patchyRequest : Request where
  commonName := " "
  names := [{ country := "BE", organization := "Nokia" },
    { country := " ", locality := "Antwerp", organization := "\t" }]
  hosts := ["r1", "10.0.0.1"]
  authority := some { expiry := "1h" }

/-- The names of its hosts. -/
def patchyNames : List AltName := [.dns "r1", .address [10, 0, 0, 1]]

/-- The text that is built from it. -/
def patchyText : String :=
  Pem.write ⟨requestLabel, (Der.sign .spelled rootKey
    (SigningRequest.bodyOf patchyRequest.subject rootKey.publicKey patchyNames) ⟨[], 0⟩).1⟩

set_option maxRecDepth 1000 in
lemma built_patchy :
    Built .spelled patchyRequest rootKey.toPem ⟨[], 0⟩ patchyText rootKey patchyNames := by
  have hnames : altNames .requestBuild patchyRequest.hosts = .ok patchyNames := by decide
  exact built_of_short Suite.modest_spelled ofPem?_rootKey hnames (by decide) _

/-- A root is made for it. -/
lemma exists_selfSign_patchy : ∃ text e',
    selfSign .spelled ⟨0, 0⟩ patchyRequest rootKey.toPem ⟨[], 0⟩ = .ok (text, e') := by
  have hnames : altNames .selfSigning patchyRequest.hosts = .ok patchyNames := by decide
  have hlifetime : patchyRequest.authorityExpiry = .ok 3600 := by decide
  exact ⟨_, _, selfSign_of_short Suite.modest_spelled ofPem?_rootKey hnames hlifetime window_hour
    (by decide) _⟩

/-- A leaf is signed for the text, for another host. -/
lemma exists_sign_patchy : ∃ text e',
    sign .spelled ⟨0, 0⟩ ⟨patchyText, ["r2"], 3600⟩ rootSigner ⟨[], 0⟩ = .ok (text, e') := by
  have hrequest := loadRequest_of_built Suite.sound_spelled built_patchy
  have hnames : (if ["r2"].isEmpty then pure patchyNames else altNames .signing ["r2"]) =
      .ok [.dns "r2"] := by decide
  exact ⟨_, _, sign_of_short Suite.modest_spelled loadIssuer_rootSigner hrequest hnames window_hour
    (by decide) _⟩

/-- One value of it is left that is not blank. The root and the leaf have it in their subjects, and
tell their hosts. -/
theorem patchy_subject_is_usable : ∃ text e' root text₁ e₁' leaf,
    patchyRequest.validate = .ok () ∧ patchyRequest.subject.IsUsable ∧
      selfSign .spelled ⟨0, 0⟩ patchyRequest rootKey.toPem ⟨[], 0⟩ = .ok (text, e') ∧
      Certificate.ofPem text = .ok root ∧ root.subject = patchyRequest.subject ∧
      Extension.Tell root.extensions ["r1", "10.0.0.1"] ∧
      sign .spelled ⟨0, 0⟩ ⟨patchyText, ["r2"], 3600⟩ rootSigner ⟨[], 0⟩ = .ok (text₁, e₁') ∧
      Certificate.ofPem text₁ = .ok leaf ∧ leaf.subject = patchyRequest.subject ∧
      Extension.Tell leaf.extensions ["r2"] := by
  have hvalid : patchyRequest.validate = .ok () := by decide
  obtain ⟨husable, -, hroots, hleaves⟩ := validated_subject_is_usable patchyRequest hvalid
  obtain ⟨text, e', hself⟩ := exists_selfSign_patchy
  obtain ⟨text₁, e₁', hsign⟩ := exists_sign_patchy
  obtain ⟨root, hroot⟩ := hroots _ _ _ _ _ _ hself
  obtain ⟨leaf, hleaf⟩ := hleaves _ _ _ _ _ _ _ _ _ _ _ _ _ built_patchy.buildRequest_eq hsign
  exact ⟨text, e', root, text₁, e₁', leaf, hvalid, husable, hself, hroot.1, hroot.2.1, hroot.2.2,
    hsign, hleaf.1, hleaf.2.1, hleaf.2.2⟩

end Issuance

end LabTrust
