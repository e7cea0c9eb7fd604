/-
Alternative names are read back.

* `AltName.IsGiven`: the kinds of names that certificates are given, from hosts or from a request.
* `AltName.readList?_encodeList`: what is read of the extension that they are written in.
* `Certificate.altNames?_ofAltNames`: a certificate whose other extensions are not about names says
  the names that it was given.
* `AltName.forall₂_shownAs`: the names of hosts are shown as the hosts.
-/
import LabTrust.Certificate.SigningRequest
import LabTrust.Proofs.Certificate.Parts
import LabTrust.Proofs.Host

namespace LabTrust

open Der (element length_lt_element readTag?_element)

namespace AltName

/-- The kinds of names that certificates are given. -/
def IsGiven : AltName → Prop
  | directory _ | unknown _ _ => False
  | _ => True

lemma encode_ne_nil (n : AltName) : n.encode ≠ [] := by
  cases n <;> exact Der.element_ne_nil _ _

lemma read?_encode {n : AltName} (hn : n.IsGiven) (h : n.encode.length < UInt64.size)
    (rest : Bytes) : read? (n.encode ++ rest) = some (n, rest) := by
  -- a name is one element, and the tag of this element says how to read its content
  have helement : ∀ {tag : UInt8} {content : Bytes}, Der.IsShort tag →
      (element tag content).length < UInt64.size → ofElement? ⟨tag, content⟩ = some n →
        read? (element tag content ++ rest) = some (n, rest) := by
    intro tag content htag hlength hname
    have hcontent := length_lt_element tag content
    rw [read?, Der.read?_short htag (by omega)]
    simp only [Option.bind_eq_bind, Option.bind_some, hname]
    rfl
  cases n with
  | other id rest' =>
      refine helement (by decide) h ?_
      have hcontent := length_lt_element (Der.contextParts 0) (element Der.objectId id ++ rest')
      have hid := length_lt_element Der.objectId id
      rw [List.length_append] at hcontent
      rw [encode] at h
      have hread : Der.readTag? Der.objectId (element Der.objectId id ++ rest') =
          some (id, rest') :=
        readTag?_element (by decide) (by omega) rest'
      simp [ofElement?, Der.contextParts, hread]
  | email s => exact helement (by decide) h (by simp [ofElement?, Der.context, Bytes.text?_ofText])
  | dns s => exact helement (by decide) h (by simp [ofElement?, Der.context, Bytes.text?_ofText])
  | directory n => exact hn.elim
  | uri s => exact helement (by decide) h (by simp [ofElement?, Der.context, Bytes.text?_ofText])
  | address octets => exact helement (by decide) h (by simp [ofElement?, Der.context])
  | unknown tag content => exact hn.elim

lemma readList?_encodeList {names : List AltName} (hnames : ∀ n ∈ names, n.IsGiven)
    (h : (encodeList names).length < UInt64.size) : readList? (encodeList names) = some names := by
  have hrow := length_lt_element Der.sequence (names.flatMap encode)
  rw [encodeList] at h
  have hread : ∀ n ∈ names, ∀ rest, read? (n.encode ++ rest) = some (n, rest) := by
    intro n hn rest
    have hlength := Der.length_le_of_mem encode hn
    exact read?_encode (hnames n hn) (by omega) rest
  have hall := Der.all?_flatMap (by rfl) hread fun n _ => n.encode_ne_nil
  rw [readList?, encodeList, Der.readTag?_last (by decide) (by omega)]
  exact hall

/-! ### Names of hosts -/

lemma isGiven_of_ofHost? {host : String} {n : AltName} (h : ofHost? host = some n) : n.IsGiven := by
  rw [ofHost?] at h
  split at h
  · exact Option.some.inj h ▸ trivial
  · split at h
    · exact Option.some.inj h ▸ trivial
    · exact absurd h (by simp)

lemma isGiven_of_forall₂ {hosts : List String} {names : List AltName}
    (h : List.Forall₂ (fun host n => ofHost? host = some n) hosts names) :
    ∀ n ∈ names, n.IsGiven := by
  intro n hn
  obtain ⟨i, hi, rfl⟩ := List.getElem_of_mem hn
  exact isGiven_of_ofHost? (h.get (h.length_eq ▸ hi) hi)

/-- The name of a host is shown as the host, an address by its text. -/
lemma shownAs_of_ofHost? {host : String} {n : AltName} (h : ofHost? host = some n) :
    ∃ shown, n.shown? = some shown ∧ Host.ShownAs host shown := by
  rw [ofHost?] at h
  split at h
  · next octets hoctets =>
    obtain rfl := Option.some.inj h
    obtain ⟨text, htext⟩ := Host.exists_addressText? hoctets
    refine ⟨text, htext, ?_⟩
    rw [Host.ShownAs, hoctets]
    exact ⟨htext, Host.address?_addressText? htext⟩
  · next hnone =>
    split at h
    · obtain rfl := Option.some.inj h
      refine ⟨host, rfl, ?_⟩
      rw [Host.ShownAs, hnone]
    · exact absurd h (by simp)

/-- The names of hosts are shown as the hosts, one for one. -/
lemma forall₂_shownAs {hosts : List String} {names : List AltName}
    (h : List.Forall₂ (fun host n => ofHost? host = some n) hosts names) :
    List.Forall₂ Host.ShownAs hosts (names.filterMap shown?) := by
  induction h with
  | nil => exact .nil
  | cons hn _ ih =>
      obtain ⟨shown, hshown, hhost⟩ := shownAs_of_ofHost? hn
      rw [List.filterMap_cons, hshown]
      exact .cons hhost ih

/-! ### Names of requests -/

/-- A name that is taken over stays as it is. -/
lemma eq_of_acceptName? {n m : AltName} (h : SigningRequest.acceptName? n = some m) :
    m = n ∧ n.IsGiven := by
  cases n <;> simp only [SigningRequest.acceptName?, Option.ite_none_right_eq_some,
    Option.some.injEq, reduceCtorEq] at h
  all_goals exact ⟨h.2.symm, trivial⟩

end AltName

/-! ### Names of certificates -/

/-- Where no other extension has the identifier, the one that has it is found. -/
lemma Extension.unique?_of_filter (id : Bytes) (before es after : List Extension)
    (hbefore : ∀ e ∈ before, e.id ≠ id) (hafter : ∀ e ∈ after, e.id ≠ id) :
    unique? id (before ++ es ++ after) = unique? id es := by
  have hnone : ∀ l : List Extension, (∀ e ∈ l, e.id ≠ id) → l.filter (·.id = id) = [] := by
    intro l hl
    exact List.filter_eq_nil_iff.mpr fun e he => by simpa using hl e he
  rw [unique?, unique?, List.filter_append, List.filter_append, hnone _ hbefore, hnone _ hafter,
    List.nil_append, List.append_nil]

/-- An extension is found if no other one has its identifier. -/
lemma Extension.unique?_of_eq {extensions before after : List Extension} {e : Extension}
    (h : extensions = before ++ e :: after) (hbefore : ∀ x ∈ before, x.id ≠ e.id)
    (hafter : ∀ x ∈ after, x.id ≠ e.id) : unique? e.id extensions = .ok (some e) := by
  have hsingle : unique? e.id [e] = .ok (some e) := by simp [unique?]
  rw [h, ← List.singleton_append, ← List.append_assoc, unique?_of_filter _ _ _ _ hbefore hafter,
    hsingle]

/-- The extension with the names of hosts, if there is one. -/
lemma Extension.id_of_mem_ofAltNames {subject : DistinguishedName} {names : List AltName}
    {e : Extension} (he : e ∈ ofAltNames subject names) : e.id = altNames := by
  rw [ofAltNames] at he
  split at he
  · exact absurd he List.not_mem_nil
  · exact congrArg id (List.mem_singleton.mp he)

/-- A certificate says the names that it was given. -/
lemma Certificate.altNames?_ofAltNames {c : Certificate} {subject : DistinguishedName}
    {names : List AltName} (before after : List Extension)
    (hc : c.extensions = before ++ Extension.ofAltNames subject names ++ after)
    (hbefore : ∀ e ∈ before, e.id ≠ Extension.altNames)
    (hafter : ∀ e ∈ after, e.id ≠ Extension.altNames) (hnames : ∀ n ∈ names, n.IsGiven)
    (h : ∀ e ∈ c.extensions, e.value.length < UInt64.size) : c.altNames? = some names := by
  rw [altNames?, hc, Extension.unique?_of_filter _ _ _ _ hbefore hafter, Extension.ofAltNames]
  cases names with
  | nil => rfl
  | cons n rest =>
      have hlength := h ⟨Extension.altNames, subject.isEmpty, AltName.encodeList (n :: rest)⟩
        (by simp [hc, Extension.ofAltNames])
      exact AltName.readList?_encodeList hnames hlength

end LabTrust
